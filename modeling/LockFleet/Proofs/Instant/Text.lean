import LockFleet.Instant.Text
import LockFleet.Proofs.Instant.Calendar
import LockFleet.Proofs.Text.Blank
import LockFleet.Proofs.Text.Decimal

/-!
This module contains the proof that an instant of a year of four digits is read of its text, unless it lies
in a leap second.
-/

namespace LockFleet.Instant

open LockFleet.Calendar
open LockFleet.Text (paddedNumeral)

structure IsPlain (t : Instant) : Prop where
  year_nonneg : 0 ≤ (Date.ofDayNumber (t.second / 86400)).year
  year_le : (Date.ofDayNumber (t.second / 86400)).year ≤ 9999
  nanosecond_lt : t.nanosecond < nanosecondsPerSecond

variable {n width : Nat}

theorem isBlank_of_isDigit {c : Char} (h : c.isDigit = true) : Text.isBlank c = false := by
  rw [Char.isDigit, Bool.and_eq_true, decide_eq_true_eq, decide_eq_true_eq] at h
  exact Text.isBlank_eq_false_of_digit h.1 h.2

theorem exists_paddedNumeral_eq_cons (width n : Nat) :
    ∃ c rest, c.isDigit = true ∧ paddedNumeral width n = c :: rest := by
  obtain ⟨c, rest, hdigits⟩ := List.exists_cons_of_ne_nil (Text.paddedNumeral_ne_nil width n)
  have hc : c ∈ paddedNumeral width n := by
    rw [hdigits]
    exact List.mem_cons_self
  exact ⟨c, rest, Text.isDigit_of_mem_paddedNumeral hc, hdigits⟩

theorem trimStart_paddedNumeral (width n : Nat) (rest : List Char) :
    Text.trimStart (paddedNumeral width n ++ rest) = paddedNumeral width n ++ rest := by
  obtain ⟨c, digits, hc, hdigits⟩ := exists_paddedNumeral_eq_cons width n
  rw [hdigits, List.cons_append]
  exact Text.trimStart_cons (isBlank_of_isDigit hc) _

theorem takeWhile_paddedNumeral (width n : Nat) (rest : List Char) :
    (paddedNumeral width n ++ rest).takeWhile Char.isDigit
      = paddedNumeral width n ++ rest.takeWhile Char.isDigit :=
  List.takeWhile_append_of_pos fun _ => Text.isDigit_of_mem_paddedNumeral

theorem readDigits_paddedNumeral (hwidth : 0 < width) (h : n < tenTo width) (rest : List Char) :
    readDigits width (paddedNumeral width n ++ rest) = some (n, rest) := by
  have hlength := Text.length_paddedNumeral hwidth h
  unfold readDigits
  rw [takeWhile_paddedNumeral, List.take_left' hlength]
  dsimp only
  rw [if_neg (Text.paddedNumeral_ne_nil width n), List.drop_left' rfl, Text.numeralValue_paddedNumeral]

theorem readField_paddedNumeral {least most : Nat} (hleast : least ≤ n) (hmost : n ≤ most)
    (h : n < 100) (rest : List Char) :
    readField least most (paddedNumeral 2 n ++ rest) = some (n, rest) := by
  unfold readField
  rw [trimStart_paddedNumeral, readDigits_paddedNumeral (by decide) h]
  exact if_pos ⟨hleast, hmost⟩

theorem readMark_cons {mark : Char} (h : Text.isBlank mark = false) (rest : List Char) :
    readMark mark (mark :: rest) = some rest := by
  unfold readMark
  rw [Text.trimStart_cons h]
  exact if_pos rfl

theorem isYear_of_le {year : Int} (hleast : 0 ≤ year) (hmost : year ≤ 9999) : isYear year = true := by
  rw [isYear, Bool.and_eq_true, decide_eq_true_eq, decide_eq_true_eq]
  omega

theorem readYear_yearText {year : Int} (hleast : 0 ≤ year) (hmost : year ≤ 9999) (rest : List Char) :
    readYear (yearText year ++ rest) = some (year, rest) := by
  have hyear : year.natAbs < tenTo 4 := show year.natAbs < 10000 by omega
  have hdigits := readDigits_paddedNumeral (by decide) hyear rest
  obtain ⟨c, digits, hc, hnumeral⟩ := exists_paddedNumeral_eq_cons 4 year.natAbs
  have hsign : readYear (yearText year ++ rest)
      = ((readDigits 4 (paddedNumeral 4 year.natAbs ++ rest)).map fun r => ((r.1 : Int), r.2)).filter
          fun r => isYear r.1 := by
    unfold yearText readYear
    rw [if_pos ⟨hleast, hmost⟩, trimStart_paddedNumeral, hnumeral, List.cons_append]
    dsimp only
    split
    . next heq =>
      cases heq
      exact absurd hc (by decide)
    . next heq =>
      cases heq
      exact absurd hc (by decide)
    . rfl
  rw [hsign, hdigits, Option.map_some, Int.natAbs_of_nonneg hleast]
  exact Option.filter_some_pos (isYear_of_le hleast hmost)

theorem takeWhile_eq_nil {rest : List Char} (h : ∀ c ∈ rest.head?, c.isDigit = false) :
    rest.takeWhile Char.isDigit = [] := by
  cases rest with
  | nil => rfl
  | cons c rest =>
    rw [List.takeWhile_cons_of_neg]
    rw [h c rfl]
    exact Bool.false_ne_true

theorem readFraction_paddedNumeral (hwidth : 0 < width) (hmost : width ≤ 9) (h : n < tenTo width)
    {rest : List Char} (hrest : ∀ c ∈ rest.head?, c.isDigit = false) :
    readFraction ('.' :: paddedNumeral width n ++ rest) = some (n * tenTo (9 - width), rest) := by
  have hlength := Text.length_paddedNumeral hwidth h
  have htakeWhile : (paddedNumeral width n ++ rest).takeWhile Char.isDigit = paddedNumeral width n := by
    rw [takeWhile_paddedNumeral, takeWhile_eq_nil hrest, List.append_nil]
  unfold readFraction
  split
  . next heq =>
    cases heq
    dsimp only [List.append_eq]
    rw [htakeWhile, if_neg (Text.paddedNumeral_ne_nil width n), List.take_of_length_le (by omega), hlength,
      List.drop_left' hlength, Text.numeralValue_paddedNumeral]
  . next hpoint => exact absurd rfl (hpoint _)

theorem readFraction_fractionText (h : n < nanosecondsPerSecond) {rest : List Char}
    (hpoint : rest.head? ≠ some '.') (hrest : ∀ c ∈ rest.head?, c.isDigit = false) :
    readFraction (fractionText n ++ rest) = some (n, rest) := by
  change n < 1000000000 at h
  unfold fractionText
  split
  . next hzero =>
    rw [hzero, List.nil_append]
    unfold readFraction
    split
    . exact absurd rfl hpoint
    . rfl
  split
  . next hthree =>
    have hmilliseconds : n / 1000000 < tenTo 3 := show n / 1000000 < 1000 by omega
    rw [readFraction_paddedNumeral (by decide) (by decide) hmilliseconds hrest,
      show tenTo (9 - 3) = 1000000 by decide, Nat.div_mul_cancel (Nat.dvd_of_mod_eq_zero hthree)]
  split
  . next hsix =>
    have hmicroseconds : n / 1000 < tenTo 6 := show n / 1000 < 1000000 by omega
    rw [readFraction_paddedNumeral (by decide) (by decide) hmicroseconds hrest,
      show tenTo (9 - 6) = 1000 by decide, Nat.div_mul_cancel (Nat.dvd_of_mod_eq_zero hsix)]
  . have hnanoseconds : n < tenTo 9 := h
    rw [readFraction_paddedNumeral (by decide) (by decide) hnanoseconds hrest,
      show tenTo (9 - 9) = 1 by decide, Nat.mul_one]

theorem daysInMonth_le (year : Int) (month : Nat) : daysInMonth year month ≤ 31 := by
  unfold daysInMonth
  split
  . split <;> decide
  all_goals decide

theorem readDate_append {d : Date} (hvalid : d.isValid = true) (hleast : 0 ≤ d.year)
    (hmost : d.year ≤ 9999) (rest : List Char) :
    readDate (yearText d.year ++ '-' :: (paddedNumeral 2 d.month ++ '-' :: (paddedNumeral 2 d.day ++ rest)))
      = some (d, rest) := by
  have hdays := daysInMonth_le d.year d.month
  have hbounds := hvalid
  simp only [Date.isValid, Bool.and_eq_true, decide_eq_true_eq] at hbounds
  obtain ⟨⟨⟨hmonth, hmonth'⟩, hday⟩, hday'⟩ := hbounds
  have hreadMonth := readField_paddedNumeral hmonth hmonth' (by omega)
  have hreadDay := readField_paddedNumeral hday (Nat.le_trans hday' hdays) (by omega)
  have hreadMark := readMark_cons (show Text.isBlank '-' = false by decide)
  simp only [readDate, readYear_yearText hleast hmost, hreadMark, hreadMonth, hreadDay,
    Option.bind_eq_bind, Option.bind_some]
  exact if_pos hvalid

theorem readTime_append {hour minute second nanosecond : Nat} (hhour : hour ≤ 23) (hminute : minute ≤ 59)
    (hsecond : second ≤ 59) (hnanosecond : nanosecond < nanosecondsPerSecond) :
    readTime (paddedNumeral 2 hour ++ ':' :: (paddedNumeral 2 minute ++ ':' ::
        (paddedNumeral 2 second ++ (fractionText nanosecond ++ ['Z']))))
      = some ((3600 * hour + 60 * minute + second, nanosecond), ['Z']) := by
  have hreadHour := readField_paddedNumeral (Nat.zero_le hour) hhour (by omega)
  have hreadMinute := readField_paddedNumeral (Nat.zero_le minute) hminute (by omega)
  have hreadSecond : ∀ rest, readField 0 60 (paddedNumeral 2 second ++ rest) = some (second, rest) :=
    readField_paddedNumeral (Nat.zero_le second) (by omega) (by omega)
  have hreadMark := readMark_cons (show Text.isBlank ':' = false by decide)
  have hreadFraction : readFraction (fractionText nanosecond ++ ['Z']) = some (nanosecond, ['Z']) :=
    readFraction_fractionText hnanosecond (by decide) (by rintro _ ⟨⟩; rfl)
  simp only [readTime, hreadHour, hreadMinute, hreadSecond, hreadMark, hreadFraction,
    Option.bind_eq_bind, Option.bind_some]
  rw [if_neg (by omega), Nat.min_eq_left hsecond]

theorem ofText?_text {t : Instant} (h : t.IsPlain) : ofText? t.text = some t := by
  obtain ⟨second, nanosecond⟩ := t
  obtain ⟨hleast, hmost, hnanosecond⟩ := h
  dsimp only at hleast hmost hnanosecond
  generalize hsecondOfDay : (second % 86400).toNat = secondOfDay
  have hreadDate := readDate_append (Date.isValid_ofDayNumber (second / 86400)) hleast hmost
  have hhour : secondOfDay / 3600 ≤ 23 := by omega
  have hminute : secondOfDay / 60 % 60 ≤ 59 := by omega
  have hsecond : secondOfDay % 60 ≤ 59 := by omega
  have hreadTime := readTime_append hhour hminute hsecond hnanosecond
  have hreadOffset : readOffset (Text.trimStart ['Z']) = some (0, []) := by decide
  have hinstant : 86400 * (second / 86400)
      + (3600 * (secondOfDay / 3600) + 60 * (secondOfDay / 60 % 60) + secondOfDay % 60 : Nat) - 0
        = second := by
    omega
  simp only [text, hsecondOfDay, Nat.div_eq_of_lt hnanosecond, Nat.mod_eq_of_lt hnanosecond, Nat.add_zero,
    List.append_assoc, List.cons_append, ofText?, hreadDate, readSeparator, hreadTime, hreadOffset,
    Option.bind_eq_bind, Option.bind_some, Date.toDayNumber_ofDayNumber, hinstant]
  exact if_pos ⟨rfl, isYear_of_le hleast hmost⟩

end LockFleet.Instant
