import LockFleet.Instant.Calendar
import Mathlib.Tactic.IntervalCases

/-!
This module contains the proof that the date of a day exists in the calendar and has the number of that
day. The calendar is taken apart into cycles of 400 years, centuries, groups of four years, years and days.
-/

namespace LockFleet.Calendar

/--
A day that is counted from the 1st of March of the year 0, where years begin in March. A leap day ends the
last year of four, unless these end a century that is not the last one of its cycle.
-/
structure IsDay (cycle century four year day count : Int) : Prop where
  century_mem : 0 ≤ century ∧ century ≤ 3
  four_mem : 0 ≤ four ∧ four ≤ 24
  year_mem : 0 ≤ year ∧ year ≤ 3
  day_mem : 0 ≤ day ∧ day ≤ 365
  leap : day = 365 → year = 3 ∧ (four = 24 → century = 3)
  count_eq : count = 146097 * cycle + (36524 * century + (1461 * four + 365 * year + day))

variable {cycle century four year day count : Int}

theorem exists_isDay (count : Int) :
    ∃ cycle century four year day, IsDay cycle century four year day count := by
  let dayOfCycle := count % 146097
  let century := min (dayOfCycle / 36524) 3
  let dayOfCentury := dayOfCycle - 36524 * century
  let dayOfFour := dayOfCentury % 1461
  let year := min (dayOfFour / 365) 3
  have hcentury : 0 ≤ dayOfCentury ∧ dayOfCentury ≤ 36524 := by omega
  have hlast : dayOfCentury = 36524 → century = 3 := by omega
  refine ⟨count / 146097, century, dayOfCentury / 1461, year, dayOfFour - 365 * year, ?_⟩
  constructor <;> omega

namespace IsDay

theorem div_eq (h : IsDay cycle century four year day count) : count / 146097 = cycle := by
  obtain ⟨hcentury, hfour, hyear, hday, hleap, hcount⟩ := h
  omega

theorem mod_eq (h : IsDay cycle century four year day count) :
    count % 146097 = 36524 * century + (1461 * four + 365 * year + day) := by
  obtain ⟨hcentury, hfour, hyear, hday, hleap, hcount⟩ := h
  omega

theorem years_div_four (h : IsDay cycle century four year day count) :
    (100 * century + 4 * four + year) / 4 = 25 * century + four := by
  have hyear := h.year_mem
  omega

theorem years_div_hundred (h : IsDay cycle century four year day count) :
    (100 * century + 4 * four + year) / 100 = century := by
  have hfour := h.four_mem
  have hyear := h.year_mem
  omega

theorem years_div_cycle (h : IsDay cycle century four year day count) :
    (100 * century + 4 * four + year + 400 * cycle) / 400 = cycle := by
  obtain ⟨hcentury, hfour, hyear, -, -, -⟩ := h
  omega

theorem years_mod_cycle (h : IsDay cycle century four year day count) :
    (100 * century + 4 * four + year + 400 * cycle) % 400 = 100 * century + 4 * four + year := by
  obtain ⟨hcentury, hfour, hyear, -, -, -⟩ := h
  omega

theorem exists_div_eq (h : IsDay cycle century four year day count) :
    ∃ more, (36524 * century + (1461 * four + 365 * year + day)) / 1460 = 25 * century + four + more ∧
      0 ≤ day - more ∧ day - more < 365 := by
  obtain ⟨hcentury, hfour, hyear, hday, hleap, -⟩ := h
  -- The quotient counts the leap days so far, and one more towards the end of a leap year.
  refine ⟨(24 * century + four + 365 * year + day) / 1460, ?_⟩
  omega

theorem div_sub_div_eq (h : IsDay cycle century four year day count) :
    (36524 * century + (1461 * four + 365 * year + day)) / 36524
      - (36524 * century + (1461 * four + 365 * year + day)) / 146096 = century := by
  obtain ⟨hcentury, hfour, hyear, hday, hleap, -⟩ := h
  have hleast : 0 ≤ 1461 * four + 365 * year + day := by omega
  have hlast : 1461 * four + 365 * year + day ≤ 36524 := by omega
  have hcycle : 1461 * four + 365 * year + day = 36524 → century = 3 := by omega
  -- The first quotient is greater by one on the last day of a cycle, and so is the second one.
  generalize 1461 * four + 365 * year + day = d at hleast hlast hcycle ⊢
  omega

theorem yearOfCycle_eq (h : IsDay cycle century four year day count) {d : Int}
    (hd : d = 36524 * century + (1461 * four + 365 * year + day)) :
    (d - d / 1460 + d / 36524 - d / 146096) / 365 = 100 * century + 4 * four + year := by
  obtain ⟨more, hmore, hleast, hmost⟩ := h.exists_div_eq
  have hcenturies := h.div_sub_div_eq
  rw [← hd] at hmore hcenturies
  omega

theorem isLeapYear (h : IsDay cycle century four year day count) (hday : day = 365) :
    isLeapYear (100 * century + 4 * four + year + 400 * cycle + 1) = true := by
  obtain ⟨hyear, hlast⟩ := h.leap hday
  have hfour := h.four_mem
  have hcentury := h.century_mem
  simp only [Calendar.isLeapYear, Bool.and_eq_true, Bool.or_eq_true, beq_iff_eq, bne_iff_ne]
  omega

end IsDay

def monthOfYear (month : Nat) : Nat :=
  if month < 10 then month + 3 else month - 9

variable {month : Nat}

theorem monthOfYear_add_nine (h : month < 12) : (monthOfYear month + 9) % 12 = month := by
  unfold monthOfYear
  split <;> omega

theorem monthOfYear_le_two_iff : monthOfYear month ≤ 2 ↔ 10 ≤ month ∧ month < 12 := by
  unfold monthOfYear
  split <;> omega

theorem monthOfYear_mem (h : month < 12) : 1 ≤ monthOfYear month ∧ monthOfYear month ≤ 12 := by
  unfold monthOfYear
  split <;> omega

theorem daysInMonth_monthOfYear (h : month < 11) (year : Int) :
    daysInMonth year (monthOfYear month) = (153 * (month + 1) + 2) / 5 - (153 * month + 2) / 5 := by
  -- Five months have 153 days, up to the February that ends the year.
  interval_cases month <;> rfl

namespace Date

def ofDayOfYear (year day : Int) : Date :=
  let month := ((5 * day + 2) / 153).toNat
  { year := if month < 10 then year else year + 1
    month := monthOfYear month
    day := (day + 1).toNat - (153 * month + 2) / 5 }

theorem ofDayOfYear_eq (hleast : 0 ≤ day) (hmost : day ≤ 365) (year : Int) :
    ofDayOfYear year day =
      let month := (5 * day + 2) / 153
      let ordinal := if month < 10 then month + 3 else month - 9
      ⟨if ordinal ≤ 2 then year + 1 else year, ordinal.toNat,
        (day - (153 * month + 2) / 5 + 1).toNat⟩ := by
  obtain ⟨month, hmonth⟩ : ∃ month : Nat, (5 * day + 2) / 153 = month :=
    ⟨((5 * day + 2) / 153).toNat, by omega⟩
  have hlast : month < 12 := by omega
  have hday : (day + 1).toNat - (153 * month + 2) / 5
      = (day - (153 * (month : Int) + 2) / 5 + 1).toNat := by
    omega
  unfold ofDayOfYear monthOfYear
  dsimp only
  rw [hmonth, Int.toNat_natCast, hday]
  by_cases hearly : month < 10
  . rw [if_pos hearly, if_pos hearly, if_pos (by omega : (month : Int) < 10), if_neg (by omega)]
    rfl
  . rw [if_neg hearly, if_neg hearly, if_neg (by omega : ¬(month : Int) < 10), if_pos (by omega)]
    congr 1
    omega

theorem ofDayNumber_eq (h : IsDay cycle century four year day count) :
    ofDayNumber (count - 719468)
      = ofDayOfYear (100 * century + 4 * four + year + 400 * cycle) day := by
  have hdayOfYear : 36524 * century + (1461 * four + 365 * year + day)
      - (365 * (100 * century + 4 * four + year) + (25 * century + four) - century) = day := by
    omega
  unfold ofDayNumber
  dsimp only
  rw [Int.sub_add_cancel, h.div_eq, h.mod_eq, h.yearOfCycle_eq rfl, h.years_div_four,
    h.years_div_hundred, hdayOfYear]
  exact (ofDayOfYear_eq h.day_mem.1 h.day_mem.2 _).symm

theorem toDayNumber_ofDayOfYear (hleast : 0 ≤ day) (hmost : day ≤ 365) :
    (ofDayOfYear year day).toDayNumber
      = 146097 * (year / 400)
        + (365 * (year % 400) + year % 400 / 4 - year % 400 / 100 + day) - 719468 := by
  unfold ofDayOfYear toDayNumber
  dsimp only
  generalize hm : ((5 * day + 2) / 153).toNat = month
  have hmonth : month < 12 := by omega
  have hyear : (if monthOfYear month ≤ 2 then (if month < 10 then year else year + 1) - 1
      else if month < 10 then year else year + 1) = year := by
    have hiff : monthOfYear month ≤ 2 ↔ 10 ≤ month ∧ month < 12 := monthOfYear_le_two_iff
    split <;> split <;> omega
  have hback : ((monthOfYear month : Int) + 9) % 12 = month := by
    have h := monthOfYear_add_nine hmonth
    omega
  rw [hyear, hback]
  omega

theorem isValid_ofDayOfYear (hleast : 0 ≤ day) (hmost : day ≤ 365)
    (hleap : day = 365 → isLeapYear (year + 1) = true) : (ofDayOfYear year day).isValid = true := by
  unfold ofDayOfYear isValid
  dsimp only
  generalize hm : ((5 * day + 2) / 153).toNat = month
  have hmonth : month < 12 := by omega
  obtain ⟨hfirst, hlast⟩ := monthOfYear_mem hmonth
  simp only [Bool.and_eq_true, decide_eq_true_eq]
  refine ⟨⟨⟨hfirst, hlast⟩, by omega⟩, ?_⟩
  rcases Nat.lt_or_ge month 11 with h | h
  . rw [daysInMonth_monthOfYear h]
    omega
  -- February comes last, and its 29th is the day 365 of the year.
  . obtain rfl : month = 11 := by omega
    change _ ≤ if isLeapYear (year + 1) then 29 else 28
    split
    . omega
    . next hcommon =>
      have hday : day ≠ 365 := fun h => hcommon (hleap h)
      omega

theorem toDayNumber_ofDayNumber (n : Int) : (ofDayNumber n).toDayNumber = n := by
  obtain ⟨cycle, century, four, year, day, h⟩ := exists_isDay (n + 719468)
  have hdate := ofDayNumber_eq h
  rw [Int.add_sub_cancel] at hdate
  rw [hdate, toDayNumber_ofDayOfYear h.day_mem.1 h.day_mem.2, h.years_div_cycle, h.years_mod_cycle,
    h.years_div_four, h.years_div_hundred]
  have hcount := h.count_eq
  omega

theorem isValid_ofDayNumber (n : Int) : (ofDayNumber n).isValid = true := by
  obtain ⟨cycle, century, four, year, day, h⟩ := exists_isDay (n + 719468)
  have hdate := ofDayNumber_eq h
  rw [Int.add_sub_cancel] at hdate
  rw [hdate]
  exact isValid_ofDayOfYear h.day_mem.1 h.day_mem.2 h.isLeapYear

end Date
end LockFleet.Calendar
