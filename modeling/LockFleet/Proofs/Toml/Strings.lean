import LockFleet.Proofs.Text.Hex
import LockFleet.Toml.Printer
import LockFleet.Toml.Quoted

/-!
This module contains the proof that a string is read back as it was before it was written, whichever of
the four kinds of quotes it is written in.
-/

namespace LockFleet.Toml

def BasicMode.next? (mode : BasicMode) (c : Char) : Option (Char ⊕ BasicMode) :=
  match mode with
  | .plain => none
  | .escape => escapeStep? c
  | .code missing value => codeStep? missing value c

inductive Leads (d : Char) : BasicMode → List Char → Prop where
  | last {mode : BasicMode} {c : Char} (h : mode.next? c = some (.inl d)) : Leads d mode [c]
  | more {mode mode' : BasicMode} {c : Char} {rest : List Char} (h : mode.next? c = some (.inr mode'))
    (hrest : Leads d mode' rest) : Leads d mode (c :: rest)

variable {c d quote : Char} {mode : BasicMode} {escapes : Bool} {escape text rest before : List Char}

theorem codeStep?_digit {missing value n : Nat} (h : n < 16) (hmissing : 1 < missing) :
    codeStep? missing value (Nat.digitChar n).toUpper
      = some (.inr (.code (missing - 1) (16 * value + n))) := by
  unfold codeStep?
  rw [Text.hexValue?_toUpper, Text.hexValue?_digitChar h]
  dsimp only
  rw [if_neg (by omega)]

theorem codeStep?_last {value n : Nat} (h : n < 16) (hc : 16 * value + n = c.toNat) :
    codeStep? 1 value (Nat.digitChar n).toUpper = some (.inl c) := by
  have hvalid : c.toNat.isValidChar := c.valid
  unfold codeStep?
  rw [Text.hexValue?_toUpper, Text.hexValue?_digitChar h]
  dsimp only
  rw [if_pos (Nat.le_refl 1), hc]
  unfold charOfCode?
  rw [if_pos hvalid, Char.ofNat_toNat]
  rfl

theorem leads_hexDigitsUpper (h : c.toNat < 0x10000) :
    Leads c .escape ('u' :: Text.hexDigitsUpper 4 c.toNat) := by
  have hletter : BasicMode.next? .escape 'u' = some (.inr (.code 4 0)) := rfl
  refine .more hletter ?_
  refine .more (codeStep?_digit (by omega) (by decide)) ?_
  refine .more (codeStep?_digit (by omega) (by decide)) ?_
  refine .more (codeStep?_digit (by omega) (by decide)) ?_
  exact .last (codeStep?_last (by omega) (by omega))

theorem exists_leads_of_escape? {lines : Bool} {written : List Char}
    (h : escape? lines c = some written) : ∃ escape, written = '\\' :: escape ∧ Leads c .escape escape := by
  unfold escape? at h
  split at h
  case h_3 =>
    split at h <;> cases h
    exact ⟨_, rfl, .last rfl⟩
  case h_7 =>
    split at h <;> cases h
    next hcontrol =>
    refine ⟨_, rfl, leads_hexDigitsUpper ?_⟩
    simp only [isControl, Bool.or_eq_true, Bool.and_eq_true, decide_eq_true_eq, beq_iff_eq] at hcontrol
    omega
  all_goals
    cases h
    exact ⟨_, rfl, .last rfl⟩

theorem isTextChar_of_not_isControl (hcontrol : isControl c = false) (hline : c ≠ '\n') :
    isTextChar c = true ∧ c ≠ '\r' := by
  have hreturn : c ≠ '\r' := by
    rintro rfl
    cases hcontrol
  refine ⟨?_, hreturn⟩
  by_cases htab : c = '\t'
  . simp [isTextChar, htab]
  . simp [isControl, htab, hline] at hcontrol
    simp [isTextChar, hcontrol]

theorem isTextChar_of_escape?_eq_none {lines : Bool} (h : escape? lines c = none) :
    c ≠ '\\' ∧ c ≠ '\r' ∧ (isTextChar c = true ∧ c ≠ '\n' ∨ lines = true ∧ c = '\n') := by
  unfold escape? at h
  split at h
  case h_3 =>
    split at h
    . next hlines => exact ⟨by decide, by decide, .inr ⟨hlines, rfl⟩⟩
    . cases h
  case h_7 hline _ hreturn hbackslash =>
    split at h
    . cases h
    . next hcontrol =>
      have htext := isTextChar_of_not_isControl (eq_false_of_ne_true hcontrol) hline
      exact ⟨hbackslash, hreturn, .inl ⟨htext.1, hline⟩⟩
  all_goals cases h

theorem readBasic_cons (hmode : mode ≠ .plain) (c : Char) (before rest : List Char) :
    readBasic before mode (c :: rest) =
      match mode.next? c with
      | some (.inl d) => readBasic (d :: before) .plain rest
      | some (.inr mode) => readBasic before mode rest
      | none => none := by
  cases mode with
  | plain => exact absurd rfl hmode
  | escape => rfl
  | code missing value => rfl

theorem BasicMode.ne_plain_of_next? {step : Char ⊕ BasicMode} (h : mode.next? c = some step) :
    mode ≠ .plain := by
  rintro rfl
  cases h

theorem Leads.readBasic_append (h : Leads d mode escape) (before rest : List Char) :
    readBasic before mode (escape ++ rest) = readBasic (d :: before) .plain rest := by
  induction h with
  | last h =>
    rw [List.singleton_append, readBasic_cons (BasicMode.ne_plain_of_next? h), h]
  | more h hrest ih =>
    rw [List.cons_append, readBasic_cons (BasicMode.ne_plain_of_next? h), h]
    exact ih

theorem readBasic_escapeAll (text before rest : List Char) :
    readBasic before .plain (escapeAll false 0 text ++ '"' :: rest)
      = some (before.reverse ++ text, rest) := by
  induction text generalizing before with
  | nil => simp [escapeAll, readBasic]
  | cons c text ih =>
    have escaped : ∀ {escape : List Char}, Leads c .escape escape →
        readBasic before .plain ('\\' :: escape ++ escapeAll false 0 text ++ '"' :: rest)
          = some (before.reverse ++ c :: text, rest) := by
      intro escape h
      rw [List.append_assoc, List.cons_append, readBasic, if_neg (by decide), if_pos rfl, h.readBasic_append, ih]
      simp
    unfold escapeAll
    split
    . next hquote =>
      subst hquote
      have hleads : Leads '"' .escape ['"'] := .last rfl
      exact escaped hleads
    . next hquote =>
      cases hescape : escape? false c with
      | some written =>
        obtain ⟨escape, rfl, hleads⟩ := exists_leads_of_escape? hescape
        exact escaped hleads
      | none =>
        obtain ⟨hbackslash, -, htext | ⟨hlines, -⟩⟩ := isTextChar_of_escape?_eq_none hescape
        . dsimp only
          rw [List.cons_append, readBasic, if_neg hquote, if_neg hbackslash, if_pos htext.1, ih]
          simp
        . cases hlines

theorem readLiteral_append (h : ∀ c ∈ text, c ≠ '\'' ∧ isTextChar c = true) (before rest : List Char) :
    readLiteral before (text ++ '\'' :: rest) = some (before.reverse ++ text, rest) := by
  induction text generalizing before with
  | nil => simp [readLiteral]
  | cons c text ih =>
    obtain ⟨hquote, htext⟩ := h c List.mem_cons_self
    rw [List.cons_append, readLiteral, if_neg hquote, if_pos htext,
      ih fun c hc => h c (List.mem_cons_of_mem _ hc)]
    simp

def LinesMode.pending (quotes : Nat) : LinesMode :=
  if quotes = 0 then .plain else .quotes quotes

open LinesMode (pending)
open linesStep? (plainStep)

theorem readLines_cons_of_step {mode mode' : LinesMode} {before' : List Char}
    (hopen : c = quote ∨ readLines.closed quote before mode [] = none)
    (h : linesStep? quote escapes before mode c = some (before', mode')) (rest : List Char) :
    readLines quote escapes before mode (c :: rest) = readLines quote escapes before' mode' rest := by
  have hopen' : ¬(c ≠ quote ∧ (readLines.closed quote before mode []).isSome = true) := by
    rintro ⟨hne, hclosed⟩
    rcases hopen with hc | hopen
    . exact hne hc
    . rw [hopen] at hclosed
      cases hclosed
  rw [readLines, if_neg hopen', h]

theorem plainStep_of_isTextChar (escapes : Bool) (hquote : c ≠ quote) (hreturn : c ≠ '\r')
    (hbackslash : escapes = true → c ≠ '\\') (htext : isTextChar c = true ∨ c = '\n')
    (before : List Char) :
    plainStep quote escapes c before = some (c :: before, .plain) := by
  unfold plainStep
  rw [if_neg hquote]
  split
  . next hline => rw [hline]
  . next hline =>
    have hescape : ¬(escapes && c == '\\') = true := by simpa using hbackslash
    rw [if_neg hescape, if_pos (htext.resolve_right hline)]

theorem le_longestRun_go (c : Char) (run : Nat) (text : List Char) :
    run ≤ longestRun.go c run text := by
  induction text generalizing run with
  | nil => exact Nat.le_refl run
  | cons d text ih =>
    unfold longestRun.go
    split
    . exact Nat.le_trans (Nat.le_succ run) (ih (run + 1))
    . exact Nat.le_max_left ..

theorem readLines_plain {quotes : Nat} {mode : LinesMode} {before' : List Char} (hquotes : quotes ≤ 2)
    (hc : c ≠ quote)
    (h : plainStep quote escapes c (List.replicate quotes quote ++ before) = some (before', mode))
    (rest : List Char) :
    readLines quote escapes before (pending quotes) (c :: rest)
      = readLines quote escapes before' mode rest := by
  rcases Nat.eq_zero_or_pos quotes with rfl | hpos
  . have hplain : linesStep? quote escapes before .plain c = some (before', mode) := h
    exact readLines_cons_of_step (.inr rfl) hplain rest
  . have hpending : pending quotes = .quotes quotes := if_neg (by omega)
    rw [hpending]
    apply readLines_cons_of_step
    . right
      unfold readLines.closed
      dsimp only
      rw [if_pos (by omega)]
    . unfold linesStep?
      dsimp only
      rw [if_neg hc, h]

theorem readLines_quote {quotes : Nat} (hquotes : quotes < 5) (before rest : List Char) :
    readLines quote escapes before (pending quotes) (quote :: rest)
      = readLines quote escapes before (pending (quotes + 1)) rest := by
  have hpending : pending (quotes + 1) = .quotes (quotes + 1) := if_neg (by omega)
  rw [hpending]
  apply readLines_cons_of_step (.inl rfl)
  rcases Nat.eq_zero_or_pos quotes with rfl | hpos
  . exact if_pos rfl
  . unfold linesStep? pending
    rw [if_neg (by omega)]
    dsimp only
    rw [if_pos rfl, if_pos hquotes]

theorem readLines_close {quotes : Nat} (hquotes : quotes ≤ 2) (hrest : rest.head? ≠ some quote)
    (before : List Char) :
    readLines quote escapes before (pending quotes) (quote :: quote :: quote :: rest)
      = some (before.reverse ++ List.replicate quotes quote, rest) := by
  have hclosed : ∀ rest, readLines.closed quote before (pending (quotes + 3)) rest
      = some (before.reverse ++ List.replicate quotes quote, rest) := by
    intro rest
    unfold readLines.closed pending
    rw [if_neg (by omega)]
    dsimp only
    rw [if_neg (by omega), Nat.add_sub_cancel, List.reverse_append, List.reverse_replicate]
  rw [readLines_quote (by omega), readLines_quote (by omega), readLines_quote (by omega)]
  cases rest with
  | nil => exact hclosed []
  | cons c rest =>
    have hc : c ≠ quote := fun h => hrest (congrArg some h)
    rw [readLines, if_pos ⟨hc, by rw [hclosed]; rfl⟩, hclosed]

theorem linesStep?_ofBasic {step : Char ⊕ BasicMode} (h : mode.next? c = some step)
    (quote : Char) (escapes : Bool) (before : List Char) :
    linesStep? quote escapes before (.ofBasic mode) c = linesStep?.settled before (some step) := by
  cases mode with
  | plain => cases h
  | code missing value => exact congrArg (linesStep?.settled before) h
  | escape =>
    have hc : isBlank c = false ∧ c ≠ '\n' ∧ c ≠ '\r' := by
      refine ⟨?_, ?_, ?_⟩
      . apply eq_false_of_ne_true
        intro hblank
        simp only [isBlank, Bool.or_eq_true, beq_iff_eq] at hblank
        rcases hblank with rfl | rfl <;> cases h
      . rintro rfl
        cases h
      . rintro rfl
        cases h
    unfold linesStep? LinesMode.ofBasic
    dsimp only
    rw [hc.1, if_neg Bool.false_ne_true, if_neg hc.2.1, if_neg hc.2.2]
    exact congrArg (linesStep?.settled before) h

theorem closed_ofBasic (mode : BasicMode) (quote : Char) (before rest : List Char) :
    readLines.closed quote before (.ofBasic mode) rest = none := by
  cases mode <;> rfl

theorem Leads.readLines_append (h : Leads d mode escape) (before rest : List Char) :
    readLines quote escapes before (.ofBasic mode) (escape ++ rest)
      = readLines quote escapes (d :: before) .plain rest := by
  induction h with
  | last h =>
    rw [List.singleton_append]
    exact readLines_cons_of_step (.inr (closed_ofBasic ..)) (linesStep?_ofBasic h ..) rest
  | more h hrest ih =>
    rw [List.cons_append, ← ih]
    exact readLines_cons_of_step (.inr (closed_ofBasic ..)) (linesStep?_ofBasic h ..) _

theorem replicate_append_cons (n : Nat) (c : Char) (text : List Char) :
    List.replicate (n + 1) c ++ text = List.replicate n c ++ c :: text := by
  rw [List.replicate_succ', List.append_assoc, List.singleton_append]

theorem readLines_escapeAll {quotes : Nat} (hquotes : quotes ≤ 2) (hrest : rest.head? ≠ some '"')
    (text before : List Char) :
    readLines '"' true before (pending quotes)
        (escapeAll true quotes text ++ '"' :: '"' :: '"' :: rest)
      = some (before.reverse ++ (List.replicate quotes '"' ++ text), rest) := by
  -- The quotes right before the text are still pending: they may turn out to belong to the closing ones.
  induction text generalizing quotes before with
  | nil =>
    rw [List.append_nil]
    exact readLines_close hquotes hrest before
  | cons c text ih =>
    have ordinary : ∀ {before'}, before'.reverse = before.reverse ++ (List.replicate quotes '"' ++ [c]) →
        readLines '"' true before' .plain (escapeAll true 0 text ++ '"' :: '"' :: '"' :: rest)
          = some (before.reverse ++ (List.replicate quotes '"' ++ c :: text), rest) := by
      intro before' hbefore
      refine (ih (Nat.zero_le 2) before').trans ?_
      rw [hbefore]
      simp
    have escaped : ∀ {escape : List Char}, Leads c .escape escape →
        readLines '"' true before (pending quotes)
            ('\\' :: escape ++ escapeAll true 0 text ++ '"' :: '"' :: '"' :: rest)
          = some (before.reverse ++ (List.replicate quotes '"' ++ c :: text), rest) := by
      intro escape h
      rw [List.append_assoc, List.cons_append]
      refine (readLines_plain hquotes (by decide) rfl _).trans ?_
      refine (h.readLines_append _ _).trans (ordinary ?_)
      simp
    unfold escapeAll
    split
    . next hquote =>
      subst hquote
      split
      . next hroom =>
        simp only [Bool.true_and, decide_eq_true_eq] at hroom
        rw [List.cons_append, readLines_quote (by omega), ih (by omega), replicate_append_cons]
      . have hleads : Leads '"' .escape ['"'] := .last rfl
        exact escaped hleads
    . next hquote =>
      cases hescape : escape? true c with
      | some written =>
        obtain ⟨escape, rfl, hleads⟩ := exists_leads_of_escape? hescape
        exact escaped hleads
      | none =>
        obtain ⟨hbackslash, hreturn, htext⟩ := isTextChar_of_escape?_eq_none hescape
        have hstep := plainStep_of_isTextChar true hquote hreturn (fun _ => hbackslash)
          (htext.imp And.left And.right) (List.replicate quotes '"' ++ before)
        refine (readLines_plain hquotes hquote hstep _).trans (ordinary ?_)
        simp

theorem readLines_literal {quotes : Nat} (hquotes : quotes ≤ 2) (hrest : rest.head? ≠ some quote)
    (hrun : longestRun.go quote quotes text ≤ 2)
    (htext : ∀ c ∈ text, c ≠ '\r' ∧ (isTextChar c = true ∨ c = '\n')) (before : List Char) :
    readLines quote false before (pending quotes) (text ++ quote :: quote :: quote :: rest)
      = some (before.reverse ++ (List.replicate quotes quote ++ text), rest) := by
  induction text generalizing quotes before with
  | nil =>
    rw [List.append_nil]
    exact readLines_close hquotes hrest before
  | cons c text ih =>
    obtain ⟨hreturn, hc⟩ := htext c List.mem_cons_self
    have hrestText : ∀ c ∈ text, c ≠ '\r' ∧ (isTextChar c = true ∨ c = '\n') :=
      fun c hmem => htext c (List.mem_cons_of_mem _ hmem)
    unfold longestRun.go at hrun
    split at hrun
    . next hquote =>
      subst hquote
      have hroom : quotes + 1 ≤ 2 := Nat.le_trans (le_longestRun_go c (quotes + 1) text) hrun
      rw [List.cons_append, readLines_quote (by omega), ih hroom hrun hrestText, replicate_append_cons]
    . next hquote =>
      have hstep := plainStep_of_isTextChar false hquote hreturn
        (fun h => absurd h Bool.false_ne_true) hc (List.replicate quotes quote ++ before)
      rw [List.cons_append]
      refine (readLines_plain hquotes hquote hstep _).trans ?_
      refine (ih (Nat.zero_le 2) (by omega) hrestText _).trans ?_
      simp

theorem readString_basic (h : ∀ rest, text ≠ '"' :: '"' :: rest) :
    readString ('"' :: text) = readBasic [] .plain text := by
  unfold readString
  split
  case h_1 heq => exact absurd (List.cons.inj heq).2 (h _)
  case h_2 heq => cases heq
  case h_3 heq => rw [(List.cons.inj heq).2]
  case h_4 heq => cases heq
  case h_5 hother _ => exact absurd rfl (hother _)

theorem readString_literal (h : ∀ rest, text ≠ '\'' :: '\'' :: rest) :
    readString ('\'' :: text) = readLiteral [] text := by
  unfold readString
  split
  case h_1 heq => cases heq
  case h_2 heq => exact absurd (List.cons.inj heq).2 (h _)
  case h_3 heq => cases heq
  case h_4 heq => rw [(List.cons.inj heq).2]
  case h_5 hother => exact absurd rfl (hother _)

theorem escapeAll_cons_ne (c : Char) (text rest : List Char) :
    escapeAll false 0 (c :: text) ≠ '"' :: rest := by
  unfold escapeAll
  split
  . simp
  . next hquote =>
    split
    . next written hescape =>
      obtain ⟨escape, rfl, -⟩ := exists_leads_of_escape? hescape
      simp
    . simp [hquote]

theorem readString_printBasic (text rest : List Char) :
    readString ('"' :: escapeAll false 0 text ++ ['"'] ++ '\n' :: rest) = some (text, '\n' :: rest) := by
  have hread := readBasic_escapeAll text [] ('\n' :: rest)
  rw [List.append_assoc, List.cons_append, readString_basic, List.singleton_append]
  . exact hread
  . intro rest' heq
    cases text with
    | nil => cases heq
    | cons c text =>
      cases hescaped : escapeAll false 0 (c :: text) with
      | nil =>
        rw [hescaped] at heq
        cases heq
      | cons d written =>
        rw [hescaped] at heq
        exact escapeAll_cons_ne c text written (by rw [hescaped, (List.cons.inj heq).1])

theorem readString_printLiteral (h : ∀ c ∈ text, c ≠ '\'' ∧ isTextChar c = true) (rest : List Char) :
    readString ('\'' :: text ++ ['\''] ++ '\n' :: rest) = some (text, '\n' :: rest) := by
  have hread := readLiteral_append h [] ('\n' :: rest)
  rw [List.append_assoc, List.cons_append, readString_literal, List.singleton_append]
  . exact hread
  . intro rest' heq
    cases text with
    | nil => cases heq
    | cons c text => exact (h c List.mem_cons_self).1 (List.cons.inj heq).1

def firstLineEnd (text : List Char) : List Char :=
  if text.contains '\n' then ['\n'] else []

theorem skipFirstLineEnd_append {written : List Char}
    (h : text.contains '\n' = false → ∀ rest, written ≠ '\n' :: rest ∧ written ≠ '\r' :: rest) :
    skipFirstLineEnd (firstLineEnd text ++ written) = written := by
  unfold firstLineEnd
  split
  . rfl
  . next hlines =>
    have hwritten := h (eq_false_of_ne_true hlines)
    rw [List.nil_append]
    unfold skipFirstLineEnd
    split
    . exact absurd rfl (hwritten _).1
    . exact absurd rfl (hwritten _).2
    . rfl

theorem escapeAll_append_ne (h : text.contains '\n' = false) (written rest : List Char) :
    escapeAll true 0 text ++ '"' :: written ≠ '\n' :: rest ∧
      escapeAll true 0 text ++ '"' :: written ≠ '\r' :: rest := by
  cases text with
  | nil => simp [escapeAll]
  | cons c text =>
    have hline : c ≠ '\n' := by
      rintro rfl
      simp at h
    unfold escapeAll
    split
    . next hquote => simp [hquote]
    . split
      . next written' hescape =>
        obtain ⟨escape, rfl, -⟩ := exists_leads_of_escape? hescape
        simp
      . next hescape => simp [hline, (isTextChar_of_escape?_eq_none hescape).2.1]

theorem readString_printBasicLines (text rest : List Char) :
    readString (['"', '"', '"'] ++ firstLineEnd text ++ escapeAll true 0 text ++ ['"', '"', '"']
        ++ '\n' :: rest) = some (text, '\n' :: rest) := by
  have hrest : ('\n' :: rest).head? ≠ some '"' := by simp
  have hread := readLines_escapeAll (Nat.zero_le 2) hrest text []
  simp only [List.append_assoc, List.cons_append, List.nil_append]
  rw [readString, skipFirstLineEnd_append]
  . exact hread
  . intro hlines rest'
    exact escapeAll_append_ne hlines _ rest'

theorem readString_printLiteralLines (hrun : longestRun '\'' text ≤ 2)
    (htext : ∀ c ∈ text, c ≠ '\r' ∧ (isTextChar c = true ∨ c = '\n')) (rest : List Char) :
    readString (['\'', '\'', '\''] ++ firstLineEnd text ++ text ++ ['\'', '\'', '\'']
        ++ '\n' :: rest) = some (text, '\n' :: rest) := by
  have hrest : ('\n' :: rest).head? ≠ some '\'' := by simp
  have hread := readLines_literal (Nat.zero_le 2) hrest hrun htext []
  simp only [List.append_assoc, List.cons_append, List.nil_append]
  rw [readString, skipFirstLineEnd_append]
  . exact hread
  . intro hlines rest'
    cases text with
    | nil => simp
    | cons c text =>
      have hline : c ≠ '\n' := by
        rintro rfl
        simp at hlines
      simp [hline, (htext c List.mem_cons_self).1]

theorem longestRun_go_pos (h : c ∈ text) (run : Nat) : 0 < longestRun.go c run text := by
  induction text generalizing run with
  | nil => cases h
  | cons d text ih =>
    unfold longestRun.go
    split
    . exact Nat.lt_of_lt_of_le (Nat.succ_pos run) (le_longestRun_go c (run + 1) text)
    . next hne =>
      have hmem := (List.mem_cons.1 h).resolve_left (Ne.symm hne)
      exact Nat.lt_of_lt_of_le (ih hmem 0) (Nat.le_max_right ..)

theorem isControl_of_mem (h : text.any isControl = false) (hc : c ∈ text) : isControl c = false :=
  eq_false_of_ne_true (List.any_eq_false.1 h c hc)

theorem styleOf_eq_literal (h : styleOf text = .literal) :
    ∀ c ∈ text, c ≠ '\'' ∧ isTextChar c = true := by
  unfold styleOf at h
  dsimp only at h
  split at h
  . cases h
  split at h
  . next hplain =>
    simp only [Bool.and_eq_true, Bool.not_eq_true', beq_iff_eq] at hplain
    obtain ⟨⟨hcontrols, hlines⟩, hsingles⟩ := hplain
    intro c hc
    have hquote : c ≠ '\'' := by
      rintro rfl
      have hpos := longestRun_go_pos hc 0
      rw [show longestRun.go '\'' 0 text = 0 from hsingles] at hpos
      exact Nat.lt_irrefl 0 hpos
    have hline : c ≠ '\n' := by
      rintro rfl
      rw [List.contains_iff_mem.2 hc] at hlines
      cases hlines
    exact ⟨hquote, (isTextChar_of_not_isControl (isControl_of_mem hcontrols hc) hline).1⟩
  split at h
  . cases h
  split at h
  . cases h
  split at h <;> cases h

theorem styleOf_eq_literalLines (h : styleOf text = .literalLines) :
    longestRun '\'' text ≤ 2 ∧ ∀ c ∈ text, c ≠ '\r' ∧ (isTextChar c = true ∨ c = '\n') := by
  unfold styleOf at h
  dsimp only at h
  split at h
  . cases h
  split at h
  . cases h
  split at h
  . cases h
  split at h
  . next hplain =>
    simp only [Bool.and_eq_true, Bool.not_eq_true', decide_eq_true_eq] at hplain
    obtain ⟨hcontrols, hsingles⟩ := hplain
    refine ⟨hsingles, ?_⟩
    intro c hc
    by_cases hline : c = '\n'
    . rw [hline]
      exact ⟨by decide, .inr rfl⟩
    . obtain ⟨htext, hreturn⟩ := isTextChar_of_not_isControl (isControl_of_mem hcontrols hc) hline
      exact ⟨hreturn, .inl htext⟩
  split at h <;> cases h

theorem printText_eq (text : List Char) :
    printText text =
      match styleOf text with
      | .basic => '"' :: escapeAll false 0 text ++ ['"']
      | .literal => '\'' :: text ++ ['\'']
      | .basicLines =>
        ['"', '"', '"'] ++ firstLineEnd text ++ escapeAll true 0 text ++ ['"', '"', '"']
      | .literalLines => ['\'', '\'', '\''] ++ firstLineEnd text ++ text ++ ['\'', '\'', '\''] :=
  rfl

theorem readString_printText (text rest : List Char) :
    readString (printText text ++ '\n' :: rest) = some (text, '\n' :: rest) := by
  rw [printText_eq]
  split
  . exact readString_printBasic text rest
  . next hstyle => exact readString_printLiteral (styleOf_eq_literal hstyle) rest
  . exact readString_printBasicLines text rest
  . next hstyle =>
    obtain ⟨hrun, htext⟩ := styleOf_eq_literalLines hstyle
    exact readString_printLiteralLines hrun htext rest

end LockFleet.Toml
