import LockFleet.Proofs.Text.Decimal
import LockFleet.Proofs.Toml.Strings
import LockFleet.Toml.Reader

/-!
This module contains the proof that the lines of a document are read back: headers of tables, and keys
with their values.
-/

namespace LockFleet.Toml

def Plain.value : Plain → Value
  | .text s => .text s
  | .integer n => .integer n
  | .boolean b => .boolean b

def Plain.IsWritable : Plain → Prop
  | .integer n => isWide n = true
  | _ => True

variable {n : Nat} {text rest : List Char}

theorem isWritable_integer_natCast (h : n ≤ maxSigned) : (Plain.integer n).IsWritable := by
  unfold Plain.IsWritable isWide
  simp
  omega

theorem head?_numeral_ne (h : n ≠ 0) : (Text.numeral n).head? ≠ some '0' := by
  unfold Text.numeral
  induction n using Nat.strongRecOn with
  | ind n ih =>
    rcases Nat.lt_or_ge n 10 with hlt | hge
    . rw [Nat.toDigits_of_lt_base hlt]
      simpa using h
    . rw [Nat.toDigits_of_base_le (by decide) hge]
      have hhead := ih (n / 10) (by omega) (by omega)
      have hne := Text.numeral_ne_nil (n / 10)
      unfold Text.numeral at hne
      cases hdigits : Nat.toDigits 10 (n / 10) with
      | nil => exact absurd hdigits hne
      | cons c digits =>
        rw [hdigits] at hhead
        exact hhead

theorem ungrouped?_of_isDigit (hne : text ≠ []) (h : ∀ c ∈ text, c.isDigit = true) :
    ungrouped? Char.isDigit text = some text := by
  induction text with
  | nil => exact absurd rfl hne
  | cons c text ih =>
    have hc := h c List.mem_cons_self
    cases text with
    | nil => simp [ungrouped?, hc]
    | cons d text =>
      have hd : d ≠ '_' := by
        rintro rfl
        exact absurd (h '_' (by simp)) (by decide)
      have hrest := ih (by simp) fun c hmem => h c (List.mem_cons_of_mem _ hmem)
      simp [ungrouped?, hc, hd, hrest]

theorem wholeDigits?_numeral (n : Nat) : wholeDigits? (Text.numeral n) = some (Text.numeral n) := by
  unfold wholeDigits?
  rw [ungrouped?_of_isDigit (Text.numeral_ne_nil n) fun c => Text.isDigit_of_mem_numeral]
  apply Option.filter_some_pos
  by_cases hn : n = 0
  . subst hn
    decide
  . simp [head?_numeral_ne hn]

theorem splitSign_hyphen (text : List Char) : splitSign ('-' :: text) = (true, text) :=
  rfl

theorem splitSign_of_isDigit (h : ∀ c ∈ text, c.isDigit = true) : splitSign text = (false, text) := by
  unfold splitSign
  split
  . exact absurd (h '-' List.mem_cons_self) (by decide)
  . exact absurd (h '+' List.mem_cons_self) (by decide)
  . rfl

theorem based?_of_isDigit (h : ∀ c ∈ text, c.isDigit = true) : based? text = none := by
  unfold based?
  split
  . exact absurd (h 'x' (by simp)) (by decide)
  . exact absurd (h 'o' (by simp)) (by decide)
  . exact absurd (h 'b' (by simp)) (by decide)
  . rfl

theorem decimal?_integerText (n : Int) : decimal? (Text.integerText n) = some n := by
  have hvalue : (Text.numeralValue (Text.numeral n.natAbs) : Int) = n.natAbs := by
    rw [Text.numeralValue_numeral]
  unfold Text.integerText
  split
  . next hn =>
    unfold decimal?
    rw [splitSign_hyphen]
    dsimp only
    rw [wholeDigits?_numeral, Option.map_some, if_pos rfl, hvalue]
    congr 1
    omega
  . next hn =>
    unfold decimal?
    rw [splitSign_of_isDigit fun c => Text.isDigit_of_mem_numeral]
    dsimp only
    rw [wholeDigits?_numeral, Option.map_some, if_neg Bool.false_ne_true, hvalue]
    congr 1
    omega

theorem based?_integerText (n : Int) : based? (Text.integerText n) = none := by
  unfold Text.integerText
  split
  . rfl
  . exact based?_of_isDigit fun c => Text.isDigit_of_mem_numeral

theorem isWordChar_of_mem_integerText {n : Int} {c : Char} (h : c ∈ Text.integerText n) :
    isWordChar c = true ∧ c ≠ 't' ∧ c ≠ 'f' := by
  have hdigit : ∀ {c : Char}, c.isDigit = true → isWordChar c = true ∧ c ≠ 't' ∧ c ≠ 'f' := by
    intro c hc
    refine ⟨by simp [isWordChar, Char.isAlphanum, hc], ?_, ?_⟩
    . rintro rfl
      cases hc
    . rintro rfl
      cases hc
  unfold Text.integerText at h
  split at h
  . rcases List.mem_cons.1 h with rfl | h
    . decide
    . exact hdigit (Text.isDigit_of_mem_numeral h)
  . exact hdigit (Text.isDigit_of_mem_numeral h)

theorem scalar?_integerText {n : Int} (h : isWide n = true) :
    scalar? (Text.integerText n) = some (.integer n) := by
  have hinteger : integer? (Text.integerText n) = some n := by
    unfold integer?
    rw [based?_integerText, decimal?_integerText, Option.none_or]
    exact Option.filter_some_pos h
  have hword : ∀ word : List Char, 't' ∈ word ∨ 'f' ∈ word → Text.integerText n ≠ word := by
    rintro word hmem rfl
    rcases hmem with hmem | hmem
    . exact (isWordChar_of_mem_integerText hmem).2.1 rfl
    . exact (isWordChar_of_mem_integerText hmem).2.2 rfl
  unfold scalar?
  rw [if_neg (hword _ (by decide)), if_neg (hword _ (by decide)), hinteger]

theorem readScalar_append {word : List Char} {v : Value} (hword : ∀ c ∈ word, isWordChar c = true)
    (hv : scalar? word = some v) (rest : List Char) :
    readScalar (word ++ '\n' :: rest) = some (v, '\n' :: rest) := by
  have htake : (word ++ '\n' :: rest).takeWhile isWordChar = word := by
    rw [List.takeWhile_append_of_pos hword, List.takeWhile_cons_of_neg (by decide), List.append_nil]
  unfold readScalar
  dsimp only
  rw [htake, List.drop_left]
  exact congrArg (Option.map fun v => (v, '\n' :: rest)) hv

theorem exists_printText_eq_cons (text : List Char) :
    ∃ quote written, (quote = '"' ∨ quote = '\'') ∧ printText text = quote :: written := by
  rw [printText_eq]
  split
  . exact ⟨_, _, .inl rfl, rfl⟩
  . exact ⟨_, _, .inr rfl, rfl⟩
  . exact ⟨_, _, .inl rfl, rfl⟩
  . exact ⟨_, _, .inr rfl, rfl⟩

theorem readValue_of_quote {quote : Char} (h : quote = '"' ∨ quote = '\'') (fuel depth : Nat)
    (text : List Char) :
    readValue (fuel + 1) depth (quote :: text)
      = (readString (quote :: text)).map fun r => (.text (String.ofList r.1), r.2) := by
  rcases h with rfl | rfl <;> rfl

theorem readValue_of_isWordChar {c : Char} (h : isWordChar c = true) (fuel depth : Nat)
    (text : List Char) : readValue (fuel + 1) depth (c :: text) = readScalar (c :: text) := by
  rw [readValue]
  all_goals
    rintro rest heq
    rw [(List.cons.inj heq).1] at h
    exact absurd h (by decide)

theorem readValue_scalar {word : List Char} {v : Value} (hne : word ≠ [])
    (hword : ∀ c ∈ word, isWordChar c = true) (hv : scalar? word = some v) (fuel depth : Nat)
    (rest : List Char) :
    readValue (fuel + 1) depth (word ++ '\n' :: rest) = some (v, '\n' :: rest) := by
  have hread := readScalar_append hword hv rest
  cases word with
  | nil => exact absurd rfl hne
  | cons c word =>
    rw [List.cons_append, readValue_of_isWordChar (hword c List.mem_cons_self)]
    exact hread

theorem integerText_ne_nil (n : Int) : Text.integerText n ≠ [] := by
  unfold Text.integerText
  split
  . simp
  . exact Text.numeral_ne_nil _

theorem readValue_printPlain {p : Plain} (h : p.IsWritable) (fuel depth : Nat) (rest : List Char) :
    readValue (fuel + 1) depth (printPlain p ++ '\n' :: rest) = some (p.value, '\n' :: rest) := by
  cases p with
  | text s =>
    have hread := readString_printText s.toList rest
    obtain ⟨quote, written, hquote, hprint⟩ := exists_printText_eq_cons s.toList
    unfold printPlain
    dsimp only
    rw [hprint, List.cons_append] at hread ⊢
    rw [readValue_of_quote hquote, hread, Option.map_some, String.ofList_toList]
    rfl
  | integer n =>
    exact readValue_scalar (integerText_ne_nil n) (fun c hc => (isWordChar_of_mem_integerText hc).1)
      (scalar?_integerText h) fuel depth rest
  | boolean b =>
    cases b <;> exact readValue_scalar (by decide) (List.all_eq_true.1 (by decide)) rfl fuel depth rest

def IsKey (key : String) : Prop :=
  key.toList ≠ [] ∧ ∀ c ∈ key.toList, isKeyChar c = true

instance (key : String) : Decidable (IsKey key) :=
  decidable_of_iff (key.toList ≠ [] ∧ key.toList.all isKeyChar = true) (by simp [IsKey])

theorem isBlank_eq_false {c : Char} (hspace : c ≠ ' ') (htab : c ≠ '\t') : isBlank c = false := by
  simp [isBlank, hspace, htab]

theorem isBlank_of_isWordChar {c : Char} (h : isWordChar c = true) : isBlank c = false := by
  apply isBlank_eq_false
  all_goals
    rintro rfl
    revert h
    decide

theorem not_isBlank_of_isKeyChar {c : Char} (h : isKeyChar c = true) :
    isBlank c = false ∧ c ≠ '#' ∧ c ≠ '\n' ∧ c ≠ '\r' ∧ c ≠ '[' ∧ c ≠ '"' ∧ c ≠ '\'' := by
  refine ⟨isBlank_eq_false ?_ ?_, ?_, ?_, ?_, ?_, ?_, ?_⟩
  all_goals
    rintro rfl
    revert h
    decide

theorem skipBlanks_cons {c : Char} (h : isBlank c = false) (text : List Char) :
    skipBlanks (c :: text) = c :: text :=
  List.dropWhile_cons_of_neg (by simp [h])

theorem exists_eq_cons_of_isKey {key : String} (h : IsKey key) :
    ∃ c letters, key.toList = c :: letters ∧ isKeyChar c = true := by
  obtain ⟨hne, hkey⟩ := h
  cases hlist : key.toList with
  | nil => exact absurd hlist hne
  | cons c letters => exact ⟨c, letters, rfl, hkey c (by simp [hlist])⟩

theorem append_ne_bracket_cons {key : String} (h : IsKey key) (text rest : List Char) :
    key.toList ++ text ≠ '[' :: rest := by
  obtain ⟨c, letters, hlist, hc⟩ := exists_eq_cons_of_isKey h
  rw [hlist]
  intro heq
  exact (not_isBlank_of_isKeyChar hc).2.2.2.2.1 (List.cons.inj heq).1

theorem readPart_append {key : String} (h : IsKey key) {c : Char} (hc : isKeyChar c = false)
    (rest : List Char) : readPart (key.toList ++ c :: rest) = some (key, c :: rest) := by
  obtain ⟨d, letters, hlist, hd⟩ := exists_eq_cons_of_isKey h
  obtain ⟨-, -, -, -, -, hquote, hquote'⟩ := not_isBlank_of_isKeyChar hd
  obtain ⟨hne, hkey⟩ := h
  have htake : (key.toList ++ c :: rest).takeWhile isKeyChar = key.toList := by
    rw [List.takeWhile_append_of_pos hkey, List.takeWhile_cons_of_neg (by simp [hc]), List.append_nil]
  have hread : (if (key.toList ++ c :: rest).takeWhile isKeyChar = [] then none
      else some (String.ofList ((key.toList ++ c :: rest).takeWhile isKeyChar),
        (key.toList ++ c :: rest).drop ((key.toList ++ c :: rest).takeWhile isKeyChar).length))
      = some (key, c :: rest) := by
    rw [htake, if_neg hne, List.drop_left, String.ofList_toList]
  rw [hlist, List.cons_append] at hread ⊢
  rw [readPart]
  . exact hread
  . rintro rest' heq
    exact hquote (List.cons.inj heq).1
  . rintro rest' heq
    exact hquote' (List.cons.inj heq).1

theorem readKey_append {key : String} (h : IsKey key) {gap rest : List Char} {c : Char}
    (hgap : ∀ c ∈ gap, isBlank c = true) (hkeyChar : isKeyChar c = false)
    (hblank : isBlank c = false) (hpoint : c ≠ '.') (parts : Nat) :
    readKey (parts + 1) [] (key.toList ++ (gap ++ c :: rest)) = some (([], key), c :: rest) := by
  have hstart : skipBlanks (key.toList ++ (gap ++ c :: rest)) = key.toList ++ (gap ++ c :: rest) := by
    obtain ⟨d, letters, hlist, hd⟩ := exists_eq_cons_of_isKey h
    rw [hlist, List.cons_append]
    exact skipBlanks_cons (not_isBlank_of_isKeyChar hd).1 _
  have hpart : readPart (key.toList ++ (gap ++ c :: rest)) = some (key, gap ++ c :: rest) := by
    cases gap with
    | nil => exact readPart_append h hkeyChar rest
    | cons b gap =>
      refine readPart_append h ?_ _
      apply eq_false_of_ne_true
      intro hb
      have hblank := hgap b List.mem_cons_self
      rw [(not_isBlank_of_isKeyChar hb).1] at hblank
      cases hblank
  have hend : skipBlanks (gap ++ c :: rest) = c :: rest := by
    unfold skipBlanks
    rw [List.dropWhile_append_of_pos hgap, List.dropWhile_cons_of_neg (by simp [hblank])]
  rw [readKey, hstart, hpart]
  dsimp only
  rw [hend]
  split
  . next heq => exact absurd (List.cons.inj heq).1 hpoint
  . rfl

theorem readStatement_header {name : String} (h : IsKey name) (rest : List Char) :
    readStatement ('[' :: (name.toList ++ [']'] ++ '\n' :: rest))
      = some (.header [] name, '\n' :: rest) := by
  have hkey : readKey maxParts [] (name.toList ++ [']'] ++ '\n' :: rest)
      = some (([], name), ']' :: '\n' :: rest) := by
    have hgap : ∀ c ∈ ([] : List Char), isBlank c = true := by simp
    rw [List.append_assoc]
    exact readKey_append h hgap (by decide) (by decide) (by decide) 78
  rw [readStatement]
  . rw [hkey]
    rfl
  . intro rest' heq
    rw [List.append_assoc] at heq
    exact append_ne_bracket_cons h _ _ heq

theorem exists_printPlain_eq_cons (p : Plain) :
    ∃ c written, printPlain p = c :: written ∧ isBlank c = false := by
  cases p with
  | text s =>
    obtain ⟨quote, written, hquote, hprint⟩ := exists_printText_eq_cons s.toList
    refine ⟨quote, written, hprint, ?_⟩
    rcases hquote with rfl | rfl <;> decide
  | integer n =>
    cases hprint : Text.integerText n with
    | nil => exact absurd hprint (integerText_ne_nil n)
    | cons c written =>
      refine ⟨c, written, hprint, ?_⟩
      exact isBlank_of_isWordChar (isWordChar_of_mem_integerText (hprint ▸ List.mem_cons_self : c ∈ _)).1
  | boolean b => cases b <;> exact ⟨_, _, rfl, by decide⟩

theorem readStatement_line {line : String × Plain} (h : IsKey line.1) (hvalue : line.2.IsWritable)
    (rest : List Char) :
    readStatement (line.1.toList ++ [' ', '=', ' '] ++ printPlain line.2 ++ '\n' :: rest)
      = some (.assign [] line.1 line.2.value, '\n' :: rest) := by
  have hkey : readKey maxParts []
      (line.1.toList ++ ([' '] ++ '=' :: ' ' :: (printPlain line.2 ++ '\n' :: rest)))
      = some (([], line.1), '=' :: ' ' :: (printPlain line.2 ++ '\n' :: rest)) :=
    readKey_append h (by simp [isBlank]) (by decide) (by decide) (by decide) 78
  have hskip : skipBlanks (' ' :: (printPlain line.2 ++ '\n' :: rest))
      = printPlain line.2 ++ '\n' :: rest := by
    obtain ⟨c, written, hprint, hblank⟩ := exists_printPlain_eq_cons line.2
    rw [hprint]
    exact skipBlanks_cons hblank _
  have hread : (readValue ((skipBlanks (' ' :: (printPlain line.2 ++ '\n' :: rest))).length + 1) maxDepth
      (skipBlanks (' ' :: (printPlain line.2 ++ '\n' :: rest)))).map
        (fun r => (Statement.assign [] line.1 r.1, r.2))
      = some (.assign [] line.1 line.2.value, '\n' :: rest) := by
    rw [hskip, readValue_printPlain hvalue]
    rfl
  have htext : line.1.toList ++ [' ', '=', ' '] ++ printPlain line.2 ++ '\n' :: rest
      = line.1.toList ++ ([' '] ++ '=' :: ' ' :: (printPlain line.2 ++ '\n' :: rest)) := by
    simp
  rw [htext, readStatement]
  . rw [hkey]
    exact hread
  . intro rest'
    exact append_ne_bracket_cons h _ _
  . intro rest'
    exact append_ne_bracket_cons h _ _

theorem readLineEnd_cons {c : Char} (hblank : isBlank c = false) (hcomment : c ≠ '#') (hfeed : c ≠ '\n')
    (hreturn : c ≠ '\r') (text : List Char) : readLineEnd (c :: text) = none := by
  have hne : ∀ rest, c :: text ≠ '#' :: rest := fun rest heq => hcomment (List.cons.inj heq).1
  unfold readLineEnd
  rw [skipBlanks_cons hblank]
  dsimp only
  split
  . next heq =>
    split at heq
    . next heq' => exact absurd heq' (hne _)
    . cases heq
  . next heq =>
    split at heq
    . next heq' => exact absurd heq' (hne _)
    . exact absurd (List.cons.inj heq).1 hfeed
  . next heq =>
    split at heq
    . next heq' => exact absurd heq' (hne _)
    . exact absurd (List.cons.inj heq).1 hreturn
  . rfl

def Makes (text : List Char) (statements : List Statement) : Prop :=
  ∀ fuel before, text.length < fuel →
    readStatements fuel before text = some (before.reverse ++ statements)

namespace Makes

variable {statements : List Statement}

theorem nil : Makes [] [] := by
  intro fuel before hfuel
  obtain ⟨fuel, rfl⟩ := Nat.exists_eq_succ_of_ne_zero (Nat.ne_of_gt hfuel)
  rw [List.append_nil]
  rfl

theorem eq_nil (h : Makes [] statements) : statements = [] := by
  have hread := h 1 [] (by decide)
  exact (Option.some.inj hread).symm

theorem emptyLine (h : Makes rest statements) : Makes ('\n' :: rest) statements := by
  intro fuel before hfuel
  cases fuel with
  | zero => cases hfuel
  | succ fuel =>
    cases rest with
    | nil =>
      rw [h.eq_nil, List.append_nil]
      rfl
    | cons c rest => exact h fuel before (Nat.lt_of_succ_lt_succ hfuel)

theorem statement {c : Char} {line : List Char} {s : Statement} (hblank : isBlank c = false)
    (hcomment : c ≠ '#') (hfeed : c ≠ '\n') (hreturn : c ≠ '\r')
    (hread : readStatement (c :: line ++ '\n' :: rest) = some (s, '\n' :: rest))
    (h : Makes rest statements) : Makes (c :: line ++ '\n' :: rest) (s :: statements) := by
  intro fuel before hfuel
  cases fuel with
  | zero => cases hfuel
  | succ fuel =>
    have hend : readLineEnd (c :: line ++ '\n' :: rest) = none :=
      readLineEnd_cons hblank hcomment hfeed hreturn _
    have hskip : skipBlanks (c :: line ++ '\n' :: rest) = c :: line ++ '\n' :: rest :=
      skipBlanks_cons hblank _
    have hfeed : readLineEnd ('\n' :: rest) = some rest := rfl
    rw [readStatements, hend, hskip, hread]
    dsimp only
    rw [hfeed]
    cases rest with
    | nil =>
      rw [h.eq_nil]
      exact congrArg some (List.reverse_cons)
    | cons d rest =>
      have hrest := h fuel (s :: before) (by simp at hfuel ⊢; omega)
      rw [List.reverse_cons, List.append_assoc] at hrest
      exact hrest

end Makes

def sectionStatements (s : String × List (String × Plain)) : List Statement :=
  .header [] s.1 :: s.2.map fun line => .assign [] line.1 line.2.value

structure IsSection (s : String × List (String × Plain)) : Prop where
  name : IsKey s.1
  keys : ∀ line ∈ s.2, IsKey line.1
  values : ∀ line ∈ s.2, line.2.IsWritable

theorem makes_printLine {line : String × Plain} (hkey : IsKey line.1) (hvalue : line.2.IsWritable)
    {statements : List Statement} (h : Makes rest statements) :
    Makes (printLine line ++ rest) (.assign [] line.1 line.2.value :: statements) := by
  obtain ⟨c, letters, hlist, hc⟩ := exists_eq_cons_of_isKey hkey
  obtain ⟨hblank, hcomment, hfeed, hreturn, -⟩ := not_isBlank_of_isKeyChar hc
  have hread := readStatement_line hkey hvalue rest
  have htext : printLine line ++ rest
      = c :: (letters ++ [' ', '=', ' '] ++ printPlain line.2) ++ '\n' :: rest := by
    unfold printLine
    rw [hlist]
    simp
  rw [hlist, List.cons_append, List.cons_append] at hread
  rw [htext]
  exact h.statement hblank hcomment hfeed hreturn hread

theorem makes_lines {lines : List (String × Plain)} (hkeys : ∀ line ∈ lines, IsKey line.1)
    (hvalues : ∀ line ∈ lines, line.2.IsWritable) {statements : List Statement}
    (h : Makes rest statements) :
    Makes (lines.flatMap printLine ++ rest)
      ((lines.map fun line => .assign [] line.1 line.2.value) ++ statements) := by
  induction lines with
  | nil => exact h
  | cons line lines ih =>
    have hlines := ih (fun l hl => hkeys l (List.mem_cons_of_mem _ hl))
      fun l hl => hvalues l (List.mem_cons_of_mem _ hl)
    rw [List.flatMap_cons, List.append_assoc]
    exact makes_printLine (hkeys line List.mem_cons_self) (hvalues line List.mem_cons_self) hlines

theorem makes_printSection {s : String × List (String × Plain)} (hs : IsSection s)
    {statements : List Statement} (h : Makes rest statements) :
    Makes (printSection s.1 s.2 ++ rest) (sectionStatements s ++ statements) := by
  have hlines := makes_lines hs.keys hs.values h
  have htext : printSection s.1 s.2 ++ rest
      = '[' :: (s.1.toList ++ [']']) ++ '\n' :: (s.2.flatMap printLine ++ rest) := by
    unfold printSection
    simp
  rw [htext]
  exact hlines.statement (by decide) (by decide) (by decide) (by decide)
    (readStatement_header hs.name _)

theorem makes_printSections {sections : List (String × List (String × Plain))}
    (h : ∀ s ∈ sections, IsSection s) :
    Makes (printSections sections) (sections.flatMap sectionStatements) := by
  unfold printSections
  induction sections with
  | nil => exact Makes.nil
  | cons s sections ih =>
    have hs := h s List.mem_cons_self
    have hrest := ih fun s hmem => h s (List.mem_cons_of_mem _ hmem)
    cases sections with
    | nil =>
      have hmakes := makes_printSection hs Makes.nil
      rw [List.append_nil] at hmakes
      simpa using hmakes
    | cons t sections =>
      have hmakes := makes_printSection hs hrest.emptyLine
      rw [List.map_cons, List.map_cons, List.intercalate_cons_cons, List.append_assoc]
      exact hmakes

end LockFleet.Toml
