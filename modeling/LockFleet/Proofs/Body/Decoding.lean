import LockFleet.Body
import LockFleet.Proofs.Json.Reading

/-!
This module contains the proof that a body decodes to the object that it writes, if that is not nested
too deep.
-/

namespace LockFleet

namespace Json

variable {text : List Char} {v : Json}

theorem read_of_reads (h : Reads v text) :
    (v.depth ≤ 127 → ∃ raw, read (Utf8.encode text) = .ok raw ∧ raw.normalize = v) ∧
    (127 < v.depth → ∃ refusal, read (Utf8.encode text) = .error refusal) := by
  obtain ⟨raw, hraw, hdepth, hreads⟩ := h
  rw [← hdepth]
  obtain ⟨hread, hrefuse⟩ := read_of_readsAs hreads
  exact ⟨fun hfits => ⟨raw, hread hfits, hraw⟩, hrefuse⟩

theorem brace_mem_of_spells {members : List (String × Json)} (h : Spells (.object members) text) :
    '\x7b' ∈ text := by
  cases h with
  | emptyObject h => exact List.mem_cons_self
  | object hsorted hperm h => exact List.mem_cons_self

end Json

namespace Body

open Json (IsBlank Spells SpellsPadded SpellsString)

theorem not_isBlank_of_spellsPadded {members : Members} {text : List Char}
    (h : SpellsPadded (.object members) text) : (Utf8.encode text).all isBlank = false := by
  cases h with
  | padded hbefore h hafter =>
    apply List.all_eq_false.2
    refine ⟨0x7B, ?_, by decide⟩
    apply List.mem_flatMap.2
    exact ⟨'\x7b', by simp [Json.brace_mem_of_spells h], by decide⟩

theorem decode_of_spellsPadded {members : Members} {text : List Char}
    (h : SpellsPadded (.object members) text) :
    ((Json.object members).depth ≤ 127 → decode (Utf8.encode text) = .ok members) ∧
    (127 < (Json.object members).depth → ∃ i, decode (Utf8.encode text) = .error (.single i) ∧
      i.code = "invalid_json" ∧ i.path = "body") := by
  obtain ⟨hread, hrefuse⟩ := Json.read_of_reads (Json.reads_of_spellsPadded h)
  unfold decode
  rw [not_isBlank_of_spellsPadded h, if_neg Bool.false_ne_true]
  constructor
  . intro hfits
    obtain ⟨raw, hread, hnormal⟩ := hread hfits
    rw [hread]
    dsimp only
    rw [hnormal]
  . intro hdeep
    obtain ⟨refusal, hrefuse⟩ := hrefuse hdeep
    rw [hrefuse]
    exact ⟨_, rfl, rfl, rfl⟩

def smiling : List Char :=
  " \x7b\"b\\uD83D\\ude00\" :[ 18446744073709551615,-9223372036854775808\n],\"\\u0061\":\"é\\/\"\x7d\t".toList

def smile : Members :=
  [("a", .string "é/"), ("b😀", .array [.integer 18446744073709551615, .integer (-9223372036854775808)])]

theorem spellsPadded_smile : SpellsPadded (.object smile) smiling := by
  have hnil : IsBlank [] := by simp [IsBlank]
  have hspace : IsBlank [' '] := by simp [IsBlank]
  have htab : IsBlank ['\t'] := by simp [IsBlank]
  have hline : IsBlank ['\n'] := by simp [IsBlank]
  have hb : SpellsString "b😀" ('"' :: (['b'] ++ (('\\' :: 'u' :: ['D', '8', '3', 'D'] ++
      '\\' :: 'u' :: ['d', 'e', '0', '0']) ++ [])) ++ ['"']) := by
    refine .quoted (.cons (.raw ?_ ?_ ?_) (.cons (.pair ?_ ⟨?_, ?_⟩ ⟨?_, ?_⟩) .nil)) <;> decide
  have ha : SpellsString "a" ('"' :: (('\\' :: 'u' :: ['0', '0', '6', '1']) ++ []) ++ ['"']) := by
    refine .quoted (.cons (.unit ⟨?_, ?_⟩) .nil) <;> decide
  have hslash : SpellsString "é/" ('"' :: (['é'] ++ (['\\', '/'] ++ [])) ++ ['"']) := by
    refine .quoted (.cons (.raw ?_ ?_ ?_) (.cons (.short ?_) .nil)) <;> decide
  have hmost := SpellsPadded.padded hspace (Spells.integer (n := 18446744073709551615) (by decide)
    (by decide)) hnil
  have hleast := SpellsPadded.padded hnil (Spells.integer (n := -9223372036854775808) (by decide)
    (by decide)) hline
  have hbounds := SpellsPadded.padded hnil (.array (.cons hmost (.single hleast))) hnil
  have hstring := SpellsPadded.padded hnil (.string hslash) hnil
  have hspells := SpellsPadded.padded hspace (.object (by decide) (.swap ..)
    (.cons (.member hnil hb hspace hbounds) (.single (.member hnil ha hnil hstring)))) htab
  refine (congrArg (SpellsPadded (.object smile)) ?_).mp hspells
  decide +kernel

def nested : Nat → Json
  | 0 => .null
  | n + 1 => .array [nested n]

theorem depth_nested (n : Nat) : (nested n).depth = n := by
  induction n with
  | zero => rfl
  | succ n ih => simp [nested, Json.depth, Json.depthItems, ih]

theorem exists_spellsPadded_nested (n : Nat) :
    ∃ text, SpellsPadded (.object [("a", nested n)]) text := by
  have hnil : IsBlank [] := by simp [IsBlank]
  have hname : SpellsString "a" ('"' :: (['a'] ++ []) ++ ['"']) := by
    refine .quoted (.cons (.raw ?_ ?_ ?_) .nil) <;> decide
  have hnested : ∃ text, Json.Spells (nested n) text := by
    induction n with
    | zero => exact ⟨_, .null⟩
    | succ n ih =>
      obtain ⟨text, h⟩ := ih
      exact ⟨_, .array (.single (.padded hnil h hnil))⟩
  obtain ⟨text, h⟩ := hnested
  exact ⟨_, .padded hnil (.object (List.pairwise_singleton ..) (.refl _)
    (.single (.member hnil hname hnil (.padded hnil h hnil)))) hnil⟩

theorem decode_of_spellsPadded_smile :
    decode (Utf8.encode smiling) = .ok smile ∧
    ∃ text i, SpellsPadded (.object [("a", nested 127)]) text ∧
      decode (Utf8.encode text) = .error (.single i) ∧ i.code = "invalid_json" ∧ i.path = "body" := by
  refine ⟨(decode_of_spellsPadded spellsPadded_smile).1 (by decide), ?_⟩
  obtain ⟨text, h⟩ := exists_spellsPadded_nested 127
  have hdeep : 127 < (Json.object [("a", nested 127)]).depth := by
    simp [Json.depth, Json.depthMembers, Json.depthMember, depth_nested]
  obtain ⟨i, hdecode, hcode, hpath⟩ := (decode_of_spellsPadded h).2 hdeep
  exact ⟨text, i, h, hdecode, hcode, hpath⟩

end Body
end LockFleet
