import LockFleet.Proofs.Json.Members
import LockFleet.Text.Decimal
import LockFleet.Text.Hex

/-!
This module contains the grammar of JSON: which texts write a value. There are many for each value,
since characters can be written raw or escaped, members in any order, and blanks between tokens.
-/

namespace LockFleet.Json

def IsBlank (text : List Char) : Prop :=
  ∀ c ∈ text, c ∈ [' ', '\t', '\n', '\r']

def IsUnit (n : Nat) (digits : List Char) : Prop :=
  n < 0x10000 ∧ digits.map Char.toLower = Text.hexDigits 4 n

def shortEscapes : List (Char × Char) :=
  [('"', '"'), ('\\', '\\'), ('/', '/'), ('b', '\x08'), ('f', '\x0c'), ('n', '\n'), ('r', '\r'),
    ('t', '\t')]

inductive SpellsChar (c : Char) : List Char → Prop where
  | raw (hcontrol : 0x20 ≤ c.toNat) (hquote : c ≠ '"') (hbackslash : c ≠ '\\') : SpellsChar c [c]
  | short {letter : Char} (h : (letter, c) ∈ shortEscapes) : SpellsChar c ['\\', letter]
  | unit {digits : List Char} (h : IsUnit c.toNat digits) : SpellsChar c ('\\' :: 'u' :: digits)
  | pair {lead trail : List Char} (hc : 0x10000 ≤ c.toNat)
    (hlead : IsUnit (0xD800 + (c.toNat - 0x10000) / 0x400) lead)
    (htrail : IsUnit (0xDC00 + (c.toNat - 0x10000) % 0x400) trail) :
    SpellsChar c ('\\' :: 'u' :: lead ++ '\\' :: 'u' :: trail)

inductive SpellsChars : List Char → List Char → Prop where
  | nil : SpellsChars [] []
  | cons {c : Char} {rest part text : List Char} (h : SpellsChar c part)
    (hrest : SpellsChars rest text) : SpellsChars (c :: rest) (part ++ text)

inductive SpellsString (s : String) : List Char → Prop where
  | quoted {text : List Char} (h : SpellsChars s.toList text) : SpellsString s ('"' :: text ++ ['"'])

mutual

/--
A text writes a value. The members of an object have different names, and they are written in any
order.
-/
inductive Spells : Json → List Char → Prop where
  | null : Spells .null ['n', 'u', 'l', 'l']
  | true : Spells (.bool true) ['t', 'r', 'u', 'e']
  | false : Spells (.bool false) ['f', 'a', 'l', 's', 'e']
  | integer {n : Int} (hleast : -(maxSigned + 1) ≤ n) (hmost : n ≤ maxWord) :
    Spells (.integer n) (Text.integerText n)
  | string {s : String} {text : List Char} (h : SpellsString s text) : Spells (.string s) text
  | emptyArray {text : List Char} (h : IsBlank text) : Spells (.array []) ('[' :: text ++ [']'])
  | array {items : List Json} {text : List Char} (h : SpellsItems items text) :
    Spells (.array items) ('[' :: text ++ [']'])
  | emptyObject {text : List Char} (h : IsBlank text) : Spells (.object []) ('{' :: text ++ ['}'])
  | object {members written : List (String × Json)} {text : List Char} (hsorted : Ascending members)
    (hperm : written.Perm members) (h : SpellsMembers written text) :
    Spells (.object members) ('{' :: text ++ ['}'])

inductive SpellsPadded : Json → List Char → Prop where
  | padded {v : Json} {before text after : List Char} (hbefore : IsBlank before) (h : Spells v text)
    (hafter : IsBlank after) : SpellsPadded v (before ++ text ++ after)

inductive SpellsItems : List Json → List Char → Prop where
  | single {v : Json} {text : List Char} (h : SpellsPadded v text) : SpellsItems [v] text
  | cons {v : Json} {rest : List Json} {text restText : List Char} (h : SpellsPadded v text)
    (hrest : SpellsItems rest restText) : SpellsItems (v :: rest) (text ++ ',' :: restText)

inductive SpellsMember : String × Json → List Char → Prop where
  | member {name : String} {v : Json} {before nameText after text : List Char}
    (hbefore : IsBlank before) (hname : SpellsString name nameText) (hafter : IsBlank after)
    (h : SpellsPadded v text) : SpellsMember (name, v) (before ++ nameText ++ after ++ ':' :: text)

inductive SpellsMembers : List (String × Json) → List Char → Prop where
  | single {m : String × Json} {text : List Char} (h : SpellsMember m text) : SpellsMembers [m] text
  | cons {m : String × Json} {rest : List (String × Json)} {text restText : List Char}
    (h : SpellsMember m text) (hrest : SpellsMembers rest restText) :
    SpellsMembers (m :: rest) (text ++ ',' :: restText)

end

end LockFleet.Json
