import LockFleet.Binary64

/-!
This module contains JSON values. The members of an object are kept as they are written, in order and
with repeated names, so that a reader of records can tell a repeated name from a single one. The
meaning of an object, in which the last of several equal names wins, is its normal form.
-/

namespace LockFleet

inductive Json where
  | null
  | bool (b : Bool)
  | integer (n : Int)
  | real (x : Binary64)
  | string (s : String)
  | array (items : List Json)
  | object (members : List (String × Json))
  deriving Inhabited, Repr

namespace Json

def kind : Json → String
  | null => "null"
  | bool _ => "boolean"
  | integer _ => "number"
  | real _ => "number"
  | string _ => "string"
  | array _ => "array"
  | object _ => "object"

def insertMember (name : String) (value : Json) : List (String × Json) → List (String × Json)
  | [] => [(name, value)]
  | (n, v) :: rest =>
    if name < n then (name, value) :: (n, v) :: rest
    else if name = n then (name, value) :: rest
    else (n, v) :: insertMember name value rest

def sortMembers (members : List (String × Json)) : List (String × Json) :=
  members.foldl (fun sorted m => insertMember m.1 m.2 sorted) []

mutual

def normalize : Json → Json
  | array items => array (normalizeItems items)
  | object members => object (sortMembers (normalizeMembers members))
  | v => v
termination_by structural v => v

def normalizeItems : List Json → List Json
  | [] => []
  | v :: rest => normalize v :: normalizeItems rest
termination_by structural items => items

def normalizeMembers : List (String × Json) → List (String × Json)
  | [] => []
  | m :: rest => normalizeMember m :: normalizeMembers rest
termination_by structural members => members

def normalizeMember : String × Json → String × Json
  | (name, v) => (name, normalize v)
termination_by structural m => m

end

def member? (members : List (String × Json)) (name : String) : Option Json :=
  (members.find? fun m => m.1 == name).map Prod.snd

def objectOf (members : List (String × Option Json)) : Json :=
  object (members.filterMap fun m => m.2.map fun v => (m.1, v))

def stringOrNull (s : Option String) : Json :=
  match s with
  | some s => string s
  | none => null

mutual

def depth : Json → Nat
  | array items => depthItems items + 1
  | object members => depthMembers members + 1
  | _ => 0
termination_by structural v => v

def depthItems : List Json → Nat
  | [] => 0
  | v :: rest => max (depth v) (depthItems rest)
termination_by structural items => items

def depthMembers : List (String × Json) → Nat
  | [] => 0
  | m :: rest => max (depthMember m) (depthMembers rest)
termination_by structural members => members

def depthMember : String × Json → Nat
  | (_, v) => depth v
termination_by structural m => m

end

end Json
end LockFleet
