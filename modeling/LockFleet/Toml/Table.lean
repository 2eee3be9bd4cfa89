import LockFleet.Toml.Value

/-!
This module contains the tables of a TOML document while the document is read. A table may be opened
by its own header only once, and dotted keys extend only tables that dotted keys made.
-/

namespace LockFleet.Toml

inductive Item where
  | value (v : Value)
  /-- A table, which is implicit until it has a header of its own, and dotted if a dotted key made it. -/
  | table (isImplicit isDotted : Bool) (members : List (String × Item))
  /-- The tables of an array, each of which has a header, with the last one first. -/
  | tables (elements : List (List (String × Item)))
  deriving Inhabited

structure Table where
  isImplicit : Bool
  isDotted : Bool
  members : List (String × Item)
  deriving Inhabited

namespace Table

def explicit (members : List (String × Item)) : Table :=
  ⟨false, false, members⟩

def find? (t : Table) (key : String) : Option Item :=
  (t.members.find? fun m => m.1 == key).map Prod.snd

def set (t : Table) (key : String) (item : Item) : Table :=
  if t.members.any fun m => m.1 == key then
    { t with members := t.members.map fun m => if m.1 == key then (key, item) else m }
  else { t with members := t.members ++ [(key, item)] }

def toItem (t : Table) : Item :=
  .table t.isImplicit t.isDotted t.members

/--
Changes the table at a path below a table. Tables that are missing on the way are made, and an array
of tables leads to its last one. A dotted path does not lead through a table with a header.
-/
def change (dotted : Bool) (f : Table → Option Table) (t : Table) : List String → Option Table
  | [] => f t
  | key :: path =>
    match t.find? key with
    | none => (change dotted f ⟨true, dotted, []⟩ path).map fun u => t.set key u.toItem
    | some (.value _) => none
    | some (.table isImplicit isDotted members) =>
      if dotted && !isImplicit then none
      else (change dotted f ⟨isImplicit, isDotted, members⟩ path).map fun u => t.set key u.toItem
    | some (.tables []) => none
    | some (.tables (last :: before)) =>
      (change dotted f (explicit last) path).map fun u => t.set key (.tables (u.members :: before))

def assign (path : List String) (key : String) (item : Item) (t : Table) : Option Table :=
  t.change true (fun u =>
    if u.isDotted == path.isEmpty then none
    else
      match u.find? key with
      | some _ => none
      | none => some (u.set key item)) path

/--
Opens the table of a header. It may be there already if it is implicit and was not made by a dotted
key.
-/
def openTable (key : String) (parent : Table) : Option Table :=
  match parent.find? key with
  | none => some (parent.set key (.table false false []))
  | some (.table true false members) => some (parent.set key (.table false false members))
  | some _ => none

def openElement (key : String) (parent : Table) : Option Table :=
  match parent.find? key with
  | none => some (parent.set key (.tables [[]]))
  | some (.tables elements) => some (parent.set key (.tables ([] :: elements)))
  | some _ => none

end Table

mutual

def Item.toValue : Item → Value
  | .value v => v
  | .table _ _ members => .table (Item.toMembers members)
  | .tables elements => .array (Item.toElements elements).reverse
termination_by structural i => i

def Item.toMembers : List (String × Item) → List (String × Value)
  | [] => []
  | m :: rest => Item.toMember m :: Item.toMembers rest
termination_by structural members => members

def Item.toMember : String × Item → String × Value
  | (key, i) => (key, i.toValue)
termination_by structural m => m

def Item.toElements : List (List (String × Item)) → List Value
  | [] => []
  | members :: rest => .table (Item.toMembers members) :: Item.toElements rest
termination_by structural elements => elements

end

def tableOfPairs? (pairs : List (List String × String × Value)) : Option Value :=
  let build := pairs.foldlM (fun (t : Table) p => t.assign p.1 p.2.1 (.value p.2.2)) (.explicit [])
  build.map fun t => t.toItem.toValue

end LockFleet.Toml
