import Linkage.Settings.Value

/-!
Tables under construction. A table comes into being by a header of its own, by the header of a table
inside it, or by a dotted key; which of these decides what may still be added to it.
-/
namespace Linkage.Toml

/-- How a table came into being. -/
inductive TableKind where
  | declared | implied | dotted
  deriving DecidableEq, Repr

/-- A table: how it came into being, where, and its members in order. -/
structure TableOf (α : Type) where
  kind : TableKind
  place : Option Nat
  entries : List (Key × α)
  deriving DecidableEq, Repr

/-- A member of a table: a finished value, a table, or a list of tables that is given table by
table. -/
inductive Item where
  | value (v : Placed Value)
  | table (t : TableOf Item)
  | tables (elements : List (TableOf Item))

/-- A table under construction. -/
abbrev Table := TableOf Item

namespace Table

/-- A table without members. -/
def new (kind : TableKind) (place : Option Nat) : Table := ⟨kind, place, []⟩

/-- The member of a name. -/
def get? (t : Table) (name : String) : Option Item :=
  (t.entries.find? fun (key, _) => key.value == name).map Prod.snd

/-- The table with a member replaced, which keeps its place. -/
def replace (t : Table) (name : String) (item : Item) : Table :=
  { t with entries := t.entries.map fun (key, old) =>
      if key.value == name then (key, item) else (key, old) }

/-- The table with a member added at the end. -/
def add (t : Table) (key : Key) (item : Item) : Table :=
  { t with entries := t.entries ++ [(key, item)] }

/-- The table without a member. -/
def erase (t : Table) (name : String) : Table :=
  { t with entries := t.entries.filter fun (key, _) => key.value != name }

/-- Changes the table that a path of keys leads to. Missing tables come into being as `kind`; from a
list of tables the path leads on from the last. A dotted key does not lead into a declared table. -/
def change (kind : TableKind) (f : Table → Option Table) : List Key → Table → Option Table
  | [], t => f t
  | key :: path, t =>
    match t.get? key.value with
    | none => do return t.add key (.table (← change kind f path (new kind none)))
    | some (.value _) => none
    | some (.table child) => do
      guard !(kind == .dotted && child.kind == .declared)
      return t.replace key.value (.table (← change kind f path child))
    | some (.tables elements) => do
      let last ← elements.getLast?
      return t.replace key.value (.tables (elements.dropLast ++ [← change kind f path last]))

/-- Assigns a value to a key, dotted or not. A dotted key adds only to a table that came into being
by dotted keys, and a key is assigned once. -/
def assign (t : Table) (path : List Key) (v : Placed Value) : Option Table := do
  let key ← path.getLast?
  let parents := path.dropLast
  change .dotted (fun parent => do
    guard ((parent.kind == .dotted) == !parents.isEmpty)
    guard (parent.get? key.value).isNone
    return parent.add key (.value v)) parents t

/-- Assigns values to keys in order. -/
def assignAll (t : Table) (assignments : List (List Key × Placed Value)) : Option Table :=
  assignments.foldlM (fun t (path, v) => t.assign path v) t

/-- Declares a table by its header and assigns to its keys. It may have come into being by the
header of a table inside it, whose place among the members it then gives up. -/
def declare (t : Table) (path : List Key) (place : Nat)
    (assignments : List (List Key × Placed Value)) : Option Table := do
  let key ← path.getLast?
  change .implied (fun parent => do
    let entries ← match parent.get? key.value with
      | none => some []
      | some (.table child) => if child.kind == .implied then some child.entries else none
      | some _ => none
    let table ← assignAll ⟨.declared, some place, entries⟩ assignments
    return (parent.erase key.value).add key (.table table)) path.dropLast t

/-- Declares a further table of a list of tables by its header and assigns to its keys. -/
def declareElement (t : Table) (path : List Key) (place : Nat)
    (assignments : List (List Key × Placed Value)) : Option Table := do
  let key ← path.getLast?
  change .implied (fun parent => do
    let element ← assignAll (new .declared (some place)) assignments
    match parent.get? key.value with
    | none => return parent.add key (.tables [element])
    | some (.tables elements) => return parent.replace key.value (.tables (elements ++ [element]))
    | some _ => none) path.dropLast t

end Table

mutual
/-- The finished value of a member. A list of tables stands where its first table does. -/
def Item.finish : Item → Placed Value
  | .value v => v
  | .table t => finishTable t
  | .tables elements =>
    ⟨elements.head?.bind TableOf.place, .list (finishTables elements)⟩
/-- The finished value of a table. -/
def finishTable : TableOf Item → Placed Value
  | ⟨_, place, entries⟩ => ⟨place, .table (finishEntries entries)⟩
/-- The finished values of tables. -/
def finishTables : List (TableOf Item) → List (Placed Value)
  | [] => []
  | t :: rest => finishTable t :: finishTables rest
/-- The finished members of a table. A member without a place of its own stands where its key
does. -/
def finishEntries : List (Key × Item) → List (Key × Placed Value)
  | [] => []
  | (key, item) :: rest =>
    let v := item.finish
    (key, ⟨v.place <|> key.place, v.value⟩) :: finishEntries rest
end

end Linkage.Toml
