import Linkage.Classpath.Path
import Linkage.Data.SortedSet
import Linkage.Settings.Value

/-!
Reading values as what a program needs: flags, texts, numbers, lists and records. A record is read
from a table, whose members may stand in any order, or from a list, whose items stand in the order
of the fields.
-/
namespace Linkage

/-- Why a value is not what is needed. -/
inductive SettingFault where
  | unknownField (name : String) (known : List String)
  | missingField (name : String)
  | wrongType (found expected : String)
  | outOfRange (value : Int) (expected : String)
  | wrongLength (length : Nat) (expected : String)
  deriving DecidableEq, Repr

/-- The fields that a record has, in a message. -/
def SettingFault.expectedFields : List String → String
  | [] => "there are no fields"
  | [name] => s!"expected `{name}`"
  | [first, second] => s!"expected `{first}` or `{second}`"
  | names => "expected one of " ++ Text.join ", " (names.map fun name => s!"`{name}`")

/-- The message of a fault. -/
def SettingFault.message : SettingFault → String
  | .unknownField name known => s!"unknown field `{name}`, {expectedFields known}"
  | .missingField name => s!"missing field `{name}`"
  | .wrongType found expected => s!"invalid type: {found}, expected {expected}"
  | .outOfRange value expected => s!"invalid value: integer `{value}`, expected {expected}"
  | .wrongLength length expected => s!"invalid length {length}, expected {expected}"

/-- A fault with the place of the value. -/
structure SettingError where
  fault : SettingFault
  place : Option Nat
  deriving DecidableEq, Repr

/-- The message of a fault, with its place if there is one. -/
def SettingError.message (e : SettingError) : String :=
  match e.place with
  | some place => s!"{e.fault.message} (at byte {place})"
  | none => e.fault.message

/-- A way to read a value. -/
abbrev Setting (α : Type) := ValueSource → Placed Value → Except SettingError α

namespace Setting

/-- Refuses a value of the wrong type. -/
def refuse {α : Type} (expected : String) : Setting α := fun source v =>
  .error ⟨.wrongType (v.value.describe source) expected, v.place⟩

/-- A flag. -/
def boolean : Setting Bool := fun source v =>
  match v.value with
  | .boolean b => .ok b
  | _ => refuse "a boolean" source v

/-- A text. -/
def text : Setting String := fun source v =>
  match v.value with
  | .text s => .ok s
  | _ => refuse "a string" source v

/-- A path. -/
def path : Setting Path := fun source v =>
  match v.value with
  | .text s => .ok ⟨s⟩
  | _ => refuse "path string" source v

/-- A natural number below a bound. -/
def natural (bound : Nat) (expected : String) : Setting Nat := fun source v =>
  match v.value with
  | .integer n =>
    if 0 ≤ n ∧ n < bound then .ok n.toNat else .error ⟨.outOfRange n expected, v.place⟩
  | _ => refuse expected source v

/-- Something that may be absent. -/
def optional {α : Type} (s : Setting α) : Setting (Option α) := fun source v =>
  match v.value with
  | .null => .ok none
  | _ => some <$> s source v

/-- A list. -/
def list {α : Type} (item : Setting α) : Setting (List α) := fun source v =>
  match v.value with
  | .list items => items.mapM (item source)
  | _ => refuse "a sequence" source v

/-- A set of texts, given as a list. -/
def textSet : Setting (SortedSet String) := fun source v =>
  SortedSet.ofList <$> list text source v

end Setting

/-- A field of a record `σ`: its name, whether it must be there, and how its value is read and
stored. -/
structure RecordField (σ : Type) where
  name : String
  required : Bool
  store : ValueSource → Placed Value → σ → Except SettingError σ

/-- A field that may be left out. -/
def RecordField.of {α σ : Type} (name : String) (setting : Setting α) (put : σ → α → σ) :
    RecordField σ :=
  ⟨name, false, fun source v record => put record <$> setting source v⟩

/-- A record as it is read: its name and its fields. -/
structure RecordShape (σ : Type) where
  name : String
  fields : List (RecordField σ)

namespace RecordShape
variable {σ : Type}

/-- What stands in front of a record in a message. -/
def title (shape : RecordShape σ) : String := "struct " ++ shape.name

/-- The fault of a field that the record does not have. -/
def unknownField (shape : RecordShape σ) (name : String) : SettingFault :=
  .unknownField name (shape.fields.map RecordField.name)

/-- Stores the members of a table. -/
def storeEntries (shape : RecordShape σ) (source : ValueSource) (record : σ)
    (entries : List (Key × Placed Value)) : Except SettingError σ :=
  entries.foldlM (fun record (key, v) =>
    match shape.fields.find? fun field => field.name == key.value with
    | some field => field.store source v record
    | none => .error ⟨shape.unknownField key.value, key.place⟩) record

/-- Stores the items of a list in the fields of the same positions. -/
def storeItems (shape : RecordShape σ) (source : ValueSource) (record : σ)
    (items : List (Placed Value)) : Except SettingError σ :=
  (shape.fields.zip items).foldlM (fun record (field, v) => field.store source v record) record

/-- The required field that a table lacks, the first of several. -/
def lacking? (shape : RecordShape σ) (entries : List (Key × Placed Value)) :
    Option (RecordField σ) :=
  shape.fields.find? fun field =>
    field.required && !entries.any fun (key, _) => key.value == field.name

/-- What a moment looks like to a record: a table with one member of this name. -/
def momentField : String := "$__toml_private_datetime"

/-- Reads a record; fields that are left out keep the values of `initial`. -/
def read (shape : RecordShape σ) (initial : σ) : Setting σ := fun source v =>
  match v.value with
  | .table entries => do
    let record ← shape.storeEntries source initial entries
    match shape.lacking? entries with
    | some field => throw ⟨.missingField field.name, v.place⟩
    | none => return record
  | .list items => do
    let record ← shape.storeItems source initial items
    if (shape.fields.drop items.length).any RecordField.required then
      throw ⟨.wrongLength items.length s!"{shape.title} with {shape.fields.length} elements",
        v.place⟩
    if shape.fields.length < items.length && !source.allowsExtraItems then
      throw ⟨.wrongLength items.length "fewer elements in array", v.place⟩
    return record
  | .moment => .error ⟨shape.unknownField momentField, v.place⟩
  | _ => Setting.refuse shape.title source v

end RecordShape
end Linkage
