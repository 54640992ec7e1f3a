import Linkage.Number.Shortest
import Linkage.Text.Quoted

/-!
The values that settings are read from, with the places in the text where they stand.
-/
namespace Linkage

/-- Something with the byte offset at which it starts, if it stands in a text. -/
structure Placed (α : Type) where
  place : Option Nat
  value : α
  deriving DecidableEq, Repr

/-- The name of a member of a table. -/
abbrev Key := Placed String

/-- A value. A moment is a date, a time or both; what it says is not kept. -/
inductive Value where
  | null
  | boolean (value : Bool)
  | integer (value : Int)
  | real (value : Binary64)
  | text (value : String)
  | moment
  | list (items : List (Placed Value))
  | table (entries : List (Key × Placed Value))
  deriving Inhabited

/-- What is special about where values come from: how numbers are written in messages, and whether a
list that stands for a record may hold more than the record. -/
structure ValueSource where
  isPositional : Int → Bool
  allowsExtraItems : Bool

namespace ValueSource

/-- Values of a TOML document. Numbers are always written without an exponent. -/
def toml : ValueSource := ⟨fun _ => true, true⟩

/-- JSON values. Numbers are written without an exponent if that needs few zeros and digits. -/
def json : ValueSource := ⟨fun wholeDigits => -5 < wholeDigits && wholeDigits ≤ 16, false⟩

end ValueSource

/-- A value in a message. -/
def Value.describe (source : ValueSource) : Value → String
  | .null => "null"
  | .boolean value => s!"boolean `{value}`"
  | .integer value => s!"integer `{value}`"
  | .real value => s!"floating point `{value.text source.isPositional}`"
  | .text value => "string " ++ Text.quoted value
  | .moment => "map"
  | .list _ => "sequence"
  | .table _ => "map"

end Linkage
