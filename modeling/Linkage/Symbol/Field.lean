import Linkage.Symbol.Type

/-!
Field descriptors: a name and a type. Both distinguish fields.
-/
namespace Linkage
open Std

/-- The name and the type of a field. -/
structure FieldDescriptor where
  name : String
  type : TypeDescriptor
  deriving DecidableEq, Repr

namespace FieldDescriptor

/-- The type and the name, for readers. -/
def pretty (f : FieldDescriptor) : String := f.type.pretty ++ " " ++ f.name

/-- The field of a given name whose type is written in compact form. -/
def ofRaw (text name : String) : Except SymbolError FieldDescriptor := do
  return ⟨name, ← TypeDescriptor.ofRaw text⟩

/-- Fields compare by name, then by type. -/
instance : Ord FieldDescriptor := ⟨compareLex (compareOn name) (compareOn type)⟩

instance : TransOrd FieldDescriptor :=
  inferInstanceAs (TransCmp (compareLex (compareOn name) (compareOn type)))

instance : LawfulEqOrd FieldDescriptor where
  eq_of_compare {a b} h := by
    have h := compareLex_eq_eq.1 h
    simp only [compareOn_eq_eq] at h
    cases a; cases b; simp_all

end FieldDescriptor
end Linkage
