import Linkage.Symbol.Field
import Linkage.Symbol.Method

/-!
Symbolic references to members of classes, and the sites in bytecode that make them.
-/
namespace Linkage
open Std
universe u

/-- A reference to a member: the class it is looked for in, what identifies it there, and whether
it belongs to the class itself or to its instances. -/
structure Reference (δ : Type u) where
  owner : ClassName
  descriptor : δ
  isStatic : Bool
  deriving DecidableEq, Repr

/-- A reference to a method. -/
abbrev MethodReference := Reference MethodDescriptor

/-- A reference to a field. -/
abbrev FieldReference := Reference FieldDescriptor

/-- A reference to a method or to a field. -/
inductive MemberReference where
  | method (r : MethodReference)
  | field (r : FieldReference)
  deriving DecidableEq, Repr

namespace Reference
variable {δ : Type u} [Ord δ]

/-- References compare by owner, then by descriptor; those to instances come first. -/
instance : Ord (Reference δ) :=
  ⟨compareLex (compareOn owner) (compareLex (compareOn descriptor) (compareOn isStatic))⟩

instance [TransOrd δ] : TransOrd (Reference δ) := inferInstanceAs
  (TransCmp (compareLex (compareOn owner) (compareLex (compareOn descriptor) (compareOn isStatic))))

instance [TransOrd δ] [LawfulEqOrd δ] : LawfulEqOrd (Reference δ) where
  eq_of_compare {a b} h := by
    have h := compareLex_eq_eq.1 h
    simp only [compareLex_eq_eq, compareOn_eq_eq] at h
    cases a; cases b; simp_all

end Reference

namespace MethodReference

/-- The return type, the owner with the name, and the parameter types, for readers. -/
def pretty (r : MethodReference) : String :=
  r.descriptor.returnType.pretty ++ " " ++ r.owner.dotted ++ "." ++ r.descriptor.prettyCall

/-- The form for readers, which also tells whether the method is static. -/
def display (r : MethodReference) : String :=
  (if r.isStatic then "static " else "") ++ pretty r

end MethodReference

namespace FieldReference

/-- The owner with the name, and the type, for readers. -/
def pretty (r : FieldReference) : String :=
  r.owner.dotted ++ "#" ++ r.descriptor.name ++ " (" ++ r.descriptor.type.pretty ++ ")"

/-- The type, and the owner with the name. -/
def display (r : FieldReference) : String :=
  r.descriptor.type.pretty ++ " " ++ r.owner.dotted ++ "." ++ r.descriptor.name

end FieldReference

namespace MemberReference

/-- The class that the member is looked for in. -/
def owner : MemberReference → ClassName
  | .method r => r.owner
  | .field r => r.owner

/-- Whether the member belongs to the class itself. -/
def isStatic : MemberReference → Bool
  | .method r => r.isStatic
  | .field r => r.isStatic

/-- The form in conflict reasons. -/
def pretty : MemberReference → String
  | .method r => MethodReference.pretty r
  | .field r => FieldReference.pretty r

/-- The form in listings. -/
def display : MemberReference → String
  | .method r => MethodReference.display r
  | .field r => FieldReference.display r

/-- The position of the kind of a member in the order: methods come first. -/
def kindRank : MemberReference → Nat
  | .method _ => 0
  | .field _ => 1

/-- The reference to a method that a member reference is, if it is one. -/
def method? : MemberReference → Option MethodReference
  | .method r => some r
  | .field _ => none

/-- The reference to a field that a member reference is, if it is one. -/
def field? : MemberReference → Option FieldReference
  | .method _ => none
  | .field r => some r

/-- Methods come before fields. -/
instance : Ord MemberReference :=
  ⟨compareLex (compareOn kindRank) (compareLex (compareOn method?) (compareOn field?))⟩

instance : TransOrd MemberReference := inferInstanceAs
  (TransCmp (compareLex (compareOn kindRank) (compareLex (compareOn method?) (compareOn field?))))

instance : LawfulEqOrd MemberReference where
  eq_of_compare {a b} h := by
    have h := compareLex_eq_eq.1 h
    simp only [compareLex_eq_eq, compareOn_eq_eq] at h
    cases a <;> cases b <;> simp_all [kindRank, method?, field?]

/-- The member of a class that a name and a compact form denote: a method if the form starts with a
parenthesis, else a field. -/
def ofRaw (owner : ClassName) (name text : String) (isStatic : Bool) :
    Except SymbolError MemberReference := do
  if Text.startsWith "(" text then
    return .method ⟨owner, ← MethodDescriptor.ofRaw text name, isStatic⟩
  else
    return .field ⟨owner, ← FieldDescriptor.ofRaw text name, isStatic⟩

end MemberReference

/-- A place in a method that refers to a member: the source line, 0 where it is unknown, and the
exceptions caught there. -/
structure CallSite (ρ : Type u) where
  reference : ρ
  line : Nat
  caught : SortedSet ClassName
  deriving DecidableEq

namespace CallSite
variable {ρ : Type u}

/-- Whether an exception for which `accepts` holds is caught at the site. -/
def catches (accepts : ClassName → Bool) (s : CallSite ρ) : Bool := s.caught.toList.any accepts

/-- Sites compare by reference, then by line, then by the exceptions caught. -/
instance [Ord ρ] : Ord (CallSite ρ) :=
  ⟨compareLex (compareOn reference) (compareLex (compareOn line) (compareOn caught))⟩

instance [Ord ρ] [TransOrd ρ] : TransOrd (CallSite ρ) := inferInstanceAs
  (TransCmp (compareLex (compareOn reference) (compareLex (compareOn line) (compareOn caught))))

instance [Ord ρ] [TransOrd ρ] [LawfulEqOrd ρ] : LawfulEqOrd (CallSite ρ) where
  eq_of_compare {a b} h := by
    have h := compareLex_eq_eq.1 h
    simp only [compareLex_eq_eq, compareOn_eq_eq] at h
    cases a; cases b; simp_all

end CallSite
end Linkage
