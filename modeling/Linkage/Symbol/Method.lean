import Linkage.Symbol.Type

/-!
Method descriptors: a name, parameter types and a return type. All three distinguish methods.
-/
namespace Linkage
open Std

/-- The name, the parameter types and the return type of a method. -/
structure MethodDescriptor where
  name : String
  parameters : List TypeDescriptor
  returnType : TypeDescriptor
  deriving DecidableEq, Repr

theorem Text.length_of_splitFirst? {mark : Char} {text before after : List Char}
    (h : Text.splitFirst? mark text = some (before, after)) : after.length < text.length := by
  induction text generalizing before with
  | nil => simp [Text.splitFirst?] at h
  | cons c text ih =>
    unfold Text.splitFirst? at h
    split at h
    · simp_all
    · simp only [Option.map_eq_some_iff, Prod.mk.injEq, Prod.exists] at h
      obtain ⟨b, a, eq, -, rfl⟩ := h
      exact Nat.lt_succ_of_lt (ih eq)

theorem TypeDescriptor.length_of_splitElement? {text rest : List Char} {e : ElementType}
    (h : splitElement? text = some (e, rest)) : rest.length < text.length := by
  unfold splitElement? at h
  split at h
  · simp only [bind, Option.bind_eq_some_iff] at h
    obtain ⟨⟨name, after⟩, cut, c, -, eq⟩ := h
    simp only [pure, Option.some.injEq, Prod.mk.injEq] at eq
    obtain ⟨-, rfl⟩ := eq
    exact Nat.lt_succ_of_lt (Text.length_of_splitFirst? cut)
  · simp only [bind, Option.bind_eq_some_iff] at h
    obtain ⟨p, -, eq⟩ := h
    simp only [pure, Option.some.injEq, Prod.mk.injEq] at eq
    obtain ⟨-, rfl⟩ := eq
    exact Nat.lt_succ_self _
  · simp at h

theorem TypeDescriptor.length_of_split? {allowVoid : Bool} {text rest : List Char}
    {t : TypeDescriptor} (h : split? allowVoid text = some (t, rest)) :
    rest.length < text.length := by
  have dropped : (text.dropWhile (· = '[')).length ≤ text.length :=
    List.Sublist.length_le (List.dropWhile_sublist _)
  simp only [split?] at h
  split at h
  · rename_i isVoid
    simp only [Option.some.injEq, Prod.mk.injEq] at h
    obtain ⟨-, rfl⟩ := h
    revert isVoid dropped
    cases text.dropWhile (· = '[') with
    | nil => simp
    | cons c cs =>
      intro dropped _
      exact Nat.lt_of_lt_of_le (Nat.lt_succ_self _) dropped
  · simp only [bind, Option.bind_eq_some_iff] at h
    obtain ⟨⟨e, after⟩, element, eq⟩ := h
    have shorter := length_of_splitElement? element
    split at eq
    · simp only [pure, Option.some.injEq, Prod.mk.injEq] at eq
      obtain ⟨-, rfl⟩ := eq
      omega
    · simp only [Option.bind_eq_some_iff] at eq
      obtain ⟨a, -, eq⟩ := eq
      simp only [pure, Option.some.injEq, Prod.mk.injEq] at eq
      obtain ⟨-, rfl⟩ := eq
      omega

namespace MethodDescriptor

/-- Splits the parameter types and the closing parenthesis off the front of a text. -/
def splitParameters? (text : List Char) : Option (List TypeDescriptor × List Char) :=
  if text.head? = some ')' then some ([], text.tail)
  else
    match _cut : TypeDescriptor.split? false text with
    | none => none
    | some (t, rest) => (splitParameters? rest).map fun (types, after) => (t :: types, after)
termination_by text.length
decreasing_by exact TypeDescriptor.length_of_split? _cut

/-- The parameter types and the return type that a compact form denotes. -/
def signature? : List Char → Option (List TypeDescriptor × TypeDescriptor)
  | '(' :: text => do
    let (parameters, rest) ← splitParameters? text
    let (returnType, after) ← TypeDescriptor.split? true rest
    guard after.isEmpty
    return (parameters, returnType)
  | _ => none

/-- The method of a given name whose types are written in compact form. -/
def ofRaw (text name : String) : Except SymbolError MethodDescriptor :=
  match signature? text.toList with
  | some (parameters, returnType) => .ok ⟨name, parameters, returnType⟩
  | none => .error (.malformedDescriptor text)

/-- The method of a given name whose types are written one by one. -/
def ofRawTypes (returnType name : String) (parameters : List String) :
    Except SymbolError MethodDescriptor := do
  let parameters ← parameters.mapM TypeDescriptor.ofRaw
  return ⟨name, parameters, ← TypeDescriptor.ofRaw returnType⟩

/-- The compact form of the types. -/
def raw (m : MethodDescriptor) : String :=
  "(" ++ String.join (m.parameters.map TypeDescriptor.raw) ++ ")" ++ m.returnType.raw

/-- The name and the parameter types, for readers. -/
def prettyCall (m : MethodDescriptor) : String :=
  m.name ++ "(" ++ Text.join ", " (m.parameters.map TypeDescriptor.pretty) ++ ")"

/-- The return type, the name and the parameter types, for readers. -/
def pretty (m : MethodDescriptor) : String := m.returnType.pretty ++ " " ++ m.prettyCall

/-- Methods compare by name, then by parameter types, then by return type. -/
instance : Ord MethodDescriptor :=
  ⟨compareLex (compareOn name) (compareLex (compareOn parameters) (compareOn returnType))⟩

instance : TransOrd MethodDescriptor := inferInstanceAs
  (TransCmp (compareLex (compareOn name)
    (compareLex (compareOn parameters) (compareOn returnType))))

instance : LawfulEqOrd MethodDescriptor where
  eq_of_compare {a b} h := by
    have h := compareLex_eq_eq.1 h
    simp only [compareLex_eq_eq, compareOn_eq_eq] at h
    cases a; cases b; simp_all

end MethodDescriptor
end Linkage
