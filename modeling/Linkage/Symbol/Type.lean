import Linkage.Symbol.ClassName

/-!
Type descriptors: the primitive types, classes, arrays of either, and void. `ofRaw` reads the
compact form of the class-file format and `raw` writes it.
-/
namespace Linkage
open Std

/-- The primitive types, in the order in which they compare. -/
inductive Primitive where
  | byte | short | int | long | float | double | boolean | char
  deriving DecidableEq, Repr

namespace Primitive

/-- The position of a primitive type in the order. -/
def rank : Primitive → Nat
  | .byte => 0
  | .short => 1
  | .int => 2
  | .long => 3
  | .float => 4
  | .double => 5
  | .boolean => 6
  | .char => 7

/-- The letter of a primitive type in descriptors. -/
def letter : Primitive → Char
  | .byte => 'B'
  | .short => 'S'
  | .int => 'I'
  | .long => 'J'
  | .float => 'F'
  | .double => 'D'
  | .boolean => 'Z'
  | .char => 'C'

/-- The keyword of a primitive type. -/
def keyword : Primitive → String
  | .byte => "byte"
  | .short => "short"
  | .int => "int"
  | .long => "long"
  | .float => "float"
  | .double => "double"
  | .boolean => "boolean"
  | .char => "char"

/-- The primitive type of a descriptor letter. -/
def ofLetter? : Char → Option Primitive
  | 'B' => some .byte
  | 'S' => some .short
  | 'I' => some .int
  | 'J' => some .long
  | 'F' => some .float
  | 'D' => some .double
  | 'Z' => some .boolean
  | 'C' => some .char
  | _ => none

theorem ofLetter?_letter (p : Primitive) : ofLetter? p.letter = some p := by cases p <;> rfl

theorem rank_injective {p q : Primitive} (h : p.rank = q.rank) : p = q := by
  revert h
  cases p <;> cases q <;> decide

end Primitive

/-- What an array can hold at its innermost level. -/
inductive ElementType where
  | primitive (p : Primitive)
  | reference (c : ClassName)
  deriving DecidableEq, Repr

/-- An array type: its element and its number of dimensions, from 1 to 255. -/
structure ArrayType where
  element : ElementType
  dimensions : Nat
  bounds : 1 ≤ dimensions ∧ dimensions ≤ 255
  deriving DecidableEq, Repr

/-- The type of a value, or void as the result of a method without one. -/
inductive TypeDescriptor where
  | element (e : ElementType)
  | array (a : ArrayType)
  | void
  deriving DecidableEq, Repr

namespace ElementType

/-- The class of an element type that is one. -/
def class? : ElementType → Option ClassName
  | .primitive _ => none
  | .reference c => some c

/-- The compact form. -/
def raw : ElementType → String
  | .primitive p => p.letter.toString
  | .reference c => "L" ++ c.internal ++ ";"

/-- The form for readers. -/
def pretty : ElementType → String
  | .primitive p => p.keyword
  | .reference c => c.dotted

/-- The position of the kind of an element type in the order: primitive types come first. -/
def kindRank : ElementType → Nat
  | .primitive _ => 0
  | .reference _ => 1

/-- The position of a primitive type, and 0 for a class. -/
def primitiveRank : ElementType → Nat
  | .primitive p => p.rank
  | .reference _ => 0

/-- The name of a class, and no text for a primitive type. -/
def nameKey : ElementType → String
  | .primitive _ => ""
  | .reference c => c.dotted

/-- Primitive types come before classes. -/
instance : Ord ElementType :=
  ⟨compareLex (compareOn kindRank) (compareLex (compareOn primitiveRank) (compareOn nameKey))⟩

instance : TransOrd ElementType := inferInstanceAs
  (TransCmp (compareLex (compareOn kindRank)
    (compareLex (compareOn primitiveRank) (compareOn nameKey))))

instance : LawfulEqOrd ElementType where
  eq_of_compare {a b} h := by
    have h := compareLex_eq_eq.1 h
    simp only [compareLex_eq_eq, compareOn_eq_eq] at h
    obtain ⟨kind, primitive, name⟩ := h
    cases a with
    | primitive p =>
      cases b with
      | primitive q => exact congrArg _ (Primitive.rank_injective primitive)
      | reference c => exact absurd kind (by simp [kindRank])
    | reference c =>
      cases b with
      | primitive q => exact absurd kind (by simp [kindRank])
      | reference d => cases c; cases d; simp_all [nameKey]

end ElementType

namespace TypeDescriptor

/-- The class that a type is, if it is one. -/
def class? : TypeDescriptor → Option ClassName
  | .element e => e.class?
  | .array _ => none
  | .void => none

/-- The class that a type is or, for an array, that it holds at its innermost level. -/
def elementClass? : TypeDescriptor → Option ClassName
  | .element e => e.class?
  | .array a => a.element.class?
  | .void => none

/-- The compact form. -/
def raw : TypeDescriptor → String
  | .element e => e.raw
  | .array a => Text.repeated a.dimensions "[" ++ a.element.raw
  | .void => "V"

/-- The form for readers. -/
def pretty : TypeDescriptor → String
  | .element e => e.pretty
  | .array a => a.element.pretty ++ Text.repeated a.dimensions "[]"
  | .void => "void"

/-- The position of the kind of a type in the order: elements, arrays, void. -/
def kindRank : TypeDescriptor → Nat
  | .element _ => 0
  | .array _ => 1
  | .void => 2

/-- The element of a type; void has none, and counts as the least element. -/
def elementKey : TypeDescriptor → ElementType
  | .element e => e
  | .array a => a.element
  | .void => .primitive .byte

/-- The number of dimensions, 0 for a type that is no array. -/
def dimensionKey : TypeDescriptor → Nat
  | .element _ => 0
  | .array a => a.dimensions
  | .void => 0

/-- Elements come before arrays and arrays before void; arrays compare by element, then by
dimensions. -/
instance : Ord TypeDescriptor :=
  ⟨compareLex (compareOn kindRank) (compareLex (compareOn elementKey) (compareOn dimensionKey))⟩

instance : TransOrd TypeDescriptor := inferInstanceAs
  (TransCmp (compareLex (compareOn kindRank)
    (compareLex (compareOn elementKey) (compareOn dimensionKey))))

instance : LawfulEqOrd TypeDescriptor where
  eq_of_compare {a b} h := by
    have h := compareLex_eq_eq.1 h
    simp only [compareLex_eq_eq, compareOn_eq_eq] at h
    obtain ⟨kind, element, dimension⟩ := h
    cases a <;> cases b <;> simp_all [kindRank, elementKey, dimensionKey]
    rename_i a b
    cases a; cases b; simp_all

/-- Splits an element type off the front of a text. -/
def splitElement? : List Char → Option (ElementType × List Char)
  | 'L' :: rest => do
    let (name, after) ← Text.splitFirst? ';' rest
    let c ← (ClassName.ofName (String.ofList name)).toOption
    return (.reference c, after)
  | c :: rest => do
    let p ← Primitive.ofLetter? c
    return (.primitive p, rest)
  | [] => none

/-- The array type with the given element and dimensions, if arrays can have so many. -/
def arrayOf? (element : ElementType) (dimensions : Nat) : Option ArrayType :=
  if bounds : 1 ≤ dimensions ∧ dimensions ≤ 255 then some ⟨element, dimensions, bounds⟩ else none

/-- Splits a type off the front of a text: void where it is allowed, or brackets, one for each
dimension, before an element type. -/
def split? (allowVoid : Bool) (text : List Char) : Option (TypeDescriptor × List Char) :=
  let dimensions := (text.takeWhile (· = '[')).length
  let rest := text.dropWhile (· = '[')
  if allowVoid && dimensions == 0 && rest.head? == some 'V' then some (.void, rest.tail)
  else do
    let (e, after) ← splitElement? rest
    if dimensions = 0 then return (.element e, after)
    else
      let a ← arrayOf? e dimensions
      return (.array a, after)

/-- The type that a compact form denotes. -/
def ofRaw (text : String) : Except SymbolError TypeDescriptor :=
  match split? true text.toList with
  | some (t, []) => .ok t
  | _ => .error (.malformedDescriptor text)

end TypeDescriptor

namespace ArrayType

/-- The array type with the given innermost type and dimensions. The innermost type is a primitive
type or a class. -/
def of (innermost : TypeDescriptor) (dimensions : Nat) : Except SymbolError ArrayType :=
  let array? := match innermost with
    | .element e => TypeDescriptor.arrayOf? e dimensions
    | _ => none
  match array? with
  | some a => .ok a
  | none => .error (.malformedDescriptor (Text.repeated dimensions "[" ++ innermost.raw))

end ArrayType
end Linkage
