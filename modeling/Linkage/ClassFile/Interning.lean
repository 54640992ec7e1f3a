import Linkage.ClassFile.Image
import Linkage.ClassFile.ModifiedUtf8

/-!
Growing a constant pool. Asking for a constant a second time gives the same index again, and a
constant is entered after those that it refers to.
-/
namespace Linkage

/-- A computation that may enter constants into a pool. -/
abbrev Interning := StateM (List PoolEntry)

namespace Interning

/-- The index of a constant, which is entered at the end if it is new. Indices count from 1. -/
def intern (entry : PoolEntry) : Interning Nat := fun pool =>
  match pool.idxOf? entry with
  | some i => (i + 1, pool)
  | none => (pool.length + 1, pool ++ [entry])

/-- The index of a text given by its UTF-16 code units. -/
def units (value : List UInt16) : Interning Nat := intern (.utf8 (ModifiedUtf8.encodeUnits value))

/-- The index of a text. -/
def utf8 (value : String) : Interning Nat := units (Utf16.encode value.toList)

/-- The index of a string literal given by its UTF-16 code units. -/
def string (value : List UInt16) : Interning Nat := do intern (.string (← units value))

/-- The index of a class with an internal name. -/
def className (name : String) : Interning Nat := do intern (.classInfo (← utf8 name))

/-- The index of a name with a descriptor. -/
def nameAndType (name descriptor : String) : Interning Nat := do
  let name ← utf8 name
  let descriptor ← utf8 descriptor
  intern (.nameAndType name descriptor)

/-- The index of a field. -/
def fieldRef (owner name descriptor : String) : Interning Nat := do
  let owner ← className owner
  let member ← nameAndType name descriptor
  intern (.fieldRef owner member)

/-- The index of a method of a class or, if so told, of an interface. -/
def methodRef (owner name descriptor : String) (isInterface : Bool) : Interning Nat := do
  let owner ← className owner
  let member ← nameAndType name descriptor
  intern (if isInterface then .interfaceMethodRef owner member else .methodRef owner member)

/-- The index of a method handle. -/
def methodHandle (kind reference : Nat) : Interning Nat := intern (.methodHandle kind reference)

/-- The index of a method type. -/
def methodType (descriptor : String) : Interning Nat := do intern (.methodType (← utf8 descriptor))

/-- The index of a dynamic call site with the number of its bootstrap method. -/
def invokeDynamic (bootstrap : Nat) (name descriptor : String) : Interning Nat := do
  let member ← nameAndType name descriptor
  intern (.invokeDynamic bootstrap member)

end Interning
end Linkage
