import Linkage.Data.SortedMap
import Linkage.Symbol.Reference

/-!
Declarations: what one class file says about its class, as far as linking is concerned.
-/
namespace Linkage

/-- A declared method with the references that its code makes. -/
structure DeclaredMethod where
  reference : MethodReference
  calls : SortedSet (CallSite MethodReference)
  accesses : SortedSet (CallSite FieldReference)
  deriving DecidableEq

/-- A declared class: its parents with the superclass first, the classes whose literals its code
loads, its methods and its fields. -/
structure DeclaredClass where
  name : ClassName
  parents : List ClassName
  loaded : SortedSet ClassName
  methods : SortedMap MethodDescriptor DeclaredMethod
  fields : SortedMap FieldDescriptor FieldReference
  deriving DecidableEq

namespace DeclaredClass

/-- The declared method with a descriptor. -/
def method? (c : DeclaredClass) (d : MethodDescriptor) : Option DeclaredMethod := c.methods.get? d

/-- The reference under which the method with a descriptor is declared. -/
def methodReference? (c : DeclaredClass) (d : MethodDescriptor) : Option MethodReference :=
  (c.method? d).map DeclaredMethod.reference

/-- The declared field with a descriptor. -/
def field? (c : DeclaredClass) (d : FieldDescriptor) : Option FieldReference := c.fields.get? d

/-- The classes that a declaration refers to: its parents, the classes it loads, the owners of the
methods it calls and the owners of the fields it accesses. -/
def mentions (c : DeclaredClass) : List ClassName :=
  c.parents ++ c.loaded.toList ++
    c.methods.values.flatMap (fun m => m.calls.toList.map (·.reference.owner)) ++
    c.methods.values.flatMap (fun m => m.accesses.toList.map (·.reference.owner))

end DeclaredClass
end Linkage
