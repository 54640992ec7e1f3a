import Linkage.Symbol.Reference

/-!
Conflicts: references that will fail when they are linked.
-/
namespace Linkage

/-- What a reference fails to find. -/
inductive ConflictCategory where
  | classNotFound | methodNotFound | fieldNotFound
  deriving DecidableEq, Repr

namespace ConflictCategory

/-- The form for readers. -/
def display : ConflictCategory → String
  | .classNotFound => "class not found"
  | .methodNotFound => "method not found"
  | .fieldNotFound => "field not found"

/-- The form in records. -/
def code : ConflictCategory → String
  | .classNotFound => "CLASS_NOT_FOUND"
  | .methodNotFound => "METHOD_SIGNATURE_NOT_FOUND"
  | .fieldNotFound => "FIELD_NOT_FOUND"

end ConflictCategory

/-- A reference that fails: how the calling class is reached, the method and the line that refer,
what they refer to, the artifact of the calling class, and the artifact of the owner if there is
one. -/
structure Conflict where
  category : ConflictCategory
  path : List ClassName
  caller : MethodReference
  line : Nat
  target : MemberReference
  usedBy : String
  existsIn : Option String
  deriving DecidableEq, Repr

namespace Conflict

/-- What stands for the artifact of a class that no artifact has. -/
def unknownArtifact : String := "<unknown>"

/-- The artifact of the owner, or what stands for it. -/
def existsInName (c : Conflict) : String := c.existsIn.getD unknownArtifact

/-- The class whose method refers. -/
def fromClass (c : Conflict) : ClassName := c.caller.owner

/-- What is not found. -/
def reason (c : Conflict) : String :=
  match c.category with
  | .classNotFound => "Class not found: " ++ c.target.owner.dotted
  | .methodNotFound => "Method not found: " ++ c.target.pretty
  | .fieldNotFound => "Field not found: " ++ c.target.pretty

/-- The form for readers. -/
def display (c : Conflict) : String :=
  c.reason ++ " (from " ++ MethodReference.pretty c.caller ++ " line " ++ toString c.line ++
    ", used by " ++ c.usedBy ++ ", exists in " ++ c.existsInName ++ ")"

end Conflict
end Linkage
