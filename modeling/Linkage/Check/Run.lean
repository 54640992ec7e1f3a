import Linkage.Check.Conflict
import Linkage.Check.Graph
import Linkage.Check.Loader
import Linkage.Check.Policy
import Linkage.Check.Resolution

/-!
The check: every reference that a class makes is looked up as the runtime would, and those that fail
are reported unless the code expects the failure.
-/
namespace Linkage
universe u

/-- Exceptions that say that a class could not be loaded. -/
def isClassLoadingFailure (c : ClassName) : Bool :=
  c.dotted == "java.lang.NoClassDefFoundError" || c.dotted == "java.lang.ClassNotFoundException"

/-- The exception that says that a method could not be found. -/
def isMethodFailure (c : ClassName) : Bool := c.dotted == "java.lang.NoSuchMethodError"

/-- The exception that says that a field could not be found. -/
def isFieldFailure (c : ClassName) : Bool := c.dotted == "java.lang.NoSuchFieldError"

namespace Check

/-- How references of one kind are looked up, and what it means when they are not found. -/
structure MemberKind (δ : Type) where
  lookup : DeclaredClass → δ → Option (Reference δ)
  category : ConflictCategory
  isFailure : ClassName → Bool
  toMember : Reference δ → MemberReference

/-- Calls of methods. -/
def methodKind : MemberKind MethodDescriptor :=
  ⟨DeclaredClass.methodReference?, .methodNotFound, isMethodFailure, .method⟩

/-- Accesses to fields. -/
def fieldKind : MemberKind FieldDescriptor :=
  ⟨DeclaredClass.field?, .fieldNotFound, isFieldFailure, .field⟩

section
variable {m : Type → Type u} [Monad m] {δ : Type}

/-- What a site fails to find, if it does and no handler at the site expects it. -/
def failure? (policy : Policy) (index : ClassIndex) (load : ClassLocation → m DeclaredClass)
    (kind : MemberKind δ) (site : CallSite (Reference δ)) : m (Option ConflictCategory) := do
  let owner := site.reference.owner
  if policy.ignoresClass owner then return none
  match ← index.load load owner with
  | none => return if site.catches isClassLoadingFailure then none else some .classNotFound
  | some target =>
    match ← Resolution.resolve index load kind.lookup target site.reference with
    | some _ => return none
    | none => return if site.catches kind.isFailure then none else some kind.category

/-- The conflict of a site, if it fails. -/
def siteConflict? (policy : Policy) (index : ClassIndex) (load : ClassLocation → m DeclaredClass)
    (usedBy : String) (path : List ClassName) (caller : MethodReference) (kind : MemberKind δ)
    (site : CallSite (Reference δ)) : m (Option Conflict) := do
  match ← failure? policy index load kind site with
  | none => return none
  | some category =>
    return some { category, path, caller, line := site.line, target := kind.toMember site.reference,
                  usedBy, existsIn := index.artifact? site.reference.owner }

/-- The conflicts of a method: those of its calls, then those of its field accesses. -/
def methodConflicts (policy : Policy) (index : ClassIndex) (load : ClassLocation → m DeclaredClass)
    (usedBy : String) (path : List ClassName) (method : DeclaredMethod) : m (List Conflict) := do
  let calls ← method.calls.toList.mapM
    (siteConflict? policy index load usedBy path method.reference methodKind)
  let accesses ← method.accesses.toList.mapM
    (siteConflict? policy index load usedBy path method.reference fieldKind)
  return (calls ++ accesses).filterMap id

/-- The conflicts of a class, unless the class or its artifact is left out. -/
def classConflicts [MonadExceptOf CheckError m] (policy : Policy) (index : ClassIndex)
    (load : ClassLocation → m DeclaredClass) (graph : ClassGraph) (name : ClassName) :
    m (List Conflict) := do
  if policy.ignoresClass name then return []
  match index.artifact? name with
  | none => throw (.inconsistentIndex name)
  | some usedBy =>
    if policy.ignoresArtifact usedBy then return []
    match ← index.load load name with
    | none => throw (.inconsistentIndex name)
    | some declared =>
      let parts ← declared.methods.values.mapM
        (methodConflicts policy index load usedBy (graph.path name))
      return parts.flatten

/-- The graph of the classes to check. -/
def graph (policy : Policy) (index : ClassIndex) (load : ClassLocation → m DeclaredClass)
    (entryPoints : List ClassLocation) : m ClassGraph :=
  if policy.complete then pure (ClassGraph.complete index)
  else ClassGraph.ofEntryPoints load index entryPoints

/-- The conflicts of a classpath, class by class in the order in which they are reached. -/
def conflicts [MonadExceptOf CheckError m] (policy : Policy)
    (load : ClassLocation → m DeclaredClass) (classpath : List Artifact)
    (entryPoints : List ClassLocation) : m (List Conflict) := do
  let index := ClassIndex.ofArtifacts classpath
  let graph ← graph policy index load entryPoints
  return (← graph.classes.mapM (classConflicts policy index load graph)).flatten

end
end Check
end Linkage
