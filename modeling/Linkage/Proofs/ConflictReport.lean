import Linkage.Check.Run
import Linkage.Proofs.Inheritance

/-!
The conflicts that a check reports. A site fails when its owner is missing, or when no chain of
declared parents leads from its owner to the member it wants, unless the owner is left out or the
site catches what the runtime throws (`Fails`). The conflicts of a classpath are those of the
failing sites, and nothing else (`conflicts_eq_report`).
-/
namespace Linkage.ConflictReport
open Inheritance
variable {δ : Type} (policy : Policy) (index : ClassIndex)
  (declares : ClassLocation → DeclaredClass → Prop)

/-- The declaration of a class of the index. -/
def Canonical (c : ClassName) (d : DeclaredClass) : Prop :=
  ∃ location, index.location? c = some location ∧ declares location d

/-- A site catches the exception of a given name. -/
def Catches (site : CallSite (Reference δ)) (exception : String) : Prop :=
  ⟨exception⟩ ∈ site.caught

/-- What tells references of one kind apart: the member that a class declares under a descriptor,
what is reported when one is missing, the exception that the runtime throws then, and the member
that a reference is to. -/
structure Kind (δ : Type) where
  lookup : DeclaredClass → δ → Option (Reference δ)
  category : ConflictCategory
  exception : String
  toMember : Reference δ → MemberReference

/-- Calls of methods. A class declares the methods among its entries. -/
def calls : Kind MethodDescriptor where
  lookup d k := (d.methods.toList.find? (·.1 = k)).map (·.2.reference)
  category := .methodNotFound
  exception := "java.lang.NoSuchMethodError"
  toMember := .method

/-- Accesses to fields. A class declares the fields among its entries. -/
def accesses : Kind FieldDescriptor where
  lookup d k := (d.fields.toList.find? (·.1 = k)).map (·.2)
  category := .fieldNotFound
  exception := "java.lang.NoSuchFieldError"
  toMember := .field

/-- The owner of a site is not in the index, and the site does not catch what is thrown then. -/
def ClassMissing (site : CallSite (Reference δ)) : Prop :=
  index.location? site.reference.owner = none ∧
    ¬ Catches site "java.lang.NoClassDefFoundError" ∧
    ¬ Catches site "java.lang.ClassNotFoundException"

/-- The owner of a site is in the index, no chain of declared parents leads from it to the member,
and the site does not catch what is thrown then. -/
def MemberMissing (kind : Kind δ) (site : CallSite (Reference δ)) : Prop :=
  (index.location? site.reference.owner).isSome ∧
    (¬ ∃ d m, Canonical index declares site.reference.owner d ∧
      Inherits index declares kind.lookup site.reference d m) ∧
    ¬ Catches site kind.exception

/-- A site fails, and its owner is not left out. -/
def Fails (kind : Kind δ) (site : CallSite (Reference δ)) : Prop :=
  policy.ignoresClass site.reference.owner = false ∧
    (ClassMissing index site ∨ MemberMissing index declares kind site)

open Classical in
/-- What is reported of a site: one conflict if it fails and nothing otherwise. -/
noncomputable def siteReport (artifact : String) (path : List ClassName) (caller : MethodReference)
    (kind : Kind δ) (site : CallSite (Reference δ)) : Option Conflict :=
  if Fails policy index declares kind site then
    some { category := if ClassMissing index site then .classNotFound else kind.category
           path, caller, line := site.line, target := kind.toMember site.reference
           usedBy := artifact, existsIn := index.artifact? site.reference.owner }
  else none

/-- What is reported of a method: first of its calls and then of its accesses. -/
noncomputable def methodReport (artifact : String) (path : List ClassName) (m : DeclaredMethod) :
    List Conflict :=
  m.calls.toList.filterMap (siteReport policy index declares artifact path m.reference calls) ++
    m.accesses.toList.filterMap (siteReport policy index declares artifact path m.reference accesses)

/-- The artifact of a class, if neither the class nor the artifact is left out. -/
def reportedArtifact? (c : ClassName) : Option String :=
  (index.artifact? c).filter fun artifact =>
    !policy.ignoresClass c && !policy.ignoresArtifact artifact

variable (g : ClassGraph) (declared : ClassName → DeclaredClass)

/-- What is reported of a class of a graph: of each method of its declaration in order, unless the
class is left out. -/
noncomputable def classReport (c : ClassName) : List Conflict :=
  match reportedArtifact? policy index c with
  | some artifact => (declared c).methods.values.flatMap
      (methodReport policy index declares artifact (g.path c))
  | none => []

/-- What is reported of the classes of a graph in the order in which they were reached. -/
noncomputable def report : List Conflict :=
  g.classes.flatMap (classReport policy index declares g declared)

/-! ### Without a loader -/

section
variable {policy index} {decoder : Decoder} {fs : FileSystem}

theorem classConflicts_follows (g : ClassGraph) (name : ClassName) :
    Loading.Follows decoder fs (Check.classConflicts policy index (Loading.load fs) g name)
      (Check.classConflicts policy index (decoder.declaration fs) g name) :=
  (Loading.Follows.simulation decoder fs).classConflicts (fun _ _ _ => trivial) g name

theorem graph_follows (entryPoints : List ClassLocation) :
    Loading.Follows decoder fs (Check.graph policy index (Loading.load fs) entryPoints)
      (Check.graph policy index (decoder.declaration fs) entryPoints) :=
  (Loading.Follows.simulation decoder fs).graph (fun _ _ _ => trivial) entryPoints
    fun _ _ => trivial

/-- A check that succeeds through a loader is one that succeeds where every class is read anew. -/
theorem of_outcome_conflicts {capacity : Nat} {history entryPoints : List ClassLocation}
    {classpath : List Artifact} {cs : List Conflict} {after : Loader}
    (checked : Loading.outcome ((Loader.new decoder capacity).after fs history)
      (Check.conflicts policy (Loading.load fs) classpath entryPoints) = (.ok cs, after)) :
    ∃ g next parts, Loading.outcome ((Loader.new decoder capacity).after fs history)
        (Check.graph policy (ClassIndex.ofArtifacts classpath) (Loading.load fs) entryPoints) =
          (.ok g, next) ∧
      Check.graph policy (ClassIndex.ofArtifacts classpath) (decoder.declaration fs) entryPoints =
        .ok g ∧
      g.classes.mapM (Check.classConflicts policy (ClassIndex.ofArtifacts classpath)
        (decoder.declaration fs) g) = .ok parts ∧ cs = parts.flatten := by
  have faithful := (Loader.faithful_new decoder fs capacity).after history
  obtain ⟨g, next, graphed, rest⟩ := Loading.outcome_bind_eq_ok.1 checked
  obtain ⟨parts, last, mapped, same⟩ := Loading.outcome_bind_eq_ok.1 rest
  obtain ⟨still, built⟩ := (graph_follows entryPoints).of_outcome faithful graphed
  obtain ⟨-, run⟩ := (Loading.Follows.mapM (classConflicts_follows g) _).of_outcome still mapped
  cases same
  exact ⟨g, next, parts, graphed, built, run, rfl⟩

/-! ### What is reported -/

/-- The check looks for members of a kind, and knows the exception that the runtime throws. -/
private structure Describes (kind : Kind δ) (member : Check.MemberKind δ) : Prop where
  lookup : member.lookup = kind.lookup
  category : member.category = kind.category
  isFailure : ∀ c, member.isFailure c = true ↔ c = ⟨kind.exception⟩
  toMember : member.toMember = kind.toMember

private theorem eq_of_dotted {c : ClassName} {name : String} : c.dotted = name ↔ c = ⟨name⟩ := by
  cases c
  simp

private theorem calls_describes : Describes calls Check.methodKind where
  lookup := by
    funext d k
    show (d.methods.get? k).map DeclaredMethod.reference = _
    rw [SortedMap.get?_eq_find?, Option.map_map]
    rfl
  category := rfl
  isFailure c := by simp [Check.methodKind, isMethodFailure, calls, eq_of_dotted]
  toMember := rfl

private theorem accesses_describes : Describes accesses Check.fieldKind where
  lookup := by
    funext d k
    exact SortedMap.get?_eq_find? d.fields k
  category := rfl
  isFailure c := by simp [Check.fieldKind, isFieldFailure, accesses, eq_of_dotted]
  toMember := rfl

private theorem catches_isFailure {kind : Kind δ} {member : Check.MemberKind δ}
    (describes : Describes kind member) (site : CallSite (Reference δ)) :
    site.catches member.isFailure = true ↔ Catches site kind.exception := by
  simp [CallSite.catches, Catches, List.any_eq_true, describes.isFailure]

theorem catches_isClassLoadingFailure (site : CallSite (Reference δ)) :
    site.catches isClassLoadingFailure = true ↔
      Catches site "java.lang.NoClassDefFoundError" ∨
        Catches site "java.lang.ClassNotFoundException" := by
  simp [CallSite.catches, Catches, isClassLoadingFailure, List.any_eq_true, eq_of_dotted, and_or_left,
    exists_or]

theorem Canonical.unique {c : ClassName} {d e : DeclaredClass}
    (left : Canonical index (decoder.Declares fs) c d)
    (right : Canonical index (decoder.Declares fs) c e) : d = e := by
  obtain ⟨location, found, declares⟩ := left
  obtain ⟨location', found', declares'⟩ := right
  cases found.symm.trans found'
  exact declares.unique declares'

/-- If every class file declares the name it is indexed under, a name tells a declaration. -/
private theorem Canonical.distinctNames
    (named : ∀ c d, Canonical index (decoder.Declares fs) c d → d.name = c) {c : ClassName}
    {d : DeclaredClass} (canonical : Canonical index (decoder.Declares fs) c d) :
    DistinctNames index (decoder.Declares fs) d := by
  have ancestor : ∀ e, Ancestor index (decoder.Declares fs) d e →
      Canonical index (decoder.Declares fs) e.name e := by
    intro e way
    have some : ∃ c, Canonical index (decoder.Declares fs) c e := by
      cases way with
      | refl => exact ⟨c, canonical⟩
      | tail _ last =>
        obtain ⟨p, -, location, found, declares⟩ := last
        exact ⟨p, location, found, declares⟩
    obtain ⟨c, canonical⟩ := some
    exact named c e canonical ▸ canonical
  intro a b wayA wayB same
  exact (ancestor a wayA).unique (same ▸ ancestor b wayB)

/-- The search from the owner decides whether a member is missing. -/
private theorem exists_inherits_iff
    (named : ∀ c d, Canonical index (decoder.Declares fs) c d → d.name = c) {kind : Kind δ}
    {wanted : Reference δ} {target : DeclaredClass} {r : Option (Reference δ)}
    (canonical : Canonical index (decoder.Declares fs) wanted.owner target)
    (run : Resolution.resolve index (decoder.declaration fs) kind.lookup target wanted = .ok r) :
    (∃ d m, Canonical index (decoder.Declares fs) wanted.owner d ∧
      Inherits index (decoder.Declares fs) kind.lookup wanted d m) ↔ r.isSome := by
  obtain ⟨sound, complete⟩ := inherits_of_resolve_declaration run
  constructor
  · rintro ⟨d, m, other, inherits⟩
    cases canonical.unique other
    exact complete (canonical.distinctNames named) ⟨m, inherits⟩
  · intro found
    obtain ⟨m, rfl⟩ := Option.isSome_iff_exists.1 found
    exact ⟨target, m, canonical, sound m rfl⟩

open Classical in
/-- A site of a class that is not left out has a failure as `Fails` tells. -/
private theorem failure_eq_ok {kind : Kind δ} {member : Check.MemberKind δ}
    (describes : Describes kind member)
    (named : ∀ c d, Canonical index (decoder.Declares fs) c d → d.name = c)
    {site : CallSite (Reference δ)} {r : Option ConflictCategory}
    (run : Check.failure? policy index (decoder.declaration fs) member site = .ok r) :
    r = if Fails policy index (decoder.Declares fs) kind site then
      some (if ClassMissing index site then .classNotFound else kind.category) else none := by
  unfold Check.failure? at run
  dsimp only at run
  split at run
  · rename_i ignored
    cases run
    rw [if_neg fun fails => by simp [fails.1] at ignored]
  rename_i reported
  rw [Bool.not_eq_true] at reported
  obtain ⟨result, loaded, rest⟩ := bind_eq_ok.1 run
  rcases load_eq_ok loaded with ⟨missing, rfl⟩ | ⟨location, target, found, here, rfl⟩
  · have fails : Fails policy index (decoder.Declares fs) kind site ↔ ClassMissing index site := by
      simp [Fails, MemberMissing, reported, missing]
    have caught : ClassMissing index site ↔ ¬ site.catches isClassLoadingFailure = true := by
      rw [catches_isClassLoadingFailure]
      simp [ClassMissing, missing]
    cases rest
    by_cases catches : site.catches isClassLoadingFailure = true
    · rw [if_pos catches, if_neg (by simpa [fails, caught] using catches)]
    · rw [if_neg catches, if_pos (fails.2 (caught.2 catches)), if_pos (caught.2 catches)]
  · have present : ¬ ClassMissing index site := fun absent => by
      rw [ClassMissing, found] at absent
      cases absent.1
    obtain ⟨answer, resolved, last⟩ := bind_eq_ok.1 rest
    rw [describes.lookup] at resolved
    have canonical : Canonical index (decoder.Declares fs) site.reference.owner target :=
      ⟨location, found, Decoder.declaration_eq_ok_iff.1 here⟩
    have fails : Fails policy index (decoder.Declares fs) kind site ↔
        answer = none ∧ ¬ site.catches member.isFailure = true := by
      rw [Fails, MemberMissing, exists_inherits_iff named canonical resolved,
        catches_isFailure describes]
      simp [reported, present, found]
    rw [if_neg present, ← describes.category]
    cases answer with
    | some m =>
      cases last
      rw [if_neg fun failing => nomatch (fails.1 failing).1]
    | none =>
      cases last
      by_cases catches : site.catches member.isFailure = true
      · rw [if_pos catches, if_neg fun failing => (fails.1 failing).2 catches]
      · rw [if_neg catches, if_pos (fails.2 ⟨rfl, catches⟩)]

private theorem siteConflict_eq_ok {kind : Kind δ} {member : Check.MemberKind δ}
    (describes : Describes kind member)
    (named : ∀ c d, Canonical index (decoder.Declares fs) c d → d.name = c) {usedBy : String}
    {path : List ClassName} {caller : MethodReference} (site : CallSite (Reference δ))
    (r : Option Conflict) (run : Check.siteConflict? policy index (decoder.declaration fs) usedBy path
      caller member site = .ok r) :
    r = siteReport policy index (decoder.Declares fs) usedBy path caller kind site := by
  obtain ⟨failure, fails, last⟩ := bind_eq_ok.1 run
  rw [failure_eq_ok describes named fails] at last
  unfold siteReport
  split at last
  · rename_i none
    cases last
    rw [if_neg fun failing => by simp [failing] at none]
  · rename_i category some
    cases last
    split at some
    · rename_i failing
      rw [if_pos failing, Option.some.inj some, describes.toMember]
    · cases some

private theorem methodConflicts_eq_ok
    (named : ∀ c d, Canonical index (decoder.Declares fs) c d → d.name = c) {usedBy : String}
    {path : List ClassName} (method : DeclaredMethod) (cs : List Conflict)
    (run : Check.methodConflicts policy index (decoder.declaration fs) usedBy path method = .ok cs) :
    cs = methodReport policy index (decoder.Declares fs) usedBy path method := by
  obtain ⟨callResults, called, rest⟩ := bind_eq_ok.1 run
  obtain ⟨accessResults, accessed, last⟩ := bind_eq_ok.1 rest
  cases last
  rw [eq_map_of_mapM_eq_ok (siteConflict_eq_ok calls_describes named) called,
    eq_map_of_mapM_eq_ok (siteConflict_eq_ok accesses_describes named) accessed]
  simp [methodReport, List.filterMap_append, List.filterMap_map]

/-- A class that is reported on has a declaration in the index, and it is the one reported on. -/
private theorem classConflicts_eq_ok
    (named : ∀ c d, Canonical index (decoder.Declares fs) c d → d.name = c)
    {declared : ClassName → DeclaredClass} (canonical : ∀ c d,
      Canonical index (decoder.Declares fs) c d → Canonical index (decoder.Declares fs) c (declared c))
    {g : ClassGraph} {c : ClassName} {cs : List Conflict}
    (run : Check.classConflicts policy index (decoder.declaration fs) g c = .ok cs) :
    cs = classReport policy index (decoder.Declares fs) g declared c ∧
      ((reportedArtifact? policy index c).isSome →
        Canonical index (decoder.Declares fs) c (declared c)) := by
  unfold Check.classConflicts at run
  split at run
  · rename_i ignored
    cases run
    have out : reportedArtifact? policy index c = none := by simp [reportedArtifact?, ignored]
    simp [classReport, out]
  · rename_i reported
    split at run
    · cases run
    · rename_i artifact found
      split at run
      · rename_i ignored
        cases run
        have out : reportedArtifact? policy index c = none := by
          simp [reportedArtifact?, found, ignored]
        simp [classReport, out]
      · rename_i reportedArtifact
        obtain ⟨result, loaded, rest⟩ := bind_eq_ok.1 run
        rcases load_eq_ok loaded with ⟨-, rfl⟩ | ⟨location, d, place, here, rfl⟩
        · cases rest
        · obtain ⟨parts, each, last⟩ := bind_eq_ok.1 rest
          cases last
          have own : Canonical index (decoder.Declares fs) c d :=
            ⟨location, place, Decoder.declaration_eq_ok_iff.1 here⟩
          have some : reportedArtifact? policy index c = some artifact := by
            simp [reportedArtifact?, reported, found, reportedArtifact]
          refine ⟨?_, fun _ => canonical c d own⟩
          rw [classReport, some, eq_map_of_mapM_eq_ok (methodConflicts_eq_ok named) each,
            own.unique (canonical c d own)]
          rfl

end

/-- The conflicts of a classpath are those of the failing sites: for each class of the graph in the
order in which it was reached, unless it or its artifact is left out, for each method of its
declaration in the index, those of its calls and then those of its accesses. -/
theorem conflicts_eq_report (fs : FileSystem) (decoder : Decoder) (capacity : Nat)
    (history : List ClassLocation) (policy : Policy) (classpath : List Artifact)
    (entryPoints : List ClassLocation) (cs : List Conflict) (after : Loader)
    (named : ∀ c d, Canonical (ClassIndex.ofArtifacts classpath) (decoder.Declares fs) c d →
      d.name = c)
    (checked : Loading.outcome ((Loader.new decoder capacity).after fs history)
      (Check.conflicts policy (Loading.load fs) classpath entryPoints) = (.ok cs, after)) :
    ∃ g next, Loading.outcome ((Loader.new decoder capacity).after fs history)
        (Check.graph policy (ClassIndex.ofArtifacts classpath) (Loading.load fs) entryPoints) =
          (.ok g, next) ∧
      ∃ declared : ClassName → DeclaredClass,
        (∀ c ∈ g.classes, (reportedArtifact? policy (ClassIndex.ofArtifacts classpath) c).isSome →
          Canonical (ClassIndex.ofArtifacts classpath) (decoder.Declares fs) c (declared c)) ∧
        cs = report policy (ClassIndex.ofArtifacts classpath) (decoder.Declares fs) g declared := by
  have faithful := (Loader.faithful_new decoder fs capacity).after history
  obtain ⟨g, next, graphed, rest⟩ := Loading.outcome_bind_eq_ok.1 checked
  obtain ⟨parts, last, mapped, same⟩ := Loading.outcome_bind_eq_ok.1 rest
  obtain ⟨still, -⟩ := (graph_follows entryPoints).of_outcome faithful graphed
  obtain ⟨-, run⟩ := (Loading.Follows.mapM (classConflicts_follows g) _).of_outcome still mapped
  obtain ⟨declared, canonical⟩ : ∃ declared : ClassName → DeclaredClass, ∀ c d,
      Canonical (ClassIndex.ofArtifacts classpath) (decoder.Declares fs) c d →
        Canonical (ClassIndex.ofArtifacts classpath) (decoder.Declares fs) c (declared c) := by
    have : Nonempty DeclaredClass := ⟨⟨⟨""⟩, [], .empty, .empty, .empty⟩⟩
    exact ⟨fun c => Classical.epsilon fun d => Canonical _ _ c d,
      fun c d canonical => Classical.epsilon_spec ⟨d, canonical⟩⟩
  refine ⟨g, next, graphed, declared, ?_, ?_⟩
  · intro c member
    obtain ⟨part, here⟩ := exists_of_mapM_eq_ok run member
    exact (classConflicts_eq_ok named canonical here).2
  · cases same
    rw [eq_map_of_mapM_eq_ok
      (fun c part here => (classConflicts_eq_ok named canonical here).1) run]
    rfl

private theorem sample_named (c : ClassName) (d : DeclaredClass)
    (canonical : Canonical (ClassIndex.ofArtifacts Sample.classpath)
      (Decoder.standard.Declares Sample.files) c d) : d.name = c := by
  obtain ⟨location, found, declares⟩ := canonical
  have declared : ∀ e, Sample.known location = some e → d = e := fun e isKnown =>
    declares.unique ⟨location, rfl, Sample.load_of_known location e isKnown⟩
  rcases Sample.of_location found with ⟨rfl, rfl⟩ | ⟨rfl, rfl⟩
  · rw [declared Sample.declaredChild (by decide +kernel)]
    rfl
  · rw [declared Sample.declaredParent (by decide +kernel)]
    rfl

/-- Of two classes, the call of a method that nobody declares is reported. -/
theorem conflicts_eq_report_sample :
    ∃ g declared, [⟨.methodNotFound, [⟨"A"⟩], Sample.method "A" "m", 7,
        .method (Sample.method "B" "y"), "app", some "app"⟩] =
      report { Policy.standard with complete := true } (ClassIndex.ofArtifacts Sample.classpath)
        (Decoder.standard.Declares Sample.files) g declared := by
  have found : (Loading.outcome (Loader.new Decoder.standard 1)
      (Check.conflicts { Policy.standard with complete := true } (Loading.load Sample.files)
        Sample.classpath [])).1 = .ok [⟨.methodNotFound, [⟨"A"⟩], Sample.method "A" "m", 7,
          .method (Sample.method "B" "y"), "app", some "app"⟩] := by
    rw [Loading.load_eq_loadKnown Sample.load_of_known]
    decide +kernel
  obtain ⟨g, -, -, declared, -, same⟩ := conflicts_eq_report Sample.files Decoder.standard 1 []
    { Policy.standard with complete := true } Sample.classpath [] _ _ sample_named (Prod.ext found rfl)
  exact ⟨g, declared, same⟩

end Linkage.ConflictReport
