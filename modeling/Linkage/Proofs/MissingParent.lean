import Linkage.Proofs.ConflictReport
import Linkage.Proofs.OutputFilter

/-!
When a class that is nowhere on the classpath is reported. A class that others name as a parent is
left out of the search for members if it is missing, and nothing is said of it there. It is reported
for its own sake only if a site has it as owner (`exists_classNotFound_iff`), so a missing parent
that no code mentions is not reported at all (`conflicts_orphan`).
-/
namespace Linkage

/-- A conflict says that a class is missing. -/
def Conflict.Misses (p : ClassName) (c : Conflict) : Prop :=
  c.category = .classNotFound ∧ c.target.owner = p

namespace MissingParent
open ConflictReport
variable {δ : Type}

/-- A site has a class as owner, and it does not catch what is thrown if the class is missing. -/
def Needs (p : ClassName) (site : CallSite (Reference δ)) : Prop :=
  site.reference.owner = p ∧ ¬ Catches site "java.lang.NoClassDefFoundError" ∧
    ¬ Catches site "java.lang.ClassNotFoundException"

/-- A method has a call or an access that needs a class. -/
def NeededBy (p : ClassName) (m : DeclaredMethod) : Prop :=
  (∃ site ∈ m.calls, Needs p site) ∨ ∃ site ∈ m.accesses, Needs p site

variable {policy : Policy} {index : ClassIndex} {p : ClassName}

section
variable {load : ClassLocation → Except CheckError DeclaredClass}

private theorem failure_of_missing {kind : Check.MemberKind δ} {site : CallSite (Reference δ)}
    (missing : index.location? site.reference.owner = none) :
    Check.failure? policy.unfiltered index load kind site =
      .ok (if site.catches isClassLoadingFailure then none else some .classNotFound) := by
  unfold Check.failure? ClassIndex.load
  dsimp only
  rw [OutputFilter.ignoresClass_unfiltered, missing]
  rfl

private theorem target_of_siteConflict {usedBy : String} {path : List ClassName}
    {caller : MethodReference} {kind : Check.MemberKind δ} {site : CallSite (Reference δ)}
    {c : Conflict} (run : Check.siteConflict? policy index load usedBy path caller kind site =
      .ok (some c)) : c.target = kind.toMember site.reference := by
  obtain ⟨failure, -, last⟩ := bind_eq_ok.1 run
  cases failure with
  | none => cases last
  | some category =>
    cases last
    rfl

/-- The conflict of a site is that a missing class is not found exactly if the site needs it. -/
private theorem siteConflict_misses_iff (absent : index.location? p = none) {usedBy : String}
    {path : List ClassName} {caller : MethodReference} {kind : Check.MemberKind δ}
    {site : CallSite (Reference δ)} {r : Option Conflict}
    (owner : ∀ reference, (kind.toMember reference).owner = reference.owner)
    (run : Check.siteConflict? policy.unfiltered index load usedBy path caller kind site = .ok r) :
    (∃ c, r = some c ∧ c.Misses p) ↔ Needs p site := by
  by_cases same : site.reference.owner = p
  · subst same
    unfold Check.siteConflict? at run
    rw [failure_of_missing absent] at run
    by_cases catches : site.catches isClassLoadingFailure = true
    · rw [if_pos catches] at run
      cases run
      have needless : ¬ Needs site.reference.owner site := by
        rintro ⟨-, noError, noException⟩
        exact not_or.2 ⟨noError, noException⟩ ((catches_isClassLoadingFailure site).1 catches)
      simp [needless]
    · rw [if_neg catches] at run
      cases run
      rw [catches_isClassLoadingFailure, not_or] at catches
      simp [Needs, Conflict.Misses, owner, catches]
  · refine iff_of_false ?_ fun needs => same needs.1
    rintro ⟨c, rfl, -, target⟩
    rw [target_of_siteConflict run, owner] at target
    exact same target

private theorem sites_misses_iff (absent : index.location? p = none) {usedBy : String}
    {path : List ClassName} {caller : MethodReference} {kind : Check.MemberKind δ}
    {sites : List (CallSite (Reference δ))} {rs : List (Option Conflict)}
    (owner : ∀ reference, (kind.toMember reference).owner = reference.owner)
    (run : sites.mapM (Check.siteConflict? policy.unfiltered index load usedBy path caller kind) =
      .ok rs) : (∃ c, some c ∈ rs ∧ c.Misses p) ↔ ∃ site ∈ sites, Needs p site := by
  constructor
  · rintro ⟨c, inside, misses⟩
    obtain ⟨site, isSite, here⟩ := (mem_iff_of_mapM_eq_ok run).1 inside
    exact ⟨site, isSite, (siteConflict_misses_iff absent owner here).1 ⟨c, rfl, misses⟩⟩
  · rintro ⟨site, isSite, needs⟩
    obtain ⟨r, inside, here⟩ := exists_of_forall₂ (mapM_eq_ok.1 run) isSite
    obtain ⟨c, rfl, misses⟩ := (siteConflict_misses_iff absent owner here).2 needs
    exact ⟨c, inside, misses⟩

private theorem methodConflicts_misses_iff (absent : index.location? p = none) {usedBy : String}
    {path : List ClassName} {method : DeclaredMethod} {cs : List Conflict}
    (run : Check.methodConflicts policy.unfiltered index load usedBy path method = .ok cs) :
    (∃ c ∈ cs, c.Misses p) ↔ NeededBy p method := by
  obtain ⟨calls, called, rest⟩ := bind_eq_ok.1 run
  obtain ⟨accesses, accessed, last⟩ := bind_eq_ok.1 rest
  cases last
  have ofCalls := sites_misses_iff absent (fun _ => rfl) called
  have ofAccesses := sites_misses_iff absent (fun _ => rfl) accessed
  simp only [SortedSet.mem_toList] at ofCalls ofAccesses
  simp [NeededBy, ← ofCalls, ← ofAccesses, or_and_right, exists_or]

/-- The check of a class is that of the declaration the index has for it. -/
private theorem classConflicts_misses_iff (absent : index.location? p = none) {g : ClassGraph}
    {a : ClassName} {cs : List Conflict}
    (run : Check.classConflicts policy.unfiltered index load g a = .ok cs) :
    ∃ location d, index.location? a = some location ∧ load location = .ok d ∧
      ((∃ c ∈ cs, c.Misses p) ↔ ∃ m ∈ d.methods.values, NeededBy p m) := by
  unfold Check.classConflicts at run
  rw [OutputFilter.ignoresClass_unfiltered] at run
  cases provided : index.artifact? a with
  | none =>
    rw [provided] at run
    cases run
  | some usedBy =>
    rw [provided] at run
    dsimp only at run
    rw [OutputFilter.ignoresArtifact_unfiltered] at run
    obtain ⟨loaded, found, rest⟩ := bind_eq_ok.1 run
    rcases Inheritance.load_eq_ok found with ⟨-, rfl⟩ | ⟨location, d, place, here, rfl⟩
    · cases rest
    obtain ⟨parts, each, last⟩ := bind_eq_ok.1 rest
    cases last
    refine ⟨location, d, place, here, ?_⟩
    constructor
    · rintro ⟨c, member, misses⟩
      obtain ⟨m, declared, part, checked, inside⟩ := (mem_flatten_of_mapM_eq_ok each).1 member
      exact ⟨m, declared, (methodConflicts_misses_iff absent checked).1 ⟨c, inside, misses⟩⟩
    · rintro ⟨m, declared, needed⟩
      obtain ⟨part, checked⟩ := exists_of_mapM_eq_ok each declared
      obtain ⟨c, inside, misses⟩ := (methodConflicts_misses_iff absent checked).2 needed
      exact ⟨c, (mem_flatten_of_mapM_eq_ok each).2 ⟨m, declared, part, checked, inside⟩, misses⟩

end

/-- A class that is not on the classpath is reported missing exactly if some call or access in a
class that is reached needs it; so it is for a parent, whatever classes name it as one. -/
theorem exists_classNotFound_iff (fs : FileSystem) (decoder : Decoder) (capacity : Nat)
    (history : List ClassLocation) (policy : Policy) (classpath : List Artifact)
    (entryPoints : List ClassLocation) (cs : List Conflict) (after : Loader)
    (checked : Loading.outcome ((Loader.new decoder capacity).after fs history)
      (Check.conflicts policy.unfiltered (Loading.load fs) classpath entryPoints) =
        (.ok cs, after)) :
    ∃ g next, Loading.outcome ((Loader.new decoder capacity).after fs history)
        (Check.graph policy.unfiltered (ClassIndex.ofArtifacts classpath) (Loading.load fs)
          entryPoints) = (.ok g, next) ∧
      ∀ p, (ClassIndex.ofArtifacts classpath).location? p = none →
        ((∃ c ∈ cs, c.category = .classNotFound ∧ c.target.owner = p) ↔
          ∃ a ∈ g.classes, ∃ d,
            Canonical (ClassIndex.ofArtifacts classpath) (decoder.Declares fs) a d ∧
              ∃ m ∈ d.methods.values, NeededBy p m) := by
  obtain ⟨g, next, parts, graphed, -, run, rfl⟩ := of_outcome_conflicts checked
  refine ⟨g, next, graphed, fun p absent => ?_⟩
  constructor
  · rintro ⟨c, member, misses⟩
    obtain ⟨a, isReached, part, here, inside⟩ := (mem_flatten_of_mapM_eq_ok run).1 member
    obtain ⟨location, d, found, loaded, iff⟩ := classConflicts_misses_iff absent here
    exact ⟨a, isReached, d, ⟨location, found, Decoder.declaration_eq_ok_iff.1 loaded⟩,
      iff.1 ⟨c, inside, misses⟩⟩
  · rintro ⟨a, isReached, d, canonical, needed⟩
    obtain ⟨part, here⟩ := exists_of_mapM_eq_ok run isReached
    obtain ⟨location, e, found, loaded, iff⟩ := classConflicts_misses_iff absent here
    have own : Canonical (ClassIndex.ofArtifacts classpath) (decoder.Declares fs) a e :=
      ⟨location, found, Decoder.declaration_eq_ok_iff.1 loaded⟩
    obtain ⟨c, inside, misses⟩ := iff.2 (canonical.unique own ▸ needed)
    exact ⟨c, (mem_flatten_of_mapM_eq_ok run).2 ⟨a, isReached, part, here, inside⟩, misses⟩

/-! ### A class alone -/

/-- The classpath of one class. -/
def alone : List Artifact := [⟨"app", InsertionMap.ofList [(⟨"A"⟩, Sample.place "A")]⟩]

/-- Without its parent, a class that calls a method of the parent needs it. -/
theorem exists_classNotFound_iff_sample : ∃ g : ClassGraph, ∃ a ∈ g.classes, ∃ d,
    Canonical (ClassIndex.ofArtifacts alone) (Decoder.standard.Declares Sample.files) a d ∧
      ∃ m ∈ d.methods.values, NeededBy ⟨"B"⟩ m := by
  have found : (Loading.outcome (Loader.new Decoder.standard 1)
      (Check.conflicts { Policy.standard with complete := true } (Loading.load Sample.files) alone
        [])).1 = .ok [
      ⟨.methodNotFound, [⟨"A"⟩], Sample.method "A" "m", 7, .method (Sample.method "A" "x"), "app",
        some "app"⟩,
      ⟨.classNotFound, [⟨"A"⟩], Sample.method "A" "m", 7, .method (Sample.method "B" "y"), "app",
        none⟩] := by
    rw [Loading.load_eq_loadKnown Sample.load_of_known]
    rfl
  obtain ⟨g, -, -, iff⟩ := exists_classNotFound_iff Sample.files Decoder.standard 1 []
    { Policy.standard with complete := true } alone [] _ _ (Prod.ext found rfl)
  exact ⟨g, (iff ⟨"B"⟩ rfl).1 ⟨_, List.mem_cons_of_mem _ List.mem_cons_self, rfl, rfl⟩⟩

/-- A class with an interface that is nowhere on the classpath, and without code. -/
def orphan : ClassSource :=
  { access := 0x21, name := "A", superClass := none, interfaces := ["Gone"], fields := []
    methods := [] }

/-- What it declares. -/
def declaredOrphan : DeclaredClass :=
  { name := ⟨"A"⟩, parents := [⟨"Gone"⟩], loaded := .empty, fields := .empty, methods := .empty }

/-- Its file in the working directory. -/
def orphanFile : FileSystem :=
  { workingDirectory := ["w"]
    nodes := SortedMap.empty.insert ["w", "A.class"] (.file orphan.bytes) }

private def knownOrphan (location : ClassLocation) : Option DeclaredClass :=
  if location = Sample.place "A" then some declaredOrphan else none

private theorem load_of_knownOrphan (location : ClassLocation) (d : DeclaredClass)
    (isKnown : knownOrphan location = some d) :
    Decoder.standard.load orphanFile location = .ok d := by
  unfold knownOrphan at isKnown
  split at isKnown
  · rename_i here
    cases isKnown
    have found : orphanFile.node? ["w", "A.class"] = some (.file orphan.bytes) := rfl
    exact here ▸ Sample.load_child rfl found (by decide +kernel)
  · cases isKnown

/-- A missing parent goes unreported: the one class of the classpath has an interface that the
classpath does not have, and the check finds nothing. -/
theorem conflicts_orphan :
    Canonical (ClassIndex.ofArtifacts alone) (Decoder.standard.Declares orphanFile) ⟨"A"⟩
        declaredOrphan ∧
      ⟨"Gone"⟩ ∈ declaredOrphan.parents ∧
      (ClassIndex.ofArtifacts alone).location? ⟨"Gone"⟩ = none ∧
      (ClassIndex.ofArtifacts alone).classes = [⟨"A"⟩] ∧ declaredOrphan.methods.values = [] ∧
      (Loading.outcome (Loader.new Decoder.standard 1)
        (Check.conflicts { Policy.standard with complete := true } (Loading.load orphanFile) alone
          [Sample.place "A"])).1 = .ok [] := by
  have loaded : Decoder.standard.load orphanFile (Sample.place "A") = .ok declaredOrphan :=
    load_of_knownOrphan _ _ (if_pos rfl)
  have located : (ClassIndex.ofArtifacts alone).location? ⟨"A"⟩ = some (Sample.place "A") := rfl
  refine ⟨⟨_, located, _, rfl, loaded⟩, List.mem_singleton.2 rfl, rfl, rfl, rfl, ?_⟩
  rw [Loading.load_eq_loadKnown load_of_knownOrphan]
  rfl

end MissingParent
end Linkage
