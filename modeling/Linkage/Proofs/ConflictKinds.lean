import Linkage.Proofs.Layering
import Linkage.Proofs.Provenance
import Linkage.Report.Text

/-!
What a conflict says of the classpath. Its category is told from where the index finds the owner,
its artifacts from which artifact the index names, and the two maps of the index have the same
classes: the owner has no artifact exactly if the class is what is not found, and else both
artifacts are the first on the classpath that have the class (`conflicts_consistent`). So the groups
that a report makes by artifacts tell the classes that are not found from the others.
-/
namespace Linkage

/-- The first artifact of a classpath that has a class. -/
def FirstWith (classpath : List Artifact) (name : ClassName) (artifact : String) : Prop :=
  ∃ before a after, classpath = before ++ a :: after ∧ a.name = artifact ∧
    name ∈ a.classes.keys ∧ ∀ b ∈ before, name ∉ b.classes.keys

theorem firstWith_iff {classpath : List Artifact} {name : ClassName} {artifact : String} :
    FirstWith classpath name artifact ↔
      (ClassIndex.ofArtifacts classpath).artifact? name = some artifact := by
  have gives (a : Artifact) : (a.classes.get? name).map (fun _ => a.name) = some artifact ↔
      a.name = artifact ∧ name ∈ a.classes.keys := by
    rw [InsertionMap.mem_keys_iff]
    cases a.classes.get? name <;> simp
  have lacks (b : Artifact) : (b.classes.get? name).map (fun _ => b.name) = none ↔
      name ∉ b.classes.keys := by
    rw [Option.map_eq_none_iff, InsertionMap.get?_eq_none_iff]
  rw [ClassIndex.artifact?_ofArtifacts, List.findSome?_eq_some_iff, FirstWith]
  simp only [gives, lacks, and_assoc]

/-! ### Groups of a report -/

namespace Report

/-- A report has a group for two artifacts exactly if there are conflicts to hold, and the group is
made of these. -/
def Holds (cs : List Conflict) (usedBy existsIn : String) (held : List Conflict) : Prop :=
  ∀ callers, (∃ user ∈ tree cs, user.artifact = usedBy ∧ ⟨existsIn, callers⟩ ∈ user.targets) ↔
    held ≠ [] ∧ callers = callerGroups held

/-- A group holds the conflicts that name its two artifacts, however the second is told. -/
theorem holds_filter {cs : List Conflict} (usedBy : String) {existsIn : String}
    {named : Conflict → Prop} [DecidablePred named]
    (tells : ∀ c ∈ cs, c.existsInName = existsIn ↔ named c) :
    Holds cs usedBy existsIn (cs.filter fun c => c.usedBy = usedBy ∧ named c) := by
  intro callers
  have nested : (cs.filter (·.usedBy = usedBy)).filter (·.existsInName = existsIn) =
      cs.filter fun c => c.usedBy = usedBy ∧ named c := by
    rw [List.filter_filter]
    refine List.filter_congr fun c member => ?_
    simp [tells c member, and_comm]
  constructor
  · rintro ⟨user, isUser, rfl, isTarget⟩
    obtain ⟨artifact, -, rfl⟩ := mem_map_groupBy.1 isUser
    obtain ⟨owner, some, made⟩ := mem_map_groupBy.1 isTarget
    cases made
    exact nested ▸ ⟨some, rfl⟩
  · rintro ⟨some, rfl⟩
    rw [← nested] at some ⊢
    have users : cs.filter (·.usedBy = usedBy) ≠ [] := fun none => some (by rw [none]; rfl)
    exact ⟨_, mem_map_groupBy.2 ⟨usedBy, users, rfl⟩, rfl,
      mem_map_groupBy.2 ⟨existsIn, some, rfl⟩⟩

end Report

namespace ConflictKinds
open ConflictReport Provenance

/-- A class has the calling method of a conflict: the class file behind it declares the method. -/
def CalledIn (index : ClassIndex) (answers : ClassLocation → DeclaredClass → Prop) (c : Conflict)
    (name : ClassName) : Prop :=
  ∃ d, Canonical index answers name d ∧ ∃ m ∈ d.methods.values, m.reference = c.caller

/-- Class files declare methods of the class that they are indexed under. -/
def OwnMethods (index : ClassIndex) (answers : ClassLocation → DeclaredClass → Prop) : Prop :=
  ∀ name d, Canonical index answers name d → ∀ m ∈ d.methods.values, m.reference.owner = name

/-- What a conflict says fits together and is so on the classpath. -/
structure Consistent (classpath : List Artifact)
    (answers : ClassLocation → DeclaredClass → Prop) (c : Conflict) : Prop where
  unknown_iff : c.existsIn = none ↔ c.category = .classNotFound
  absent_iff : c.category = .classNotFound ↔
    (ClassIndex.ofArtifacts classpath).location? c.target.owner = none
  existsIn : ∀ artifact, c.existsIn = some artifact → FirstWith classpath c.target.owner artifact
  method : c.category = .methodNotFound → ∃ r, c.target = .method r
  field : c.category = .fieldNotFound → ∃ r, c.target = .field r
  usedBy : ∃ name, CalledIn (ClassIndex.ofArtifacts classpath) answers c name ∧
    FirstWith classpath name c.usedBy ∧
    ((∀ a ∈ classpath, a.Keyed) → c.path.getLast? = some name)
  fromClass : OwnMethods (ClassIndex.ofArtifacts classpath) answers →
    FirstWith classpath c.fromClass c.usedBy

variable {policy : Policy} {classpath : List Artifact}
  {answers : ClassLocation → DeclaredClass → Prop} {c : Conflict} {cs : List Conflict}

theorem consistent_of_conflictOf {g : ClassGraph} {name : ClassName}
    (origin : ConflictOf policy (ClassIndex.ofArtifacts classpath) answers g name c)
    (ends : EndsAt (ClassIndex.ofArtifacts classpath) (g.path name) name) :
    Consistent classpath answers c := by
  have first : FirstWith classpath name c.usedBy := firstWith_iff.2 origin.provides
  obtain ⟨d, canonical, m, declared, caller⟩ := origin.caller
  constructor
  · -- the two maps of the index have the same classes
    rw [origin.fits.missing, origin.fits.artifact, ClassIndex.artifact?_eq_none_iff]
  · exact origin.fits.missing
  · intro artifact provided
    exact firstWith_iff.2 (origin.fits.artifact ▸ provided)
  · exact origin.fits.method
  · exact origin.fits.field
  · exact ⟨name, origin.caller, first, fun keyed =>
      origin.path ▸ ends (ClassIndex.className_of_keyed keyed)⟩
  · intro own
    have owner : c.fromClass = name := by
      rw [Conflict.fromClass, ← caller, own name d canonical m declared]
    exact owner ▸ first

/-- If no artifact has the name that stands for none, that name tells that the class is not
found. -/
theorem Consistent.existsInName_eq_unknown_iff (consistent : Consistent classpath answers c)
    (others : ∀ a ∈ classpath, a.name ≠ Conflict.unknownArtifact) :
    c.existsInName = Conflict.unknownArtifact ↔ c.category = .classNotFound := by
  rw [← consistent.unknown_iff, Conflict.existsInName]
  cases provided : c.existsIn with
  | none => simp
  | some artifact =>
    obtain ⟨before, a, after, rfl, named, -, -⟩ := consistent.existsIn artifact provided
    have other : artifact ≠ Conflict.unknownArtifact := named ▸ others a (by simp)
    simp [other]

theorem Consistent.existsInName_eq_iff (consistent : Consistent classpath answers c)
    {artifact : String} (known : artifact ≠ Conflict.unknownArtifact) :
    c.existsInName = artifact ↔ c.category ≠ .classNotFound ∧ c.existsIn = some artifact := by
  rw [Ne, ← consistent.unknown_iff, Conflict.existsInName]
  cases c.existsIn <;> simp [known.symm]

/-- What the conflicts of a check say fits together, whatever the loader was used for before. The
artifact of the owner is missing exactly if the class is what is not found, and exactly if the index
has no location for the owner; else it is the first artifact that has the owner. A method that is
not found is the target of a call and a field that of an access, and the artifact that uses the
target is the first that has the calling class, which is the class that the path ends at. So a
report over artifacts of other names holds the classes that are not found, and nothing else, in the
groups of unknown artifacts. -/
theorem conflicts_consistent (fs : FileSystem) (l : Loader) (policy : Policy)
    (classpath : List Artifact) (entryPoints : List ClassLocation) (cs : List Conflict)
    (after : Loader)
    (checked : Loading.outcome l (Check.conflicts policy (Loading.load fs) classpath entryPoints) =
      (.ok cs, after)) :
    (∀ c ∈ cs, Consistent classpath (l.Gives fs) c) ∧
    ((∀ a ∈ classpath, a.name ≠ Conflict.unknownArtifact) → ∀ usedBy,
      Report.Holds cs usedBy Conflict.unknownArtifact
        (cs.filter fun c => c.usedBy = usedBy ∧ c.category = .classNotFound) ∧
      ∀ artifact ≠ Conflict.unknownArtifact, Report.Holds cs usedBy artifact
        (cs.filter fun c => c.usedBy = usedBy ∧ c.category ≠ .classNotFound ∧
          c.existsIn = some artifact)) := by
  have rules := rules_of_loader fs l
  have given := rules.conflicts_of_graph
    (rules.graph_ends policy (ClassIndex.ofArtifacts classpath) entryPoints)
    fun _ _ _ _ => .inr trivial
  obtain ⟨⟨g, ends, each⟩, -⟩ := given [] cs after checked
  have consistent : ∀ c ∈ cs, Consistent classpath (l.Gives fs) c := by
    intro c member
    obtain ⟨name, isReached, origin⟩ := each c member
    exact consistent_of_conflictOf origin (ends name isReached)
  refine ⟨consistent, fun others usedBy => ⟨?_, fun artifact known => ?_⟩⟩
  · exact Report.holds_filter usedBy fun c member =>
      (consistent c member).existsInName_eq_unknown_iff others
  · exact Report.holds_filter usedBy fun c member =>
      (consistent c member).existsInName_eq_iff known

/-- Two artifacts with one class, whose parent none has. -/
def twice : List Artifact :=
  [⟨"app", .ofList [(⟨"A"⟩, Sample.place "A")]⟩, ⟨"copy", .ofList [(⟨"A"⟩, Sample.place "A")]⟩]

/-- Of two calls one misses a method, of a class that the first artifact has, and one the class,
which the report has under the unknown artifact. -/
theorem conflicts_consistent_sample : ∃ cs after,
    Loading.outcome (Loader.new Decoder.standard 1) (Check.conflicts
      { Policy.standard with complete := true } (Loading.load Sample.files) twice []) =
        (.ok cs, after) ∧
    cs.map Conflict.existsIn = [some "app", none] ∧
    (∀ c ∈ cs, Consistent twice ((Loader.new Decoder.standard 1).Gives Sample.files) c) ∧
    Report.Holds cs "app" Conflict.unknownArtifact [⟨.classNotFound, [⟨"A"⟩], Sample.method "A" "m",
      7, .method (Sample.method "B" "y"), "app", none⟩] := by
  have found : (Loading.outcome (Loader.new Decoder.standard 1)
      (Check.conflicts { Policy.standard with complete := true } (Loading.load Sample.files) twice
        [])).1 = .ok [
      ⟨.methodNotFound, [⟨"A"⟩], Sample.method "A" "m", 7, .method (Sample.method "A" "x"), "app",
        some "app"⟩,
      ⟨.classNotFound, [⟨"A"⟩], Sample.method "A" "m", 7, .method (Sample.method "B" "y"), "app",
        none⟩] := by
    rw [Loading.load_eq_loadKnown Sample.load_of_known]
    rfl
  obtain ⟨consistent, groups⟩ := conflicts_consistent Sample.files (Loader.new Decoder.standard 1)
    { Policy.standard with complete := true } twice [] _ _ (Prod.ext found rfl)
  exact ⟨_, _, Prod.ext found rfl, rfl, consistent, (groups (by decide) "app").1⟩

end ConflictKinds
end Linkage
