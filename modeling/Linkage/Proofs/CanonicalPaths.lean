import Linkage.Proofs.Projects
import Linkage.Proofs.Reachability

/-!
The steps of a path. A walk reads the class of an entry point where the entry point has it, and
every other class where the index does. In an assembled project these differ only if a module of the
JDK has a class of an entry point, and a shortest path can have an entry point only in front. So
every step of a path is one of the declaration that is checked, but for a first step from a class
that the JDK has as well, which is one of the entry point (`step_of_path`). Such a step may be one
that the class of the JDK does not make (`path_through_shadowed`).
-/
namespace Linkage

namespace Reachability
variable {entry : ClassName → Prop} {next : ClassName → ClassName → Prop}
  {before behind : List ClassName} {a c : ClassName}

/-- What leads to a class leads to every class on the way. -/
theorem PathTo.upTo (way : PathTo entry next (before ++ a :: behind) c) :
    PathTo entry next (before ++ [a]) a := by
  obtain ⟨e, head, isEntry⟩ := way.start
  refine ⟨⟨e, ?_, isEntry⟩, by simp, (List.isChain_split.1 way.steps).1⟩
  cases before with
  | nil => simpa using head
  | cons first before => simpa using head

/-- What is behind an entry is a path of its own. -/
theorem PathTo.fromEntry (way : PathTo entry next (before ++ a :: behind) c) (isEntry : entry a) :
    PathTo entry next (a :: behind) c := by
  refine ⟨⟨a, rfl, isEntry⟩, ?_, way.steps.right_of_append⟩
  have stop := way.stop
  rwa [List.getLast?_append_of_ne_nil _ (by simp)] at stop

/-- A shortest path has an entry only in front. -/
theorem Shortest.before_eq_nil {g : ClassGraph} (shortest : Shortest entry next g)
    (isReached : g.isReached c = true) (path : g.path c = before ++ a :: behind)
    (isEntry : entry a) : before = [] := by
  have way := (shortest.path_to c isReached).1
  rw [path] at way
  have le := shortest.path_le c isReached _ (way.fromEntry isEntry)
  rw [path, List.length_append, List.length_cons] at le
  exact List.length_eq_zero_iff.1 (by omega)

end Reachability

namespace Project

variable {fs : FileSystem} {env : Environment} {s : Settings} {p : Project}
  {modules entryPoints libraries : List Artifact}

/-- The index has a class where the JDK has it, or else at the first entry point for it, or else in
the first library. -/
theorem Assembled.location?_eq (parts : Assembled fs env s p modules entryPoints libraries)
    (c : ClassName) : (ClassIndex.ofArtifacts p.classpath).location? c =
      ((modules.findSome? fun a => a.classes.get? c).or
        (p.entryPoints.find? (·.className = c))).or
          (libraries.findSome? fun a => a.classes.get? c) := by
  rw [ClassIndex.location?_ofArtifacts, parts.classpath, parts.starts, List.findSome?_append,
    List.findSome?_append, Artifact.find?_flatMap_values parts.loaded_entryPoint]

/-- A module of the JDK has a class. -/
def JdkHas (fs : FileSystem) (env : Environment) (s : Settings) (c : ClassName) : Prop :=
  ∃ m, OfJdk fs env s m ∧ c ∈ m.classes.keys

/-- A class of an entry point that a module of the JDK has as well. -/
def Shadowed (fs : FileSystem) (env : Environment) (s : Settings) (p : Project) (c : ClassName) :
    Prop :=
  Reachability.Entry p.entryPoints c ∧ JdkHas fs env s c

/-- A class of an entry point is read at the first entry point for it. -/
theorem find?_of_place {index : ClassIndex} {c : ClassName} {location : ClassLocation}
    (isEntry : Reachability.Entry p.entryPoints c)
    (placed : Reachability.place index p.entryPoints c = some location) :
    p.entryPoints.find? (·.className = c) = some location := by
  obtain ⟨start, given, named⟩ := isEntry
  cases first : p.entryPoints.find? (·.className = c) with
  | none => exact absurd (decide_eq_true named) (List.find?_eq_none.1 first start given)
  | some other =>
    rw [Reachability.place, first, Option.some_or] at placed
    exact placed

/-- A class is read where the index has it, unless it is one of an entry point and of the JDK. -/
theorem Assembled.location?_of_place
    (parts : Assembled fs env s p modules entryPoints libraries) {c : ClassName}
    {location : ClassLocation} (apart : ¬ Shadowed fs env s p c)
    (placed : Reachability.place (ClassIndex.ofArtifacts p.classpath) p.entryPoints c =
      some location) : (ClassIndex.ofArtifacts p.classpath).location? c = some location := by
  rw [Reachability.place] at placed
  cases isEntry : p.entryPoints.find? (·.className = c) with
  | none =>
    rw [isEntry, Option.none_or] at placed
    exact placed
  | some first =>
    rw [isEntry, Option.some_or] at placed
    rw [parts.location?_eq, isEntry, ← placed]
    cases shadow : modules.findSome? fun a => a.classes.get? c with
    | none => rfl
    | some there =>
      obtain ⟨m, isModule, found⟩ := List.exists_of_findSome?_eq_some shadow
      refine absurd ⟨⟨first, List.mem_of_find?_eq_some isEntry, ?_⟩, m,
        (parts.mem_modules_iff m).1 isModule, InsertionMap.mem_keys_iff.2 ⟨there, found⟩⟩ apart
      simpa using List.find?_some isEntry

end Project

namespace CanonicalPaths
open ConflictReport Reachability

variable {fs files : FileSystem} {env : Environment} {s : Settings} {p : Project}
  {decoder : Decoder} {modules entryPoints libraries : List Artifact}

/-- A class leads to another by the declaration that the index has of it, which is the one that is
checked. -/
def CanonicalStep (p : Project) (declares : ClassLocation → DeclaredClass → Prop)
    (a b : ClassName) : Prop :=
  ∃ d, Canonical (ClassIndex.ofArtifacts p.classpath) declares a d ∧ d.LeadsTo b

/-- A class leads to another by the declaration of the first entry point for it. -/
def EntryStep (p : Project) (declares : ClassLocation → DeclaredClass → Prop)
    (a b : ClassName) : Prop :=
  ∃ location d, p.entryPoints.find? (·.className = a) = some location ∧ declares location d ∧
    d.LeadsTo b

/-- A step of a path, with the classes in front of it. The first step is one of the entry point if
the JDK has the class as well, and every other step is one of the declaration that is checked. -/
def Steps (fs : FileSystem) (env : Environment) (s : Settings) (p : Project)
    (declares : ClassLocation → DeclaredClass → Prop) (before : List ClassName) (a b : ClassName) :
    Prop :=
  (before = [] ∧ Project.Shadowed fs env s p a → EntryStep p declares a b) ∧
    (¬ (before = [] ∧ Project.Shadowed fs env s p a) → CanonicalStep p declares a b)

/-- The steps of a path of the graph of an assembled project. -/
theorem steps_of_graph (parts : Project.Assembled fs env s p modules entryPoints libraries)
    {g : ClassGraph} {c a b : ClassName} {before behind : List ClassName}
    (built : ClassGraph.ofEntryPoints (decoder.declaration files)
      (ClassIndex.ofArtifacts p.classpath) p.entryPoints = .ok g)
    (isReached : c ∈ g.classes) (path : g.path c = before ++ a :: b :: behind) :
    Steps fs env s p (decoder.Declares files) before a b := by
  have keyed := ClassIndex.className_of_location? parts.loaded
  obtain ⟨declared, places, shortest⟩ := shortest_of_eq_ok keyed built
  rw [← ClassGraph.isReached_iff] at isReached
  have way := (shortest.path_to c isReached).1
  rw [path] at way
  have onTheWay : g.isReached a = true := (shortest.reached_iff a).2 way.upTo.reflTransGen
  have leads : (declared a).LeadsTo b := by
    have steps := way.steps.right_of_append
    exact (List.isChain_cons_cons.1 steps).1.1
  obtain ⟨location, placed, loaded⟩ := places a onTheWay
  have declares := Decoder.declaration_eq_ok_iff.1 loaded
  constructor
  · rintro ⟨-, isEntry, -⟩
    exact ⟨location, declared a, Project.find?_of_place isEntry placed, declares, leads⟩
  · intro other
    have apart : ¬ Project.Shadowed fs env s p a := fun shadowed =>
      other ⟨shortest.before_eq_nil isReached path shadowed.1, shadowed⟩
    exact ⟨declared a, ⟨location, parts.location?_of_place apart placed, declares⟩, leads⟩

/-- The paths of a complete check have no steps. -/
theorem path_complete {index : ClassIndex} {c : ClassName}
    (member : c ∈ (ClassGraph.complete index).classes) :
    (ClassGraph.complete index).path c = [c] := by
  obtain ⟨path, found⟩ := InsertionMap.mem_keys_iff.1 member
  obtain ⟨d, -, same⟩ := List.mem_map.1 (InsertionMap.mem_of_get?_ofList found)
  cases same
  simp [ClassGraph.path, found]

/-- Every step of the path of a conflict is one that the declaration of the class makes that the
index has and that is checked. Only the first step differs, if it starts from a class of an entry
point that a module of the JDK has as well: then it is one of the declaration of the first entry
point for the class. -/
theorem step_of_path (fs : FileSystem) (env : Environment) (s : Settings) (p : Project)
    (files : FileSystem) (decoder : Decoder) (capacity : Nat) (history : List ClassLocation)
    (cs : List Conflict) (after : Loader) (assembled : Project.assemble fs env s = .ok p)
    (checked : Loading.outcome ((Loader.new decoder capacity).after files history)
      (p.conflicts files) = (.ok cs, after)) :
    ∀ c ∈ cs, ∀ before a b behind, c.path = before ++ a :: b :: behind →
      Steps fs env s p (decoder.Declares files) before a b := by
  obtain ⟨modules, entryPoints, libraries, parts⟩ := Project.assembled_of_eq_ok assembled
  obtain ⟨g, -, results, -, built, run, rfl⟩ := of_outcome_conflicts checked
  intro c member before a b behind path
  obtain ⟨name, isReached, part, here, inside⟩ := (mem_flatten_of_mapM_eq_ok run).1 member
  have origin := (Provenance.rules_of_eq_ok (decoder.declaration files)).classConflicts p.policy g
    (.inr trivial) part here c inside
  rw [origin.path] at path
  unfold Check.graph at built
  split at built
  · cases built
    rw [path_complete isReached] at path
    have lengths := congrArg List.length path
    simp only [List.length_append, List.length_cons, List.length_nil] at lengths
    omega
  · exact steps_of_graph parts built isReached path

/-! ### A class of the program that the JDK has as well -/

/-- The class of the JDK does not lead to the library. -/
private theorem not_canonicalStep : ¬ CanonicalStep (Sample.project "lib")
    (Decoder.standard.Declares Sample.projectFiles) ⟨"A"⟩ ⟨"B"⟩ := by
  rintro ⟨d, ⟨location, found, declares⟩, leads⟩
  have place : (ClassIndex.ofArtifacts (Sample.project "lib").classpath).location? ⟨"A"⟩ =
      some Sample.jdkPlace := rfl
  cases place.symm.trans found
  have same : d = Sample.declaredBare :=
    declares.unique ⟨Sample.jdkPlace, rfl, Sample.load_of_knownProject _ _ rfl⟩
  rw [same, ← DeclaredClass.mem_mentions] at leads
  have mentions : Sample.declaredBare.mentions = [] := rfl
  simp [mentions] at leads

/-- The JDK has the class of the program as well, so the first step of a path from there is one that
the program makes. -/
theorem step_of_path_sample :
    Project.Shadowed Sample.projectFiles .empty (Sample.projectSettings "lib")
        (Sample.project "lib") ⟨"A"⟩ ∧
      EntryStep (Sample.project "lib") (Decoder.standard.Declares Sample.projectFiles)
        ⟨"A"⟩ ⟨"B"⟩ := by
  obtain ⟨after, found⟩ := Sample.outcome_project
  have steps := step_of_path Sample.projectFiles .empty (Sample.projectSettings "lib")
    (Sample.project "lib") Sample.projectFiles Decoder.standard 1 [] [Sample.libraryConflict] after
    (Sample.assemble_project "lib") found Sample.libraryConflict List.mem_cons_self
    [] ⟨"A"⟩ ⟨"B"⟩ [] rfl
  have shadowed : Project.Shadowed Sample.projectFiles .empty (Sample.projectSettings "lib")
      (Sample.project "lib") ⟨"A"⟩ := by
    by_contra apart
    exact not_canonicalStep (steps.2 fun here => apart here.2)
  exact ⟨shadowed, steps.1 ⟨rfl, shadowed⟩⟩

/-- A path through a class that the JDK has as well: its first step is none of the declaration that
is checked. -/
theorem path_through_shadowed :
    Project.assemble Sample.projectFiles .empty (Sample.projectSettings "lib") =
        .ok (Sample.project "lib") ∧
      (∃ after, Loading.outcome (Loader.new Decoder.standard 1)
        ((Sample.project "lib").conflicts Sample.projectFiles) =
          (.ok [Sample.libraryConflict], after)) ∧
      (Sample.project "lib").policy.complete = false ∧
      Sample.libraryConflict.path = [⟨"A"⟩, ⟨"B"⟩] ∧
      ¬ CanonicalStep (Sample.project "lib") (Decoder.standard.Declares Sample.projectFiles)
        ⟨"A"⟩ ⟨"B"⟩ :=
  ⟨Sample.assemble_project "lib", Sample.outcome_project, rfl, rfl, not_canonicalStep⟩

end CanonicalPaths
end Linkage
