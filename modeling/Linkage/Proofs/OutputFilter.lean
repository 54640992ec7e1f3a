import Linkage.Archive.Build
import Linkage.Proofs.Reachability
import Linkage.Proofs.Transparency

/-!
The filters of a policy are filters of the output. What a policy leaves out changes neither the
graph, nor a path, nor what is looked up for a site that is not left out: the conflicts that are
reported are those that a check without filters reports, less those that the policy leaves out
(`conflicts_filter`). There are two exceptions (`conflicts_not_filtered`). A class that is left out
is not loaded, so that another may be evicted that can be read no more, as its location is spelled;
and the path of a class ends with another name where the index has the class under that name.
-/
namespace Linkage

/-- The policy that checks the same classes and leaves nothing out. -/
def Policy.unfiltered (p : Policy) : Policy := { Policy.standard with complete := p.complete }

/-- Whether nothing about a conflict is left out: neither the calling class, which is the last of
the path, nor the owner of the target, nor the artifact of the calling class. -/
def Policy.reports (p : Policy) (c : Conflict) : Bool :=
  !c.path.getLast?.any p.ignoresClass && !p.ignoresClass c.target.owner &&
    !p.ignoresArtifact c.usedBy

/-- Whether nothing about a conflict of a class is left out: neither the class, nor the owner of the
target, nor the artifact of the class. -/
def Policy.reportsOf (p : Policy) (name : ClassName) (c : Conflict) : Bool :=
  !p.ignoresClass name && !p.ignoresClass c.target.owner && !p.ignoresArtifact c.usedBy

/-- Where the path of a conflict ends with its calling class, the path tells whether it is left
out. -/
theorem Policy.reports_eq {p : Policy} {name : ClassName} {c : Conflict}
    (ends : c.path.getLast? = some name) : p.reports c = p.reportsOf name c := by
  rw [reports, ends, Option.any_some, reportsOf]

/-- Of two lists of conflicts of the classes of a graph, the second has of each class what the first
has, less what a policy leaves out. -/
def FilteredBy (policy : Policy) (g : ClassGraph) (cs ds : List Conflict) : Prop :=
  ∃ part : ClassName → List Conflict, (∀ a, ∀ c ∈ part a, c.path = g.path a) ∧
    cs = g.classes.flatMap part ∧
    ds = g.classes.flatMap fun a => (part a).filter (policy.reportsOf a)

/-- Where the paths of a graph end with the classes that they lead to, the path tells what is left
out. -/
theorem FilteredBy.eq_filter {policy : Policy} {g : ClassGraph} {cs ds : List Conflict}
    (filtered : FilteredBy policy g cs ds)
    (ends : ∀ a ∈ g.classes, (g.path a).getLast? = some a) : ds = cs.filter policy.reports := by
  obtain ⟨part, paths, rfl, rfl⟩ := filtered
  rw [List.filter_flatMap]
  refine List.flatMap_congr fun a member => List.filter_congr fun c inside => ?_
  rw [Policy.reports_eq (paths a c inside ▸ ends a member)]

namespace OutputFilter
variable {δ : Type} {policy : Policy} {index : ClassIndex}
  {load : ClassLocation → Except CheckError DeclaredClass}

theorem ignoresClass_unfiltered (c : ClassName) :
    policy.unfiltered.ignoresClass c = false := by
  simp [Policy.unfiltered, Policy.standard, Policy.ignoresClass, Policy.ignoresClassName,
    Policy.startsWithAny, SortedSet.empty]

theorem ignoresArtifact_unfiltered (artifact : String) :
    policy.unfiltered.ignoresArtifact artifact = false := by
  simp [Policy.unfiltered, Policy.standard, Policy.ignoresArtifact, Policy.startsWithAny,
    SortedSet.empty]

private theorem failure_of_unfiltered {kind : Check.MemberKind δ} {site : CallSite (Reference δ)}
    {r : Option ConflictCategory}
    (run : Check.failure? policy.unfiltered index load kind site = .ok r) :
    Check.failure? policy index load kind site =
      .ok (if policy.ignoresClass site.reference.owner then none else r) := by
  unfold Check.failure? at run ⊢
  dsimp only at run ⊢
  rw [ignoresClass_unfiltered] at run
  by_cases ignored : policy.ignoresClass site.reference.owner = true
  · rw [if_pos ignored, if_pos ignored]
    rfl
  · rw [if_neg ignored, if_neg ignored]
    exact run

/-- The conflict of a site is left out where the owner is, and it has the path and the artifact that
it was given. -/
private theorem siteConflict_of_unfiltered {usedBy : String} {path : List ClassName}
    {caller : MethodReference} {kind : Check.MemberKind δ} {site : CallSite (Reference δ)}
    {r : Option Conflict} (owner : ∀ reference, (kind.toMember reference).owner = reference.owner)
    (run : Check.siteConflict? policy.unfiltered index load usedBy path caller kind site = .ok r) :
    Check.siteConflict? policy index load usedBy path caller kind site =
        .ok (r.filter fun c => !policy.ignoresClass c.target.owner) ∧
      ∀ c, r = some c → c.path = path ∧ c.usedBy = usedBy := by
  unfold Check.siteConflict? at run ⊢
  obtain ⟨failure, failed, last⟩ := bind_eq_ok.1 run
  have filtered := failure_of_unfiltered failed
  cases failure with
  | none =>
    cases last
    rw [ite_self] at filtered
    rw [filtered]
    exact ⟨rfl, by simp⟩
  | some category =>
    cases last
    rw [filtered]
    constructor
    · by_cases ignored : policy.ignoresClass site.reference.owner = true
      · simp [Option.filter, owner, ignored, pure, Except.pure, bind, Except.bind]
      · simp [Option.filter, owner, ignored, pure, Except.pure, bind, Except.bind]
    · intro c same
      cases same
      exact ⟨rfl, rfl⟩

private theorem methodConflicts_of_unfiltered {usedBy : String} {path : List ClassName}
    {method : DeclaredMethod} {cs : List Conflict}
    (run : Check.methodConflicts policy.unfiltered index load usedBy path method = .ok cs) :
    Check.methodConflicts policy index load usedBy path method =
        .ok (cs.filter fun c => !policy.ignoresClass c.target.owner) ∧
      ∀ c ∈ cs, c.path = path ∧ c.usedBy = usedBy := by
  obtain ⟨calls, called, rest⟩ := bind_eq_ok.1 run
  obtain ⟨accesses, accessed, last⟩ := bind_eq_ok.1 rest
  cases last
  have callsFiltered := mapM_eq_ok_map
    (fun site _ r here => (siteConflict_of_unfiltered (fun _ => rfl) here).1) called
  have accessesFiltered := mapM_eq_ok_map
    (fun site _ r here => (siteConflict_of_unfiltered (fun _ => rfl) here).1) accessed
  constructor
  · refine bind_eq_ok.2 ⟨_, callsFiltered, bind_eq_ok.2 ⟨_, accessesFiltered, ?_⟩⟩
    rw [List.filter_filterMap, ← List.map_append, List.filterMap_map]
    rfl
  · intro c member
    obtain ⟨r, inside, same⟩ := List.mem_filterMap.1 member
    rcases List.mem_append.1 inside with isCall | isAccess
    · obtain ⟨site, -, here⟩ := (mem_iff_of_mapM_eq_ok called).1 isCall
      exact (siteConflict_of_unfiltered (fun _ => rfl) here).2 c same
    · obtain ⟨site, -, here⟩ := (mem_iff_of_mapM_eq_ok accessed).1 isAccess
      exact (siteConflict_of_unfiltered (fun _ => rfl) here).2 c same

/-- A class or an artifact that is left out leaves out all conflicts of the class. -/
private theorem classConflicts_of_unfiltered {g : ClassGraph} {name : ClassName}
    {cs : List Conflict}
    (run : Check.classConflicts policy.unfiltered index load g name = .ok cs) :
    Check.classConflicts policy index load g name = .ok (cs.filter (policy.reportsOf name)) ∧
      ∀ c ∈ cs, c.path = g.path name := by
  unfold Check.classConflicts at run ⊢
  rw [ignoresClass_unfiltered] at run
  cases provided : index.artifact? name with
  | none =>
    rw [provided] at run
    cases run
  | some usedBy =>
    rw [provided] at run
    dsimp only at run ⊢
    rw [ignoresArtifact_unfiltered] at run
    obtain ⟨loaded, found, rest⟩ := bind_eq_ok.1 run
    cases loaded with
    | none => cases rest
    | some d =>
      obtain ⟨parts, each, last⟩ := bind_eq_ok.1 rest
      cases last
      have about : ∀ c ∈ parts.flatten, c.path = g.path name ∧ c.usedBy = usedBy := by
        intro c member
        obtain ⟨m, -, part, here, inside⟩ := (mem_flatten_of_mapM_eq_ok each).1 member
        exact (methodConflicts_of_unfiltered here).2 c inside
      refine ⟨?_, fun c member => (about c member).1⟩
      have reports : ∀ c ∈ parts.flatten, policy.reportsOf name c = (!policy.ignoresClass name &&
          !policy.ignoresClass c.target.owner && !policy.ignoresArtifact usedBy) := by
        intro c member
        rw [Policy.reportsOf, (about c member).2]
      rw [List.filter_congr reports]
      -- once the class and its artifact are kept, only the owner of the target counts
      by_cases ignored : policy.ignoresClass name = true
      · simp [ignored, pure, Except.pure]
      · by_cases ignoredArtifact : policy.ignoresArtifact usedBy = true
        · simp [ignored, ignoredArtifact, pure, Except.pure]
        · rw [if_neg ignored, if_neg ignoredArtifact]
          refine bind_eq_ok.2 ⟨some d, found, bind_eq_ok.2 ⟨_, mapM_eq_ok_map
            (fun m _ part here => (methodConflicts_of_unfiltered here).1) each, ?_⟩⟩
          simp [ignored, ignoredArtifact, List.filter_flatten, pure, Except.pure]

/-- The path to a class of the graph ends there. -/
theorem getLast?_path {entryPoints : List ClassLocation} {g : ClassGraph} {c : ClassName}
    (keyed : policy.complete = false →
      ∀ c location, index.location? c = some location → location.className = c)
    (built : Check.graph policy index load entryPoints = .ok g) (member : c ∈ g.classes) :
    (g.path c).getLast? = some c := by
  unfold Check.graph at built
  split at built
  · cases built
    obtain ⟨path, found⟩ := InsertionMap.mem_keys_iff.1 member
    obtain ⟨d, -, same⟩ := List.mem_map.1 (InsertionMap.mem_of_get?_ofList found)
    cases same
    simp [ClassGraph.path, found]
  · rename_i reachedOnly
    obtain ⟨declared, -, shortest⟩ :=
      Reachability.shortest_of_eq_ok (keyed (by simpa using reachedOnly)) built
    exact (shortest.path_to c (ClassGraph.isReached_iff.2 member)).1.stop

/-- What a check without filters reports of a class, if it gets so far. -/
private def part (policy : Policy) (index : ClassIndex)
    (load : ClassLocation → Except CheckError DeclaredClass) (g : ClassGraph) (a : ClassName) :
    List Conflict :=
  (Check.classConflicts policy.unfiltered index load g a).toOption.getD []

private theorem part_eq {g : ClassGraph} {a : ClassName} {cs : List Conflict}
    (run : Check.classConflicts policy.unfiltered index load g a = .ok cs) :
    part policy index load g a = cs := by
  rw [part, run]
  rfl

private theorem path_of_mem_part {g : ClassGraph} {a : ClassName} {c : Conflict}
    (member : c ∈ part policy index load g a) : c.path = g.path a := by
  cases run : Check.classConflicts policy.unfiltered index load g a with
  | error e => simp [part, run, Except.toOption] at member
  | ok cs => exact (classConflicts_of_unfiltered run).2 c (part_eq run ▸ member)

private theorem conflicts_of_unfiltered {classpath : List Artifact}
    {entryPoints : List ClassLocation} {cs : List Conflict}
    (run : Check.conflicts policy.unfiltered load classpath entryPoints = .ok cs) :
    ∃ g ds, Check.graph policy (ClassIndex.ofArtifacts classpath) load entryPoints = .ok g ∧
      Check.conflicts policy load classpath entryPoints = .ok ds ∧ FilteredBy policy g cs ds := by
  obtain ⟨g, built, rest⟩ := bind_eq_ok.1 run
  obtain ⟨parts, each, last⟩ := bind_eq_ok.1 rest
  cases last
  let said := part policy (ClassIndex.ofArtifacts classpath) load g
  have whole : parts = g.classes.map said :=
    eq_map_of_mapM_eq_ok (fun _ _ here => (part_eq here).symm) each
  have filtered : g.classes.mapM (Check.classConflicts policy (ClassIndex.ofArtifacts classpath)
      load g) = .ok (g.classes.map fun a => (said a).filter (policy.reportsOf a)) := by
    refine mapM_eq_ok.2 (List.forall₂_map_right_iff.2 (List.forall₂_same.2 fun a member => ?_))
    obtain ⟨cs, here⟩ := exists_of_mapM_eq_ok each member
    rw [(classConflicts_of_unfiltered here).1, ← part_eq here]
  rw [whole]
  exact ⟨g, _, built, bind_eq_ok.2 ⟨g, built, bind_eq_ok.2 ⟨_, filtered, rfl⟩⟩, said,
    fun _ _ member => path_of_mem_part member, rfl, rfl⟩

/-- Filters are filters of the output. Where a check without filters succeeds, the check with the
filters of a policy reports of each class of the graph the same conflicts in the same order, less
those that the policy leaves out. The paths end with their classes in a complete check, and if the
index has its locations under their own names. The check with filters can fail only at a location
that cannot be read though another that is taken as the same can be. The two checks may use
different loaders, also such that have been used before. -/
theorem conflicts_filter (fs : FileSystem) (decoder : Decoder) (capacity capacity' : Nat)
    (history history' : List ClassLocation) (policy : Policy) (classpath : List Artifact)
    (entryPoints : List ClassLocation) (cs : List Conflict) (after : Loader)
    (unfiltered : Loading.outcome ((Loader.new decoder capacity).after fs history)
      (Check.conflicts policy.unfiltered (Loading.load fs) classpath entryPoints) =
        (.ok cs, after)) :
    ∃ g next ds,
      Loading.outcome ((Loader.new decoder capacity).after fs history)
        (Check.graph policy (ClassIndex.ofArtifacts classpath) (Loading.load fs) entryPoints) =
          (.ok g, next) ∧
      FilteredBy policy g cs ds ∧
      ((policy.complete = false → ∀ c location,
          (ClassIndex.ofArtifacts classpath).location? c = some location →
            location.className = c) → ds = cs.filter policy.reports) ∧
      ((Loading.outcome ((Loader.new decoder capacity').after fs history')
          (Check.conflicts policy (Loading.load fs) classpath entryPoints)).1 = .ok ds ∨
        Loading.FailsMisspelled fs
          (fun a => a ∈ history ++ history' ++ entryPoints ∨
            (ClassIndex.ofArtifacts classpath).Locates a)
          (fun b => b ∈ entryPoints ∨ (ClassIndex.ofArtifacts classpath).Locates b)
          (Loading.outcome ((Loader.new decoder capacity').after fs history')
            (Check.conflicts policy (Loading.load fs) classpath entryPoints)).1) := by
  let index := ClassIndex.ofArtifacts classpath
  let used := fun a => a ∈ history ++ history' ++ entryPoints ∨ index.Locates a
  let toRead := fun b => b ∈ entryPoints ∨ index.Locates b
  have within : ∀ location, toRead location → used location := by
    rintro location (entry | located)
    · exact .inl (List.mem_append_right _ entry)
    · exact .inr located
  have sim : Loading.Simulation fs (decoder.loadUsed fs used) toRead
      (Loading.Approaches decoder fs used toRead) := Loading.Approaches.simulation within
  have indexed : ∀ c location, index.location? c = some location → toRead location :=
    fun c _ found => .inr ⟨c, found⟩
  have given : ∀ e ∈ entryPoints, toRead e := fun _ entry => .inl entry
  have first : ((Loader.new decoder capacity).after fs history).Sourced decoder fs used :=
    Loader.sourced_after_new _ _ _ fun a old => .inl (by simp [old])
  have second : ((Loader.new decoder capacity').after fs history').Sourced decoder fs used :=
    Loader.sourced_after_new _ _ _ fun a old => .inl (by simp [old])
  obtain ⟨g, next, graphed, -⟩ := Loading.outcome_bind_eq_ok.1 unfiltered
  have run := (sim.conflicts classpath indexed entryPoints given _ first).2.1 cs
    (congrArg Prod.fst unfiltered)
  obtain ⟨g', ds, built, ran, filtered⟩ := conflicts_of_unfiltered run
  -- the graph is the one that the check without filters comes to
  have same := (sim.graph indexed entryPoints given _ first).2.1 g (congrArg Prod.fst graphed)
  cases built.symm.trans same
  refine ⟨g, next, ds, graphed, filtered, fun keyed => ?_, ?_⟩
  · exact filtered.eq_filter fun a member => getLast?_path keyed built member
  · exact (sim.conflicts classpath indexed entryPoints given _ second).2.2 ds ran

/-- A conflict is left out with the owner of its target. -/
theorem conflicts_filter_sample : ∃ last, Loading.outcome (Loader.new Decoder.standard 1)
    (Check.conflicts { Policy.standard with complete := true, ignoredClasses := .ofList ["B"] }
      (Loading.load Sample.files) Sample.classpath []) = (.ok [], last) := by
  have unfiltered : (Loading.outcome (Loader.new Decoder.standard 2)
      (Check.conflicts { Policy.standard with complete := true } (Loading.load Sample.files)
        Sample.classpath [])).1 = .ok [⟨.methodNotFound, [⟨"A"⟩], Sample.method "A" "m", 7,
          .method (Sample.method "B" "y"), "app", some "app"⟩] := by
    rw [Loading.load_eq_loadKnown Sample.load_of_known]
    decide +kernel
  obtain ⟨g, next, ds, -, -, filter, run⟩ := conflicts_filter Sample.files Decoder.standard 2 1 []
    [] { Policy.standard with complete := true, ignoredClasses := .ofList ["B"] } Sample.classpath
    [] _ _ (Prod.ext unfiltered rfl)
  cases filter fun _ => Sample.className_of_location
  rcases run with same | ⟨location, cause, none | located, misspelled, -⟩
  · exact ⟨_, Prod.ext same rfl⟩
  · cases none
  · obtain ⟨a, none | first, key, readable⟩ := misspelled.otherwise
    · cases none
    · -- the index has every location under one spelling only
      cases first.eq_of_key Sample.className_of_location located key
      rw [misspelled.unreadable] at readable
      cases readable

end OutputFilter

/-! ### A class that is spelled in two ways, and one under two names -/

namespace Sample

/-- A class, another one that calls its parent, and the parent in an archive. -/
def archivedFiles : FileSystem :=
  { workingDirectory := ["w"]
    nodes := [(["w", "A.class"], Node.file child.bytes),
      (["w", "C.class"], .file (caller "C" "B").bytes),
      (["w", "b.jar"], .file (Zip.build [] [("B.class", parent.bytes)]))].foldl
        (fun nodes e => nodes.insert e.1 e.2) .empty }

/-- The place of the parent, for a spelling of the path of the archive. -/
def archivePlace (path : String) : ClassLocation := .archive ⟨"B"⟩ ⟨path⟩ "B.class"

/-- What comes of the locations. With a slash behind it, the archive is taken as a directory. -/
def toldArchived (location : ClassLocation) : Option (Except CheckError DeclaredClass) :=
  if location = place "A" then some (.ok declaredChild)
  else if location = place "C" then some (.ok (declaredCaller "C" "B"))
  else if location = archivePlace "b.jar" then some (.ok declaredParent)
  else if location = archivePlace "b.jar/" then
    some (.error (.unloadable location (.unreadable (.unreadable ⟨"b.jar/"⟩ .notDirectory))))
  else none

theorem load_of_toldArchived (location : ClassLocation) (r : Except CheckError DeclaredClass)
    (isTold : toldArchived location = some r) :
    Decoder.standard.load archivedFiles location = r := by
  unfold toldArchived at isTold
  split at isTold
  · rename_i here
    cases isTold
    exact here ▸ Decoder.load_of_directory ["w", "A.class"]
      (FileSystem.locate_of_leads? (by decide) rfl) rfl (by decide +kernel)
  split at isTold
  · rename_i here
    cases isTold
    exact here ▸ Decoder.load_of_directory ["w", "C.class"]
      (FileSystem.locate_of_leads? (by decide) rfl) rfl (by decide +kernel)
  split at isTold
  · rename_i here
    cases isTold
    have located : archivedFiles.locate ⟨"b.jar"⟩ = .ok ["w", "b.jar"] :=
      FileSystem.locate_of_leads? (by decide) rfl
    have read : (archivePlace "b.jar").read archivedFiles = .ok parent.bytes := by
      unfold archivePlace ClassLocation.read ClassLocation.readEntry FileSystem.openArchive
        FileSystem.find
      dsimp only
      rw [located]
      decide +kernel
    exact here ▸ Decoder.load_eq_ok_iff.2 ⟨_, read, by decide +kernel⟩
  split at isTold
  · rename_i here
    cases isTold
    have located : archivedFiles.locate ⟨"b.jar/"⟩ = .error .notDirectory :=
      FileSystem.locate_of_leads? (by decide) rfl
    have read : location.read archivedFiles = .error (.unreadable ⟨"b.jar/"⟩ .notDirectory) := by
      rw [here]
      unfold archivePlace ClassLocation.read ClassLocation.readEntry FileSystem.openArchive
        FileSystem.find
      dsimp only
      rw [located]
      rfl
    rw [Decoder.load, read]
  · cases isTold

/-- The parent is in the index with a slash behind its archive. -/
def respelledClasspath : List Artifact :=
  [⟨"app", .ofList [(⟨"A"⟩, place "A"), (⟨"C"⟩, place "C")]⟩,
    ⟨"lib", .ofList [(⟨"B"⟩, archivePlace "b.jar/")]⟩]

/-- The entry points spell the archive as it can be read. -/
def respelledEntryPoints : List ClassLocation := [place "C", place "A", archivePlace "b.jar"]

/-- The class is in the index under the name of its parent as well. -/
def renamedClasspath : List Artifact :=
  [⟨"app", .ofList [(⟨"C"⟩, place "C"), (⟨"B"⟩, place "A")]⟩,
    ⟨"lib", .ofList [(⟨"A"⟩, place "A")]⟩]

/-- The policy that leaves out the parent. -/
def withoutParent : Policy := { Policy.standard with ignoredClasses := .ofList ["B"] }

/-- A call of a method that is not found. -/
def missingMethod (path : List ClassName) (caller : MethodReference) (line : Nat)
    (target : MethodReference) (usedBy existsIn : String) : Conflict :=
  ⟨.methodNotFound, path, caller, line, .method target, usedBy, some existsIn⟩

/-- Loading in which it is known what comes of the locations. -/
def loadArchived : ClassLocation → Loading DeclaredClass :=
  Loading.loadTold Decoder.standard toldArchived archivedFiles

/-- A loader for two classes that has visited some locations. -/
def visited (locations : List ClassLocation) : Loader :=
  locations.foldl (fun l location => (Loading.outcome l (loadArchived location)).2)
    (Loader.new Decoder.standard 2)

/-- The classes are reached at the entry points. -/
theorem graph_respelled {policy : Policy} (reachedOnly : policy.complete = false) :
    Loading.outcome (Loader.new Decoder.standard 2) (Check.graph policy
        (ClassIndex.ofArtifacts respelledClasspath) loadArchived respelledEntryPoints) =
      (.ok ⟨.ofList [(⟨"C"⟩, [⟨"C"⟩]), (⟨"A"⟩, [⟨"A"⟩]), (⟨"B"⟩, [⟨"B"⟩])]⟩,
        visited respelledEntryPoints) := by
  let index := ClassIndex.ofArtifacts respelledClasspath
  let start := Loader.new Decoder.standard 2
  let second := (Loading.outcome start (loadArchived (place "C"))).2
  let third := (Loading.outcome second (loadArchived (place "A"))).2
  have caller : (Loading.outcome start (loadArchived (place "C"))).1 =
      .ok (declaredCaller "C" "B") := rfl
  have child : (Loading.outcome second (loadArchived (place "A"))).1 = .ok declaredChild := rfl
  have parent : (Loading.outcome third (loadArchived (archivePlace "b.jar"))).1 =
      .ok declaredParent := rfl
  have walked :=
    calc Loading.outcome start (ClassGraph.walk loadArchived index
          [⟨"C"⟩, ⟨"A"⟩, ⟨"B"⟩, ⟨"A"⟩, ⟨"C"⟩, ⟨"B"⟩, ⟨"A"⟩, ⟨"C"⟩, ⟨"B"⟩]
          [(place "C", [⟨"C"⟩]), (place "A", [⟨"A"⟩]), (archivePlace "b.jar", [⟨"B"⟩])] .empty)
      _ = Loading.outcome second (ClassGraph.walk loadArchived index
          [⟨"A"⟩, ⟨"B"⟩, ⟨"A"⟩, ⟨"B"⟩, ⟨"A"⟩, ⟨"B"⟩]
          [(place "A", [⟨"A"⟩]), (archivePlace "b.jar", [⟨"B"⟩]),
            (archivePlace "b.jar/", [⟨"C"⟩, ⟨"B"⟩])] (.ofList [(⟨"C"⟩, [⟨"C"⟩])])) :=
        Reachability.outcome_walk_new (by decide) caller
      _ = Loading.outcome third (ClassGraph.walk loadArchived index [⟨"B"⟩, ⟨"B"⟩, ⟨"B"⟩]
          [(archivePlace "b.jar", [⟨"B"⟩]), (archivePlace "b.jar/", [⟨"C"⟩, ⟨"B"⟩]),
            (archivePlace "b.jar/", [⟨"A"⟩, ⟨"B"⟩]), (archivePlace "b.jar/", [⟨"A"⟩, ⟨"B"⟩])]
          (.ofList [(⟨"C"⟩, [⟨"C"⟩]), (⟨"A"⟩, [⟨"A"⟩])])) :=
        Reachability.outcome_walk_new (by decide) child
      _ = Loading.outcome (visited respelledEntryPoints) (ClassGraph.walk loadArchived index []
          [(archivePlace "b.jar/", [⟨"C"⟩, ⟨"B"⟩]), (archivePlace "b.jar/", [⟨"A"⟩, ⟨"B"⟩]),
            (archivePlace "b.jar/", [⟨"A"⟩, ⟨"B"⟩])]
          (.ofList [(⟨"C"⟩, [⟨"C"⟩]), (⟨"A"⟩, [⟨"A"⟩]), (⟨"B"⟩, [⟨"B"⟩])])) :=
        Reachability.outcome_walk_new (by decide) parent
      _ = _ := by
        rw [Reachability.outcome_walk_seen (by decide), Reachability.outcome_walk_seen (by decide),
          Reachability.outcome_walk_seen (by decide), Reachability.outcome_walk_nil]
  rw [Check.graph, if_neg (by simp [reachedOnly])]
  exact Loading.outcome_bind_eq_ok.2 ⟨_, _, walked, rfl⟩

/-- The class is reached under the name of its parent. -/
theorem graph_renamed {policy : Policy} (reachedOnly : policy.complete = false) :
    Loading.outcome (Loader.new Decoder.standard 2) (Check.graph policy
        (ClassIndex.ofArtifacts renamedClasspath) loadArchived [place "C"]) =
      (.ok ⟨.ofList [(⟨"C"⟩, [⟨"C"⟩]), (⟨"A"⟩, [⟨"C"⟩, ⟨"B"⟩])]⟩,
        visited [place "C", place "A"]) := by
  let index := ClassIndex.ofArtifacts renamedClasspath
  let start := Loader.new Decoder.standard 2
  let second := (Loading.outcome start (loadArchived (place "C"))).2
  have caller : (Loading.outcome start (loadArchived (place "C"))).1 =
      .ok (declaredCaller "C" "B") := rfl
  have child : (Loading.outcome second (loadArchived (place "A"))).1 = .ok declaredChild := rfl
  have walked :=
    calc Loading.outcome start (ClassGraph.walk loadArchived index
          [⟨"C"⟩, ⟨"C"⟩, ⟨"B"⟩, ⟨"A"⟩, ⟨"C"⟩, ⟨"A"⟩, ⟨"A"⟩] [(place "C", [⟨"C"⟩])] .empty)
      _ = Loading.outcome second (ClassGraph.walk loadArchived index [⟨"B"⟩, ⟨"A"⟩, ⟨"A"⟩, ⟨"A"⟩]
          [(place "A", [⟨"C"⟩, ⟨"B"⟩])] (.ofList [(⟨"C"⟩, [⟨"C"⟩])])) :=
        Reachability.outcome_walk_new (by decide) caller
      _ = Loading.outcome (visited [place "C", place "A"])
          (ClassGraph.walk loadArchived index [⟨"B"⟩]
          [(place "A", [⟨"C"⟩, ⟨"B"⟩, ⟨"B"⟩]), (place "A", [⟨"C"⟩, ⟨"B"⟩, ⟨"B"⟩])]
          (.ofList [(⟨"C"⟩, [⟨"C"⟩]), (⟨"A"⟩, [⟨"C"⟩, ⟨"B"⟩])])) :=
        Reachability.outcome_walk_new (by decide) child
      _ = _ := by
        rw [Reachability.outcome_walk_seen (by decide), Reachability.outcome_walk_seen (by decide),
          Reachability.outcome_walk_nil]
  rw [Check.graph, if_neg (by simp [reachedOnly])]
  exact Loading.outcome_bind_eq_ok.2 ⟨_, _, walked, rfl⟩

end Sample

namespace OutputFilter

/-- Once the graph is known, what a check gives is what it gives of each class. -/
theorem outcome_conflicts_of_graph {policy : Policy}
    {load : ClassLocation → Loading DeclaredClass} {classpath : List Artifact}
    {entryPoints : List ClassLocation} {l next : Loader} {g : ClassGraph}
    (graphed : Loading.outcome l (Check.graph policy (ClassIndex.ofArtifacts classpath) load
      entryPoints) = (.ok g, next)) :
    (Loading.outcome l (Check.conflicts policy load classpath entryPoints)).1 =
      (Loading.outcome next (g.classes.mapM (Check.classConflicts policy
        (ClassIndex.ofArtifacts classpath) load g))).1.map List.flatten := by
  unfold Check.conflicts
  dsimp only
  rw [Loading.outcome_bind, graphed]
  dsimp only
  rw [Loading.outcome_bind]
  rcases Loading.outcome next _ with ⟨_ | _, _⟩ <;> rfl

/-- A filter can make a check fail: the caller no longer asks for the parent, which is evicted and
cannot be read again, with a slash behind its archive. And a path can end with a class that is left
out although its calling class is not. -/
theorem conflicts_not_filtered :
    ((Loading.outcome (Loader.new Decoder.standard 2)
          (Check.conflicts Sample.withoutParent.unfiltered (Loading.load Sample.archivedFiles)
            Sample.respelledClasspath Sample.respelledEntryPoints)).1 =
        .ok [Sample.missingMethod [⟨"C"⟩] (Sample.method "C" "m") 5 (Sample.method "B" "m") "app"
            "lib",
          Sample.missingMethod [⟨"A"⟩] (Sample.method "A" "m") 7 (Sample.method "B" "y") "app"
            "lib"] ∧
      (Loading.outcome (Loader.new Decoder.standard 2) (Check.conflicts Sample.withoutParent
          (Loading.load Sample.archivedFiles) Sample.respelledClasspath
          Sample.respelledEntryPoints)).1 =
        .error (.unloadable (Sample.archivePlace "b.jar/")
          (.unreadable (.unreadable ⟨"b.jar/"⟩ .notDirectory)))) ∧
    ∃ c d, (Loading.outcome (Loader.new Decoder.standard 2)
          (Check.conflicts Sample.withoutParent.unfiltered (Loading.load Sample.archivedFiles)
            Sample.renamedClasspath [Sample.place "C"])).1 = .ok [c, d] ∧
      (Loading.outcome (Loader.new Decoder.standard 2) (Check.conflicts Sample.withoutParent
          (Loading.load Sample.archivedFiles) Sample.renamedClasspath [Sample.place "C"])).1 =
        .ok [c] ∧
      [c, d].filter Sample.withoutParent.reports = [] := by
  have told : Loading.load Sample.archivedFiles = Sample.loadArchived :=
    Loading.load_eq_loadTold Sample.load_of_toldArchived
  rw [told]
  refine ⟨⟨?_, ?_⟩, Sample.missingMethod [⟨"C"⟩, ⟨"B"⟩] (Sample.method "A" "m") 7
    (Sample.method "A" "x") "lib" "lib", Sample.missingMethod [⟨"C"⟩, ⟨"B"⟩] (Sample.method "A" "m")
    7 (Sample.method "B" "y") "lib" "app", ?_, ?_, ?_⟩
  · rw [outcome_conflicts_of_graph (Sample.graph_respelled rfl)]
    rfl
  · rw [outcome_conflicts_of_graph (Sample.graph_respelled rfl)]
    rfl
  · rw [outcome_conflicts_of_graph (Sample.graph_renamed rfl)]
    rfl
  · rw [outcome_conflicts_of_graph (Sample.graph_renamed rfl)]
    rfl
  · decide +kernel

end OutputFilter
end Linkage
