import Linkage.Proofs.ConflictReport
import Linkage.Proofs.NoLateFailure
import Linkage.Proofs.OutputFilter
import Linkage.Proofs.Projects

/-!
A complete check beside one of the classes that the entry points reach. What is reported of a class
does not hang on the graph but for the path, so the two checks report the same of every class that
is reached (`classConflicts_eq_map`), and a complete check reports nothing else of these classes
(`conflicts_perm_complete`). A path ends with its class only if the index has every location under
its own name, and a class counts as reached only by its first entry point
(`conflicts_not_perm_complete`).
-/
namespace Linkage

namespace Conflict

/-- The conflict with another path. -/
def withPath (path : List ClassName) (c : Conflict) : Conflict := { c with path }

/-- The conflict with the calling class, the last of its path, for a path. -/
def atCaller (c : Conflict) : Conflict := c.withPath c.path.getLast?.toList

/-- The conflict with the path that a graph has to the calling class. -/
def along (g : ClassGraph) (c : Conflict) : Conflict :=
  c.withPath (c.path.getLast?.elim [] g.path)

/-- The calling class of a conflict is one of some classes. -/
def CalledFrom (classes : ClassName → Prop) (c : Conflict) : Prop :=
  ∃ a, c.path.getLast? = some a ∧ classes a

end Conflict

namespace Reachability

/-- A class leads to another one of the index by its declaration, read at the first entry point for
it or else where the index has it. -/
def Leads (declares : ClassLocation → DeclaredClass → Prop) (index : ClassIndex)
    (entryPoints : List ClassLocation) (a b : ClassName) : Prop :=
  ∃ location d, place index entryPoints a = some location ∧ declares location d ∧ d.LeadsTo b ∧
    (index.location? b).isSome

/-- A class is that of an entry point, or classes lead to it from there. -/
def Reaches (declares : ClassLocation → DeclaredClass → Prop) (index : ClassIndex)
    (entryPoints : List ClassLocation) (c : ClassName) : Prop :=
  ∃ e, Entry entryPoints e ∧ Relation.ReflTransGen (Leads declares index entryPoints) e c

theorem mem_classes_iff_reaches {fs : FileSystem} {decoder : Decoder} {index : ClassIndex}
    {entryPoints : List ClassLocation} {g : ClassGraph} {c : ClassName}
    (keyed : ∀ c location, index.location? c = some location → location.className = c)
    (built : ClassGraph.ofEntryPoints (decoder.declaration fs) index entryPoints = .ok g) :
    c ∈ g.classes ↔ Reaches (decoder.Declares fs) index entryPoints c := by
  obtain ⟨declared, places, shortest⟩ := shortest_of_eq_ok keyed built
  -- both relations go on alike from a class that is reached, where one declaration was read
  have successor_iff : ∀ a b, g.isReached a → (Successor index declared a b ↔
      Leads (decoder.Declares fs) index entryPoints a b) := by
    intro a b isReached
    obtain ⟨location, placed, loaded⟩ := places a isReached
    have declares := Decoder.declaration_eq_ok_iff.1 loaded
    constructor
    · rintro ⟨leads, indexed⟩
      exact ⟨location, declared a, placed, declares, leads, indexed⟩
    · rintro ⟨other, d, otherPlaced, otherDeclares, leads, indexed⟩
      cases placed.symm.trans otherPlaced
      exact ⟨declares.unique otherDeclares ▸ leads, indexed⟩
  rw [← ClassGraph.isReached_iff]
  constructor
  · intro isReached
    obtain ⟨e, entry, steps⟩ := (shortest.reached_iff c).1 isReached
    refine ⟨e, entry, ?_⟩
    induction steps with
    | refl => exact .refl
    | @tail a b before last ih =>
      have reachedA : g.isReached a := (shortest.reached_iff a).2 ⟨e, entry, before⟩
      exact (ih reachedA).tail ((successor_iff a b reachedA).1 last)
  · rintro ⟨e, entry, steps⟩
    induction steps with
    | refl => exact (shortest.reached_iff e).2 ⟨e, entry, .refl⟩
    | @tail a b _ last ih =>
      obtain ⟨e, entry, before⟩ := (shortest.reached_iff a).1 ih
      exact (shortest.reached_iff b).2 ⟨e, entry, before.tail ((successor_iff a b ih).2 last)⟩

end Reachability

namespace CompleteCheck
open Reachability
variable {δ : Type} {policy : Policy} {index : ClassIndex}
  {load : ClassLocation → Except CheckError DeclaredClass}

/-! ### What is reported of a class -/

private theorem siteConflict_eq_map {usedBy : String} {path : List ClassName}
    (other : List ClassName) {caller : MethodReference} {kind : Check.MemberKind δ}
    {site : CallSite (Reference δ)} {r : Option Conflict}
    (run : Check.siteConflict? policy index load usedBy path caller kind site = .ok r) :
    Check.siteConflict? policy index load usedBy other caller kind site =
      .ok (r.map (Conflict.withPath other)) := by
  obtain ⟨failure, failed, last⟩ := bind_eq_ok.1 run
  cases failure with
  | none =>
    cases last
    exact bind_eq_ok.2 ⟨none, failed, rfl⟩
  | some category =>
    cases last
    exact bind_eq_ok.2 ⟨some category, failed, rfl⟩

private theorem methodConflicts_eq_map {usedBy : String} {path : List ClassName}
    (other : List ClassName) {method : DeclaredMethod} {cs : List Conflict}
    (run : Check.methodConflicts policy index load usedBy path method = .ok cs) :
    Check.methodConflicts policy index load usedBy other method =
      .ok (cs.map (Conflict.withPath other)) := by
  obtain ⟨calls, called, rest⟩ := bind_eq_ok.1 run
  obtain ⟨accesses, accessed, last⟩ := bind_eq_ok.1 rest
  cases last
  refine bind_eq_ok.2 ⟨_, mapM_eq_ok_map (fun _ _ _ here => siteConflict_eq_map other here) called,
    bind_eq_ok.2 ⟨_, mapM_eq_ok_map (fun _ _ _ here => siteConflict_eq_map other here) accessed, ?_⟩⟩
  rw [← List.map_append, List.filterMap_map, List.map_filterMap]
  rfl

/-- What is reported of a class does not hang on the graph but for the path. -/
private theorem classConflicts_eq_map {g : ClassGraph} (h : ClassGraph) {c : ClassName}
    {cs : List Conflict} (run : Check.classConflicts policy index load g c = .ok cs) :
    Check.classConflicts policy index load h c = .ok (cs.map (Conflict.withPath (h.path c))) := by
  unfold Check.classConflicts at run ⊢
  by_cases ignored : policy.ignoresClass c = true
  · rw [if_pos ignored] at run ⊢
    cases run
    rfl
  rw [if_neg ignored] at run ⊢
  cases provided : index.artifact? c with
  | none =>
    rw [provided] at run
    cases run
  | some usedBy =>
    rw [provided] at run
    dsimp only at run ⊢
    by_cases ignoredArtifact : policy.ignoresArtifact usedBy = true
    · rw [if_pos ignoredArtifact] at run ⊢
      cases run
      rfl
    rw [if_neg ignoredArtifact] at run ⊢
    obtain ⟨loaded, found, rest⟩ := bind_eq_ok.1 run
    cases loaded with
    | none => cases rest
    | some d =>
      obtain ⟨parts, each, last⟩ := bind_eq_ok.1 rest
      cases last
      have others := mapM_eq_ok_map
        (fun _ _ _ here => methodConflicts_eq_map (h.path c) here) each
      refine bind_eq_ok.2 ⟨some d, found, bind_eq_ok.2 ⟨_, others, ?_⟩⟩
      rw [List.map_flatten]
      rfl

/-- The graph of one class. -/
private def single (c : ClassName) : ClassGraph := ⟨InsertionMap.empty.insert c [c]⟩

private theorem path_single (c : ClassName) : (single c).path c = [c] := by
  simp [single, ClassGraph.path, InsertionMap.get?_insert]

/-- What is reported of a class by itself, if anything is. -/
private def part (policy : Policy) (index : ClassIndex)
    (load : ClassLocation → Except CheckError DeclaredClass) (c : ClassName) : List Conflict :=
  (Check.classConflicts policy index load (single c) c).toOption.getD []

/-- What is reported of a class of a graph is what is reported of the class by itself, but for the
path. -/
private theorem part_eq_map {g : ClassGraph} {a : ClassName} {cs : List Conflict}
    (run : Check.classConflicts policy index load g a = .ok cs) :
    part policy index load a = cs.map (Conflict.withPath [a]) := by
  rw [part, classConflicts_eq_map (single a) run, path_single]
  rfl

private theorem getLast?_of_mem_part {a : ClassName} {c : Conflict}
    (member : c ∈ part policy index load a) : c.path.getLast? = some a := by
  cases run : Check.classConflicts policy index load (single a) a with
  | error e => simp [part, run, Except.toOption] at member
  | ok cs =>
    rw [part_eq_map run] at member
    obtain ⟨d, -, rfl⟩ := List.mem_map.1 member
    rfl

private theorem map_atCaller {g : ClassGraph} {a : ClassName} {cs : List Conflict}
    (ends : (g.path a).getLast? = some a)
    (run : Check.classConflicts policy index load g a = .ok cs) :
    cs.map Conflict.atCaller = part policy index load a := by
  have own : cs = cs.map (Conflict.withPath (g.path a)) :=
    Except.ok.inj (run.symm.trans (classConflicts_eq_map g run))
  have shortened (c : Conflict) : (c.withPath (g.path a)).atCaller = c.withPath [a] := by
    simp [Conflict.atCaller, Conflict.withPath, ends]
  rw [part_eq_map run, own, List.map_map, List.map_map]
  exact List.map_congr_left fun c _ => shortened c

/-- Nothing is reported of a class that is not in the index, be it that its name is left out. -/
private theorem part_of_location_eq_none {a : ClassName} (absent : index.location? a = none) :
    part policy index load a = [] := by
  have provided : index.artifact? a = none := ClassIndex.artifact?_eq_none_iff.2 absent
  unfold part Check.classConflicts
  rw [provided]
  split <;> rfl

private theorem map_flatten_eq_flatMap {g : ClassGraph} {parts : List (List Conflict)}
    {change : Conflict → Conflict} {said : ClassName → List Conflict}
    (each : ∀ a ∈ g.classes, ∀ cs, Check.classConflicts policy index load g a = .ok cs →
      cs.map change = said a)
    (run : g.classes.mapM (Check.classConflicts policy index load g) = .ok parts) :
    parts.flatten.map change = g.classes.flatMap said := by
  have changed : g.classes.mapM (fun a => (.ok (said a) : Except CheckError _)) =
      .ok (parts.map (List.map change)) :=
    mapM_eq_ok_map (fun a member cs here => congrArg Except.ok (each a member cs here).symm) run
  rw [List.map_flatten, eq_map_of_mapM_eq_ok (fun _ _ same => (Except.ok.inj same).symm) changed]
  rfl

/-! ### The two checks -/

private theorem flatMap_filter_of_nil {α β : Type} {f : α → List β} {p : α → Bool} {as : List α}
    (none : ∀ a ∈ as, p a = false → f a = []) : (as.filter p).flatMap f = as.flatMap f := by
  induction as with
  | nil => rfl
  | cons a as ih =>
    have others := ih fun b later => none b (List.mem_cons_of_mem _ later)
    cases kept : p a with
    | true => simp [kept, others]
    | false => simp [kept, others, none a List.mem_cons_self kept]

open Classical in
/-- What is reported of the classes of a graph is, up to order, what is reported of the classes of
the index that are in the graph. -/
private theorem flatMap_part_perm (g : ClassGraph) :
    (g.classes.flatMap (part policy index load)).Perm
      ((index.classes.flatMap (part policy index load)).filter
        (Conflict.CalledFrom (· ∈ g.classes))) := by
  have known : g.classes.flatMap (part policy index load) =
      (g.classes.filter (· ∈ index.classes)).flatMap (part policy index load) := by
    refine (flatMap_filter_of_nil fun a _ unknown => part_of_location_eq_none ?_).symm
    simpa [ClassIndex.mem_classes_iff] using unknown
  have common : (g.classes.filter (· ∈ index.classes)).Perm
      (index.classes.filter (· ∈ g.classes)) := by
    have graphed : g.classes.Nodup := g.paths.nodup
    have indexed : index.classes.Nodup := index.nodup_classes
    refine (List.perm_ext_iff_of_nodup (graphed.filter _) (indexed.filter _)).2 fun a => ?_
    simp only [List.mem_filter, decide_eq_true_eq]
    exact and_comm
  have called {a : ClassName} {c : Conflict} (member : c ∈ part policy index load a) :
      c.CalledFrom (· ∈ g.classes) ↔ a ∈ g.classes := by
    simp [Conflict.CalledFrom, getLast?_of_mem_part member]
  -- the lists have other classes as well, but of these nothing is reported or everything is left out
  calc g.classes.flatMap (part policy index load)
    _ = (g.classes.filter (· ∈ index.classes)).flatMap (part policy index load) := known
    List.Perm _ ((index.classes.filter (· ∈ g.classes)).flatMap (part policy index load)) :=
      common.flatMap_right _
    _ = (index.classes.filter (· ∈ g.classes)).flatMap
        (fun a => (part policy index load a).filter (Conflict.CalledFrom (· ∈ g.classes))) := by
      refine List.flatMap_congr fun a member => (List.filter_eq_self.2 fun c inside => ?_).symm
      simpa [called inside] using (List.mem_filter.1 member).2
    _ = index.classes.flatMap
        (fun a => (part policy index load a).filter (Conflict.CalledFrom (· ∈ g.classes))) := by
      refine flatMap_filter_of_nil fun a _ outside => List.filter_eq_nil_iff.2 fun c inside => ?_
      simpa [called inside] using outside
    _ = _ := List.filter_flatMap.symm

private theorem calledFrom_atCaller {reached : ClassName → Prop} (c : Conflict) :
    c.atCaller.CalledFrom reached ↔ c.CalledFrom reached := by
  unfold Conflict.CalledFrom Conflict.atCaller Conflict.withPath
  cases c.path.getLast? <;> simp

open Classical in
private theorem filter_map_atCaller (reached : ClassName → Prop) (cs : List Conflict) :
    (cs.map Conflict.atCaller).filter (Conflict.CalledFrom reached) =
      (cs.filter (Conflict.CalledFrom reached)).map Conflict.atCaller := by
  rw [List.filter_map]
  congr 1
  exact List.filter_congr fun c _ => decide_eq_decide.2 (calledFrom_atCaller c)

/-- What is reported of the classes of a graph is what is reported of each by itself, with the path
of the graph. -/
private theorem flatten_eq_map_along {g : ClassGraph} {parts : List (List Conflict)}
    (run : g.classes.mapM (Check.classConflicts policy index load g) = .ok parts) :
    parts.flatten = (g.classes.flatMap (part policy index load)).map (Conflict.along g) := by
  rw [List.map_flatMap, ← List.map_id parts.flatten]
  refine map_flatten_eq_flatMap (fun a _ cs here => ?_) run
  have own : cs = cs.map (Conflict.withPath (g.path a)) :=
    Except.ok.inj (here.symm.trans (classConflicts_eq_map g here))
  rw [part_eq_map here, List.map_map, List.map_id]
  exact own

private theorem along_atCaller (g : ClassGraph) (c : Conflict) : c.atCaller.along g = c.along g := by
  unfold Conflict.along Conflict.atCaller Conflict.withPath
  cases c.path.getLast? <;> rfl

/-- Where the paths of a graph end with the classes that they lead to, its paths do not change what
the calling classes are. -/
private theorem atCaller_along {g : ClassGraph} {c : Conflict}
    (ends : ∀ a ∈ g.classes, (g.path a).getLast? = some a) (called : c.CalledFrom (· ∈ g.classes)) :
    (c.along g).atCaller = c.atCaller := by
  obtain ⟨a, last, member⟩ := called
  simp [Conflict.along, Conflict.atCaller, Conflict.withPath, last, ends a member]

open Classical in
/-- A complete check loses no conflict, and it says nothing else of the classes that the entry
points reach. The conflicts of a check of what the entry points reach are, up to order, those of a
complete check whose calling class is in the graph, with the paths of the graph. Where the index has
its locations under their own names, these are the classes that declarations lead to, and the paths
end alike. The checks may use different loaders, also such that have been used before. -/
theorem conflicts_perm_complete (fs : FileSystem) (decoder : Decoder) (capacity capacity' : Nat)
    (history history' : List ClassLocation) (policy : Policy) (classpath : List Artifact)
    (entryPoints : List ClassLocation) (cs ds : List Conflict) (after after' : Loader)
    (reachedOnly : Loading.outcome ((Loader.new decoder capacity).after fs history)
      (Check.conflicts { policy with complete := false } (Loading.load fs) classpath entryPoints) =
        (.ok cs, after))
    (complete : Loading.outcome ((Loader.new decoder capacity').after fs history')
      (Check.conflicts { policy with complete := true } (Loading.load fs) classpath entryPoints) =
        (.ok ds, after')) :
    (∃ g next, Loading.outcome ((Loader.new decoder capacity).after fs history)
        (ClassGraph.ofEntryPoints (Loading.load fs) (ClassIndex.ofArtifacts classpath)
          entryPoints) = (.ok g, next) ∧
      cs.Perm ((ds.filter (Conflict.CalledFrom (· ∈ g.classes))).map (Conflict.along g))) ∧
    ((∀ c location, (ClassIndex.ofArtifacts classpath).location? c = some location →
        location.className = c) →
      (cs.map Conflict.atCaller).Perm ((ds.filter (Conflict.CalledFrom
        (Reaches (decoder.Declares fs) (ClassIndex.ofArtifacts classpath) entryPoints))).map
          Conflict.atCaller)) := by
  let index := ClassIndex.ofArtifacts classpath
  let said := part policy index (decoder.declaration fs)
  obtain ⟨g, next, parts, graphed, built, run, rfl⟩ :=
    ConflictReport.of_outcome_conflicts reachedOnly
  obtain ⟨all, -, wholes, -, every, whole, rfl⟩ := ConflictReport.of_outcome_conflicts complete
  have endsAll : ∀ a ∈ all.classes, (all.path a).getLast? = some a := fun a member =>
    OutputFilter.getLast?_path (fun incomplete => by cases incomplete) every member
  cases every
  -- whether a check is complete makes no difference to what it says of one class
  have everything : wholes.flatten.map Conflict.atCaller = index.classes.flatMap said := by
    rw [map_flatten_eq_flatMap (fun a member _ here => map_atCaller (endsAll a member) here) whole,
      ClassGraph.classes_complete]
    rfl
  have perm : (g.classes.flatMap said).Perm ((wholes.flatten.filter
      (Conflict.CalledFrom (· ∈ g.classes))).map Conflict.atCaller) := by
    rw [← filter_map_atCaller, everything]
    exact flatMap_part_perm g
  have withPaths : parts.flatten.Perm ((wholes.flatten.filter
      (Conflict.CalledFrom (· ∈ g.classes))).map (Conflict.along g)) := by
    have reached : parts.flatten = (g.classes.flatMap said).map (Conflict.along g) :=
      flatten_eq_map_along run
    have followed := perm.map (Conflict.along g)
    rw [← reached, List.map_map] at followed
    exact followed.trans (.of_eq (List.map_congr_left fun c _ => along_atCaller g c))
  refine ⟨⟨g, next, graphed, withPaths⟩, fun keyed => ?_⟩
  have ends : ∀ a ∈ g.classes, (g.path a).getLast? = some a := fun a member =>
    OutputFilter.getLast?_path (fun _ => keyed) built member
  have same : (· ∈ g.classes) = Reaches (decoder.Declares fs) index entryPoints :=
    funext fun c => propext (mem_classes_iff_reaches keyed built)
  have shortened := withPaths.map Conflict.atCaller
  rw [List.map_map] at shortened
  rw [← same]
  refine shortened.trans (.of_eq (List.map_congr_left fun c member => ?_))
  exact atCaller_along ends (of_decide_eq_true (List.mem_filter.1 member).2)

/-! ### Two classes -/

/-- The conflict of a class that calls a method that nobody declares. -/
def sampleConflict : Conflict :=
  ⟨.methodNotFound, [⟨"A"⟩], Sample.method "A" "m", 7, .method (Sample.method "B" "y"), "app",
    some "app"⟩

private theorem sample_load : Decoder.standard.load Sample.files = fun location =>
    (Sample.known location).elim (Decoder.standard.load Sample.files location) .ok := by
  funext location
  cases isKnown : Sample.known location with
  | none => rfl
  | some d => exact Sample.load_of_known location d isKnown

private theorem sample_conflicts :
    Check.conflicts .standard (Decoder.standard.load Sample.files) Sample.classpath
      [Sample.place "A"] = .ok [sampleConflict] := by
  refine bind_eq_ok.2 ⟨_, NoLateFailure.sample_graph, bind_eq_ok.2 ⟨[[sampleConflict], []], ?_, rfl⟩⟩
  rw [sample_load]
  rfl

open Classical in
/-- A class and its parent, checked from the class on through a loader that has read the parent, and
checked both through a new one. -/
theorem conflicts_perm_complete_sample :
    [sampleConflict].Perm (([sampleConflict].filter (Conflict.CalledFrom
      (Reaches (Decoder.standard.Declares Sample.files) (ClassIndex.ofArtifacts Sample.classpath)
        [Sample.place "A"]))).map Conflict.atCaller) := by
  have reachedOnly : (Loading.outcome
      ((Loader.new Decoder.standard 2).after Sample.files [Sample.place "B"])
      (Check.conflicts .standard (Loading.load Sample.files) Sample.classpath
        [Sample.place "A"])).1 = .ok [sampleConflict] := by
    have alike := Sample.readsAlike fun a => a ∈ [Sample.place "A", Sample.place "B"] ∨
      (ClassIndex.ofArtifacts Sample.classpath).Locates a
    rw [Loading.outcome_conflicts 2 alike (by simp) (by simp)]
    exact sample_conflicts
  have complete : (Loading.outcome (Loader.new Decoder.standard 1)
      (Check.conflicts { Policy.standard with complete := true } (Loading.load Sample.files)
        Sample.classpath [Sample.place "A"])).1 = .ok [sampleConflict] := by
    rw [Loading.load_eq_loadKnown Sample.load_of_known]
    rfl
  exact (conflicts_perm_complete Sample.files Decoder.standard 2 1 [Sample.place "B"] [] .standard
    Sample.classpath [Sample.place "A"] _ _ _ _ (Prod.ext reachedOnly rfl)
    (Prod.ext complete rfl)).2 Sample.className_of_location

/-! ### A class under two names, and one with two entry points -/

/-- A complete check says of a class that is in the index under two names what it says of each. -/
private def renamedConflicts : List Conflict :=
  let own := Sample.missingMethod [⟨"B"⟩] (Sample.method "A" "m") 7
  let other := Sample.missingMethod [⟨"A"⟩] (Sample.method "A" "m") 7
  [own (Sample.method "A" "x") "app" "lib", own (Sample.method "B" "y") "app" "app",
    other (Sample.method "A" "x") "lib" "lib", other (Sample.method "B" "y") "lib" "app"]

/-- Of the entry points for a class, the first is visited. -/
private theorem graph_twoEntryPoints :
    let load := Loading.loadKnown Decoder.standard Sample.knownProject Sample.projectFiles
    let start := Loader.new Decoder.standard 1
    Loading.outcome start (Check.graph .standard
        (ClassIndex.ofArtifacts (Sample.project "lib").classpath) load
        [Sample.jdkPlace, Sample.programPlace]) =
      (.ok ⟨.ofList [(⟨"A"⟩, [⟨"A"⟩])]⟩, (Loading.outcome start (load Sample.jdkPlace)).2) := by
  intro load start
  let index := ClassIndex.ofArtifacts (Sample.project "lib").classpath
  have bare : (Loading.outcome start (load Sample.jdkPlace)).1 = .ok Sample.declaredBare := rfl
  have walked :=
    calc Loading.outcome start (ClassGraph.walk load index
          [⟨"A"⟩, ⟨"A"⟩, ⟨"A"⟩, ⟨"B"⟩, ⟨"A"⟩, ⟨"B"⟩]
          [(Sample.jdkPlace, [⟨"A"⟩]), (Sample.programPlace, [⟨"A"⟩])] .empty)
      _ = Loading.outcome (Loading.outcome start (load Sample.jdkPlace)).2
          (ClassGraph.walk load index [⟨"B"⟩, ⟨"B"⟩] [(Sample.programPlace, [⟨"A"⟩])]
            (.ofList [(⟨"A"⟩, [⟨"A"⟩])])) :=
        Reachability.outcome_walk_new (by decide) bare
      _ = _ := by rw [Reachability.outcome_walk_seen (by decide), Reachability.outcome_walk_nil]
  exact Loading.outcome_bind_eq_ok.2 ⟨_, _, walked, rfl⟩

open Classical in
/-- The conflicts of a class that is reached under another name are none of those of a complete
check, whichever classes count as reached. And what the second entry point for a class leads to is
not reached. -/
theorem conflicts_not_perm_complete :
    (∃ cs ds, (Loading.outcome (Loader.new Decoder.standard 2) (Check.conflicts .standard
          (Loading.load Sample.archivedFiles) Sample.renamedClasspath [Sample.place "C"])).1 =
        .ok cs ∧
      (Loading.outcome (Loader.new Decoder.standard 2) (Check.conflicts
          { Policy.standard with complete := true } (Loading.load Sample.archivedFiles)
          Sample.renamedClasspath [Sample.place "C"])).1 = .ok ds ∧
      ¬ ∃ reached, (cs.map Conflict.atCaller).Perm
        ((ds.filter (Conflict.CalledFrom reached)).map Conflict.atCaller)) ∧
    ((Loading.outcome (Loader.new Decoder.standard 1) (Check.conflicts .standard
          (Loading.load Sample.projectFiles) (Sample.project "lib").classpath
          [Sample.jdkPlace, Sample.programPlace])).1 = .ok [] ∧
      (Loading.outcome (Loader.new Decoder.standard 1) (Check.conflicts
          { Policy.standard with complete := true } (Loading.load Sample.projectFiles)
          (Sample.project "lib").classpath [Sample.jdkPlace, Sample.programPlace])).1 =
        .ok [Sample.libraryConflict.withPath [⟨"B"⟩]] ∧
      Decoder.standard.Declares Sample.projectFiles Sample.programPlace
        (Sample.declaredCaller "A" "B") ∧
      (Sample.declaredCaller "A" "B").LeadsTo ⟨"B"⟩) := by
  constructor
  · have told : Loading.load Sample.archivedFiles = Sample.loadArchived :=
      Loading.load_eq_loadTold Sample.load_of_toldArchived
    rw [told]
    let conflict := Sample.missingMethod [⟨"C"⟩, ⟨"B"⟩] (Sample.method "A" "m") 7
    let c := conflict (Sample.method "A" "x") "lib" "lib"
    let d := conflict (Sample.method "B" "y") "lib" "app"
    refine ⟨[c, d], renamedConflicts, ?_, rfl, ?_⟩
    · rw [OutputFilter.outcome_conflicts_of_graph (Sample.graph_renamed rfl)]
      rfl
    · rintro ⟨reached, perm⟩
      have member : c.atCaller ∈ [c, d].map Conflict.atCaller := List.mem_cons_self
      obtain ⟨e, inside, same⟩ := List.mem_map.1 (perm.subset member)
      have others : ∀ e ∈ renamedConflicts, e.atCaller ≠ c.atCaller := by decide +kernel
      exact others e (List.mem_filter.1 inside).1 same
  · rw [Loading.load_eq_loadKnown Sample.load_of_knownProject]
    refine ⟨?_, rfl, ⟨Sample.programPlace, rfl, Sample.load_of_knownProject _ _ rfl⟩, ?_⟩
    · rw [OutputFilter.outcome_conflicts_of_graph graph_twoEntryPoints]
      rfl
    · rw [← DeclaredClass.mem_mentions]
      decide

end CompleteCheck
end Linkage
