import Linkage.Proofs.Reachability
import Linkage.Proofs.Transparency

/-!
Once the graph is built, checking cannot fail. Every class that the check loads, be it a caller, the
owner of a member or an ancestor that is asked for a member, is one that the walk has loaded before:
the classes of the graph are closed under what their declarations lead to (`Closed`). So no class
file is missing or broken, and no class is missing from the index (`exists_conflicts`).
-/
namespace Linkage.NoLateFailure
variable {δ : Type} (policy : Policy) {index : ClassIndex}
  {load : ClassLocation → Except CheckError DeclaredClass} {reached : ClassName → Prop}

/-- The classes of the index that a declaration leads to are reached. -/
def Enclosed (index : ClassIndex) (reached : ClassName → Prop) (d : DeclaredClass) : Prop :=
  ∀ b, d.LeadsTo b → (index.location? b).isSome → reached b

/-- Classes that are reached are in the index, can be loaded, and lead to classes that are
reached. -/
def Closed (index : ClassIndex) (load : ClassLocation → Except CheckError DeclaredClass)
    (reached : ClassName → Prop) : Prop :=
  ∀ c, reached c → ∃ location d, index.location? c = some location ∧ load location = .ok d ∧
    Enclosed index reached d

private theorem exists_load (closed : Closed index load reached) {c : ClassName}
    (inside : (index.location? c).isSome → reached c) :
    ∃ r, index.load load c = .ok r ∧ ∀ d, r = some d → Enclosed index reached d := by
  unfold ClassIndex.load
  cases found : index.location? c with
  | none => exact ⟨none, rfl, nofun⟩
  | some location =>
    obtain ⟨place, d, here, loaded, enclosed⟩ := closed c (inside (by simp [found]))
    cases found.symm.trans here
    refine ⟨some d, map_eq_ok.2 ⟨d, loaded, rfl⟩, ?_⟩
    intro e same
    exact Option.some.inj same ▸ enclosed

private theorem exists_firstSome {α β σ : Type} {step : α → σ → Except CheckError (Option β × σ)}
    {as : List α} (each : ∀ a ∈ as, ∀ s, ∃ r, step a s = .ok r) (s : σ) :
    ∃ r, Resolution.firstSome step as s = .ok r := by
  induction as generalizing s with
  | nil => exact ⟨_, rfl⟩
  | cons a as ih =>
    obtain ⟨⟨result, next⟩, first⟩ := each a List.mem_cons_self s
    have others := ih (fun b later => each b (List.mem_cons_of_mem _ later)) next
    cases result with
    | some b => exact ⟨_, bind_eq_ok.2 ⟨_, first, rfl⟩⟩
    | none =>
      obtain ⟨r, rest⟩ := others
      exact ⟨r, bind_eq_ok.2 ⟨_, first, rest⟩⟩

/-- An ancestor is reached because its child is. -/
private theorem exists_search (closed : Closed index load reached)
    (lookup : DeclaredClass → δ → Option (Reference δ)) (wanted : Reference δ) (fuel : Nat)
    (d : DeclaredClass) (asked : List ClassName) (enclosed : Enclosed index reached d) :
    ∃ r, Resolution.search index load lookup wanted fuel d asked = .ok r := by
  induction fuel generalizing d asked with
  | zero => exact ⟨_, rfl⟩
  | succ fuel ih =>
    unfold Resolution.search
    split
    · exact ⟨_, rfl⟩
    · split
      · exact ⟨_, rfl⟩
      · -- a parent is one of the classes that the declaration leads to
        refine exists_firstSome (fun p isParent asked => ?_) _
        obtain ⟨r, loaded, inside⟩ := exists_load closed (enclosed p (.inl isParent))
        cases r with
        | none => exact ⟨_, bind_eq_ok.2 ⟨none, loaded, rfl⟩⟩
        | some parent =>
          obtain ⟨answer, found⟩ := ih parent asked (inside parent rfl)
          exact ⟨answer, bind_eq_ok.2 ⟨some parent, loaded, found⟩⟩

private theorem exists_failure (closed : Closed index load reached) (kind : Check.MemberKind δ)
    {site : CallSite (Reference δ)}
    (owner : (index.location? site.reference.owner).isSome → reached site.reference.owner) :
    ∃ r, Check.failure? policy index load kind site = .ok r := by
  unfold Check.failure?
  dsimp only
  split
  · exact ⟨_, rfl⟩
  · obtain ⟨r, loaded, inside⟩ := exists_load closed owner
    cases r with
    | none => exact ⟨_, bind_eq_ok.2 ⟨none, loaded, rfl⟩⟩
    | some target =>
      obtain ⟨answer, found⟩ := exists_search closed kind.lookup site.reference
        (2 * index.size + 1) target [] (inside target rfl)
      have resolved : Resolution.resolve index load kind.lookup target site.reference =
          .ok answer.1 := bind_eq_ok.2 ⟨answer, found, rfl⟩
      cases member : answer.1 with
      | none =>
        rw [member] at resolved
        exact ⟨_, bind_eq_ok.2 ⟨some target, loaded, bind_eq_ok.2 ⟨none, resolved, rfl⟩⟩⟩
      | some m =>
        rw [member] at resolved
        exact ⟨_, bind_eq_ok.2 ⟨some target, loaded, bind_eq_ok.2 ⟨some m, resolved, rfl⟩⟩⟩

private theorem exists_siteConflict (closed : Closed index load reached) (usedBy : String)
    (path : List ClassName) (caller : MethodReference) (kind : Check.MemberKind δ)
    {site : CallSite (Reference δ)}
    (owner : (index.location? site.reference.owner).isSome → reached site.reference.owner) :
    ∃ r, Check.siteConflict? policy index load usedBy path caller kind site = .ok r := by
  obtain ⟨failure, failed⟩ := exists_failure policy closed kind owner
  cases failure with
  | none => exact ⟨none, bind_eq_ok.2 ⟨none, failed, rfl⟩⟩
  | some category => exact ⟨_, bind_eq_ok.2 ⟨some category, failed, rfl⟩⟩

/-- The owner of a member is reached because the caller is. -/
private theorem exists_methodConflicts (closed : Closed index load reached) (usedBy : String)
    (path : List ClassName) {d : DeclaredClass} (enclosed : Enclosed index reached d)
    {method : DeclaredMethod} (declared : method ∈ d.methods.values) :
    ∃ cs, Check.methodConflicts policy index load usedBy path method = .ok cs := by
  obtain ⟨calls, called⟩ := exists_mapM_eq_ok fun site (member : site ∈ method.calls.toList) =>
    exists_siteConflict policy closed usedBy path method.reference Check.methodKind
      (enclosed _ (.inr (.inr ⟨method, declared, .inl ⟨site, member, rfl⟩⟩)))
  obtain ⟨accesses, accessed⟩ := exists_mapM_eq_ok
    fun site (member : site ∈ method.accesses.toList) =>
      exists_siteConflict policy closed usedBy path method.reference Check.fieldKind
        (enclosed _ (.inr (.inr ⟨method, declared, .inr ⟨site, member, rfl⟩⟩)))
  exact ⟨_, bind_eq_ok.2 ⟨calls, called, bind_eq_ok.2 ⟨accesses, accessed, rfl⟩⟩⟩

private theorem exists_classConflicts (closed : Closed index load reached) (g : ClassGraph)
    {c : ClassName} (isReached : reached c) :
    ∃ cs, Check.classConflicts policy index load g c = .ok cs := by
  obtain ⟨location, d, found, loaded, enclosed⟩ := closed c isReached
  unfold Check.classConflicts
  split
  · exact ⟨_, rfl⟩
  · cases provided : index.artifact? c with
    | none =>
      rw [ClassIndex.artifact?_eq_none_iff, found] at provided
      cases provided
    | some usedBy =>
      dsimp only
      split
      · exact ⟨_, rfl⟩
      · have there : index.load load c = .ok (some d) := by
          rw [ClassIndex.load, found]
          exact map_eq_ok.2 ⟨d, loaded, rfl⟩
        obtain ⟨parts, each⟩ := exists_mapM_eq_ok fun m (member : m ∈ d.methods.values) =>
          exists_methodConflicts policy closed usedBy (g.path c) enclosed member
        exact ⟨_, bind_eq_ok.2 ⟨some d, there, bind_eq_ok.2 ⟨parts, each, rfl⟩⟩⟩

/-- The graph of entry points that are the index's own locations is closed. -/
private theorem closed_of_ofEntryPoints {entryPoints : List ClassLocation} {g : ClassGraph}
    (keyed : ∀ c location, index.location? c = some location → location.className = c)
    (own : ∀ e ∈ entryPoints, index.location? e.className = some e)
    (built : ClassGraph.ofEntryPoints load index entryPoints = .ok g) :
    Closed index load (· ∈ g.classes) := by
  obtain ⟨declared, places, shortest⟩ := Reachability.shortest_of_eq_ok keyed built
  intro c member
  have isReached := ClassGraph.isReached_iff.2 member
  obtain ⟨location, placed, loaded⟩ := places c isReached
  have found : index.location? c = some location := by
    unfold Reachability.place at placed
    cases first : entryPoints.find? (·.className = c) with
    | none => simpa [first] using placed
    | some e =>
      rw [first, Option.some_or, Option.some.injEq] at placed
      subst placed
      have name : e.className = c := by simpa using List.find?_some first
      exact name ▸ own e (List.mem_of_find?_eq_some first)
  refine ⟨location, declared c, found, loaded, fun b leads indexed => ?_⟩
  obtain ⟨e, entry, steps⟩ := (shortest.reached_iff c).1 isReached
  exact ClassGraph.isReached_iff.1
    ((shortest.reached_iff b).2 ⟨e, entry, steps.tail ⟨leads, indexed⟩⟩)

private theorem Closed.mapM {g : ClassGraph} (closed : Closed index load (· ∈ g.classes)) :
    ∃ parts, g.classes.mapM (Check.classConflicts policy index load g) = .ok parts :=
  exists_mapM_eq_ok fun _ member => exists_classConflicts policy closed g member

/-- Once the graph is built, checking cannot fail. If the graph of entry points that are the index's
own locations can be built, then the check of what they reach succeeds, through whatever loader. The
classes of the graph have been decoded, and the check goes through with any way of loading that is
right about them, whatever it does with other locations. The loaders may have been used before, as
long as a location that was read then can be read as the index spells it. -/
theorem exists_conflicts (fs : FileSystem) (decoder : Decoder) (capacity capacity' : Nat)
    (history history' : List ClassLocation) (policy : Policy) (classpath : List Artifact)
    (entryPoints : List ClassLocation) (g : ClassGraph) (after : Loader)
    (reachedOnly : policy.complete = false)
    (keyed : ∀ c location, (ClassIndex.ofArtifacts classpath).location? c = some location →
      location.className = c)
    (own : ∀ e ∈ entryPoints, (ClassIndex.ofArtifacts classpath).location? e.className = some e)
    (alike : fs.ReadsAlike (· ∈ history ++ history') (ClassIndex.ofArtifacts classpath).Locates)
    (built : Loading.outcome ((Loader.new decoder capacity).after fs history)
      (ClassGraph.ofEntryPoints (Loading.load fs) (ClassIndex.ofArtifacts classpath) entryPoints) =
        (.ok g, after)) :
    (∃ cs last, Loading.outcome ((Loader.new decoder capacity').after fs history')
      (Check.conflicts policy (Loading.load fs) classpath entryPoints) = (.ok cs, last)) ∧
    (∀ c ∈ g.classes, ∃ location d, (ClassIndex.ofArtifacts classpath).location? c = some location ∧
      decoder.load fs location = .ok d) ∧
    ∀ load : ClassLocation → Except CheckError DeclaredClass,
      (∀ c ∈ g.classes, ∀ location, (ClassIndex.ofArtifacts classpath).location? c = some location →
        load location = decoder.load fs location) →
      ∃ parts, g.classes.mapM
        (Check.classConflicts policy (ClassIndex.ofArtifacts classpath) load g) = .ok parts := by
  let index := ClassIndex.ofArtifacts classpath
  let used := fun a => a ∈ history ++ history' ∨ index.Locates a
  -- no two locations of the index are taken as one, so only the histories have to be read alike
  have usedAlike : fs.ReadsAlike used index.Locates := by
    rintro a b (old | located) toRead same readable
    · exact alike a b old toRead same readable
    · rwa [← located.eq_of_key keyed toRead same]
  have sim : Loading.Simulation fs (decoder.load fs) index.Locates
      (Loading.Mirrors decoder fs used) :=
    Loading.Mirrors.simulation usedAlike fun _ located => .inr located
  have indexed : ∀ c location, index.location? c = some location → index.Locates location :=
    fun c _ found => ⟨c, found⟩
  have given : ∀ e ∈ entryPoints, index.Locates e := fun e isEntry => ⟨_, own e isEntry⟩
  have first : ((Loader.new decoder capacity).after fs history).Sourced decoder fs used :=
    Loader.sourced_after_new _ _ _ fun a old => .inl (List.mem_append_left _ old)
  have second : ((Loader.new decoder capacity').after fs history').Sourced decoder fs used :=
    Loader.sourced_after_new _ _ _ fun a old => .inl (List.mem_append_right _ old)
  have graph : ClassGraph.ofEntryPoints (decoder.load fs) index entryPoints = .ok g := by
    rw [← (sim.ofEntryPoints indexed entryPoints given _ first).1, built]
  have closed := closed_of_ofEntryPoints keyed own graph
  refine ⟨?_, fun c member => ?_, fun load right => ?_⟩
  · obtain ⟨parts, checked⟩ := closed.mapM policy
    have chosen : Check.graph policy index (decoder.load fs) entryPoints = .ok g := by
      rw [Check.graph, reachedOnly]
      exact graph
    have run : Check.conflicts policy (decoder.load fs) classpath entryPoints = .ok parts.flatten :=
      bind_eq_ok.2 ⟨g, chosen, bind_eq_ok.2 ⟨parts, checked, rfl⟩⟩
    rw [← (sim.conflicts classpath indexed entryPoints given _ second).1] at run
    exact ⟨_, _, Prod.ext run rfl⟩
  · obtain ⟨location, d, found, loaded, -⟩ := closed c member
    exact ⟨location, d, found, loaded⟩
  · refine Closed.mapM policy fun c member => ?_
    obtain ⟨location, d, found, loaded, enclosed⟩ := closed c member
    exact ⟨location, d, found, (right c member location found).trans loaded, enclosed⟩

/-! ### Two classes -/

private theorem walk_new {location : ClassLocation} {remaining path : List ClassName}
    {queue : List (ClassLocation × List ClassName)} {d : DeclaredClass}
    {paths : InsertionMap ClassName (List ClassName)} (new : location.className ∈ remaining)
    (loaded : load location = .ok d) :
    ClassGraph.walk load index remaining ((location, path) :: queue) paths =
      ClassGraph.walk load index (ClassGraph.without location.className remaining)
        (queue ++ ClassGraph.successors index (ClassGraph.without location.className remaining) path
          d) (paths.insert location.className path) := by
  rw [ClassGraph.walk, dif_pos new, loaded]
  rfl

private theorem walk_nothing (queue : List (ClassLocation × List ClassName))
    (paths : InsertionMap ClassName (List ClassName)) :
    ClassGraph.walk load index [] queue paths = .ok paths := by
  induction queue with
  | nil =>
    rw [ClassGraph.walk]
    rfl
  | cons x queue ih =>
    rw [ClassGraph.walk, dif_neg (by simp)]
    exact ih

theorem sample_graph :
    ClassGraph.ofEntryPoints (Decoder.standard.load Sample.files)
      (ClassIndex.ofArtifacts Sample.classpath) [Sample.place "A"] =
        .ok ⟨.ofList [(⟨"A"⟩, [⟨"A"⟩]), (⟨"B"⟩, [⟨"A"⟩, ⟨"B"⟩])]⟩ := by
  let index := ClassIndex.ofArtifacts Sample.classpath
  let load := Decoder.standard.load Sample.files
  have child : load (Sample.place "A") = .ok Sample.declaredChild :=
    Sample.load_of_known _ _ (by decide +kernel)
  have parent : load (Sample.place "B") = .ok Sample.declaredParent :=
    Sample.load_of_known _ _ (by decide +kernel)
  have successors : ClassGraph.successors index [⟨"B"⟩, ⟨"B"⟩] [⟨"A"⟩] Sample.declaredChild =
      [(Sample.place "B", [⟨"A"⟩, ⟨"B"⟩]), (Sample.place "B", [⟨"A"⟩, ⟨"B"⟩])] := by
    decide +kernel
  have known : ClassGraph.known index [Sample.place "A"] =
      [⟨"A"⟩, ⟨"A"⟩, ⟨"B"⟩, ⟨"A"⟩, ⟨"B"⟩] := by
    decide +kernel
  have first : ClassGraph.walk load index [⟨"A"⟩, ⟨"A"⟩, ⟨"B"⟩, ⟨"A"⟩, ⟨"B"⟩]
      [(Sample.place "A", [⟨"A"⟩])] .empty = ClassGraph.walk load index [⟨"B"⟩, ⟨"B"⟩]
        [(Sample.place "B", [⟨"A"⟩, ⟨"B"⟩]), (Sample.place "B", [⟨"A"⟩, ⟨"B"⟩])]
        (.ofList [(⟨"A"⟩, [⟨"A"⟩])]) := successors ▸ walk_new (by decide) child
  have second : ClassGraph.walk load index [⟨"B"⟩, ⟨"B"⟩]
      [(Sample.place "B", [⟨"A"⟩, ⟨"B"⟩]), (Sample.place "B", [⟨"A"⟩, ⟨"B"⟩])]
      (.ofList [(⟨"A"⟩, [⟨"A"⟩])]) =
        .ok (.ofList [(⟨"A"⟩, [⟨"A"⟩]), (⟨"B"⟩, [⟨"A"⟩, ⟨"B"⟩])]) := by
    have none : ClassGraph.without (Sample.place "B").className [⟨"B"⟩, ⟨"B"⟩] = [] := by decide
    rw [walk_new (by decide) parent, none, walk_nothing]
    decide +kernel
  refine bind_eq_ok.2 ⟨_, ?_, rfl⟩
  exact known ▸ first.trans second

/-- A class and its parent, checked from the class on. -/
theorem exists_conflicts_sample : ∃ cs last,
    Loading.outcome (Loader.new Decoder.standard 1)
      (Check.conflicts .standard (Loading.load Sample.files) Sample.classpath [Sample.place "A"]) =
        (.ok cs, last) := by
  let index := ClassIndex.ofArtifacts Sample.classpath
  have keyed := Sample.className_of_location
  have own : ∀ e ∈ [Sample.place "A"], index.location? e.className = some e := by
    decide +kernel
  have sim : Loading.Simulation Sample.files (Decoder.standard.load Sample.files) index.Locates
      (Loading.Mirrors Decoder.standard Sample.files index.Locates) := by
    refine Loading.Mirrors.simulation (fun a b first second same readable => ?_) fun _ here => here
    rwa [← first.eq_of_key keyed second same]
  have new : (Loader.new Decoder.standard 2).Sourced Decoder.standard Sample.files index.Locates :=
    ⟨rfl, by simp [Loader.new]⟩
  have built := (sim.ofEntryPoints (fun c _ found => ⟨c, found⟩) [Sample.place "A"]
    (fun e isEntry => ⟨_, own e isEntry⟩) _ new).1
  rw [sample_graph] at built
  exact (exists_conflicts Sample.files Decoder.standard 2 1 [] [] .standard Sample.classpath
    [Sample.place "A"] _ _ rfl keyed own (fun _ _ none => by cases none) (Prod.ext built rfl)).1

end Linkage.NoLateFailure
