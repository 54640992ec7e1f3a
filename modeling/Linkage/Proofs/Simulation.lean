import Linkage.Check.Run
import Linkage.Proofs.Reachability

/-!
A check through a loader beside the same check without one. Both run one program, which only goes on
from what it has loaded, so a relation between their steps that is closed under going on, and that
holds of every load, holds of the two checks (`Loading.Simulation`).
-/
namespace Linkage.Loading
variable {α β σ δ : Type}

/-- A relation between computations through a loader and computations without one: it holds of equal
values and of equal errors, of computations that go on alike from related ones, and of loading from
some locations. -/
structure Simulation (fs : FileSystem) (load : ClassLocation → Except CheckError DeclaredClass)
    (locations : ClassLocation → Prop)
    (R : {α : Type} → Loading α → Except CheckError α → Prop) : Prop where
  pure {α : Type} (a : α) : R (pure a) (pure a)
  throw {α : Type} (e : CheckError) : R (throw e : Loading α) (throw e)
  bind {α β : Type} {x : Loading α} {y : Except CheckError α} {f : α → Loading β}
    {g : α → Except CheckError β} : R x y → (∀ a, R (f a) (g a)) → R (x >>= f) (y >>= g)
  load (location : ClassLocation) :
    locations location → R (Loading.load fs location) (load location)

namespace Simulation
variable {fs : FileSystem} {load : ClassLocation → Except CheckError DeclaredClass}
  {locations : ClassLocation → Prop} {R : {α : Type} → Loading α → Except CheckError α → Prop}
  {policy : Policy} {index : ClassIndex}

theorem map (sim : Simulation fs load locations R) {x : Loading α} {y : Except CheckError α}
    (f : α → β) (related : R x y) : R (f <$> x) (f <$> y) := by
  rw [map_eq_pure_bind, map_eq_pure_bind]
  exact sim.bind related fun a => sim.pure (f a)

theorem mapM (sim : Simulation fs load locations R) {f : α → Loading β}
    {g : α → Except CheckError β} (each : ∀ a, R (f a) (g a)) (as : List α) :
    R (as.mapM f) (as.mapM g) := by
  induction as with
  | nil => exact sim.pure []
  | cons a as ih =>
    rw [List.mapM_cons, List.mapM_cons]
    exact sim.bind (each a) fun b => sim.bind ih fun bs => sim.pure (b :: bs)

theorem firstSome (sim : Simulation fs load locations R) {step : α → σ → Loading (Option β × σ)}
    {other : α → σ → Except CheckError (Option β × σ)} (each : ∀ a s, R (step a s) (other a s))
    (as : List α) (s : σ) :
    R (Resolution.firstSome step as s) (Resolution.firstSome other as s) := by
  induction as generalizing s with
  | nil => exact sim.pure _
  | cons a as ih =>
    refine sim.bind (each a s) ?_
    rintro ⟨_ | b, s⟩
    · exact ih s
    · exact sim.pure _

section
variable (sim : Simulation fs load locations R)
  (indexed : ∀ c location, index.location? c = some location → locations location)
include sim indexed

theorem indexLoad (name : ClassName) :
    R (index.load (Loading.load fs) name) (index.load load name) := by
  unfold ClassIndex.load
  split
  · rename_i location found
    exact sim.map some (sim.load location (indexed name location found))
  · exact sim.pure none

theorem search (lookup : DeclaredClass → δ → Option (Reference δ)) (wanted : Reference δ)
    (fuel : Nat) (c : DeclaredClass) (asked : List ClassName) :
    R (Resolution.search index (Loading.load fs) lookup wanted fuel c asked)
      (Resolution.search index load lookup wanted fuel c asked) := by
  induction fuel generalizing c asked with
  | zero => exact sim.pure _
  | succ fuel ih =>
    unfold Resolution.search
    split
    · exact sim.pure _
    · split
      · exact sim.pure _
      · refine sim.firstSome (fun p asked => sim.bind (sim.indexLoad indexed p) ?_) _ _
        rintro (_ | d)
        · exact sim.pure _
        · exact ih d asked

theorem resolve (lookup : DeclaredClass → δ → Option (Reference δ)) (wanted : Reference δ)
    (target : DeclaredClass) :
    R (Resolution.resolve index (Loading.load fs) lookup target wanted)
      (Resolution.resolve index load lookup target wanted) :=
  sim.bind (sim.search indexed lookup wanted _ target []) fun _ => sim.pure _

theorem failure (kind : Check.MemberKind δ) (site : CallSite (Reference δ)) :
    R (Check.failure? policy index (Loading.load fs) kind site)
      (Check.failure? policy index load kind site) := by
  unfold Check.failure?
  dsimp only
  split
  · exact sim.pure _
  · refine sim.bind (sim.indexLoad indexed _) ?_
    rintro (_ | target)
    · exact sim.pure _
    · refine sim.bind (sim.resolve indexed kind.lookup site.reference target) ?_
      rintro (_ | _) <;> exact sim.pure _

theorem siteConflict (usedBy : String) (path : List ClassName) (caller : MethodReference)
    (kind : Check.MemberKind δ) (site : CallSite (Reference δ)) :
    R (Check.siteConflict? policy index (Loading.load fs) usedBy path caller kind site)
      (Check.siteConflict? policy index load usedBy path caller kind site) := by
  refine sim.bind (sim.failure indexed kind site) ?_
  rintro (_ | _) <;> exact sim.pure _

theorem methodConflicts (usedBy : String) (path : List ClassName) (method : DeclaredMethod) :
    R (Check.methodConflicts policy index (Loading.load fs) usedBy path method)
      (Check.methodConflicts policy index load usedBy path method) := by
  refine sim.bind (sim.mapM (sim.siteConflict indexed usedBy path _ _) _) fun calls => ?_
  exact sim.bind (sim.mapM (sim.siteConflict indexed usedBy path _ _) _) fun _ => sim.pure _

theorem classConflicts (g : ClassGraph) (name : ClassName) :
    R (Check.classConflicts policy index (Loading.load fs) g name)
      (Check.classConflicts policy index load g name) := by
  unfold Check.classConflicts
  split
  · exact sim.pure _
  · split
    · exact sim.throw _
    · split
      · exact sim.pure _
      · refine sim.bind (sim.indexLoad indexed _) ?_
        rintro (_ | declared)
        · exact sim.throw _
        · exact sim.bind (sim.mapM (sim.methodConflicts indexed _ _) _) fun _ => sim.pure _

/-- What waits to be visited are locations of entry points and of the index. -/
theorem walk (remaining : List ClassName) (queue : List (ClassLocation × List ClassName))
    (reached : InsertionMap ClassName (List ClassName)) (queued : ∀ x ∈ queue, locations x.1) :
    R (ClassGraph.walk (Loading.load fs) index remaining queue reached)
      (ClassGraph.walk load index remaining queue reached) := by
  induction remaining, queue, reached using ClassGraph.walk.induct index with
  | case1 remaining reached =>
    rw [ClassGraph.walk, ClassGraph.walk]
    exact sim.pure _
  | case2 remaining reached location path queue new ih =>
    rw [ClassGraph.walk, ClassGraph.walk, dif_pos new, dif_pos new]
    refine sim.bind (sim.load location (queued _ List.mem_cons_self)) fun d => ih d ?_
    intro x member
    rcases List.mem_append.1 member with later | next
    · exact queued x (List.mem_cons_of_mem _ later)
    · obtain ⟨c, -, -, found, -⟩ := Reachability.mem_successors.1 next
      exact indexed c x.1 found
  | case3 remaining reached location path queue old ih =>
    rw [ClassGraph.walk, ClassGraph.walk, dif_neg old, dif_neg old]
    exact ih fun x later => queued x (List.mem_cons_of_mem _ later)

theorem ofEntryPoints (entryPoints : List ClassLocation) (given : ∀ e ∈ entryPoints, locations e) :
    R (ClassGraph.ofEntryPoints (Loading.load fs) index entryPoints)
      (ClassGraph.ofEntryPoints load index entryPoints) := by
  refine sim.bind (sim.walk indexed _ _ _ fun x member => ?_) fun _ => sim.pure _
  obtain ⟨e, isEntry, rfl⟩ := List.mem_map.1 member
  exact given e isEntry

theorem graph (entryPoints : List ClassLocation) (given : ∀ e ∈ entryPoints, locations e) :
    R (Check.graph policy index (Loading.load fs) entryPoints)
      (Check.graph policy index load entryPoints) := by
  unfold Check.graph
  split
  · exact sim.pure _
  · exact sim.ofEntryPoints indexed entryPoints given

end

theorem conflicts (sim : Simulation fs load locations R) (classpath : List Artifact)
    (indexed : ∀ c location, (ClassIndex.ofArtifacts classpath).location? c = some location →
      locations location)
    (entryPoints : List ClassLocation) (given : ∀ e ∈ entryPoints, locations e) :
    R (Check.conflicts policy (Loading.load fs) classpath entryPoints)
      (Check.conflicts policy load classpath entryPoints) := by
  refine sim.bind (sim.graph indexed entryPoints given) fun g => ?_
  exact sim.bind (sim.mapM (sim.classConflicts indexed g) _) fun _ => sim.pure _

end Simulation

/-- A computation through a faithful loader follows the one by which every class is read anew. -/
theorem Follows.simulation (decoder : Decoder) (fs : FileSystem) :
    Simulation fs (decoder.declaration fs) (fun _ => True) (Follows decoder fs) :=
  ⟨.pure, .throw, .bind, fun location _ => .load location⟩

end Linkage.Loading
