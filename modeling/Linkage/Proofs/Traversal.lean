import Linkage.Proofs.Reachability
import Mathlib.Data.List.Basic
import Mathlib.Logic.Function.Iterate

/-!
The walk as a loop over a queue. A round takes the place in front: if its class was reached already,
nothing else happens, and otherwise the class is loaded and the places that it leads to go to the
end. The queue grows and may hold one class many times. But every round takes a class from those
that were not reached, or else makes the queue shorter, so the loop ends, with what
`ClassGraph.ofEntryPoints` says, and it loads each class once at most (`ofEntryPoints_ends`).
-/
namespace Linkage.Traversal
open Reachability (Queue mem_successors)

/-- Where the loop is between two rounds: at some queue, with the classes reached so far and their
paths, or at its end. -/
inductive State (ε : Type) where
  | running (queue : Queue) (reached : InsertionMap ClassName (List ClassName))
  | ended (result : Except ε ClassGraph)

section
variable {ε σ α β : Type}

/-- What a computation gives, and the state that it leaves. -/
def outcome (s : σ) (x : ExceptT ε (StateM σ) α) : Except ε α × σ := x s

/-- The places that a class leads to: those of the classes it mentions, as far as the index has them
and they were not reached. -/
def next (index : ClassIndex) (reached : InsertionMap ClassName (List ClassName))
    (path : List ClassName) (declared : DeclaredClass) : Queue :=
  declared.mentions.filterMap fun c =>
    if reached.contains c then none
    else (index.location? c).map fun location => (location, path ++ [c])

/-- One round of the loop. The loader has a state of its own, and the loop ends when it fails. -/
def round (load : ClassLocation → ExceptT ε (StateM σ) DeclaredClass) (index : ClassIndex) :
    State ε × σ → State ε × σ
  | (.ended result, s) => (.ended result, s)
  | (.running [] reached, s) => (.ended (.ok ⟨reached⟩), s)
  | (.running ((location, path) :: queue) reached, s) =>
    if reached.contains location.className then (.running queue reached, s)
    else
      let reached := reached.insert location.className path
      match outcome s (load location) with
      | (.error e, s) => (.ended (.error e), s)
      | (.ok declared, s) => (.running (queue ++ next index reached path declared) reached, s)

/-- Where the loop starts. -/
def start (entryPoints : List ClassLocation) : State ε :=
  .running (entryPoints.map fun location => (location, [location.className])) .empty

/-- A loader that writes down the places that it is asked for, one after the other. -/
def recorded (load : ClassLocation → ExceptT ε (StateM σ) DeclaredClass)
    (location : ClassLocation) : ExceptT ε (StateM (List ClassLocation × σ)) DeclaredClass :=
  fun s =>
  let answer := outcome s.2 (load location)
  (answer.1, s.1 ++ [location], answer.2)

theorem outcome_bind_ok {s after : σ} {x : ExceptT ε (StateM σ) α} {a : α}
    (f : α → ExceptT ε (StateM σ) β) (given : outcome s x = (.ok a, after)) :
    outcome s (x >>= f) = outcome after (f a) := by
  unfold outcome at given
  simp only [outcome, bind, ExceptT.bind, ExceptT.bindCont, ExceptT.mk, StateT.bind, given]

theorem outcome_bind_error {s after : σ} {x : ExceptT ε (StateM σ) α} {e : ε}
    (f : α → ExceptT ε (StateM σ) β) (failed : outcome s x = (.error e, after)) :
    outcome s (x >>= f) = (.error e, after) := by
  unfold outcome at failed
  simp only [outcome, bind, ExceptT.bind, ExceptT.bindCont, ExceptT.mk, StateT.bind, failed]
  rfl

end

/-! ### One round -/

section
variable {ε σ : Type} {load : ClassLocation → ExceptT ε (StateM σ) DeclaredClass}
  {index : ClassIndex} {entryPoints : List ClassLocation} {remaining path : List ClassName}
  {location : ClassLocation} {queue : Queue} {reached : InsertionMap ClassName (List ClassName)}
  {s after : σ}

theorem round_seen (seen : location.className ∈ reached.keys) :
    round load index (.running ((location, path) :: queue) reached, s) =
      (.running queue reached, s) := by
  rw [round, if_pos (by simpa [InsertionMap.contains] using seen)]

theorem round_failed {e : ε} (new : location.className ∉ reached.keys)
    (failed : outcome s (load location) = (.error e, after)) :
    round load index (.running ((location, path) :: queue) reached, s) =
      (.ended (.error e), after) := by
  rw [round, if_neg (by simpa [InsertionMap.contains] using new), failed]

theorem round_loaded {declared : DeclaredClass} (new : location.className ∉ reached.keys)
    (loaded : outcome s (load location) = (.ok declared, after)) :
    round load index (.running ((location, path) :: queue) reached, s) =
      (.running (queue ++ next index (reached.insert location.className path) path declared)
        (reached.insert location.className path), after) := by
  rw [round, if_neg (by simpa [InsertionMap.contains] using new), loaded]

/-- What remains is what was not reached, of the classes that the loop can come to. -/
structure Accounts (index : ClassIndex) (entryPoints : List ClassLocation)
    (remaining : List ClassName) (queue : Queue)
    (reached : InsertionMap ClassName (List ClassName)) : Prop where
  remains : ∀ c, c ∈ remaining ↔ c ∈ ClassGraph.known index entryPoints ∧ c ∉ reached.keys
  waits : ∀ x ∈ queue, x.1.className ∈ ClassGraph.known index entryPoints

namespace Accounts

theorem start (index : ClassIndex) (entryPoints : List ClassLocation) :
    Accounts index entryPoints (ClassGraph.known index entryPoints)
      (entryPoints.map fun location => (location, [location.className])) .empty := by
  refine ⟨by simp, fun x member => ?_⟩
  obtain ⟨location, entry, rfl⟩ := List.mem_map.1 member
  exact ClassGraph.mem_known.2 (.inl ⟨location, entry, rfl⟩)

theorem drop (accounts : Accounts index entryPoints remaining ((location, path) :: queue) reached) :
    Accounts index entryPoints remaining queue reached :=
  ⟨accounts.remains, fun x later => accounts.waits x (List.mem_cons_of_mem _ later)⟩

theorem seen_iff
    (accounts : Accounts index entryPoints remaining ((location, path) :: queue) reached) :
    location.className ∉ remaining ↔ location.className ∈ reached.keys := by
  have known := accounts.waits _ List.mem_cons_self
  rw [accounts.remains, and_iff_right known, not_not]

/-- The classes that remain are those that were not reached, also behind a visit. -/
theorem mem_without
    (accounts : Accounts index entryPoints remaining ((location, path) :: queue) reached)
    (c : ClassName) : c ∈ ClassGraph.without location.className remaining ↔
      c ∈ ClassGraph.known index entryPoints ∧
        c ∉ (reached.insert location.className path).keys := by
  rw [ClassGraph.mem_without, accounts.remains, InsertionMap.keys_insert]
  split
  · rename_i old
    constructor
    · exact And.left
    · exact fun left => ⟨left, fun same => left.2 (same ▸ old)⟩
  · simp [and_assoc]

/-- The places that the walk adds are those that the loop adds. -/
theorem successors_eq
    (accounts : Accounts index entryPoints remaining ((location, path) :: queue) reached)
    (declared : DeclaredClass) :
    ClassGraph.successors index (ClassGraph.without location.className remaining) path declared =
      next index (reached.insert location.className path) path declared := by
  refine List.filterMap_congr fun c _ => ?_
  by_cases left : c ∈ ClassGraph.without location.className remaining
  · have passes : (guard (c ∈ ClassGraph.without location.className remaining) : Option Unit) =
        some () := if_pos left
    have new := ((accounts.mem_without c).1 left).2
    rw [passes, if_neg (by simpa [InsertionMap.contains] using new)]
    cases index.location? c <;> rfl
  · have blocked : (guard (c ∈ ClassGraph.without location.className remaining) : Option Unit) =
        none := if_neg left
    rw [blocked]
    by_cases old : c ∈ (reached.insert location.className path).keys
    · rw [if_pos (by simpa [InsertionMap.contains] using old)]
      rfl
    · -- what neither remains nor was reached is not in the index
      have absent : index.location? c = none := by
        by_contra present
        have indexed := ClassIndex.mem_classes_iff.2 (Option.isSome_iff_ne_none.2 present)
        have known : c ∈ ClassGraph.known index entryPoints :=
          ClassGraph.mem_known.2 (.inr (.inl indexed))
        exact left ((accounts.mem_without c).2 ⟨known, old⟩)
      rw [if_neg (by simpa [InsertionMap.contains] using old), absent]
      rfl

theorem visit
    (accounts : Accounts index entryPoints remaining ((location, path) :: queue) reached)
    (declared : DeclaredClass) :
    Accounts index entryPoints (ClassGraph.without location.className remaining)
      (queue ++ ClassGraph.successors index (ClassGraph.without location.className remaining) path
        declared)
      (reached.insert location.className path) := by
  refine ⟨accounts.mem_without, fun x member => ?_⟩
  rcases List.mem_append.1 member with waiting | new
  · exact accounts.drop.waits x waiting
  · obtain ⟨c, -, -, found, -⟩ := mem_successors.1 new
    exact ClassGraph.mem_known.2 (.inr (.inr ⟨c, x.1, found, rfl⟩))

end Accounts

/-! ### All rounds -/

/-- The end of the loop, from what the walk gives. -/
def conclude (given : Except ε (InsertionMap ClassName (List ClassName)) × σ) : State ε × σ :=
  (.ended (given.1.map ClassGraph.mk), given.2)

/-- The loop ends where the walk does. The walk takes a class from those that remain or a place from
the queue, so this is an induction on both. -/
theorem exists_rounds (load : ClassLocation → ExceptT ε (StateM σ) DeclaredClass)
    (accounts : Accounts index entryPoints remaining queue reached) (s : σ) :
    ∃ rounds, (round load index)^[rounds] (.running queue reached, s) =
      conclude (outcome s (ClassGraph.walk load index remaining queue reached)) := by
  induction remaining, queue, reached using ClassGraph.walk.induct index generalizing s with
  | case1 remaining reached =>
    rw [ClassGraph.walk]
    exact ⟨1, rfl⟩
  | case2 remaining reached location path queue new ih =>
    rw [ClassGraph.walk, dif_pos new]
    have fresh := ((accounts.remains _).1 new).2
    rcases loaded : outcome s (load location) with ⟨e | declared, after⟩
    · refine ⟨1, ?_⟩
      rw [outcome_bind_error _ loaded]
      exact round_failed fresh loaded
    · -- the queue may have grown, but one class less remains
      obtain ⟨rounds, ends⟩ := ih declared (accounts.visit declared) after
      refine ⟨rounds + 1, ?_⟩
      rw [outcome_bind_ok _ loaded, Function.iterate_succ_apply, round_loaded fresh loaded,
        ← accounts.successors_eq]
      exact ends
  | case3 remaining reached location path queue old ih =>
    rw [ClassGraph.walk, dif_neg old]
    obtain ⟨rounds, ends⟩ := ih accounts.drop s
    refine ⟨rounds + 1, ?_⟩
    rw [Function.iterate_succ_apply, round_seen (accounts.seen_iff.1 old)]
    exact ends

/-- A walk is the same if the loader writes down what it is asked for, and these are the classes
reached, with the one that could not be loaded if there is one. -/
theorem walk_recorded (load : ClassLocation → ExceptT ε (StateM σ) DeclaredClass)
    (accounts : Accounts index entryPoints remaining queue reached) (calls : List ClassLocation)
    (written : calls.map ClassLocation.className = reached.keys) (s : σ) :
    ∃ (all : List ClassLocation) (asked : InsertionMap ClassName (List ClassName)),
      outcome (calls, s) (ClassGraph.walk (recorded load) index remaining queue reached) =
        ((outcome s (ClassGraph.walk load index remaining queue reached)).1, all,
          (outcome s (ClassGraph.walk load index remaining queue reached)).2) ∧
      all.map ClassLocation.className = asked.keys ∧
      ∀ result, (outcome s (ClassGraph.walk load index remaining queue reached)).1 = .ok result →
        asked = result := by
  induction remaining, queue, reached using ClassGraph.walk.induct index
    generalizing s calls with
  | case1 remaining reached =>
    rw [ClassGraph.walk, ClassGraph.walk]
    exact ⟨calls, reached, rfl, written, fun _ given => Except.ok.inj given⟩
  | case2 remaining reached location path queue new ih =>
    rw [ClassGraph.walk, ClassGraph.walk, dif_pos new, dif_pos new]
    have fresh := ((accounts.remains _).1 new).2
    have more : (calls ++ [location]).map ClassLocation.className =
        (reached.insert location.className path).keys := by
      rw [InsertionMap.keys_insert, if_neg fresh, List.map_append, written]
      rfl
    -- the call is written down whether or not it succeeds
    rcases loaded : outcome s (load location) with ⟨e | declared, after⟩
    · have noted : outcome (calls, s) (recorded load location) =
          (.error e, calls ++ [location], after) := by
        rw [outcome, recorded, loaded]
      rw [outcome_bind_error _ loaded, outcome_bind_error _ noted]
      exact ⟨calls ++ [location], _, rfl, more, fun _ given => by cases given⟩
    · have noted : outcome (calls, s) (recorded load location) =
          (.ok declared, calls ++ [location], after) := by
        rw [outcome, recorded, loaded]
      rw [outcome_bind_ok _ loaded, outcome_bind_ok _ noted]
      exact ih declared (accounts.visit declared) _ more after
  | case3 remaining reached location path queue old ih =>
    rw [ClassGraph.walk, ClassGraph.walk, dif_neg old, dif_neg old]
    exact ih accounts.drop calls written s

theorem outcome_ofEntryPoints (load : ClassLocation → ExceptT ε (StateM σ) DeclaredClass)
    (index : ClassIndex) (entryPoints : List ClassLocation) (s : σ) :
    let walked := outcome s (ClassGraph.walk load index (ClassGraph.known index entryPoints)
      (entryPoints.map fun location => (location, [location.className])) .empty)
    outcome s (ClassGraph.ofEntryPoints load index entryPoints) =
      (walked.1.map ClassGraph.mk, walked.2) := by
  intro walked
  rcases given : walked with ⟨e | reached, after⟩
  · exact outcome_bind_error _ given
  · exact outcome_bind_ok _ given

/-- The loop ends with a result and leaves the loader in a state, and this is what the walk says. -/
def EndsWith (load : ClassLocation → ExceptT ε (StateM σ) DeclaredClass) (index : ClassIndex)
    (entryPoints : List ClassLocation) (s : σ) (result : Except ε ClassGraph) (after : σ) : Prop :=
  (∃ rounds, (round load index)^[rounds] (start entryPoints, s) = (.ended result, after)) ∧
    outcome s (ClassGraph.ofEntryPoints load index entryPoints) = (result, after)

theorem endsWith_of_outcome {result : Except ε ClassGraph}
    (given : outcome s (ClassGraph.ofEntryPoints load index entryPoints) = (result, after)) :
    EndsWith load index entryPoints s result after := by
  refine ⟨?_, given⟩
  rw [outcome_ofEntryPoints, Prod.mk.injEq] at given
  obtain ⟨rfl, rfl⟩ := given
  exact exists_rounds load (Accounts.start index entryPoints) s

/-- The graph is the same if the loader writes down what it is asked for. -/
theorem ofEntryPoints_recorded {result : Except ε ClassGraph}
    (given : outcome s (ClassGraph.ofEntryPoints load index entryPoints) = (result, after)) :
    ∃ (calls : List ClassLocation) (asked : InsertionMap ClassName (List ClassName)),
      outcome ([], s) (ClassGraph.ofEntryPoints (recorded load) index entryPoints) =
        (result, calls, after) ∧
      calls.map ClassLocation.className = asked.keys ∧ ∀ g, result = .ok g → asked = g.paths := by
  rw [outcome_ofEntryPoints, Prod.mk.injEq] at given
  obtain ⟨rfl, rfl⟩ := given
  obtain ⟨calls, asked, walked, names, complete⟩ :=
    walk_recorded load (Accounts.start index entryPoints) [] rfl s
  refine ⟨calls, asked, by rw [outcome_ofEntryPoints, walked], names, fun g succeeds => ?_⟩
  obtain ⟨reached, found, rfl⟩ := map_eq_ok.1 succeeds
  exact complete reached found

end

/-- Whatever the index, the entry points and the loader are, and whatever the classes mention, the
loop comes to its end, and the loader is asked for no class twice: if the loop succeeds, once for
each class reached, in their order. -/
theorem ofEntryPoints_ends {ε σ : Type} (load : ClassLocation → ExceptT ε (StateM σ) DeclaredClass)
    (index : ClassIndex) (entryPoints : List ClassLocation) (s : σ) :
    ∃ result after calls,
      EndsWith load index entryPoints s result after ∧
      EndsWith (recorded load) index entryPoints ([], s) result (calls, after) ∧
      (calls.map ClassLocation.className).Nodup ∧
      ∀ g, result = .ok g → calls.map ClassLocation.className = g.classes := by
  rcases given : outcome s (ClassGraph.ofEntryPoints load index entryPoints) with ⟨result, after⟩
  obtain ⟨calls, asked, noted, names, complete⟩ := ofEntryPoints_recorded given
  refine ⟨result, after, calls, endsWith_of_outcome given, endsWith_of_outcome noted, ?_, ?_⟩
  · rw [names]
    exact asked.nodup
  · intro g succeeds
    rw [names, complete g succeeds]
    rfl

end Linkage.Traversal
