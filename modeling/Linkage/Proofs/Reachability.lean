import Mathlib.Data.List.Chain
import Mathlib.Logic.Function.Basic
import Mathlib.Logic.Relation
import Linkage.Check.Graph
import Linkage.Data.Outcome
import Linkage.Proofs.Loading

/-!
The classes that entry points reach. A walk holds a queue of places, each with a path that leads to
it, and a class is marked when its place is taken off the queue, so the queue may hold one class
several times. The queue is ordered by the length of its paths and spans two lengths at most; every
successor of a class that was visited is promised a path that is at most one step longer. From this
it follows that the graph has exactly the classes that successors lead to, each with a shortest path
(`ofEntryPoints_shortest`).
-/
namespace Linkage

/-- A class leads to the parents of its declaration, the classes it loads, and the owners of the
methods it calls and of the fields it accesses. -/
def DeclaredClass.LeadsTo (d : DeclaredClass) (b : ClassName) : Prop :=
  b ∈ d.parents ∨ b ∈ d.loaded ∨ ∃ m ∈ d.methods.values,
    (∃ site ∈ m.calls, site.reference.owner = b) ∨ ∃ site ∈ m.accesses, site.reference.owner = b

theorem DeclaredClass.mem_mentions {d : DeclaredClass} {b : ClassName} :
    b ∈ d.mentions ↔ d.LeadsTo b := by
  simp only [mentions, LeadsTo, List.mem_append, List.mem_flatMap, List.mem_map, SortedSet.mem_toList,
    or_assoc]
  constructor
  · rintro (parent | load | ⟨m, member, call⟩ | ⟨m, member, access⟩)
    · exact .inl parent
    · exact .inr (.inl load)
    · exact .inr (.inr ⟨m, member, .inl call⟩)
    · exact .inr (.inr ⟨m, member, .inr access⟩)
  · rintro (parent | load | ⟨m, member, call | access⟩)
    · exact .inl parent
    · exact .inr (.inl load)
    · exact .inr (.inr (.inl ⟨m, member, call⟩))
    · exact .inr (.inr (.inr ⟨m, member, access⟩))

theorem ClassGraph.isReached_iff {g : ClassGraph} {c : ClassName} :
    g.isReached c = true ↔ c ∈ g.classes := by
  simp [isReached, classes, InsertionMap.contains]

namespace Reachability

/-- Where the declaration of a class is read: at the first entry point for the class, or else where
the index has it. -/
def place (index : ClassIndex) (entryPoints : List ClassLocation) (c : ClassName) :
    Option ClassLocation :=
  (entryPoints.find? (·.className = c)).or (index.location? c)

/-- The classes of the entry points. -/
def Entry (entryPoints : List ClassLocation) (c : ClassName) : Prop :=
  ∃ location ∈ entryPoints, location.className = c

/-- The successors of a class: what its declaration leads to, as far as it is in the index. -/
def Successor (index : ClassIndex) (declared : ClassName → DeclaredClass) (a b : ClassName) : Prop :=
  (declared a).LeadsTo b ∧ (index.location? b).isSome

/-- A path from an entry to a class, from successor to successor. -/
structure PathTo (entry : ClassName → Prop) (next : ClassName → ClassName → Prop)
    (path : List ClassName) (c : ClassName) : Prop where
  start : ∃ e, path.head? = some e ∧ entry e
  stop : path.getLast? = some c
  steps : path.IsChain next

/-- The graph has exactly the classes that lead on from the entries, in the order of their distance,
each with a shortest path. -/
structure Shortest (entry : ClassName → Prop) (next : ClassName → ClassName → Prop)
    (g : ClassGraph) : Prop where
  reached_iff : ∀ c, g.isReached c ↔ ∃ e, entry e ∧ Relation.ReflTransGen next e c
  path_to : ∀ c, g.isReached c → PathTo entry next (g.path c) c ∧ (g.path c).Nodup
  path_le : ∀ c, g.isReached c → ∀ other, PathTo entry next other c →
    (g.path c).length ≤ other.length
  ordered : (g.classes.map fun c => (g.path c).length).Pairwise (· ≤ ·)
  path_eq_nil_iff : ∀ c, g.path c = [] ↔ ¬ g.isReached c

/-! ### The walk as a relation -/

/-- What is waiting to be visited: a place and the path to its class. -/
abbrev Queue := List (ClassLocation × List ClassName)

/-- A walk that ends: each class that remains is visited at the first place for it in the queue,
where `answers` gives its declaration. -/
inductive Walk (index : ClassIndex) (answers : ClassLocation → DeclaredClass → Prop)
    (declared : ClassName → DeclaredClass) :
    List ClassName → Queue → InsertionMap ClassName (List ClassName) →
      InsertionMap ClassName (List ClassName) → Prop
  | done {remaining reached} : Walk index answers declared remaining [] reached reached
  | seen {remaining location path queue reached result} :
    location.className ∉ remaining →
    Walk index answers declared remaining queue reached result →
    Walk index answers declared remaining ((location, path) :: queue) reached result
  | new {remaining location path queue reached result} :
    location.className ∈ remaining →
    answers location (declared location.className) →
    Walk index answers declared (ClassGraph.without location.className remaining)
      (queue ++ ClassGraph.successors index (ClassGraph.without location.className remaining) path
        (declared location.className))
      (reached.insert location.className path) result →
    Walk index answers declared remaining ((location, path) :: queue) reached result

private theorem walk_congr {index : ClassIndex}
    {answers others : ClassLocation → DeclaredClass → Prop}
    {first second : ClassName → DeclaredClass} {remaining : List ClassName} {queue : Queue}
    {reached result : InsertionMap ClassName (List ClassName)}
    (walk : Walk index answers first remaining queue reached result)
    (answered : ∀ location d, answers location d → others location d)
    (agree : ∀ c ∈ remaining, first c = second c) :
    Walk index others second remaining queue reached result := by
  induction walk with
  | done => exact .done
  | seen old _ ih => exact .seen old (ih agree)
  | new member answer _ ih =>
    rw [agree _ member] at answer ih
    exact .new member (answered _ _ answer)
      (ih fun c left => agree c (ClassGraph.mem_without.1 left).1)

/-- A walk through a loader is one in which the loader answers. Each class is loaded once, so its
declaration does not hang on what the loader has kept at another time. -/
private theorem walk_of_outcome {fs : FileSystem} {index : ClassIndex} {remaining : List ClassName}
    {queue : Queue} {reached result : InsertionMap ClassName (List ClassName)} {l after : Loader}
    (run : Loading.outcome l (ClassGraph.walk (Loading.load fs) index remaining queue reached) =
      (.ok result, after)) :
    ∃ declared, Walk index (l.Gives fs) declared remaining queue reached result := by
  induction remaining, queue, reached using ClassGraph.walk.induct index generalizing l with
  | case1 remaining reached =>
    rw [ClassGraph.walk, Loading.outcome_pure, Prod.mk.injEq, Except.ok.injEq] at run
    obtain ⟨rfl, -⟩ := run
    exact ⟨fun c => ⟨c, [], .empty, .empty, .empty⟩, .done⟩
  | case2 remaining reached location path queue member ih =>
    rw [ClassGraph.walk, dif_pos member, Loading.outcome_bind_eq_ok] at run
    obtain ⟨d, next, loaded, rest⟩ := run
    obtain ⟨given, rfl⟩ := Loading.outcome_load_eq_ok loaded
    obtain ⟨declared, walk⟩ := ih d rest
    have here : Function.update declared location.className d location.className = d :=
      Function.update_self ..
    refine ⟨Function.update declared location.className d, .new member (by rwa [here]) ?_⟩
    rw [here]
    refine walk_congr walk (fun _ _ => Loader.Gives.of_load) ?_
    intro c left
    exact (Function.update_of_ne (ClassGraph.mem_without.1 left).2 ..).symm
  | case3 remaining reached location path queue absent ih =>
    rw [ClassGraph.walk, dif_neg absent] at run
    obtain ⟨declared, walk⟩ := ih run
    exact ⟨declared, .seen absent walk⟩

/-- A walk without a loader is one in which the files answer. -/
private theorem walk_of_eq_ok {load : ClassLocation → Except CheckError DeclaredClass}
    {index : ClassIndex} {remaining : List ClassName} {queue : Queue}
    {reached result : InsertionMap ClassName (List ClassName)}
    (run : ClassGraph.walk load index remaining queue reached = .ok result) :
    ∃ declared, Walk index (fun location d => load location = .ok d) declared remaining queue
      reached result := by
  induction remaining, queue, reached using ClassGraph.walk.induct index with
  | case1 remaining reached =>
    rw [ClassGraph.walk] at run
    cases run
    exact ⟨fun c => ⟨c, [], .empty, .empty, .empty⟩, .done⟩
  | case2 remaining reached location path queue member ih =>
    rw [ClassGraph.walk, dif_pos member, bind_eq_ok] at run
    obtain ⟨d, loaded, rest⟩ := run
    obtain ⟨declared, walk⟩ := ih d rest
    have here : Function.update declared location.className d location.className = d :=
      Function.update_self ..
    refine ⟨Function.update declared location.className d, .new member (by rwa [here]) ?_⟩
    rw [here]
    refine walk_congr walk (fun _ _ answer => answer) ?_
    intro c left
    exact (Function.update_of_ne (ClassGraph.mem_without.1 left).2 ..).symm
  | case3 remaining reached location path queue absent ih =>
    rw [ClassGraph.walk, dif_neg absent] at run
    obtain ⟨declared, walk⟩ := ih run
    exact ⟨declared, .seen absent walk⟩

/-! ### The frontier -/

section
variable (index : ClassIndex) (entryPoints : List ClassLocation)
  (answers : ClassLocation → DeclaredClass → Prop) (declared : ClassName → DeclaredClass)

/-- A class has, or waits with, a path of a given length at most. -/
def Promised (queue : Queue) (reached : InsertionMap ClassName (List ClassName)) (c : ClassName)
    (n : Nat) : Prop :=
  (∃ path, reached.get? c = some path ∧ path.length ≤ n) ∨
    ∃ x ∈ queue, x.1.className = c ∧ x.2.length ≤ n

/-- Entry points wait in front of the places of the index, and those that do not wait any more were
visited. -/
def EntriesFirst (queue : Queue) (reached : InsertionMap ClassName (List ClassName)) : Prop :=
  ∃ visited waiting others, entryPoints = visited ++ waiting ∧
    queue = waiting.map (fun location => (location, [location.className])) ++ others ∧
    (∀ location ∈ visited, location.className ∈ reached.keys) ∧
    ∀ x ∈ others, index.location? x.1.className = some x.1

/-- What holds between two visits. The paths in the queue are ordered by length and span two lengths
at most, and none is shorter than a path that a class has. -/
structure Frontier (remaining : List ClassName) (queue : Queue)
    (reached : InsertionMap ClassName (List ClassName)) : Prop where
  remains : ∀ c, c ∈ remaining ↔ c ∈ ClassGraph.known index entryPoints ∧ c ∉ reached.keys
  entriesFirst : EntriesFirst index entryPoints queue reached
  waits : ∀ x ∈ queue, PathTo (Entry entryPoints) (Successor index declared) x.2 x.1.className ∧
    x.2.dropLast.Nodup ∧ ∀ c ∈ x.2.dropLast, c ∈ reached.keys
  ascending : queue.Pairwise fun x y => x.2.length ≤ y.2.length
  span : ∀ x ∈ queue, ∀ y ∈ queue, y.2.length ≤ x.2.length + 1
  has : ∀ c path, reached.get? c = some path →
    PathTo (Entry entryPoints) (Successor index declared) path c ∧ path.Nodup ∧
      (∀ a ∈ path, a ∈ reached.keys) ∧
      ∃ location, place index entryPoints c = some location ∧ answers location (declared c)
  shorter : ∀ c path, reached.get? c = some path → ∀ x ∈ queue, path.length ≤ x.2.length
  ordered : reached.keys.Pairwise fun a b => ∀ p q, reached.get? a = some p →
    reached.get? b = some q → p.length ≤ q.length
  entries : ∀ e, Entry entryPoints e → Promised queue reached e 1
  edges : ∀ a path, reached.get? a = some path → ∀ b, Successor index declared a b →
    Promised queue reached b (path.length + 1)

end

variable {index : ClassIndex} {entryPoints : List ClassLocation}
  {answers : ClassLocation → DeclaredClass → Prop} {declared : ClassName → DeclaredClass}
  {remaining : List ClassName} {location : ClassLocation} {path : List ClassName} {queue : Queue}
  {reached : InsertionMap ClassName (List ClassName)}

private theorem Promised.drop {c : ClassName} {n : Nat}
    (promised : Promised ((location, path) :: queue) reached c n)
    (old : location.className ∈ reached.keys)
    (shorter : ∀ p, reached.get? location.className = some p → p.length ≤ path.length) :
    Promised queue reached c n := by
  rcases promised with has | ⟨x, member, same, le⟩
  · exact .inl has
  · rcases List.mem_cons.1 member with rfl | later
    · obtain ⟨p, found⟩ := InsertionMap.mem_keys_iff.1 old
      have bound := shorter p found
      exact .inl ⟨p, same ▸ found, by simp only at le; omega⟩
    · exact .inr ⟨x, later, same, le⟩

private theorem Promised.visit {c : ClassName} {n : Nat} (more : Queue)
    (promised : Promised ((location, path) :: queue) reached c n)
    (fresh : location.className ∉ reached.keys) :
    Promised (queue ++ more) (reached.insert location.className path) c n := by
  rcases promised with ⟨p, found, le⟩ | ⟨x, member, same, le⟩
  · have apart : location.className ≠ c := by
      rintro rfl
      exact fresh (InsertionMap.mem_keys_iff.2 ⟨p, found⟩)
    exact .inl ⟨p, by rw [InsertionMap.get?_insert, if_neg apart, found], le⟩
  · rcases List.mem_cons.1 member with rfl | later
    · exact .inl ⟨path, by rw [InsertionMap.get?_insert, if_pos same], le⟩
    · exact .inr ⟨x, List.mem_append_left _ later, same, le⟩

/-- Entry points stay in front when the place in front is taken off and places of the index are
added behind. -/
private theorem EntriesFirst.advance {after : InsertionMap ClassName (List ClassName)} (more : Queue)
    (order : EntriesFirst index entryPoints ((location, path) :: queue) reached)
    (kept : ∀ c ∈ reached.keys, c ∈ after.keys) (here : location.className ∈ after.keys)
    (indexed : ∀ x ∈ more, index.location? x.1.className = some x.1) :
    EntriesFirst index entryPoints (queue ++ more) after := by
  obtain ⟨visited, waiting, others, split, queued, done, others_indexed⟩ := order
  cases waiting with
  | nil =>
    rw [List.map_nil, List.nil_append] at queued
    subst queued
    refine ⟨visited, [], _, split, rfl, fun l old => kept _ (done l old), ?_⟩
    intro x waits
    rcases List.mem_append.1 waits with later | new
    · exact others_indexed x (List.mem_cons_of_mem _ later)
    · exact indexed x new
  | cons entry waiting =>
    simp only [List.map_cons, List.cons_append, List.cons.injEq, Prod.mk.injEq] at queued
    obtain ⟨⟨rfl, -⟩, rfl⟩ := queued
    refine ⟨visited ++ [location], waiting, _, by simp [split], List.append_assoc .., ?_, ?_⟩
    · intro l old
      rcases List.mem_append.1 old with before | last
      · exact kept _ (done l before)
      · exact List.mem_singleton.1 last ▸ here
    · intro x waits
      rcases List.mem_append.1 waits with later | new
      · exact others_indexed x later
      · exact indexed x new

/-- What waits is an entry or in the index. -/
private theorem Frontier.known
    (f : Frontier index entryPoints answers declared remaining queue reached)
    {x : ClassLocation × List ClassName} (member : x ∈ queue) :
    x.1.className ∈ ClassGraph.known index entryPoints := by
  obtain ⟨visited, waiting, others, rfl, rfl, -, indexed⟩ := f.entriesFirst
  rcases List.mem_append.1 member with entry | other
  · obtain ⟨location, wait, rfl⟩ := List.mem_map.1 entry
    exact ClassGraph.mem_known.2 (.inl ⟨location, List.mem_append_right _ wait, rfl⟩)
  · exact ClassGraph.mem_known.2 (.inr (.inr ⟨_, _, indexed x other, rfl⟩))

/-- A place whose class was visited is dropped. -/
private theorem Frontier.drop
    (f : Frontier index entryPoints answers declared remaining ((location, path) :: queue) reached)
    (seen : location.className ∉ remaining) :
    Frontier index entryPoints answers declared remaining queue reached := by
  have old : location.className ∈ reached.keys := by
    by_contra fresh
    exact seen ((f.remains _).2 ⟨f.known List.mem_cons_self, fresh⟩)
  have shorter : ∀ p, reached.get? location.className = some p → p.length ≤ path.length :=
    fun p found => f.shorter _ p found _ List.mem_cons_self
  have order := f.entriesFirst.advance [] (fun _ => id) old (by simp)
  rw [List.append_nil] at order
  refine ⟨f.remains, order, fun x later => f.waits x (List.mem_cons_of_mem _ later),
    (List.pairwise_cons.1 f.ascending).2, ?_, f.has, ?_, f.ordered,
    fun e entry => (f.entries e entry).drop old shorter,
    fun a p found b edge => (f.edges a p found b edge).drop old shorter⟩
  · intro x left y right
    exact f.span x (List.mem_cons_of_mem _ left) y (List.mem_cons_of_mem _ right)
  · intro c p found x later
    exact f.shorter c p found x (List.mem_cons_of_mem _ later)

/-- The place at which a class is visited is the one where its declaration is read. -/
private theorem Frontier.place_eq
    (f : Frontier index entryPoints answers declared remaining ((location, path) :: queue) reached)
    (fresh : location.className ∉ reached.keys) :
    place index entryPoints location.className = some location := by
  obtain ⟨visited, waiting, others, rfl, queued, done, indexed⟩ := f.entriesFirst
  have before : visited.find? (·.className = location.className) = none := by
    refine List.find?_eq_none.2 fun l member same => fresh ?_
    rw [← of_decide_eq_true same]
    exact done l member
  cases waiting with
  | nil =>
    rw [List.map_nil, List.nil_append] at queued
    subst queued
    have here := indexed _ List.mem_cons_self
    simp only at here
    simp [place, before, here]
  | cons first waiting =>
    simp only [List.map_cons, List.cons_append, List.cons.injEq, Prod.mk.injEq] at queued
    obtain ⟨⟨rfl, -⟩, -⟩ := queued
    simp [place, List.find?_append, before]

theorem mem_successors {x : ClassLocation × List ClassName} {d : DeclaredClass} :
    x ∈ ClassGraph.successors index remaining path d ↔
      ∃ b, d.LeadsTo b ∧ b ∈ remaining ∧ index.location? b = some x.1 ∧ x.2 = path ++ [b] := by
  rw [ClassGraph.successors, List.mem_filterMap]
  refine exists_congr fun b => and_congr DeclaredClass.mem_mentions ?_
  by_cases member : b ∈ remaining
  · have passes : (guard (b ∈ remaining) : Option Unit) = some () := if_pos member
    rw [passes]
    cases found : index.location? b with
    | none => simp
    | some l =>
      obtain ⟨place, way⟩ := x
      simp [member, eq_comm]
  · have fails : (guard (b ∈ remaining) : Option Unit) = none := if_neg member
    rw [fails]
    simp [member]

/-- A path whose inner classes were visited is a path without repetition to a class that was not. -/
private theorem nodup_of_fresh {c : ClassName} (stop : path.getLast? = some c)
    (nodup : path.dropLast.Nodup) (inner : ∀ a ∈ path.dropLast, a ∈ reached.keys)
    (fresh : c ∉ reached.keys) : path.Nodup := by
  obtain ⟨front, rfl⟩ := List.getLast?_eq_some_iff.1 stop
  rw [List.dropLast_concat] at nodup inner
  refine List.nodup_append.2 ⟨nodup, by simp, ?_⟩
  rintro a member b here rfl
  exact fresh (List.mem_singleton.1 here ▸ inner a member)

private theorem PathTo.snoc {entry : ClassName → Prop} {next : ClassName → ClassName → Prop}
    {a b : ClassName} (way : PathTo entry next path a) (step : next a b) :
    PathTo entry next (path ++ [b]) b := by
  obtain ⟨⟨e, head, isEntry⟩, stop, steps⟩ := way
  refine ⟨⟨e, by simp [List.head?_append, head], isEntry⟩, by simp, ?_⟩
  refine steps.append (List.isChain_singleton b) ?_
  intro x last y first
  rw [stop, Option.mem_some_iff] at last
  rw [List.head?_singleton, Option.mem_some_iff] at first
  exact last ▸ first ▸ step

/-- Paths that are one longer than the first of a queue go behind the others, which are at most that
long. -/
private theorem pairwise_behind {new : Queue} {n : Nat}
    (ascending : queue.Pairwise fun x y => x.2.length ≤ y.2.length)
    (last : ∀ x ∈ queue, x.2.length ≤ n + 1) (behind : ∀ x ∈ new, x.2.length = n + 1) :
    (queue ++ new).Pairwise fun x y => x.2.length ≤ y.2.length := by
  refine List.pairwise_append.2 ⟨ascending, ?_, ?_⟩
  · refine List.pairwise_iff_forall_sublist.2 fun {x y} sub => ?_
    rw [behind x (sub.subset (by simp)), behind y (sub.subset (by simp))]
  · intro x later y new
    rw [behind y new]
    exact last x later

/-- A class that takes a path no shorter than those of the others comes last. -/
private theorem ordered_insert {c : ClassName} (fresh : c ∉ reached.keys)
    (ordered : reached.keys.Pairwise fun a b => ∀ p q, reached.get? a = some p →
      reached.get? b = some q → p.length ≤ q.length)
    (older : ∀ a p, reached.get? a = some p → p.length ≤ path.length) :
    (reached.insert c path).keys.Pairwise fun a b => ∀ p q,
      (reached.insert c path).get? a = some p → (reached.insert c path).get? b = some q →
        p.length ≤ q.length := by
  have old : ∀ a ∈ reached.keys, (reached.insert c path).get? a = reached.get? a := by
    intro a here
    rw [InsertionMap.get?_insert, if_neg (by rintro rfl; exact fresh here)]
  rw [InsertionMap.keys_insert, if_neg fresh]
  refine List.pairwise_append.2 ⟨?_, by simp, ?_⟩
  · refine ordered.imp_of_mem fun {a b} here there le => ?_
    rw [old a here, old b there]
    exact le
  · intro a here b there p q foundP foundQ
    rw [old a here] at foundP
    rw [InsertionMap.get?_insert, if_pos (List.mem_singleton.1 there).symm] at foundQ
    cases foundQ
    exact older a p foundP

/-- The places that join the queue when a class is visited: those of its successors that remain. -/
abbrev joining (index : ClassIndex) (declared : ClassName → DeclaredClass)
    (remaining : List ClassName) (location : ClassLocation) (path : List ClassName) : Queue :=
  ClassGraph.successors index (ClassGraph.without location.className remaining) path
    (declared location.className)

private theorem length_joining {x : ClassLocation × List ClassName}
    (joins : x ∈ joining index declared remaining location path) :
    x.2.length = path.length + 1 := by
  obtain ⟨b, -, -, -, same⟩ := mem_successors.1 joins
  simp [same]

private theorem location?_joining {x : ClassLocation × List ClassName}
    (keyed : ∀ c l, index.location? c = some l → l.className = c)
    (joins : x ∈ joining index declared remaining location path) :
    index.location? x.1.className = some x.1 := by
  obtain ⟨b, -, -, found, -⟩ := mem_successors.1 joins
  rwa [keyed b x.1 found]

/-! What a visit does to each part of what holds: a class that remains and is not reached takes the
path in front, and its successors join the queue. -/

section
variable
  (f : Frontier index entryPoints answers declared remaining ((location, path) :: queue) reached)
include f

private theorem Frontier.older {c : ClassName} {p : List ClassName}
    (found : reached.get? c = some p) : p.length ≤ path.length :=
  f.shorter c p found _ List.mem_cons_self

/-- The path in front goes from an entry through visited classes, so that with its own class visited
all its classes are. -/
private theorem Frontier.front (fresh : location.className ∉ reached.keys) :
    PathTo (Entry entryPoints) (Successor index declared) path location.className ∧ path.Nodup ∧
      ∀ a ∈ path, a ∈ (reached.insert location.className path).keys := by
  obtain ⟨way, nodup, inner⟩ := f.waits _ List.mem_cons_self
  simp only at way nodup inner
  refine ⟨way, nodup_of_fresh way.stop nodup inner fresh, fun a here => ?_⟩
  obtain ⟨front, rfl⟩ := List.getLast?_eq_some_iff.1 way.stop
  rw [List.dropLast_concat] at inner
  rw [InsertionMap.keys_insert, if_neg fresh]
  rcases List.mem_append.1 here with before | last
  · exact List.mem_append_left _ (inner a before)
  · exact List.mem_append_right _ last

private theorem Frontier.remains_visit (fresh : location.className ∉ reached.keys) (c : ClassName) :
    c ∈ ClassGraph.without location.className remaining ↔
      c ∈ ClassGraph.known index entryPoints ∧
        c ∉ (reached.insert location.className path).keys := by
  rw [ClassGraph.mem_without, f.remains, InsertionMap.keys_insert, if_neg fresh, List.mem_append,
    List.mem_singleton]
  tauto

private theorem Frontier.entriesFirst_visit
    (keyed : ∀ c l, index.location? c = some l → l.className = c)
    (fresh : location.className ∉ reached.keys) :
    EntriesFirst index entryPoints (queue ++ joining index declared remaining location path)
      (reached.insert location.className path) := by
  have keys : (reached.insert location.className path).keys =
      reached.keys ++ [location.className] := by
    rw [InsertionMap.keys_insert, if_neg fresh]
  refine f.entriesFirst.advance _ (fun c old => ?_) ?_ fun x => location?_joining keyed
  · exact keys ▸ List.mem_append_left _ old
  · exact keys ▸ List.mem_append_right _ (List.mem_singleton_self _)

private theorem Frontier.waits_visit (keyed : ∀ c l, index.location? c = some l → l.className = c)
    (fresh : location.className ∉ reached.keys) {x : ClassLocation × List ClassName}
    (waits : x ∈ queue ++ joining index declared remaining location path) :
    PathTo (Entry entryPoints) (Successor index declared) x.2 x.1.className ∧ x.2.dropLast.Nodup ∧
      ∀ c ∈ x.2.dropLast, c ∈ (reached.insert location.className path).keys := by
  rcases List.mem_append.1 waits with later | joins
  · obtain ⟨old, nodup, inner⟩ := f.waits x (List.mem_cons_of_mem _ later)
    refine ⟨old, nodup, fun c here => ?_⟩
    rw [InsertionMap.keys_insert, if_neg fresh]
    exact List.mem_append_left _ (inner c here)
  · obtain ⟨way, nodup, whole⟩ := f.front fresh
    obtain ⟨b, leads, -, found, same⟩ := mem_successors.1 joins
    rw [keyed b x.1 found, same, List.dropLast_concat]
    exact ⟨way.snoc ⟨leads, by simp [found]⟩, nodup, whole⟩

/-- What waits after a visit is as long as the path that was in front, or one longer. -/
private theorem Frontier.band_visit {x : ClassLocation × List ClassName}
    (waits : x ∈ queue ++ joining index declared remaining location path) :
    path.length ≤ x.2.length ∧ x.2.length ≤ path.length + 1 := by
  rcases List.mem_append.1 waits with later | joins
  · exact ⟨(List.pairwise_cons.1 f.ascending).1 x later,
      f.span _ List.mem_cons_self x (List.mem_cons_of_mem _ later)⟩
  · rw [length_joining joins]
    omega

private theorem Frontier.ascending_visit :
    (queue ++ joining index declared remaining location path).Pairwise
      fun x y => x.2.length ≤ y.2.length :=
  pairwise_behind (List.pairwise_cons.1 f.ascending).2
    (fun _ later => (f.band_visit (List.mem_append_left _ later)).2) fun _ => length_joining

private theorem Frontier.span_visit {x y : ClassLocation × List ClassName}
    (left : x ∈ queue ++ joining index declared remaining location path)
    (right : y ∈ queue ++ joining index declared remaining location path) :
    y.2.length ≤ x.2.length + 1 := by
  have low := (f.band_visit left).1
  have high := (f.band_visit right).2
  omega

private theorem Frontier.has_visit (fresh : location.className ∉ reached.keys)
    (answer : answers location (declared location.className)) {c : ClassName} {p : List ClassName}
    (found : (reached.insert location.className path).get? c = some p) :
    PathTo (Entry entryPoints) (Successor index declared) p c ∧ p.Nodup ∧
      (∀ a ∈ p, a ∈ (reached.insert location.className path).keys) ∧
      ∃ l, place index entryPoints c = some l ∧ answers l (declared c) := by
  rw [InsertionMap.get?_insert] at found
  split at found
  · rename_i same
    subst same
    cases found
    obtain ⟨way, nodup, whole⟩ := f.front fresh
    exact ⟨way, nodup, whole, location, f.place_eq fresh, answer⟩
  · obtain ⟨old, nodup, inner, read⟩ := f.has c p found
    refine ⟨old, nodup, fun a here => ?_, read⟩
    rw [InsertionMap.keys_insert, if_neg fresh]
    exact List.mem_append_left _ (inner a here)

private theorem Frontier.shorter_visit {c : ClassName} {p : List ClassName}
    (found : (reached.insert location.className path).get? c = some p)
    {x : ClassLocation × List ClassName}
    (waits : x ∈ queue ++ joining index declared remaining location path) :
    p.length ≤ x.2.length := by
  refine Nat.le_trans ?_ (f.band_visit waits).1
  rw [InsertionMap.get?_insert] at found
  split at found
  · cases found
    exact Nat.le_refl _
  · exact f.older found

/-- A successor of the class in front waits behind or has a path already. -/
private theorem Frontier.promised_successor {b : ClassName}
    (keyed : ∀ c l, index.location? c = some l → l.className = c)
    (edge : Successor index declared location.className b) :
    Promised (queue ++ joining index declared remaining location path)
      (reached.insert location.className path) b (path.length + 1) := by
  by_cases left : b ∈ ClassGraph.without location.className remaining
  · obtain ⟨l, at_b⟩ := Option.isSome_iff_exists.1 edge.2
    exact .inr ⟨(l, path ++ [b]), List.mem_append_right _
      (mem_successors.2 ⟨b, edge.1, left, at_b, rfl⟩), keyed b l at_b, by simp⟩
  · by_cases self : location.className = b
    · exact .inl ⟨path, by rw [InsertionMap.get?_insert, if_pos self], Nat.le_succ _⟩
    · have old : b ∈ reached.keys := by
        by_contra new
        have known : b ∈ ClassGraph.known index entryPoints :=
          ClassGraph.mem_known.2 (.inr (.inl (ClassIndex.mem_classes_iff.2 edge.2)))
        exact left (ClassGraph.mem_without.2 ⟨(f.remains b).2 ⟨known, new⟩, Ne.symm self⟩)
      obtain ⟨q, found⟩ := InsertionMap.mem_keys_iff.1 old
      exact .inl ⟨q, by rw [InsertionMap.get?_insert, if_neg self, found],
        (f.older found).trans (Nat.le_succ _)⟩

private theorem Frontier.edges_visit (keyed : ∀ c l, index.location? c = some l → l.className = c)
    (fresh : location.className ∉ reached.keys) {a b : ClassName} {p : List ClassName}
    (found : (reached.insert location.className path).get? a = some p)
    (edge : Successor index declared a b) :
    Promised (queue ++ joining index declared remaining location path)
      (reached.insert location.className path) b (p.length + 1) := by
  rw [InsertionMap.get?_insert] at found
  split at found
  · rename_i same
    subst same
    cases found
    exact f.promised_successor keyed edge
  · exact (f.edges a p found b edge).visit _ fresh

/-- A class is visited: it takes the path that waits in front, and its successors wait behind. -/
private theorem Frontier.visit (keyed : ∀ c l, index.location? c = some l → l.className = c)
    (member : location.className ∈ remaining)
    (answer : answers location (declared location.className)) :
    Frontier index entryPoints answers declared (ClassGraph.without location.className remaining)
      (queue ++ joining index declared remaining location path)
      (reached.insert location.className path) := by
  have fresh : location.className ∉ reached.keys := ((f.remains _).1 member).2
  exact
    { remains := f.remains_visit fresh
      entriesFirst := f.entriesFirst_visit keyed fresh
      waits := fun _ => f.waits_visit keyed fresh
      ascending := f.ascending_visit
      span := fun _ left _ => f.span_visit left
      has := fun _ _ => f.has_visit fresh answer
      shorter := fun _ _ found _ => f.shorter_visit found
      ordered := ordered_insert fresh f.ordered fun _ _ => f.older
      entries := fun e entry => (f.entries e entry).visit _ fresh
      edges := fun _ _ found _ => f.edges_visit keyed fresh found }

end

/-- Before the first visit, the entry points wait. -/
private theorem Frontier.start :
    Frontier index entryPoints answers declared (ClassGraph.known index entryPoints)
      (entryPoints.map fun location => (location, [location.className])) .empty := by
  have length : ∀ x ∈ entryPoints.map fun location => (location, [location.className]),
      x.2.length = 1 := by
    intro x member
    obtain ⟨l, -, rfl⟩ := List.mem_map.1 member
    rfl
  refine ⟨?_, ⟨[], entryPoints, [], rfl, by simp, by simp, by simp⟩, ?_, ?_, ?_, by simp, by simp,
    by simp, ?_, by simp⟩
  · simp
  · intro x member
    obtain ⟨l, entry, rfl⟩ := List.mem_map.1 member
    exact ⟨⟨⟨_, rfl, l, entry, rfl⟩, rfl, List.isChain_singleton _⟩, by simp, by simp⟩
  · refine List.pairwise_iff_forall_sublist.2 fun {x y} sub => ?_
    rw [length x (sub.subset (by simp)), length y (sub.subset (by simp))]
  · intro x left y right
    rw [length x left, length y right]
    omega
  · rintro e ⟨l, entry, rfl⟩
    exact .inr ⟨_, List.mem_map_of_mem entry, rfl, Nat.le_refl _⟩

/-- What holds between two visits holds at the end of the walk, when nothing waits. -/
private theorem Frontier.finish {result : InsertionMap ClassName (List ClassName)}
    (walk : Walk index answers declared remaining queue reached result)
    (keyed : ∀ c l, index.location? c = some l → l.className = c)
    (f : Frontier index entryPoints answers declared remaining queue reached) :
    ∃ left, Frontier index entryPoints answers declared left [] result := by
  induction walk with
  | done => exact ⟨_, f⟩
  | seen old _ ih => exact ih (f.drop old)
  | new member answer _ ih => exact ih (f.visit keyed member answer)

/-- When nothing waits, every path bounds the length of the path that its last class has. -/
private theorem Frontier.has_shortest
    (f : Frontier index entryPoints answers declared remaining [] reached) (other : List ClassName)
    (c : ClassName) (way : PathTo (Entry entryPoints) (Successor index declared) other c) :
    ∃ p, reached.get? c = some p ∧ p.length ≤ other.length := by
  induction other using List.reverseRecOn generalizing c with
  | nil =>
    obtain ⟨e, head, -⟩ := way.start
    simp at head
  | append_singleton front last ih =>
    have same : last = c := by simpa using way.stop
    subst same
    obtain ⟨e, head, entry⟩ := way.start
    cases stop : front.getLast? with
    | none =>
      rw [List.getLast?_eq_none_iff] at stop
      subst stop
      simp only [List.nil_append, List.head?_cons, Option.some.injEq] at head
      subst head
      simpa [Promised] using f.entries _ entry
    | some a =>
      obtain ⟨init, rfl⟩ := List.getLast?_eq_some_iff.1 stop
      have steps := List.isChain_append.1 way.steps
      have before : PathTo (Entry entryPoints) (Successor index declared) (init ++ [a]) a :=
        ⟨⟨e, by simpa [List.head?_append] using head, entry⟩, stop, steps.1⟩
      obtain ⟨p, found, le⟩ := ih a before
      have edge := steps.2.2 a stop last rfl
      obtain ⟨q, foundQ, leQ⟩ : ∃ q, reached.get? last = some q ∧ q.length ≤ p.length + 1 := by
        simpa [Promised] using f.edges a p found last edge
      refine ⟨q, foundQ, ?_⟩
      rw [List.length_append, List.length_singleton]
      omega

theorem PathTo.reflTransGen {entry : ClassName → Prop} {next : ClassName → ClassName → Prop}
    {c : ClassName} (way : PathTo entry next path c) :
    ∃ e, entry e ∧ Relation.ReflTransGen next e c := by
  obtain ⟨⟨e, head, isEntry⟩, stop, steps⟩ := way
  cases path with
  | nil => simp at head
  | cons first rest =>
    rw [List.head?_cons, Option.some.injEq] at head
    subst head
    rw [List.getLast?_eq_some_getLast (by simp), Option.some.injEq] at stop
    exact ⟨first, isEntry, List.relationReflTransGen_of_exists_isChain_cons rest steps stop⟩

/-- When nothing waits, the classes that were visited make a graph of shortest paths. -/
private theorem Frontier.shortest
    (f : Frontier index entryPoints answers declared remaining [] reached) :
    Shortest (Entry entryPoints) (Successor index declared) ⟨reached⟩ := by
  have isReached (c : ClassName) :
      (ClassGraph.mk reached).isReached c = true ↔ ∃ p, reached.get? c = some p := by
    simp [ClassGraph.isReached, InsertionMap.contains, InsertionMap.mem_keys_iff]
  have atClass {c : ClassName} {p : List ClassName} (found : reached.get? c = some p) :
      (ClassGraph.mk reached).path c = p := by
    simp [ClassGraph.path, found]
  refine ⟨?_, ?_, ?_, ?_, ?_⟩
  · intro c
    rw [isReached]
    constructor
    · rintro ⟨p, found⟩
      exact (f.has c p found).1.reflTransGen
    · rintro ⟨e, entry, steps⟩
      obtain ⟨rest, chain, last⟩ := List.exists_isChain_cons_of_relationReflTransGen steps
      have way : PathTo (Entry entryPoints) (Successor index declared) (e :: rest) c :=
        ⟨⟨e, rfl, entry⟩, by rw [List.getLast?_eq_some_getLast (by simp), last], chain⟩
      obtain ⟨p, found, -⟩ := f.has_shortest _ c way
      exact ⟨p, found⟩
  · intro c reachedC
    obtain ⟨p, found⟩ := (isReached c).1 reachedC
    rw [atClass found]
    exact ⟨(f.has c p found).1, (f.has c p found).2.1⟩
  · intro c _ other way
    obtain ⟨p, found, le⟩ := f.has_shortest other c way
    rwa [atClass found]
  · rw [ClassGraph.classes, List.pairwise_map]
    refine f.ordered.imp_of_mem ?_
    intro a b here there le
    obtain ⟨p, foundP⟩ := InsertionMap.mem_keys_iff.1 here
    obtain ⟨q, foundQ⟩ := InsertionMap.mem_keys_iff.1 there
    rw [atClass foundP, atClass foundQ]
    exact le p q foundP foundQ
  · intro c
    rw [isReached]
    constructor
    · rintro empty ⟨p, found⟩
      obtain ⟨e, head, -⟩ := (f.has c p found).1.start
      rw [atClass found] at empty
      simp [empty] at head
    · intro unreached
      have none : reached.get? c = none := by
        cases found : reached.get? c with
        | none => rfl
        | some p => exact absurd ⟨p, found⟩ unreached
      simp [ClassGraph.path, none]

/-- The graph of entry points where every class is read anew. -/
theorem shortest_of_eq_ok {load : ClassLocation → Except CheckError DeclaredClass} {g : ClassGraph}
    (keyed : ∀ c location, index.location? c = some location → location.className = c)
    (built : ClassGraph.ofEntryPoints load index entryPoints = .ok g) :
    ∃ declared : ClassName → DeclaredClass,
      (∀ c, g.isReached c → ∃ location, place index entryPoints c = some location ∧
        load location = .ok (declared c)) ∧
      Shortest (Entry entryPoints) (Successor index declared) g := by
  obtain ⟨reached, walked, done⟩ := bind_eq_ok.1 built
  cases done
  obtain ⟨declared, walk⟩ := walk_of_eq_ok walked
  obtain ⟨left, f⟩ := Frontier.start.finish walk keyed
  refine ⟨declared, ?_, f.shortest⟩
  intro c isReached
  obtain ⟨p, found⟩ := InsertionMap.mem_keys_iff.1 (ClassGraph.isReached_iff.1 isReached)
  exact (f.has c p found).2.2.2

/-- The graph of entry points has exactly the classes that successors lead to from the entries, in
the order of their distance, each with a shortest path. The declaration of a class is what the
loader gives for the first entry point for it or, if there is none, for its place in the index. -/
theorem ofEntryPoints_shortest (fs : FileSystem) (loader after : Loader) (index : ClassIndex)
    (entryPoints : List ClassLocation) (g : ClassGraph)
    (keyed : ∀ c location, index.location? c = some location → location.className = c)
    (built : Loading.outcome loader
      (ClassGraph.ofEntryPoints (Loading.load fs) index entryPoints) = (.ok g, after)) :
    ∃ declared : ClassName → DeclaredClass,
      (∀ c, g.isReached c → ∃ location, place index entryPoints c = some location ∧
        loader.Gives fs location (declared c) ∧ ∀ decoder, loader.Faithful decoder fs →
          decoder.Declares fs location (declared c)) ∧
      Shortest (Entry entryPoints) (Successor index declared) g := by
  rw [ClassGraph.ofEntryPoints, Loading.outcome_bind_eq_ok] at built
  obtain ⟨reached, next, walked, done⟩ := built
  rw [Loading.outcome_pure, Prod.mk.injEq, Except.ok.injEq] at done
  obtain ⟨rfl, -⟩ := done
  obtain ⟨declared, walk⟩ := walk_of_outcome walked
  obtain ⟨left, f⟩ := Frontier.start.finish walk keyed
  refine ⟨declared, ?_, f.shortest⟩
  intro c isReached
  have member : c ∈ reached.keys := by
    simpa [ClassGraph.isReached, InsertionMap.contains] using isReached
  obtain ⟨p, found⟩ := InsertionMap.mem_keys_iff.1 member
  obtain ⟨location, first, given⟩ := (f.has c p found).2.2.2
  exact ⟨location, first, given, fun decoder faithful => faithful.declares given⟩

/-! ### Two classes -/

section
variable {load : ClassLocation → Loading DeclaredClass} {index : ClassIndex}
  {remaining path : List ClassName} {location : ClassLocation} {queue : Queue}
  {reached : InsertionMap ClassName (List ClassName)} {l : Loader} {d : DeclaredClass}

theorem outcome_walk_new (new : location.className ∈ remaining)
    (loaded : (Loading.outcome l (load location)).1 = .ok d) :
    Loading.outcome l (ClassGraph.walk load index remaining ((location, path) :: queue) reached) =
      Loading.outcome (Loading.outcome l (load location)).2 (ClassGraph.walk load index
        (ClassGraph.without location.className remaining) (queue ++ ClassGraph.successors index
          (ClassGraph.without location.className remaining) path d)
        (reached.insert location.className path)) := by
  rw [ClassGraph.walk, dif_pos new, Loading.outcome_bind]
  rcases step : Loading.outcome l (load location) with ⟨_ | _, next⟩
  · rw [step] at loaded
    cases loaded
  · rw [step] at loaded
    cases loaded
    rfl

theorem outcome_walk_seen (seen : location.className ∉ remaining) :
    Loading.outcome l (ClassGraph.walk load index remaining ((location, path) :: queue) reached) =
      Loading.outcome l (ClassGraph.walk load index remaining queue reached) := by
  rw [ClassGraph.walk, dif_neg seen]

theorem outcome_walk_nil :
    Loading.outcome l (ClassGraph.walk load index remaining [] reached) = (.ok reached, l) := by
  rw [ClassGraph.walk, Loading.outcome_pure]

end

/-- A class leads to its parent. -/
theorem ofEntryPoints_shortest_sample :
    ∃ declared : ClassName → DeclaredClass,
      Shortest (Entry [Sample.place "A"])
        (Successor (ClassIndex.ofArtifacts Sample.classpath) declared)
        ⟨.ofList [(⟨"A"⟩, [⟨"A"⟩]), (⟨"B"⟩, [⟨"A"⟩, ⟨"B"⟩])]⟩ := by
  let index := ClassIndex.ofArtifacts Sample.classpath
  let load := Loading.loadKnown Decoder.standard Sample.known Sample.files
  let start := Loader.new Decoder.standard 1
  let next := (Loading.outcome start (load (Sample.place "A"))).2
  have child : (Loading.outcome start (load (Sample.place "A"))).1 = .ok Sample.declaredChild := by
    decide +kernel
  have parent : (Loading.outcome next (load (Sample.place "B"))).1 = .ok Sample.declaredParent := by
    decide +kernel
  have successors : ClassGraph.successors index [⟨"B"⟩, ⟨"B"⟩] [⟨"A"⟩] Sample.declaredChild =
      [(Sample.place "B", [⟨"A"⟩, ⟨"B"⟩]), (Sample.place "B", [⟨"A"⟩, ⟨"B"⟩])] := by
    decide +kernel
  have walked :=
    calc Loading.outcome start (ClassGraph.walk load index [⟨"A"⟩, ⟨"A"⟩, ⟨"B"⟩, ⟨"A"⟩, ⟨"B"⟩]
          [(Sample.place "A", [⟨"A"⟩])] .empty)
      _ = Loading.outcome next (ClassGraph.walk load index [⟨"B"⟩, ⟨"B"⟩]
          [(Sample.place "B", [⟨"A"⟩, ⟨"B"⟩]), (Sample.place "B", [⟨"A"⟩, ⟨"B"⟩])]
          (.ofList [(⟨"A"⟩, [⟨"A"⟩])])) := successors ▸ outcome_walk_new (by decide) child
      _ = Loading.outcome (Loading.outcome next (load (Sample.place "B"))).2
          (ClassGraph.walk load index [] [(Sample.place "B", [⟨"A"⟩, ⟨"B"⟩])]
            (.ofList [(⟨"A"⟩, [⟨"A"⟩]), (⟨"B"⟩, [⟨"A"⟩, ⟨"B"⟩])])) :=
        outcome_walk_new (by decide) parent
      _ = _ := (outcome_walk_seen (by decide)).trans outcome_walk_nil
  have known : ClassGraph.known index [Sample.place "A"] =
      [⟨"A"⟩, ⟨"A"⟩, ⟨"B"⟩, ⟨"A"⟩, ⟨"B"⟩] := by
    decide +kernel
  have same : Loading.load Sample.files = load := Loading.load_eq_loadKnown Sample.load_of_known
  have keyed : ∀ c location, index.location? c = some location → location.className = c := by
    intro c location found
    rcases Sample.of_location found with ⟨rfl, rfl⟩ | ⟨rfl, rfl⟩ <;> rfl
  obtain ⟨declared, -, shortest⟩ := ofEntryPoints_shortest Sample.files start _ index
    [Sample.place "A"] _ keyed (same ▸ Loading.outcome_bind_eq_ok.2 ⟨_, _, known ▸ walked, rfl⟩)
  exact ⟨declared, shortest⟩

end Reachability
end Linkage
