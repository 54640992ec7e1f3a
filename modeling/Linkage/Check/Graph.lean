import Linkage.Classpath.Index
import Linkage.Symbol.Declaration

/-!
The classes that entry points reach, each with a path that leads to it. Classes are visited in the
order of their distance from the entry points, and each is loaded once.
-/
namespace Linkage
universe u

/-- The classes reached, in the order in which they were, each with the path that led to it. -/
structure ClassGraph where
  paths : InsertionMap ClassName (List ClassName)
  deriving DecidableEq

namespace ClassGraph

/-- The classes reached, in order. -/
def classes (g : ClassGraph) : List ClassName := g.paths.keys

/-- Whether a class is reached. -/
def isReached (g : ClassGraph) (c : ClassName) : Bool := g.paths.contains c

/-- The path to a class, empty if it is not reached. -/
def path (g : ClassGraph) (c : ClassName) : List ClassName := (g.paths.get? c).getD []

/-- The graph in which every class of an index is an entry point. -/
def complete (index : ClassIndex) : ClassGraph :=
  ⟨InsertionMap.ofList (index.classes.map fun c => (c, [c]))⟩

theorem classes_complete (index : ClassIndex) : (complete index).classes = index.classes := by
  have keys : (index.classes.map fun c => (c, [c])).map Prod.fst = index.classes := by
    simp [Function.comp_def]
  have distinct : index.classes.Nodup := index.nodup_classes
  rw [classes, complete, InsertionMap.keys_ofList (keys.symm ▸ distinct), keys]

/-- The classes of a list other than a given one. -/
def without (c : ClassName) (l : List ClassName) : List ClassName := l.filter (· ≠ c)

theorem mem_without {c x : ClassName} {l : List ClassName} : x ∈ without c l ↔ x ∈ l ∧ x ≠ c := by
  simp [without]

theorem length_without {c : ClassName} {l : List ClassName} (h : c ∈ l) :
    (without c l).length < l.length :=
  List.length_filter_lt_length_iff_exists.2 ⟨c, h, by simp⟩

/-- The places to visit after a class: those of the classes it mentions that remain to be
reached. -/
def successors (index : ClassIndex) (remaining path : List ClassName) (declared : DeclaredClass) :
    List (ClassLocation × List ClassName) :=
  declared.mentions.filterMap fun c => do
    guard (c ∈ remaining)
    return (← index.location? c, path ++ [c])

/-- Visits the places in a queue and then those that they lead to. Only classes that `remain` are
visited, so each is visited once. -/
def walk {m : Type → Type u} [Monad m] (load : ClassLocation → m DeclaredClass) (index : ClassIndex)
    (remaining : List ClassName) (queue : List (ClassLocation × List ClassName))
    (reached : InsertionMap ClassName (List ClassName)) :
    m (InsertionMap ClassName (List ClassName)) :=
  match queue with
  | [] => pure reached
  | (location, path) :: queue =>
    if _new : location.className ∈ remaining then do
      let declared ← load location
      let remaining := without location.className remaining
      walk load index remaining (queue ++ successors index remaining path declared)
        (reached.insert location.className path)
    else walk load index remaining queue reached
termination_by (remaining.length, queue.length)
decreasing_by
  · apply Prod.Lex.left
    exact length_without _new
  · apply Prod.Lex.right
    simp

/-- The classes that a walk can come to: those of the entry points, those of the index and, where an
index has a place under the name of another class, those of its places. -/
def known (index : ClassIndex) (entryPoints : List ClassLocation) : List ClassName :=
  entryPoints.map ClassLocation.className ++ index.classes ++
    index.locations.values.map ClassLocation.className

theorem mem_known {index : ClassIndex} {entryPoints : List ClassLocation} {c : ClassName} :
    c ∈ known index entryPoints ↔ (∃ e ∈ entryPoints, e.className = c) ∨ c ∈ index.classes ∨
      ∃ name location, index.location? name = some location ∧ location.className = c := by
  rw [known, List.mem_append, List.mem_append, List.mem_map, List.mem_map, or_assoc]
  refine or_congr_right (or_congr_right ⟨?_, ?_⟩)
  · rintro ⟨location, member, same⟩
    obtain ⟨name, found⟩ := InsertionMap.mem_values_iff.1 member
    exact ⟨name, location, found, same⟩
  · rintro ⟨name, location, found, same⟩
    exact ⟨location, InsertionMap.mem_values_iff.2 ⟨name, found⟩, same⟩

/-- The classes that the given places reach. -/
def ofEntryPoints {m : Type → Type u} [Monad m] (load : ClassLocation → m DeclaredClass)
    (index : ClassIndex) (entryPoints : List ClassLocation) : m ClassGraph := do
  let queue := entryPoints.map fun location => (location, [location.className])
  return ⟨← walk load index (known index entryPoints) queue .empty⟩

end ClassGraph
end Linkage
