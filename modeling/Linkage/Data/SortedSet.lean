import Linkage.Data.Order

/-!
Finite sets kept as strictly ascending lists. The order of the members is the order in which they
are listed, so two sets with the same members are equal.
-/
namespace Linkage
open Std
universe u

/-- The strict order that `compare` gives. -/
abbrev Before {α : Type u} [Ord α] (a b : α) : Prop := compare a b = .lt

/-- Puts an element at its place in an ascending list; an element already there stays. -/
def insertSorted {α : Type u} [Ord α] (a : α) : List α → List α
  | [] => [a]
  | b :: rest =>
    match compare a b with
    | .lt => a :: b :: rest
    | .eq => b :: rest
    | .gt => b :: insertSorted a rest

theorem mem_of_mem_insertSorted {α : Type u} [Ord α] {a x : α} {l : List α}
    (h : x ∈ insertSorted a l) : x = a ∨ x ∈ l := by
  induction l with
  | nil => simpa [insertSorted] using h
  | cons b rest ih =>
    unfold insertSorted at h
    split at h
    · simpa using h
    · exact .inr h
    · rcases List.mem_cons.1 h with rfl | h
      · simp
      · rcases ih h with rfl | h <;> simp [*]

theorem mem_insertSorted {α : Type u} [Ord α] [LawfulEqOrd α] {a x : α} {l : List α} :
    x ∈ insertSorted a l ↔ x = a ∨ x ∈ l := by
  refine ⟨mem_of_mem_insertSorted, ?_⟩
  induction l with
  | nil => simp [insertSorted]
  | cons b rest ih =>
    intro h
    unfold insertSorted
    split
    · simpa using h
    · rename_i same
      rcases h with rfl | h
      · simp [LawfulEqOrd.eq_of_compare same]
      · exact h
    · rcases h with rfl | h
      · exact List.mem_cons_of_mem _ (ih (.inl rfl))
      · rcases List.mem_cons.1 h with rfl | h
        · simp
        · exact List.mem_cons_of_mem _ (ih (.inr h))

theorem pairwise_insertSorted {α : Type u} [Ord α] [TransOrd α] (a : α) {l : List α}
    (h : l.Pairwise Before) : (insertSorted a l).Pairwise Before := by
  induction l with
  | nil => simp [insertSorted]
  | cons b rest ih =>
    have tail := List.pairwise_cons.1 h
    unfold insertSorted
    split
    · rename_i less
      refine List.pairwise_cons.2 ⟨?_, h⟩
      intro x hx
      rcases List.mem_cons.1 hx with rfl | hx
      · exact less
      · exact TransCmp.lt_trans less (tail.1 x hx)
    · exact h
    · rename_i greater
      refine List.pairwise_cons.2 ⟨?_, ih tail.2⟩
      intro x hx
      rcases mem_of_mem_insertSorted hx with rfl | hx
      · exact OrientedCmp.lt_of_gt greater
      · exact tail.1 x hx

/-- A finite set, kept as the strictly ascending list of its members. -/
structure SortedSet (α : Type u) [Ord α] where
  toList : List α
  ascending : toList.Pairwise Before

namespace SortedSet
variable {α : Type u} [Ord α]

instance [DecidableEq α] : DecidableEq (SortedSet α) := fun s t =>
  if h : s.toList = t.toList then .isTrue (by cases s; cases t; simp_all)
  else .isFalse (by rintro rfl; exact h rfl)

/-- The set without members. -/
def empty : SortedSet α := ⟨[], .nil⟩

instance : EmptyCollection (SortedSet α) := ⟨empty⟩
instance : Inhabited (SortedSet α) := ⟨empty⟩
instance : Membership α (SortedSet α) := ⟨fun s a => a ∈ s.toList⟩

/-- Sets compare as their ascending lists do. -/
instance : Ord (SortedSet α) := ⟨compareOn toList⟩
instance [TransOrd α] : TransOrd (SortedSet α) := inferInstanceAs (TransCmp (compareOn toList))
instance [LawfulEqOrd α] : LawfulEqOrd (SortedSet α) where
  compare_self := ReflCmp.compare_self (α := List α)
  eq_of_compare {s t} h := by
    have : s.toList = t.toList := compareOn_eq_eq.1 h
    cases s; cases t; simp_all

/-- Adds a member. -/
def insert [TransOrd α] (a : α) (s : SortedSet α) : SortedSet α :=
  ⟨insertSorted a s.toList, pairwise_insertSorted a s.ascending⟩

/-- The set of the elements of a list. -/
def ofList [TransOrd α] (l : List α) : SortedSet α := l.foldl (fun s a => s.insert a) empty

/-- The members of either set. -/
def union [TransOrd α] (s t : SortedSet α) : SortedSet α := t.toList.foldl (fun u a => u.insert a) s

@[simp] theorem mem_toList {s : SortedSet α} {a : α} : a ∈ s.toList ↔ a ∈ s := Iff.rfl

@[simp] theorem not_mem_empty {a : α} : a ∉ (empty : SortedSet α) := List.not_mem_nil

@[simp] theorem mem_insert [TransOrd α] [LawfulEqOrd α] {s : SortedSet α} {a x : α} :
    x ∈ s.insert a ↔ x = a ∨ x ∈ s := mem_insertSorted

theorem mem_foldl_insert [TransOrd α] [LawfulEqOrd α] {l : List α} {s : SortedSet α} {x : α} :
    x ∈ l.foldl (fun u a => u.insert a) s ↔ x ∈ l ∨ x ∈ s := by
  induction l generalizing s with
  | nil => simp
  | cons a rest ih => simp [ih, or_assoc, or_left_comm]

@[simp] theorem mem_ofList [TransOrd α] [LawfulEqOrd α] {l : List α} {x : α} :
    x ∈ ofList l ↔ x ∈ l := by simp [ofList, mem_foldl_insert]

@[simp] theorem mem_union [TransOrd α] [LawfulEqOrd α] {s t : SortedSet α} {x : α} :
    x ∈ s.union t ↔ x ∈ s ∨ x ∈ t := by simp [union, mem_foldl_insert, or_comm]

/-- Sets with the same members are the same. -/
theorem ext [TransOrd α] {s t : SortedSet α} (same : ∀ x, x ∈ s ↔ x ∈ t) : s = t := by
  have different : ∀ a b : α, Before a b → a ≠ b := by
    rintro a b before rfl
    have self : compare a a = .eq := ReflCmp.compare_self
    rw [Before, self] at before
    cases before
  have oneWay : ∀ a b : α, Before a b → Before b a → a = b := by
    intro a b left right
    have greater : compare b a = .gt := OrientedCmp.gt_of_lt left
    rw [Before, greater] at right
    cases right
  have perm : s.toList.Perm t.toList :=
    (List.perm_ext_iff_of_nodup (s.ascending.imp @different) (t.ascending.imp @different)).2 same
  have lists : s.toList = t.toList :=
    perm.eq_of_pairwise (fun a b _ _ => oneWay a b) s.ascending t.ascending
  cases s
  cases t
  simp_all

end SortedSet
end Linkage
