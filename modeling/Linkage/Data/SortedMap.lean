import Linkage.Data.SortedSet

/-!
Finite maps kept as lists of entries with strictly ascending keys. Entering a key a second time
replaces its value.
-/
namespace Linkage
open Std
universe u v

/-- Puts an entry at its place; the value of a key already there is replaced. -/
def insertEntry {κ : Type u} {ν : Type v} [Ord κ] (k : κ) (value : ν) :
    List (κ × ν) → List (κ × ν)
  | [] => [(k, value)]
  | e :: rest =>
    match compare k e.1 with
    | .lt => (k, value) :: e :: rest
    | .eq => (k, value) :: rest
    | .gt => e :: insertEntry k value rest

theorem keys_insertEntry {κ : Type u} {ν : Type v} [Ord κ] [LawfulEqOrd κ] (k : κ) (value : ν)
    (l : List (κ × ν)) :
    (insertEntry k value l).map Prod.fst = insertSorted k (l.map Prod.fst) := by
  induction l with
  | nil => rfl
  | cons e rest ih =>
    simp only [insertEntry, List.map_cons, insertSorted]
    cases order : compare k e.1 with
    | lt => rfl
    | eq => exact congrArg (· :: rest.map Prod.fst) (LawfulEqOrd.eq_of_compare order)
    | gt => exact congrArg (e.1 :: ·) ih

theorem mem_insertEntry {κ : Type u} {ν : Type v} [Ord κ] {k : κ} {value : ν} {e : κ × ν}
    {l : List (κ × ν)} (member : e ∈ insertEntry k value l) : e = (k, value) ∨ e ∈ l := by
  induction l with
  | nil => exact .inl (List.mem_singleton.1 member)
  | cons first rest ih =>
    unfold insertEntry at member
    split at member <;> grind

/-- The value of a key in a list of entries. -/
def valueAt? {κ : Type u} {ν : Type v} [Ord κ] (k : κ) (l : List (κ × ν)) : Option ν :=
  (l.find? (fun e => compare e.1 k == .eq)).map Prod.snd

theorem valueAt?_insertEntry {κ : Type u} {ν : Type v} [Ord κ] [TransOrd κ] [LawfulEqOrd κ]
    (k x : κ) (value : ν) (l : List (κ × ν)) :
    valueAt? x (insertEntry k value l) = if compare k x = .eq then some value else valueAt? x l := by
  induction l with
  | nil => by_cases same : compare k x = .eq <;> simp [insertEntry, valueAt?, same]
  | cons e rest ih =>
    simp only [insertEntry]
    cases order : compare k e.1 with
    | lt => by_cases same : compare k x = .eq <;> simp [valueAt?, List.find?_cons, same]
    | eq =>
      have key : k = e.1 := LawfulEqOrd.eq_of_compare order
      by_cases same : compare k x = .eq <;> simp [valueAt?, ← key, same]
    | gt =>
      by_cases here : compare e.1 x = .eq
      · have apart : compare k x ≠ .eq := by
          intro same
          have equal : k = e.1 :=
            (LawfulEqOrd.eq_of_compare same).trans (LawfulEqOrd.eq_of_compare here).symm
          have self : compare k e.1 = .eq := compare_eq_iff_eq.2 equal
          rw [order] at self
          cases self
        simp [valueAt?, here, apart]
      · simpa [valueAt?, List.find?_cons, here] using ih

theorem valueAt?_eq_some_iff {κ : Type u} {ν : Type v} [Ord κ] [LawfulEqOrd κ] {l : List (κ × ν)}
    {k : κ} {value : ν} (ascending : (l.map Prod.fst).Pairwise Before) :
    valueAt? k l = some value ↔ (k, value) ∈ l := by
  induction l with
  | nil => simp [valueAt?]
  | cons e rest ih =>
    rw [List.map_cons, List.pairwise_cons] at ascending
    by_cases same : e.1 = k
    · have last : (k, value) ∉ rest := by
        intro later
        have before : compare e.1 k = .lt := ascending.1 k (List.mem_map_of_mem later)
        rw [Std.compare_eq_iff_eq.2 same] at before
        cases before
      simp [valueAt?, last, Prod.ext_iff, same, eq_comm]
    · have other : compare e.1 k ≠ .eq := fun equal => same (LawfulEqOrd.eq_of_compare equal)
      have apart : (k, value) ≠ e := fun equal => same (equal ▸ rfl)
      rw [List.mem_cons, or_iff_right apart, ← ih ascending.2]
      simp [valueAt?, other]

/-- A finite map, kept as its entries in strictly ascending order of keys. -/
structure SortedMap (κ : Type u) (ν : Type v) [Ord κ] where
  toList : List (κ × ν)
  ascending : (toList.map Prod.fst).Pairwise Before

namespace SortedMap
variable {κ : Type u} {ν : Type v} [Ord κ]

instance [DecidableEq κ] [DecidableEq ν] : DecidableEq (SortedMap κ ν) := fun s t =>
  if h : s.toList = t.toList then .isTrue (by cases s; cases t; simp_all)
  else .isFalse (by rintro rfl; exact h rfl)

/-- The map without entries. -/
def empty : SortedMap κ ν := ⟨[], by simp⟩

instance : EmptyCollection (SortedMap κ ν) := ⟨empty⟩
instance : Inhabited (SortedMap κ ν) := ⟨empty⟩

/-- Enters a key with a value, which replaces the value the key had. -/
def insert [TransOrd κ] [LawfulEqOrd κ] (m : SortedMap κ ν) (k : κ) (value : ν) : SortedMap κ ν :=
  ⟨insertEntry k value m.toList, by
    rw [keys_insertEntry]; exact pairwise_insertSorted k m.ascending⟩

/-- The value of a key. -/
def get? (m : SortedMap κ ν) (k : κ) : Option ν := valueAt? k m.toList

/-- Whether a key has a value. -/
def contains (m : SortedMap κ ν) (k : κ) : Bool := (m.get? k).isSome

/-- The entries for which a test holds. -/
def filter (m : SortedMap κ ν) (keep : κ × ν → Bool) : SortedMap κ ν :=
  ⟨m.toList.filter keep, m.ascending.sublist (List.filter_sublist.map Prod.fst)⟩

/-- The keys, ascending. -/
def keys (m : SortedMap κ ν) : List κ := m.toList.map Prod.fst

/-- The values, in the order of their keys. -/
def values (m : SortedMap κ ν) : List ν := m.toList.map Prod.snd

@[simp] theorem get?_empty {k : κ} : (empty : SortedMap κ ν).get? k = none := rfl

theorem mem_keys_iff [LawfulEqOrd κ] {m : SortedMap κ ν} {k : κ} :
    k ∈ m.keys ↔ ∃ value, m.get? k = some value := by
  have same (e : κ × ν) : (compare e.1 k == .eq) = true ↔ e.1 = k := by
    rw [beq_iff_eq, Std.compare_eq_iff_eq]
  rw [← Option.isSome_iff_exists, get?, valueAt?, Option.isSome_map, List.find?_isSome, keys,
    List.mem_map]
  exact exists_congr fun e => and_congr_right fun _ => (same e).symm

theorem get?_eq_some_iff [LawfulEqOrd κ] {m : SortedMap κ ν} {k : κ} {value : ν} :
    m.get? k = some value ↔ (k, value) ∈ m.toList := valueAt?_eq_some_iff m.ascending

/-- The value at a key is that of the entry for it. -/
theorem get?_eq_find? [LawfulEqOrd κ] [DecidableEq κ] (m : SortedMap κ ν) (k : κ) :
    m.get? k = (m.toList.find? (·.1 = k)).map Prod.snd := by
  have same (e : κ × ν) : (compare e.1 k == .eq) = decide (e.1 = k) := by
    rw [Bool.eq_iff_iff, beq_iff_eq, Std.compare_eq_iff_eq, decide_eq_true_iff]
  simp only [get?, valueAt?, same]

@[simp] theorem keys_insert [TransOrd κ] [LawfulEqOrd κ] (m : SortedMap κ ν) (k : κ) (value : ν) :
    (m.insert k value).keys = insertSorted k m.keys := keys_insertEntry k value m.toList

theorem get?_insert [TransOrd κ] [LawfulEqOrd κ] (m : SortedMap κ ν) (k x : κ) (value : ν) :
    (m.insert k value).get? x = if compare k x = .eq then some value else m.get? x :=
  valueAt?_insertEntry k x value m.toList

/-- Of the values entered for one key the last counts. -/
theorem get?_foldl_insert [TransOrd κ] [LawfulEqOrd κ] [DecidableEq κ] {α : Type u} (key : α → κ)
    (value : α → ν) (l : List α) (m : SortedMap κ ν) (k : κ) :
    (l.foldl (fun map a => map.insert (key a) (value a)) m).get? k =
      ((l.filter (key · = k)).getLast?.map value).or (m.get? k) := by
  induction l generalizing m with
  | nil => rfl
  | cons a l ih =>
    rw [List.foldl_cons, ih, get?_insert]
    by_cases same : key a = k
    · rw [if_pos (Std.compare_eq_iff_eq.2 same), List.filter_cons_of_pos (by simpa using same),
        List.getLast?_cons]
      cases (l.filter (key · = k)).getLast? <;> rfl
    · rw [if_neg (fun equal => same (LawfulEqOrd.eq_of_compare equal)),
        List.filter_cons_of_neg (by simpa using same)]

theorem mem_toList_insert [TransOrd κ] [LawfulEqOrd κ] {m : SortedMap κ ν} {k : κ} {value : ν}
    {e : κ × ν} (member : e ∈ (m.insert k value).toList) : e = (k, value) ∨ e ∈ m.toList :=
  mem_insertEntry member

theorem mem_toList_foldl_insert [TransOrd κ] [LawfulEqOrd κ] {l : List (κ × ν)}
    {m : SortedMap κ ν} {e : κ × ν}
    (member : e ∈ (l.foldl (fun m e => m.insert e.1 e.2) m).toList) : e ∈ l ∨ e ∈ m.toList := by
  induction l generalizing m with
  | nil => exact .inr member
  | cons first l ih =>
    rcases ih member with later | here
    · exact .inl (List.mem_cons_of_mem _ later)
    · rcases mem_toList_insert here with rfl | old
      · exact .inl List.mem_cons_self
      · exact .inr old

end SortedMap

/-- Collects the elements of a list under their keys; the elements of one key keep their order. -/
def groupBy {α : Type u} {κ : Type v} [Ord κ] [TransOrd κ] [LawfulEqOrd κ] (key : α → κ)
    (l : List α) : SortedMap κ (List α) :=
  l.foldl (fun m a => m.insert (key a) ((m.get? (key a)).getD [] ++ [a])) .empty

section
variable {α : Type u} {κ : Type v} [Ord κ] [TransOrd κ] [LawfulEqOrd κ] [DecidableEq κ]

/-- Under a key are the elements that have it, in their order, if there are any. -/
theorem get?_groupBy (key : α → κ) (l : List α) (k : κ) : (groupBy key l).get? k =
    if l.filter (key · = k) = [] then none else some (l.filter (key · = k)) := by
  -- the elements collected so far stay in front of those that follow
  have layers (m : SortedMap κ (List α)) :
      (l.foldl (fun m a => m.insert (key a) ((m.get? (key a)).getD [] ++ [a])) m).get? k =
        if l.filter (key · = k) = [] then m.get? k
        else some ((m.get? k).getD [] ++ l.filter (key · = k)) := by
    induction l generalizing m with
    | nil => rfl
    | cons a l ih =>
      rw [List.foldl_cons, ih, SortedMap.get?_insert]
      by_cases same : key a = k
      · subst same
        by_cases last : l.filter (key · = key a) = [] <;> simp [last]
      · have apart : compare (key a) k ≠ .eq :=
          fun equal => same (LawfulEqOrd.eq_of_compare equal)
        simp [same, apart]
  exact layers .empty

/-- The keys are those of the elements. -/
theorem keys_groupBy (key : α → κ) (l : List α) :
    (groupBy key l).keys = (SortedSet.ofList (l.map key)).toList := by
  let keys : SortedSet κ := ⟨(groupBy key l).keys, (groupBy key l).ascending⟩
  have same : keys = SortedSet.ofList (l.map key) := by
    refine SortedSet.ext fun k => ?_
    have held : k ∈ keys ↔ l.filter (key · = k) ≠ [] := by
      refine SortedMap.mem_keys_iff.trans ?_
      rw [get?_groupBy]
      by_cases none : l.filter (key · = k) = [] <;> simp [none]
    rw [held, SortedSet.mem_ofList, List.mem_map]
    simp
  exact congrArg SortedSet.toList same

/-- Each key of the elements has a group, made of the elements that have it. -/
theorem toList_groupBy (key : α → κ) (l : List α) : (groupBy key l).toList =
    (SortedSet.ofList (l.map key)).toList.map fun k => (k, l.filter (key · = k)) := by
  have group : ∀ e ∈ (groupBy key l).toList, (e.1, l.filter (key · = e.1)) = e := by
    intro e member
    have found := SortedMap.get?_eq_some_iff.2 member
    rw [get?_groupBy] at found
    split at found
    · cases found
    · exact Prod.ext rfl (Option.some.inj found)
  rw [← keys_groupBy, SortedMap.keys, List.map_map]
  exact (List.map_id _).symm.trans (List.map_congr_left fun e member => (group e member).symm)

/-- What is made of the groups. -/
theorem mem_map_groupBy {β : Type u} {key : α → κ} {l : List α} {f : κ × List α → β} {b : β} :
    b ∈ (groupBy key l).toList.map f ↔
      ∃ k, l.filter (key · = k) ≠ [] ∧ f (k, l.filter (key · = k)) = b := by
  rw [toList_groupBy, List.map_map, List.mem_map]
  refine exists_congr fun k => and_congr_left' ?_
  rw [SortedSet.mem_toList, SortedSet.mem_ofList, List.mem_map]
  simp

end

end Linkage
