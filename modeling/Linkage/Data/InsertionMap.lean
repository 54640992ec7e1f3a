/-!
Finite maps whose keys are listed in the order in which they were first entered.
-/
namespace Linkage
universe u v

/-- Replaces the value of a key in place, or enters the key at the end. -/
def putEntry {κ : Type u} {ν : Type v} [DecidableEq κ] (k : κ) (value : ν) :
    List (κ × ν) → List (κ × ν)
  | [] => [(k, value)]
  | e :: rest => if e.1 = k then (k, value) :: rest else e :: putEntry k value rest

theorem keys_putEntry {κ : Type u} {ν : Type v} [DecidableEq κ] (k : κ) (value : ν)
    (l : List (κ × ν)) : (putEntry k value l).map Prod.fst =
      if k ∈ l.map Prod.fst then l.map Prod.fst else l.map Prod.fst ++ [k] := by
  induction l with
  | nil => rfl
  | cons e rest ih =>
    by_cases same : e.1 = k
    · simp [putEntry, same]
    · have other : k ≠ e.1 := fun h => same h.symm
      rw [putEntry, if_neg same, List.map_cons, ih]
      by_cases member : k ∈ rest.map Prod.fst <;> simp_all

/-- The value of a key in a list of entries. -/
def valueOf? {κ : Type u} {ν : Type v} [DecidableEq κ] (k : κ) (l : List (κ × ν)) : Option ν :=
  (l.find? (fun e => e.1 = k)).map Prod.snd

theorem valueOf?_putEntry {κ : Type u} {ν : Type v} [DecidableEq κ] (k x : κ) (value : ν)
    (l : List (κ × ν)) : valueOf? x (putEntry k value l) =
      if k = x then some value else valueOf? x l := by
  induction l with
  | nil => by_cases same : k = x <;> simp [putEntry, valueOf?, same]
  | cons e rest ih =>
    by_cases first : e.1 = k
    · by_cases same : k = x
      · simp [putEntry, valueOf?, first, same]
      · simp [putEntry, valueOf?, first, same]
    · rw [putEntry, if_neg first]
      by_cases here : e.1 = x
      · have apart : k ≠ x := fun same => first (here.trans same.symm)
        simp [valueOf?, here, apart]
      · simpa [valueOf?, here] using ih

theorem valueOf?_of_mem {κ : Type u} {ν : Type v} [DecidableEq κ] {l : List (κ × ν)} {k : κ}
    {value : ν} (distinct : (l.map Prod.fst).Nodup) (member : (k, value) ∈ l) :
    valueOf? k l = some value := by
  induction l with
  | nil => cases member
  | cons e rest ih =>
    rw [List.map_cons, List.nodup_cons] at distinct
    rcases List.mem_cons.1 member with rfl | later
    · simp [valueOf?]
    · have apart : e.1 ≠ k := fun same => distinct.1 (same ▸ List.mem_map_of_mem later)
      simpa [valueOf?, apart] using ih distinct.2 later

/-- A finite map whose keys keep the order in which they were first entered. -/
structure InsertionMap (κ : Type u) (ν : Type v) where
  toList : List (κ × ν)
  nodup : (toList.map Prod.fst).Nodup

namespace InsertionMap
variable {κ : Type u} {ν : Type v}

instance [DecidableEq κ] [DecidableEq ν] : DecidableEq (InsertionMap κ ν) := fun s t =>
  if h : s.toList = t.toList then .isTrue (by cases s; cases t; simp_all)
  else .isFalse (by rintro rfl; exact h rfl)

/-- The map without entries. -/
def empty : InsertionMap κ ν := ⟨[], .nil⟩

instance : EmptyCollection (InsertionMap κ ν) := ⟨empty⟩
instance : Inhabited (InsertionMap κ ν) := ⟨empty⟩

/-- The keys, in the order of first entry. -/
def keys (m : InsertionMap κ ν) : List κ := m.toList.map Prod.fst

/-- The values, in the order of their keys. -/
def values (m : InsertionMap κ ν) : List ν := m.toList.map Prod.snd

@[simp] theorem keys_empty : (empty : InsertionMap κ ν).keys = [] := rfl

/-- The number of keys. -/
def size (m : InsertionMap κ ν) : Nat := m.toList.length

variable [DecidableEq κ]

/-- The value of a key. -/
def get? (m : InsertionMap κ ν) (k : κ) : Option ν := valueOf? k m.toList

/-- Whether a key has a value. -/
def contains (m : InsertionMap κ ν) (k : κ) : Bool := k ∈ m.keys

/-- Enters a key with a value; a key already there keeps its place and takes the new value. -/
def insert (m : InsertionMap κ ν) (k : κ) (value : ν) : InsertionMap κ ν :=
  ⟨putEntry k value m.toList, by
    rw [keys_putEntry]
    split
    · exact m.nodup
    · rename_i absent
      exact List.nodup_append.2 ⟨m.nodup, by simp, by
        intro a ha b hb same
        rw [List.mem_singleton.1 hb] at same
        exact absent (same ▸ ha)⟩⟩

/-- Enters a key that has no value yet; a key already there keeps its value. -/
def insertNew (m : InsertionMap κ ν) (k : κ) (value : ν) : InsertionMap κ ν :=
  if m.contains k then m else m.insert k value

/-- The map of a list of entries, later entries replacing earlier ones. -/
def ofList (l : List (κ × ν)) : InsertionMap κ ν := l.foldl (fun m e => m.insert e.1 e.2) .empty

@[simp] theorem get?_empty {k : κ} : (empty : InsertionMap κ ν).get? k = none := rfl

theorem keys_insert (m : InsertionMap κ ν) (k : κ) (value : ν) :
    (m.insert k value).keys = if k ∈ m.keys then m.keys else m.keys ++ [k] :=
  keys_putEntry k value m.toList

theorem get?_insert (m : InsertionMap κ ν) (k x : κ) (value : ν) :
    (m.insert k value).get? x = if k = x then some value else m.get? x :=
  valueOf?_putEntry k x value m.toList

theorem mem_keys_iff {m : InsertionMap κ ν} {k : κ} : k ∈ m.keys ↔ ∃ value, m.get? k = some value := by
  simp only [keys, get?, valueOf?, List.mem_map, Option.map_eq_some_iff]
  constructor
  · rintro ⟨e, member, same⟩
    have found : (m.toList.find? fun e => e.1 = k).isSome :=
      List.find?_isSome.2 ⟨e, member, by simpa using same⟩
    obtain ⟨e, first⟩ := Option.isSome_iff_exists.1 found
    exact ⟨e.2, e, first, rfl⟩
  · rintro ⟨value, e, first, rfl⟩
    exact ⟨e, List.mem_of_find?_eq_some first, by simpa using List.find?_some first⟩

theorem isSome_get? (m : InsertionMap κ ν) (k : κ) : (m.get? k).isSome = m.contains k := by
  rw [Bool.eq_iff_iff, Option.isSome_iff_exists, contains, decide_eq_true_iff, mem_keys_iff]

theorem get?_eq_none_iff {m : InsertionMap κ ν} {k : κ} : m.get? k = none ↔ k ∉ m.keys := by
  rw [mem_keys_iff, ← Option.isSome_iff_exists, Option.not_isSome_iff_eq_none]

theorem keys_insertNew (m : InsertionMap κ ν) (k : κ) (value : ν) :
    (m.insertNew k value).keys = if k ∈ m.keys then m.keys else m.keys ++ [k] := by
  by_cases member : k ∈ m.keys <;> simp [insertNew, contains, keys_insert, member]

theorem keys_foldl_insert {l : List (κ × ν)} {m : InsertionMap κ ν}
    (distinct : (m.keys ++ l.map Prod.fst).Nodup) :
    (l.foldl (fun m e => m.insert e.1 e.2) m).keys = m.keys ++ l.map Prod.fst := by
  induction l generalizing m with
  | nil => simp
  | cons e l ih =>
    have new : e.1 ∉ m.keys := fun old =>
      (List.nodup_append.1 distinct).2.2 e.1 old e.1 (by simp) rfl
    have keys : (m.insert e.1 e.2).keys = m.keys ++ [e.1] := by rw [keys_insert, if_neg new]
    rw [List.foldl_cons, ih (by simpa [keys] using distinct), keys]
    simp

/-- A list of entries with different keys has its keys in order. -/
theorem keys_ofList {l : List (κ × ν)} (distinct : (l.map Prod.fst).Nodup) :
    (ofList l).keys = l.map Prod.fst :=
  keys_foldl_insert (by simpa using distinct)

theorem of_get?_foldl_insert {l : List (κ × ν)} {m : InsertionMap κ ν} {k : κ} {value : ν}
    (found : (l.foldl (fun m e => m.insert e.1 e.2) m).get? k = some value) :
    (k, value) ∈ l ∨ m.get? k = some value := by
  induction l generalizing m with
  | nil => exact .inr found
  | cons e l ih =>
    rcases ih found with later | here
    · exact .inl (List.mem_cons_of_mem _ later)
    · rw [get?_insert] at here
      split at here
      · rename_i same
        cases here
        exact .inl (same ▸ List.mem_cons_self)
      · exact .inr here

/-- The values of a map of a list of entries are among those of the list. -/
theorem mem_of_get?_ofList {l : List (κ × ν)} {k : κ} {value : ν}
    (found : (ofList l).get? k = some value) : (k, value) ∈ l := by
  rcases of_get?_foldl_insert found with member | none
  · exact member
  · simp at none

theorem mem_keys_foldl_insert {l : List (κ × ν)} {m : InsertionMap κ ν} {k : κ} :
    k ∈ (l.foldl (fun m e => m.insert e.1 e.2) m).keys ↔ k ∈ m.keys ∨ k ∈ l.map Prod.fst := by
  induction l generalizing m with
  | nil => simp
  | cons e l ih =>
    rw [List.foldl_cons, ih, keys_insert]
    by_cases old : e.1 ∈ m.keys
    · grind
    · simp [old, or_assoc]

/-- Every key of a list of entries has a value. -/
theorem mem_keys_ofList {l : List (κ × ν)} {k : κ} : k ∈ (ofList l).keys ↔ k ∈ l.map Prod.fst := by
  rw [ofList, mem_keys_foldl_insert, keys_empty, or_iff_right List.not_mem_nil]

theorem get?_of_mem_toList {m : InsertionMap κ ν} {k : κ} {value : ν}
    (member : (k, value) ∈ m.toList) : m.get? k = some value :=
  valueOf?_of_mem m.nodup member

theorem mem_values_iff {m : InsertionMap κ ν} {value : ν} :
    value ∈ m.values ↔ ∃ k, m.get? k = some value := by
  constructor
  · intro member
    obtain ⟨⟨k, _⟩, entered, rfl⟩ := List.mem_map.1 member
    exact ⟨k, get?_of_mem_toList entered⟩
  · rintro ⟨k, found⟩
    obtain ⟨e, here, rfl⟩ := Option.map_eq_some_iff.1 found
    exact List.mem_map_of_mem (List.mem_of_find?_eq_some here)

theorem get?_insertNew (m : InsertionMap κ ν) (k x : κ) (value : ν) :
    (m.insertNew k value).get? x = (m.get? x).or (if k = x then some value else none) := by
  by_cases old : k ∈ m.keys
  · rw [insertNew, if_pos (by simpa [contains] using old)]
    split
    · rename_i same
      obtain ⟨kept, found⟩ := mem_keys_iff.1 old
      rw [← same, found, Option.or_some]
      rfl
    · rw [Option.or_none]
  · rw [insertNew, if_neg (by simpa [contains] using old), get?_insert]
    split
    · rename_i same
      rw [get?_eq_none_iff.2 (same ▸ old), Option.none_or]
    · rw [Option.or_none]

/-- Entries that are new to a map are those of the first entry for each key. -/
theorem get?_foldl_insertNew {μ : Type v} (l : List (κ × ν)) (f : ν → μ) (m : InsertionMap κ μ)
    (x : κ) : (l.foldl (fun m e => m.insertNew e.1 (f e.2)) m).get? x =
      (m.get? x).or ((valueOf? x l).map f) := by
  induction l generalizing m with
  | nil => simp [valueOf?]
  | cons e l ih =>
    rw [List.foldl_cons, ih, get?_insertNew, Option.or_assoc]
    by_cases same : e.1 = x <;> simp [valueOf?, same]

/-- The keys of entries that are new to a map follow in the order of their first occurrence. -/
theorem keys_foldl_insertNew {μ : Type v} (l : List (κ × ν)) (f : ν → μ) {m : InsertionMap κ μ}
    {seen : List κ} (keys : m.keys = seen.eraseDups) :
    (l.foldl (fun m e => m.insertNew e.1 (f e.2)) m).keys =
      (seen ++ l.map Prod.fst).eraseDups := by
  induction l generalizing m seen with
  | nil => simpa using keys
  | cons e l ih =>
    have step : (m.insertNew e.1 (f e.2)).keys = (seen ++ [e.1]).eraseDups := by
      rw [keys_insertNew, keys, List.eraseDups_append]
      by_cases old : e.1 ∈ seen <;> simp [List.removeAll, List.eraseDups_cons, old]
    rw [List.foldl_cons, ih step, List.map_cons, List.append_assoc, List.singleton_append]

end InsertionMap
end Linkage
