import Linkage.Classpath.Artifact

/-!
The index of a classpath: for each class its location and the artifact it comes from. The first
artifact that has a class provides it.
-/
namespace Linkage

/-- Where a class is found, and in which artifact. -/
structure IndexEntry where
  location : ClassLocation
  artifact : String
  deriving DecidableEq, Repr

/-- The classes of a classpath, in the order of their first occurrence: where each is found, and the
artifact that provides it. -/
structure ClassIndex where
  locations : InsertionMap ClassName ClassLocation
  providers : InsertionMap ClassName String
  sameKeys : providers.keys = locations.keys
  deriving DecidableEq

namespace ClassIndex

/-- The index without classes. -/
def empty : ClassIndex := ⟨.empty, .empty, rfl⟩

/-- The index with one more class of an artifact. A class that is there already stays as it is. -/
def enter (index : ClassIndex) (name : ClassName) (location : ClassLocation) (artifact : String) :
    ClassIndex :=
  if index.locations.contains name then index
  else ⟨index.locations.insert name location, index.providers.insert name artifact, by
    rw [InsertionMap.keys_insert, InsertionMap.keys_insert, index.sameKeys]⟩

/-- The index with the classes of one more artifact, except those it has already. -/
def add (index : ClassIndex) (a : Artifact) : ClassIndex :=
  a.classes.toList.foldl (fun index e => index.enter e.1 e.2 a.name) index

/-- The index of a classpath. -/
def ofArtifacts (classpath : List Artifact) : ClassIndex := classpath.foldl add empty

/-- The classes, in the order of their first occurrence. -/
def classes (index : ClassIndex) : List ClassName := index.locations.keys

theorem nodup_classes (index : ClassIndex) : index.classes.Nodup := index.locations.nodup

/-- Where a class is found. -/
def location? (index : ClassIndex) (name : ClassName) : Option ClassLocation :=
  index.locations.get? name

theorem mem_classes_iff {index : ClassIndex} {name : ClassName} :
    name ∈ index.classes ↔ (index.location? name).isSome := by
  simp [classes, location?, InsertionMap.mem_keys_iff, Option.isSome_iff_exists]

/-- The artifact that provides a class. -/
def artifact? (index : ClassIndex) (name : ClassName) : Option String :=
  index.providers.get? name

/-- A class has an artifact exactly if it has a location. -/
theorem artifact?_eq_none_iff {index : ClassIndex} {name : ClassName} :
    index.artifact? name = none ↔ index.location? name = none := by
  rw [artifact?, location?, InsertionMap.get?_eq_none_iff, InsertionMap.get?_eq_none_iff,
    index.sameKeys]

/-- The number of classes. -/
def size (index : ClassIndex) : Nat := index.locations.size

/-- The classes with their locations and artifacts, in order. -/
def rows (index : ClassIndex) : List (ClassName × IndexEntry) :=
  (index.locations.toList.zip index.providers.toList).map fun e => (e.1.1, ⟨e.1.2, e.2.2⟩)

theorem nodup_rows (index : ClassIndex) : (index.rows.map Prod.fst).Nodup := by
  have lengths : index.locations.toList.length ≤ index.providers.toList.length := by
    have same := congrArg List.length index.sameKeys
    simp only [InsertionMap.keys, List.length_map] at same
    omega
  have keys := congrArg (List.map Prod.fst) (List.map_fst_zip lengths)
  rw [List.map_map] at keys
  rw [rows, List.map_map]
  exact keys.symm ▸ index.nodup_classes

/-- All that the index says of its classes, in order. -/
def entries (index : ClassIndex) : InsertionMap ClassName IndexEntry :=
  ⟨index.rows, index.nodup_rows⟩

end ClassIndex
end Linkage
