import Mathlib.Data.List.Find
import Linkage.Classpath.Index
import Linkage.Classpath.Jdk
import Linkage.Data.Outcome

/-!
Artifacts in layers. What an artifact has is entered under the name of its class, however it was
loaded (`Artifact.Loaded.keyed`). The index of a classpath looks a class up in one artifact after
the other and takes it from the first that has it (`ClassIndex.ofArtifacts_firstOccurrence`).
-/
namespace Linkage
namespace Artifact

/-- Every location is entered under the name of its class. -/
def Keyed (a : Artifact) : Prop :=
  ∀ c location, a.classes.get? c = some location → location.className = c

/-- Artifacts as they are loaded: from a path, or with the other modules of a JDK. -/
inductive Loaded (a : Artifact) : Prop
  | ofPath {fs : FileSystem} {release : Nat} {name : String} {path : Path} :
    load fs release name path = .ok a → Loaded a
  | ofJdk {fs : FileSystem} {jdk : Jdk} {modules : List Artifact} :
    jdk.artifacts fs = .ok modules → a ∈ modules → Loaded a

theorem keyed_ofList {name : String} {l : List (ClassName × ClassLocation)}
    (each : ∀ e ∈ l, e.2.className = e.1) : Keyed ⟨name, InsertionMap.ofList l⟩ := by
  intro c location found
  exact each _ (InsertionMap.mem_of_get?_ofList found)

theorem keyed_empty (name : String) : (empty name).Keyed := by
  intro c location found
  simp [empty] at found

theorem keyed_classesInDirectory {fs : FileSystem} {root : Path} {name : String}
    {classes : InsertionMap ClassName ClassLocation}
    (read : classesInDirectory fs root = .ok classes) : Keyed ⟨name, classes⟩ := by
  obtain ⟨files, -, rest⟩ := bind_eq_ok.1 read
  obtain ⟨entries, named, last⟩ := bind_eq_ok.1 rest
  cases last
  refine keyed_ofList fun e member => ?_
  obtain ⟨relative, -, here⟩ := (mem_iff_of_mapM_eq_ok named).1 member
  obtain ⟨c, -, same⟩ := bind_eq_ok.1 here
  cases same
  rfl

theorem keyed_classesInArchive {fs : FileSystem} {release : Nat} {path : Path} {name : String}
    {classes : InsertionMap ClassName ClassLocation}
    (read : classesInArchive fs release path = .ok classes) : Keyed ⟨name, classes⟩ := by
  obtain ⟨archive, -, rest⟩ := bind_eq_ok.1 read
  cases archive with
  | error cause => cases rest
  | ok archive =>
    obtain ⟨selected, -, last⟩ := bind_eq_ok.1 rest
    cases last
    refine keyed_ofList fun e member => ?_
    obtain ⟨x, -, rfl⟩ := List.mem_map.1 member
    rfl

theorem keyed_loadModule {fs : FileSystem} {path : Path} {a : Artifact}
    (read : Jdk.loadModule fs path = .ok a) : a.Keyed := by
  obtain ⟨archive, -, rest⟩ := bind_eq_ok.1 read
  cases archive with
  | error cause => cases rest
  | ok archive =>
    obtain ⟨classes, named, last⟩ := bind_eq_ok.1 rest
    cases last
    refine keyed_ofList fun e member => ?_
    rcases SortedMap.mem_toList_foldl_insert member with inside | none
    · obtain ⟨x, -, here⟩ := (mem_iff_of_mapM_eq_ok named).1 inside
      obtain ⟨c, -, same⟩ := bind_eq_ok.1 here
      cases same
      rfl
    · cases none

/-- What is loaded from a path has the name it is given, and no classes, those of a directory or
those of an archive. -/
theorem load_cases {fs : FileSystem} {release : Nat} {name : String} {path : Path} {a : Artifact}
    (loaded : load fs release name path = .ok a) : a = empty name ∨
      ∃ classes, a = ⟨name, classes⟩ ∧ (classesInDirectory fs path = .ok classes ∨
        classesInArchive fs release path = .ok classes) := by
  unfold load at loaded
  dsimp only at loaded
  split at loaded
  · split at loaded
    · cases loaded
      exact .inl rfl
    · cases loaded
  · split at loaded
    · obtain ⟨classes, here, last⟩ := bind_eq_ok.1 loaded
      cases last
      exact .inr ⟨classes, rfl, .inl here⟩
    · split at loaded
      · obtain ⟨classes, here, last⟩ := bind_eq_ok.1 loaded
        cases last
        exact .inr ⟨classes, rfl, .inr here⟩
      · cases loaded
        exact .inl rfl

theorem name_of_load {fs : FileSystem} {release : Nat} {name : String} {path : Path} {a : Artifact}
    (loaded : load fs release name path = .ok a) : a.name = name := by
  rcases load_cases loaded with rfl | ⟨classes, rfl, -⟩ <;> rfl

/-- However an artifact was loaded, its locations are entered under the names of their classes. -/
theorem Loaded.keyed {a : Artifact} (loaded : a.Loaded) : a.Keyed := by
  cases loaded with
  | ofPath read =>
    rcases load_cases read with rfl | ⟨classes, rfl, ofDirectory | ofArchive⟩
    · exact keyed_empty _
    · exact keyed_classesInDirectory ofDirectory
    · exact keyed_classesInArchive ofArchive
  | ofJdk read member =>
    obtain ⟨paths, -, rest⟩ := bind_eq_ok.1 read
    obtain ⟨modules, each, last⟩ := bind_eq_ok.1 rest
    cases last
    obtain ⟨path, -, here⟩ := (mem_iff_of_mapM_eq_ok each).1 (List.mem_filter.1 member).1
    exact keyed_loadModule here

theorem load_of_directory {fs : FileSystem} {path : Path} {place : List String}
    {classes : InsertionMap ClassName ClassLocation} (release : Nat) (name : String)
    (located : fs.locate path = .ok place) (isThere : fs.node? place = some .directory)
    (read : classesInDirectory fs path = .ok classes) :
    load fs release name path = .ok ⟨name, classes⟩ := by
  have found : fs.find path = .ok .directory := by
    simp only [FileSystem.find, located, bind, Except.bind, isThere]
    rfl
  have present : fs.exists? path = true := by
    rw [FileSystem.exists?, found]
    rfl
  have isDirectory : fs.isDirectory path = true := by
    rw [FileSystem.isDirectory, found]
  simp [load, present, isDirectory, read]

/-- The place of a class is the first one for it. -/
theorem Keyed.find?_values {a : Artifact} (keyed : a.Keyed) (c : ClassName) :
    a.classes.values.find? (·.className = c) = a.classes.get? c := by
  have key : ∀ e ∈ a.classes.toList, e.2.className = e.1 := fun e member =>
    keyed e.1 e.2 (InsertionMap.get?_of_mem_toList member)
  rw [InsertionMap.values, List.find?_map, InsertionMap.get?, valueOf?]
  congr 1
  refine List.find?_congr fun e member => ?_
  simp [key e member]

/-- The first place for a class in some artifacts is where the first of them that has the class has
it. -/
theorem find?_flatMap_values {artifacts : List Artifact} (loaded : ∀ a ∈ artifacts, a.Loaded)
    (c : ClassName) : (artifacts.flatMap fun a => a.classes.values).find? (·.className = c) =
      artifacts.findSome? fun a => a.classes.get? c := by
  rw [List.find?_flatMap]
  induction artifacts with
  | nil => rfl
  | cons a artifacts ih =>
    have here := (loaded a List.mem_cons_self).keyed.find?_values c
    rw [List.findSome?_cons, List.findSome?_cons, here,
      ih fun b later => loaded b (List.mem_cons_of_mem _ later)]

end Artifact

/-! ### The index -/

namespace ClassIndex

theorem locations_enter (index : ClassIndex) (c : ClassName) (location : ClassLocation)
    (artifact : String) :
    (index.enter c location artifact).locations = index.locations.insertNew c location := by
  unfold enter InsertionMap.insertNew
  split <;> rfl

/-- The artifact of a class is entered together with its location, so what is new to the one map is
new to the other. -/
theorem providers_enter (index : ClassIndex) (c : ClassName) (location : ClassLocation)
    (artifact : String) :
    (index.enter c location artifact).providers = index.providers.insertNew c artifact := by
  have known : index.providers.contains c = index.locations.contains c := by
    rw [InsertionMap.contains, InsertionMap.contains, index.sameKeys]
  unfold enter InsertionMap.insertNew
  rw [known]
  split <;> rfl

theorem locations_add (index : ClassIndex) (a : Artifact) : (index.add a).locations =
    a.classes.toList.foldl (fun m e => m.insertNew e.1 e.2) index.locations :=
  (List.foldl_hom locations fun index e => (index.locations_enter e.1 e.2 a.name).symm).symm

theorem providers_add (index : ClassIndex) (a : Artifact) : (index.add a).providers =
    a.classes.toList.foldl (fun m e => m.insertNew e.1 a.name) index.providers :=
  (List.foldl_hom providers fun index e => (index.providers_enter e.1 e.2 a.name).symm).symm

theorem location?_add (index : ClassIndex) (a : Artifact) (c : ClassName) :
    (index.add a).location? c = (index.location? c).or (a.classes.get? c) := by
  have layered := InsertionMap.get?_foldl_insertNew a.classes.toList id index.locations c
  rw [Option.map_id_apply] at layered
  rw [location?, locations_add]
  exact layered

theorem artifact?_add (index : ClassIndex) (a : Artifact) (c : ClassName) :
    (index.add a).artifact? c =
      (index.artifact? c).or ((a.classes.get? c).map fun _ => a.name) := by
  rw [artifact?, providers_add, InsertionMap.get?_foldl_insertNew _ (fun _ => a.name)]
  rfl

/-- What each artifact gives only if those before it give nothing, the classpath gives from the
first that gives something. -/
private theorem view_ofArtifacts {β : Type} (view : ClassIndex → Option β)
    {given : Artifact → Option β} (start : view empty = none)
    (step : ∀ index a, view (add index a) = (view index).or (given a))
    (classpath : List Artifact) : view (ofArtifacts classpath) = classpath.findSome? given := by
  have layers (index : ClassIndex) :
      view (classpath.foldl add index) = (view index).or (classpath.findSome? given) := by
    induction classpath generalizing index with
    | nil => simp
    | cons a classpath ih =>
      rw [List.foldl_cons, ih, step, Option.or_assoc, List.findSome?_cons]
      cases given a <;> simp
  rw [ofArtifacts, layers, start, Option.none_or]

/-- The first artifact that has a class provides it. -/
theorem location?_ofArtifacts (classpath : List Artifact) (c : ClassName) :
    (ofArtifacts classpath).location? c = classpath.findSome? fun a => a.classes.get? c := by
  exact view_ofArtifacts (·.location? c) rfl (fun index a => index.location?_add a c) classpath

theorem artifact?_ofArtifacts (classpath : List Artifact) (c : ClassName) :
    (ofArtifacts classpath).artifact? c =
      classpath.findSome? fun a => (a.classes.get? c).map fun _ => a.name := by
  exact view_ofArtifacts (·.artifact? c) rfl (fun index a => index.artifact?_add a c) classpath

/-- The classes of one more artifact follow those seen before, each at its first occurrence. -/
theorem classes_add {index : ClassIndex} {seen : List ClassName} (a : Artifact)
    (order : index.classes = seen.eraseDups) :
    (index.add a).classes = (seen ++ a.classes.keys).eraseDups := by
  rw [classes, locations_add]
  exact InsertionMap.keys_foldl_insertNew a.classes.toList id order

theorem classes_ofArtifacts (classpath : List Artifact) : (ofArtifacts classpath).classes =
    (classpath.flatMap fun a => a.classes.keys).eraseDups := by
  have layers (index : ClassIndex) (seen : List ClassName)
      (order : index.classes = seen.eraseDups) : (classpath.foldl add index).classes =
        (seen ++ classpath.flatMap fun a => a.classes.keys).eraseDups := by
    induction classpath generalizing index seen with
    | nil => simpa using order
    | cons a classpath ih =>
      rw [List.foldl_cons, ih _ _ (classes_add a order), List.flatMap_cons, List.append_assoc]
  exact layers empty [] rfl

/-- An artifact without new classes changes nothing. -/
theorem add_of_known {index : ClassIndex} {a : Artifact}
    (known : ∀ c ∈ a.classes.keys, c ∈ index.classes) : index.add a = index := by
  have each : ∀ l ⊆ a.classes.toList,
      l.foldl (fun index e => index.enter e.1 e.2 a.name) index = index := by
    intro l inside
    induction l with
    | nil => rfl
    | cons e l ih =>
      have old : e.1 ∈ index.classes := known e.1 (List.mem_map_of_mem (inside List.mem_cons_self))
      have unchanged : index.enter e.1 e.2 a.name = index :=
        if_pos (decide_eq_true old)
      rw [List.foldl_cons, unchanged]
      exact ih fun x later => inside (List.mem_cons_of_mem _ later)
  exact each _ (List.Subset.refl _)

/-- The first result of a function comes from the first element for which there is one. -/
private theorem findSome?_eq_bind {β : Type} {given : Artifact → Option β} {has : Artifact → Bool}
    (same : ∀ a, (given a).isSome = has a) (classpath : List Artifact) :
    classpath.findSome? given = (classpath.find? has).bind given := by
  induction classpath with
  | nil => rfl
  | cons a classpath ih =>
    rw [List.findSome?_cons, List.find?_cons, ← same a, ih]
    cases result : given a <;> simp [result]

/-- The first occurrence counts. A class is found where the first artifact that has it says, and
that artifact provides it; a class that none has is not found. The two maps of the index have the
same keys in the same order, that of the first occurrences along the classpath, so an artifact whose
classes all occur before changes nothing. -/
theorem ofArtifacts_firstOccurrence (classpath : List Artifact) :
    (∀ c, (ofArtifacts classpath).location? c =
        (classpath.find? (·.classes.contains c)).bind (·.classes.get? c) ∧
      (ofArtifacts classpath).artifact? c =
        (classpath.find? (·.classes.contains c)).map Artifact.name) ∧
    (ofArtifacts classpath).locations.keys =
      (classpath.flatMap fun a => a.classes.keys).eraseDups ∧
    (ofArtifacts classpath).providers.keys =
      (classpath.flatMap fun a => a.classes.keys).eraseDups ∧
    (ofArtifacts classpath).locations.keys.Nodup ∧
    ∀ late : Artifact, (∀ c ∈ late.classes.keys, ∃ a ∈ classpath, c ∈ a.classes.keys) →
      ofArtifacts (classpath ++ [late]) = ofArtifacts classpath := by
  have order := classes_ofArtifacts classpath
  refine ⟨fun c => ⟨?_, ?_⟩, order, (ofArtifacts classpath).sameKeys.trans order,
    (ofArtifacts classpath).nodup_classes, fun late known => ?_⟩
  · rw [location?_ofArtifacts, findSome?_eq_bind fun a => a.classes.isSome_get? c]
  · have provided (a : Artifact) : ((a.classes.get? c).map fun _ => a.name).isSome =
        a.classes.contains c := by rw [Option.isSome_map, InsertionMap.isSome_get?]
    rw [artifact?_ofArtifacts, findSome?_eq_bind provided]
    cases first : classpath.find? (·.classes.contains c) with
    | none => rfl
    | some a =>
      have has : a.classes.contains c = true := by simpa using List.find?_some first
      obtain ⟨location, found⟩ :=
        Option.isSome_iff_exists.1 ((a.classes.isSome_get? c).trans has)
      simp [found]
  · rw [ofArtifacts, List.foldl_append]
    refine add_of_known fun c member => ?_
    obtain ⟨a, inside, has⟩ := known c member
    exact order ▸ List.mem_eraseDups.2 (List.mem_flatMap.2 ⟨a, inside, has⟩)

/-- Of two artifacts with one class the first provides it, and the second changes nothing. -/
theorem ofArtifacts_firstOccurrence_sample :
    ofArtifacts ([⟨"a", .ofList [(⟨"X"⟩, .directory ⟨"X"⟩ ⟨"a"⟩ "X.class")]⟩] ++
        [⟨"b", .ofList [(⟨"X"⟩, .archive ⟨"X"⟩ ⟨"b.jar"⟩ "X.class")]⟩]) =
      ofArtifacts [⟨"a", .ofList [(⟨"X"⟩, .directory ⟨"X"⟩ ⟨"a"⟩ "X.class")]⟩] ∧
    (ofArtifacts [⟨"a", .ofList [(⟨"X"⟩, .directory ⟨"X"⟩ ⟨"a"⟩ "X.class")]⟩]).artifact? ⟨"X"⟩ =
      some "a" := by
  refine ⟨(ofArtifacts_firstOccurrence _).2.2.2.2 _ (by decide), ?_⟩
  rw [((ofArtifacts_firstOccurrence _).1 ⟨"X"⟩).2]
  decide

theorem className_of_keyed {classpath : List Artifact} (keyed : ∀ a ∈ classpath, a.Keyed)
    (c : ClassName) (location : ClassLocation)
    (found : (ofArtifacts classpath).location? c = some location) : location.className = c := by
  rw [location?_ofArtifacts] at found
  obtain ⟨a, member, here⟩ := List.exists_of_findSome?_eq_some found
  exact keyed a member c location here

/-- The index of artifacts that were loaded has every location under the name of its class. -/
theorem className_of_location? {classpath : List Artifact} (loaded : ∀ a ∈ classpath, a.Loaded)
    (c : ClassName) (location : ClassLocation)
    (found : (ofArtifacts classpath).location? c = some location) : location.className = c :=
  className_of_keyed (fun a member => (loaded a member).keyed) c location found

end ClassIndex
end Linkage
