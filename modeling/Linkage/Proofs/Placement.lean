import Linkage.Classpath.Artifact
import Linkage.Proofs.Loading
import Linkage.Proofs.Releases

/-!
Where class files may lie. An archive or a directory is loaded unless one of its class files has a
name that no class has, or a path that begins with `META-INF/versions` (`loads_iff_wellPlaced`).
Such a path need not lie among the versioned entries of an archive: the neighbours of these and the
files of a directory are refused as well (`neighbours_refused`).
-/
namespace Linkage

/-- What stands before `.class` in the path of a class file can be the name of a class. -/
def WellNamed (stem : List Char) : Prop := stem ≠ [] ∧ ¬ [';'] <:+ stem

instance (stem : List Char) : Decidable (WellNamed stem) := inferInstanceAs (Decidable (_ ∧ _))

/-- The path of a class file lies where it can be loaded from. -/
def WellPlaced (path : List Char) : Prop := ¬ "META-INF/versions".toList <+: path

instance (path : List Char) : Decidable (WellPlaced path) := inferInstanceAs (Decidable (¬ _))

theorem ClassName.exists_ofFileName_iff {path : String} {stem : List Char}
    (file : path.toList = stem ++ ".class".toList) :
    (∃ c, ofFileName path = .ok c) ↔ WellNamed stem ∧ WellPlaced path.toList := by
  constructor
  · rintro ⟨c, named⟩
    obtain ⟨⟨placed, wellNamed⟩, -⟩ := (ofFileName_eq_ok_iff file).1 named
    exact ⟨wellNamed, placed⟩
  · rintro ⟨wellNamed, placed⟩
    exact ⟨_, (ofFileName_eq_ok_iff file).2 ⟨⟨placed, wellNamed⟩, rfl⟩⟩

/-- A path that is accepted denotes the class that it names. -/
theorem ClassName.ofFileName_iff_names {path : String} {stem : List Char} {c : ClassName}
    (file : path.toList = stem ++ ".class".toList)
    (accepted : WellNamed stem ∧ WellPlaced path.toList) :
    ofFileName path = .ok c ↔ MultiRelease.Names path.toList c := by
  rw [ofFileName_eq_ok_iff file]
  constructor
  · rintro ⟨-, same⟩
    exact ⟨stem, file, same⟩
  · rintro ⟨stem', whole, same⟩
    obtain rfl : stem = stem' := List.append_cancel_right (file.symm.trans whole)
    exact ⟨⟨accepted.2, accepted.1⟩, same⟩

/-! ### Archives -/

namespace MultiRelease

/-- Entries are refused for the paths of class files alone. -/
theorem exists_select_iff {release : Nat} {entries : List String} :
    (∃ m, select release entries = .ok m) ↔ ∀ entry ∈ entries, ¬ IsPseudo entry.toList →
      ∀ n stem, Targets entry n (stem ++ ".class".toList) →
        WellNamed stem ∧ WellPlaced (stem ++ ".class".toList) := by
  have read_iff : (∃ m, select release entries = .ok m) ↔
      ∃ read, classEntries entries = .ok read := by
    constructor
    · rintro ⟨m, selected⟩
      obtain ⟨read, accepted, -⟩ := bind_eq_ok.1 selected
      exact ⟨read, accepted⟩
    · rintro ⟨read, accepted⟩
      exact ⟨_, bind_eq_ok.2 ⟨read, accepted, rfl⟩⟩
  rw [read_iff, exists_classEntries_iff]
  constructor
  · intro each entry member proper n stem targets
    obtain ⟨path, file⟩ : ∃ path : String, path.toList = stem ++ ".class".toList :=
      ⟨String.ofList _, String.toList_ofList⟩
    have classified : classify? entry = some (n, path) :=
      classify?_eq_some_iff.2 ⟨proper, file ▸ targets, file ▸ List.suffix_append _ _⟩
    exact file ▸ (ClassName.exists_ofFileName_iff file).1 (each entry member n path classified)
  · intro each entry member n path classified
    obtain ⟨proper, targets, stem, file⟩ := classify?_eq_some_iff.1 classified
    refine (ClassName.exists_ofFileName_iff file.symm).2 ?_
    exact file ▸ each entry member proper n stem (file ▸ targets)

/-- An entry that stands for no class file makes no difference. -/
theorem select_skip {release : Nat} {before after : List String} {entry : String}
    (silent : ∀ n path, ¬ Targets entry n path) :
    select release (before ++ entry :: after) = select release (before ++ after) := by
  have none : classify? entry = none := by
    refine Option.eq_none_iff_forall_ne_some.2 fun x classified => ?_
    exact silent _ _ (classify?_eq_some_iff.1 classified).2.1
  unfold select classEntries
  simp [List.filterMap_append, none]

theorem exists_get?_select {release : Nat} {entries : List String} {m : SortedMap ClassName String}
    (selected : select release entries = .ok m) {entry : String} (member : entry ∈ entries)
    (proper : ¬ IsPseudo entry.toList) (outside : ¬ versions <+: entry.toList) {c : ClassName}
    (named : Names entry.toList c) :
    ∃ chosen, m.get? c = some chosen ∧ Counts release entries c chosen := by
  -- it is meant for every release, so some entry counts
  have key : c ∈ m.keys := (mem_keys_select_iff selected).2
    ⟨entry, member, 0, Nat.zero_le _, proper, _, .always outside, named⟩
  obtain ⟨chosen, found⟩ := SortedMap.mem_keys_iff.1 key
  exact ⟨chosen, found, (get?_select_eq_some_iff selected).1 found⟩

end MultiRelease

/-! ### Directories -/

namespace Artifact
open MultiRelease

/-- A class file below a directory that declares a class, by its path from there: a file whose name
has the extension `class`. -/
def ClassFileBelow (fs : FileSystem) (place : List String) (relative : String) : Prop :=
  ∃ names name base bytes, fs.nodes.get? (place ++ (names ++ [name])) = some (.file bytes) ∧
    name.toList = base ++ ".class".toList ∧ base ≠ [] ∧
    relative = Text.join "/" (names ++ [name]) ∧ ¬ IsPseudo relative.toList

theorem suffix_join (names : List String) (name : String) :
    name.toList <:+ (Text.join "/" (names ++ [name])).toList := by
  cases names with
  | nil => simp [Text.join]
  | cons first names =>
    rw [Text.join, String.intercalate_append_of_ne_nil (by simp) (by simp),
      String.intercalate_singleton, String.toList_append]
    exact List.suffix_append _ _

theorem ClassFileBelow.exists_stem {fs : FileSystem} {place : List String} {relative : String}
    (file : ClassFileBelow fs place relative) :
    ∃ stem, relative.toList = stem ++ ".class".toList := by
  obtain ⟨names, name, base, -, -, extension, -, rfl, -⟩ := file
  obtain ⟨front, whole⟩ := suffix_join names name
  exact ⟨front ++ base, by rw [← whole, extension, List.append_assoc]⟩

theorem classFile?_eq_some_iff {names : List String} {relative : String} :
    classFile? names = some relative ↔ ∃ front name base, names = front ++ [name] ∧
      name.toList = base ++ ".class".toList ∧ base ≠ [] ∧ relative = Text.join "/" names ∧
      ¬ IsPseudo relative.toList := by
  have extension_iff (name : String) : ((Path.splitExtension name).2 == some "class") = true ↔
      ∃ base, base ≠ [] ∧ name.toList = base ++ ".class".toList := by
    rw [beq_iff_eq, Path.splitExtension_eq_some_iff (by decide) (by decide)]
    rfl
  constructor
  · intro read
    obtain ⟨name, last, rest⟩ := Option.bind_eq_some_iff.1 read
    obtain ⟨front, rfl⟩ := List.getLast?_eq_some_iff.1 last
    obtain ⟨isClass, rest⟩ := Text.guard_bind_eq_some_iff.1 rest
    obtain ⟨proper, same⟩ := Text.guard_bind_eq_some_iff.1 rest
    cases same
    obtain ⟨base, nonempty, extension⟩ := (extension_iff name).1 isClass
    exact ⟨front, name, base, rfl, extension, nonempty, rfl, not_isPseudoClass_iff.1 proper⟩
  · rintro ⟨front, name, base, rfl, extension, nonempty, rfl, proper⟩
    refine Option.bind_eq_some_iff.2 ⟨name, List.getLast?_eq_some_iff.2 ⟨front, rfl⟩, ?_⟩
    refine Text.guard_bind_eq_some_iff.2 ⟨(extension_iff name).2 ⟨base, nonempty, extension⟩, ?_⟩
    exact Text.guard_bind_eq_some_iff.2 ⟨not_isPseudoClass_iff.2 proper, rfl⟩

section
variable {fs : FileSystem} {root : Path} {place : List String}

theorem exists_filesBelow (located : fs.locate root = .ok place) :
    ∃ files, fs.filesBelow root = .ok files ∧ ∀ names, names ∈ files ↔
      ∃ bytes, fs.nodes.get? (place ++ names) = some (.file bytes) := by
  refine ⟨_, bind_eq_ok.2 ⟨place, located, rfl⟩, fun names => ?_⟩
  simp only [List.mem_filterMap, List.mem_filter, SortedMap.get?_eq_some_iff]
  constructor
  · rintro ⟨⟨key, node⟩, ⟨entered, isFile⟩, below⟩
    split at below
    · rename_i inside
      obtain ⟨rest, rfl⟩ := List.isPrefixOf_iff_prefix.1 inside
      cases node with
      | file bytes =>
        rw [List.drop_left, Option.some.injEq] at below
        exact ⟨bytes, below ▸ entered⟩
      | directory => cases isFile
      | link target => cases isFile
    · cases below
  · rintro ⟨bytes, entered⟩
    refine ⟨_, ⟨entered, rfl⟩, ?_⟩
    rw [if_pos (List.isPrefixOf_iff_prefix.2 (List.prefix_append _ _)), List.drop_left]

theorem exists_classFiles (located : fs.locate root = .ok place) :
    ∃ paths : List String, (∀ relative, relative ∈ paths ↔ ClassFileBelow fs place relative) ∧
      ∀ classes, classesInDirectory fs root = .ok classes ↔
        ∃ entries, paths.mapM (classInDirectory root) = .ok entries ∧
          classes = InsertionMap.ofList entries := by
  obtain ⟨files, listed, mem_iff⟩ := exists_filesBelow located
  refine ⟨files.filterMap classFile?, fun relative => ?_, fun classes => ?_⟩
  · simp only [List.mem_filterMap, classFile?_eq_some_iff, mem_iff]
    constructor
    · rintro ⟨_, ⟨bytes, entered⟩, front, name, base, rfl, rest⟩
      exact ⟨front, name, base, bytes, entered, rest⟩
    · rintro ⟨front, name, base, bytes, entered, rest⟩
      exact ⟨_, ⟨bytes, entered⟩, front, name, base, rfl, rest⟩
  · unfold classesInDirectory
    rw [listed]
    constructor
    · intro read
      obtain ⟨_, ⟨⟩, rest⟩ := bind_eq_ok.1 read
      obtain ⟨entries, named, last⟩ := bind_eq_ok.1 rest
      exact ⟨entries, named, (Except.ok.inj last).symm⟩
    · rintro ⟨entries, named, rfl⟩
      exact bind_eq_ok.2 ⟨files, rfl, bind_eq_ok.2 ⟨entries, named, rfl⟩⟩

theorem classInDirectory_eq_ok_iff {relative : String} {e : ClassName × ClassLocation} :
    classInDirectory root relative = .ok e ↔
      ClassName.ofFileName relative = .ok e.1 ∧ e.2 = .directory e.1 root relative := by
  unfold classInDirectory
  cases ClassName.ofFileName relative with
  | error cause => exact iff_of_false (fun same => nomatch same) fun same => nomatch same.1
  | ok name =>
    simp only [ClasspathError.ofSymbol, bind, Except.bind, pure, Except.pure, Except.ok.injEq,
      Prod.ext_iff]
    constructor
    · rintro ⟨rfl, same⟩
      exact ⟨rfl, same.symm⟩
    · rintro ⟨rfl, same⟩
      exact ⟨rfl, same.symm⟩

theorem exists_classesInDirectory_iff (located : fs.locate root = .ok place) :
    (∃ classes, classesInDirectory fs root = .ok classes) ↔
      ∀ relative, ClassFileBelow fs place relative → ∀ stem,
        relative.toList = stem ++ ".class".toList →
          WellNamed stem ∧ WellPlaced relative.toList := by
  obtain ⟨paths, mem_iff, read_iff⟩ := exists_classFiles located
  simp only [read_iff]
  constructor
  · rintro ⟨_, entries, named, rfl⟩ relative file stem whole
    obtain ⟨e, entered⟩ := exists_of_mapM_eq_ok named ((mem_iff relative).2 file)
    exact (ClassName.exists_ofFileName_iff whole).1 ⟨_, (classInDirectory_eq_ok_iff.1 entered).1⟩
  · intro each
    have accepted : ∀ relative ∈ paths, ∃ e, classInDirectory root relative = .ok e := by
      intro relative listed
      have file := (mem_iff relative).1 listed
      obtain ⟨stem, whole⟩ := file.exists_stem
      obtain ⟨c, named⟩ := (ClassName.exists_ofFileName_iff whole).2 (each relative file stem whole)
      exact ⟨(c, .directory c root relative), classInDirectory_eq_ok_iff.2 ⟨named, rfl⟩⟩
    obtain ⟨entries, named⟩ := exists_mapM_eq_ok accepted
    exact ⟨_, entries, named, rfl⟩

/-- A directory has the classes that the paths of its class files name, each where such a file
lies. -/
theorem get?_classesInDirectory {classes : InsertionMap ClassName ClassLocation}
    (located : fs.locate root = .ok place) (read : classesInDirectory fs root = .ok classes) :
    (∀ c, c ∈ classes.keys ↔ ∃ relative, ClassFileBelow fs place relative ∧
      Names relative.toList c) ∧
    ∀ c location, classes.get? c = some location → ∃ relative, ClassFileBelow fs place relative ∧
      Names relative.toList c ∧ location = .directory c root relative := by
  have sound := (exists_classesInDirectory_iff located).1 ⟨classes, read⟩
  obtain ⟨paths, mem_iff, read_iff⟩ := exists_classFiles located
  obtain ⟨entries, named, rfl⟩ := (read_iff classes).1 read
  -- no class file is refused, so what a path denotes is what it names
  have entered_iff (c : ClassName) (location : ClassLocation) : (c, location) ∈ entries ↔
      ∃ relative, ClassFileBelow fs place relative ∧ Names relative.toList c ∧
        location = .directory c root relative := by
    simp only [mem_iff_of_mapM_eq_ok named, mem_iff, classInDirectory_eq_ok_iff]
    refine exists_congr fun relative => and_congr_right fun file => and_congr_left fun _ => ?_
    obtain ⟨stem, whole⟩ := file.exists_stem
    exact ClassName.ofFileName_iff_names whole (sound relative file stem whole)
  refine ⟨fun c => ?_, fun c location found => ?_⟩
  · rw [InsertionMap.mem_keys_ofList, List.mem_map]
    constructor
    · rintro ⟨⟨c, location⟩, entered, rfl⟩
      obtain ⟨relative, file, names, -⟩ := (entered_iff c location).1 entered
      exact ⟨relative, file, names⟩
    · rintro ⟨relative, file, names⟩
      exact ⟨_, (entered_iff c _).2 ⟨relative, file, names, rfl⟩, rfl⟩
  · exact (entered_iff c location).1 (InsertionMap.mem_of_get?_ofList found)

end

/-- Artifacts are refused for the names of their class files and for paths that begin with
`META-INF/versions`, and for nothing else. In an archive, a class file outside the directory of the
versioned entries always has its class selected, and an entry that stands for no class file makes no
difference; a directory has the classes that the paths of its class files name. -/
theorem loads_iff_wellPlaced (release : Nat) (entries : List String) (fs : FileSystem) (root : Path)
    (place : List String) (located : fs.locate root = .ok place) :
    ((∃ m, select release entries = .ok m) ↔ ∀ entry ∈ entries, ¬ IsPseudo entry.toList →
      ∀ n stem, Targets entry n (stem ++ ".class".toList) →
        WellNamed stem ∧ WellPlaced (stem ++ ".class".toList)) ∧
    (∀ m, select release entries = .ok m → ∀ entry ∈ entries, ¬ IsPseudo entry.toList →
      ¬ versions <+: entry.toList → ∀ c, Names entry.toList c →
        ∃ chosen, m.get? c = some chosen ∧ Counts release entries c chosen) ∧
    (∀ before entry after, entries = before ++ entry :: after →
      (∀ n path, ¬ Targets entry n path) →
        select release entries = select release (before ++ after)) ∧
    ((∃ classes, classesInDirectory fs root = .ok classes) ↔
      ∀ relative, ClassFileBelow fs place relative → ∀ stem,
        relative.toList = stem ++ ".class".toList → WellNamed stem ∧ WellPlaced relative.toList) ∧
    ∀ classes, classesInDirectory fs root = .ok classes →
      (∀ c, c ∈ classes.keys ↔
        ∃ relative, ClassFileBelow fs place relative ∧ Names relative.toList c) ∧
      ∀ c location, classes.get? c = some location → ∃ relative,
        ClassFileBelow fs place relative ∧ Names relative.toList c ∧
          location = .directory c root relative := by
  refine ⟨exists_select_iff, ?_, ?_, exists_classesInDirectory_iff located, ?_⟩
  · intro m selected entry member proper outside c named
    exact exists_get?_select selected member proper outside named
  · rintro before entry after rfl silent
    exact select_skip silent
  · intro classes read
    exact get?_classesInDirectory located read

private theorem wellNamed_of_path {stem path : List Char} (name : List Char)
    (whole : path = stem ++ ".class".toList) (same : path = name ++ ".class".toList)
    (wellNamed : WellNamed name) : WellNamed stem := by
  rwa [List.append_cancel_right (whole.symm.trans same)]

private theorem path_of_targets {entry : String} {n : Nat} {path : List Char}
    (outside : ¬ versions <+: entry.toList) (targets : Targets entry n path) :
    path = entry.toList := by
  cases targets with
  | versioned inside _ => exact absurd ⟨_, inside.symm⟩ outside
  | always => rfl

/-- A stray class file is loaded from an archive, and a class from the working directory. -/
theorem loads_iff_wellPlaced_sample : (∃ m, select 17 ["META-INF/Stray.class"] = .ok m) ∧
    ∃ classes, classesInDirectory Sample.files ⟨"."⟩ = .ok classes ∧
      ∃ relative, ClassFileBelow Sample.files ["w"] relative ∧ Names relative.toList ⟨"A"⟩ := by
  have located : Sample.files.locate ⟨"."⟩ = .ok ["w"] :=
    FileSystem.locate_of_leads? (by decide) rfl
  have read : classesInDirectory Sample.files ⟨"."⟩ =
      .ok (.ofList [(⟨"A"⟩, Sample.place "A"), (⟨"B"⟩, Sample.place "B")]) := by
    unfold classesInDirectory FileSystem.filesBelow
    rw [located]
    rfl
  obtain ⟨selects_iff, -, -, -, contents⟩ :=
    loads_iff_wellPlaced 17 ["META-INF/Stray.class"] Sample.files ⟨"."⟩ ["w"] located
  refine ⟨selects_iff.2 ?_, _, read, ((contents _ read).1 ⟨"A"⟩).1 (by decide)⟩
  intro entry member _ n stem targets
  rw [List.mem_singleton.1 member] at targets
  have whole := path_of_targets (by decide) targets
  refine ⟨wellNamed_of_path "META-INF/Stray".toList whole.symm (by decide) (by decide), ?_⟩
  rw [whole]
  decide

/-- A directory with a class file where an archive has its versioned entries. -/
def exploded : FileSystem :=
  { workingDirectory := ["w"]
    nodes := (((SortedMap.empty.insert ["w", "META-INF"] .directory).insert
      ["w", "META-INF", "versions"] .directory).insert
      ["w", "META-INF", "versions", "9"] .directory).insert
      ["w", "META-INF", "versions", "9", "Foo.class"] (.file []) }

private theorem eq_of_classFileBelow {relative : String}
    (file : ClassFileBelow exploded ["w"] relative) :
    relative = "META-INF/versions/9/Foo.class" := by
  obtain ⟨names, name, base, bytes, found, -, -, rfl, -⟩ := file
  have entered := SortedMap.get?_eq_some_iff.1 found
  have entries : exploded.nodes.toList = [(["w", "META-INF"], .directory),
      (["w", "META-INF", "versions"], .directory),
      (["w", "META-INF", "versions", "9"], .directory),
      (["w", "META-INF", "versions", "9", "Foo.class"], .file [])] := by decide
  rw [entries] at entered
  have same : names ++ [name] = ["META-INF", "versions", "9", "Foo.class"] ∧ bytes = [] := by
    simpa using entered
  rw [same.1]
  decide

/-- Well-named class files are refused because of where they lie: one next to the directory of the
versioned entries of an archive, and one in a directory of that name. -/
theorem neighbours_refused :
    ((∀ n stem, Targets "META-INF/versionsX/Foo.class" n (stem ++ ".class".toList) →
        WellNamed stem) ∧
      select 17 ["META-INF/versionsX/Foo.class"] =
        .error (.malformedClassName "META-INF/versionsX/Foo.class")) ∧
    exploded.locate ⟨"."⟩ = .ok ["w"] ∧
      (∀ relative, ClassFileBelow exploded ["w"] relative → ∀ stem,
        relative.toList = stem ++ ".class".toList → WellNamed stem) ∧
      classesInDirectory exploded ⟨"."⟩ =
        .error (.symbol (.malformedClassName "META-INF/versions/9/Foo.class")) := by
  have located : exploded.locate ⟨"."⟩ = .ok ["w"] :=
    FileSystem.locate_of_leads? (by decide) rfl
  refine ⟨⟨fun n stem targets => ?_, by decide⟩, located,
    fun relative file stem whole => ?_, ?_⟩
  · exact wellNamed_of_path "META-INF/versionsX/Foo".toList
      (path_of_targets (by decide) targets).symm (by decide) (by decide)
  · rw [eq_of_classFileBelow file] at whole
    exact wellNamed_of_path "META-INF/versions/9/Foo".toList whole (by decide) (by decide)
  · unfold classesInDirectory FileSystem.filesBelow
    rw [located]
    rfl

end Artifact
end Linkage
