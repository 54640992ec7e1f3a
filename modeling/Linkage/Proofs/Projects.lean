import Linkage.Archive.Build
import Linkage.Project.Assembly
import Linkage.Proofs.Layering
import Linkage.Proofs.Provenance

/-!
What settings make of a project. The classpath has the JDK's modules, the entry points and the
libraries, in layers, and the policy leaves out what starts with the name of a module or of an entry
point (`Assembled`). So neither the JDK nor the entry points are blamed, and no class is missing
from the index (`conflicts_assembled`). But a library is left out as well if its name starts with
one of these names (`ignoresLibrary_iff`).
-/
namespace Linkage
namespace Project

/-- A module of the JDK, if the settings include one. -/
def OfJdk (fs : FileSystem) (env : Environment) (s : Settings) (m : Artifact) : Prop :=
  ∃ jdk modules, jdk? fs env s.classpath = .ok jdk ∧ modulesOf fs jdk = .ok modules ∧ m ∈ modules

/-- The names that are not to be blamed: those of the entry points and of the modules of the JDK. -/
def Excludes (fs : FileSystem) (env : Environment) (s : Settings) (name : String) : Prop :=
  (∃ e ∈ s.classpath.entryPoints, e.name = name) ∨ ∃ m, OfJdk fs env s m ∧ m.name = name

/-- The parts of a project: the modules of the JDK, if it is included, and what is loaded for the
entry points and for the libraries. -/
structure Assembled (fs : FileSystem) (env : Environment) (s : Settings) (p : Project)
    (modules entryPoints libraries : List Artifact) : Prop where
  ofJdk : ∃ jdk, jdk? fs env s.classpath = .ok jdk ∧ modulesOf fs jdk = .ok modules
  ofEntryPoints : List.Forall₂ (fun e a => loadEntry fs p.release e = .ok a)
    s.classpath.entryPoints entryPoints
  ofLibraries : List.Forall₂ (fun e a => loadEntry fs p.release e = .ok a)
    s.classpath.entries libraries
  classpath : p.classpath = modules ++ entryPoints ++ libraries
  starts : p.entryPoints = entryPoints.flatMap fun a => a.classes.values
  policy : p.policy = { s.policy with
    ignoredArtifacts := s.policy.ignoredArtifacts.union
      (SortedSet.ofList (modules.map Artifact.name ++ entryPoints.map Artifact.name)) }

variable {fs : FileSystem} {env : Environment} {s : Settings} {p : Project}
  {modules entryPoints libraries : List Artifact}

/-- A project that is assembled has its parts. -/
theorem assembled_of_eq_ok (assembled : assemble fs env s = .ok p) :
    ∃ modules entryPoints libraries, Assembled fs env s p modules entryPoints libraries := by
  obtain ⟨jdk, located, rest⟩ := bind_eq_ok.1 assembled
  obtain ⟨release, -, rest⟩ := bind_eq_ok.1 rest
  obtain ⟨modules, read, rest⟩ := bind_eq_ok.1 rest
  obtain ⟨entryPoints, started, rest⟩ := bind_eq_ok.1 rest
  obtain ⟨libraries, loaded, last⟩ := bind_eq_ok.1 rest
  cases last
  exact ⟨modules, entryPoints, libraries, ⟨jdk, located, read⟩, mapM_eq_ok.1 started,
    mapM_eq_ok.1 loaded, rfl, rfl, rfl⟩

theorem loaded_of_modulesOf {jdk : Option Jdk} (read : modulesOf fs jdk = .ok modules) :
    ∀ a ∈ modules, a.Loaded := by
  cases jdk with
  | none =>
    cases read
    simp
  | some jdk =>
    intro a member
    exact .ofJdk (mapError_eq_ok.1 read) member

namespace Assembled

theorem loaded_module (parts : Assembled fs env s p modules entryPoints libraries) :
    ∀ a ∈ modules, a.Loaded := by
  obtain ⟨jdk, -, read⟩ := parts.ofJdk
  exact loaded_of_modulesOf read

theorem loaded_entryPoint (parts : Assembled fs env s p modules entryPoints libraries) :
    ∀ a ∈ entryPoints, a.Loaded := by
  intro a member
  obtain ⟨e, -, here⟩ := exists_of_forall₂ parts.ofEntryPoints.flip member
  exact .ofPath (mapError_eq_ok.1 here)

theorem loaded (parts : Assembled fs env s p modules entryPoints libraries) :
    ∀ a ∈ p.classpath, a.Loaded := by
  intro a member
  rw [parts.classpath, List.mem_append, List.mem_append] at member
  rcases member with (isModule | isEntry) | isLibrary
  · exact parts.loaded_module a isModule
  · exact parts.loaded_entryPoint a isEntry
  · obtain ⟨e, -, here⟩ := exists_of_forall₂ parts.ofLibraries.flip isLibrary
    exact .ofPath (mapError_eq_ok.1 here)

/-- The classes of the entry points are in the index, be it at another place. -/
theorem entry_indexed (parts : Assembled fs env s p modules entryPoints libraries) :
    ∀ e ∈ p.entryPoints, ((ClassIndex.ofArtifacts p.classpath).location? e.className).isSome := by
  intro e member
  rw [parts.starts, List.mem_flatMap] at member
  obtain ⟨a, isEntry, inside⟩ := member
  obtain ⟨⟨c, location⟩, entered, rfl⟩ := List.mem_map.1 inside
  have found : a.classes.get? c = some location := InsertionMap.get?_of_mem_toList entered
  have keyed : location.className = c := (parts.loaded_entryPoint a isEntry).keyed c location found
  rw [ClassIndex.location?_ofArtifacts, List.findSome?_isSome_iff]
  refine ⟨a, ?_, by simp [keyed, found]⟩
  rw [parts.classpath]
  exact List.mem_append_left _ (List.mem_append_right _ isEntry)

/-- The classes that a walk can come to are in the index. -/
theorem indexed (parts : Assembled fs env s p modules entryPoints libraries) :
    ∀ c ∈ ClassGraph.known (ClassIndex.ofArtifacts p.classpath) p.entryPoints,
      ((ClassIndex.ofArtifacts p.classpath).location? c).isSome := by
  intro c member
  rcases ClassGraph.mem_known.1 member with ⟨e, isEntry, rfl⟩ | isClass | ⟨name, _, found, rfl⟩
  · exact parts.entry_indexed e isEntry
  · exact ClassIndex.mem_classes_iff.1 isClass
  · rw [ClassIndex.className_of_location? parts.loaded name _ found, found]
    rfl

theorem mem_modules_iff (parts : Assembled fs env s p modules entryPoints libraries)
    (m : Artifact) : m ∈ modules ↔ OfJdk fs env s m := by
  obtain ⟨jdk, located, read⟩ := parts.ofJdk
  constructor
  · exact fun member => ⟨jdk, modules, located, read, member⟩
  · rintro ⟨jdk', others, located', read', member⟩
    cases located.symm.trans located'
    cases read.symm.trans read'
    exact member

theorem mem_names_iff (parts : Assembled fs env s p modules entryPoints libraries) (name : String) :
    name ∈ modules.map Artifact.name ++ entryPoints.map Artifact.name ↔ Excludes fs env s name := by
  have named : ∀ e a, loadEntry fs p.release e = .ok a → a.name = e.name := fun e a loaded =>
    Artifact.name_of_load (mapError_eq_ok.1 loaded)
  simp only [List.mem_append, List.mem_map, parts.mem_modules_iff]
  constructor
  · rintro (ofJdk | ⟨a, member, rfl⟩)
    · exact .inr ofJdk
    · obtain ⟨e, isEntry, here⟩ := exists_of_forall₂ parts.ofEntryPoints.flip member
      exact .inl ⟨e, isEntry, (named e a here).symm⟩
  · rintro (⟨e, isEntry, rfl⟩ | ofJdk)
    · obtain ⟨a, member, here⟩ := exists_of_forall₂ parts.ofEntryPoints isEntry
      exact .inr ⟨a, member, named e a here⟩
    · exact .inl ofJdk

/-- The policy leaves out what the settings leave out, and whatever starts with a name that is not
to be blamed. -/
theorem ignoresArtifact_iff (parts : Assembled fs env s p modules entryPoints libraries)
    (name : String) : p.policy.ignoresArtifact name = true ↔
      s.policy.ignoresArtifact name = true ∨
        ∃ start, Excludes fs env s start ∧ start.toList <+: name.toList := by
  rw [parts.policy]
  simp only [Policy.ignoresArtifact, Policy.startsWithAny, Bool.or_eq_true, List.any_eq_true,
    SortedSet.mem_toList, SortedSet.mem_union, SortedSet.mem_ofList, Text.startsWith_iff,
    parts.mem_names_iff, or_and_right, exists_or]
  exact or_right_comm

end Assembled
end Project

theorem Jdk.discover_of_home {fs : FileSystem} {home : Path} (env : Environment)
    (isThere : fs.isDirectory (moduleDirectory home) = true) :
    discover fs env (some home) = .ok ⟨home, moduleDirectory home⟩ := by
  simp [discover, rootNear?, ofRoot, isThere]

/-! ### A project whose class the JDK has as well -/

namespace Sample

/-- A class without members. -/
def bare : ClassSource :=
  { access := 0x21, name := "A", superClass := none, interfaces := [], fields := [], methods := [] }

/-- What it declares. -/
def declaredBare : DeclaredClass :=
  { name := ⟨"A"⟩, parents := [], loaded := .empty, fields := .empty, methods := .empty }

/-- The program calls the library, and the library calls what is nowhere. The JDK has a class with
the name of the program's, which calls nothing. -/
def projectFiles : FileSystem :=
  { workingDirectory := ["w"]
    nodes := [(["w", "app"], Node.directory),
      (["w", "app", "A.class"], .file (caller "A" "B").bytes),
      (["w", "jdk"], .directory),
      (["w", "jdk", "jmods"], .directory),
      (["w", "jdk", "jmods", "java.base.jmod"],
        .file (Zip.build Zip.moduleLead [("classes/A.class", bare.bytes)])),
      (["w", "lib"], .directory),
      (["w", "lib", "B.class"], .file (caller "B" "Gone").bytes)].foldl
        (fun nodes e => nodes.insert e.1 e.2) .empty }

/-- The settings, with a name for the library. -/
def projectSettings (name : String) : Settings :=
  { Settings.standard with
    classpath :=
      { entries := [⟨name, ⟨"lib"⟩⟩], entryPoints := [⟨"app", ⟨"app"⟩⟩], includeJdk := true
        jdkHome := some ⟨"jdk"⟩, release := some 17 } }

/-- Where the JDK has the class of the program. -/
def jdkPlace : ClassLocation :=
  .platform ⟨"A"⟩ "java.base" ⟨"jdk/jmods/java.base.jmod"⟩ "classes/A.class"

/-- Where the program has it. -/
def programPlace : ClassLocation := .directory ⟨"A"⟩ ⟨"app"⟩ "A.class"

/-- Where the library has its class. -/
def libraryPlace : ClassLocation := .directory ⟨"B"⟩ ⟨"lib"⟩ "B.class"

/-- The module of the JDK. -/
def jdkModule : Artifact := ⟨"java.base", .ofList [(⟨"A"⟩, jdkPlace)]⟩

/-- The program. -/
def program : Artifact := ⟨"app", .ofList [(⟨"A"⟩, programPlace)]⟩

/-- The library. -/
def library (name : String) : Artifact := ⟨name, .ofList [(⟨"B"⟩, libraryPlace)]⟩

/-- The project that the settings describe. -/
def project (name : String) : Project :=
  { policy := { Policy.standard with ignoredArtifacts := .ofList ["java.base", "app"] }
    classpath := [jdkModule, program, library name]
    entryPoints := [programPlace]
    release := 17 }

private theorem locate_modules : projectFiles.locate ⟨"jdk/jmods"⟩ = .ok ["w", "jdk", "jmods"] :=
  FileSystem.locate_of_leads? (by decide) rfl

theorem locate_module : projectFiles.locate ⟨"jdk/jmods/java.base.jmod"⟩ =
    .ok ["w", "jdk", "jmods", "java.base.jmod"] :=
  FileSystem.locate_of_leads? (by decide) rfl

private theorem artifacts_jdk :
    (⟨⟨"jdk"⟩, ⟨"jdk/jmods"⟩⟩ : Jdk).artifacts projectFiles = .ok [jdkModule] := by
  have paths : (⟨⟨"jdk"⟩, ⟨"jdk/jmods"⟩⟩ : Jdk).modulePaths projectFiles =
      .ok [⟨"jdk/jmods/java.base.jmod"⟩] := by
    unfold Jdk.modulePaths FileSystem.list
    rw [locate_modules]
    rfl
  have loaded : Jdk.loadModule projectFiles ⟨"jdk/jmods/java.base.jmod"⟩ = .ok jdkModule := by
    unfold Jdk.loadModule FileSystem.openArchive FileSystem.find
    rw [locate_module]
    decide +kernel
  rw [Jdk.artifacts, paths]
  have each : [⟨"jdk/jmods/java.base.jmod"⟩].mapM (Jdk.loadModule projectFiles) = .ok [jdkModule] :=
    mapM_eq_ok.2 (.cons loaded .nil)
  exact bind_eq_ok.2 ⟨_, rfl, bind_eq_ok.2 ⟨_, each, rfl⟩⟩

private theorem load_program : Artifact.load projectFiles 17 "app" ⟨"app"⟩ = .ok program := by
  have located : projectFiles.locate ⟨"app"⟩ = .ok ["w", "app"] :=
    FileSystem.locate_of_leads? (by decide) rfl
  refine Artifact.load_of_directory 17 "app" located rfl ?_
  unfold Artifact.classesInDirectory FileSystem.filesBelow
  rw [located]
  rfl

theorem load_library (name : String) :
    Artifact.load projectFiles 17 name ⟨"lib"⟩ = .ok (library name) := by
  have located : projectFiles.locate ⟨"lib"⟩ = .ok ["w", "lib"] :=
    FileSystem.locate_of_leads? (by decide) rfl
  refine Artifact.load_of_directory 17 name located rfl ?_
  unfold Artifact.classesInDirectory FileSystem.filesBelow
  rw [located]
  rfl

private theorem jdk_project (name : String) :
    Project.jdk? projectFiles .empty (projectSettings name).classpath =
      .ok (some ⟨⟨"jdk"⟩, ⟨"jdk/jmods"⟩⟩) := by
  have isThere : projectFiles.isDirectory (Jdk.moduleDirectory ⟨"jdk"⟩) = true := by
    unfold FileSystem.isDirectory FileSystem.find
    rw [show Jdk.moduleDirectory ⟨"jdk"⟩ = ⟨"jdk/jmods"⟩ by decide, locate_modules]
    rfl
  exact map_eq_ok.2 ⟨_, mapError_eq_ok.2 (Jdk.discover_of_home _ isThere), by decide⟩

private theorem modules_project :
    Project.modulesOf projectFiles (some ⟨⟨"jdk"⟩, ⟨"jdk/jmods"⟩⟩) = .ok [jdkModule] :=
  mapError_eq_ok.2 artifacts_jdk

theorem assemble_project (name : String) :
    Project.assemble projectFiles .empty (projectSettings name) = .ok (project name) := by
  have entryPoints : [⟨"app", ⟨"app"⟩⟩].mapM (Project.loadEntry projectFiles 17) = .ok [program] :=
    mapM_eq_ok.2 (.cons (mapError_eq_ok.2 load_program) .nil)
  have libraries : [⟨name, ⟨"lib"⟩⟩].mapM (Project.loadEntry projectFiles 17) =
      .ok [library name] :=
    mapM_eq_ok.2 (.cons (mapError_eq_ok.2 (load_library name)) .nil)
  exact bind_eq_ok.2 ⟨_, jdk_project name, bind_eq_ok.2 ⟨17, rfl, bind_eq_ok.2
    ⟨_, modules_project, bind_eq_ok.2 ⟨_, entryPoints, bind_eq_ok.2 ⟨_, libraries, rfl⟩⟩⟩⟩⟩

/-- Only the program and the module of the JDK are not to be blamed. -/
theorem of_excludes {name excluded : String}
    (excludes : Project.Excludes projectFiles .empty (projectSettings name) excluded) :
    excluded = "app" ∨ excluded = "java.base" := by
  rcases excludes with ⟨e, isEntry, rfl⟩ | ⟨m, ⟨jdk, modules, located, read, member⟩, rfl⟩
  · exact .inl (congrArg ClasspathEntry.name (List.mem_singleton.1 isEntry))
  · cases (jdk_project name).symm.trans located
    cases modules_project.symm.trans read
    exact .inr (congrArg Artifact.name (List.mem_singleton.1 member))

private theorem load_jdkPlace : Decoder.standard.load projectFiles jdkPlace = .ok declaredBare := by
  have read : jdkPlace.read projectFiles = .ok bare.bytes := by
    unfold jdkPlace ClassLocation.read ClassLocation.readEntry FileSystem.openArchive FileSystem.find
    dsimp only
    rw [locate_module]
    decide +kernel
  exact Decoder.load_eq_ok_iff.2 ⟨_, read, by decide +kernel⟩

/-- The declarations of the class files of the project. -/
def knownProject (location : ClassLocation) : Option DeclaredClass :=
  if location = programPlace then some (declaredCaller "A" "B")
  else if location = libraryPlace then some (declaredCaller "B" "Gone")
  else if location = jdkPlace then some declaredBare
  else none

theorem load_of_knownProject (location : ClassLocation) (d : DeclaredClass)
    (isKnown : knownProject location = some d) :
    Decoder.standard.load projectFiles location = .ok d := by
  unfold knownProject at isKnown
  split at isKnown
  · rename_i here
    cases isKnown
    exact here ▸ Decoder.load_of_directory ["w", "app", "A.class"]
      (FileSystem.locate_of_leads? (by decide) rfl) rfl (by decide +kernel)
  split at isKnown
  · rename_i here
    cases isKnown
    exact here ▸ Decoder.load_of_directory ["w", "lib", "B.class"]
      (FileSystem.locate_of_leads? (by decide) rfl) rfl (by decide +kernel)
  split at isKnown
  · rename_i here
    cases isKnown
    exact here ▸ load_jdkPlace
  · cases isKnown

/-- The conflict of the library. -/
def libraryConflict : Conflict :=
  ⟨.classNotFound, [⟨"A"⟩, ⟨"B"⟩], method "B" "m", 5, .method (method "Gone" "m"), "lib", none⟩

theorem outcome_project : ∃ after, Loading.outcome (Loader.new Decoder.standard 1)
    ((project "lib").conflicts projectFiles) = (.ok [libraryConflict], after) := by
  let index := ClassIndex.ofArtifacts (project "lib").classpath
  let load := Loading.loadKnown Decoder.standard knownProject projectFiles
  let start := Loader.new Decoder.standard 1
  let next := (Loading.outcome start (load programPlace)).2
  let last := (Loading.outcome next (load libraryPlace)).2
  let g : ClassGraph := ⟨.ofList [(⟨"A"⟩, [⟨"A"⟩]), (⟨"B"⟩, [⟨"A"⟩, ⟨"B"⟩])]⟩
  have first : (Loading.outcome start (load programPlace)).1 = .ok (declaredCaller "A" "B") := rfl
  have second : (Loading.outcome next (load libraryPlace)).1 =
      .ok (declaredCaller "B" "Gone") := rfl
  have successors : ClassGraph.successors index [⟨"B"⟩, ⟨"B"⟩] [⟨"A"⟩] (declaredCaller "A" "B") =
      [(libraryPlace, [⟨"A"⟩, ⟨"B"⟩])] := rfl
  have walked :=
    calc Loading.outcome start (ClassGraph.walk load index [⟨"A"⟩, ⟨"A"⟩, ⟨"B"⟩, ⟨"A"⟩, ⟨"B"⟩]
          [(programPlace, [⟨"A"⟩])] .empty)
      _ = Loading.outcome next (ClassGraph.walk load index [⟨"B"⟩, ⟨"B"⟩]
          [(libraryPlace, [⟨"A"⟩, ⟨"B"⟩])] (.ofList [(⟨"A"⟩, [⟨"A"⟩])])) :=
        successors ▸ Reachability.outcome_walk_new (by decide) first
      _ = Loading.outcome last (ClassGraph.walk load index [] [] g.paths) :=
        Reachability.outcome_walk_new (by decide) second
      _ = _ := Reachability.outcome_walk_nil
  have known : ClassGraph.known index [programPlace] =
      [⟨"A"⟩, ⟨"A"⟩, ⟨"B"⟩, ⟨"A"⟩, ⟨"B"⟩] := rfl
  have graphed : Loading.outcome start (Check.graph (project "lib").policy index load
      (project "lib").entryPoints) = (.ok g, last) :=
    Loading.outcome_bind_eq_ok.2 ⟨_, _, known ▸ walked, rfl⟩
  have checked : (Loading.outcome last (g.classes.mapM (Check.classConflicts
      (project "lib").policy index load g))).1 = .ok [[], [libraryConflict]] := rfl
  unfold Project.conflicts
  rw [Loading.load_eq_loadKnown load_of_knownProject]
  exact ⟨_, Loading.outcome_bind_eq_ok.2 ⟨g, last, graphed, Loading.outcome_bind_eq_ok.2
    ⟨_, _, Prod.ext checked rfl, rfl⟩⟩⟩

end Sample

namespace Project

/-- Where the settings are followed: a project leaves out a library exactly if its settings do, if
the settings leave the library out anyway, or no name that is not to be blamed is a beginning of the
name of the library. -/
theorem ignoresLibrary_iff (fs : FileSystem) (env : Environment) (s : Settings) (p : Project)
    (assembled : assemble fs env s = .ok p) :
    ∀ library ∈ s.classpath.entries,
      (p.policy.ignoresArtifact library.name = s.policy.ignoresArtifact library.name ↔
        s.policy.ignoresArtifact library.name = true ∨
          ∀ name, Excludes fs env s name → ¬ name.toList <+: library.name.toList) := by
  obtain ⟨modules, entryPoints, libraries, parts⟩ := assembled_of_eq_ok assembled
  intro library _
  rw [Bool.eq_iff_iff, parts.ignoresArtifact_iff library.name, or_iff_left_iff_imp]
  by_cases own : s.policy.ignoresArtifact library.name = true <;> simp [own]

/-- A library is left out as its settings say if its name starts otherwise. -/
theorem ignoresLibrary_iff_sample :
    assemble Sample.projectFiles .empty (Sample.projectSettings "lib") =
        .ok (Sample.project "lib") ∧
      ⟨"lib", ⟨"lib"⟩⟩ ∈ (Sample.projectSettings "lib").classpath.entries ∧
      (Sample.project "lib").policy.ignoresArtifact "lib" =
        (Sample.projectSettings "lib").policy.ignoresArtifact "lib" := by
  have member : ⟨"lib", ⟨"lib"⟩⟩ ∈ (Sample.projectSettings "lib").classpath.entries := by decide
  refine ⟨Sample.assemble_project "lib", member, ?_⟩
  refine (ignoresLibrary_iff Sample.projectFiles .empty (Sample.projectSettings "lib")
    (Sample.project "lib") (Sample.assemble_project "lib") _ member).2 (.inr ?_)
  intro name excludes
  rcases Sample.of_excludes excludes with rfl | rfl <;> decide

/-- A library whose name starts with that of the program is left out, although it is not one of the
names that are not to be blamed and the settings leave nothing out. -/
theorem ignores_appLib :
    (Sample.projectSettings "app-lib").validate = .ok () ∧
      assemble Sample.projectFiles .empty (Sample.projectSettings "app-lib") =
        .ok (Sample.project "app-lib") ∧
      ⟨"app-lib", ⟨"lib"⟩⟩ ∈ (Sample.projectSettings "app-lib").classpath.entries ∧
      Artifact.load Sample.projectFiles (Sample.project "app-lib").release "app-lib" ⟨"lib"⟩ =
        .ok (Sample.library "app-lib") ∧
      ¬ Excludes Sample.projectFiles .empty (Sample.projectSettings "app-lib") "app-lib" ∧
      (Sample.project "app-lib").policy.ignoresArtifact (Sample.library "app-lib").name = true ∧
      (Sample.projectSettings "app-lib").policy.ignoresArtifact
        (Sample.library "app-lib").name = false := by
  refine ⟨rfl, Sample.assemble_project "app-lib", by decide, Sample.load_library "app-lib", ?_, rfl,
    rfl⟩
  intro excludes
  exact absurd (Sample.of_excludes excludes) (by decide)

/-- Whatever a loader has kept, a project that was assembled is checked against an index that has
all its classes, and a conflict is blamed neither on an entry point nor on a module of the JDK. -/
theorem conflicts_assembled (fs : FileSystem) (env : Environment) (s : Settings) (p : Project)
    (assembled : assemble fs env s = .ok p) (files : FileSystem) (l : Loader) :
    (∀ name, (Loading.outcome l (p.conflicts files)).1 ≠ .error (.inconsistentIndex name)) ∧
      ∀ cs, (Loading.outcome l (p.conflicts files)).1 = .ok cs →
        ∀ c ∈ cs, ¬ Excludes fs env s c.usedBy := by
  obtain ⟨modules, entryPoints, libraries, parts⟩ := assembled_of_eq_ok assembled
  obtain ⟨given, failed⟩ := (Provenance.rules_of_ensures files).conflicts parts.indexed l
  constructor
  · intro name missing
    obtain ⟨location, cause, same⟩ := failed _ missing
    cases same
  · intro cs checked c member excluded
    obtain ⟨g, name, origin⟩ := given cs checked c member
    -- a name is a beginning of itself, so what is not to be blamed is left out
    have ignored : p.policy.ignoresArtifact c.usedBy = true :=
      (parts.ignoresArtifact_iff c.usedBy).2 (.inr ⟨c.usedBy, excluded, List.prefix_refl _⟩)
    rw [origin.reported] at ignored
    cases ignored

/-- The one conflict of a project is blamed on the library, and not on the program or the JDK. -/
theorem conflicts_assembled_sample :
    assemble Sample.projectFiles .empty (Sample.projectSettings "lib") =
        .ok (Sample.project "lib") ∧
      (∃ after, Loading.outcome (Loader.new Decoder.standard 1)
        ((Sample.project "lib").conflicts Sample.projectFiles) =
          (.ok [Sample.libraryConflict], after)) ∧
      ¬ Excludes Sample.projectFiles .empty (Sample.projectSettings "lib")
        Sample.libraryConflict.usedBy := by
  obtain ⟨after, found⟩ := Sample.outcome_project
  have blamed := (conflicts_assembled Sample.projectFiles .empty (Sample.projectSettings "lib")
    (Sample.project "lib") (Sample.assemble_project "lib") Sample.projectFiles
    (Loader.new Decoder.standard 1)).2 _ (congrArg Prod.fst found) _ List.mem_cons_self
  exact ⟨Sample.assemble_project "lib", ⟨after, found⟩, blamed⟩

end Project
end Linkage
