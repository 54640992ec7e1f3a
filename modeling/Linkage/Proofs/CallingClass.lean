import Linkage.Proofs.Layering
import Linkage.Proofs.OutputFilter
import Linkage.Proofs.Provenance

/-!
The path of a conflict and its calling class. The path ends at the name that the calling class is
indexed under, and conflicts whose paths end alike have one path. The calling class is named as its
class file declares it, so the path ends at the calling class exactly where the class file declares
the name that it is indexed under (`paths_of_conflicts`). A class file under another name makes a
conflict whose path ends at a class that does not call (`conflicts_misplaced`).
-/
namespace Linkage

namespace Decoder
variable {decoder : Decoder} {file : ClassFile}

theorem owner_of_declareMethod {owner : ClassName} {m : ClassMember}
    {r : DeclaredMethod × List ClassName}
    (run : decoder.declareMethod file owner m = .ok r) : r.1.reference.owner = owner := by
  obtain ⟨descriptor, -, rest⟩ := bind_eq_ok.1 run
  dsimp only at rest
  split at rest
  · obtain ⟨uses, -, last⟩ := bind_eq_ok.1 rest
    cases last
    rfl
  · cases rest
    rfl

theorem owner_of_declareMethods {owner : ClassName} {ms : List ClassMember}
    {methods after : SortedMap MethodDescriptor DeclaredMethod} {loaded last : SortedSet ClassName}
    (owned : ∀ m ∈ methods.values, m.reference.owner = owner)
    (run : decoder.declareMethods file owner methods loaded ms = .ok (after, last)) :
    ∀ m ∈ after.values, m.reference.owner = owner := by
  induction ms generalizing methods loaded with
  | nil =>
    cases run
    exact owned
  | cons first ms ih =>
    obtain ⟨r, declared, rest⟩ := bind_eq_ok.1 run
    dsimp only at rest
    split at rest
    · cases rest
    · refine ih ?_ rest
      intro m member
      obtain ⟨e, inside, rfl⟩ := List.mem_map.1 member
      rcases SortedMap.mem_toList_insert inside with rfl | old
      · exact owner_of_declareMethod declared
      · exact owned _ (List.mem_map_of_mem old)

/-- A class file declares methods of the class that it declares. -/
theorem owner_of_decode {bytes : Bytes} {d : DeclaredClass} (run : decoder.decode bytes = .ok d) :
    ∀ m ∈ d.methods.values, m.reference.owner = d.name := by
  obtain ⟨file, -, declared⟩ := bind_eq_ok.1 run
  obtain ⟨name, -, rest⟩ := bind_eq_ok.1 declared
  obtain ⟨parents, -, rest⟩ := bind_eq_ok.1 rest
  obtain ⟨fields, -, rest⟩ := bind_eq_ok.1 rest
  obtain ⟨⟨methods, loaded⟩, each, last⟩ := bind_eq_ok.1 rest
  cases last
  exact owner_of_declareMethods (by simp [SortedMap.values, SortedMap.empty]) each

theorem Declares.owner {fs : FileSystem} {location : ClassLocation} {d : DeclaredClass}
    (declares : decoder.Declares fs location d) :
    ∀ m ∈ d.methods.values, m.reference.owner = d.name := by
  obtain ⟨spelled, -, loaded⟩ := declares
  obtain ⟨bytes, -, decoded⟩ := load_eq_ok_iff.1 loaded
  exact owner_of_decode decoded

end Decoder

namespace CallingClass
open ConflictReport

/-- The calling class of a conflict: the path ends where the index has the class, and the conflict
names the class as its file declares it. -/
def CalledFrom (index : ClassIndex) (declares : ClassLocation → DeclaredClass → Prop)
    (c : Conflict) : Prop :=
  ∃ a d, c.path.getLast? = some a ∧ Canonical index declares a d ∧ c.fromClass = d.name

/-- The class files that the paths of some conflicts end at declare the names they are indexed
under. -/
def NamedAsIndexed (index : ClassIndex) (declares : ClassLocation → DeclaredClass → Prop)
    (cs : List Conflict) : Prop :=
  ∀ c ∈ cs, ∀ a d, c.path.getLast? = some a → Canonical index declares a d → d.name = a

variable {fs : FileSystem} {decoder : Decoder} {policy : Policy} {classpath : List Artifact}

/-- Every conflict is one of a class of the graph, and its path ends there. -/
private theorem exists_class {capacity : Nat} {history entryPoints : List ClassLocation}
    {cs : List Conflict} {after : Loader} (loaded : ∀ a ∈ classpath, a.Loaded)
    (checked : Loading.outcome ((Loader.new decoder capacity).after fs history)
      (Check.conflicts policy (Loading.load fs) classpath entryPoints) = (.ok cs, after)) :
    ∃ g : ClassGraph, ∀ c ∈ cs, ∃ a, c.path = g.path a ∧ c.path.getLast? = some a ∧
      ∃ d, Canonical (ClassIndex.ofArtifacts classpath) (decoder.Declares fs) a d ∧
        c.fromClass = d.name := by
  obtain ⟨g, -, parts, -, built, run, rfl⟩ := of_outcome_conflicts checked
  refine ⟨g, fun c member => ?_⟩
  obtain ⟨a, isReached, part, here, inside⟩ := (mem_flatten_of_mapM_eq_ok run).1 member
  have origin := (Provenance.rules_of_eq_ok (decoder.declaration fs)).classConflicts policy g
    (.inr trivial) part here c inside
  obtain ⟨d, ⟨location, found, answered⟩, m, declared, caller⟩ := origin.caller
  have declares := Decoder.declaration_eq_ok_iff.1 answered
  have ends := OutputFilter.getLast?_path
    (fun _ => ClassIndex.className_of_location? loaded) built isReached
  refine ⟨a, origin.path, origin.path ▸ ends, d, ⟨location, found, declares⟩, ?_⟩
  rw [Conflict.fromClass, ← caller, declares.owner m declared]

/-- The path of a conflict ends at the name that its calling class is indexed under, and it is the
same for all conflicts whose paths end there. It ends at the calling class exactly if the class file
declares the name that it is indexed under; if all do, one calling class has one path. -/
theorem paths_of_conflicts (fs : FileSystem) (decoder : Decoder) (capacity : Nat)
    (history : List ClassLocation) (policy : Policy) (classpath : List Artifact)
    (entryPoints : List ClassLocation) (cs : List Conflict) (after : Loader)
    (loaded : ∀ a ∈ classpath, a.Loaded)
    (checked : Loading.outcome ((Loader.new decoder capacity).after fs history)
      (Check.conflicts policy (Loading.load fs) classpath entryPoints) = (.ok cs, after)) :
    (∀ c ∈ cs, CalledFrom (ClassIndex.ofArtifacts classpath) (decoder.Declares fs) c) ∧
      (∀ c ∈ cs, ∀ d ∈ cs, c.path.getLast? = d.path.getLast? → c.path = d.path) ∧
      ((∀ c ∈ cs, c.path.getLast? = some c.fromClass) ↔
        NamedAsIndexed (ClassIndex.ofArtifacts classpath) (decoder.Declares fs) cs) ∧
      (NamedAsIndexed (ClassIndex.ofArtifacts classpath) (decoder.Declares fs) cs →
        ∀ c ∈ cs, ∀ d ∈ cs, c.fromClass = d.fromClass → c.path = d.path) := by
  obtain ⟨g, classes⟩ := exists_class loaded checked
  have samePath : ∀ c ∈ cs, ∀ d ∈ cs, c.path.getLast? = d.path.getLast? → c.path = d.path := by
    intro c first d second same
    obtain ⟨a, path, ends, -⟩ := classes c first
    obtain ⟨b, path', ends', -⟩ := classes d second
    rw [ends, ends', Option.some.injEq] at same
    rw [path, path', same]
  have named_iff : (∀ c ∈ cs, c.path.getLast? = some c.fromClass) ↔
      NamedAsIndexed (ClassIndex.ofArtifacts classpath) (decoder.Declares fs) cs := by
    constructor
    · intro own c member a d ends canonical
      obtain ⟨b, -, ends', e, canonical', name⟩ := classes c member
      cases ends.symm.trans ends'
      rw [canonical.unique canonical', ← name]
      exact Option.some.inj ((own c member).symm.trans ends')
    · intro named c member
      obtain ⟨a, -, ends, d, canonical, name⟩ := classes c member
      rw [ends, name, named c member a d ends canonical]
  refine ⟨fun c member => ?_, samePath, named_iff, fun named c first d second same => ?_⟩
  · obtain ⟨a, -, ends, d, canonical, name⟩ := classes c member
    exact ⟨a, d, ends, canonical, name⟩
  · have own := named_iff.2 named
    exact samePath c first d second (by rw [own c first, own d second, same])

/-! ### Class files of the working directory -/

/-- Loads the class files of the working directory. -/
private theorem load_workingDirectory {fs : FileSystem}
    {classes : InsertionMap ClassName ClassLocation} (located : fs.locate ⟨"."⟩ = .ok ["w"])
    (home : fs.workingDirectory = ["w"])
    (read : Artifact.classesInDirectory fs ⟨"."⟩ = .ok classes) :
    Artifact.Loaded ⟨"app", classes⟩ := by
  have isThere : fs.node? ["w"] = some .directory := by
    simp [FileSystem.node?, home]
  exact .ofPath (Artifact.load_of_directory Artifact.defaultRelease "app" located isThere read)

/-- Of two classes, one calls a method that nobody declares, and the path ends there. -/
theorem paths_of_conflicts_sample : (∀ a ∈ Sample.classpath, a.Loaded) ∧
    ∃ cs after, Loading.outcome (Loader.new Decoder.standard 1)
        (Check.conflicts { Policy.standard with complete := true } (Loading.load Sample.files)
          Sample.classpath []) = (.ok cs, after) ∧ cs.length = 1 ∧
      (∀ c ∈ cs, CalledFrom (ClassIndex.ofArtifacts Sample.classpath)
        (Decoder.standard.Declares Sample.files) c) ∧
      NamedAsIndexed (ClassIndex.ofArtifacts Sample.classpath)
        (Decoder.standard.Declares Sample.files) cs := by
  have located : Sample.files.locate ⟨"."⟩ = .ok ["w"] :=
    FileSystem.locate_of_leads? (by decide) rfl
  have read : Artifact.classesInDirectory Sample.files ⟨"."⟩ =
      .ok (.ofList [(⟨"A"⟩, Sample.place "A"), (⟨"B"⟩, Sample.place "B")]) := by
    unfold Artifact.classesInDirectory FileSystem.filesBelow
    rw [located]
    rfl
  have loaded : ∀ a ∈ Sample.classpath, a.Loaded := by
    intro a member
    rw [List.mem_singleton.1 member]
    exact load_workingDirectory located rfl read
  have found : (Loading.outcome (Loader.new Decoder.standard 1)
      (Check.conflicts { Policy.standard with complete := true } (Loading.load Sample.files)
        Sample.classpath [])).1 = .ok [⟨.methodNotFound, [⟨"A"⟩], Sample.method "A" "m", 7,
          .method (Sample.method "B" "y"), "app", some "app"⟩] := by
    rw [Loading.load_eq_loadKnown Sample.load_of_known]
    rfl
  obtain ⟨calledFrom, -, named_iff, -⟩ := paths_of_conflicts Sample.files Decoder.standard 1 []
    { Policy.standard with complete := true } Sample.classpath [] _ _ loaded (Prod.ext found rfl)
  exact ⟨loaded, _, _, Prod.ext found rfl, rfl, calledFrom, named_iff.1 (by decide)⟩

/-- Two files of one class, of which one is named after another class. -/
def misplacedFiles : FileSystem :=
  { workingDirectory := ["w"]
    nodes := (SortedMap.empty.insert ["w", "A.class"] (.file Sample.child.bytes)).insert
      ["w", "Z.class"] (.file Sample.child.bytes) }

/-- The classpath of the two files. -/
def misplaced : List Artifact :=
  [⟨"app", InsertionMap.ofList [(⟨"A"⟩, Sample.place "A"), (⟨"Z"⟩, Sample.place "Z")]⟩]

private def knownMisplaced (location : ClassLocation) : Option DeclaredClass :=
  if location = Sample.place "A" ∨ location = Sample.place "Z" then some Sample.declaredChild
  else none

private theorem load_of_knownMisplaced (location : ClassLocation) (d : DeclaredClass)
    (isKnown : knownMisplaced location = some d) :
    Decoder.standard.load misplacedFiles location = .ok d := by
  have decoded : Decoder.standard.decode Sample.child.bytes = .ok Sample.declaredChild := by
    decide +kernel
  unfold knownMisplaced at isKnown
  split at isKnown
  · rename_i here
    cases isKnown
    rcases here with rfl | rfl
    · exact Decoder.load_of_directory ["w", "A.class"]
        (FileSystem.locate_of_leads? (by decide) rfl) rfl decoded
    · exact Decoder.load_of_directory ["w", "Z.class"]
        (FileSystem.locate_of_leads? (by decide) rfl) rfl decoded
  · cases isKnown

/-- A class file under the name of another class: two conflicts of one calling class have different
paths, and one of the paths does not end at the calling class. -/
theorem conflicts_misplaced : (∀ a ∈ misplaced, a.Loaded) ∧
    ∃ cs after, Loading.outcome (Loader.new Decoder.standard 1)
        (Check.conflicts { Policy.standard with complete := true } (Loading.load misplacedFiles)
          misplaced []) = (.ok cs, after) ∧
      ∃ c ∈ cs, ∃ d ∈ cs, c.fromClass = d.fromClass ∧ c.path ≠ d.path ∧
        d.path.getLast? ≠ some d.fromClass := by
  have located : misplacedFiles.locate ⟨"."⟩ = .ok ["w"] :=
    FileSystem.locate_of_leads? (by decide) rfl
  have read : Artifact.classesInDirectory misplacedFiles ⟨"."⟩ =
      .ok (.ofList [(⟨"A"⟩, Sample.place "A"), (⟨"Z"⟩, Sample.place "Z")]) := by
    unfold Artifact.classesInDirectory FileSystem.filesBelow
    rw [located]
    rfl
  have found : (Loading.outcome (Loader.new Decoder.standard 1)
      (Check.conflicts { Policy.standard with complete := true } (Loading.load misplacedFiles)
        misplaced [])).1 = .ok [
      ⟨.methodNotFound, [⟨"A"⟩], Sample.method "A" "m", 7, .method (Sample.method "A" "x"), "app",
        some "app"⟩,
      ⟨.classNotFound, [⟨"A"⟩], Sample.method "A" "m", 7, .method (Sample.method "B" "y"), "app",
        none⟩,
      ⟨.methodNotFound, [⟨"Z"⟩], Sample.method "A" "m", 7, .method (Sample.method "A" "x"), "app",
        some "app"⟩,
      ⟨.classNotFound, [⟨"Z"⟩], Sample.method "A" "m", 7, .method (Sample.method "B" "y"), "app",
        none⟩] := by
    rw [Loading.load_eq_loadKnown load_of_knownMisplaced]
    rfl
  refine ⟨?_, _, _, Prod.ext found rfl, ?_⟩
  · intro a member
    rw [List.mem_singleton.1 member]
    exact load_workingDirectory located rfl read
  · decide

end CallingClass
end Linkage
