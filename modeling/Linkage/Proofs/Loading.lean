import Mathlib.Control.Monad.Basic
import Linkage.ClassFile.Source
import Linkage.Classpath.Index
import Linkage.Proofs.Spelling

/-!
Computations that load classes through a cache. A computation that succeeds is taken apart into the
loads that it makes (`Loading.outcome_bind_eq_ok`), and a loader is followed through them
(`Loader.after`, `Loader.Gives`). While files do not change, a loader keeps only what they say
(`Loader.Faithful`), and a computation that succeeds through it gives what it gives when every class
is read anew (`Loading.Follows`).
-/
namespace Linkage

/-- The loader after loading from some locations, one after the other. -/
def Loader.after (l : Loader) (fs : FileSystem) (history : List ClassLocation) : Loader :=
  history.foldl (fun l location => (l.load fs location).2) l

/-- After some further loads, the loader gives a declaration for a location. -/
def Loader.Gives (l : Loader) (fs : FileSystem) (location : ClassLocation) (d : DeclaredClass) :
    Prop :=
  ∃ history c, ((l.after fs history).load fs location).1 = .ok c ∧ c.declared = d

/-- What the loader gives later, it gave before as well. -/
theorem Loader.Gives.of_load {l : Loader} {fs : FileSystem} {first location : ClassLocation}
    {d : DeclaredClass} (later : (l.load fs first).2.Gives fs location d) : l.Gives fs location d := by
  obtain ⟨history, c, loaded, declared⟩ := later
  exact ⟨first :: history, c, loaded, declared⟩

theorem Loader.Gives.of_after {l : Loader} {fs : FileSystem} {past : List ClassLocation}
    {location : ClassLocation} {d : DeclaredClass}
    (later : (l.after fs past).Gives fs location d) : l.Gives fs location d := by
  obtain ⟨history, c, loaded, declared⟩ := later
  exact ⟨past ++ history, c, by rwa [after, List.foldl_append], declared⟩

/-- The class file at a location, however its path is spelled, makes a declaration. -/
def Decoder.Declares (decoder : Decoder) (fs : FileSystem) (location : ClassLocation)
    (d : DeclaredClass) : Prop :=
  ∃ spelled : ClassLocation, spelled.key = location.key ∧ decoder.load fs spelled = .ok d

theorem Decoder.Declares.unique {decoder : Decoder} {fs : FileSystem} {location : ClassLocation}
    {c d : DeclaredClass} (left : decoder.Declares fs location c)
    (right : decoder.Declares fs location d) : c = d := by
  obtain ⟨first, keyFirst, loadFirst⟩ := left
  obtain ⟨second, keySecond, loadSecond⟩ := right
  exact load_unique (keyFirst.trans keySecond.symm) loadFirst loadSecond

open Classical in
/-- The declaration of the class file at a location, or why there is none. -/
noncomputable def Decoder.declaration (decoder : Decoder) (fs : FileSystem)
    (location : ClassLocation) : Except CheckError DeclaredClass :=
  if declares : ∃ d, decoder.Declares fs location d then .ok declares.choose
  else decoder.load fs location

theorem Decoder.declaration_eq_ok_iff {decoder : Decoder} {fs : FileSystem}
    {location : ClassLocation} {d : DeclaredClass} :
    decoder.declaration fs location = .ok d ↔ decoder.Declares fs location d := by
  unfold declaration
  split
  · rename_i declares
    constructor
    · intro same
      exact Except.ok.inj same ▸ declares.choose_spec
    · intro right
      rw [declares.choose_spec.unique right]
  · rename_i silent
    constructor
    · exact fun loaded => ⟨location, rfl, loaded⟩
    · exact fun right => absurd ⟨d, right⟩ silent

/-- A loader with a decoder that keeps only what the files say. -/
structure Loader.Faithful (decoder : Decoder) (fs : FileSystem) (l : Loader) : Prop where
  decodes : l.decoder = decoder
  keeps : ∀ key c, (key, some c) ∈ l.slots →
    ∃ location : ClassLocation, location.key = key ∧ decoder.load fs location = .ok c.declared

namespace Loader
variable {decoder : Decoder} {fs : FileSystem} {l : Loader}

theorem faithful_new (decoder : Decoder) (fs : FileSystem) (capacity : Nat) :
    (new decoder capacity).Faithful decoder fs := ⟨rfl, by simp [new]⟩

theorem mem_slots_touch {key k : LocationKey} {slot s : Option CachedClass}
    (member : (k, s) ∈ (l.touch key slot).slots) : (k = key ∧ s = slot) ∨ (k, s) ∈ l.slots := by
  rcases List.mem_cons.1 (List.mem_of_mem_take member) with here | kept
  · exact .inl (Prod.mk.inj here)
  · exact .inr (List.mem_filter.1 kept).1

theorem mem_slots_of_kept? {key : LocationKey} {c : CachedClass}
    (kept : l.kept? key = some c) : (key, some c) ∈ l.slots := by
  obtain ⟨slot, found, held⟩ := Option.bind_eq_some_iff.1 kept
  have same : slot.1 = key := by simpa using List.find?_some found
  rw [← same, ← held]
  exact List.mem_of_find?_eq_some found

/-- A location that was just used is kept as it was put there. -/
theorem kept?_touch_self {key : LocationKey} {slot : Option CachedClass} (room : 0 < l.capacity) :
    (l.touch key slot).kept? key = slot := by
  obtain ⟨n, same⟩ := Nat.exists_eq_succ_of_ne_zero (Nat.ne_of_gt room)
  simp [kept?, touch, same]

/-- Loading keeps a loader faithful, and what it gives is what the file declares. -/
theorem Faithful.load (faithful : l.Faithful decoder fs) (location : ClassLocation) :
    (l.load fs location).2.Faithful decoder fs ∧
      ∀ c, (l.load fs location).1 = .ok c → decoder.Declares fs location c.declared := by
  obtain ⟨rfl, keeps⟩ := faithful
  unfold Loader.load
  split
  · rename_i c kept
    obtain ⟨spelled, key, loaded⟩ := keeps _ _ (mem_slots_of_kept? kept)
    refine ⟨⟨rfl, ?_⟩, ?_⟩
    · intro k d member
      rcases mem_slots_touch member with ⟨rfl, same⟩ | old
      · cases same
        exact ⟨spelled, key, loaded⟩
      · exact keeps k d old
    · rintro c ⟨⟩
      exact ⟨spelled, key, loaded⟩
  · split
    · refine ⟨⟨rfl, ?_⟩, by simp⟩
      intro k d member
      rcases mem_slots_touch member with ⟨-, same⟩ | old
      · cases same
      · exact keeps k d old
    · rename_i declared loaded
      refine ⟨⟨rfl, ?_⟩, ?_⟩
      · intro k d member
        rcases mem_slots_touch member with ⟨rfl, same⟩ | old
        · cases same
          exact ⟨location, rfl, loaded⟩
        · exact keeps k d old
      · rintro c ⟨⟩
        exact ⟨location, rfl, loaded⟩

theorem Faithful.after (faithful : l.Faithful decoder fs) (history : List ClassLocation) :
    (l.after fs history).Faithful decoder fs := by
  induction history generalizing l with
  | nil => exact faithful
  | cons location history ih => exact ih (faithful.load location).1

/-- What a faithful loader gives is what the file declares. -/
theorem Faithful.declares (faithful : l.Faithful decoder fs) {location : ClassLocation}
    {d : DeclaredClass} (given : l.Gives fs location d) : decoder.Declares fs location d := by
  obtain ⟨history, c, loaded, rfl⟩ := given
  exact ((faithful.after history).load location).2 c loaded

end Loader

namespace Loading
variable {α β : Type}

/-- What a computation gives with a loader, and the loader afterwards. -/
def outcome (l : Loader) (x : Loading α) : Except CheckError α × Loader := x l

theorem outcome_pure (l : Loader) (a : α) : outcome l (pure a) = (.ok a, l) := rfl

theorem outcome_bind (l : Loader) (x : Loading α) (f : α → Loading β) :
    outcome l (x >>= f) = match outcome l x with
      | (.ok a, next) => outcome next (f a)
      | (.error e, next) => (.error e, next) := by
  simp only [outcome, bind, ExceptT.bind, ExceptT.bindCont, ExceptT.mk, StateT.bind]
  rcases x l with ⟨_ | _, _⟩ <;> rfl

/-- A computation in two steps succeeds if the first does and then the second. -/
theorem outcome_bind_eq_ok {x : Loading α} {f : α → Loading β} {l after : Loader} {b : β} :
    outcome l (x >>= f) = (.ok b, after) ↔
      ∃ a next, outcome l x = (.ok a, next) ∧ outcome next (f a) = (.ok b, after) := by
  rw [outcome_bind]
  rcases outcome l x with ⟨_ | a, next⟩
  · simp
  · constructor
    · exact fun rest => ⟨a, next, rfl, rest⟩
    · rintro ⟨a, next, same, rest⟩
      cases same
      exact rest

/-- A location that is loaded is given by the loader, and the loader is the one after the load. -/
theorem outcome_load_eq_ok {fs : FileSystem} {location : ClassLocation} {l after : Loader}
    {d : DeclaredClass} (loaded : outcome l (load fs location) = (.ok d, after)) :
    l.Gives fs location d ∧ after = (l.load fs location).2 := by
  unfold outcome load at loaded
  rcases step : l.load fs location with ⟨_ | c, next⟩
  · simp [step] at loaded
  · simp only [step, Prod.mk.injEq, Except.ok.injEq] at loaded
    obtain ⟨rfl, rfl⟩ := loaded
    exact ⟨⟨[], c, by simp [Loader.after, step], rfl⟩, rfl⟩

/-- A computation through a faithful loader leaves it faithful, and gives what another gives without
a loader unless it fails. -/
def Follows (decoder : Decoder) (fs : FileSystem) (x : Loading α) (y : Except CheckError α) : Prop :=
  ∀ l, l.Faithful decoder fs →
    (outcome l x).2.Faithful decoder fs ∧ ∀ a, (outcome l x).1 = .ok a → y = .ok a

namespace Follows
variable {decoder : Decoder} {fs : FileSystem}

theorem of_outcome {x : Loading α} {y : Except CheckError α} {l after : Loader} {a : α}
    (follows : Follows decoder fs x y) (faithful : l.Faithful decoder fs)
    (result : outcome l x = (.ok a, after)) : after.Faithful decoder fs ∧ y = .ok a := by
  obtain ⟨still, gives⟩ := follows l faithful
  rw [result] at still gives
  exact ⟨still, gives a rfl⟩

theorem pure (a : α) : Follows decoder fs (pure a) (pure a) :=
  fun _ faithful => ⟨faithful, fun _ same => same⟩

theorem throw (e : CheckError) : Follows decoder fs (throw e : Loading α) (throw e) :=
  fun _ faithful => ⟨faithful, fun _ same => nomatch same⟩

theorem load (location : ClassLocation) :
    Follows decoder fs (Loading.load fs location) (decoder.declaration fs location) := by
  intro l faithful
  obtain ⟨after, gives⟩ := faithful.load location
  unfold outcome Loading.load
  rcases step : l.load fs location with ⟨_ | c, next⟩
  · rw [step] at after
    exact ⟨after, fun _ same => nomatch same⟩
  · rw [step] at after gives
    refine ⟨after, ?_⟩
    rintro d ⟨⟩
    exact Decoder.declaration_eq_ok_iff.2 (gives c rfl)

theorem bind {x : Loading α} {y : Except CheckError α} {f : α → Loading β}
    {g : α → Except CheckError β} (first : Follows decoder fs x y)
    (second : ∀ a, Follows decoder fs (f a) (g a)) : Follows decoder fs (x >>= f) (y >>= g) := by
  intro l faithful
  obtain ⟨after, gives⟩ := first l faithful
  rw [outcome_bind]
  rcases step : outcome l x with ⟨_ | a, next⟩
  · rw [step] at after
    exact ⟨after, fun _ same => nomatch same⟩
  · rw [step] at after gives
    rw [gives a rfl]
    exact second a next after

theorem mapM {f : α → Loading β} {g : α → Except CheckError β}
    (each : ∀ a, Follows decoder fs (f a) (g a)) (as : List α) :
    Follows decoder fs (as.mapM f) (as.mapM g) := by
  induction as with
  | nil => exact pure []
  | cons a as ih =>
    rw [List.mapM_cons, List.mapM_cons]
    exact (each a).bind fun b => ih.bind fun bs => pure (b :: bs)

end Follows

/-- Loading by which files need not be read of which it is known what comes of them. -/
def loadTold (decoder : Decoder)
    (told : ClassLocation → Option (Except CheckError DeclaredClass)) (fs : FileSystem)
    (location : ClassLocation) : Loading DeclaredClass := fun l =>
  match l.kept? location.key, told location with
  | none, some result =>
    if l.decoder = decoder then
      match result with
      | .ok d =>
        (.ok d, { l.touch location.key (some ⟨d, l.decodings⟩) with decodings := l.decodings + 1 })
      | .error e => (.error e, l.touch location.key none)
    else load fs location l
  | _, _ => load fs location l

theorem load_eq_loadTold {decoder : Decoder}
    {told : ClassLocation → Option (Except CheckError DeclaredClass)} {fs : FileSystem}
    (right : ∀ location r, told location = some r → decoder.load fs location = r) :
    load fs = loadTold decoder told fs := by
  funext location l
  unfold loadTold
  split
  · rename_i r fresh isTold
    split
    · rename_i same
      subst same
      cases r <;> simp [load, Loader.load, fresh, right location _ isTold]
    · rfl
  · rfl

/-- Loading by which files need not be read whose declarations are known. -/
def loadKnown (decoder : Decoder) (known : ClassLocation → Option DeclaredClass) :
    FileSystem → ClassLocation → Loading DeclaredClass :=
  loadTold decoder fun location => (known location).map .ok

theorem load_eq_loadKnown {decoder : Decoder} {known : ClassLocation → Option DeclaredClass}
    {fs : FileSystem}
    (right : ∀ location d, known location = some d → decoder.load fs location = .ok d) :
    load fs = loadKnown decoder known fs := by
  refine load_eq_loadTold fun location r isTold => ?_
  obtain ⟨d, isKnown, rfl⟩ := Option.map_eq_some_iff.1 isTold
  exact right location d isKnown

end Loading

/-! ### Two class files -/

namespace Sample

/-- A class that calls a method that it inherits, and one that nobody declares. -/
def child : ClassSource :=
  { access := 0x21, name := "A", superClass := some "B", interfaces := [], fields := []
    methods := [⟨1, "m", "()V", some [.line 7, .operation (.invoke .virtual ⟨"A", "x", "()V"⟩),
      .operation (.invoke .virtual ⟨"B", "y", "()V"⟩)]⟩] }

/-- Its parent. -/
def parent : ClassSource :=
  { access := 0x21, name := "B", superClass := none, interfaces := [], fields := []
    methods := [⟨1, "x", "()V", none⟩] }

/-- A method without parameters and result. -/
def method (owner name : String) : MethodReference := ⟨⟨owner⟩, ⟨name, [], .void⟩, false⟩

/-- What the class declares. -/
def declaredChild : DeclaredClass :=
  { name := ⟨"A"⟩, parents := [⟨"B"⟩], loaded := .empty, fields := .empty
    methods := SortedMap.empty.insert ⟨"m", [], .void⟩
      (.ofUses (method "A" "m")
        [.call ⟨method "A" "x", 7, .empty⟩, .call ⟨method "B" "y", 7, .empty⟩]) }

/-- What its parent declares. -/
def declaredParent : DeclaredClass :=
  { name := ⟨"B"⟩, parents := [], loaded := .empty, fields := .empty
    methods := SortedMap.empty.insert ⟨"x", [], .void⟩ ⟨method "B" "x", .empty, .empty⟩ }

/-- A class with a method that calls one of another class. -/
def caller (name owner : String) : ClassSource :=
  { access := 0x21, name, superClass := none, interfaces := [], fields := []
    methods := [⟨1, "m", "()V",
      some [.line 5, .operation (.invoke .virtual ⟨owner, "m", "()V"⟩)]⟩] }

/-- What it declares. -/
def declaredCaller (name owner : String) : DeclaredClass :=
  { name := ⟨name⟩, parents := [], loaded := .empty, fields := .empty
    methods := SortedMap.empty.insert ⟨"m", [], .void⟩
      (.ofUses (method name "m") [.call ⟨method owner "m", 5, .empty⟩]) }

/-- The two files in the working directory. -/
def files : FileSystem :=
  { workingDirectory := ["w"]
    nodes := (SortedMap.empty.insert ["w", "A.class"] (.file child.bytes)).insert ["w", "B.class"]
      (.file parent.bytes) }

/-- The place of a class. -/
def place (name : String) : ClassLocation := .directory ⟨name⟩ ⟨"."⟩ (name ++ ".class")

/-- The classpath of the two classes. -/
def classpath : List Artifact :=
  [⟨"app", InsertionMap.ofList [(⟨"A"⟩, place "A"), (⟨"B"⟩, place "B")]⟩]

/-- The declarations of the two files. -/
def known (location : ClassLocation) : Option DeclaredClass :=
  if location = place "A" then some declaredChild
  else if location = place "B" then some declaredParent
  else none

theorem known_child : known (place "A") = some declaredChild := if_pos rfl

theorem known_parent : known (place "B") = some declaredParent :=
  (if_neg (by decide)).trans (if_pos rfl)

private theorem locate_file {fs : FileSystem} {path : Path} {name : String} {bytes : Bytes}
    (home : fs.workingDirectory = ["w"]) (relative : path.text ≠ "" ∧ path.isAbsolute = false)
    (short : path.text.utf8ByteSize < FileSystem.pathLimit) (segments : path.segments = [".", name])
    (named : Path.isVoid name = false ∧ name ≠ "..")
    (found : fs.node? ["w", name] = some (.file bytes)) : fs.locate path = .ok ["w", name] := by
  have void : Path.isVoid "." = true := by decide
  have start : fs.start path = ["w"] := by
    simp [FileSystem.start, relative.2, home]
  rw [FileSystem.locate, segments, start, if_neg (by simpa using relative.1), if_neg (by omega)]
  simp [FileSystem.follow, void, named, found]

private theorem load_file {fs : FileSystem} {name : String} {path : Path} {bytes : Bytes}
    {d : DeclaredClass} (joined : Path.join ⟨"."⟩ ⟨name ++ ".class"⟩ = path)
    (located : fs.locate path = .ok ["w", name ++ ".class"])
    (found : fs.node? ["w", name ++ ".class"] = some (.file bytes))
    (decoded : Decoder.standard.decode bytes = .ok d) :
    Decoder.standard.load fs (place name) = .ok d :=
  Decoder.load_of_directory _ (joined ▸ located) found decoded

/-- The file of a class in the working directory declares what its bytes do. -/
theorem load_child {fs : FileSystem} {bytes : Bytes} {d : DeclaredClass}
    (home : fs.workingDirectory = ["w"])
    (found : fs.node? ["w", "A.class"] = some (.file bytes))
    (decoded : Decoder.standard.decode bytes = .ok d) :
    Decoder.standard.load fs (place "A") = .ok d := by
  have located : fs.locate ⟨"./A.class"⟩ = .ok ["w", "A.class"] :=
    locate_file home (by decide) (by decide) (by decide) (by decide) found
  exact load_file (by decide) located found decoded

/-- The two files declare what is known of them. -/
theorem load_of_known (location : ClassLocation) (d : DeclaredClass)
    (isKnown : known location = some d) : Decoder.standard.load files location = .ok d := by
  unfold known at isKnown
  split at isKnown
  · rename_i here
    cases isKnown
    have found : files.node? ["w", "A.class"] = some (.file child.bytes) := rfl
    exact here ▸ load_child rfl found (by decide +kernel)
  · split at isKnown
    · rename_i here
      cases isKnown
      have found : files.node? ["w", "B.class"] = some (.file parent.bytes) := rfl
      have located : files.locate ⟨"./B.class"⟩ = .ok ["w", "B.class"] :=
        locate_file rfl (by decide) (by decide) (by decide) (by decide) found
      exact here ▸ load_file (by decide) located found (by decide +kernel)
    · cases isKnown

/-- The classpath has the two files. -/
theorem of_location {c : ClassName} {location : ClassLocation}
    (found : (ClassIndex.ofArtifacts classpath).location? c = some location) :
    (c = ⟨"A"⟩ ∧ location = place "A") ∨ (c = ⟨"B"⟩ ∧ location = place "B") := by
  have classes : (ClassIndex.ofArtifacts classpath).classes = [⟨"A"⟩, ⟨"B"⟩] := by decide +kernel
  have member : c ∈ (ClassIndex.ofArtifacts classpath).classes :=
    ClassIndex.mem_classes_iff.2 (Option.isSome_iff_exists.2 ⟨location, found⟩)
  have child : (ClassIndex.ofArtifacts classpath).location? ⟨"A"⟩ = some (place "A") := by
    decide +kernel
  have parent : (ClassIndex.ofArtifacts classpath).location? ⟨"B"⟩ = some (place "B") := by
    decide +kernel
  simp only [classes, List.mem_cons, List.not_mem_nil, or_false] at member
  rcases member with rfl | rfl
  · exact .inl ⟨rfl, Option.some.inj (found.symm.trans child)⟩
  · exact .inr ⟨rfl, Option.some.inj (found.symm.trans parent)⟩

/-- It has them under their own names. -/
theorem className_of_location (c : ClassName) (location : ClassLocation)
    (found : (ClassIndex.ofArtifacts classpath).location? c = some location) :
    location.className = c := by
  rcases of_location found with ⟨rfl, rfl⟩ | ⟨rfl, rfl⟩ <;> rfl

end Sample
end Linkage
