import Linkage.Proofs.Simulation

/-!
When a cache makes no difference. A loader takes locations as one whose paths differ only in what
says nothing, and a class that it keeps may come from another spelling than the one asked for. A
load gives what reading and decoding the location gives, unless the location cannot be read where
another spelling could; a path with many dots may be too long (`Sample.outcome_dottedPlace`). Where
all spellings that have been used can be read (`FileSystem.ReadsAlike`), a computation through a
loader gives what it gives when every class is read anew, errors included (`Loading.Mirrors`), and
so any two loaders check alike (`Loading.outcome_eq_of_readsAlike`).
-/
namespace Linkage

/-- Where one of the locations that have been used can be read, every location to be read that is
taken as the same can be read as well. -/
def FileSystem.ReadsAlike (fs : FileSystem) (used toRead : ClassLocation → Prop) : Prop :=
  ∀ a b, used a → toRead b → a.key = b.key → (a.read fs).isOk → (b.read fs).isOk

/-- The locations of an index. -/
def ClassIndex.Locates (index : ClassIndex) (location : ClassLocation) : Prop :=
  ∃ c, index.location? c = some location

/-- In an index whose locations have the names they are indexed under, no two are taken as one. -/
theorem ClassIndex.Locates.eq_of_key {index : ClassIndex} {a b : ClassLocation}
    (keyed : ∀ c location, index.location? c = some location → location.className = c)
    (first : index.Locates a) (second : index.Locates b) (same : a.key = b.key) : a = b := by
  obtain ⟨c, foundA⟩ := first
  obtain ⟨d, foundB⟩ := second
  have names : a.className = b.className := by
    have equal := congrArg LocationKey.name same
    cases a <;> cases b <;> simpa [ClassLocation.key, ClassLocation.className] using equal
  rw [keyed c a foundA, keyed d b foundB] at names
  rw [names, foundB] at foundA
  exact (Option.some.inj foundA).symm

namespace Loader
variable {decoder : Decoder} {fs : FileSystem} {used : ClassLocation → Prop} {l : Loader}

/-- What a load can leave in the cache: what was there, and the class that was read. -/
theorem mem_slots_load {location : ClassLocation} {k : LocationKey} {c : CachedClass}
    (member : (k, some c) ∈ (l.load fs location).2.slots) :
    (k, some c) ∈ l.slots ∨ k = location.key ∧ l.decoder.load fs location = .ok c.declared := by
  unfold load at member
  split at member
  · rename_i kept isKept
    rcases mem_slots_touch member with ⟨rfl, same⟩ | old
    · cases same
      exact .inl (mem_slots_of_kept? isKept)
    · exact .inl old
  · split at member
    · rcases mem_slots_touch member with ⟨-, same⟩ | old
      · cases same
      · exact .inl old
    · rename_i declared loaded
      rcases mem_slots_touch member with ⟨rfl, same⟩ | old
      · cases same
        exact .inr ⟨rfl, loaded⟩
      · exact .inl old

theorem decoder_load (l : Loader) (location : ClassLocation) :
    (l.load fs location).2.decoder = l.decoder := by
  unfold load
  split
  · rfl
  · split <;> rfl

/-- A loader with a decoder whose classes were read at locations that have been used. -/
structure Sourced (decoder : Decoder) (fs : FileSystem) (used : ClassLocation → Prop) (l : Loader) :
    Prop where
  decodes : l.decoder = decoder
  keeps : ∀ key c, (key, some c) ∈ l.slots → ∃ location : ClassLocation, used location ∧
    location.key = key ∧ decoder.load fs location = .ok c.declared

theorem Sourced.load (sourced : l.Sourced decoder fs used) {location : ClassLocation}
    (isUsed : used location) : (l.load fs location).2.Sourced decoder fs used := by
  constructor
  · rw [decoder_load, sourced.decodes]
  · intro key c member
    rcases mem_slots_load member with old | ⟨rfl, loaded⟩
    · exact sourced.keeps key c old
    · rw [sourced.decodes] at loaded
      exact ⟨location, isUsed, rfl, loaded⟩

theorem Sourced.after {history : List ClassLocation} (sourced : l.Sourced decoder fs used)
    (isUsed : ∀ location ∈ history, used location) :
    (l.after fs history).Sourced decoder fs used := by
  induction history generalizing l with
  | nil => exact sourced
  | cons location history ih =>
    refine ih (sourced.load (isUsed location List.mem_cons_self)) fun other member => ?_
    exact isUsed other (List.mem_cons_of_mem _ member)

/-- A loader that was new when it started has only what its history has read. -/
theorem sourced_after_new (decoder : Decoder) (fs : FileSystem) (capacity : Nat)
    {history : List ClassLocation} (isUsed : ∀ location ∈ history, used location) :
    ((new decoder capacity).after fs history).Sourced decoder fs used := by
  have start : (new decoder capacity).Sourced decoder fs used := ⟨rfl, by simp [new]⟩
  exact start.after isUsed

end Loader

namespace Loading
variable {α β : Type}

theorem outcome_load_snd {fs : FileSystem} {l : Loader} {location : ClassLocation} :
    (outcome l (load fs location)).2 = (l.load fs location).2 := by
  unfold outcome load
  rcases l.load fs location with ⟨_ | _, _⟩ <;> rfl

end Loading

/-- A load gives what reading and decoding the location gives, except that a class may still be kept
that was read under another spelling while the location itself cannot be read. -/
theorem Loader.Sourced.outcome_load {decoder : Decoder} {fs : FileSystem}
    {used : ClassLocation → Prop} {l : Loader} (sourced : l.Sourced decoder fs used)
    (location : ClassLocation) :
    (Loading.outcome l (Loading.load fs location)).1 = decoder.load fs location ∨
      (location.read fs).isOk = false ∧ ∃ source, used source ∧ source.key = location.key ∧
        (source.read fs).isOk ∧
        (Loading.outcome l (Loading.load fs location)).1 = decoder.load fs source := by
  unfold Loading.outcome Loading.load Loader.load
  cases kept : l.kept? location.key with
  | none =>
    rw [sourced.decodes]
    cases decoder.load fs location <;> exact .inl rfl
  | some c =>
    obtain ⟨source, isUsed, key, loaded⟩ := sourced.keeps _ _ (mem_slots_of_kept? kept)
    obtain ⟨bytes, read, -⟩ := Decoder.load_eq_ok_iff.1 loaded
    by_cases readable : (location.read fs).isOk = true
    · exact .inl (Decoder.load_of_key key loaded readable).symm
    · exact .inr ⟨by simpa using readable, source, isUsed, key, by rw [read]; rfl, loaded.symm⟩

namespace Loading
variable {α β : Type}

/-- A computation through a loader that keeps classes of used locations gives what another gives
without a loader, and leaves such a loader behind. -/
def Mirrors (decoder : Decoder) (fs : FileSystem) (used : ClassLocation → Prop) (x : Loading α)
    (y : Except CheckError α) : Prop :=
  ∀ l, l.Sourced decoder fs used →
    (outcome l x).1 = y ∧ (outcome l x).2.Sourced decoder fs used

namespace Mirrors
variable {decoder : Decoder} {fs : FileSystem} {used toRead : ClassLocation → Prop}

theorem load (alike : fs.ReadsAlike used toRead) {location : ClassLocation}
    (isUsed : used location) (isRead : toRead location) :
    Mirrors decoder fs used (Loading.load fs location) (decoder.load fs location) := by
  intro l sourced
  refine ⟨?_, outcome_load_snd ▸ sourced.load isUsed⟩
  rcases sourced.outcome_load location with same | ⟨unreadable, source, fromUsed, key, readable, -⟩
  · exact same
  · have also := alike source location fromUsed isRead key readable
    rw [unreadable] at also
    cases also

theorem bind {x : Loading α} {y : Except CheckError α} {f : α → Loading β}
    {g : α → Except CheckError β} (first : Mirrors decoder fs used x y)
    (second : ∀ a, Mirrors decoder fs used (f a) (g a)) :
    Mirrors decoder fs used (x >>= f) (y >>= g) := by
  intro l sourced
  obtain ⟨same, next⟩ := first l sourced
  rw [outcome_bind, ← same]
  rcases step : outcome l x with ⟨_ | a, after⟩
  · rw [step] at next
    exact ⟨rfl, next⟩
  · rw [step] at next
    exact second a after next

/-- While files are read alike, the cache makes no difference to a check. -/
theorem simulation (alike : fs.ReadsAlike used toRead)
    (within : ∀ location, toRead location → used location) :
    Simulation fs (decoder.load fs) toRead (Mirrors decoder fs used) :=
  ⟨fun _ _ sourced => ⟨rfl, sourced⟩, fun _ _ sourced => ⟨rfl, sourced⟩, bind,
    fun location isRead => load alike (within location isRead) isRead⟩

end Mirrors

/-- Where files are read alike, a check through a loader that has been used before gives what it
gives when every class is read anew. -/
theorem outcome_conflicts {decoder : Decoder} {fs : FileSystem} {policy : Policy}
    {classpath : List Artifact} {entryPoints history used : List ClassLocation} (capacity : Nat)
    (alike : fs.ReadsAlike
      (fun a => a ∈ used ∨ (ClassIndex.ofArtifacts classpath).Locates a)
      (fun b => b ∈ entryPoints ∨ (ClassIndex.ofArtifacts classpath).Locates b))
    (old : ∀ a ∈ history, a ∈ used) (entries : ∀ e ∈ entryPoints, e ∈ used) :
    (outcome ((Loader.new decoder capacity).after fs history)
      (Check.conflicts policy (load fs) classpath entryPoints)).1 =
        Check.conflicts policy (decoder.load fs) classpath entryPoints := by
  have sim : Simulation fs (decoder.load fs) _ (Mirrors decoder fs _) :=
    Mirrors.simulation alike fun location toRead => toRead.imp_left (entries location)
  have mirrors : Mirrors decoder fs _ (Check.conflicts policy (load fs) classpath entryPoints) _ :=
    sim.conflicts classpath (fun c _ found => .inr ⟨c, found⟩) entryPoints fun _ entry => .inl entry
  exact (mirrors _ (Loader.sourced_after_new decoder fs capacity fun a seen => .inl (old a seen))).1

end Loading

/-- The cache is transparent where locations that it takes as one can be read alike. Whatever has
been loaded before, a load gives what reading and decoding the location gives, except that it may
give the class of another spelling that was read before while the location itself cannot be read.
So a check gives the same through any two loaders, unless one of their locations is such. -/
theorem Loading.outcome_eq_of_readsAlike (fs : FileSystem) (decoder : Decoder)
    (capacity capacity' : Nat) (history history' : List ClassLocation) :
    Loader.new decoder 0 = Loader.new decoder 1 ∧
    (∀ location, (outcome ((Loader.new decoder capacity).after fs history)
        (load fs location)).1 = decoder.load fs location ∨
      (location.read fs).isOk = false ∧ ∃ earlier ∈ history, earlier.key = location.key ∧
        (earlier.read fs).isOk ∧ (outcome ((Loader.new decoder capacity).after fs history)
          (load fs location)).1 = decoder.load fs earlier) ∧
    ∀ (policy : Policy) (classpath : List Artifact) (entryPoints : List ClassLocation),
      fs.ReadsAlike
        (fun a => a ∈ history ++ history' ++ entryPoints ∨
          (ClassIndex.ofArtifacts classpath).Locates a)
        (fun b => b ∈ entryPoints ∨ (ClassIndex.ofArtifacts classpath).Locates b) →
      (outcome ((Loader.new decoder capacity).after fs history)
          (Check.conflicts policy (load fs) classpath entryPoints)).1 =
        (outcome ((Loader.new decoder capacity').after fs history')
          (Check.conflicts policy (load fs) classpath entryPoints)).1 := by
  refine ⟨rfl, fun location => ?_, fun policy classpath entryPoints alike => ?_⟩
  · have sourced : ((Loader.new decoder capacity).after fs history).Sourced decoder fs
        (· ∈ history) := Loader.sourced_after_new _ _ _ fun _ old => old
    exact sourced.outcome_load location
  · rw [outcome_conflicts capacity alike (fun a old => ?_) (fun e entry => ?_),
      outcome_conflicts capacity' alike (fun a old => ?_) (fun e entry => ?_)]
    · simp [old]
    · simp [entry]
    · simp [old]
    · simp [entry]

/-! ### Where spellings are not read alike -/

/-- A location that cannot be read, though another that has been used, and that it is taken as, can
be. -/
structure FileSystem.Misspelled (fs : FileSystem) (used : ClassLocation → Prop)
    (location : ClassLocation) (cause : ClasspathError) : Prop where
  unreadable : location.read fs = .error cause
  otherwise : ∃ a, used a ∧ a.key = location.key ∧ (a.read fs).isOk

open Classical in
/-- Reads and decodes a location as it is spelled by one that has been used and can be read, if
there is such a one. -/
noncomputable def Decoder.loadUsed (decoder : Decoder) (fs : FileSystem)
    (used : ClassLocation → Prop) (location : ClassLocation) : Except CheckError DeclaredClass :=
  if readable : ∃ a : ClassLocation, used a ∧ a.key = location.key ∧ (a.read fs).isOk then
    decoder.load fs readable.choose
  else decoder.load fs location

theorem Decoder.loadUsed_eq_ok_iff {decoder : Decoder} {fs : FileSystem}
    {used : ClassLocation → Prop} {location : ClassLocation} {d : DeclaredClass}
    (isUsed : used location) : decoder.loadUsed fs used location = .ok d ↔
      ∃ a, used a ∧ a.key = location.key ∧ decoder.load fs a = .ok d := by
  have readable {a : ClassLocation} (loaded : decoder.load fs a = .ok d) : (a.read fs).isOk := by
    obtain ⟨bytes, read, -⟩ := Decoder.load_eq_ok_iff.1 loaded
    rw [read]
    rfl
  unfold loadUsed
  split
  · rename_i some
    obtain ⟨isUsed, key, canRead⟩ := some.choose_spec
    constructor
    · exact fun loaded => ⟨some.choose, isUsed, key, loaded⟩
    · rintro ⟨a, -, other, loaded⟩
      exact Decoder.load_of_key (other.trans key.symm) loaded canRead
  · rename_i none
    constructor
    · exact fun loaded => ⟨location, isUsed, rfl, loaded⟩
    · rintro ⟨a, fromUsed, key, loaded⟩
      exact absurd ⟨a, fromUsed, key, readable loaded⟩ none

namespace Loading
variable {α β : Type}

/-- What a computation through a loader fails with when it comes to a location that is
misspelled. -/
def FailsMisspelled (fs : FileSystem) (used toRead : ClassLocation → Prop)
    (result : Except CheckError α) : Prop :=
  ∃ location cause, toRead location ∧ fs.Misspelled used location cause ∧
    result = .error (.unloadable location (.unreadable cause))

/-- A computation through a loader that keeps classes of used locations, beside another without a
loader: where it succeeds so does the other, with the same value, and where the other succeeds it
does so as well, or it comes to a location that is misspelled. -/
def Approaches (decoder : Decoder) (fs : FileSystem) (used toRead : ClassLocation → Prop)
    (x : Loading α) (y : Except CheckError α) : Prop :=
  ∀ l, l.Sourced decoder fs used → (outcome l x).2.Sourced decoder fs used ∧
    (∀ a, (outcome l x).1 = .ok a → y = .ok a) ∧
    ∀ a, y = .ok a → (outcome l x).1 = .ok a ∨ FailsMisspelled fs used toRead (outcome l x).1

namespace Approaches
variable {decoder : Decoder} {fs : FileSystem} {used toRead : ClassLocation → Prop}

theorem load {location : ClassLocation} (isUsed : used location) (isRead : toRead location) :
    Approaches decoder fs used toRead (Loading.load fs location)
      (decoder.loadUsed fs used location) := by
  intro l sourced
  refine ⟨outcome_load_snd ▸ sourced.load isUsed, fun d given => ?_, fun d ideal => ?_⟩
  · refine (Decoder.loadUsed_eq_ok_iff isUsed).2 ?_
    rcases sourced.outcome_load location with same | ⟨-, source, fromUsed, key, -, same⟩
    · exact ⟨location, isUsed, rfl, same ▸ given⟩
    · exact ⟨source, fromUsed, key, same ▸ given⟩
  · obtain ⟨a, fromUsed, key, loaded⟩ := (Decoder.loadUsed_eq_ok_iff isUsed).1 ideal
    rcases sourced.outcome_load location with same | ⟨-, source, -, other, readable, same⟩
    · rw [same]
      cases read : location.read fs with
      | ok bytes => exact .inl (Decoder.load_of_key key loaded (by rw [read]; rfl))
      | error cause =>
        obtain ⟨bytes, canRead, -⟩ := Decoder.load_eq_ok_iff.1 loaded
        have misspelled : fs.Misspelled used location cause :=
          ⟨read, a, fromUsed, key, by rw [canRead]; rfl⟩
        exact .inr ⟨location, cause, isRead, misspelled, by rw [Decoder.load, read]⟩
    · exact .inl (same.trans (Decoder.load_of_key (key.trans other.symm) loaded readable))

theorem bind {x : Loading α} {y : Except CheckError α} {f : α → Loading β}
    {g : α → Except CheckError β} (first : Approaches decoder fs used toRead x y)
    (second : ∀ a, Approaches decoder fs used toRead (f a) (g a)) :
    Approaches decoder fs used toRead (x >>= f) (y >>= g) := by
  intro l sourced
  obtain ⟨still, gives, given⟩ := first l sourced
  rw [outcome_bind]
  rcases step : outcome l x with ⟨e | a, next⟩
  · rw [step] at still given
    refine ⟨still, ?_, ?_⟩
    · rintro b ⟨⟩
    · intro b ideal
      obtain ⟨a, here, -⟩ := bind_eq_ok.1 ideal
      rcases given a here with same | ⟨location, cause, isRead, misspelled, same⟩
      · cases same
      · cases same
        exact .inr ⟨location, cause, isRead, misspelled, rfl⟩
  · rw [step] at still gives
    rw [gives a rfl]
    exact second a next still

/-- A check comes to the same as one that reads every class as it was spelled when it was read. -/
theorem simulation (within : ∀ location, toRead location → used location) :
    Simulation fs (decoder.loadUsed fs used) toRead (Approaches decoder fs used toRead) where
  pure _ := fun _ sourced => ⟨sourced, fun _ same => same, fun _ same => .inl same⟩
  throw _ := fun _ sourced => ⟨sourced, by rintro _ ⟨⟩, by rintro _ ⟨⟩⟩
  bind := bind
  load _ isRead := load (within _ isRead) isRead

end Approaches
end Loading

/-! ### One place, spelled in many ways -/

namespace Sample

/-- The working directory with dots behind it that say nothing. -/
def dotted : Nat → Path
  | 0 => ⟨"."⟩
  | n + 1 => ⟨(dotted n).text ++ "/."⟩

/-- The place of a class, with such dots. -/
def dottedPlace (n : Nat) (name : String) : ClassLocation :=
  .directory ⟨name⟩ (dotted n) (name ++ ".class")

theorem utf8ByteSize_dotted (n : Nat) : (dotted n).text.utf8ByteSize = 2 * n + 1 := by
  induction n with
  | zero => decide
  | succ n ih =>
    have step : "/.".utf8ByteSize = 2 := by decide
    rw [dotted, String.utf8ByteSize_append, ih, step]
    omega

theorem key_dottedPlace (n : Nat) (name : String) : (dottedPlace n name).key = (place name).key := by
  induction n with
  | zero => rfl
  | succ n ih =>
    have nonempty : (dotted n).text ≠ "" := by
      rw [Ne, ← String.utf8ByteSize_eq_zero_iff, utf8ByteSize_dotted]
      omega
    exact (ClassLocation.key_directory_dot nonempty _).trans ih

/-- With enough dots the path is too long to be followed. -/
theorem load_dottedPlace {n : Nat} (many : FileSystem.pathLimit ≤ 2 * n + 8) (fs : FileSystem) :
    Decoder.standard.load fs (dottedPlace n "A") = .error (.unloadable (dottedPlace n "A")
      (.unreadable (.unreadable ((dotted n).join ⟨"A.class"⟩) .tooLong))) := by
  have size := utf8ByteSize_dotted n
  have own : "A.class".utf8ByteSize = 7 := by decide
  have relative : Path.isAbsolute ⟨"A.class"⟩ = false := by decide
  have long : FileSystem.pathLimit ≤ ((dotted n).join ⟨"A.class"⟩).text.utf8ByteSize := by
    unfold Path.join
    rw [relative, Bool.false_or]
    split
    · rename_i empty
      rw [beq_iff_eq] at empty
      simp [empty] at size
    · split <;> simp only [String.utf8ByteSize_append] <;> omega
  have file : "A" ++ ".class" = "A.class" := by decide
  have read : (dottedPlace n "A").read fs =
      .error (.unreadable ((dotted n).join ⟨"A.class"⟩) .tooLong) := by
    rw [dottedPlace, ClassLocation.read, file, FileSystem.read, FileSystem.find_of_tooLong long]
    rfl
  rw [Decoder.load, read]

/-- A place that cannot be read is given once it was read as it is spelled otherwise. -/
theorem outcome_dottedPlace :
    (Loading.outcome ((Loader.new Decoder.standard 1).after files [place "A"])
        (Loading.load files (dottedPlace 2045 "A"))).1 = .ok declaredChild ∧
      Decoder.standard.load files (dottedPlace 2045 "A") =
        .error (.unloadable (dottedPlace 2045 "A")
          (.unreadable (.unreadable ((dotted 2045).join ⟨"A.class"⟩) .tooLong))) := by
  refine ⟨?_, load_dottedPlace (by decide) files⟩
  have loaded : Decoder.standard.load files (place "A") = .ok declaredChild :=
    load_of_known _ _ known_child
  have kept : ((Loader.new Decoder.standard 1).after files [place "A"]).kept? (place "A").key =
      some ⟨declaredChild, 0⟩ := by
    show ((Loader.new Decoder.standard 1).load files (place "A")).2.kept? _ = _
    simp only [Loader.load, Loader.new, loaded]
    exact Loader.kept?_touch_self (by decide)
  -- the cache does not see the dots
  rw [← key_dottedPlace 2045] at kept
  unfold Loading.outcome Loading.load Loader.load
  rw [kept]

private theorem readable_of_known {location : ClassLocation} {d : DeclaredClass}
    (isKnown : known location = some d) : (location.read files).isOk := by
  obtain ⟨bytes, read, -⟩ := Decoder.load_eq_ok_iff.1 (load_of_known location d isKnown)
  rw [read]
  rfl

/-- What a check from the class on reads can be read. -/
theorem readsAlike (used : ClassLocation → Prop) : files.ReadsAlike used
    (fun b => b ∈ [place "A"] ∨ (ClassIndex.ofArtifacts classpath).Locates b) := by
  have child : ((place "A").read files).isOk := readable_of_known known_child
  have parent : ((place "B").read files).isOk := readable_of_known known_parent
  rintro a b - (entry | ⟨c, located⟩) - -
  · exact List.mem_singleton.1 entry ▸ child
  · rcases of_location located with ⟨-, rfl⟩ | ⟨-, rfl⟩
    · exact child
    · exact parent

/-- A loader that has evicted a class, read with dots before, gives it as a new one does, and so
they check alike. -/
theorem outcome_after_dottedPlace :
    (Loading.outcome ((Loader.new Decoder.standard 1).after files [dottedPlace 3 "A", place "B"])
        (Loading.load files (place "A"))).1 = .ok declaredChild ∧
      (Loading.outcome ((Loader.new Decoder.standard 1).after files [dottedPlace 3 "A", place "B"])
          (Check.conflicts .standard (Loading.load files) classpath [place "A"])).1 =
        (Loading.outcome (Loader.new Decoder.standard 7)
          (Check.conflicts .standard (Loading.load files) classpath [place "A"])).1 := by
  obtain ⟨-, load, check⟩ := Loading.outcome_eq_of_readsAlike files Decoder.standard 1 7
    [dottedPlace 3 "A", place "B"] []
  constructor
  · rcases load (place "A") with same | ⟨unreadable, -⟩
    · exact same.trans (load_of_known _ _ known_child)
    · simp [readable_of_known known_child] at unreadable
  · exact check _ _ _ (readsAlike _)

end Sample

end Linkage
