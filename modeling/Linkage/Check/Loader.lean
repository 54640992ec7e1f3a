import Linkage.ClassFile.Decoder
import Linkage.Classpath.Location

/-!
Loading classes through a cache. The cache keeps the most recently used locations, failed ones
included; a location that has been decoded is not read again as long as it is kept.
-/
namespace Linkage

/-- Why a class could not be loaded: its file could not be read, or not decoded. -/
inductive LoadError where
  | unreadable (cause : ClasspathError)
  | undecodable (cause : ClassFileError)
  deriving DecidableEq, Repr

namespace LoadError

/-- The message of a class that could not be loaded. -/
def message : LoadError → String
  | .unreadable cause => cause.message
  | .undecodable cause => cause.message

/-- The messages of an error and of what lies behind it, from the outside in. -/
def chain : LoadError → List String
  | .unreadable cause => cause.chain
  | .undecodable (.symbol cause) => [cause.message, cause.message]
  | .undecodable cause => [cause.message]

end LoadError

/-- Why a check could not be finished. -/
inductive CheckError where
  | unloadable (location : ClassLocation) (cause : LoadError)
  | inconsistentIndex (name : ClassName)
  deriving DecidableEq, Repr

namespace CheckError

/-- The message of a check that could not be finished. -/
def message : CheckError → String
  | .unloadable location cause =>
    s!"failed to load class from `{location.display}`: {cause.message}"
  | .inconsistentIndex name =>
    s!"class `{name.dotted}` is reachable but missing from the class index"

/-- The messages of an error and of what lies behind it, from the outside in. -/
def chain (e : CheckError) : List String :=
  match e with
  | .unloadable _ cause => e.message :: cause.chain
  | .inconsistentIndex _ => [e.message]

end CheckError

/-- Reads and decodes the class file at a location. -/
def Decoder.load (decoder : Decoder) (fs : FileSystem) (location : ClassLocation) :
    Except CheckError DeclaredClass :=
  match location.read fs with
  | .error e => .error (.unloadable location (.unreadable e))
  | .ok bytes =>
    match decoder.decode bytes with
    | .error e => .error (.unloadable location (.undecodable e))
    | .ok c => .ok c

/-- A decoded class in the cache, with the number of the decoding that it comes from. -/
structure CachedClass where
  declared : DeclaredClass
  serial : Nat
  deriving DecidableEq

/-- A loader: how it decodes, how many locations it keeps, the locations kept with the most recently
used first, and how many files it has decoded. A location whose file could not be decoded is kept
without a class. -/
structure Loader where
  decoder : Decoder
  capacity : Nat
  slots : List (LocationKey × Option CachedClass)
  decodings : Nat
  deriving DecidableEq

namespace Loader

/-- The number of locations kept when nothing says how many. -/
def defaultCapacity : Nat := 10000

/-- A loader that has loaded nothing. It keeps at least one location. -/
def new (decoder : Decoder) (capacity : Nat) : Loader := ⟨decoder, max 1 capacity, [], 0⟩

/-- The loader that is used when nothing says which. -/
def standard : Loader := new Decoder.standard defaultCapacity

instance : Inhabited Loader := ⟨standard⟩

/-- The number of locations kept. -/
def cached (l : Loader) : Nat := l.slots.length

/-- The class kept for a location, if it has been decoded. -/
def kept? (l : Loader) (key : LocationKey) : Option CachedClass :=
  (l.slots.find? fun s => s.1 = key).bind Prod.snd

/-- Makes a location the most recently used one; the least recently used one goes if there are too
many. -/
def touch (l : Loader) (key : LocationKey) (slot : Option CachedClass) : Loader :=
  { l with slots := ((key, slot) :: l.slots.filter fun s => s.1 ≠ key).take l.capacity }

/-- Loads the class at a location, from the cache if it is kept there. -/
def load (l : Loader) (fs : FileSystem) (location : ClassLocation) :
    Except CheckError CachedClass × Loader :=
  match l.kept? location.key with
  | some c => (.ok c, l.touch location.key (some c))
  | none =>
    match l.decoder.load fs location with
    | .error e => (.error e, l.touch location.key none)
    | .ok declared =>
      let c : CachedClass := ⟨declared, l.decodings⟩
      (.ok c, { l.touch location.key (some c) with decodings := l.decodings + 1 })

/-! What the cache does with its slots: a location that is loaded comes first, and only a new one
that finds no room evicts another, the last. A slot is filled by the first load that succeeds, and a
load that fails leaves it empty. -/

/-- A loader that has room for a location keeps each at most once, and no more than fit. -/
structure Sound (l : Loader) : Prop where
  room : 0 < l.capacity
  nodup : (l.slots.map Prod.fst).Nodup
  fits : l.slots.length ≤ l.capacity

variable {l : Loader}

theorem sound_new (decoder : Decoder) (capacity : Nat) : (new decoder capacity).Sound :=
  ⟨Nat.le_max_left 1 capacity, by simp [new], by simp [new]⟩

theorem keys_touch (key : LocationKey) (slot : Option CachedClass) :
    (l.touch key slot).slots.map Prod.fst =
      (key :: (l.slots.map Prod.fst).filter fun k => !k == key).take l.capacity := by
  have same : (l.slots.filter fun s => s.1 ≠ key) =
      l.slots.filter ((fun k => !k == key) ∘ Prod.fst) := List.filter_congr fun s _ => by
        by_cases here : s.1 = key <;> simp [here]
  rw [touch, List.map_take, List.map_cons, List.filter_map, same]

theorem Sound.touch (sound : l.Sound) (key : LocationKey) (slot : Option CachedClass) :
    (l.touch key slot).Sound := by
  refine ⟨sound.room, ?_, List.length_take_le _ _⟩
  rw [keys_touch]
  refine List.Sublist.nodup (List.take_sublist _ _) (List.nodup_cons.2 ⟨by simp, ?_⟩)
  exact sound.nodup.sublist List.filter_sublist

theorem Sound.load (sound : l.Sound) (fs : FileSystem) (location : ClassLocation) :
    (l.load fs location).2.Sound := by
  unfold Loader.load
  split
  · exact sound.touch _ _
  · split
    · exact sound.touch _ _
    · obtain ⟨room, nodup, fits⟩ := sound.touch location.key (some ⟨_, l.decodings⟩)
      exact ⟨room, nodup, fits⟩

/-- A location that is kept comes first; the others stay as they are. -/
theorem Sound.keys_touch_of_mem (sound : l.Sound) {key : LocationKey}
    (kept : key ∈ l.slots.map Prod.fst) (slot : Option CachedClass) :
    (l.touch key slot).slots.map Prod.fst =
      key :: (l.slots.map Prod.fst).filter fun k => !k == key := by
  have fewer : ((l.slots.map Prod.fst).filter fun k => !k == key).length <
      (l.slots.map Prod.fst).length :=
    List.length_filter_lt_length_iff_exists.2 ⟨key, kept, by simp⟩
  have fits := sound.fits
  rw [keys_touch]
  refine List.take_of_length_le ?_
  rw [List.length_map] at fewer
  rw [List.length_cons]
  omega

/-- A new location comes first; if there is no room for it, the least recently used one goes. -/
theorem Sound.keys_touch_of_not_mem (sound : l.Sound) {key : LocationKey}
    (new : key ∉ l.slots.map Prod.fst) (slot : Option CachedClass) :
    (l.touch key slot).slots.map Prod.fst = key ::
      if l.slots.length < l.capacity then l.slots.map Prod.fst
      else (l.slots.map Prod.fst).dropLast := by
  have others : ((l.slots.map Prod.fst).filter fun k => !k == key) = l.slots.map Prod.fst :=
    List.filter_eq_self.2 fun k member => by
      have apart : k ≠ key := fun same => new (same ▸ member)
      simpa using apart
  have fits := sound.fits
  obtain ⟨n, capacity⟩ := Nat.exists_eq_succ_of_ne_zero (Nat.ne_of_gt sound.room)
  rw [keys_touch, others, capacity, List.take_succ_cons]
  split
  · rw [List.take_of_length_le (by rw [List.length_map]; omega)]
  · have full : (l.slots.map Prod.fst).length - 1 = n := by
      rw [List.length_map]
      omega
    rw [List.dropLast_eq_take, full]

/-- A class that is kept is given as it was decoded, without a look at the file. -/
theorem load_of_kept {location : ClassLocation} {c : CachedClass}
    (kept : l.kept? location.key = some c) (fs : FileSystem) :
    l.load fs location = (.ok c, l.touch location.key (some c)) := by
  rw [load, kept]

/-- Without a class in its slot the file of a location is read, also when the slot is kept. -/
theorem load_of_not_kept {location : ClassLocation} (empty : l.kept? location.key = none)
    (fs : FileSystem) :
    (l.load fs location).1.map CachedClass.declared = l.decoder.load fs location := by
  rw [load, empty]
  cases l.decoder.load fs location <;> rfl

/-- A load leaves what it gave in the slot of the location; if it failed the slot is empty, so that
the next load reads the file again. -/
theorem Sound.slots_load (sound : l.Sound) (fs : FileSystem) (location : ClassLocation) :
    ∃ rest, (l.load fs location).2.slots =
      (location.key, (l.load fs location).1.toOption) :: rest := by
  obtain ⟨n, capacity⟩ := Nat.exists_eq_succ_of_ne_zero (Nat.ne_of_gt sound.room)
  have front (slot : Option CachedClass) : (l.touch location.key slot).slots =
      (location.key, slot) :: (l.slots.filter fun s => s.1 ≠ location.key).take n := by
    rw [Loader.touch, capacity, List.take_succ_cons]
  unfold Loader.load
  split
  · exact ⟨_, front _⟩
  · split
    · exact ⟨_, front _⟩
    · exact ⟨_, front _⟩

end Loader

/-- A computation that loads classes and may fail; what it has cached stays when it fails. -/
abbrev Loading := ExceptT CheckError (StateM Loader)

/-- Loads the class at a location. -/
def Loading.load (fs : FileSystem) (location : ClassLocation) : Loading DeclaredClass :=
  fun l =>
    match l.load fs location with
    | (.ok c, l) => (.ok c.declared, l)
    | (.error e, l) => (.error e, l)

end Linkage
