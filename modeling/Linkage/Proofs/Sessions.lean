import Linkage.Proofs.Loading

/-!
What a cache holds over a session in which classes are loaded while files change. The locations that
are kept are those loaded most recently, failed loads included (`recent`). A location stays from the
load by which it entered until it is evicted (`sinceEntered`), and the first load of that time that
could be decoded decides what is given from then on, whatever the file says by now
(`cache_follows_session`).
-/
namespace Linkage

/-- What happens in a session: the files change, or a class is loaded. -/
inductive SessionStep where
  | change (files : FileSystem)
  | load (location : ClassLocation)

/-- A loader and the files as they are. -/
structure Session where
  loader : Loader
  files : FileSystem

/-- A load that was made, with the files as they were then. -/
structure PastLoad where
  files : FileSystem
  location : ClassLocation

namespace Session

def step (s : Session) : SessionStep → Session
  | .change files => { s with files }
  | .load location => { s with loader := (s.loader.load s.files location).2 }

def run (s : Session) (steps : List SessionStep) : Session := steps.foldl step s

/-- The beginning of a session: nothing has been loaded. -/
def start (decoder : Decoder) (capacity : Nat) (files : FileSystem) : Session :=
  ⟨Loader.new decoder capacity, files⟩

/-- The loads of a session that starts with some files, in order. -/
def loads (files : FileSystem) : List SessionStep → List PastLoad
  | [] => []
  | .change files :: steps => loads files steps
  | .load location :: steps => ⟨files, location⟩ :: loads files steps

/-- The loads of a session, the most recent one first. -/
def pastLoads (files : FileSystem) (steps : List SessionStep) : List PastLoad :=
  (loads files steps).reverse

/-! ### What is kept -/

/-- The locations loaded most recently, each once, as many as fit. -/
def recent (bound : Nat) (past : List PastLoad) : List LocationKey :=
  (past.map (·.location.key)).eraseDups.take bound

/-- The loads of a location since it last entered the cache, none if it is not there. -/
def sinceEntered (bound : Nat) (key : LocationKey) : List PastLoad → List PastLoad
  | [] => []
  | x :: past =>
    if x.location.key = key then
      -- with this load it enters, unless it is there already
      if key ∈ recent bound past then x :: sinceEntered bound key past else [x]
    else
      -- a load of another location may evict it
      if key ∈ recent bound (x :: past) then sinceEntered bound key past else []

/-- The class that the earliest of some loads to succeed has read. -/
def firstDecoded (decoder : Decoder) (past : List PastLoad) : Option DeclaredClass :=
  past.reverse.findSome? fun x => (decoder.load x.files x.location).toOption

section
variable {κ : Type} [DecidableEq κ]

private theorem eraseDups_filter_ne (k : κ) (l : List κ) :
    (l.filter fun a => !a == k).eraseDups = l.eraseDups.filter fun a => !a == k := by
  cases l with
  | nil => rfl
  | cons a l =>
    have rest := eraseDups_filter_ne k (l.filter fun b => !b == a)
    by_cases same : a = k
    · subst same
      rw [List.eraseDups_cons, List.filter_cons_of_neg (by simp), List.filter_cons_of_neg (by simp),
        ← rest, List.filter_filter]
      simp only [Bool.and_self]
    · rw [List.eraseDups_cons, List.filter_cons_of_pos (by simpa using same),
        List.filter_cons_of_pos (by simpa using same), List.eraseDups_cons, ← rest,
        List.filter_filter, List.filter_filter]
      simp only [Bool.and_comm]
termination_by l.length
decreasing_by
  have bound := List.length_filter_le (fun b => !b == a) l
  simp only [List.length_cons]
  omega

private theorem nodup_eraseDups (l : List κ) : l.eraseDups.Nodup := by
  cases l with
  | nil => exact List.nodup_nil
  | cons a l =>
    rw [List.eraseDups_cons, List.nodup_cons]
    exact ⟨by simp [List.mem_eraseDups], nodup_eraseDups _⟩
termination_by l.length
decreasing_by
  have bound := List.length_filter_le (fun b => !b == a) l
  simp only [List.length_cons]
  omega

/-- Where one element is left out that may have been anywhere, one more than wanted is enough to
look at. -/
private theorem take_filter_ne {k : κ} {l : List κ} (nodup : l.Nodup) (n : Nat) :
    ((l.take (n + 1)).filter fun a => !a == k).take n = (l.filter fun a => !a == k).take n := by
  induction l generalizing n with
  | nil => rfl
  | cons a l ih =>
    obtain ⟨fresh, rest⟩ := List.nodup_cons.1 nodup
    by_cases same : a = k
    · subst same
      have kept : ∀ m ⊆ l, (m.filter fun b => !b == a) = m := fun m inside =>
        List.filter_eq_self.2 fun b member => by
          have : b ≠ a := fun here => fresh (here ▸ inside member)
          simpa using this
      rw [List.take_succ_cons, List.filter_cons_of_neg (by simp), List.filter_cons_of_neg (by simp),
        kept _ (List.take_subset n l), kept l (List.Subset.refl l), List.take_take, Nat.min_self]
    · rw [List.take_succ_cons, List.filter_cons_of_pos (by simpa using same),
        List.filter_cons_of_pos (by simpa using same)]
      cases n with
      | zero => rfl
      | succ n => rw [List.take_succ_cons, List.take_succ_cons, ih rest]

end

/-- A load puts its location in front of the others; the last goes if there are too many. -/
theorem recent_cons (bound : Nat) (x : PastLoad) (past : List PastLoad) :
    recent bound (x :: past) =
      (x.location.key :: (recent bound past).filter fun k => !k == x.location.key).take bound := by
  cases bound with
  | zero => rfl
  | succ n =>
    rw [recent, recent, List.map_cons, List.eraseDups_cons, eraseDups_filter_ne, List.take_succ_cons,
      List.take_succ_cons, take_filter_ne (nodup_eraseDups _)]

/-- What the cache remembers of a location: the class first decoded since it last entered. -/
def remembered (decoder : Decoder) (bound : Nat) (past : List PastLoad) (key : LocationKey) :
    Option DeclaredClass :=
  firstDecoded decoder (sinceEntered bound key past)

theorem firstDecoded_cons (decoder : Decoder) (x : PastLoad) (past : List PastLoad) :
    firstDecoded decoder (x :: past) =
      (firstDecoded decoder past).or (decoder.load x.files x.location).toOption := by
  rw [firstDecoded, List.reverse_cons, List.findSome?_append]
  simp [firstDecoded]

end Session

namespace Loader
variable {l : Loader}

theorem kept?_of_not_mem {key : LocationKey} (absent : key ∉ l.slots.map Prod.fst) :
    l.kept? key = none := by
  have none : (l.slots.find? fun s => s.1 = key) = none :=
    List.find?_eq_none.2 fun s member same => absent (List.mem_map.2 ⟨s, member, by simpa using same⟩)
  rw [kept?, none]
  rfl

/-- Another location keeps what it has unless it goes. -/
theorem kept?_touch_of_ne {key other : LocationKey} (slot : Option CachedClass)
    (apart : other ≠ key) : (l.touch key slot).kept? other =
      if other ∈ (l.touch key slot).slots.map Prod.fst then l.kept? other else none := by
  let all := (key, slot) :: l.slots.filter fun s => s.1 ≠ key
  have whole : (all.find? fun s => s.1 = other) = l.slots.find? fun s => s.1 = other := by
    rw [List.find?_cons_of_neg (by simpa using apart.symm), List.find?_filter]
    congr 1
    funext s
    by_cases here : s.1 = other <;> simp [here, apart]
  -- the first slot for the location is among those that stay if any is
  have cut : (all.find? fun s => s.1 = other) =
      ((all.take l.capacity).find? fun s => s.1 = other).or
        ((all.drop l.capacity).find? fun s => s.1 = other) := by
    rw [← List.find?_append, List.take_append_drop]
  split
  · rename_i stays
    obtain ⟨s, member, same⟩ := List.mem_map.1 stays
    have some : ((all.take l.capacity).find? fun s => s.1 = other).isSome :=
      List.find?_isSome.2 ⟨s, member, by simpa using same⟩
    obtain ⟨found, first⟩ := Option.isSome_iff_exists.1 some
    rw [first, Option.some_or] at cut
    rw [kept?, kept?, ← whole, cut]
    exact congrArg (·.bind Prod.snd) first
  · rename_i goes
    exact kept?_of_not_mem goes

/-- What a load leaves in the slot of its location: what was kept there, or else what was read. -/
theorem load_snd (l : Loader) (files : FileSystem) (location : ClassLocation) :
    ∃ slot decodings, (l.load files location).2 =
        { l.touch location.key slot with decodings } ∧
      slot.map CachedClass.declared = ((l.kept? location.key).map CachedClass.declared).or
        (l.decoder.load files location).toOption := by
  unfold load
  cases kept : l.kept? location.key with
  | some c => exact ⟨some c, l.decodings, rfl, by simp⟩
  | none =>
    cases read : l.decoder.load files location with
    | error e => exact ⟨none, l.decodings, rfl, by simp [Except.toOption]⟩
    | ok d => exact ⟨some ⟨d, l.decodings⟩, l.decodings + 1, rfl, by simp [Except.toOption]⟩

end Loader

namespace Session

/-- A loader that has come through some past loads: it keeps the locations loaded most recently, and
for each what was first decoded since it entered. -/
structure Tracks (decoder : Decoder) (bound : Nat) (past : List PastLoad) (l : Loader) : Prop where
  decodes : l.decoder = decoder
  capacity : l.capacity = bound
  keys : l.slots.map Prod.fst = recent bound past
  keeps : ∀ key, (l.kept? key).map CachedClass.declared = remembered decoder bound past key

variable {decoder : Decoder} {bound : Nat} {past : List PastLoad} {l : Loader}

theorem tracks_new (decoder : Decoder) (capacity : Nat) :
    Tracks decoder (max 1 capacity) [] (Loader.new decoder capacity) :=
  ⟨rfl, rfl, by simp [Loader.new, recent], fun _ => rfl⟩

/-- One load keeps track. -/
theorem Tracks.load (tracks : Tracks decoder bound past l) (room : 0 < bound) (files : FileSystem)
    (location : ClassLocation) :
    Tracks decoder bound (⟨files, location⟩ :: past) (l.load files location).2 := by
  obtain ⟨rfl, rfl, keys, keeps⟩ := tracks
  obtain ⟨slot, decodings, after, left⟩ := l.load_snd files location
  have newKeys : (l.touch location.key slot).slots.map Prod.fst =
      recent l.capacity (⟨files, location⟩ :: past) := by
    rw [Loader.keys_touch, keys, recent_cons]
  rw [after]
  refine ⟨rfl, rfl, newKeys, fun key => ?_⟩
  show ((l.touch location.key slot).kept? key).map CachedClass.declared = _
  by_cases here : location.key = key
  · subst here
    rw [Loader.kept?_touch_self room, left, remembered, sinceEntered, if_pos rfl]
    split
    · rw [keeps, firstDecoded_cons, remembered]
    · rename_i enters
      rw [Loader.kept?_of_not_mem (keys ▸ enters), firstDecoded_cons]
      rfl
  · rw [Loader.kept?_touch_of_ne slot (Ne.symm here), newKeys, remembered, sinceEntered,
      if_neg here]
    split
    · exact keeps key
    · rfl

/-- A session keeps track, whatever happens to the files. -/
theorem Tracks.run (tracks : Tracks decoder bound past l) (room : 0 < bound) (files : FileSystem)
    (steps : List SessionStep) :
    Tracks decoder bound ((loads files steps).reverse ++ past) (run ⟨l, files⟩ steps).loader := by
  induction steps generalizing l files past with
  | nil => exact tracks
  | cons first steps ih =>
    cases first with
    | change changed => exact ih tracks changed
    | load location =>
      rw [loads, List.reverse_cons, List.append_assoc]
      exact ih (tracks.load room files location) files

/-- A session keeps each location in one slot, and no more than fit. -/
theorem sound_run (sound : l.Sound) (files : FileSystem) (steps : List SessionStep) :
    (run ⟨l, files⟩ steps).loader.Sound := by
  induction steps generalizing l files with
  | nil => exact sound
  | cons first steps ih =>
    cases first with
    | change changed => exact ih sound changed
    | load location => exact ih (sound.load files location) files

/-- What a cache holds, and what it gives, over a session of any length. After each step the kept
locations are those loaded most recently, as many as fit and failed loads included. The next load of
a location gives what was first decoded since the location entered the cache, whatever the file says
by now and without looking at it; if nothing was, the file is read and decoded as it is now. -/
theorem cache_follows_session (decoder : Decoder) (capacity : Nat) (files : FileSystem)
    (steps : List SessionStep) :
    ((start decoder capacity files).run steps).loader.slots.map Prod.fst =
        recent (max 1 capacity) (pastLoads files steps) ∧
      ((start decoder capacity files).run steps).loader.cached ≤ max 1 capacity ∧
      ∀ location : ClassLocation,
        match remembered decoder (max 1 capacity) (pastLoads files steps) location.key with
        | some d => ∃ c after, c.declared = d ∧ ∀ now,
          ((start decoder capacity files).run steps).loader.load now location = (.ok c, after)
        | none => ∀ now, (Loading.outcome ((start decoder capacity files).run steps).loader
          (Loading.load now location)).1 = decoder.load now location := by
  have tracks : Tracks decoder (max 1 capacity) (pastLoads files steps)
      ((start decoder capacity files).run steps).loader := by
    have whole := (tracks_new decoder capacity).run (Nat.le_max_left 1 capacity) files steps
    rwa [List.append_nil] at whole
  refine ⟨tracks.keys, ?_, fun location => ?_⟩
  · rw [← tracks.capacity]
    exact (sound_run (Loader.sound_new decoder capacity) files steps).fits
  · have keeps := tracks.keeps location.key
    cases kept : ((start decoder capacity files).run steps).loader.kept? location.key with
    | some c =>
      rw [kept, Option.map_some] at keeps
      rw [← keeps]
      exact ⟨c, _, rfl, Loader.load_of_kept kept⟩
    | none =>
      rw [kept, Option.map_none] at keeps
      rw [← keeps]
      intro now
      have read := Loader.load_of_not_kept kept now
      rw [tracks.decodes] at read
      rw [← read, Loading.outcome, Loading.load]
      rcases Loader.load _ now location with ⟨_ | _, _⟩ <;> rfl

end Session
end Linkage
