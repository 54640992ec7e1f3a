import Linkage.Proofs.Sessions
import Linkage.Proofs.Transparency
import Linkage.Proofs.Traversal

/-!
The search for a member step by step, without a bound on its depth. Parents wait to be asked on a
stack, one list for each class on the way (`step`). A class answers for its members only if its
declared name was not asked before, so no name is searched twice (`Logged`). The names that can
still be new are those that the loader may give for the classes of the index. A circle uses them up
like any other way, whatever the class files call themselves, so the search comes to its end, with
what `Resolution.resolve` says (`resolve_ends`).
-/
namespace Linkage.Ascent
open Traversal (outcome outcome_bind_ok outcome_bind_error)

/-- Where a search is between two steps: no class has answered and parents wait on a stack, those of
the class asked last on top; or it is at its end. -/
inductive Place (δ ε : Type) where
  | waiting (stack : List (List ClassName))
  | ended (result : Except ε (Option (Reference δ)))

/-- A search under way: where it is, the names that have been asked, and the classes whose members
have been searched, in order. -/
structure Run (δ ε : Type) where
  place : Place δ ε
  asked : List ClassName
  searched : List DeclaredClass

section
variable {δ ε σ : Type}

/-- Comes to a class. Its members are searched unless its name was asked before; if none has the
wanted descriptor, its parents are next. -/
def ask (lookup : DeclaredClass → δ → Option (Reference δ)) (wanted : Reference δ)
    (c : DeclaredClass) (stack : List (List ClassName)) (asked : List ClassName)
    (searched : List DeclaredClass) : Run δ ε :=
  if c.name ∈ asked then ⟨.waiting stack, asked, searched⟩
  else
    match lookup c wanted.descriptor with
    | some found =>
      ⟨if found.isStatic = wanted.isStatic then .ended (.ok (some found)) else .waiting stack,
        c.name :: asked, searched ++ [c]⟩
    | none => ⟨.waiting (c.parents :: stack), c.name :: asked, searched ++ [c]⟩

/-- Where the search starts. -/
def start (lookup : DeclaredClass → δ → Option (Reference δ)) (wanted : Reference δ)
    (target : DeclaredClass) : Run δ ε := ask lookup wanted target [] [] []

/-- One step: the parent on top of the stack is loaded and asked. The loader has a state of its own,
and the search ends when it fails. -/
def step (load : ClassLocation → ExceptT ε (StateM σ) DeclaredClass) (index : ClassIndex)
    (lookup : DeclaredClass → δ → Option (Reference δ)) (wanted : Reference δ) :
    Run δ ε × σ → Run δ ε × σ
  | (⟨.ended result, asked, searched⟩, s) => (⟨.ended result, asked, searched⟩, s)
  | (⟨.waiting [], asked, searched⟩, s) => (⟨.ended (.ok none), asked, searched⟩, s)
  | (⟨.waiting ([] :: stack), asked, searched⟩, s) => (⟨.waiting stack, asked, searched⟩, s)
  | (⟨.waiting ((p :: ps) :: stack), asked, searched⟩, s) =>
    match outcome s (index.load load p) with
    | (.error e, s) => (⟨.ended (.error e), asked, searched⟩, s)
    | (.ok none, s) => (⟨.waiting (ps :: stack), asked, searched⟩, s)
    | (.ok (some d), s) => (ask lookup wanted d (ps :: stack) asked searched, s)

end

section
variable {δ ε σ : Type} {load : ClassLocation → ExceptT ε (StateM σ) DeclaredClass}
  {index : ClassIndex} {lookup : DeclaredClass → δ → Option (Reference δ)} {wanted : Reference δ}

/-! ### No name is searched twice -/

/-- The names asked are those of the classes searched, and no two of these have the same name. -/
structure Logged (r : Run δ ε) : Prop where
  asked : ∀ n, n ∈ r.asked ↔ n ∈ r.searched.map DeclaredClass.name
  distinct : (r.searched.map DeclaredClass.name).Nodup

theorem Logged.of_place {place other : Place δ ε} {asked : List ClassName}
    {searched : List DeclaredClass} (logged : Logged ⟨place, asked, searched⟩) :
    Logged ⟨other, asked, searched⟩ := ⟨logged.asked, logged.distinct⟩

theorem Logged.push {place other : Place δ ε} {asked : List ClassName}
    {searched : List DeclaredClass} {c : DeclaredClass} (logged : Logged ⟨place, asked, searched⟩)
    (new : c.name ∉ asked) : Logged ⟨other, c.name :: asked, searched ++ [c]⟩ := by
  constructor
  · intro n
    rw [List.mem_cons, logged.asked n, List.map_append, List.mem_append, or_comm]
    simp
  · have apart : c.name ∉ searched.map DeclaredClass.name := fun old => new ((logged.asked _).2 old)
    rw [List.map_append, List.nodup_append]
    refine ⟨logged.distinct, List.pairwise_singleton _ _, ?_⟩
    intro a before b here same
    rw [List.mem_singleton.1 here] at same
    exact apart (same ▸ before)

theorem Logged.ask {place : Place δ ε} {asked : List ClassName} {searched : List DeclaredClass}
    (logged : Logged ⟨place, asked, searched⟩) (c : DeclaredClass) (stack : List (List ClassName)) :
    Logged (ask lookup wanted c stack asked searched : Run δ ε) := by
  unfold Ascent.ask
  split
  · exact logged.of_place
  · rename_i new
    split
    · exact logged.push new
    · exact logged.push new

theorem Logged.step {x : Run δ ε × σ} (logged : Logged x.1) :
    Logged (step load index lookup wanted x).1 := by
  unfold Ascent.step
  split
  · exact logged
  · exact logged.of_place
  · exact logged.of_place
  · split
    · exact logged.of_place
    · exact logged.of_place
    · exact logged.ask _ _

theorem logged_iterate (load : ClassLocation → ExceptT ε (StateM σ) DeclaredClass)
    (index : ClassIndex) (lookup : DeclaredClass → δ → Option (Reference δ)) (wanted : Reference δ)
    (target : DeclaredClass) (s : σ) (steps : Nat) :
    Logged ((step load index lookup wanted)^[steps] (start lookup wanted target, s)).1 := by
  induction steps with
  | zero =>
    have nothing : Logged (⟨.waiting [], [], []⟩ : Run δ ε) := ⟨by simp, List.nodup_nil⟩
    exact nothing.ask target []
  | succ steps ih =>
    rw [Function.iterate_succ_apply']
    exact ih.step

/-! ### The end of the search -/

/-- Some steps lead from one point of a search to another. -/
def Leads (load : ClassLocation → ExceptT ε (StateM σ) DeclaredClass) (index : ClassIndex)
    (lookup : DeclaredClass → δ → Option (Reference δ)) (wanted : Reference δ)
    (x y : Run δ ε × σ) : Prop := ∃ steps, (step load index lookup wanted)^[steps] x = y

theorem Leads.refl (x : Run δ ε × σ) : Leads load index lookup wanted x x := ⟨0, rfl⟩

theorem Leads.trans {x y z : Run δ ε × σ} (first : Leads load index lookup wanted x y)
    (second : Leads load index lookup wanted y z) : Leads load index lookup wanted x z := by
  obtain ⟨m, rfl⟩ := first
  obtain ⟨n, rfl⟩ := second
  exact ⟨n + m, Function.iterate_add_apply _ n m x⟩

theorem step_error {p : ClassName} {ps asked : List ClassName} {stack : List (List ClassName)}
    {searched : List DeclaredClass} {s after : σ} {e : ε}
    (failed : outcome s (index.load load p) = (.error e, after)) :
    step load index lookup wanted (⟨.waiting ((p :: ps) :: stack), asked, searched⟩, s) =
      (⟨.ended (.error e), asked, searched⟩, after) := by
  rw [step, failed]

theorem step_absent {p : ClassName} {ps asked : List ClassName} {stack : List (List ClassName)}
    {searched : List DeclaredClass} {s after : σ}
    (absent : outcome s (index.load load p) = (.ok none, after)) :
    step load index lookup wanted (⟨.waiting ((p :: ps) :: stack), asked, searched⟩, s) =
      (⟨.waiting (ps :: stack), asked, searched⟩, after) := by
  rw [step, absent]

theorem step_loaded {p : ClassName} {ps asked : List ClassName} {stack : List (List ClassName)}
    {searched : List DeclaredClass} {s after : σ} {d : DeclaredClass}
    (loaded : outcome s (index.load load p) = (.ok (some d), after)) :
    step load index lookup wanted (⟨.waiting ((p :: ps) :: stack), asked, searched⟩, s) =
      (ask lookup wanted d (ps :: stack) asked searched, after) := by
  rw [step, loaded]

/-- Where a search is left by what the recursion gives: at its end, or with the parents that wait
below. -/
def landing (stack : List (List ClassName)) :
    Except ε (Option (Reference δ) × List ClassName) → Place δ ε
  | .error e => .ended (.error e)
  | .ok (some m, _) => .ended (.ok (some m))
  | .ok (none, _) => .waiting stack

/-- A loader that stays in some states as long as it is asked for classes of the index, and then
gives only declarations with some names. -/
def Confined (load : ClassLocation → ExceptT ε (StateM σ) DeclaredClass) (index : ClassIndex)
    (names : List ClassName) (states : σ → Prop) : Prop :=
  ∀ p s, states s → states (outcome s (index.load load p)).2 ∧
    ∀ d, (outcome s (index.load load p)).1 = .ok (some d) → d.name ∈ names

/-- The names that remain to be asked. -/
def remaining (names asked : List ClassName) : List ClassName := names.filter (· ∉ asked)

theorem length_remaining_le {names asked after : List ClassName} (more : asked ⊆ after) :
    (remaining names after).length ≤ (remaining names asked).length := by
  refine (List.monotone_filter_right names fun n left => ?_).length_le
  simp only [decide_eq_true_eq] at left ⊢
  exact fun old => left (more old)

theorem length_remaining_lt {names asked : List ClassName} {n : ClassName} (known : n ∈ names)
    (new : n ∉ asked) :
    (remaining names (n :: asked)).length < (remaining names asked).length := by
  have again : remaining names (n :: asked) = (remaining names asked).filter (· ≠ n) := by
    rw [remaining, remaining, List.filter_filter]
    refine List.filter_congr fun m _ => ?_
    by_cases same : m = n <;> simp [same]
  rw [again]
  refine List.length_filter_lt_length_iff_exists.2 ⟨n, ?_, by simp⟩
  exact List.mem_filter.2 ⟨known, by simpa using new⟩

/-- The steps from a point at which some names have been asked lead to where the recursion does,
with the loader in the same state, and this is one of some states. -/
structure Lands (load : ClassLocation → ExceptT ε (StateM σ) DeclaredClass) (index : ClassIndex)
    (lookup : DeclaredClass → δ → Option (Reference δ)) (wanted : Reference δ) (states : σ → Prop)
    (x : Run δ ε × σ) (stack : List (List ClassName)) (asked : List ClassName)
    (given : Except ε (Option (Reference δ) × List ClassName) × σ) : Prop where
  leads : ∃ after searched,
    Leads load index lookup wanted x (⟨landing stack given.1, after, searched⟩, given.2) ∧
      ∀ result names, given.1 = .ok (result, names) → after = names ∧ asked ⊆ names
  stays : states given.2

section
variable {names : List ClassName} {states : σ → Prop} {asked : List ClassName}
  {searched : List DeclaredClass} {stack : List (List ClassName)} {s : σ}

theorem Lands.of_leads {x y : Run δ ε × σ} {first : List ClassName}
    {given : Except ε (Option (Reference δ) × List ClassName) × σ} (more : first ⊆ asked)
    (leads : Leads load index lookup wanted x y)
    (lands : Lands load index lookup wanted states y stack asked given) :
    Lands load index lookup wanted states x stack first given := by
  obtain ⟨⟨after, searched, rest, left⟩, stays⟩ := lands
  refine ⟨⟨after, searched, leads.trans rest, fun result names same => ?_⟩, stays⟩
  exact ⟨(left result names same).1, List.Subset.trans more (left result names same).2⟩

theorem Lands.of_step {x y : Run δ ε × σ}
    {given : Except ε (Option (Reference δ) × List ClassName) × σ}
    (first : step load index lookup wanted x = y)
    (lands : Lands load index lookup wanted states y stack asked given) :
    Lands load index lookup wanted states x stack asked given :=
  lands.of_leads (List.Subset.refl _) ⟨1, first⟩

/-- Where the recursion has given something, the steps are there already. -/
theorem Lands.here {place : Place δ ε} {result : Option (Reference δ)} {first : List ClassName}
    (there : place = landing stack (.ok (result, asked))) (more : first ⊆ asked)
    (inside : states s) :
    Lands load index lookup wanted states (⟨place, asked, searched⟩, s) stack first
      (.ok (result, asked), s) := by
  subst there
  refine ⟨⟨asked, searched, .refl _, ?_⟩, inside⟩
  rintro _ _ ⟨⟩
  exact ⟨rfl, more⟩

/-- What the recursion asks of a parent. -/
def askParent (load : ClassLocation → ExceptT ε (StateM σ) DeclaredClass) (index : ClassIndex)
    (lookup : DeclaredClass → δ → Option (Reference δ)) (wanted : Reference δ) (fuel : Nat)
    (p : ClassName) (asked : List ClassName) :
    ExceptT ε (StateM σ) (Option (Reference δ) × List ClassName) := do
  match ← index.load load p with
  | none => return (none, asked)
  | some declared => Resolution.search index load lookup wanted fuel declared asked

theorem search_succ (fuel : Nat) (c : DeclaredClass) (asked : List ClassName) :
    Resolution.search index load lookup wanted (fuel + 1) c asked =
      if c.name ∈ asked then pure (none, asked)
      else match lookup c wanted.descriptor with
        | some found => pure (if found.isStatic = wanted.isStatic then some found else none,
            c.name :: asked)
        | none => Resolution.firstSome (askParent load index lookup wanted fuel) c.parents
            (c.name :: asked) := rfl

/-- The parents of a class are asked one after the other. -/
theorem lands_firstSome (confined : Confined load index names states) {fuel : Nat}
    (each : ∀ d asked searched stack s, states s →
      (d.name ∉ asked → (remaining names (d.name :: asked)).length < fuel) →
      Lands load index lookup wanted states (ask lookup wanted d stack asked searched, s) stack
        asked (outcome s (Resolution.search index load lookup wanted fuel d asked)))
    {ps : List ClassName} (inside : states s) (bound : (remaining names asked).length ≤ fuel) :
    Lands load index lookup wanted states (⟨.waiting (ps :: stack), asked, searched⟩, s) stack asked
      (outcome s (Resolution.firstSome (askParent load index lookup wanted fuel) ps asked)) := by
  induction ps generalizing asked searched s with
  | nil =>
    have past : Lands load index lookup wanted states (⟨.waiting stack, asked, searched⟩, s) stack
        asked (.ok (none, asked), s) := .here rfl (List.Subset.refl _) inside
    exact .of_step rfl past
  | cons p ps ih =>
    rw [Resolution.firstSome]
    obtain ⟨stays, named⟩ := confined p s inside
    rcases loaded : outcome s (index.load load p) with ⟨e | _ | d, after⟩
    · rw [loaded] at stays
      have failed : outcome s (askParent load index lookup wanted fuel p asked) =
          (.error e, after) := outcome_bind_error _ loaded
      rw [outcome_bind_error _ failed]
      refine .of_step (step_error loaded) ⟨⟨asked, searched, .refl _, ?_⟩, stays⟩
      rintro _ _ ⟨⟩
    · rw [loaded] at stays
      have absent : outcome s (askParent load index lookup wanted fuel p asked) =
          (.ok (none, asked), after) := outcome_bind_ok _ loaded
      rw [outcome_bind_ok _ absent]
      exact .of_step (step_absent loaded) (ih stays bound)
    · rw [loaded] at stays named
      have known : d.name ∈ names := named d rfl
      have lands := each d asked searched (ps :: stack) after stays fun new =>
        Nat.lt_of_lt_of_le (length_remaining_lt known new) bound
      have asks : outcome s (askParent load index lookup wanted fuel p asked) =
          outcome after (Resolution.search index load lookup wanted fuel d asked) :=
        outcome_bind_ok _ loaded
      refine .of_step (step_loaded loaded) ?_
      rcases found : outcome after (Resolution.search index load lookup wanted fuel d asked) with
        ⟨e | ⟨_ | m, more⟩, next⟩
      · rw [found] at lands
        rw [outcome_bind_error _ (asks.trans found)]
        exact ⟨lands.leads, lands.stays⟩
      · -- no answer: the next parent is asked, with at least the same names behind it
        rw [found] at lands
        rw [outcome_bind_ok _ (asks.trans found)]
        obtain ⟨⟨after, searched, leads, left⟩, stays⟩ := lands
        obtain ⟨rfl, kept⟩ := left none more rfl
        exact .of_leads kept leads (ih stays (Nat.le_trans (length_remaining_le kept) bound))
      · rw [found] at lands
        rw [outcome_bind_ok _ (asks.trans found)]
        exact ⟨lands.leads, lands.stays⟩

/-- A name that was asked before is not asked again. -/
theorem lands_again {c : DeclaredClass} (inside : states s) (old : c.name ∈ asked) :
    Lands load index lookup wanted states (ask lookup wanted c stack asked searched, s) stack asked
      (.ok (none, asked), s) := by
  rw [ask, if_pos old]
  exact .here rfl (List.Subset.refl _) inside

/-- A class is asked and then its parents. The depth of the recursion suffices, since with every
class on the way one name less remains. -/
theorem lands_search (confined : Confined load index names states) (fuel : Nat) (c : DeclaredClass)
    (asked : List ClassName) (searched : List DeclaredClass) (stack : List (List ClassName)) (s : σ)
    (inside : states s)
    (enough : c.name ∉ asked → (remaining names (c.name :: asked)).length < fuel) :
    Lands load index lookup wanted states (ask lookup wanted c stack asked searched, s) stack asked
      (outcome s (Resolution.search index load lookup wanted fuel c asked)) := by
  induction fuel generalizing c asked searched stack s with
  | zero =>
    by_cases old : c.name ∈ asked
    · exact lands_again inside old
    · exact absurd (enough old) (Nat.not_lt_zero _)
  | succ fuel ih =>
    rw [search_succ]
    by_cases old : c.name ∈ asked
    · rw [if_pos old]
      exact lands_again inside old
    · rw [if_neg old, ask, if_neg old]
      have more : asked ⊆ c.name :: asked := List.subset_cons_self _ _
      cases lookup c wanted.descriptor with
      | some found =>
        refine .here ?_ more inside
        split <;> rfl
      | none =>
        exact (lands_firstSome confined ih inside (Nat.le_of_lt_succ (enough old))).of_leads more
          (.refl _)

/-- A search through a loader that gives few enough names comes to its end, with what the recursion
gives and after asking the same names. -/
theorem ends_of_confined (confined : Confined load index names states) (inside : states s)
    (few : names.length ≤ 2 * index.size) (lookup : DeclaredClass → δ → Option (Reference δ))
    (wanted : Reference δ) (target : DeclaredClass) :
    ∃ steps result after asked searched,
      (step load index lookup wanted)^[steps] (start lookup wanted target, s) =
        (⟨.ended result, asked, searched⟩, after) ∧
      outcome s (Resolution.search index load lookup wanted (2 * index.size + 1) target []) =
        (result.map (·, asked), after) := by
  have bound : (remaining names [target.name]).length ≤ names.length := List.length_filter_le _ _
  have lands : Lands load index lookup wanted states (start lookup wanted target, s) [] []
      (outcome s (Resolution.search index load lookup wanted (2 * index.size + 1) target [])) :=
    lands_search confined _ target [] [] [] s inside fun _ => by omega
  obtain ⟨⟨asked, searched, leads, same⟩, -⟩ := lands
  rcases found : outcome s
      (Resolution.search index load lookup wanted (2 * index.size + 1) target [])
    with ⟨e | ⟨_ | m, more⟩, after⟩
  · rw [found] at leads
    obtain ⟨steps, ends⟩ := leads
    exact ⟨steps, .error e, after, asked, searched, ends, rfl⟩
  · -- no parent waits any more
    rw [found] at leads same
    obtain ⟨rfl, -⟩ := same none more rfl
    obtain ⟨steps, ends⟩ := leads.trans ⟨1, rfl⟩
    exact ⟨steps, .ok none, after, asked, searched, ends, rfl⟩
  · rw [found] at leads same
    obtain ⟨rfl, -⟩ := same (some m) more rfl
    obtain ⟨steps, ends⟩ := leads
    exact ⟨steps, .ok (some m), after, asked, searched, ends, rfl⟩

theorem outcome_resolve {target : DeclaredClass} {result : Except ε (Option (Reference δ))}
    {after : σ}
    (given : outcome s (Resolution.search index load lookup wanted (2 * index.size + 1) target []) =
      (result.map (·, asked), after)) :
    outcome s (Resolution.resolve index load lookup target wanted) = (result, after) := by
  cases result with
  | error e => exact outcome_bind_error _ given
  | ok r => exact outcome_bind_ok _ given

end
end

/-! ### Through a loader -/

/-- The name of the declaration that a loader keeps for a class of an index. -/
def keptName? (l : Loader) (index : ClassIndex) (p : ClassName) : Option ClassName := do
  let location ← index.location? p
  let c ← l.kept? location.key
  return c.declared.name

/-- The name that the file of a class of an index declares. -/
def fileName? (decoder : Decoder) (fs : FileSystem) (index : ClassIndex) (p : ClassName) :
    Option ClassName := do
  let location ← index.location? p
  let d ← (decoder.load fs location).toOption
  return d.name

/-- The names of the declarations that a loader may give for the classes of an index: the one kept
for a class, and the one that its file declares when the other has been evicted. -/
def declaredNames (l : Loader) (fs : FileSystem) (index : ClassIndex) : List ClassName :=
  index.classes.filterMap (keptName? l index) ++
    index.classes.filterMap (fileName? l.decoder fs index)

section
variable {l first : Loader} {fs : FileSystem} {index : ClassIndex} {p : ClassName}
  {location : ClassLocation}

theorem length_declaredNames_le (l : Loader) (fs : FileSystem) (index : ClassIndex) :
    (declaredNames l fs index).length ≤ 2 * index.size := by
  have kept := List.length_filterMap_le (keptName? l index) index.classes
  have read := List.length_filterMap_le (fileName? l.decoder fs index) index.classes
  have size : index.classes.length = index.size := by
    simp [ClassIndex.classes, ClassIndex.size, InsertionMap.keys, InsertionMap.size]
  rw [declaredNames, List.length_append]
  omega

theorem mem_declaredNames_of_kept {c : CachedClass} (found : index.location? p = some location)
    (kept : l.kept? location.key = some c) : c.declared.name ∈ declaredNames l fs index := by
  refine List.mem_append_left _ (List.mem_filterMap.2 ⟨p, ?_, ?_⟩)
  · exact ClassIndex.mem_classes_iff.2 (Option.isSome_iff_exists.2 ⟨location, found⟩)
  · simp [keptName?, found, kept]

theorem mem_declaredNames_of_read {d : DeclaredClass} (found : index.location? p = some location)
    (read : l.decoder.load fs location = .ok d) : d.name ∈ declaredNames l fs index := by
  refine List.mem_append_right _ (List.mem_filterMap.2 ⟨p, ?_, ?_⟩)
  · exact ClassIndex.mem_classes_iff.2 (Option.isSome_iff_exists.2 ⟨location, found⟩)
  · simp [fileName?, found, read, Except.toOption]

/-- A loader that has come from another by loading classes of an index: what it keeps for these, the
other kept as well or may read. -/
structure ComesFrom (first : Loader) (fs : FileSystem) (index : ClassIndex) (l : Loader) :
    Prop where
  decodes : l.decoder = first.decoder
  keeps : ∀ location, index.Locates location → ∀ c, l.kept? location.key = some c →
    c.declared.name ∈ declaredNames first fs index

theorem ComesFrom.refl (l : Loader) (fs : FileSystem) (index : ClassIndex) :
    ComesFrom l fs index l := by
  refine ⟨rfl, ?_⟩
  rintro location ⟨p, found⟩ c kept
  exact mem_declaredNames_of_kept found kept

/-- What a load leaves for its location, if it leaves anything. -/
theorem eq_of_kept?_touch {key : LocationKey} {slot : Option CachedClass} {c : CachedClass}
    (kept : (l.touch key slot).kept? key = some c) : slot = some c := by
  rcases Nat.eq_zero_or_pos l.capacity with none | room
  · simp [Loader.kept?, Loader.touch, none] at kept
  · rwa [Loader.kept?_touch_self room] at kept

theorem ComesFrom.load (comes : ComesFrom first fs index l)
    (found : index.location? p = some location) :
    ComesFrom first fs index (l.load fs location).2 ∧
      ∀ c, (l.load fs location).1 = .ok c → c.declared.name ∈ declaredNames first fs index := by
  have read {d : DeclaredClass} (loaded : l.decoder.load fs location = .ok d) :
      d.name ∈ declaredNames first fs index := by
    rw [comes.decodes] at loaded
    exact mem_declaredNames_of_read found loaded
  constructor
  · obtain ⟨slot, decodings, after, left⟩ := l.load_snd fs location
    rw [after]
    refine ⟨comes.decodes, fun other located c kept => ?_⟩
    change (l.touch location.key slot).kept? other.key = some c at kept
    by_cases same : other.key = location.key
    · rw [same] at kept
      rw [eq_of_kept?_touch kept, Option.map_some] at left
      -- the slot holds what was kept, or else what was read
      rcases Option.or_eq_some_iff.1 left.symm with old | ⟨-, new⟩
      · obtain ⟨before, isKept, declared⟩ := Option.map_eq_some_iff.1 old
        exact declared ▸ comes.keeps location ⟨p, found⟩ before isKept
      · cases loaded : l.decoder.load fs location with
        | error e => simp [loaded, Except.toOption] at new
        | ok d =>
          rw [loaded] at new
          cases new
          exact read loaded
    · rw [Loader.kept?_touch_of_ne slot same] at kept
      split at kept
      · exact comes.keeps other located c kept
      · cases kept
  · intro c given
    unfold Loader.load at given
    split at given
    · rename_i isKept
      cases given
      exact comes.keeps location ⟨p, found⟩ c isKept
    · split at given
      · cases given
      · rename_i loaded
        cases given
        exact read loaded

/-- A loader gives for the classes of an index only what it has kept or what their files declare. -/
theorem confined_load (l : Loader) (fs : FileSystem) (index : ClassIndex) :
    Confined (Loading.load fs) index (declaredNames l fs index) (ComesFrom l fs index) := by
  intro p s comes
  unfold ClassIndex.load
  split
  · rename_i location found
    obtain ⟨stays, named⟩ := comes.load found
    rcases loaded : s.load fs location with ⟨e | c, after⟩
    · rw [loaded] at stays
      have failed : outcome s (Loading.load fs location) = (.error e, after) := by
        rw [outcome, Loading.load, loaded]
      rw [map_eq_pure_bind, outcome_bind_error _ failed]
      exact ⟨stays, fun d given => by cases given⟩
    · rw [loaded] at stays named
      have succeeds : outcome s (Loading.load fs location) = (.ok c.declared, after) := by
        rw [outcome, Loading.load, loaded]
      rw [map_eq_pure_bind, outcome_bind_ok _ succeeds]
      refine ⟨stays, ?_⟩
      rintro d ⟨⟩
      exact named c rfl
  · exact ⟨comes, fun d given => by cases given⟩

end

/-- Whatever the class files of an index declare, under their own names or others, and whatever a
loader has kept of them, the search for a member comes to its end, with what resolution gives; the
names that the recursion asks are those of the classes whose members are searched. At no time have
the members of two classes with the same declared name been searched. -/
theorem resolve_ends {δ : Type} (fs : FileSystem) (l : Loader) (index : ClassIndex)
    (lookup : DeclaredClass → δ → Option (Reference δ)) (target : DeclaredClass)
    (wanted : Reference δ) :
    (∃ steps result after asked searched,
      (step (Loading.load fs) index lookup wanted)^[steps] (start lookup wanted target, l) =
        (⟨.ended result, asked, searched⟩, after) ∧
      Loading.outcome l (Resolution.resolve index (Loading.load fs) lookup target wanted) =
        (result, after) ∧
      Loading.outcome l (Resolution.search index (Loading.load fs) lookup wanted
        (2 * index.size + 1) target []) = (result.map (·, asked), after) ∧
      ∀ n, n ∈ asked ↔ n ∈ searched.map DeclaredClass.name) ∧
    ∀ steps, (((step (Loading.load fs) index lookup wanted)^[steps]
      (start lookup wanted target, l)).1.searched.map DeclaredClass.name).Nodup := by
  have logged := logged_iterate (Loading.load fs) index lookup wanted target l
  refine ⟨?_, fun steps => (logged steps).distinct⟩
  obtain ⟨steps, result, after, asked, searched, ends, given⟩ :=
    ends_of_confined (confined_load l fs index) (.refl l fs index)
      (length_declaredNames_le l fs index) lookup wanted target
  have logged := logged steps
  rw [ends] at logged
  exact ⟨steps, result, after, asked, searched, ends, outcome_resolve given, given, logged.asked⟩

end Linkage.Ascent
