import Linkage.Proofs.ConflictReport

/-!
Where conflicts come from. A check is one program in any monad in which classes can be loaded, so
what holds of all its conflicts follows from a few rules on what a computation gives (`Rules`):
every conflict names the artifact, the path and a declared method of one class of the graph, and its
category fits its target (`Rules.classConflicts`), and no class is missing from the index if none is
that a walk can come to (`Rules.conflicts`).
-/
namespace Linkage.Provenance
open ConflictReport
universe u

/-- A way to tell what computations give: `gives x P` says that all values of `x` have `P` and all
errors of `x` are permitted. Loading from a location gives what the location answers. -/
structure Rules {m : Type → Type u} [Monad m] [MonadExceptOf CheckError m]
    (load : ClassLocation → m DeclaredClass) (answers : ClassLocation → DeclaredClass → Prop)
    (permitted : CheckError → Prop) (gives : {α : Type} → m α → (α → Prop) → Prop) : Prop where
  pure {α : Type} {P : α → Prop} {a : α} : P a → gives (pure a) P
  throw {α : Type} {P : α → Prop} {e : CheckError} : permitted e → gives (throw e) P
  bind {α β : Type} {x : m α} {f : α → m β} {P : α → Prop} {Q : β → Prop} :
    gives x P → (∀ a, P a → gives (f a) Q) → gives (x >>= f) Q
  load (location : ClassLocation) : gives (load location) (answers location)

/-- The category of a conflict fits its target, and the artifact is that of the owner. -/
structure Fits (index : ClassIndex) (c : Conflict) : Prop where
  artifact : c.existsIn = index.artifact? c.target.owner
  missing : c.category = .classNotFound ↔ index.location? c.target.owner = none
  method : c.category = .methodNotFound → ∃ r, c.target = .method r
  field : c.category = .fieldNotFound → ∃ r, c.target = .field r

/-- References of a kind are to methods, and what is not found is a method, or both to fields. -/
structure Suits {δ : Type} (kind : Check.MemberKind δ) : Prop where
  owner (r : Reference δ) : (kind.toMember r).owner = r.owner
  category : (kind.category = .methodNotFound ∧ ∀ r, ∃ m, kind.toMember r = .method m) ∨
    (kind.category = .fieldNotFound ∧ ∀ r, ∃ f, kind.toMember r = .field f)

theorem suits_methodKind : Suits Check.methodKind :=
  ⟨fun _ => rfl, .inl ⟨rfl, fun r => ⟨r, rfl⟩⟩⟩

theorem suits_fieldKind : Suits Check.fieldKind :=
  ⟨fun _ => rfl, .inr ⟨rfl, fun r => ⟨r, rfl⟩⟩⟩

/-- What is not found at a site: the class if the index does not have it, and else the member. -/
def missingAt {δ : Type} (index : ClassIndex) (kind : Check.MemberKind δ)
    (site : CallSite (Reference δ)) : ConflictCategory :=
  if index.location? site.reference.owner = none then .classNotFound else kind.category

theorem Suits.fits {δ : Type} {kind : Check.MemberKind δ} (suits : Suits kind) {index : ClassIndex}
    {site : CallSite (Reference δ)} {c : Conflict}
    (artifact : c.existsIn = index.artifact? site.reference.owner)
    (target : c.target = kind.toMember site.reference)
    (category : c.category = missingAt index kind site) : Fits index c := by
  have owner : c.target.owner = site.reference.owner := target ▸ suits.owner site.reference
  by_cases absent : index.location? site.reference.owner = none
  · rw [missingAt, if_pos absent] at category
    exact ⟨owner ▸ artifact, by simp [category, owner, absent], by simp [category],
      by simp [category]⟩
  · rw [missingAt, if_neg absent] at category
    rcases suits.category with ⟨named, members⟩ | ⟨named, members⟩
    · exact ⟨owner ▸ artifact, by simp [category, named, owner, absent],
        fun _ => target ▸ members site.reference, by simp [category, named]⟩
    · exact ⟨owner ▸ artifact, by simp [category, named, owner, absent], by simp [category, named],
        fun _ => target ▸ members site.reference⟩

/-- A conflict is one of a class: it has the artifact of the class, which is not left out, the path
to the class, and a method that the class declares, and its category fits its target. -/
structure ConflictOf (policy : Policy) (index : ClassIndex)
    (answers : ClassLocation → DeclaredClass → Prop) (g : ClassGraph) (name : ClassName)
    (c : Conflict) : Prop where
  provides : index.artifact? name = some c.usedBy
  reported : policy.ignoresArtifact c.usedBy = false
  path : c.path = g.path name
  caller : ∃ d, Canonical index answers name d ∧ ∃ m ∈ d.methods.values, m.reference = c.caller
  fits : Fits index c

/-- A path ends at a class, if the index has places under the names of their classes. -/
def EndsAt (index : ClassIndex) (path : List ClassName) (c : ClassName) : Prop :=
  (∀ c location, index.location? c = some location → location.className = c) →
    path.getLast? = some c

namespace Rules
variable {m : Type → Type u} [Monad m] [MonadExceptOf CheckError m]
  {load : ClassLocation → m DeclaredClass} {answers : ClassLocation → DeclaredClass → Prop}
  {permitted : CheckError → Prop} {gives : {α : Type} → m α → (α → Prop) → Prop}
  {α β σ δ : Type} {policy : Policy} {index : ClassIndex}

theorem firstSome (rules : Rules load answers permitted gives) {step : α → σ → m (Option β × σ)}
    (each : ∀ a s, gives (step a s) fun _ => True) (as : List α) (s : σ) :
    gives (Resolution.firstSome step as s) fun _ => True := by
  induction as generalizing s with
  | nil => exact rules.pure trivial
  | cons a as ih =>
    refine rules.bind (each a s) ?_
    rintro ⟨_ | b, s⟩ -
    · exact ih s
    · exact rules.pure trivial

/-- The paths that a walk finds end at the classes that they are the paths to. -/
theorem walk_ends (rules : Rules load answers permitted gives) (remaining : List ClassName)
    (queue : Reachability.Queue) (reached : InsertionMap ClassName (List ClassName))
    (queued : ∀ e ∈ queue, EndsAt index e.2 e.1.className)
    (known : ∀ c path, reached.get? c = some path → EndsAt index path c) :
    gives (ClassGraph.walk load index remaining queue reached) fun result =>
      ∀ c path, result.get? c = some path → EndsAt index path c := by
  induction remaining, queue, reached using ClassGraph.walk.induct index with
  | case1 remaining reached =>
    rw [ClassGraph.walk]
    exact rules.pure known
  | case2 remaining reached location path queue new ih =>
    rw [ClassGraph.walk, dif_pos new]
    have here : EndsAt index path location.className := queued _ List.mem_cons_self
    refine rules.bind (rules.load location) fun d _ => ih d ?_ ?_
    · intro e member
      rcases List.mem_append.1 member with waiting | next
      · exact queued e (List.mem_cons_of_mem _ waiting)
      · obtain ⟨c, -, -, found, extended⟩ := Reachability.mem_successors.1 next
        intro keyed
        simp [extended, keyed c e.1 found]
    · intro c way found
      rw [InsertionMap.get?_insert] at found
      split at found
      · rename_i same
        cases found
        exact same ▸ here
      · exact known c way found
  | case3 remaining reached location path queue old ih =>
    rw [ClassGraph.walk, dif_neg old]
    exact ih (fun e waiting => queued e (List.mem_cons_of_mem _ waiting)) known

theorem graph_ends (rules : Rules load answers permitted gives) (policy : Policy)
    (index : ClassIndex) (entryPoints : List ClassLocation) :
    gives (Check.graph policy index load entryPoints) fun g =>
      ∀ c ∈ g.classes, EndsAt index (g.path c) c := by
  have ends {g : ClassGraph} (known : ∀ c path, g.paths.get? c = some path →
      EndsAt index path c) : ∀ c ∈ g.classes, EndsAt index (g.path c) c := by
    intro c member
    obtain ⟨path, found⟩ := InsertionMap.mem_keys_iff.1 member
    simpa [ClassGraph.path, found] using known c path found
  unfold Check.graph
  split
  · refine rules.pure (ends fun c path found _ => ?_)
    obtain ⟨d, -, same⟩ := List.mem_map.1 (InsertionMap.mem_of_get?_ofList found)
    cases same
    rfl
  · refine rules.bind (rules.walk_ends _ _ _ ?_ ?_) fun reached known => rules.pure (ends known)
    · intro e member _
      obtain ⟨location, -, rfl⟩ := List.mem_map.1 member
      rfl
    · simp

variable [LawfulMonad m]

theorem map (rules : Rules load answers permitted gives) {x : m α} {P : α → Prop} {f : α → β}
    {Q : β → Prop} (given : gives x P) (next : ∀ a, P a → Q (f a)) : gives (f <$> x) Q := by
  rw [map_eq_pure_bind]
  exact rules.bind given fun a has => rules.pure (next a has)

theorem mono (rules : Rules load answers permitted gives) {x : m α} {P Q : α → Prop}
    (given : gives x P) (next : ∀ a, P a → Q a) : gives x Q := by
  have same := rules.map (f := id) given next
  rwa [id_map] at same

theorem mapM (rules : Rules load answers permitted gives) {f : α → m β} {P : α → β → Prop}
    {as : List α} (each : ∀ a ∈ as, gives (f a) (P a)) :
    gives (as.mapM f) fun bs => ∀ b ∈ bs, ∃ a ∈ as, P a b := by
  induction as with
  | nil => exact rules.pure (by simp)
  | cons a as ih =>
    rw [List.mapM_cons]
    have others := ih fun b later => each b (List.mem_cons_of_mem _ later)
    refine rules.bind (each a List.mem_cons_self) fun b here => ?_
    refine rules.bind others fun bs rest => rules.pure fun x member => ?_
    rcases List.mem_cons.1 member with rfl | later
    · exact ⟨a, List.mem_cons_self, here⟩
    · obtain ⟨a', inside, has⟩ := rest x later
      exact ⟨a', List.mem_cons_of_mem _ inside, has⟩

/-! ### Looking members up -/

theorem indexLoad (rules : Rules load answers permitted gives) (name : ClassName) :
    gives (index.load load name) fun r => (r = none ∧ index.location? name = none) ∨
      ∃ d, r = some d ∧ Canonical index answers name d := by
  unfold ClassIndex.load
  split
  · rename_i location found
    refine rules.map (rules.load location) fun d answered => ?_
    exact .inr ⟨d, rfl, location, found, answered⟩
  · rename_i missing
    exact rules.pure (.inl ⟨rfl, missing⟩)

theorem search (rules : Rules load answers permitted gives)
    (lookup : DeclaredClass → δ → Option (Reference δ)) (wanted : Reference δ) (fuel : Nat)
    (c : DeclaredClass) (asked : List ClassName) :
    gives (Resolution.search index load lookup wanted fuel c asked) fun _ => True := by
  induction fuel generalizing c asked with
  | zero => exact rules.pure trivial
  | succ fuel ih =>
    unfold Resolution.search
    split
    · exact rules.pure trivial
    · split
      · exact rules.pure trivial
      · refine rules.firstSome (fun p asked => rules.bind (rules.indexLoad p) ?_) _ _
        rintro (_ | d) -
        · exact rules.pure trivial
        · exact ih d asked

/-- Whether the class or the member is missing is told by the index alone. -/
theorem failure (rules : Rules load answers permitted gives) (kind : Check.MemberKind δ)
    (site : CallSite (Reference δ)) :
    gives (Check.failure? policy index load kind site) fun r =>
      ∀ category, r = some category → category = missingAt index kind site := by
  have uncaught {catches : Bool} {missing : ConflictCategory}
      (same : missing = missingAt index kind site) (category : ConflictCategory)
      (given : (if catches then none else some missing) = some category) :
      category = missingAt index kind site := by
    split at given
    · cases given
    · exact Option.some.inj given ▸ same
  unfold Check.failure?
  dsimp only
  split
  · exact rules.pure (by simp)
  · refine rules.bind (rules.indexLoad _) ?_
    rintro _ (⟨rfl, absent⟩ | ⟨target, rfl, location, found, -⟩)
    · exact rules.pure (uncaught (if_pos absent).symm)
    · have present : kind.category = missingAt index kind site :=
        (if_neg (by simp [found])).symm
      have resolved : gives (Resolution.resolve index load kind.lookup target site.reference)
          fun _ => True :=
        rules.bind (rules.search kind.lookup site.reference _ target []) fun _ _ =>
          rules.pure trivial
      refine rules.bind resolved ?_
      rintro (_ | _) -
      · exact rules.pure (uncaught present)
      · exact rules.pure (by simp)

/-! ### Conflicts of a class -/

theorem siteConflict (rules : Rules load answers permitted gives) (policy : Policy)
    (index : ClassIndex) (usedBy : String) (path : List ClassName) (caller : MethodReference)
    {kind : Check.MemberKind δ} (suits : Suits kind) (site : CallSite (Reference δ)) :
    gives (Check.siteConflict? policy index load usedBy path caller kind site) fun r =>
      ∀ c, r = some c → c.usedBy = usedBy ∧ c.path = path ∧ c.caller = caller ∧ Fits index c := by
  unfold Check.siteConflict?
  refine rules.bind (rules.failure kind site) fun failure missing => ?_
  cases failure with
  | none => exact rules.pure (by simp)
  | some category =>
    refine rules.pure fun c same => ?_
    cases same
    exact ⟨rfl, rfl, rfl, suits.fits rfl rfl (missing category rfl)⟩

theorem methodConflicts (rules : Rules load answers permitted gives) (policy : Policy)
    (index : ClassIndex) (usedBy : String) (path : List ClassName) (method : DeclaredMethod) :
    gives (Check.methodConflicts policy index load usedBy path method) fun cs =>
      ∀ c ∈ cs, c.usedBy = usedBy ∧ c.path = path ∧ c.caller = method.reference ∧ Fits index c := by
  have calls := rules.mapM fun site (_ : site ∈ method.calls.toList) =>
    rules.siteConflict policy index usedBy path method.reference suits_methodKind site
  have accesses := rules.mapM fun site (_ : site ∈ method.accesses.toList) =>
    rules.siteConflict policy index usedBy path method.reference suits_fieldKind site
  refine rules.bind calls fun called ofCalls => rules.bind accesses fun accessed ofAccesses => ?_
  refine rules.pure fun c member => ?_
  obtain ⟨r, inside, same⟩ := List.mem_filterMap.1 member
  rcases List.mem_append.1 inside with isCall | isAccess
  · obtain ⟨site, -, has⟩ := ofCalls r isCall
    exact has c same
  · obtain ⟨site, -, has⟩ := ofAccesses r isAccess
    exact has c same

theorem classConflicts (rules : Rules load answers permitted gives) (policy : Policy)
    (g : ClassGraph) {name : ClassName}
    (consistent : (index.location? name).isSome ∨ permitted (.inconsistentIndex name)) :
    gives (Check.classConflicts policy index load g name) fun cs =>
      ∀ c ∈ cs, ConflictOf policy index answers g name c := by
  have missing : ∀ {β : Type} {P : β → Prop}, index.location? name = none →
      gives (MonadExcept.throw (CheckError.inconsistentIndex name)) P := by
    intro β P absent
    rcases consistent with present | allowed
    · simp [absent] at present
    · exact rules.throw allowed
  unfold Check.classConflicts
  split
  · exact rules.pure (by simp)
  · split
    · rename_i unprovided
      exact missing (ClassIndex.artifact?_eq_none_iff.1 unprovided)
    · rename_i usedBy provided
      split
      · exact rules.pure (by simp)
      · rename_i reported
        refine rules.bind (rules.indexLoad name) ?_
        rintro _ (⟨rfl, absent⟩ | ⟨d, rfl, canonical⟩)
        · exact missing absent
        · have methods := rules.mapM fun method (_ : method ∈ d.methods.values) =>
            rules.methodConflicts policy index usedBy (g.path name) method
          refine rules.bind methods fun parts each => rules.pure fun c member => ?_
          obtain ⟨part, inside, there⟩ := List.mem_flatten.1 member
          obtain ⟨method, declared, has⟩ := each part inside
          obtain ⟨rfl, path, caller, fits⟩ := has c there
          exact ⟨provided, by simpa using reported, path,
            ⟨d, canonical, method, declared, caller.symm⟩, fits⟩

/-! ### The graph and the check -/

/-- A walk visits only classes that remained. -/
theorem walk (rules : Rules load answers permitted gives) (remaining : List ClassName)
    (queue : Reachability.Queue) (reached : InsertionMap ClassName (List ClassName)) :
    gives (ClassGraph.walk load index remaining queue reached) fun result =>
      ∀ c ∈ result.keys, c ∈ reached.keys ∨ c ∈ remaining := by
  induction remaining, queue, reached using ClassGraph.walk.induct index with
  | case1 remaining reached =>
    rw [ClassGraph.walk]
    exact rules.pure fun c old => .inl old
  | case2 remaining reached location path queue new ih =>
    rw [ClassGraph.walk, dif_pos new]
    refine rules.bind (rules.load location) fun d _ => rules.mono (ih d) fun result known => ?_
    intro c member
    rcases known c member with old | left
    · rw [InsertionMap.keys_insert] at old
      split at old
      · exact .inl old
      · rcases List.mem_append.1 old with older | here
        · exact .inl older
        · rw [List.mem_singleton.1 here]
          exact .inr new
    · exact .inr (ClassGraph.mem_without.1 left).1
  | case3 remaining reached location path queue old ih =>
    rw [ClassGraph.walk, dif_neg old]
    exact ih

/-- A graph has only classes that a walk can come to. -/
theorem graph (rules : Rules load answers permitted gives) (entryPoints : List ClassLocation) :
    gives (Check.graph policy index load entryPoints) fun g =>
      ∀ c ∈ g.classes, c ∈ ClassGraph.known index entryPoints := by
  unfold Check.graph
  split
  · refine rules.pure fun c member => ClassGraph.mem_known.2 (.inr (.inl ?_))
    rwa [ClassGraph.classes_complete] at member
  · refine rules.bind (rules.walk _ _ _) fun reached known => rules.pure fun c member => ?_
    simpa using known c member

/-- Every conflict is one of a class of the graph. -/
theorem conflicts_of_graph (rules : Rules load answers permitted gives) {classpath : List Artifact}
    {entryPoints : List ClassLocation} {P : ClassGraph → Prop}
    (built : gives (Check.graph policy (ClassIndex.ofArtifacts classpath) load entryPoints) P)
    (consistent : ∀ g, P g → ∀ name ∈ g.classes,
      ((ClassIndex.ofArtifacts classpath).location? name).isSome ∨
        permitted (.inconsistentIndex name)) :
    gives (Check.conflicts policy load classpath entryPoints) fun cs => ∃ g, P g ∧ ∀ c ∈ cs,
      ∃ name ∈ g.classes, ConflictOf policy (ClassIndex.ofArtifacts classpath) answers g name c := by
  refine rules.bind built fun g has => ?_
  have classes := rules.mapM fun name (member : name ∈ g.classes) =>
    rules.classConflicts policy g (consistent g has name member)
  refine rules.bind classes fun parts each => rules.pure ⟨g, has, fun c member => ?_⟩
  obtain ⟨part, inside, there⟩ := List.mem_flatten.1 member
  obtain ⟨name, isReached, origin⟩ := each part inside
  exact ⟨name, isReached, origin c there⟩

/-- If the classes that a walk can come to are in the index, no class is missing from it, and every
conflict is one of a class. -/
theorem conflicts (rules : Rules load answers permitted gives) {classpath : List Artifact}
    {entryPoints : List ClassLocation}
    (indexed : ∀ c ∈ ClassGraph.known (ClassIndex.ofArtifacts classpath) entryPoints,
      ((ClassIndex.ofArtifacts classpath).location? c).isSome) :
    gives (Check.conflicts policy load classpath entryPoints) fun cs => ∀ c ∈ cs, ∃ g name,
      ConflictOf policy (ClassIndex.ofArtifacts classpath) answers g name c := by
  refine rules.mono (rules.conflicts_of_graph (rules.graph entryPoints) ?_) ?_
  · exact fun g known name member => .inl (indexed name (known name member))
  · rintro cs ⟨g, -, each⟩ c member
    obtain ⟨name, -, origin⟩ := each c member
    exact ⟨g, name, origin⟩

end Rules

/-- Without a loader: what holds of the value, if there is one. -/
theorem rules_of_eq_ok (load : ClassLocation → Except CheckError DeclaredClass) :
    Rules load (fun location d => load location = .ok d) (fun _ => True)
      (fun x P => ∀ a, x = .ok a → P a) where
  pure has := by
    rintro _ ⟨⟩
    exact has
  throw _ := nofun
  bind first second := by
    intro b whole
    obtain ⟨a, here, rest⟩ := bind_eq_ok.1 whole
    exact second a (first a here) b rest
  load _ _ loaded := loaded

/-- Through one loader, whatever it has been used for: what a computation gives, and that it leaves
the loader after some further loads. -/
theorem rules_of_loader (fs : FileSystem) (l : Loader) :
    Rules (Loading.load fs) (l.Gives fs) (fun _ => True) (fun x P => ∀ history a next,
      Loading.outcome (l.after fs history) x = (.ok a, next) →
        P a ∧ ∃ further, next = l.after fs further) where
  pure has history a next run := by
    cases run
    exact ⟨has, history, rfl⟩
  throw _ _ _ _ run := by cases run
  bind first second history b last run := by
    obtain ⟨a, next, here, rest⟩ := Loading.outcome_bind_eq_ok.1 run
    obtain ⟨has, further, rfl⟩ := first history a next here
    exact second a has further b last rest
  load location history d next run := by
    obtain ⟨given, rfl⟩ := Loading.outcome_load_eq_ok run
    exact ⟨given.of_after, history ++ [location], by simp [Loader.after]⟩

end Provenance

/-- Whatever a loader has kept, a computation gives only such values, and fails only with such
errors. -/
def Loading.Ensures {α : Type} (permitted : CheckError → Prop) (x : Loading α) (P : α → Prop) :
    Prop :=
  ∀ l, (∀ a, (outcome l x).1 = .ok a → P a) ∧ ∀ e, (outcome l x).1 = .error e → permitted e

/-- An error is that a class could not be loaded. -/
def CheckError.IsUnloadable (e : CheckError) : Prop :=
  ∃ location cause, e = .unloadable location cause

theorem Decoder.isUnloadable_of_load {decoder : Decoder} {fs : FileSystem}
    {location : ClassLocation} {e : CheckError} (failed : decoder.load fs location = .error e) :
    e.IsUnloadable := by
  unfold Decoder.load at failed
  split at failed
  · cases failed
    exact ⟨location, _, rfl⟩
  · split at failed
    · cases failed
      exact ⟨location, _, rfl⟩
    · cases failed

theorem Loader.isUnloadable_of_load {l : Loader} {fs : FileSystem} {location : ClassLocation}
    {e : CheckError} (failed : (l.load fs location).1 = .error e) : e.IsUnloadable := by
  unfold Loader.load at failed
  split at failed
  · cases failed
  · split at failed
    · rename_i cause undecoded
      cases failed
      exact Decoder.isUnloadable_of_load undecoded
    · cases failed

/-- Loading fails only because a class cannot be loaded. -/
theorem Provenance.rules_of_ensures (fs : FileSystem) :
    Rules (Loading.load fs) (fun _ _ => True) CheckError.IsUnloadable
      (Loading.Ensures CheckError.IsUnloadable) where
  pure has l := ⟨fun _ same => by cases same; exact has, nofun⟩
  throw allowed l := ⟨nofun, fun _ same => by cases same; exact allowed⟩
  bind first second l := by
    rw [Loading.outcome_bind]
    obtain ⟨given, failed⟩ := first l
    rcases step : Loading.outcome l _ with ⟨e | a, next⟩
    · rw [step] at failed
      exact ⟨nofun, fun _ same => by cases same; exact failed e rfl⟩
    · rw [step] at given
      exact second a (given a rfl) next
  load location l := by
    refine ⟨fun _ _ => trivial, fun e failed => ?_⟩
    unfold Loading.outcome Loading.load at failed
    rcases step : l.load fs location with ⟨cause | c, next⟩
    · rw [step] at failed
      cases failed
      exact Loader.isUnloadable_of_load (congrArg Prod.fst step)
    · rw [step] at failed
      cases failed

end Linkage
