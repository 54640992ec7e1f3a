import Mathlib.Data.List.Basic
import Mathlib.Logic.Relation
import Linkage.Check.Resolution
import Linkage.Data.Outcome
import Linkage.Proofs.Simulation

/-!
What a reference means. A member is inherited along a chain of declarations, each that of a parent
of the one before, of which only the last declares it (`Inherits`). The search asks each declared
name once, whatever branch it is on; what it leaves behind when it finds nothing is a set of names
closed under parents (`Settled`), and no chain leads out of that set to a member
(`resolve_inherits`).
-/
namespace Linkage.Inheritance
variable {δ : Type} (index : ClassIndex) (declares : ClassLocation → DeclaredClass → Prop)

/-- A declaration of the index for a declared parent of another. -/
def Parent (c d : DeclaredClass) : Prop :=
  ∃ p ∈ c.parents, ∃ location, index.location? p = some location ∧ declares location d

/-- A declaration and those for its parents, their parents and so on. -/
def Ancestor : DeclaredClass → DeclaredClass → Prop := Relation.ReflTransGen (Parent index declares)

variable (lookup : DeclaredClass → δ → Option (Reference δ)) (wanted : Reference δ)

/-- A chain of declarations leads to a member: none but the last declares one with the wanted
descriptor, and that of the last has the wanted staticness. -/
inductive Inherits : DeclaredClass → Reference δ → Prop
  | own {c m} : lookup c wanted.descriptor = some m → m.isStatic = wanted.isStatic → Inherits c m
  | parent {c d m} : lookup c wanted.descriptor = none → Parent index declares c d →
    Inherits d m → Inherits c m

/-- A declaration that has no answer and whose parents have been asked, unless it hides them. -/
structure Settled (asked : List ClassName) (d : DeclaredClass) : Prop where
  own : ∀ m, lookup d wanted.descriptor = some m → m.isStatic ≠ wanted.isStatic
  parents : lookup d wanted.descriptor = none → ∀ e, Parent index declares d e → e.name ∈ asked

/-! ### The search -/

section
variable {index lookup wanted} {ε : Type} {load : ClassLocation → Except ε DeclaredClass}

/-- The declarations that loading gives. -/
abbrev Loads (load : ClassLocation → Except ε DeclaredClass) (location : ClassLocation)
    (d : DeclaredClass) : Prop := load location = .ok d

theorem load_eq_ok {p : ClassName} {result : Option DeclaredClass}
    (loaded : index.load load p = .ok result) :
    (index.location? p = none ∧ result = none) ∨
      ∃ location d, index.location? p = some location ∧ load location = .ok d ∧ result = some d := by
  unfold ClassIndex.load at loaded
  split at loaded
  · rename_i location found
    obtain ⟨d, here, rfl⟩ := map_eq_ok.1 loaded
    exact .inr ⟨location, d, found, here, rfl⟩
  · rename_i missing
    exact .inl ⟨missing, (Except.ok.inj loaded).symm⟩

/-- A result comes from a step on some element. -/
private theorem firstSome_eq_some {α β σ : Type} {step : α → σ → Except ε (Option β × σ)} {l : List α}
    {s t : σ} {b : β} (run : Resolution.firstSome step l s = .ok (some b, t)) :
    ∃ a ∈ l, ∃ s, step a s = .ok (some b, t) := by
  induction l generalizing s with
  | nil => cases run
  | cons a l ih =>
    rw [Resolution.firstSome] at run
    obtain ⟨⟨result, next⟩, first, rest⟩ := bind_eq_ok.1 run
    cases result with
    | some found =>
      cases rest
      exact ⟨a, List.mem_cons_self, s, first⟩
    | none =>
      obtain ⟨other, member, s, here⟩ := ih rest
      exact ⟨other, List.mem_cons_of_mem _ member, s, here⟩

/-- What is asked of a parent that the search comes to. -/
def askParent (load : ClassLocation → Except ε DeclaredClass)
    (search : DeclaredClass → List ClassName → Except ε (Option (Reference δ) × List ClassName))
    (index : ClassIndex) (p : ClassName) (asked : List ClassName) :
    Except ε (Option (Reference δ) × List ClassName) := do
  match ← index.load load p with
  | none => return (none, asked)
  | some declared => search declared asked

theorem search_succ (fuel : Nat) (c : DeclaredClass) (asked : List ClassName) :
    Resolution.search index load lookup wanted (fuel + 1) c asked =
      if c.name ∈ asked then .ok (none, asked)
      else match lookup c wanted.descriptor with
        | some found => .ok (if found.isStatic = wanted.isStatic then some found else none,
            c.name :: asked)
        | none => Resolution.firstSome
            (askParent load (Resolution.search index load lookup wanted fuel) index) c.parents
            (c.name :: asked) := rfl

/-- What the search finds is inherited. -/
private theorem inherits_of_search {fuel : Nat} {c : DeclaredClass} {asked after : List ClassName}
    {m : Reference δ}
    (run : Resolution.search index load lookup wanted fuel c asked = .ok (some m, after)) :
    Inherits index (Loads load) lookup wanted c m := by
  induction fuel generalizing c asked after with
  | zero => cases run
  | succ fuel ih =>
    rw [search_succ] at run
    split at run
    · cases run
    · split at run
      · rename_i found here
        rw [Except.ok.injEq, Prod.mk.injEq] at run
        split at run
        · rename_i staticness
          exact .own (here.trans run.1) (Option.some.inj run.1 ▸ staticness)
        · cases run.1
      · rename_i silent
        obtain ⟨p, member, asked, ask⟩ := firstSome_eq_some run
        obtain ⟨result, loaded, rest⟩ := bind_eq_ok.1 ask
        rcases load_eq_ok loaded with ⟨-, rfl⟩ | ⟨location, d, found, here, rfl⟩
        · cases rest
        · exact .parent silent ⟨p, member, location, found, here⟩ (ih rest)

/-- The classes of the index whose declared names have not been asked. -/
def unasked (index : ClassIndex) (load : ClassLocation → Except ε DeclaredClass)
    (asked : List ClassName) : List ClassName :=
  index.classes.filter fun p =>
    match (index.location? p).map load with
    | some (.ok d) => d.name ∉ asked
    | _ => false

private theorem mem_unasked {asked : List ClassName} {p : ClassName} {location : ClassLocation}
    {d : DeclaredClass} (found : index.location? p = some location) (here : load location = .ok d) :
    p ∈ unasked index load asked ↔ d.name ∉ asked := by
  simp [unasked, ClassIndex.mem_classes_iff, found, here]

theorem unasked_sublist {asked after : List ClassName} (more : asked ⊆ after) :
    (unasked index load after).Sublist (unasked index load asked) := by
  refine List.monotone_filter_right _ fun p left => ?_
  split
  · rename_i d same
    simp only [same, decide_eq_true_eq] at left ⊢
    exact fun old => left (more old)
  · rename_i other
    split at left
    · rename_i d same
      exact absurd same (other d)
    · cases left

theorem length_unasked_lt {asked : List ClassName} {p : ClassName} {location : ClassLocation}
    {d : DeclaredClass} (found : index.location? p = some location) (here : load location = .ok d)
    (new : d.name ∉ asked) :
    (unasked index load (d.name :: asked)).length < (unasked index load asked).length := by
  have sub : (unasked index load (d.name :: asked)).Sublist (unasked index load asked) :=
    unasked_sublist (List.subset_cons_self _ _)
  refine Nat.lt_of_le_of_ne sub.length_le fun same => ?_
  have member : p ∈ unasked index load asked := (mem_unasked found here).2 new
  rw [← sub.eq_of_length same, mem_unasked found here] at member
  exact member List.mem_cons_self

/-- What a search without a result leaves behind: every name it has asked belongs to an ancestor
that is settled. -/
private structure Closed (index : ClassIndex) (declares : ClassLocation → DeclaredClass → Prop)
    (lookup : DeclaredClass → δ → Option (Reference δ)) (wanted : Reference δ)
    (c : DeclaredClass) (asked after : List ClassName) : Prop where
  kept : asked ⊆ after
  settled : ∀ n ∈ after, n ∈ asked ∨ ∃ d, d.name = n ∧ Ancestor index declares c d ∧
    Settled index declares lookup wanted after d

private theorem Settled.mono {declares : ClassLocation → DeclaredClass → Prop}
    {asked after : List ClassName} {d : DeclaredClass} (more : asked ⊆ after)
    (settled : Settled index declares lookup wanted asked d) :
    Settled index declares lookup wanted after d :=
  ⟨settled.own, fun silent e parent => more (settled.parents silent e parent)⟩

private theorem Closed.refl {declares : ClassLocation → DeclaredClass → Prop} {c : DeclaredClass}
    {asked : List ClassName} : Closed index declares lookup wanted c asked asked :=
  ⟨List.Subset.refl _, fun _ old => .inl old⟩

private theorem Closed.trans {declares : ClassLocation → DeclaredClass → Prop} {c : DeclaredClass}
    {asked next after : List ClassName} (first : Closed index declares lookup wanted c asked next)
    (second : Closed index declares lookup wanted c next after) :
    Closed index declares lookup wanted c asked after := by
  refine ⟨List.Subset.trans first.kept second.kept, ?_⟩
  intro n member
  rcases second.settled n member with old | new
  · rcases first.settled n old with older | ⟨d, same, ancestor, settled⟩
    · exact .inl older
    · exact .inr ⟨d, same, ancestor, settled.mono second.kept⟩
  · exact .inr new

private theorem Closed.of_parent {declares : ClassLocation → DeclaredClass → Prop}
    {c d : DeclaredClass} {asked after : List ClassName} (parent : Parent index declares c d)
    (closed : Closed index declares lookup wanted d asked after) :
    Closed index declares lookup wanted c asked after := by
  refine ⟨closed.kept, ?_⟩
  intro n member
  rcases closed.settled n member with old | ⟨e, same, ancestor, settled⟩
  · exact .inl old
  · exact .inr ⟨e, same, .head parent ancestor, settled⟩

/-- The parents of a declaration have been asked when none of them gave a result. -/
private theorem closed_of_firstSome {fuel : Nat} {c : DeclaredClass} {ps : List ClassName}
    {asked after : List ClassName} (inside : ps ⊆ c.parents)
    (bound : (unasked index load asked).length ≤ fuel)
    (each : ∀ d asked after, (d.name ∉ asked → (unasked index load (d.name :: asked)).length < fuel) →
      Resolution.search index load lookup wanted fuel d asked = .ok (none, after) →
      Closed index (Loads load) lookup wanted d asked after ∧ d.name ∈ after)
    (run : Resolution.firstSome (askParent load (Resolution.search index load lookup wanted fuel)
      index) ps asked = .ok (none, after)) :
    Closed index (Loads load) lookup wanted c asked after ∧
      ∀ p ∈ ps, ∀ location d, index.location? p = some location → load location = .ok d →
        d.name ∈ after := by
  induction ps generalizing asked with
  | nil =>
    cases run
    exact ⟨.refl, by simp⟩
  | cons p ps ih =>
    rw [Resolution.firstSome] at run
    obtain ⟨⟨result, next⟩, ask, rest⟩ := bind_eq_ok.1 run
    cases result with
    | some m => cases rest
    | none =>
      -- asking the first parent leaves a closed set in which that parent is
      have here : Closed index (Loads load) lookup wanted c asked next ∧
          ∀ location d, index.location? p = some location → load location = .ok d →
            d.name ∈ next := by
        obtain ⟨result, loaded, search⟩ := bind_eq_ok.1 ask
        rcases load_eq_ok loaded with ⟨missing, rfl⟩ | ⟨location, d, found, here, rfl⟩
        · cases search
          refine ⟨.refl, fun location d found => ?_⟩
          rw [missing] at found
          cases found
        · have enough : d.name ∉ asked → (unasked index load (d.name :: asked)).length < fuel :=
            fun new => Nat.lt_of_lt_of_le (length_unasked_lt found here new) bound
          obtain ⟨closed, member⟩ := each d asked next enough search
          refine ⟨closed.of_parent ⟨p, inside List.mem_cons_self, location, found, here⟩, ?_⟩
          intro location' d' found' here'
          cases found.symm.trans found'
          cases here.symm.trans here'
          exact member
      have shrunk : (unasked index load next).length ≤ fuel :=
        Nat.le_trans (unasked_sublist here.1.kept).length_le bound
      obtain ⟨closed, others⟩ := ih (fun _ later => inside (List.mem_cons_of_mem _ later)) shrunk rest
      refine ⟨here.1.trans closed, ?_⟩
      intro q member location d found loaded
      rcases List.mem_cons.1 member with rfl | later
      · exact closed.kept (here.2 location d found loaded)
      · exact others q later location d found loaded

/-- A search that finds nothing has asked the class, and leaves a closed set of names. The names on
the way to the class have been asked and belong to different classes of the index, so the depth
suffices. -/
private theorem closed_of_search {fuel : Nat} {c : DeclaredClass} {asked after : List ClassName}
    (enough : c.name ∉ asked → (unasked index load (c.name :: asked)).length < fuel)
    (run : Resolution.search index load lookup wanted fuel c asked = .ok (none, after)) :
    Closed index (Loads load) lookup wanted c asked after ∧ c.name ∈ after := by
  induction fuel generalizing c asked after with
  | zero =>
    cases run
    refine ⟨.refl, ?_⟩
    by_contra new
    exact absurd (enough new) (Nat.not_lt_zero _)
  | succ fuel ih =>
    rw [search_succ] at run
    split at run
    · rename_i old
      cases run
      exact ⟨.refl, old⟩
    · rename_i new
      split at run
      · rename_i found here
        rw [Except.ok.injEq, Prod.mk.injEq] at run
        obtain ⟨result, rfl⟩ := run
        refine ⟨⟨List.subset_cons_self _ _, ?_⟩, List.mem_cons_self⟩
        intro n member
        rcases List.mem_cons.1 member with rfl | old
        · refine .inr ⟨c, rfl, .refl, ?_, fun silent => ?_⟩
          · intro m same
            cases here.symm.trans same
            intro staticness
            simp [staticness] at result
          · rw [here] at silent
            cases silent
        · exact .inl old
      · rename_i silent
        obtain ⟨closed, parents⟩ := closed_of_firstSome (List.Subset.refl _)
          (Nat.le_of_lt_succ (enough new)) (fun d asked after => ih) run
        have own : c.name ∈ after := closed.kept List.mem_cons_self
        refine ⟨⟨List.Subset.trans (List.subset_cons_self _ _) closed.kept, ?_⟩, own⟩
        intro n member
        rcases closed.settled n member with old | other
        · rcases List.mem_cons.1 old with rfl | older
          · refine .inr ⟨c, rfl, .refl, fun m same => ?_, fun _ e parent => ?_⟩
            · rw [silent] at same
              cases same
            · obtain ⟨p, isParent, location, found, loaded⟩ := parent
              exact parents p isParent location e found loaded
          · exact .inl older
        · exact .inr other

/-- No chain leads from a settled set of names to a member. -/
private theorem not_inherits_of_closed {declares : ClassLocation → DeclaredClass → Prop}
    {target : DeclaredClass} {after : List ClassName}
    (closed : Closed index declares lookup wanted target [] after)
    (unique : ∀ c d, Ancestor index declares target c → Ancestor index declares target d →
      c.name = d.name → c = d) {c : DeclaredClass} {m : Reference δ}
    (ancestor : Ancestor index declares target c) (asked : c.name ∈ after) :
    ¬ Inherits index declares lookup wanted c m := by
  intro inherits
  induction inherits with
  | own here staticness =>
    rcases closed.settled _ asked with old | ⟨d, same, other, settled⟩
    · cases old
    · rw [unique d _ other ancestor same] at settled
      exact settled.own _ here staticness
  | @parent c e m silent parent _ ih =>
    rcases closed.settled _ asked with old | ⟨d, same, other, settled⟩
    · cases old
    · rw [unique d _ other ancestor same] at settled
      exact ih (ancestor.tail parent) (settled.parents silent e parent)

/-- The depth of a search that has asked nothing suffices. -/
theorem length_unasked_le (asked : List ClassName) :
    (unasked index load asked).length ≤ index.size := by
  refine Nat.le_trans (List.length_filter_le _ _) ?_
  simp [ClassIndex.classes, ClassIndex.size, InsertionMap.keys, InsertionMap.size]

private theorem inherits_of_resolve {target : DeclaredClass} {r : Option (Reference δ)}
    (run : Resolution.resolve index load lookup target wanted = .ok r) :
    (∀ m, r = some m → Inherits index (Loads load) lookup wanted target m) ∧
      ((∀ c d, Ancestor index (Loads load) target c → Ancestor index (Loads load) target d →
          c.name = d.name → c = d) →
        (∃ m, Inherits index (Loads load) lookup wanted target m) → r.isSome) := by
  obtain ⟨⟨result, after⟩, search, same⟩ := bind_eq_ok.1 run
  cases same
  refine ⟨fun m found => inherits_of_search (m := m) (by rw [search, ← found]), ?_⟩
  rintro unique ⟨m, inherits⟩
  cases result with
  | some _ => rfl
  | none =>
    have enough : target.name ∉ [] →
        (unasked index load [target.name]).length < 2 * index.size + 1 := fun _ => by
      have bound : (unasked index load [target.name]).length ≤ index.size := length_unasked_le _
      omega
    obtain ⟨closed, asked⟩ := closed_of_search enough search
    exact absurd inherits (not_inherits_of_closed closed unique .refl asked)

end

/-! ### Through a loader -/

variable {decoder : Decoder} {fs : FileSystem}

/-- Every ancestor has a declared name of its own. -/
def DistinctNames (target : DeclaredClass) : Prop :=
  ∀ c d, Ancestor index declares target c → Ancestor index declares target d →
    c.name = d.name → c = d

/-- What the search finds in the class files is inherited, and it finds what is inherited. -/
theorem inherits_of_resolve_declaration {index lookup wanted} {target : DeclaredClass}
    {r : Option (Reference δ)}
    (run : Resolution.resolve index (decoder.declaration fs) lookup target wanted = .ok r) :
    (∀ m, r = some m → Inherits index (decoder.Declares fs) lookup wanted target m) ∧
      (DistinctNames index (decoder.Declares fs) target →
        (∃ m, Inherits index (decoder.Declares fs) lookup wanted target m) → r.isSome) := by
  have same : Loads (decoder.declaration fs) = decoder.Declares fs := by
    funext location d
    exact propext Decoder.declaration_eq_ok_iff
  exact same ▸ inherits_of_resolve run

theorem resolve_follows (target : DeclaredClass) :
    Loading.Follows decoder fs
      (Resolution.resolve index (Loading.load fs) lookup target wanted)
      (Resolution.resolve index (decoder.declaration fs) lookup target wanted) :=
  (Loading.Follows.simulation decoder fs).resolve (fun _ _ _ => trivial) lookup wanted target

/-- Resolution decides inheritance. What it finds is inherited by the target, and if the names of
the target and its ancestors are distinct, it finds a member wherever one is inherited, circular
hierarchies included. A member of the other staticness hides the ancestors of its class, but not the
other parents of a child. -/
theorem resolve_inherits (fs : FileSystem) (decoder : Decoder) (capacity : Nat)
    (history : List ClassLocation) (index : ClassIndex)
    (lookup : DeclaredClass → δ → Option (Reference δ)) (target : DeclaredClass)
    (wanted : Reference δ) (r : Option (Reference δ)) (after : Loader)
    (resolved : Loading.outcome ((Loader.new decoder capacity).after fs history)
      (Resolution.resolve index (Loading.load fs) lookup target wanted) = (.ok r, after)) :
    (∀ m, r = some m → Inherits index (decoder.Declares fs) lookup wanted target m) ∧
      (DistinctNames index (decoder.Declares fs) target →
        (∃ m, Inherits index (decoder.Declares fs) lookup wanted target m) → r.isSome) ∧
      (∀ m, lookup target wanted.descriptor = some m → m.isStatic ≠ wanted.isStatic → r = none) ∧
      (DistinctNames index (decoder.Declares fs) target →
        lookup target wanted.descriptor = none → ∀ d, Parent index (decoder.Declares fs) target d →
          (∃ m, Inherits index (decoder.Declares fs) lookup wanted d m) → r.isSome) := by
  have faithful := (Loader.faithful_new decoder fs capacity).after history
  obtain ⟨-, run⟩ := (resolve_follows index lookup wanted target).of_outcome faithful resolved
  obtain ⟨sound, complete⟩ := inherits_of_resolve_declaration run
  refine ⟨sound, complete, ?_, ?_⟩
  · intro m hidden other
    cases r with
    | none => rfl
    | some found =>
      cases sound found rfl with
      | own here staticness =>
        cases hidden.symm.trans here
        exact absurd staticness other
      | parent silent _ _ =>
        rw [hidden] at silent
        cases silent
  · rintro distinct silent d parent ⟨m, inherits⟩
    exact complete distinct ⟨m, .parent silent parent inherits⟩

/-- A class of two inherits what the other declares. -/
theorem resolve_inherits_sample :
    Inherits (ClassIndex.ofArtifacts Sample.classpath) (Decoder.standard.Declares Sample.files)
      DeclaredClass.methodReference? (Sample.method "A" "x") Sample.declaredChild
      (Sample.method "B" "x") := by
  have found : (Loading.outcome (Loader.new Decoder.standard 1) (Resolution.resolve
      (ClassIndex.ofArtifacts Sample.classpath) (Loading.load Sample.files)
      DeclaredClass.methodReference? Sample.declaredChild (Sample.method "A" "x"))).1 =
        .ok (some (Sample.method "B" "x")) := by
    rw [Loading.load_eq_loadKnown Sample.load_of_known]
    decide +kernel
  exact (resolve_inherits Sample.files Decoder.standard 1 [] _ _ _ _ _ _ (Prod.ext found rfl)).1 _ rfl

end Linkage.Inheritance
