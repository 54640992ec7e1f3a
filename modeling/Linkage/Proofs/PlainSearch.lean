import Linkage.Proofs.Inheritance
import Linkage.Proofs.Transparency

/-!
What it costs to ask every name once: nothing, where hierarchies are not circular. The plain search
asks a class and then one parent after the other, however often it comes to the same one (`Plain`).
A name that has been asked before belongs to a class on the way here, which only a circle leads back
to, or to one that had no answer (`Answers`); so asking it again would give no answer again, and the
two searches agree in what they find and in how they fail (`resolve_iff_plain`).
-/
namespace Linkage.Inheritance

variable {δ ε : Type}

/-- What a search asks: a class, or one parent after the other. -/
inductive Question where
  | ask (c : DeclaredClass)
  | askEach (parents : List ClassName)

section
variable (index : ClassIndex) (load : ClassLocation → Except ε DeclaredClass)
  (lookup : DeclaredClass → δ → Option (Reference δ)) (wanted : Reference δ)

/-- The answer of the search that remembers nothing. A class answers for itself if it declares a
member with the descriptor, and for its parents otherwise. Of the parents the first with an answer
counts, a failure to load one included; those that are not in the index are passed over. -/
inductive Plain : Question → Except ε (Option (Reference δ)) → Prop
  | own {c found} : lookup c wanted.descriptor = some found →
    Plain (.ask c) (.ok (if found.isStatic = wanted.isStatic then some found else none))
  | inherited {c answer} : lookup c wanted.descriptor = none → Plain (.askEach c.parents) answer →
    Plain (.ask c) answer
  | exhausted : Plain (.askEach []) (.ok none)
  | absent {p ps answer} : index.load load p = .ok none → Plain (.askEach ps) answer →
    Plain (.askEach (p :: ps)) answer
  | unloadable {p ps e} : index.load load p = .error e → Plain (.askEach (p :: ps)) (.error e)
  | first {p ps d answer} : index.load load p = .ok (some d) → Plain (.ask d) answer →
    answer ≠ .ok none → Plain (.askEach (p :: ps)) answer
  | later {p ps d answer} : index.load load p = .ok (some d) → Plain (.ask d) (.ok none) →
    Plain (.askEach ps) answer → Plain (.askEach (p :: ps)) answer

/-- No class is an ancestor of one of its parents. -/
def Acyclic (target : DeclaredClass) : Prop :=
  ∀ c, Ancestor index (Loads load) target c → ¬ Relation.TransGen (Parent index (Loads load)) c c

end

variable {index : ClassIndex} {load : ClassLocation → Except ε DeclaredClass}
  {lookup : DeclaredClass → δ → Option (Reference δ)} {wanted : Reference δ}

/-- There is at most one answer. -/
theorem Plain.unique {q : Question} {answer other : Except ε (Option (Reference δ))}
    (plain : Plain index load lookup wanted q answer)
    (again : Plain index load lookup wanted q other) : answer = other := by
  induction plain generalizing other with
  | own here =>
    cases again with
    | own found => rw [Option.some.inj (here.symm.trans found)]
    | inherited silent => cases here.symm.trans silent
  | inherited silent _ ih =>
    cases again with
    | own found => cases silent.symm.trans found
    | inherited _ rest => exact ih rest
  | exhausted =>
    cases again
    rfl
  | absent missing _ ih =>
    cases again with
    | absent _ rest => exact ih rest
    | unloadable failed => cases missing.symm.trans failed
    | first loaded => cases missing.symm.trans loaded
    | later loaded => cases missing.symm.trans loaded
  | unloadable failed =>
    cases again with
    | absent missing => cases failed.symm.trans missing
    | unloadable failed' => rw [Except.error.inj (failed.symm.trans failed')]
    | first loaded => cases failed.symm.trans loaded
    | later loaded => cases failed.symm.trans loaded
  | first loaded _ answered ih =>
    cases again with
    | absent missing => cases loaded.symm.trans missing
    | unloadable failed => cases loaded.symm.trans failed
    | first loaded' asked =>
      cases loaded.symm.trans loaded'
      exact ih asked
    | later loaded' asked =>
      cases loaded.symm.trans loaded'
      exact absurd (ih asked) answered
  | later loaded _ _ ih ihs =>
    cases again with
    | absent missing => cases loaded.symm.trans missing
    | unloadable failed => cases loaded.symm.trans failed
    | first loaded' asked answered =>
      cases loaded.symm.trans loaded'
      exact absurd (ih asked).symm answered
    | later _ _ rest => exact ihs rest

/-! ### Asking every name once -/

section
variable (index load lookup wanted) (target : DeclaredClass)

/-- The ancestors whose names have been asked have no answer, apart from some. -/
def SettledBut (others : DeclaredClass → Prop) (asked : List ClassName) : Prop :=
  ∀ d, Ancestor index (Loads load) target d → d.name ∈ asked →
    others d ∨ Plain index load lookup wanted (.ask d) (.ok none)

/-- What a search that asks every name once makes of a question. It gives the plain answer, and if
there is none, the names that it has asked belong to ancestors that have none. -/
structure Answers (asked : List ClassName) (q : Question)
    (run : Except ε (Option (Reference δ) × List ClassName)) : Prop where
  plain : Plain index load lookup wanted q (run.map Prod.fst)
  kept : ∀ after, run = .ok (none, after) → asked ⊆ after
  settled : ∀ after, run = .ok (none, after) →
    SettledBut index load lookup wanted target (fun d => d.name ∈ asked) after

end

section
variable {target : DeclaredClass}

theorem SettledBut.imp {others others' : DeclaredClass → Prop} {asked : List ClassName}
    (settled : SettledBut index load lookup wanted target others asked)
    (less : ∀ d, Ancestor index (Loads load) target d → others d → others' d ∨
      Plain index load lookup wanted (.ask d) (.ok none)) :
    SettledBut index load lookup wanted target others' asked := fun d ancestor member =>
  (settled d ancestor member).elim (less d ancestor) .inr

theorem Answers.of_asked {asked : List ClassName} {q : Question}
    (plain : Plain index load lookup wanted q (.ok none)) :
    Answers index load lookup wanted target asked q (.ok (none, asked)) := by
  refine ⟨plain, ?_, ?_⟩
  · rintro _ ⟨⟩
    exact List.Subset.refl _
  · rintro _ ⟨⟩ d - member
    exact .inl member

theorem Answers.of_answer {asked : List ClassName} {q : Question}
    {run : Except ε (Option (Reference δ) × List ClassName)}
    (plain : Plain index load lookup wanted q (run.map Prod.fst))
    (answered : run.map Prod.fst ≠ .ok none) :
    Answers index load lookup wanted target asked q run := by
  refine ⟨plain, ?_, ?_⟩ <;>
  · rintro after rfl
    exact absurd rfl answered

/-- The name of a class that is asked is asked with it. -/
theorem Answers.of_name (distinct : DistinctNames index (Loads load) target) {c : DeclaredClass}
    (ancestor : Ancestor index (Loads load) target c) {asked : List ClassName} {q : Question}
    {run : Except ε (Option (Reference δ) × List ClassName)}
    (answers : Answers index load lookup wanted target (c.name :: asked) q run)
    (plain : Plain index load lookup wanted (.ask c) (run.map Prod.fst)) :
    Answers index load lookup wanted target asked (.ask c) run := by
  refine ⟨plain, fun after none => ?_, fun after none => ?_⟩
  · exact List.Subset.trans (List.subset_cons_self _ _) (answers.kept after none)
  · refine (answers.settled after none).imp fun d isAncestor member => ?_
    rcases List.mem_cons.1 member with same | old
    · rw [distinct d c isAncestor ancestor same]
      exact .inr (by rw [none] at plain; exact plain)
    · exact .inl old

/-- The parents of a class are asked one after the other. The names that have been asked belong to
classes that have no answer, or that lead to this one. -/
theorem answers_firstSome {fuel : Nat} {c : DeclaredClass}
    (ancestor : Ancestor index (Loads load) target c)
    (each : ∀ d asked, Ancestor index (Loads load) target d →
      (d.name ∉ asked → (unasked index load (d.name :: asked)).length < fuel) →
      SettledBut index load lookup wanted target
        (Relation.TransGen (Parent index (Loads load)) · d) asked →
      Answers index load lookup wanted target asked (.ask d)
        (Resolution.search index load lookup wanted fuel d asked))
    {ps : List ClassName} (inside : ps ⊆ c.parents) {asked : List ClassName}
    (bound : (unasked index load asked).length ≤ fuel)
    (way : SettledBut index load lookup wanted target
      (Relation.ReflTransGen (Parent index (Loads load)) · c) asked) :
    Answers index load lookup wanted target asked (.askEach ps)
      (Resolution.firstSome (askParent load (Resolution.search index load lookup wanted fuel) index)
        ps asked) := by
  induction ps generalizing asked with
  | nil => exact .of_asked .exhausted
  | cons p ps ih =>
    have rest : ps ⊆ c.parents := fun _ later => inside (List.mem_cons_of_mem _ later)
    rw [Resolution.firstSome, askParent]
    cases loaded : index.load load p with
    | error e => exact .of_answer (.unloadable loaded) (by rintro ⟨⟩)
    | ok result =>
      rcases load_eq_ok loaded with ⟨-, rfl⟩ | ⟨location, d, found, here, rfl⟩
      · have others := ih rest bound way
        exact ⟨.absent loaded others.plain, others.kept, others.settled⟩
      · have parent : Parent index (Loads load) c d :=
          ⟨p, inside List.mem_cons_self, location, found, here⟩
        have answers := each d asked (ancestor.tail parent)
          (fun new => Nat.lt_of_lt_of_le (length_unasked_lt found here new) bound)
          (way.imp fun e _ leads => .inl (.tail' leads parent))
        change Answers _ _ _ _ _ _ _
          (Resolution.search index load lookup wanted fuel d asked >>= _)
        cases run : Resolution.search index load lookup wanted fuel d asked with
        | error e =>
          rw [run] at answers
          exact .of_answer (.first loaded answers.plain (by rintro ⟨⟩)) (by rintro ⟨⟩)
        | ok x =>
          obtain ⟨_ | m, next⟩ := x
          · rw [run] at answers
            -- what the first parent leaves settled stays so while the others are asked
            have kept : asked ⊆ next := answers.kept next rfl
            have others := ih rest
              (Nat.le_trans (unasked_sublist kept).length_le bound)
              ((answers.settled next rfl).imp fun e isAncestor old => way e isAncestor old)
            refine ⟨.later loaded answers.plain others.plain, fun after none => ?_,
              fun after none => ?_⟩
            · exact List.Subset.trans kept (others.kept after none)
            · exact (others.settled after none).imp fun e isAncestor member =>
                answers.settled next rfl e isAncestor member
          · rw [run] at answers
            exact .of_answer (.first loaded answers.plain (by rintro ⟨⟩)) (by rintro ⟨⟩)

/-- A class whose name has been asked has no answer, unless a circle leads back to it. -/
theorem answers_again (acyclic : Acyclic index load target) {c : DeclaredClass}
    {asked : List ClassName} (ancestor : Ancestor index (Loads load) target c)
    (way : SettledBut index load lookup wanted target
      (Relation.TransGen (Parent index (Loads load)) · c) asked) (old : c.name ∈ asked) :
    Answers index load lookup wanted target asked (.ask c) (.ok (none, asked)) := by
  rcases way c ancestor old with circle | none
  · exact absurd circle (acyclic c ancestor)
  · exact .of_asked none

/-- A class is asked, and then its parents. The names that have been asked belong to classes that
have no answer, or that lead here. -/
theorem answers_search (acyclic : Acyclic index load target)
    (distinct : DistinctNames index (Loads load) target) {fuel : Nat} {c : DeclaredClass}
    {asked : List ClassName} (ancestor : Ancestor index (Loads load) target c)
    (enough : c.name ∉ asked → (unasked index load (c.name :: asked)).length < fuel)
    (way : SettledBut index load lookup wanted target
      (Relation.TransGen (Parent index (Loads load)) · c) asked) :
    Answers index load lookup wanted target asked (.ask c)
      (Resolution.search index load lookup wanted fuel c asked) := by
  induction fuel generalizing c asked with
  | zero =>
    by_cases old : c.name ∈ asked
    · exact answers_again acyclic ancestor way old
    · exact absurd (enough old) (Nat.not_lt_zero _)
  | succ fuel ih =>
    rw [search_succ]
    split
    · rename_i old
      exact answers_again acyclic ancestor way old
    · rename_i new
      split
      · rename_i found here
        have plain : Plain index load lookup wanted _ _ := .own here
        by_cases staticness : found.isStatic = wanted.isStatic
        · rw [if_pos staticness] at plain ⊢
          exact .of_answer plain (by rintro ⟨⟩)
        · rw [if_neg staticness] at plain ⊢
          exact .of_name distinct ancestor (.of_asked plain) plain
      · rename_i silent
        -- the one name that is new is that of the class itself
        have here : SettledBut index load lookup wanted target
            (Relation.ReflTransGen (Parent index (Loads load)) · c) (c.name :: asked) := by
          intro d isAncestor member
          rcases List.mem_cons.1 member with same | old
          · rw [distinct d c isAncestor ancestor same]
            exact .inl .refl
          · exact (way d isAncestor old).imp_left Relation.TransGen.to_reflTransGen
        have answers := answers_firstSome ancestor (fun d asked => ih) (List.Subset.refl _)
          (Nat.le_of_lt_succ (enough new)) here
        exact .of_name distinct ancestor answers (.inherited silent answers.plain)

end

theorem plain_resolve {target : DeclaredClass} (acyclic : Acyclic index load target)
    (distinct : DistinctNames index (Loads load) target) :
    Plain index load lookup wanted (.ask target)
      (Resolution.resolve index load lookup target wanted) := by
  -- nothing has been asked yet, so nothing has to be settled
  have bound : (unasked index load [target.name]).length ≤ index.size := length_unasked_le _
  have answers : Answers index load lookup wanted target [] (.ask target)
      (Resolution.search index load lookup wanted (2 * index.size + 1) target []) := by
    refine answers_search acyclic distinct .refl (fun _ => by omega) fun d _ member => ?_
    cases member
  have same : Resolution.resolve index load lookup target wanted =
      (Resolution.search index load lookup wanted (2 * index.size + 1) target []).map Prod.fst := by
    rw [Resolution.resolve]
    cases Resolution.search index load lookup wanted (2 * index.size + 1) target [] <;> rfl
  rw [same]
  exact answers.plain

theorem resolve_eq_iff {target : DeclaredClass} (acyclic : Acyclic index load target)
    (distinct : DistinctNames index (Loads load) target)
    {answer : Except ε (Option (Reference δ))} :
    Resolution.resolve index load lookup target wanted = answer ↔
      Plain index load lookup wanted (.ask target) answer := by
  constructor
  · rintro rfl
    exact plain_resolve acyclic distinct
  · exact (plain_resolve acyclic distinct).unique

/-- Through a loader that has been used before, resolution gives what it gives when every class is
read anew, as long as files are read alike. -/
theorem outcome_resolve {fs : FileSystem} {decoder : Decoder} {history : List ClassLocation}
    (alike : fs.ReadsAlike (fun a => a ∈ history ∨ index.Locates a) index.Locates)
    (capacity : Nat) (target : DeclaredClass) :
    (Loading.outcome ((Loader.new decoder capacity).after fs history)
      (Resolution.resolve index (Loading.load fs) lookup target wanted)).1 =
        Resolution.resolve index (decoder.load fs) lookup target wanted := by
  have sim : Loading.Simulation fs (decoder.load fs) index.Locates (Loading.Mirrors decoder fs _) :=
    Loading.Mirrors.simulation alike fun _ located => .inr located
  have mirrors := sim.resolve (fun c _ found => ⟨c, found⟩) lookup wanted target
  exact (mirrors _ (Loader.sourced_after_new decoder fs capacity fun _ old => .inl old)).1

/-- Asking every name once cannot be observed where no class is its own ancestor and declared names
are distinct: resolution gives an answer exactly if the search that remembers nothing gives it, be
it a member, none or a failure to load a class. This holds however classes are loaded, and so for a
loader of any capacity that has been used before. -/
theorem resolve_iff_plain (index : ClassIndex) (lookup : DeclaredClass → δ → Option (Reference δ))
    (target : DeclaredClass) (wanted : Reference δ) :
    (∀ (ε : Type) (load : ClassLocation → Except ε DeclaredClass), Acyclic index load target →
      DistinctNames index (Loads load) target → ∀ answer : Except ε (Option (Reference δ)),
        Resolution.resolve index load lookup target wanted = answer ↔
          Plain index load lookup wanted (.ask target) answer) ∧
    ∀ (fs : FileSystem) (decoder : Decoder) (capacity : Nat) (history : List ClassLocation),
      fs.ReadsAlike (fun a => a ∈ history ∨ index.Locates a) index.Locates →
      Acyclic index (decoder.load fs) target →
      DistinctNames index (Loads (decoder.load fs)) target →
      ∀ answer, (Loading.outcome ((Loader.new decoder capacity).after fs history)
          (Resolution.resolve index (Loading.load fs) lookup target wanted)).1 = answer ↔
        Plain index (decoder.load fs) lookup wanted (.ask target) answer := by
  refine ⟨fun ε load acyclic distinct answer => resolve_eq_iff acyclic distinct, ?_⟩
  intro fs decoder capacity history alike acyclic distinct answer
  rw [outcome_resolve alike]
  exact resolve_eq_iff acyclic distinct

/-! ### Parents in common -/

/-- Where parents have lower numbers, no class is its own ancestor. -/
theorem acyclic_of_rank {target : DeclaredClass} (rank : DeclaredClass → Nat)
    (lower : ∀ c d, Ancestor index (Loads load) target c → Parent index (Loads load) c d →
      rank d < rank c) : Acyclic index load target := by
  have below (c d : DeclaredClass) (ancestor : Ancestor index (Loads load) target c)
      (leads : Relation.TransGen (Parent index (Loads load)) c d) : rank d < rank c := by
    induction leads with
    | single parent => exact lower _ _ ancestor parent
    | tail front parent ih =>
      exact Nat.lt_trans (lower _ _ (ancestor.trans front.to_reflTransGen) parent) ih
  exact fun c ancestor circle => Nat.lt_irrefl _ (below c c ancestor circle)

/-- A class with two parents that have one in common, of which the second has another that declares
a method. Parents come after their children. -/
def diamond : List DeclaredClass :=
  [⟨⟨"D"⟩, [⟨"B"⟩, ⟨"C"⟩], .empty, .empty, .empty⟩, ⟨⟨"B"⟩, [⟨"A"⟩], .empty, .empty, .empty⟩,
    ⟨⟨"C"⟩, [⟨"A"⟩, ⟨"E"⟩], .empty, .empty, .empty⟩, ⟨⟨"A"⟩, [⟨"Gone"⟩], .empty, .empty, .empty⟩,
    ⟨⟨"E"⟩, [], .empty,
      SortedMap.empty.insert ⟨"x", [], .void⟩ ⟨Sample.method "E" "x", .empty, .empty⟩, .empty⟩]

/-- The index of the classes. -/
def diamondIndex : ClassIndex := .ofArtifacts [⟨"app", .ofList (diamond.map fun c =>
  (c.name, Sample.place c.name.dotted))⟩]

/-- Loads the classes. -/
def loadDiamond (location : ClassLocation) : Except Unit DeclaredClass :=
  match diamond.find? (·.name = location.className) with
  | some c => .ok c
  | none => .error ()

private theorem mem_diamond {c d : DeclaredClass}
    (parent : Parent diamondIndex (Loads loadDiamond) c d) : d ∈ diamond := by
  obtain ⟨p, -, location, -, loaded⟩ := parent
  unfold Loads loadDiamond at loaded
  split at loaded
  · rename_i found
    cases loaded
    exact List.mem_of_find?_eq_some found
  · cases loaded

/-- The common parent is asked once, and what its sister declares is found all the same. -/
theorem resolve_iff_plain_diamond :
    Plain diamondIndex loadDiamond DeclaredClass.methodReference? (Sample.method "D" "x")
      (.ask (diamond.head (by decide))) (.ok (some (Sample.method "E" "x"))) := by
  have inside (c : DeclaredClass) (ancestor : Ancestor diamondIndex (Loads loadDiamond)
      (diamond.head (by decide)) c) : c ∈ diamond := by
    rcases ancestor.cases_tail with rfl | ⟨b, -, parent⟩
    · exact List.head_mem _
    · exact mem_diamond parent
  have later : ∀ c ∈ diamond, ∀ p ∈ c.parents,
      ∀ d ∈ (diamondIndex.load loadDiamond p).toOption.join,
        diamond.reverse.idxOf d < diamond.reverse.idxOf c := by decide
  have acyclic : Acyclic diamondIndex loadDiamond (diamond.head (by decide)) := by
    refine acyclic_of_rank diamond.reverse.idxOf fun c d ancestor parent => ?_
    obtain ⟨p, member, location, found, loaded⟩ := parent
    have here : diamondIndex.load loadDiamond p = .ok (some d) := by
      simp [ClassIndex.load, found, loaded]
    exact later c (inside c ancestor) p member d (by rw [here]; rfl)
  have distinct : DistinctNames diamondIndex (Loads loadDiamond) (diamond.head (by decide)) := by
    intro c d first second same
    have unique : ∀ c ∈ diamond, ∀ d ∈ diamond, c.name = d.name → c = d := by decide
    exact unique c (inside c first) d (inside d second) same
  refine ((resolve_iff_plain _ _ _ _).1 Unit loadDiamond acyclic distinct _).1 ?_
  decide

end Linkage.Inheritance
