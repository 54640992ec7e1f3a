import Mathlib.Data.List.Forall2

/-!
Computations that fail or give a value, taken apart where they give one.
-/
namespace Linkage
variable {ε α β : Type}

/-- A computation in two steps gives a value if the first gives one from which the second does. -/
theorem bind_eq_ok {x : Except ε α} {f : α → Except ε β} {b : β} :
    x >>= f = .ok b ↔ ∃ a, x = .ok a ∧ f a = .ok b := by
  constructor
  · intro whole
    cases x with
    | error e => cases whole
    | ok a => exact ⟨a, rfl, whole⟩
  · rintro ⟨a, rfl, second⟩
    exact second

theorem map_eq_ok {x : Except ε α} {f : α → β} {b : β} :
    f <$> x = .ok b ↔ ∃ a, x = .ok a ∧ f a = b := by
  rw [map_eq_pure_bind, bind_eq_ok]
  simp [pure, Except.pure]

theorem mapError_eq_ok {ε' : Type} {x : Except ε α} {f : ε → ε'} {a : α} :
    x.mapError f = .ok a ↔ x = .ok a := by
  cases x <;> simp [Except.mapError]

/-- A computation on each element of a list gives values if it does on every one of them. -/
theorem mapM_eq_ok {f : α → Except ε β} {as : List α} {bs : List β} :
    as.mapM f = .ok bs ↔ List.Forall₂ (fun a b => f a = .ok b) as bs := by
  induction as generalizing bs with
  | nil =>
    rw [List.forall₂_nil_left_iff, List.mapM_nil]
    exact ⟨fun same => (Except.ok.inj same).symm, fun same => same ▸ rfl⟩
  | cons a as ih =>
    rw [List.mapM_cons, bind_eq_ok, List.forall₂_cons_left_iff]
    constructor
    · rintro ⟨b, first, rest⟩
      obtain ⟨bs, others, same⟩ := bind_eq_ok.1 rest
      exact ⟨b, bs, first, ih.1 others, (Except.ok.inj same).symm⟩
    · rintro ⟨b, bs, first, others, rfl⟩
      exact ⟨b, first, bind_eq_ok.2 ⟨bs, ih.2 others, rfl⟩⟩

/-- Where each value is given by a function, so are all of them. -/
theorem eq_map_of_mapM_eq_ok {f : α → Except ε β} {g : α → β} {as : List α} {bs : List β}
    (each : ∀ a b, f a = .ok b → b = g a) (run : as.mapM f = .ok bs) : bs = as.map g := by
  have values : List.Forall₂ (fun a b => g a = b) as bs :=
    (mapM_eq_ok.1 run).imp fun a b here => (each a b here).symm
  rw [← List.forall₂_eq_eq_eq, List.forall₂_map_right_iff]
  exact values.flip.imp fun _ _ same => same.symm

/-- The values that are given are all the values there are. -/
theorem eq_filterMap_of_mapM_eq_ok {f : α → Except ε β} {as : List α} {bs : List β}
    (run : as.mapM f = .ok bs) : bs = as.filterMap fun a => (f a).toOption := by
  replace run := mapM_eq_ok.1 run
  induction run with
  | nil => rfl
  | @cons a b as bs here _ ih =>
    have given : (f a).toOption = some b := by rw [here]; rfl
    rw [List.filterMap_cons, given, ← ih]

/-- Of two lists that are related element by element, each element of the first has its own of the
second. -/
theorem exists_of_forall₂ {R : α → β → Prop} {as : List α} {bs : List β} {a : α}
    (related : List.Forall₂ R as bs) (member : a ∈ as) : ∃ b ∈ bs, R a b := by
  induction related with
  | nil => cases member
  | cons here _ ih =>
    rcases List.mem_cons.1 member with rfl | later
    · exact ⟨_, List.mem_cons_self, here⟩
    · obtain ⟨b, inside, there⟩ := ih later
      exact ⟨b, List.mem_cons_of_mem _ inside, there⟩

/-- Where all values are given, each is. -/
theorem exists_of_mapM_eq_ok {f : α → Except ε β} {as : List α} {bs : List β} {a : α}
    (run : as.mapM f = .ok bs) (member : a ∈ as) : ∃ b, f a = .ok b := by
  obtain ⟨b, -, here⟩ := exists_of_forall₂ (mapM_eq_ok.1 run) member
  exact ⟨b, here⟩

/-- The values are those given by some element. -/
theorem mem_iff_of_mapM_eq_ok {f : α → Except ε β} {as : List α} {bs : List β} {b : β}
    (run : as.mapM f = .ok bs) : b ∈ bs ↔ ∃ a ∈ as, f a = .ok b := by
  replace run := mapM_eq_ok.1 run
  induction run with
  | nil => simp
  | cons here _ ih =>
    simp only [List.mem_cons, exists_eq_or_imp, here, Except.ok.injEq]
    exact or_congr eq_comm ih

/-- Where the values are lists, their elements are those of a list given by some element. -/
theorem mem_flatten_of_mapM_eq_ok {f : α → Except ε (List β)} {as : List α} {parts : List (List β)}
    {b : β} (run : as.mapM f = .ok parts) :
    b ∈ parts.flatten ↔ ∃ a ∈ as, ∃ part, f a = .ok part ∧ b ∈ part := by
  rw [List.mem_flatten]
  constructor
  · rintro ⟨part, inside, member⟩
    obtain ⟨a, element, here⟩ := (mem_iff_of_mapM_eq_ok run).1 inside
    exact ⟨a, element, part, here, member⟩
  · rintro ⟨a, element, part, here, member⟩
    exact ⟨part, (mem_iff_of_mapM_eq_ok run).2 ⟨a, element, here⟩, member⟩

/-- Where each value is given, all are. -/
theorem exists_mapM_eq_ok {f : α → Except ε β} {as : List α} (each : ∀ a ∈ as, ∃ b, f a = .ok b) :
    ∃ bs, as.mapM f = .ok bs := by
  induction as with
  | nil => exact ⟨[], rfl⟩
  | cons a as ih =>
    obtain ⟨b, here⟩ := each a List.mem_cons_self
    obtain ⟨bs, others⟩ := ih fun c member => each c (List.mem_cons_of_mem _ member)
    exact ⟨b :: bs, by rw [List.mapM_cons, here, others]; rfl⟩

/-- Where one computation gives from each element what another gives, changed by a function, it does
so from all of them. -/
theorem mapM_eq_ok_map {γ : Type} {f : α → Except ε β} {g : α → Except ε γ} {h : β → γ}
    {as : List α} {bs : List β} (each : ∀ a ∈ as, ∀ b, f a = .ok b → g a = .ok (h b))
    (run : as.mapM f = .ok bs) : as.mapM g = .ok (bs.map h) := by
  rw [mapM_eq_ok] at run ⊢
  induction run with
  | nil => exact .nil
  | @cons a b as bs here _ ih =>
    refine .cons (each a List.mem_cons_self b here) (ih fun other later => ?_)
    exact each other (List.mem_cons_of_mem _ later)

end Linkage
