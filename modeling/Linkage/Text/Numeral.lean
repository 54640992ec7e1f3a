/-!
Digits, and decimal numerals of bounded size: an optional plus sign and at least one ASCII digit,
leading zeros allowed.
-/
namespace Linkage.Text

/-- The value of an ASCII digit. -/
def digit? (c : Char) : Option Nat := if '0' ≤ c ∧ c ≤ '9' then some (c.toNat - '0'.toNat) else none

/-- The value of a hexadecimal digit. -/
def hexDigit? (c : Char) : Option Nat :=
  if '0' ≤ c ∧ c ≤ '9' then some (c.toNat - '0'.toNat)
  else if 'a' ≤ c ∧ c ≤ 'f' then some (c.toNat - 'a'.toNat + 10)
  else if 'A' ≤ c ∧ c ≤ 'F' then some (c.toNat - 'A'.toNat + 10)
  else none

/-- The number that a list of digits denotes after `value`, if it holds nothing but digits. -/
def digitsValue? (value : Nat) : List Char → Option Nat
  | [] => some value
  | c :: rest => do digitsValue? (value * 10 + (← digit? c)) rest

/-- The text after a plus sign in front, if there is one. -/
def withoutPlus : List Char → List Char
  | '+' :: rest => rest
  | text => text

/-- The number that a numeral denotes, if it is below `bound`. -/
def numeral? (bound : Nat) (text : List Char) : Option Nat := do
  let digits := withoutPlus text
  guard !digits.isEmpty
  let value ← digitsValue? 0 digits
  guard (value < bound)
  return value

/-- One more than the greatest 32-bit number. -/
def bound32 : Nat := 0x100000000

theorem guard_bind_eq_some_iff {α : Type} {p : Prop} [Decidable p] {f : Unit → Option α} {a : α} :
    (guard p >>= f) = some a ↔ p ∧ f () = some a := by
  by_cases holds : p
  · have passes : (guard p : Option Unit) = some () := if_pos holds
    rw [passes]
    exact (and_iff_right holds).symm
  · have stops : (guard p : Option Unit) = none := if_neg holds
    rw [stops]
    exact iff_of_false (fun same => nomatch same) fun both => holds both.1

theorem digit?_eq_some_iff {c : Char} {n : Nat} :
    digit? c = some n ↔ c.isDigit = true ∧ c.toNat - '0'.toNat = n := by
  have bounds : c.isDigit = true ↔ '0' ≤ c ∧ c ≤ '9' := by
    simp [Char.isDigit, Char.le_def]
  rw [digit?, bounds]
  split <;> simp [*]

theorem digitsValue?_eq_some_iff {value n : Nat} {text : List Char} :
    digitsValue? value text = some n ↔
      (∀ c ∈ text, c.isDigit = true) ∧ Nat.ofDigitChars 10 text value = n := by
  induction text generalizing value with
  | nil => simp [digitsValue?]
  | cons c text ih =>
    simp only [digitsValue?, Option.bind_eq_bind, Option.bind_eq_some_iff, digit?_eq_some_iff, ih,
      List.forall_mem_cons, Nat.ofDigitChars_cons, Nat.mul_comm 10 value]
    grind

/-- A decimal numeral for a number below `bound`: digits, after an optional plus sign. -/
def IsNumeral (bound : Nat) (text : List Char) (n : Nat) : Prop :=
  ∃ digits, (text = digits ∨ text = '+' :: digits) ∧ digits ≠ [] ∧
    (∀ c ∈ digits, c.isDigit = true) ∧ Nat.ofDigitChars 10 digits 0 = n ∧ n < bound

/-- Nothing but digits and a plus sign occurs in a numeral. -/
theorem IsNumeral.not_mem {bound n : Nat} {text : List Char} {c : Char}
    (numeral : IsNumeral bound text n) (other : c ≠ '+') (nondigit : c.isDigit = false) :
    c ∉ text := by
  obtain ⟨digits, rfl | rfl, -, all, -⟩ := numeral <;> grind

theorem withoutPlus_cases (text : List Char) : text = '+' :: withoutPlus text ∨
    withoutPlus text = text ∧ ∀ rest, text ≠ '+' :: rest := by
  unfold withoutPlus
  split
  · exact .inl rfl
  · rename_i bare
    exact .inr ⟨rfl, bare⟩

theorem numeral?_eq_some_iff {bound n : Nat} {text : List Char} :
    numeral? bound text = some n ↔ IsNumeral bound text n := by
  have unsigned (digits : List Char) : (do
        guard !digits.isEmpty
        let value ← digitsValue? 0 digits
        guard (value < bound)
        return value : Option Nat) = some n ↔
      digits ≠ [] ∧ (∀ c ∈ digits, c.isDigit = true) ∧ Nat.ofDigitChars 10 digits 0 = n ∧
        n < bound := by
    have nonempty_iff : (!digits.isEmpty) = true ↔ digits ≠ [] := by simp
    rw [guard_bind_eq_some_iff, nonempty_iff]
    refine and_congr_right fun _ => ?_
    constructor
    · intro read
      obtain ⟨value, isValue, rest⟩ := Option.bind_eq_some_iff.1 read
      obtain ⟨small, same⟩ := guard_bind_eq_some_iff.1 rest
      cases same
      obtain ⟨all, value_eq⟩ := digitsValue?_eq_some_iff.1 isValue
      exact ⟨all, value_eq, small⟩
    · rintro ⟨all, value_eq, small⟩
      refine Option.bind_eq_some_iff.2 ⟨n, digitsValue?_eq_some_iff.2 ⟨all, value_eq⟩, ?_⟩
      exact guard_bind_eq_some_iff.2 ⟨small, rfl⟩
  refine (unsigned (withoutPlus text)).trans ?_
  constructor
  · intro read
    rcases withoutPlus_cases text with signed | ⟨bare, -⟩
    · exact ⟨withoutPlus text, .inr signed, read⟩
    · exact ⟨withoutPlus text, .inl bare.symm, read⟩
  · rintro ⟨digits, same, read⟩
    have digits_eq : withoutPlus text = digits := by
      rcases withoutPlus_cases text with signed | ⟨bare, none⟩ <;> rcases same with rfl | rfl
      · -- a plus sign is no digit
        exact absurd (read.2.1 '+' (signed ▸ List.mem_cons_self)) (by decide)
      · exact (List.cons.inj signed).2.symm
      · exact bare
      · exact absurd rfl (none digits)
    exact digits_eq ▸ read

end Linkage.Text
