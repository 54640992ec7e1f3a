import Linkage.Classpath.JavaVersion

/-!
The feature release that a version string names. A version is a number, after `1.` in the old style,
and a suffix that begins with a mark; white space and quotes around it do not count
(`feature?_surrounded`). The mark of early access is taken out before the string is cut into parts,
so what follows the mark directly comes to stand behind the number: the number is read exactly if
nothing does (`feature?_version`).
-/
namespace Linkage

namespace Text

/-- Further digits never make a number smaller. -/
theorem le_ofDigitChars (text : List Char) (value : Nat) :
    value ≤ Nat.ofDigitChars 10 text value := by
  induction text generalizing value with
  | nil => exact Nat.le_refl value
  | cons c text ih =>
    rw [Nat.ofDigitChars_cons]
    exact Nat.le_trans (by omega) (ih _)

/-- A numeral of a number, with more behind it, denotes the number only if there is no more. -/
theorem numeral?_toDigits_append {bound n : Nat} {more : List Char} (positive : 0 < n)
    (below : n < bound) : numeral? bound (Nat.toDigits 10 n ++ more) = some n ↔ more = [] := by
  have digits : ∀ c ∈ Nat.toDigits 10 n, c.isDigit = true := fun c member =>
    Nat.isDigit_of_mem_toDigits (by decide) (by decide) member
  have some : Nat.toDigits 10 n ≠ [] := Nat.toDigits_ne_nil
  rw [numeral?_eq_some_iff]
  constructor
  · rintro ⟨text, same | signed, -, -, value, -⟩
    · subst same
      rw [Nat.ofDigitChars_append, Nat.ofDigitChars_toDigits (by decide) (by decide)] at value
      cases more with
      | nil => rfl
      | cons c more =>
        rw [Nat.ofDigitChars_cons] at value
        have greater := le_ofDigitChars more (10 * n + (c.toNat - '0'.toNat))
        omega
    · -- a plus sign is no digit
      obtain ⟨first, rest, front⟩ := List.exists_cons_of_ne_nil some
      rw [front, List.cons_append, List.cons.injEq] at signed
      exact absurd (digits first (front ▸ List.mem_cons_self)) (by rw [signed.1]; decide)
  · rintro rfl
    rw [List.append_nil]
    exact ⟨_, .inl rfl, some, digits, Nat.ofDigitChars_toDigits (by decide) (by decide), below⟩

end Text

namespace JavaVersion

/-- The mark of early-access builds. -/
def earlyAccess : List Char := ['-', 'e', 'a']

/-- A suffix begins with marks of early access, and what follows them is not set off by a mark. -/
def Glued (suffix : List Char) : Prop :=
  ∃ n c rest, suffix = (List.replicate (n + 1) earlyAccess).flatten ++ c :: rest ∧
    isMark c = false

/-! ### Early access -/

theorem dropEarlyAccess_append {front : List Char} (plain : '-' ∉ front) (text : List Char) :
    dropEarlyAccess (front ++ text) = front ++ dropEarlyAccess text := by
  induction front with
  | nil => rfl
  | cons c front ih =>
    have other : c ≠ '-' := fun same => plain (same ▸ List.mem_cons_self)
    rw [List.cons_append, List.cons_append, ← ih fun later => plain (List.mem_cons_of_mem _ later)]
    exact dropEarlyAccess.eq_2 _ _ fun _ dash => absurd dash other

/-- What is left begins without a mark exactly if, behind marks of early access, the text does. -/
theorem head?_dropEarlyAccess {text : List Char} :
    (∃ c ∈ (dropEarlyAccess text).head?, isMark c = false) ↔
      ∃ n c rest, text = (List.replicate n earlyAccess).flatten ++ c :: rest ∧
        isMark c = false := by
  fun_induction dropEarlyAccess text with
  | case1 text ih =>
    rw [ih]
    constructor
    · rintro ⟨n, c, rest, rfl, bare⟩
      exact ⟨n + 1, c, rest, rfl, bare⟩
    · rintro ⟨_ | n, c, rest, same, bare⟩
      · -- a dash is a mark
        cases same
        exact absurd bare (by decide)
      · exact ⟨n, c, rest, by simpa [List.replicate_succ, earlyAccess] using same, bare⟩
  | case2 c text other ih =>
    constructor
    · rintro ⟨d, here, bare⟩
      cases here
      exact ⟨0, c, text, rfl, bare⟩
    · rintro ⟨_ | n, d, rest, same, bare⟩
      · cases same
        exact ⟨c, rfl, bare⟩
      · rw [List.replicate_succ, List.flatten_cons, List.append_assoc] at same
        cases same
        exact absurd rfl (other _ rfl)
  | case3 =>
    constructor
    · rintro ⟨c, none, -⟩
      cases none
    · rintro ⟨n, c, rest, same, -⟩
      simp at same

/-- Whether a mark sets off what is left of a suffix. -/
theorem takeWhile_dropEarlyAccess {suffix : List Char}
    (marked : ∀ c ∈ suffix.head?, isMark c = true) :
    (dropEarlyAccess suffix).takeWhile (fun c => !isMark c) = [] ↔ ¬ Glued suffix := by
  have glued : Glued suffix ↔ ∃ c ∈ (dropEarlyAccess suffix).head?, isMark c = false := by
    rw [head?_dropEarlyAccess]
    constructor
    · rintro ⟨n, c, rest, same, bare⟩
      exact ⟨n + 1, c, rest, same, bare⟩
    · rintro ⟨_ | n, c, rest, rfl, bare⟩
      · rw [marked c rfl] at bare
        cases bare
      · exact ⟨n, c, rest, rfl, bare⟩
  rw [glued]
  cases dropEarlyAccess suffix with
  | nil => simp
  | cons c rest => cases mark : isMark c <;> simp [mark]

/-! ### What stands around a version -/

/-- Text without quotes and white space. -/
def Plain (text : List Char) : Prop := ∀ c ∈ text, c ≠ '"' ∧ Text.isBlank c = false

instance : DecidablePred Plain := fun text => List.decidableBAll _ text

theorem Plain.append {front text : List Char} (first : Plain front) (second : Plain text) :
    Plain (front ++ text) := List.forall_mem_append.2 ⟨first, second⟩

theorem plain_toDigits (n : Nat) : Plain (Nat.toDigits 10 n) := by
  intro c member
  have digit : c.isDigit = true := Nat.isDigit_of_mem_toDigits (by decide) (by decide) member
  have bounds : 48 ≤ c.toNat ∧ c.toNat ≤ 57 := by
    simpa [Char.isDigit, UInt32.le_iff_toNat_le] using digit
  constructor
  · rintro rfl
    exact absurd digit (by decide)
  · simp only [Text.isBlank, Bool.or_eq_false_iff, Bool.and_eq_false_iff, decide_eq_false_iff_not,
      beq_eq_false_iff_ne]
    omega

/-- White space around quotes around a text, or either of them, does not count. White space that
stands between the quotes and the text would. -/
theorem bare_surrounded {before opening text closing after : List Char} (plain : Plain text)
    (blank : ∀ c ∈ before ++ after, Text.isBlank c = true)
    (quotes : ∀ c ∈ opening ++ closing, c = '"') :
    Text.trimWhile (· == '"') (Text.trim (before ++ (opening ++ (text ++ (closing ++ after))))) =
      text := by
  rw [List.forall_mem_append] at blank quotes
  have quoted : ∀ c ∈ opening ++ (text ++ closing), Text.isBlank c = false := by
    simp only [List.forall_mem_append]
    refine ⟨?_, fun c member => (plain c member).2, ?_⟩
    · intro c member
      rw [quotes.1 c member]
      rfl
    · intro c member
      rw [quotes.2 c member]
      rfl
  have outer : before ++ (opening ++ (text ++ (closing ++ after))) =
      before ++ ((opening ++ (text ++ closing)) ++ after) := by simp
  rw [outer, Text.trim, Text.trimWhile_append blank.1 blank.2 quoted]
  exact Text.trimWhile_append (by simpa using quotes.1) (by simpa using quotes.2)
    (by simpa using fun c member => (plain c member).1)

theorem bare_of_plain {text : List Char} (plain : Plain text) :
    Text.trimWhile (· == '"') (Text.trim text) = text := by
  simpa using @bare_surrounded [] [] text [] [] plain (by simp) (by simp)

theorem feature?_surrounded {before opening version closing after : String}
    (plain : Plain version.toList)
    (blank : ∀ c ∈ before.toList ++ after.toList, Text.isBlank c = true)
    (quotes : ∀ c ∈ opening.toList ++ closing.toList, c = '"') :
    feature? (before ++ opening ++ version ++ closing ++ after) = feature? version := by
  have inner := bare_surrounded plain blank quotes
  simp only [feature?, String.toList_append, List.append_assoc, inner, bare_of_plain plain]

/-! ### Versions -/

/-- The parts of a version without quotes and white space. -/
theorem feature?_plain {version : String} {first : List Char} {rest : List (List Char)}
    (plain : Plain version.toList)
    (parts : Text.splitAll isMark (dropEarlyAccess version.toList) = first :: rest) :
    feature? version = if first = ['1'] then rest.head?.bind (Text.numeral? Text.bound32)
      else Text.numeral? Text.bound32 first := by
  simp only [feature?, bare_of_plain plain, parts]

section
variable {n : Nat} {suffix : String}

theorem toList_version : (toString n ++ suffix).toList = Nat.toDigits 10 n ++ suffix.toList := by
  rw [String.toList_append, Nat.toString_eq_repr, Nat.toList_repr]

theorem plain_version (plain : Plain suffix.toList) : Plain (toString n ++ suffix).toList :=
  toList_version ▸ (plain_toDigits n).append plain

theorem plain_oldVersion (plain : Plain suffix.toList) :
    Plain ("1." ++ (toString n ++ suffix)).toList := by
  have lead : Plain "1.".toList := by decide
  rw [String.toList_append]
  exact lead.append (plain_version plain)

/-- The first part of a version is its number, with what a mark of early access was in front of. -/
theorem exists_splitAll_version : ∃ parts,
    Text.splitAll isMark (dropEarlyAccess (toString n ++ suffix).toList) =
      (Nat.toDigits 10 n ++ (dropEarlyAccess suffix.toList).takeWhile fun c => !isMark c) ::
        parts := by
  have digit (c : Char) (member : c ∈ Nat.toDigits 10 n) : c.isDigit = true :=
    Nat.isDigit_of_mem_toDigits (by decide) (by decide) member
  have bare (c : Char) (member : c ∈ Nat.toDigits 10 n) : (!isMark c) = true := by
    have apart (mark : Char) (nondigit : mark.isDigit = false) : c ≠ mark := by
      rintro rfl
      rw [digit c member] at nondigit
      cases nondigit
    simp [isMark, apart]
  have dash : '-' ∉ Nat.toDigits 10 n := fun member => absurd (digit _ member) (by decide)
  obtain ⟨parts, split⟩ :=
    Text.exists_splitAll_eq isMark (Nat.toDigits 10 n ++ dropEarlyAccess suffix.toList)
  refine ⟨parts, ?_⟩
  rw [toList_version, dropEarlyAccess_append dash, split, List.takeWhile_append_of_pos bare]

theorem numeral?_version (atLeast : 2 ≤ n) (below : n < Text.bound32)
    (marked : ∀ c ∈ suffix.toList.head?, isMark c = true) :
    Text.numeral? Text.bound32
        (Nat.toDigits 10 n ++ (dropEarlyAccess suffix.toList).takeWhile fun c => !isMark c) =
      some n ↔ ¬ Glued suffix.toList := by
  rw [Text.numeral?_toDigits_append (by omega) below, takeWhile_dropEarlyAccess marked]

theorem feature?_eq_some_iff (atLeast : 2 ≤ n) (below : n < Text.bound32)
    (plain : Plain suffix.toList) (marked : ∀ c ∈ suffix.toList.head?, isMark c = true) :
    feature? (toString n ++ suffix) = some n ↔ ¬ Glued suffix.toList := by
  obtain ⟨parts, split⟩ := @exists_splitAll_version n suffix
  have other : Nat.toDigits 10 n ++ (dropEarlyAccess suffix.toList).takeWhile (fun c => !isMark c) ≠
      ['1'] := by
    intro one
    rw [List.append_eq_singleton_iff] at one
    rcases one with ⟨none, -⟩ | ⟨one, -⟩
    · exact Nat.toDigits_ne_nil none
    · have value : Nat.ofDigitChars 10 (Nat.toDigits 10 n) 0 = n := Nat.ofDigitChars_ten_toDigits
      rw [one] at value
      have least : Nat.ofDigitChars 10 ['1'] 0 = 1 := rfl
      omega
  rw [feature?_plain (plain_version plain) split, if_neg other,
    numeral?_version atLeast below marked]

theorem feature?_old_eq_some_iff (atLeast : 2 ≤ n) (below : n < Text.bound32)
    (plain : Plain suffix.toList) (marked : ∀ c ∈ suffix.toList.head?, isMark c = true) :
    feature? ("1." ++ (toString n ++ suffix)) = some n ↔ ¬ Glued suffix.toList := by
  obtain ⟨parts, split⟩ := @exists_splitAll_version n suffix
  have old : Text.splitAll isMark (dropEarlyAccess ("1." ++ (toString n ++ suffix)).toList) =
      ['1'] :: Text.splitAll isMark (dropEarlyAccess (toString n ++ suffix).toList) := by
    rw [String.toList_append, dropEarlyAccess_append (by decide)]
    rfl
  rw [feature?_plain (plain_oldVersion plain) old, if_pos rfl, split, List.head?_cons,
    Option.bind_some, numeral?_version atLeast below marked]

end

/-- The feature release is read off a version, in the new and in the old style and with anything
around it that does not count, exactly if no character but a mark follows the marks of early access
at the beginning of its suffix. -/
theorem feature?_version (n : Nat) (suffix : String) (atLeast : 2 ≤ n) (below : n < Text.bound32)
    (plain : Plain suffix.toList) (marked : ∀ c ∈ suffix.toList.head?, isMark c = true) :
    ∀ version ∈ [toString n ++ suffix, "1." ++ (toString n ++ suffix)],
      (feature? version = some n ↔ ¬ Glued suffix.toList) ∧
      ∀ before opening closing after : String,
        (∀ c ∈ before.toList ++ after.toList, Text.isBlank c = true) →
        (∀ c ∈ opening.toList ++ closing.toList, c = '"') →
        feature? (before ++ opening ++ version ++ closing ++ after) = feature? version := by
  intro version member
  rw [List.mem_cons, List.mem_singleton] at member
  rcases member with rfl | rfl
  · exact ⟨feature?_eq_some_iff atLeast below plain marked,
      fun _ _ _ _ blank quotes => feature?_surrounded (plain_version plain) blank quotes⟩
  · exact ⟨feature?_old_eq_some_iff atLeast below plain marked,
      fun _ _ _ _ blank quotes => feature?_surrounded (plain_oldVersion plain) blank quotes⟩

/-- An early-access build with a build number. -/
theorem feature?_version_earlyAccess :
    ¬ Glued "-ea+35".toList ∧ feature? (" " ++ "\"" ++ (toString 21 ++ "-ea+35") ++ "\"" ++ "\n") =
      some 21 := by
  have marked : ∀ c ∈ "-ea+35".toList.head?, isMark c = true := by simp [isMark]
  have plain : Plain "-ea+35".toList := by decide
  have apart : ¬ Glued "-ea+35".toList := (takeWhile_dropEarlyAccess marked).1 (by decide)
  obtain ⟨read, around⟩ := feature?_version 21 "-ea+35" (by decide) (by decide) plain marked _
    List.mem_cons_self
  exact ⟨apart, (around " " "\"" "\"" "\n" (by simp [Text.isBlank]) (by simp)).trans (read.2 apart)⟩

/-- A number that follows the mark of early access is read as part of the release. -/
theorem feature?_numbered_earlyAccess :
    feature? (toString 17 ++ "-ea5") = some 175 ∧
      feature? ("1." ++ (toString 17 ++ "-ea5")) = some 175 := by decide

end JavaVersion
end Linkage
