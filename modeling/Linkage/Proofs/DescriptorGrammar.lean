import Mathlib.Data.List.Forall2
import Linkage.Data.Outcome
import Linkage.Symbol.Method
import Linkage.Text.Numeral

/-!
The grammar of descriptors. A type is written as at most 255 brackets before one of eight letters or
a class name between `L` and `;`, void as `V`, and a method as the types of its parameters between
parentheses before its return type. What is read is exactly what the grammar allows, and it is
written back with slashes for dots (`TypeDescriptor.ofRaw_roundTrip`,
`MethodDescriptor.ofRaw_roundTrip_signature`).
-/
namespace Linkage

/-! ### The grammar -/

namespace Descriptor

/-- The text of an element type: a letter, or a class name between `L` and the first semicolon. -/
inductive IsElement : List Char → Prop
  | letter {c : Char} : c ∈ ['B', 'S', 'I', 'J', 'F', 'D', 'Z', 'C'] → IsElement [c]
  | name {name : List Char} : name ≠ [] → ';' ∉ name → IsElement ('L' :: (name ++ [';']))

/-- The text of a type that values can have: at most 255 brackets before an element type. -/
def IsValueType (w : List Char) : Prop :=
  ∃ n e, n ≤ 255 ∧ IsElement e ∧ w = List.replicate n '[' ++ e

/-- The text of a type that a method can return. -/
def IsType (w : List Char) : Prop := w = ['V'] ∨ IsValueType w

/-- The text of a method with the texts of its parameter types and of its return type. -/
structure IsMethod (w : List Char) (parameters : List (List Char)) (returnType : List Char) :
    Prop where
  text : w = '(' :: (parameters.flatten ++ ')' :: returnType)
  parameters : ∀ p ∈ parameters, IsValueType p
  returnType : IsType returnType

/-! ### Slashes for dots -/

/-- A text with slashes for dots. -/
def slashed (w : List Char) : List Char := w.map fun c => if c = '.' then '/' else c

@[simp] theorem slashed_nil : slashed [] = [] := rfl

@[simp] theorem slashed_cons (c : Char) (w : List Char) :
    slashed (c :: w) = (if c = '.' then '/' else c) :: slashed w := rfl

@[simp] theorem slashed_append (v w : List Char) : slashed (v ++ w) = slashed v ++ slashed w :=
  List.map_append

@[simp] theorem slashed_flatten (ws : List (List Char)) :
    slashed ws.flatten = (ws.map slashed).flatten := List.map_flatten

@[simp] theorem slashed_brackets (n : Nat) :
    slashed (List.replicate n '[') = List.replicate n '[' := by
  simp [slashed]

theorem semicolon_mem_slashed {w : List Char} : ';' ∈ slashed w ↔ ';' ∈ w := by
  induction w with
  | nil => simp
  | cons c w ih =>
    by_cases dot : c = '.'
    · simp [dot, ih]
    · simp [dot, ih]

/-! ### What texts denote -/

/-- A text denotes an element type. -/
inductive Spells : List Char → ElementType → Prop
  | letter (p : Primitive) : Spells [p.letter] (.primitive p)
  | name {name : List Char} : name ≠ [] → ';' ∉ name →
    Spells ('L' :: (name ++ [';'])) (.reference ⟨Text.replace '/' '.' (String.ofList name)⟩)

/-- A text denotes a type. -/
inductive Denotes : List Char → TypeDescriptor → Prop
  | void : Denotes ['V'] .void
  | element {w : List Char} {e : ElementType} : Spells w e → Denotes w (.element e)
  | array {w : List Char} {e : ElementType} {n : Nat} (bounds : 1 ≤ n ∧ n ≤ 255) : Spells w e →
    Denotes (List.replicate n '[' ++ w) (.array ⟨e, n, bounds⟩)

/-- A text denotes a type that values can have. -/
def DenotesValue (w : List Char) (t : TypeDescriptor) : Prop := Denotes w t ∧ t ≠ .void

theorem isElement_iff {w : List Char} : IsElement w ↔ ∃ e, Spells w e := by
  constructor
  · intro element
    cases element with
    | @letter c member =>
      have known : ∃ p : Primitive, p.letter = c := by
        simp only [List.mem_cons, List.not_mem_nil, or_false] at member
        rcases member with rfl | rfl | rfl | rfl | rfl | rfl | rfl | rfl
        exacts [⟨.byte, rfl⟩, ⟨.short, rfl⟩, ⟨.int, rfl⟩, ⟨.long, rfl⟩, ⟨.float, rfl⟩,
          ⟨.double, rfl⟩, ⟨.boolean, rfl⟩, ⟨.char, rfl⟩]
      obtain ⟨p, rfl⟩ := known
      exact ⟨_, .letter p⟩
    | name filled clean => exact ⟨_, .name filled clean⟩
  · rintro ⟨e, spells⟩
    cases spells with
    | letter p =>
      refine .letter ?_
      cases p <;> decide
    | name filled clean => exact .name filled clean

theorem isValueType_iff {w : List Char} : IsValueType w ↔ ∃ t, DenotesValue w t := by
  constructor
  · rintro ⟨n, v, small, element, rfl⟩
    obtain ⟨e, spells⟩ := isElement_iff.1 element
    rcases Nat.eq_zero_or_pos n with rfl | some
    · exact ⟨.element e, .element spells, nofun⟩
    · exact ⟨.array ⟨e, n, some, small⟩, .array ⟨some, small⟩ spells, nofun⟩
  · rintro ⟨t, denotes, value⟩
    cases denotes with
    | void => exact absurd rfl value
    | element spells => exact ⟨0, w, by decide, isElement_iff.2 ⟨_, spells⟩, rfl⟩
    | array bounds spells => exact ⟨_, _, bounds.2, isElement_iff.2 ⟨_, spells⟩, rfl⟩

theorem isType_iff {w : List Char} : IsType w ↔ ∃ t, Denotes w t := by
  constructor
  · rintro (rfl | value)
    · exact ⟨.void, .void⟩
    · obtain ⟨t, denotes, -⟩ := isValueType_iff.1 value
      exact ⟨t, denotes⟩
  · rintro ⟨t, denotes⟩
    by_cases void : t = .void
    · subst void
      cases denotes
      exact .inl rfl
    · exact .inr (isValueType_iff.2 ⟨t, denotes, void⟩)

theorem Spells.raw {w : List Char} {e : ElementType} (spells : Spells w e) :
    e.raw.toList = slashed w := by
  cases spells with
  | letter p => cases p <;> decide
  | @name name filled clean =>
    -- the name is kept with dots for slashes, and both are written as slashes
    have written := congrArg String.toList (Text.replace_replace '/' '.' (String.ofList name))
    rw [Text.toList_replace _ _ (String.ofList name), String.toList_ofList] at written
    simp [ElementType.raw, ClassName.internal, written, slashed]

theorem Spells.slashed {w : List Char} {e : ElementType} (spells : Spells w e) :
    Spells (slashed w) e := by
  cases spells with
  | letter p =>
    have same : Descriptor.slashed [p.letter] = [p.letter] := by cases p <;> decide
    rw [same]
    exact .letter p
  | @name name filled clean =>
    have dotted : Text.replace '/' '.' (String.ofList (Descriptor.slashed name)) =
        Text.replace '/' '.' (String.ofList name) := by
      have back := Text.replace_replace '.' '/' (String.ofList name)
      rwa [Text.replace.eq_1 '.' '/', String.toList_ofList] at back
    have filled' : Descriptor.slashed name ≠ [] := by simpa [Descriptor.slashed] using filled
    have written := Spells.name filled' (mt semicolon_mem_slashed.1 clean)
    rw [dotted] at written
    simpa using written

/-- What a text denotes is written as the text with slashes for dots. -/
theorem Denotes.raw {w : List Char} {t : TypeDescriptor} (denotes : Denotes w t) :
    t.raw.toList = slashed w := by
  cases denotes with
  | void => decide
  | element spells => exact spells.raw
  | @array w e n bounds spells =>
    have brackets : (Text.repeated n "[").toList = List.replicate n '[' := by
      rw [Text.toList_repeated]
      exact List.flatten_replicate_singleton
    rw [TypeDescriptor.raw, String.toList_append, brackets, spells.raw, slashed_append,
      slashed_brackets]

/-- Slashes for dots make no difference to what a text denotes. -/
theorem Denotes.slashed {w : List Char} {t : TypeDescriptor} (denotes : Denotes w t) :
    Denotes (slashed w) t := by
  cases denotes with
  | void => exact .void
  | element spells => exact .element spells.slashed
  | array bounds spells =>
    rw [slashed_append, slashed_brackets]
    exact .array bounds spells.slashed

/-! ### Splitting a type off a text -/

theorem ofLetter?_eq_some_iff {c : Char} {p : Primitive} :
    Primitive.ofLetter? c = some p ↔ c = p.letter := by
  constructor
  · intro read
    unfold Primitive.ofLetter? at read
    split at read <;> cases read <;> rfl
  · rintro rfl
    exact Primitive.ofLetter?_letter p

/-- A name before a semicolon that is its first denotes a class unless it is empty. -/
theorem ofName_eq_ok_iff {name : List Char} {c : ClassName} (clean : ';' ∉ name) :
    ClassName.ofName (String.ofList name) = .ok c ↔
      name ≠ [] ∧ c = ⟨Text.replace '/' '.' (String.ofList name)⟩ := by
  have inner : Text.endsWith ";" (String.ofList name) = false := by
    rw [← Bool.not_eq_true, Text.endsWith_iff, @String.toList_ofList name]
    intro ends
    exact clean (ends.subset (List.mem_singleton_self ';'))
  cases name with
  | nil => simp [ClassName.ofName]
  | cons first rest =>
    simp only [ClassName.ofName, inner, String.toList_ofList, List.isEmpty_cons, Bool.or_self,
      Bool.false_eq_true, if_false, Except.ok.injEq, ne_eq, reduceCtorEq, not_false_eq_true,
      true_and]
    exact eq_comm

theorem splitElement?_eq_some_iff {text rest : List Char} {e : ElementType} :
    TypeDescriptor.splitElement? text = some (e, rest) ↔ ∃ w, text = w ++ rest ∧ Spells w e := by
  constructor
  · intro cut
    unfold TypeDescriptor.splitElement? at cut
    split at cut
    · rename_i text
      simp only [bind, Option.bind_eq_some_iff] at cut
      obtain ⟨⟨name, after⟩, first, c, named, same⟩ := cut
      obtain ⟨rfl, clean⟩ := Text.splitFirst?_eq_some_iff.1 first
      cases same
      have read : ClassName.ofName (String.ofList name) = .ok c := by
        revert named
        cases ClassName.ofName (String.ofList name) <;> simp [Except.toOption]
      obtain ⟨filled, rfl⟩ := (ofName_eq_ok_iff clean).1 read
      exact ⟨'L' :: (name ++ [';']), by simp, .name filled clean⟩
    · simp only [bind, Option.bind_eq_some_iff] at cut
      obtain ⟨p, letter, same⟩ := cut
      cases same
      rw [ofLetter?_eq_some_iff.1 letter]
      exact ⟨[p.letter], rfl, .letter p⟩
    · cases cut
  · rintro ⟨w, rfl, spells⟩
    cases spells with
    | letter p => cases p <;> rfl
    | @name name filled clean =>
      have first : Text.splitFirst? ';' (name ++ ';' :: rest) = some (name, rest) :=
        Text.splitFirst?_eq_some_iff.2 ⟨rfl, clean⟩
      have read := (ofName_eq_ok_iff clean).2 ⟨filled, rfl⟩
      simp [TypeDescriptor.splitElement?, first, read, Except.toOption]

/-- Brackets in front of a text are counted, and the rest decides. -/
theorem split?_brackets (allowVoid : Bool) (n : Nat) {text : List Char}
    (bare : text.head? ≠ some '[') :
    TypeDescriptor.split? allowVoid (List.replicate n '[' ++ text) =
      if allowVoid && n == 0 && text.head? == some 'V' then some (.void, text.tail)
      else do
        let (e, after) ← TypeDescriptor.splitElement? text
        if n = 0 then return (.element e, after)
        else
          let a ← TypeDescriptor.arrayOf? e n
          return (.array a, after) := by
  have isBracket : ∀ c ∈ List.replicate n '[', decide (c = '[') = true := by
    intro c member
    simpa using List.eq_of_mem_replicate member
  have counted : (List.replicate n '[' ++ text).takeWhile (· = '[') = List.replicate n '[' := by
    rw [List.takeWhile_append_of_pos isBracket]
    cases text with
    | nil => simp
    | cons c text => simp_all
  have left : (List.replicate n '[' ++ text).dropWhile (· = '[') = text := by
    rw [List.dropWhile_append_of_pos isBracket]
    cases text with
    | nil => simp
    | cons c text => simp_all
  rw [TypeDescriptor.split?]
  simp only [counted, left, List.length_replicate]

theorem exists_brackets (text : List Char) :
    ∃ n bare, text = List.replicate n '[' ++ bare ∧ bare.head? ≠ some '[' := by
  induction text with
  | nil => exact ⟨0, [], rfl, nofun⟩
  | cons c text ih =>
    by_cases bracket : c = '['
    · obtain ⟨n, bare, rfl, other⟩ := ih
      exact ⟨n + 1, bare, by rw [bracket, List.replicate_succ, List.cons_append], other⟩
    · exact ⟨0, c :: text, rfl, by simpa using bracket⟩

/-- The first character of an element type tells it from brackets, void and the end of
parameters. -/
theorem Spells.exists_head {w : List Char} {e : ElementType} (spells : Spells w e) :
    ∃ c tail, w = c :: tail ∧ c ≠ '[' ∧ c ≠ 'V' ∧ c ≠ ')' := by
  cases spells with
  | letter p =>
    refine ⟨p.letter, [], rfl, ?_⟩
    cases p <;> decide
  | name filled clean => exact ⟨'L', _, rfl, by decide⟩

theorem split?_eq_some_iff {allowVoid : Bool} {text rest : List Char} {t : TypeDescriptor} :
    TypeDescriptor.split? allowVoid text = some (t, rest) ↔
      ∃ w, text = w ++ rest ∧ Denotes w t ∧ (t = .void → allowVoid = true) := by
  constructor
  · intro cut
    obtain ⟨n, bare, rfl, other⟩ := exists_brackets text
    rw [split?_brackets allowVoid n other] at cut
    split at cut
    · rename_i isVoid
      simp only [Bool.and_eq_true, beq_iff_eq] at isVoid
      obtain ⟨⟨allowed, rfl⟩, head⟩ := isVoid
      cases cut
      obtain ⟨tail, rfl⟩ := List.head?_eq_some_iff.1 head
      exact ⟨['V'], rfl, .void, fun _ => allowed⟩
    · obtain ⟨⟨e, after⟩, element, last⟩ := Option.bind_eq_some_iff.1 cut
      obtain ⟨w, rfl, spells⟩ := splitElement?_eq_some_iff.1 element
      dsimp only at last
      split at last
      · rename_i none
        cases last
        exact ⟨w, by simp [none], .element spells, nofun⟩
      · obtain ⟨a, bounded, same⟩ := Option.bind_eq_some_iff.1 last
        cases same
        unfold TypeDescriptor.arrayOf? at bounded
        split at bounded
        · rename_i bounds
          cases bounded
          exact ⟨_, (List.append_assoc ..).symm, .array bounds spells, nofun⟩
        · cases bounded
  · rintro ⟨w, rfl, denotes, allowed⟩
    cases denotes with
    | void =>
      have bare : ('V' :: rest).head? ≠ some '[' := by simp
      simpa [allowed rfl] using split?_brackets allowVoid 0 bare
    | element spells =>
      have element : TypeDescriptor.splitElement? (w ++ rest) = some (_, rest) :=
        splitElement?_eq_some_iff.2 ⟨w, rfl, spells⟩
      obtain ⟨c, tail, rfl, bracket, void, -⟩ := spells.exists_head
      have bare : (c :: tail ++ rest).head? ≠ some '[' := by simpa using bracket
      have read := split?_brackets allowVoid 0 bare
      rw [List.replicate_zero, List.nil_append, element] at read
      simpa [void] using read
    | @array w e n bounds spells =>
      have element : TypeDescriptor.splitElement? (w ++ rest) = some (e, rest) :=
        splitElement?_eq_some_iff.2 ⟨w, rfl, spells⟩
      obtain ⟨c, tail, rfl, bracket, -⟩ := spells.exists_head
      have bare : (c :: tail ++ rest).head? ≠ some '[' := by simpa using bracket
      have several : n ≠ 0 := by omega
      rw [List.append_assoc, split?_brackets allowVoid n bare, element]
      simp [several, TypeDescriptor.arrayOf?, bounds]

/-- Where a type stands in front of a text, it is clear where it ends. -/
theorem Denotes.unique {v w r s : List Char} {t u : TypeDescriptor} (first : Denotes v t)
    (second : Denotes w u) (same : v ++ r = w ++ s) : v = w ∧ t = u ∧ r = s := by
  have read : TypeDescriptor.split? true (v ++ r) = some (t, r) :=
    split?_eq_some_iff.2 ⟨v, rfl, first, fun _ => rfl⟩
  have again : TypeDescriptor.split? true (w ++ s) = some (u, s) :=
    split?_eq_some_iff.2 ⟨w, rfl, second, fun _ => rfl⟩
  rw [same, again] at read
  cases read
  exact ⟨List.append_cancel_right same, rfl, rfl⟩

end Descriptor

/-! ### Types -/

namespace TypeDescriptor
open Descriptor

theorem ofRaw_eq_ok_iff {raw : String} {t : TypeDescriptor} :
    ofRaw raw = .ok t ↔ Denotes raw.toList t := by
  unfold ofRaw
  constructor
  · intro read
    split at read
    · rename_i u cut
      cases read
      obtain ⟨w, whole, denotes, -⟩ := split?_eq_some_iff.1 cut
      rw [List.append_nil] at whole
      exact whole ▸ denotes
    · cases read
  · intro denotes
    have cut : split? true raw.toList = some (t, []) :=
      split?_eq_some_iff.2 ⟨raw.toList, (List.append_nil _).symm, denotes, fun _ => rfl⟩
    rw [cut]

theorem exists_ofRaw_iff {raw : String} : (∃ t, ofRaw raw = .ok t) ↔ IsType raw.toList := by
  rw [isType_iff]
  exact exists_congr fun t => ofRaw_eq_ok_iff

theorem ofRaw_of_not_isType {raw : String} (malformed : ¬ IsType raw.toList) :
    ofRaw raw = .error (.malformedDescriptor raw) := by
  rw [← exists_ofRaw_iff] at malformed
  unfold ofRaw at malformed ⊢
  split
  · rename_i t cut
    exact absurd ⟨t, by rw [cut]⟩ malformed
  · rfl

theorem raw_of_ofRaw {raw : String} {t : TypeDescriptor} (read : ofRaw raw = .ok t) :
    t.raw = Text.replace '.' '/' raw := by
  rw [← String.toList_inj, (ofRaw_eq_ok_iff.1 read).raw, Text.toList_replace]
  rfl

theorem ofRaw_raw_of_ofRaw {raw : String} {t : TypeDescriptor} (read : ofRaw raw = .ok t) :
    ofRaw t.raw = .ok t := by
  have denotes := ofRaw_eq_ok_iff.1 read
  rw [ofRaw_eq_ok_iff, denotes.raw]
  exact denotes.slashed

/-- A text is read as a type exactly if the grammar allows it, and otherwise it is told to be
malformed. The type is written as the text with slashes for dots, which is read as the same type, so
two texts denote one type exactly if they differ at most in dots and slashes. -/
theorem ofRaw_roundTrip (raw : String) :
    ((∃ t, ofRaw raw = .ok t) ↔ IsType raw.toList) ∧
    (¬ IsType raw.toList → ofRaw raw = .error (.malformedDescriptor raw)) ∧
    (∀ t, ofRaw raw = .ok t → t.raw = Text.replace '.' '/' raw ∧ ofRaw t.raw = .ok t) ∧
    ∀ t other u, ofRaw raw = .ok t → ofRaw other = .ok u →
      (t = u ↔ Text.replace '.' '/' raw = Text.replace '.' '/' other) := by
  refine ⟨exists_ofRaw_iff, ofRaw_of_not_isType,
    fun t read => ⟨raw_of_ofRaw read, ofRaw_raw_of_ofRaw read⟩, fun t other u read readOther => ?_⟩
  rw [← raw_of_ofRaw read, ← raw_of_ofRaw readOther]
  constructor
  · exact congrArg TypeDescriptor.raw
  · intro same
    have again := ofRaw_raw_of_ofRaw readOther
    rw [← same, ofRaw_raw_of_ofRaw read] at again
    exact Except.ok.inj again

/-- A class name holds brackets, letters and parentheses as anything else. -/
theorem ofRaw_roundTrip_sample : IsType "[[L[a.b/V(;".toList ∧
    ∃ t, ofRaw "[[L[a.b/V(;" = .ok t ∧ t.raw = "[[L[a/b/V(;" ∧ ofRaw t.raw = .ok t := by
  have element : IsElement "L[a.b/V(;".toList :=
    @IsElement.name "[a.b/V(".toList (by decide) (by decide)
  have isType : IsType "[[L[a.b/V(;".toList := .inr ⟨2, _, by decide, element, rfl⟩
  obtain ⟨accepts, -, writes, -⟩ := ofRaw_roundTrip "[[L[a.b/V(;"
  obtain ⟨t, read⟩ := accepts.2 isType
  exact ⟨isType, t, read, writes t read⟩

end TypeDescriptor

/-! ### Methods -/

namespace Descriptor

theorem splitParameters?_eq (text : List Char) : MethodDescriptor.splitParameters? text =
    if text.head? = some ')' then some ([], text.tail)
    else (TypeDescriptor.split? false text).bind fun first =>
      (MethodDescriptor.splitParameters? first.2).map fun more => (first.1 :: more.1, more.2) := by
  rw [MethodDescriptor.splitParameters?]
  split
  · rfl
  · split
    · rename_i cut
      rw [cut]
      rfl
    · rename_i t rest cut
      rw [cut]
      rfl

theorem DenotesValue.exists_head {w : List Char} {t : TypeDescriptor} (denotes : DenotesValue w t) :
    ∃ c tail, w = c :: tail ∧ c ≠ ')' := by
  obtain ⟨denotes, value⟩ := denotes
  cases denotes with
  | void => exact absurd rfl value
  | element spells =>
    obtain ⟨c, tail, rfl, -, -, other⟩ := spells.exists_head
    exact ⟨c, tail, rfl, other⟩
  | @array w e n bounds spells =>
    obtain ⟨k, rfl⟩ := Nat.exists_eq_add_of_le' bounds.1
    exact ⟨'[', _, rfl, by decide⟩

theorem splitParameters?_eq_some_iff {text after : List Char} {ts : List TypeDescriptor} :
    MethodDescriptor.splitParameters? text = some (ts, after) ↔
      ∃ ws, text = ws.flatten ++ ')' :: after ∧ List.Forall₂ DenotesValue ws ts := by
  constructor
  · fun_induction MethodDescriptor.splitParameters? text generalizing ts with
    | case1 text closed =>
      rintro ⟨⟩
      obtain ⟨tail, rfl⟩ := List.head?_eq_some_iff.1 closed
      exact ⟨[], rfl, .nil⟩
    | case2 text open_ cut => nofun
    | case3 text open_ t rest cut ih =>
      intro whole
      obtain ⟨⟨types, last⟩, more, same⟩ := Option.map_eq_some_iff.1 whole
      cases same
      obtain ⟨w, rfl, denotes, allowed⟩ := split?_eq_some_iff.1 cut
      obtain ⟨ws, rfl, each⟩ := ih more
      refine ⟨w :: ws, by simp, .cons ⟨denotes, fun void => ?_⟩ each⟩
      exact nomatch allowed void
  · rintro ⟨ws, rfl, each⟩
    induction each with
    | nil => rw [splitParameters?_eq]; rfl
    | @cons w t ws ts first rest ih =>
      obtain ⟨c, tail, rfl, other⟩ := first.exists_head
      have cut : TypeDescriptor.split? false (c :: tail ++ (ws.flatten ++ ')' :: after)) =
          some (t, ws.flatten ++ ')' :: after) :=
        split?_eq_some_iff.2 ⟨_, rfl, first.1, fun void => absurd void first.2⟩
      have start : (c :: tail ++ (ws.flatten ++ ')' :: after)).head? ≠ some ')' := by
        simpa using other
      rw [List.flatten_cons, List.append_assoc, splitParameters?_eq, if_neg start, cut]
      simp [ih]

/-- A text denotes a method, whose types have texts of their own. -/
structure DenotesMethod (w : List Char) (parameters : List (List Char)) (returnType : List Char)
    (m : MethodDescriptor) : Prop where
  text : w = '(' :: (parameters.flatten ++ ')' :: returnType)
  parameters : List.Forall₂ DenotesValue parameters m.parameters
  returnType : Denotes returnType m.returnType

theorem exists_forall₂_iff {ps : List (List Char)} :
    (∃ ts, List.Forall₂ DenotesValue ps ts) ↔ ∀ p ∈ ps, IsValueType p := by
  constructor
  · rintro ⟨ts, each⟩ p member
    obtain ⟨t, -, denotes⟩ := exists_of_forall₂ each member
    exact isValueType_iff.2 ⟨t, denotes⟩
  · intro each
    induction ps with
    | nil => exact ⟨[], .nil⟩
    | cons p ps ih =>
      obtain ⟨t, denotes⟩ := isValueType_iff.1 (each p List.mem_cons_self)
      obtain ⟨ts, others⟩ := ih fun q later => each q (List.mem_cons_of_mem _ later)
      exact ⟨t :: ts, .cons denotes others⟩

theorem isMethod_iff {w : List Char} {ps : List (List Char)} {r : List Char} (name : String) :
    IsMethod w ps r ↔ ∃ ts t, DenotesMethod w ps r ⟨name, ts, t⟩ := by
  constructor
  · rintro ⟨text, parameters, returnType⟩
    obtain ⟨ts, each⟩ := exists_forall₂_iff.2 parameters
    obtain ⟨t, denotes⟩ := isType_iff.1 returnType
    exact ⟨ts, t, text, each, denotes⟩
  · rintro ⟨ts, t, text, each, denotes⟩
    exact ⟨text, exists_forall₂_iff.1 ⟨ts, each⟩, isType_iff.2 ⟨t, denotes⟩⟩

/-- The parentheses close at the first one that ends a parameter, whatever class names hold. -/
theorem parameters_unique {ps qs : List (List Char)} {r s : List Char}
    (each : ∀ p ∈ ps, IsValueType p) (others : ∀ q ∈ qs, IsValueType q)
    (same : ps.flatten ++ ')' :: r = qs.flatten ++ ')' :: s) : ps = qs ∧ r = s := by
  induction ps generalizing qs with
  | nil =>
    cases qs with
    | nil => exact ⟨rfl, (List.cons.inj same).2⟩
    | cons q qs =>
      obtain ⟨u, denotes⟩ := isValueType_iff.1 (others q List.mem_cons_self)
      obtain ⟨c, tail, rfl, other⟩ := denotes.exists_head
      exact absurd (List.cons.inj same).1.symm other
  | cons p ps ih =>
    obtain ⟨t, denotes⟩ := isValueType_iff.1 (each p List.mem_cons_self)
    cases qs with
    | nil =>
      obtain ⟨c, tail, rfl, other⟩ := denotes.exists_head
      exact absurd (List.cons.inj same).1 other
    | cons q qs =>
      obtain ⟨u, denotes'⟩ := isValueType_iff.1 (others q List.mem_cons_self)
      rw [List.flatten_cons, List.flatten_cons, List.append_assoc, List.append_assoc] at same
      obtain ⟨rfl, -, rest⟩ := denotes.1.unique denotes'.1 same
      obtain ⟨rfl, last⟩ := ih (fun p later => each p (List.mem_cons_of_mem _ later))
        (fun q later => others q (List.mem_cons_of_mem _ later)) rest
      exact ⟨rfl, last⟩

theorem IsMethod.unique {w : List Char} {ps qs : List (List Char)} {r s : List Char}
    (first : IsMethod w ps r) (second : IsMethod w qs s) : ps = qs ∧ r = s :=
  parameters_unique first.parameters second.parameters
    (List.cons.inj (first.text.symm.trans second.text)).2

namespace DenotesMethod
variable {w : List Char} {ps : List (List Char)} {r : List Char} {m : MethodDescriptor}

theorem raw (denotes : DenotesMethod w ps r m) : m.raw.toList = slashed w := by
  obtain ⟨text, each, returnType⟩ := denotes
  have parameters : (String.join (m.parameters.map TypeDescriptor.raw)).toList =
      slashed ps.flatten := by
    rw [String.toList_join, List.flatMap_map, slashed_flatten, List.flatMap_def]
    refine congrArg List.flatten ?_
    rw [← List.forall₂_eq_eq_eq, List.forall₂_map_left_iff, List.forall₂_map_right_iff]
    exact each.flip.imp fun t p denotes => denotes.1.raw
  simp [MethodDescriptor.raw, text, parameters, returnType.raw]

theorem slashed (denotes : DenotesMethod w ps r m) :
    DenotesMethod (slashed w) (ps.map Descriptor.slashed) (Descriptor.slashed r) m where
  text := by simp [denotes.text]
  parameters := by
    rw [List.forall₂_map_left_iff]
    exact denotes.parameters.imp fun p t denotes => ⟨denotes.1.slashed, denotes.2⟩
  returnType := denotes.returnType.slashed

theorem ofRawTypes (denotes : DenotesMethod w ps r m) :
    MethodDescriptor.ofRawTypes (String.ofList r) m.name (ps.map String.ofList) = .ok m := by
  have parameters : (ps.map String.ofList).mapM TypeDescriptor.ofRaw = .ok m.parameters := by
    rw [mapM_eq_ok, List.forall₂_map_left_iff]
    refine denotes.parameters.imp fun p t denotes => ?_
    rw [TypeDescriptor.ofRaw_eq_ok_iff, String.toList_ofList]
    exact denotes.1
  have returnType : TypeDescriptor.ofRaw (String.ofList r) = .ok m.returnType := by
    rw [TypeDescriptor.ofRaw_eq_ok_iff, String.toList_ofList]
    exact denotes.returnType
  exact bind_eq_ok.2 ⟨_, parameters, bind_eq_ok.2 ⟨_, returnType, rfl⟩⟩

end DenotesMethod
end Descriptor

namespace MethodDescriptor
open Descriptor

theorem signature?_eq_some_iff {text : List Char} {ts : List TypeDescriptor} {t : TypeDescriptor}
    (name : String) :
    signature? text = some (ts, t) ↔ ∃ ps r, DenotesMethod text ps r ⟨name, ts, t⟩ := by
  constructor
  · intro read
    unfold signature? at read
    split at read
    · obtain ⟨⟨types, rest⟩, parameters, more⟩ := Option.bind_eq_some_iff.1 read
      obtain ⟨⟨u, after⟩, returned, last⟩ := Option.bind_eq_some_iff.1 more
      obtain ⟨ended, same⟩ := Text.guard_bind_eq_some_iff.1 last
      cases same
      have nothing : after = [] := List.isEmpty_iff.1 ended
      obtain ⟨ps, rfl, each⟩ := splitParameters?_eq_some_iff.1 parameters
      obtain ⟨r, rfl, denotes, -⟩ := split?_eq_some_iff.1 returned
      exact ⟨ps, r, by simp [nothing], each, denotes⟩
    · cases read
  · rintro ⟨ps, r, rfl, each, denotes⟩
    have parameters : splitParameters? (ps.flatten ++ ')' :: r) = some (ts, r) :=
      splitParameters?_eq_some_iff.2 ⟨ps, rfl, each⟩
    have returned : TypeDescriptor.split? true r = some (t, []) :=
      split?_eq_some_iff.2 ⟨r, (List.append_nil r).symm, denotes, fun _ => rfl⟩
    refine Option.bind_eq_some_iff.2 ⟨_, parameters, Option.bind_eq_some_iff.2 ⟨_, returned, ?_⟩⟩
    exact Text.guard_bind_eq_some_iff.2 ⟨rfl, rfl⟩

theorem ofRaw_eq_ok_iff {text name : String} {m : MethodDescriptor} :
    ofRaw text name = .ok m ↔ m.name = name ∧ ∃ ps r, DenotesMethod text.toList ps r m := by
  unfold ofRaw
  constructor
  · intro read
    split at read
    · rename_i ts t signature
      cases read
      exact ⟨rfl, (signature?_eq_some_iff name).1 signature⟩
    · cases read
  · rintro ⟨rfl, denotes⟩
    rw [(signature?_eq_some_iff m.name).2 denotes]

theorem exists_ofRaw_iff {text name : String} :
    (∃ m, ofRaw text name = .ok m) ↔ ∃ ps r, IsMethod text.toList ps r := by
  constructor
  · rintro ⟨m, read⟩
    obtain ⟨-, ps, r, denotes⟩ := ofRaw_eq_ok_iff.1 read
    exact ⟨ps, r, (isMethod_iff m.name).2 ⟨_, _, denotes⟩⟩
  · rintro ⟨ps, r, method⟩
    obtain ⟨ts, t, denotes⟩ := (isMethod_iff name).1 method
    exact ⟨_, ofRaw_eq_ok_iff.2 ⟨rfl, ps, r, denotes⟩⟩

theorem ofRaw_of_not_isMethod {text name : String}
    (malformed : ¬ ∃ ps r, IsMethod text.toList ps r) :
    ofRaw text name = .error (.malformedDescriptor text) := by
  rw [← exists_ofRaw_iff] at malformed
  unfold ofRaw at malformed ⊢
  split
  · rename_i ts t signature
    exact absurd ⟨⟨name, ts, t⟩, by rw [signature]⟩ malformed
  · rfl

/-- A text is read as a method exactly if the grammar allows it, in one way at most, and otherwise
it is told to be malformed. The method is written as the text with slashes for dots, which is read
as the same method, and it is the one that the texts of its types denote one by one. -/
theorem ofRaw_roundTrip_signature (text name : String) :
    ((∃ m, ofRaw text name = .ok m) ↔ ∃ ps r, IsMethod text.toList ps r) ∧
    ((¬ ∃ ps r, IsMethod text.toList ps r) →
      ofRaw text name = .error (.malformedDescriptor text)) ∧
    (∀ ps r qs s, IsMethod text.toList ps r → IsMethod text.toList qs s → ps = qs ∧ r = s) ∧
    ∀ m, ofRaw text name = .ok m → m.name = name ∧ m.raw = Text.replace '.' '/' text ∧
      ofRaw m.raw name = .ok m ∧ ∀ ps r, IsMethod text.toList ps r →
        ofRawTypes (String.ofList r) name (ps.map String.ofList) = .ok m := by
  refine ⟨exists_ofRaw_iff, ofRaw_of_not_isMethod, fun _ _ _ _ => IsMethod.unique,
    fun m read => ?_⟩
  obtain ⟨rfl, ps, r, denotes⟩ := ofRaw_eq_ok_iff.1 read
  refine ⟨rfl, ?_, ?_, fun qs s method => ?_⟩
  · rw [← String.toList_inj, denotes.raw, Text.toList_replace]
    rfl
  · rw [ofRaw_eq_ok_iff, denotes.raw]
    exact ⟨rfl, _, _, denotes.slashed⟩
  · obtain ⟨rfl, rfl⟩ := method.unique ((isMethod_iff m.name).2 ⟨_, _, denotes⟩)
    exact denotes.ofRawTypes

/-- The parenthesis that closes the parameters is not the one in a class name. -/
theorem ofRaw_roundTrip_signature_sample :
    IsMethod "(I[La.V)(;)V".toList [['I'], "[La.V)(;".toList] ['V'] ∧
    ∃ m, ofRaw "(I[La.V)(;)V" "run" = .ok m ∧ m.raw = "(I[La/V)(;)V" ∧
      ofRawTypes "V" "run" ["I", "[La.V)(;"] = .ok m := by
  have element : IsElement "La.V)(;".toList :=
    @IsElement.name "a.V)(".toList (by decide) (by decide)
  have method : IsMethod "(I[La.V)(;)V".toList [['I'], "[La.V)(;".toList] ['V'] := by
    refine ⟨rfl, ?_, .inl rfl⟩
    intro p member
    rcases List.mem_cons.1 member with rfl | later
    · exact ⟨0, ['I'], by decide, .letter (by decide), rfl⟩
    · rw [List.mem_singleton.1 later]
      exact ⟨1, _, by decide, element, rfl⟩
  obtain ⟨accepts, -, -, reads⟩ := ofRaw_roundTrip_signature "(I[La.V)(;)V" "run"
  obtain ⟨m, read⟩ := accepts.2 ⟨_, _, method⟩
  obtain ⟨-, raw, -, oneByOne⟩ := reads m read
  exact ⟨method, m, read, raw, oneByOne _ _ method⟩

end MethodDescriptor
end Linkage
