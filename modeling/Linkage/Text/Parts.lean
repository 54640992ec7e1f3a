/-!
Cutting and searching text. Everything works on lists of characters, so that the laws of each
operation are laws about lists.
-/
namespace Linkage.Text

/-- The text after a given beginning, if it begins so. -/
def afterStart? : List Char → List Char → Option (List Char)
  | [], text => some text
  | p :: start, c :: text => if p = c then afterStart? start text else none
  | _ :: _, [] => none

/-- The text before a given ending, if it ends so. -/
def beforeEnd? (ending text : List Char) : Option (List Char) :=
  (afterStart? ending.reverse text.reverse).map List.reverse

theorem afterStart?_eq_some_iff {start text rest : List Char} :
    afterStart? start text = some rest ↔ text = start ++ rest := by
  induction start generalizing text with
  | nil => simp [afterStart?]
  | cons p start ih =>
    cases text with
    | nil => simp [afterStart?]
    | cons c text =>
      by_cases same : p = c
      · simp [afterStart?, same, ih]
      · simp [afterStart?, same, Ne.symm same]

theorem beforeEnd?_eq_some_iff {ending text rest : List Char} :
    beforeEnd? ending text = some rest ↔ text = rest ++ ending := by
  simp only [beforeEnd?, Option.map_eq_some_iff, afterStart?_eq_some_iff]
  constructor
  · rintro ⟨r, eq, rfl⟩
    simpa using congrArg List.reverse eq
  · rintro rfl
    exact ⟨rest.reverse, by simp, by simp⟩

/-- Whether the text begins with `start`. -/
def startsWith (start text : String) : Bool := (afterStart? start.toList text.toList).isSome

theorem startsWith_iff {start text : String} :
    startsWith start text = true ↔ start.toList <+: text.toList := by
  rw [startsWith, Option.isSome_iff_exists]
  constructor
  · rintro ⟨rest, after⟩
    exact ⟨rest, (afterStart?_eq_some_iff.1 after).symm⟩
  · rintro ⟨rest, same⟩
    exact ⟨rest, afterStart?_eq_some_iff.2 same.symm⟩

/-- Whether the text ends with `ending`. -/
def endsWith (ending text : String) : Bool := (beforeEnd? ending.toList text.toList).isSome

theorem endsWith_iff {ending text : String} :
    endsWith ending text = true ↔ ending.toList <:+ text.toList := by
  rw [endsWith, Option.isSome_iff_exists]
  constructor
  · rintro ⟨rest, before⟩
    exact ⟨rest, (beforeEnd?_eq_some_iff.1 before).symm⟩
  · rintro ⟨rest, same⟩
    exact ⟨rest, beforeEnd?_eq_some_iff.2 same.symm⟩

/-- The parts of the text before and after the first `mark`. -/
def splitFirst? (mark : Char) : List Char → Option (List Char × List Char)
  | [] => none
  | c :: text =>
    if c = mark then some ([], text)
    else (splitFirst? mark text).map fun (before, after) => (c :: before, after)

theorem splitFirst?_eq_some_iff {mark : Char} {text before after : List Char} :
    splitFirst? mark text = some (before, after) ↔
      text = before ++ mark :: after ∧ mark ∉ before := by
  induction text generalizing before with
  | nil => simp [splitFirst?]
  | cons c text ih =>
    by_cases same : c = mark
    · cases before with
      | nil => simp [splitFirst?, same]
      | cons b before => simp +contextual [splitFirst?, same]
    · cases before with
      | nil => simp [splitFirst?, same]
      | cons b before =>
        have apart : mark ≠ c := Ne.symm same
        simp only [splitFirst?, same, if_false, Option.map_eq_some_iff, Prod.exists]
        grind

theorem splitFirst?_eq_none_iff {mark : Char} {text : List Char} :
    splitFirst? mark text = none ↔ mark ∉ text := by
  induction text with
  | nil => simp [splitFirst?]
  | cons c text ih =>
    by_cases same : c = mark
    · simp [splitFirst?, same]
    · simp [splitFirst?, same, Ne.symm same, ih]

/-- The parts of the text between the characters of a class; there is always at least one part. -/
def splitAll (isMark : Char → Bool) : List Char → List (List Char)
  | [] => [[]]
  | c :: text =>
    if isMark c then [] :: splitAll isMark text
    else
      match splitAll isMark text with
      | [] => [[c]]
      | part :: parts => (c :: part) :: parts

/-- The first part reaches up to the first character of the class. -/
theorem exists_splitAll_eq (isMark : Char → Bool) (text : List Char) :
    ∃ parts, splitAll isMark text = text.takeWhile (fun c => !isMark c) :: parts := by
  induction text with
  | nil => exact ⟨[], rfl⟩
  | cons c text ih =>
    by_cases marked : isMark c = true
    · exact ⟨splitAll isMark text, by simp [splitAll, marked]⟩
    · obtain ⟨parts, rest⟩ := ih
      exact ⟨parts, by simp [splitAll, marked, rest]⟩

/-- Whether `part` occurs somewhere in the text. -/
def contains (part : List Char) : List Char → Bool
  | [] => part.isEmpty
  | c :: text => part.isPrefixOf (c :: text) || contains part text

/-- The parts joined with a separator between them. -/
def join (separator : String) (parts : List String) : String := separator.intercalate parts

/-- The text with every character of one kind replaced by another. -/
def replace (old new : Char) (text : String) : String :=
  String.ofList (text.toList.map fun c => if c = old then new else c)

theorem toList_replace (old new : Char) (text : String) :
    (replace old new text).toList = text.toList.map fun c => if c = old then new else c :=
  String.toList_ofList

/-- Where one character has been replaced by another, replacing back leaves none of the other. -/
theorem replace_replace (a b : Char) (text : String) :
    replace b a (replace a b text) = replace b a text := by
  have each (c : Char) : (if (if c = a then b else c) = b then a else if c = a then b else c) =
      if c = b then a else c := by
    by_cases first : c = a
    · simp [first]
    · simp [first]
  rw [replace, toList_replace, List.map_map, replace]
  exact congrArg String.ofList (List.map_congr_left fun c _ => each c)

/-- The text several times over. -/
def repeated (n : Nat) (text : String) : String := String.join (List.replicate n text)

theorem toList_repeated (n : Nat) (text : String) :
    (repeated n text).toList = (List.replicate n text.toList).flatten := by
  rw [repeated, String.toList_join, List.flatMap_def, List.map_replicate]

/-- A character with an ASCII capital letter made small. -/
def lowerAscii (c : Char) : Char :=
  if 'A' ≤ c ∧ c ≤ 'Z' then Char.ofNat (c.toNat + 32) else c

/-- Whether two texts differ at most in the case of ASCII letters. -/
def sameIgnoringAsciiCase (a b : String) : Bool :=
  a.toList.map lowerAscii == b.toList.map lowerAscii

end Linkage.Text
