import Linkage.Text.Parts

/-!
Paths of files. A path keeps the text it was given as; its components leave out repeated slashes and
dots that say nothing.
-/
namespace Linkage

/-- A path, as it was given. -/
structure Path where
  text : String
  deriving DecidableEq, Repr, Inhabited

namespace Path

/-- The parts of a path between its slashes, empty ones included. -/
def segments (p : Path) : List String :=
  (Text.splitAll (· == '/') p.text.toList).map String.ofList

/-- Whether a path starts at the root. -/
def isAbsolute (p : Path) : Bool := Text.startsWith "/" p.text

/-- Whether a segment says nothing, unless it is the first. -/
def isVoid (segment : String) : Bool := segment == "" || segment == "."

/-- Segments without those at the end that say nothing. A dot in front stays. -/
def trimSegments : List String → List String
  | [] => []
  | first :: rest =>
    let rest := (rest.reverse.dropWhile isVoid).reverse
    if first == "" && rest.isEmpty then [] else first :: rest

/-- The components of a path: its segments without those that say nothing. Only a dot in front of a
relative path counts. -/
def components (p : Path) : List String :=
  match p.segments with
  | [] => []
  | first :: rest =>
    let rest := rest.filter fun s => !isVoid s
    if first == "" then rest else first :: rest

/-- The last component, if it names something. -/
def fileName? (p : Path) : Option String :=
  match p.components.getLast? with
  | some "." => none
  | some ".." => none
  | name => name

/-- The path without its last component; a path without components has no parent. -/
def parent? (p : Path) : Option Path :=
  match trimSegments p.segments with
  | [] => none
  | segments =>
    let text := Text.join "/" (trimSegments segments.dropLast)
    some ⟨if p.isAbsolute && text == "" then "/" else text⟩

/-- The path of something inside a directory. An absolute path stays as it is. -/
def join (base p : Path) : Path :=
  if p.isAbsolute || base.text == "" then p
  else if Text.endsWith "/" base.text then ⟨base.text ++ p.text⟩
  else ⟨base.text ++ "/" ++ p.text⟩

/-- A file name before and after its last dot. A dot in front does not count. -/
def splitExtension (name : String) : String × Option String :=
  match Text.splitFirst? '.' name.toList.reverse with
  | some (_, []) => (name, none)
  | some (after, before) =>
    if name == ".." then (name, none)
    else (String.ofList before.reverse, some (String.ofList after.reverse))
  | none => (name, none)

/-- A name has an extension if something stands before its last dot. -/
theorem splitExtension_eq_some_iff {name extension : String} (plain : '.' ∉ extension.toList)
    (proper : extension ≠ "") : (splitExtension name).2 = some extension ↔
      ∃ base, base ≠ [] ∧ name.toList = base ++ '.' :: extension.toList := by
  -- what stands before and after the last dot is determined by the name
  have cut {base : List Char} (whole : name.toList = base ++ '.' :: extension.toList) :
      Text.splitFirst? '.' name.toList.reverse =
        some (extension.toList.reverse, base.reverse) := by
    refine Text.splitFirst?_eq_some_iff.2 ⟨?_, by simpa using plain⟩
    simp [whole]
  constructor
  · intro found
    unfold splitExtension at found
    split at found
    · cases found
    · rename_i after before nonempty here
      split at found
      · cases found
      · cases found
        refine ⟨before.reverse, by simpa using nonempty, ?_⟩
        rw [← List.reverse_inj, (Text.splitFirst?_eq_some_iff.1 here).1]
        simp
    · cases found
  · rintro ⟨base, nonempty, whole⟩
    have different : name ≠ ".." := by
      rintro rfl
      have size : 2 = base.length + (extension.toList.length + 1) := by
        simpa using congrArg List.length whole
      have before : 0 < base.length := List.length_pos_iff.2 nonempty
      have after : 0 < extension.toList.length := List.length_pos_iff.2 (by simpa using proper)
      omega
    unfold splitExtension
    rw [cut whole]
    simp [nonempty, different]

/-- The part of the file name after its last dot. -/
def extension? (p : Path) : Option String := p.fileName?.bind fun name => (splitExtension name).2

/-- The part of the file name before its last dot. -/
def stem? (p : Path) : Option String := p.fileName?.map fun name => (splitExtension name).1

end Path
end Linkage
