import Linkage.Check.Loader

/-!
Locations with one key. Paths that differ only in segments that say nothing lead to one place, as
far as they lead anywhere, so the class files at two locations with one key are the same
(`Decoder.load_unique`). A path may still lead nowhere where another with the same components does:
a slash after the name of a file is enough.
-/
namespace Linkage

/-- Two computations give the same where both give something. -/
private def Agree {ε α : Type} (x y : Except ε α) : Prop := ∀ a b, x = .ok a → y = .ok b → a = b

private theorem Agree.refl {ε α : Type} (x : Except ε α) : Agree x x :=
  fun _ _ left right => Except.ok.inj (left.symm.trans right)

private theorem Agree.bind {ε α β : Type} {x y : Except ε α} {f g : α → Except ε β} (first : Agree x y)
    (second : ∀ a, Agree (f a) (g a)) : Agree (x >>= f) (y >>= g) := by
  intro b c left right
  cases x with
  | error e => cases left
  | ok a =>
    cases y with
    | error e => cases right
    | ok a' =>
      cases first a a' rfl rfl
      exact second a b c left right

/-- Whether a segment of a path tells where it leads. -/
private def tells (segment : String) : Bool := !Path.isVoid segment

namespace FileSystem

private theorem follow_void (fs : FileSystem) (links : Nat) (place : List String) {name : String}
    (rest : List String) (isVoid : Path.isVoid name = true) :
    fs.follow links place (name :: rest) = fs.follow links place rest := by
  rw [follow, if_pos isVoid]

/-- Segments that say the same lead to one place. -/
private theorem follow_unique (fs : FileSystem) (links : Nat) (place names others : List String)
    {u v : List String} (same : names.filter tells = others.filter tells)
    (left : fs.follow links place names = .ok u) (right : fs.follow links place others = .ok v) :
    u = v := by
  match names, others with
  | [], [] =>
    rw [left, Except.ok.injEq] at right
    exact right
  | [], o :: others =>
    have isVoid : Path.isVoid o = true := by
      cases saying : Path.isVoid o with
      | true => rfl
      | false => simp [tells, saying] at same
    rw [follow_void fs links place others isVoid] at right
    exact follow_unique fs links place [] others (by simpa [tells, isVoid] using same) left right
  | n :: names, others =>
    by_cases voidN : Path.isVoid n = true
    · rw [follow_void fs links place names voidN] at left
      exact follow_unique fs links place names others (by simpa [tells, voidN] using same) left right
    · match others with
      | [] => simp [tells, voidN] at same
      | o :: others =>
        by_cases voidO : Path.isVoid o = true
        · rw [follow_void fs links place others voidO] at right
          exact follow_unique fs links place (n :: names) others (by simpa [tells, voidO] using same)
            left right
        · have both : n = o ∧ names.filter tells = others.filter tells := by
            simpa [tells, voidN, voidO] using same
          obtain ⟨rfl, rest⟩ := both
          rw [follow, if_neg voidN] at left right
          by_cases up : n = ".."
          · rw [if_pos up] at left right
            exact follow_unique fs links _ names others rest left right
          · rw [if_neg up] at left right
            cases node : fs.node? (place ++ [n]) with
            | none => simp [node] at left
            | some found =>
              rw [node] at left right
              cases found with
              | directory => exact follow_unique fs links _ names others rest left right
              | file _ =>
                simp only at left right
                split at left
                · split at right
                  · exact (Except.ok.inj left).symm.trans (Except.ok.inj right)
                  · cases right
                · cases left
              | link target =>
                cases links with
                | zero => cases left
                | succ links =>
                  refine follow_unique fs links _ _ _ ?_ left right
                  rw [List.filter_append, List.filter_append, rest]
termination_by (links, names.length + others.length)

end FileSystem

namespace Text

private theorem splitAll_ne_nil (isMark : Char → Bool) (text : List Char) :
    splitAll isMark text ≠ [] := by
  cases text with
  | nil => simp [splitAll]
  | cons c text =>
    rw [splitAll]
    split
    · simp
    · split <;> simp

/-- A mark divides the parts before it from the parts behind it. -/
private theorem splitAll_append {isMark : Char → Bool} {mark : Char} (isMarked : isMark mark = true)
    (before after : List Char) : splitAll isMark (before ++ mark :: after) =
      splitAll isMark before ++ splitAll isMark after := by
  induction before with
  | nil => simp [splitAll, isMarked]
  | cons c before ih =>
    rw [List.cons_append, splitAll, splitAll]
    split
    · rw [ih, List.cons_append]
    · rw [ih]
      cases parts : splitAll isMark before with
      | nil => exact absurd parts (splitAll_ne_nil isMark before)
      | cons part parts => rfl

end Text

namespace Path

private theorem filter_segments (p : Path) : p.segments.filter tells = p.components.filter tells := by
  unfold components
  cases p.segments with
  | nil => rfl
  | cons first rest =>
    have twice : (rest.filter tells).filter tells = rest.filter tells := by simp
    by_cases empty : first = ""
    · subst empty
      simpa [tells, isVoid] using twice.symm
    · simp only [beq_iff_eq, empty, if_false, List.filter_cons]
      rw [← twice]
      rfl

private theorem text_eq_empty {p : Path} (none : p.components = []) (relative : p.isAbsolute = false) :
    p.text = "" := by
  rw [← String.toList_eq_nil_iff]
  cases text : p.text.toList with
  | nil => rfl
  | cons c cs =>
    by_cases slash : c = '/'
    · simp [isAbsolute, Text.startsWith, text, slash, Text.afterStart?] at relative
    · obtain ⟨part, parts, split⟩ : ∃ part parts,
          Text.splitAll (· == '/') (c :: cs) = (c :: part) :: parts := by
        rw [Text.splitAll, if_neg (by simpa using slash)]
        cases Text.splitAll (· == '/') cs <;> simp
      simp [components, segments, text, split] at none

/-- Two paths say the same: they start at one place and have the same components. -/
private structure Alike (p q : Path) : Prop where
  start : p.isAbsolute = q.isAbsolute
  steps : p.segments.filter tells = q.segments.filter tells

private theorem alike_of_components {p q : Path} (start : p.isAbsolute = q.isAbsolute)
    (steps : p.components = q.components) : Alike p q :=
  ⟨start, by rw [filter_segments, filter_segments, steps]⟩

private theorem isAbsolute_append {base : String} (nonempty : base ≠ "") (text : String) :
    Path.isAbsolute ⟨base ++ text⟩ = Path.isAbsolute ⟨base⟩ := by
  rw [Ne, ← String.toList_eq_nil_iff] at nonempty
  cases chars : base.toList with
  | nil => exact absurd chars nonempty
  | cons c cs =>
    simp only [isAbsolute, Text.startsWith, String.toList_append, chars, List.cons_append]
    by_cases slash : c = '/'
    · simp [Text.afterStart?, slash]
    · simp [Text.afterStart?, Ne.symm slash]

private theorem filter_segments_divide (before after : List Char) :
    (Path.segments ⟨String.ofList (before ++ '/' :: after)⟩).filter tells =
      (Path.segments ⟨String.ofList before⟩).filter tells ++
        (Path.segments ⟨String.ofList after⟩).filter tells := by
  simp only [segments, String.toList_ofList]
  rw [Text.splitAll_append (by simp), List.map_append, List.filter_append]

/-- What lies inside a directory is reached by the directory's segments and then its own. -/
private theorem filter_segments_join {base p : Path} (relative : p.isAbsolute = false)
    (nonempty : base.text ≠ "") : (base.join p).segments.filter tells =
      base.segments.filter tells ++ p.segments.filter tells := by
  unfold join
  rw [relative, Bool.false_or, if_neg (by simpa using nonempty)]
  split
  · rename_i ends
    obtain ⟨front, isFront⟩ := Option.isSome_iff_exists.1 ends
    have chars : base.text.toList = front ++ ['/'] := Text.beforeEnd?_eq_some_iff.1 isFront
    have whole : (⟨base.text ++ p.text⟩ : Path) =
        ⟨String.ofList (front ++ '/' :: p.text.toList)⟩ := by
      rw [Path.mk.injEq, ← String.toList_inj]
      simp [chars]
    have own : base = ⟨String.ofList (front ++ '/' :: [])⟩ := by
      rw [← chars, String.ofList_toList]
    rw [whole, filter_segments_divide, String.ofList_toList]
    conv => rhs; rw [own, filter_segments_divide]
    simp [segments, Text.splitAll, tells, isVoid]
  · have whole : (⟨base.text ++ "/" ++ p.text⟩ : Path) =
        ⟨String.ofList (base.text.toList ++ '/' :: p.text.toList)⟩ := by
      rw [Path.mk.injEq, ← String.toList_inj]
      simp
    rw [whole, filter_segments_divide, String.ofList_toList, String.ofList_toList]

private theorem isAbsolute_join {base p : Path} (relative : p.isAbsolute = false)
    (nonempty : base.text ≠ "") : (base.join p).isAbsolute = base.isAbsolute := by
  unfold join
  rw [relative, Bool.false_or, if_neg (by simpa using nonempty)]
  split
  · exact isAbsolute_append nonempty _
  · rw [String.append_assoc]
    exact isAbsolute_append nonempty _

private theorem text_empty_of_components {base other : Path}
    (start : base.isAbsolute = other.isAbsolute) (steps : base.components = other.components)
    (empty : base.text = "") : other.text = "" := by
  obtain ⟨text⟩ := base
  subst empty
  exact text_eq_empty (steps ▸ by decide) (start ▸ by decide)

private theorem alike_join {base other : Path} (start : base.isAbsolute = other.isAbsolute)
    (steps : base.components = other.components) (p : Path) : Alike (base.join p) (other.join p) := by
  cases relative : p.isAbsolute with
  | true => simp [join, relative, Alike.mk]
  | false =>
    by_cases empty : base.text = ""
    · simp [join, empty, text_empty_of_components start steps empty, Alike.mk]
    · have otherNonempty : other.text ≠ "" := fun otherEmpty =>
        empty (text_empty_of_components start.symm steps.symm otherEmpty)
      refine ⟨?_, ?_⟩
      · rw [isAbsolute_join relative empty, isAbsolute_join relative otherNonempty, start]
      · rw [filter_segments_join relative empty, filter_segments_join relative otherNonempty,
          filter_segments base, filter_segments other, steps]

private theorem components_dot (p : Path) : components ⟨p.text ++ "/."⟩ = p.components := by
  have split : segments ⟨p.text ++ "/."⟩ = p.segments ++ ["."] := by
    have chars : (p.text ++ "/.").toList = p.text.toList ++ '/' :: ['.'] := by simp
    rw [segments, segments, chars, Text.splitAll_append (by simp), List.map_append]
    simp [Text.splitAll]
  have some : p.segments ≠ [] := by simpa [segments] using Text.splitAll_ne_nil _ _
  rw [components, components, split]
  cases parts : p.segments with
  | nil => exact absurd parts some
  | cons first rest => simp [isVoid]

end Path

namespace FileSystem
open Path

private theorem find_agree {fs : FileSystem} {p q : Path} (alike : Alike p q) :
    Agree (fs.find p) (fs.find q) := by
  refine Agree.bind ?_ fun place => .refl _
  intro u v left right
  unfold locate at left right
  split at left
  · cases left
  · split at left
    · cases left
    · split at right
      · cases right
      · split at right
        · cases right
        · rw [start, alike.start] at left
          exact follow_unique fs _ _ _ _ alike.steps left right

/-- A path that is too long leads nowhere, whatever its components are. -/
theorem find_of_tooLong {fs : FileSystem} {p : Path} (long : pathLimit ≤ p.text.utf8ByteSize) :
    fs.find p = .error .tooLong := by
  have nonempty : p.text ≠ "" := by
    intro empty
    simp [empty, pathLimit] at long
  rw [find, locate, if_neg (by simpa using nonempty), if_pos long]
  rfl

/-- Where names lead to from a directory, if none of them is a link. -/
def leads? (fs : FileSystem) (place : List String) :
    List String → Option (Except FileError (List String))
  | [] => some (.ok place)
  | name :: rest =>
    if Path.isVoid name then fs.leads? place rest
    else if name = ".." then fs.leads? place.dropLast rest
    else
      match fs.node? (place ++ [name]) with
      | none => some (.error .notFound)
      | some .directory => fs.leads? (place ++ [name]) rest
      | some (.file _) => some (if rest.isEmpty then .ok (place ++ [name]) else .error .notDirectory)
      | some (.link _) => none

theorem follow_of_leads? {fs : FileSystem} {links : Nat} {place names : List String}
    {result : Except FileError (List String)} (plain : fs.leads? place names = some result) :
    fs.follow links place names = result := by
  induction names generalizing place with
  | nil =>
    rw [follow]
    exact Option.some.inj plain
  | cons name rest ih =>
    unfold leads? at plain
    rw [follow]
    split at plain
    · rename_i isVoid
      rw [if_pos isVoid, ih plain]
    · rename_i telling
      rw [if_neg telling]
      split at plain
      · rename_i up
        rw [if_pos up, ih plain]
      · rename_i down
        rw [if_neg down]
        generalize fs.node? (place ++ [name]) = node at plain ⊢
        rcases node with _ | (_ | bytes | target)
        · exact Option.some.inj plain
        · exact ih plain
        · exact Option.some.inj plain
        · cases plain

/-- A path without links is looked up name by name. -/
theorem locate_of_leads? {fs : FileSystem} {p : Path} {result : Except FileError (List String)}
    (sized : p.text ≠ "" ∧ p.text.utf8ByteSize < pathLimit)
    (plain : fs.leads? (fs.start p) p.segments = some result) : fs.locate p = result := by
  rw [locate, if_neg (by simpa using sized.1), if_neg (by omega)]
  exact follow_of_leads? plain

end FileSystem

private theorem ClasspathError.ofFile_agree {α : Type} {x y : Except FileError α} (p q : Path)
    (agree : Agree x y) : Agree (ofFile p x) (ofFile q y) := by
  intro a b left right
  cases x with
  | error e => cases left
  | ok a' =>
    cases y with
    | error e => cases right
    | ok b' =>
      cases left
      cases right
      exact agree _ _ rfl rfl

namespace ClassLocation
open Path

private theorem readEntry_agree {fs : FileSystem} {p q : Path} (alike : Alike p q) (entry : String) :
    Agree (readEntry fs p entry) (readEntry fs q entry) := by
  refine Agree.bind (ClasspathError.ofFile_agree p q
    ((FileSystem.find_agree alike).bind fun _ => .refl _)) ?_
  intro opened a b left right
  cases opened with
  | error cause => cases left
  | ok zip =>
    simp only at left right
    cases found : zip.named? entry with
    | none => simp only [found] at left; cases left
    | some place =>
      simp only [found] at left right
      cases stored : zip.stored place with
      | error fault => simp only [stored] at left; cases left
      | ok bytes =>
        simp only [stored] at left right
        cases contents : Zip.Archive.contents place bytes with
        | error damage => simp only [contents] at left; cases left
        | ok inside =>
          simp only [contents] at left right
          exact Except.ok.inj (left.symm.trans right)

/-- A dot behind the root says nothing. -/
theorem key_directory_dot {name : ClassName} {root : Path} (nonempty : root.text ≠ "")
    (relative : String) :
    (directory name ⟨root.text ++ "/."⟩ relative).key = (directory name root relative).key := by
  simp only [key, components_dot, isAbsolute_append nonempty]

/-- The class files at locations with one key have the same bytes. -/
theorem read_agree {fs : FileSystem} {here there : ClassLocation} (same : here.key = there.key) :
    Agree (here.read fs) (there.read fs) := by
  cases here with
  | directory name root relative =>
    cases there with
    | directory name' root' relative' =>
      simp only [key, LocationKey.mk.injEq] at same
      obtain ⟨-, -, -, start, steps, rfl⟩ := same
      refine ClasspathError.ofFile_agree _ _ ?_
      exact (FileSystem.find_agree (alike_join start steps _)).bind fun _ => .refl _
    | archive => simp [key] at same
    | platform => simp [key] at same
  | archive name file entry =>
    cases there with
    | archive name' file' entry' =>
      simp only [key, LocationKey.mk.injEq] at same
      obtain ⟨-, -, -, start, steps, rfl⟩ := same
      exact readEntry_agree (alike_of_components start steps) entry
    | directory => simp [key] at same
    | platform => simp [key] at same
  | platform name module file entry =>
    cases there with
    | platform name' module' file' entry' =>
      simp only [key, LocationKey.mk.injEq] at same
      obtain ⟨-, -, -, start, steps, rfl⟩ := same
      exact readEntry_agree (alike_of_components start steps) entry
    | directory => simp [key] at same
    | archive => simp [key] at same

end ClassLocation

theorem Decoder.load_eq_ok_iff {decoder : Decoder} {fs : FileSystem} {location : ClassLocation}
    {d : DeclaredClass} : decoder.load fs location = .ok d ↔
      ∃ bytes, location.read fs = .ok bytes ∧ decoder.decode bytes = .ok d := by
  unfold load
  cases location.read fs with
  | error e => simp
  | ok bytes => cases decoded : decoder.decode bytes <;> simp [decoded]

theorem Decoder.load_of_directory {decoder : Decoder} {fs : FileSystem} {name : ClassName}
    {root : Path} {relative : String} {bytes : Bytes} {d : DeclaredClass} (place : List String)
    (located : fs.locate (root.join ⟨relative⟩) = .ok place)
    (found : fs.node? place = some (.file bytes)) (decoded : decoder.decode bytes = .ok d) :
    decoder.load fs (.directory name root relative) = .ok d := by
  have read : (ClassLocation.directory name root relative).read fs = .ok bytes := by
    simp only [ClassLocation.read, FileSystem.read, FileSystem.find, located, bind, Except.bind, found]
    rfl
  exact load_eq_ok_iff.2 ⟨bytes, read, decoded⟩

/-- Where the class files at two locations with one key can be decoded, they declare the same. -/
theorem Decoder.load_unique {decoder : Decoder} {fs : FileSystem} {here there : ClassLocation}
    {c d : DeclaredClass} (same : here.key = there.key) (left : decoder.load fs here = .ok c)
    (right : decoder.load fs there = .ok d) : c = d := by
  obtain ⟨bytes, readHere, decodedHere⟩ := load_eq_ok_iff.1 left
  obtain ⟨others, readThere, decodedThere⟩ := load_eq_ok_iff.1 right
  cases ClassLocation.read_agree same bytes others readHere readThere
  exact Except.ok.inj (decodedHere.symm.trans decodedThere)

/-- A class file that is decoded at one location is decoded at another with the same key, unless it
cannot be read there. -/
theorem Decoder.load_of_key {decoder : Decoder} {fs : FileSystem} {here there : ClassLocation}
    {d : DeclaredClass} (same : here.key = there.key) (loaded : decoder.load fs here = .ok d)
    (readable : (there.read fs).isOk) : decoder.load fs there = .ok d := by
  obtain ⟨bytes, read, decoded⟩ := load_eq_ok_iff.1 loaded
  cases readThere : there.read fs with
  | error e =>
    rw [readThere] at readable
    cases readable
  | ok others =>
    cases ClassLocation.read_agree same bytes others read readThere
    exact load_eq_ok_iff.2 ⟨bytes, readThere, decoded⟩

end Linkage
