import Linkage.Classpath.MultiRelease
import Linkage.Data.Outcome

/-!
Which entries of an archive count. What an entry stands for can be read off its path: a class file,
from some release on (`Targets`), and by it a class (`Denotes`). Of the entries for a class that are
not meant for a later release than the one that runs, the one that counts is meant for the highest
release, and is the last of those meant for it (`Counts`). Selection finds exactly these entries
(`select_counts`).
-/
namespace Linkage.MultiRelease

/-- The directory of the versioned entries. -/
def versions : List Char := "META-INF/versions/".toList

/-- The path of the class file that an entry stands for, and the release from which on it does. An
entry that lies in a directory `META-INF/versions/n/` does so from release `n` on, and an entry that
does not lie in `META-INF/versions/` always. -/
inductive Targets (entry : String) : Nat → List Char → Prop
  | versioned {version path : List Char} {n : Nat} :
    entry.toList = versions ++ (version ++ '/' :: path) → Text.IsNumeral Text.bound32 version n →
      Targets entry n path
  | always : ¬ versions <+: entry.toList → Targets entry 0 entry.toList

/-- Whether the last part of a path is a given name. -/
def IsFile (name : String) (path : List Char) : Prop :=
  path = name.toList ∨ '/' :: name.toList <:+ path

/-- Whether a path has the name of a class file that declares no class. -/
def IsPseudo (path : List Char) : Prop :=
  IsFile "module-info.class" path ∨ IsFile "package-info.class" path

/-- The class that the path of a class file names: what stands before `.class`, with dots for
slashes. -/
def Names (path : List Char) (c : ClassName) : Prop :=
  ∃ stem, path = stem ++ ".class".toList ∧ c = ⟨Text.replace '/' '.' (String.ofList stem)⟩

/-- An entry denotes a class from a release on: the class file that it stands for is named so. -/
def Denotes (entry : String) (n : Nat) (c : ClassName) : Prop :=
  ¬ IsPseudo entry.toList ∧ ∃ path, Targets entry n path ∧ Names path c

/-- The entry for a class that counts when `release` runs: of those not meant for a later one, it is
meant for the highest release, and no later entry is meant for that. -/
def Counts (release : Nat) (entries : List String) (c : ClassName) (entry : String) : Prop :=
  ∃ before after n, entries = before ++ entry :: after ∧ n ≤ release ∧ Denotes entry n c ∧
    (∀ e ∈ before, ∀ k ≤ release, Denotes e k c → k ≤ n) ∧
    ∀ e ∈ after, ∀ k ≤ release, Denotes e k c → k < n

/-! ### Paths -/

/-- A text without slashes at the end of a path stands behind its last slash. -/
theorem suffix_append_slash {ending directory path : List Char} (plain : '/' ∉ ending) :
    ending <:+ directory ++ '/' :: path ↔ ending <:+ path := by
  constructor
  · intro whole
    have part : '/' :: path <:+ directory ++ '/' :: path := List.suffix_append _ _
    rcases List.suffix_or_suffix_of_suffix whole part with inside | around
    · rcases List.suffix_cons_iff.1 inside with rfl | short
      · exact absurd List.mem_cons_self plain
      · exact short
    · exact absurd (around.mem List.mem_cons_self) plain
  · intro short
    exact List.suffix_append_of_suffix (short.trans (List.suffix_cons _ _))

theorem isFile_append_slash {name : String} {directory path : List Char}
    (plain : '/' ∉ name.toList) : IsFile name (directory ++ '/' :: path) ↔ IsFile name path := by
  constructor
  · rintro (same | whole)
    · exact absurd (same ▸ List.mem_append_right _ List.mem_cons_self) plain
    · have part : '/' :: path <:+ directory ++ '/' :: path := List.suffix_append _ _
      rcases List.suffix_or_suffix_of_suffix whole part with inside | around
      · rcases List.suffix_cons_iff.1 inside with same | short
        · exact .inl (List.cons.inj same).2.symm
        · exact .inr short
      · rcases List.suffix_cons_iff.1 around with same | short
        · exact .inl (List.cons.inj same).2
        · exact absurd (short.mem List.mem_cons_self) plain
  · rintro (rfl | short)
    · exact .inr (List.suffix_append _ _)
    · exact .inr (List.suffix_append_of_suffix (short.trans (List.suffix_cons _ _)))

theorem isFile_of_plain {name : String} {path : List Char} (plain : '/' ∉ path) :
    IsFile name path ↔ path = name.toList := by
  refine ⟨?_, .inl⟩
  rintro (same | inside)
  · exact same
  · exact absurd (inside.mem List.mem_cons_self) plain

theorem fileName_eq_iff {path name : String} (plain : '/' ∉ name.toList) :
    fileName path = name ↔ IsFile name path.toList := by
  unfold fileName
  split
  · rename_i reversed directory cut
    obtain ⟨whole, last⟩ := Text.splitFirst?_eq_some_iff.1 cut
    have path_eq : path.toList = directory.reverse ++ '/' :: reversed.reverse := by
      rw [← path.toList.reverse_reverse, whole]
      simp
    rw [path_eq, isFile_append_slash plain, isFile_of_plain (by simpa using last),
      ← String.toList_inj, String.toList_ofList]
  · rename_i uncut
    rw [isFile_of_plain (by simpa using Text.splitFirst?_eq_none_iff.1 uncut), String.toList_inj]

theorem isPseudoClass_iff {path : String} : isPseudoClass path = true ↔ IsPseudo path.toList := by
  rw [isPseudoClass, Bool.or_eq_true, beq_iff_eq, beq_iff_eq, fileName_eq_iff (by decide),
    fileName_eq_iff (by decide)]
  rfl

theorem not_isPseudoClass_iff {path : String} :
    (!isPseudoClass path) = true ↔ ¬ IsPseudo path.toList := by
  rw [Bool.not_eq_true', ← Bool.not_eq_true, isPseudoClass_iff]

theorem Targets.isPseudo_iff {entry : String} {n : Nat} {path : List Char}
    (targets : Targets entry n path) : IsPseudo path ↔ IsPseudo entry.toList := by
  cases targets with
  | versioned whole _ =>
    rw [whole, ← List.append_assoc]
    exact or_congr (isFile_append_slash (by decide)).symm (isFile_append_slash (by decide)).symm
  | always => exact Iff.rfl

theorem Targets.suffix_iff {entry : String} {n : Nat} {path ending : List Char}
    (targets : Targets entry n path) (plain : '/' ∉ ending) :
    ending <:+ path ↔ ending <:+ entry.toList := by
  cases targets with
  | versioned whole _ => rw [whole, ← List.append_assoc, suffix_append_slash plain]
  | always => exact Iff.rfl

/-- The path and the release of an entry, read from the front. -/
private def target? (entry : String) : Option (Nat × String) :=
  match Text.afterStart? versions entry.toList with
  | some rest => (Text.splitFirst? '/' rest).bind fun cut =>
      (Text.numeral? Text.bound32 cut.1).map fun n => (n, String.ofList cut.2)
  | none => some (0, entry)

private theorem target?_eq_some_iff {entry path : String} {n : Nat} :
    target? entry = some (n, path) ↔ Targets entry n path.toList := by
  unfold target?
  split
  · rename_i rest inside
    rw [Text.afterStart?_eq_some_iff] at inside
    simp only [Option.bind_eq_some_iff, Option.map_eq_some_iff, Text.numeral?_eq_some_iff,
      Prod.exists, Prod.mk.injEq, Text.splitFirst?_eq_some_iff]
    constructor
    · rintro ⟨version, file, ⟨rfl, -⟩, n, numeral, rfl, rfl⟩
      rw [String.toList_ofList]
      exact .versioned inside numeral
    · intro targets
      generalize same : path.toList = file at targets
      cases targets with
      | @versioned version _ _ whole numeral =>
        have cut : rest = version ++ '/' :: file :=
          List.append_cancel_left (inside.symm.trans whole)
        exact ⟨version, file, ⟨cut, numeral.not_mem (by decide) (by decide)⟩, n, numeral, rfl,
          by simp [← same]⟩
      | always outside => exact absurd ⟨rest, inside.symm⟩ outside
  · rename_i outside
    have plain : ¬ versions <+: entry.toList := by
      rintro ⟨rest, same⟩
      rw [Text.afterStart?_eq_some_iff.2 same.symm] at outside
      cases outside
    constructor
    · rintro ⟨⟩
      exact .always plain
    · intro targets
      generalize same : path.toList = file at targets
      cases targets with
      | versioned whole _ => exact absurd ⟨_, whole.symm⟩ plain
      | always => rw [String.toList_inj.1 same]

private theorem classify?_eq (entry : String) : classify? entry =
    (do
      guard (Text.endsWith ".class" entry = true)
      let target ← target? entry
      guard ((!isPseudoClass target.2) = true)
      return target) := by
  unfold classify? target? versions
  refine bind_congr fun _ => ?_
  cases Text.afterStart? "META-INF/versions/".toList entry.toList with
  | none => rfl
  | some rest =>
    dsimp only
    cases Text.splitFirst? '/' rest with
    | none => rfl
    | some cut =>
      change (Text.numeral? Text.bound32 cut.1 >>= _) =
        ((Text.numeral? Text.bound32 cut.1).map _ >>= _)
      cases Text.numeral? Text.bound32 cut.1 with
      | none => rfl
      | some n => rfl

/-- Class files are told by their paths alone. -/
theorem classify?_eq_some_iff {entry path : String} {n : Nat} :
    classify? entry = some (n, path) ↔
      ¬ IsPseudo entry.toList ∧ Targets entry n path.toList ∧ ".class".toList <:+ path.toList := by
  rw [classify?_eq, Text.guard_bind_eq_some_iff, Text.endsWith_iff]
  constructor
  · rintro ⟨ends, read⟩
    obtain ⟨target, found, rest⟩ := Option.bind_eq_some_iff.1 read
    obtain ⟨proper, same⟩ := Text.guard_bind_eq_some_iff.1 rest
    cases same
    have targets := target?_eq_some_iff.1 found
    refine ⟨?_, targets, (targets.suffix_iff (by decide)).2 ends⟩
    rw [← targets.isPseudo_iff]
    exact not_isPseudoClass_iff.1 proper
  · rintro ⟨proper, targets, ends⟩
    refine ⟨(targets.suffix_iff (by decide)).1 ends, Option.bind_eq_some_iff.2
      ⟨(n, path), target?_eq_some_iff.2 targets, Text.guard_bind_eq_some_iff.2 ⟨?_, rfl⟩⟩⟩
    rw [not_isPseudoClass_iff, targets.isPseudo_iff]
    exact proper

/-! ### Entries -/

/-- What an entry of an archive says of a class. -/
def Entry.of? (entry : String) : Option Entry := do
  let (release, path) ← classify? entry
  let name ← (ClassName.ofFileName path).toOption
  return ⟨release, name, entry⟩

theorem exists_classEntries_iff {entries : List String} :
    (∃ read, classEntries entries = .ok read) ↔
      ∀ entry ∈ entries, ∀ n path, classify? entry = some (n, path) →
        ∃ c, ClassName.ofFileName path = .ok c := by
  constructor
  · rintro ⟨read, accepted⟩ entry member n path classified
    have listed : ((n, path), entry) ∈
        entries.filterMap fun entry => (classify? entry).map fun c => (c, entry) :=
      List.mem_filterMap.2 ⟨entry, member, by rw [classified, Option.map_some]⟩
    obtain ⟨x, here⟩ := exists_of_mapM_eq_ok accepted listed
    obtain ⟨c, named, -⟩ := bind_eq_ok.1 here
    exact ⟨c, named⟩
  · intro each
    refine exists_mapM_eq_ok fun x listed => ?_
    obtain ⟨entry, member, same⟩ := List.mem_filterMap.1 listed
    obtain ⟨⟨n, path⟩, classified, rfl⟩ := Option.map_eq_some_iff.1 same
    obtain ⟨c, named⟩ := each entry member n path classified
    exact ⟨⟨n, c, entry⟩, bind_eq_ok.2 ⟨c, named, rfl⟩⟩

/-- The entries for classes are those of the archive that say something, in order. -/
theorem eq_filterMap_of_classEntries {entries : List String} {read : List Entry}
    (accepted : classEntries entries = .ok read) : read = entries.filterMap Entry.of? := by
  rw [eq_filterMap_of_mapM_eq_ok accepted, List.filterMap_filterMap]
  congr 1
  funext entry
  unfold Entry.of?
  cases classify? entry with
  | none => rfl
  | some x =>
    obtain ⟨n, path⟩ := x
    cases named : ClassName.ofFileName path with
    | error e => simp [named, bind, Except.bind, Except.toOption]
    | ok c => simp [named, bind, Except.bind, Except.toOption, pure, Except.pure]

/-- Where the names of all class files can be read, an entry says what it denotes. -/
theorem Entry.of?_eq_some_iff {entries : List String} {read : List Entry} {entry : String}
    {x : Entry} (accepted : classEntries entries = .ok read) (member : entry ∈ entries) :
    Entry.of? entry = some x ↔ x.path = entry ∧ Denotes entry x.release x.name := by
  constructor
  · intro said
    obtain ⟨⟨n, path⟩, classified, rest⟩ := Option.bind_eq_some_iff.1 said
    obtain ⟨c, named, same⟩ := Option.bind_eq_some_iff.1 rest
    cases same
    obtain ⟨proper, targets, stem, file⟩ := classify?_eq_some_iff.1 classified
    have ok : ClassName.ofFileName path = .ok c := by
      cases result : ClassName.ofFileName path <;> simp_all [Except.toOption]
    exact ⟨rfl, proper, path.toList, targets, stem, file.symm,
      ((ClassName.ofFileName_eq_ok_iff file.symm).1 ok).2⟩
  · rintro ⟨rfl, proper, _, targets, stem, rfl, name_eq⟩
    obtain ⟨path, file⟩ : ∃ path : String, path.toList = stem ++ ".class".toList :=
      ⟨String.ofList _, String.toList_ofList⟩
    have classified : classify? x.path = some (x.release, path) :=
      classify?_eq_some_iff.2 ⟨proper, file ▸ targets, file ▸ List.suffix_append _ _⟩
    obtain ⟨c, named⟩ := exists_classEntries_iff.1 ⟨read, accepted⟩ _ member _ _ classified
    have same : c = x.name := ((ClassName.ofFileName_eq_ok_iff file).1 named).2.trans name_eq.symm
    simp [Entry.of?, classified, named, same, Except.toOption]

/-! ### Layers -/

section
variable {α : Type} {key : α → Nat} {p : α → Bool}

/-- The last of the elements with the highest key. -/
def IsLastHighest (key : α → Nat) (p : α → Bool) (l : List α) (x : α) : Prop :=
  ∃ before after, l = before ++ x :: after ∧ p x = true ∧
    (∀ b ∈ before, p b = true → key b ≤ key x) ∧ ∀ a ∈ after, p a = true → key a < key x

theorem IsLastHighest.unique {l : List α} {x y : α} (first : IsLastHighest key p l x)
    (second : IsLastHighest key p l y) : x = y := by
  obtain ⟨before, after, rfl, hx, lower, less⟩ := first
  obtain ⟨before', after', same, hy, lower', less'⟩ := second
  rcases List.append_eq_append_iff.1 same with ⟨as, rfl, rest⟩ | ⟨as, rfl, rest⟩
  · cases as with
    | nil => exact (List.cons.inj rest).1
    | cons a as =>
      obtain ⟨rfl, rfl⟩ := List.cons.inj rest
      have low := lower' x (by simp) hx
      have high := less y (by simp) hy
      omega
  · cases as with
    | nil => exact (List.cons.inj rest).1.symm
    | cons a as =>
      obtain ⟨rfl, rfl⟩ := List.cons.inj rest
      have low := lower y (by simp) hy
      have high := less' x (by simp) hx
      omega

theorem IsLastHighest.cons {a : α} {l : List α} {x : α} (highest : IsLastHighest key p l x)
    (lower : p a = true → key a ≤ key x) : IsLastHighest key p (a :: l) x := by
  obtain ⟨before, after, rfl, holds, others, less⟩ := highest
  exact ⟨a :: before, after, rfl, holds, List.forall_mem_cons.2 ⟨lower, others⟩, less⟩

/-- Sorting is stable, so what comes last is the last of the highest. -/
theorem isLastHighest_of_mergeSort {l : List α} {x : α}
    (last : ((l.mergeSort fun a b => key a ≤ key b).filter p).getLast? = some x) :
    IsLastHighest key p l x := by
  have trans (a b c : α) : decide (key a ≤ key b) = true → decide (key b ≤ key c) = true →
      decide (key a ≤ key c) = true := by
    simp only [decide_eq_true_eq]
    omega
  have total (a b : α) : (decide (key a ≤ key b) || decide (key b ≤ key a)) = true := by
    simp only [Bool.or_eq_true, decide_eq_true_eq]
    omega
  induction l with
  | nil => simp at last
  | cons a l ih =>
    obtain ⟨low, high, sorted, rest, below⟩ := List.mergeSort_cons trans total a l
    have ascending := List.pairwise_mergeSort trans total (a :: l)
    rw [sorted] at last ascending
    rw [rest] at ih
    have mem_iff (b : α) : b ∈ l ↔ b ∈ low ∨ b ∈ high := by
      rw [← List.mem_append, ← rest, (List.mergeSort_perm l _).mem_iff]
    rw [List.filter_append] at last ih
    by_cases counted : p a = true
    · rw [List.filter_cons_of_pos counted, List.getLast?_append, List.getLast?_cons,
        Option.some_or] at last
      cases later : (high.filter p).getLast? with
      | none =>
        -- nothing comes after `a`, so all that counts is lower
        rw [later] at last
        cases last
        have none := List.filter_eq_nil_iff.1 (List.getLast?_eq_none_iff.1 later)
        refine ⟨[], l, rfl, counted, by simp, fun b member isCounted => ?_⟩
        rcases (mem_iff b).1 member with isLow | isHigh
        · simpa using below b isLow
        · exact absurd isCounted (none b isHigh)
      | some y =>
        rw [later, Option.getD_some] at last
        obtain rfl := Option.some.inj last
        refine (ih (by rw [List.getLast?_append, later, Option.some_or])).cons fun _ => ?_
        have isHigh : y ∈ high := (List.mem_filter.1 (List.mem_of_getLast? later)).1
        have after_a := (List.pairwise_append.1 ascending).2.1
        simpa using (List.pairwise_cons.1 after_a).1 y isHigh
    · rw [List.filter_cons_of_neg counted] at last
      exact (ih last).cons fun isCounted => absurd isCounted counted

theorem getLast?_mergeSort_iff {l : List α} {x : α} :
    ((l.mergeSort fun a b => key a ≤ key b).filter p).getLast? = some x ↔
      IsLastHighest key p l x := by
  refine ⟨isLastHighest_of_mergeSort, fun highest => ?_⟩
  have member : x ∈ (l.mergeSort fun a b => key a ≤ key b).filter p := by
    obtain ⟨before, after, rfl, holds, -⟩ := highest
    exact List.mem_filter.2 ⟨(List.mergeSort_perm _ _).mem_iff.2 (by simp), holds⟩
  obtain ⟨y, last⟩ := Option.isSome_iff_exists.1
    (List.getLast?_isSome.2 (List.ne_nil_of_mem member))
  rw [last, (isLastHighest_of_mergeSort last).unique highest]

end

/-! ### Selection -/

/-- What an entry says of a class, unless it is meant for a later release. -/
def Entry.upTo? (release : Nat) (entry : String) : Option Entry :=
  (Entry.of? entry).filter (·.release ≤ release)

section
variable {release : Nat} {entries : List String} {read : List Entry} {c : ClassName}

theorem Entry.upTo?_eq_some_iff (accepted : classEntries entries = .ok read) {entry : String}
    (member : entry ∈ entries) {x : Entry} : Entry.upTo? release entry = some x ↔
      (x.path = entry ∧ Denotes entry x.release x.name) ∧ x.release ≤ release := by
  rw [Entry.upTo?, Option.filter_eq_some_iff, Entry.of?_eq_some_iff accepted member,
    decide_eq_true_iff]

/-- What holds of the releases that some entries name for a class, up to the one that runs. -/
theorem forall_upTo?_iff (accepted : classEntries entries = .ok read) {part : List String}
    (inside : part ⊆ entries) (P : Nat → Prop) :
    (∀ x ∈ part.filterMap (Entry.upTo? release), decide (x.name = c) = true → P x.release) ↔
      ∀ e ∈ part, ∀ k ≤ release, Denotes e k c → P k := by
  constructor
  · intro each e member k low denotes
    have here := (Entry.upTo?_eq_some_iff accepted (inside member)).2
      (show ((⟨k, c, e⟩ : Entry).path = e ∧ _) ∧ _ from ⟨⟨rfl, denotes⟩, low⟩)
    exact each ⟨k, c, e⟩ (List.mem_filterMap.2 ⟨e, member, here⟩) (by simp)
  · intro each x member isNamed
    obtain ⟨e, element, here⟩ := List.mem_filterMap.1 member
    obtain ⟨⟨-, denotes⟩, low⟩ := (Entry.upTo?_eq_some_iff accepted (inside element)).1 here
    exact each e element x.release low (of_decide_eq_true isNamed ▸ denotes)

/-- A place in what the entries of a list say is the place of an entry that says it. -/
private theorem filterMap_eq_append_cons_iff {α β : Type} {f : α → Option β} {l : List α}
    {before after : List β} {x : β} : l.filterMap f = before ++ x :: after ↔
      ∃ front e back, l = front ++ e :: back ∧ f e = some x ∧ front.filterMap f = before ∧
        back.filterMap f = after := by
  constructor
  · intro split
    obtain ⟨front, rest, rfl, rfl, cut⟩ := List.filterMap_eq_append_iff.1 split
    obtain ⟨silent, e, back, rfl, none, here, rfl⟩ := List.filterMap_eq_cons_iff.1 cut
    refine ⟨front ++ silent, e, back, (List.append_assoc _ _ _).symm, here, ?_, rfl⟩
    rw [List.filterMap_append, List.filterMap_eq_nil_iff.2 none, List.append_nil]
  · rintro ⟨front, e, back, rfl, here, rfl, rfl⟩
    rw [List.filterMap_append, List.filterMap_cons_some here]

/-- The last of the highest among what entries say of a class is what the entry that counts says. -/
theorem isLastHighest_iff (accepted : classEntries entries = .ok read) {entry : String} :
    (∃ x, IsLastHighest Entry.release (fun x => decide (x.name = c))
        (entries.filterMap (Entry.upTo? release)) x ∧ x.path = entry) ↔
      Counts release entries c entry := by
  constructor
  · rintro ⟨x, ⟨_, _, split, isNamed, lower, less⟩, rfl⟩
    obtain ⟨front, e, back, rfl, here, rfl, rfl⟩ := filterMap_eq_append_cons_iff.1 split
    obtain ⟨⟨rfl, denotes⟩, low⟩ := (Entry.upTo?_eq_some_iff accepted (by simp)).1 here
    exact ⟨front, back, x.release, rfl, low, of_decide_eq_true isNamed ▸ denotes,
      (forall_upTo?_iff accepted (by simp) (· ≤ x.release)).1 lower,
      (forall_upTo?_iff accepted (by simp) (· < x.release)).1 less⟩
  · rintro ⟨before, after, n, rfl, low, denotes, lower, less⟩
    have here : Entry.upTo? release entry = some ⟨n, c, entry⟩ :=
      (Entry.upTo?_eq_some_iff accepted (by simp)).2 ⟨⟨rfl, denotes⟩, low⟩
    refine ⟨⟨n, c, entry⟩, ⟨_, _, filterMap_eq_append_cons_iff.2
      ⟨before, entry, after, rfl, here, rfl, rfl⟩, by simp, ?_, ?_⟩, rfl⟩
    · exact (forall_upTo?_iff accepted (by simp) (· ≤ n)).2 lower
    · exact (forall_upTo?_iff accepted (by simp) (· < n)).2 less

theorem get?_select {m : SortedMap ClassName String} (selected : select release entries = .ok m)
    (c : ClassName) : m.get? c = ((((entries.filterMap (Entry.upTo? release)).mergeSort
      fun a b => a.release ≤ b.release).filter fun x => decide (x.name = c)).getLast?.map
        Entry.path) := by
  obtain ⟨read, accepted, same⟩ := bind_eq_ok.1 selected
  cases same
  have counted : read.filter (·.release ≤ release) = entries.filterMap (Entry.upTo? release) := by
    rw [eq_filterMap_of_classEntries accepted, List.filter_filterMap]
    rfl
  rw [SortedMap.get?_foldl_insert Entry.name Entry.path, counted, SortedMap.get?_empty,
    Option.or_none]

theorem get?_select_eq_some_iff {m : SortedMap ClassName String}
    (selected : select release entries = .ok m) {c : ClassName} {entry : String} :
    m.get? c = some entry ↔ Counts release entries c entry := by
  obtain ⟨read, accepted, -⟩ := bind_eq_ok.1 selected
  rw [get?_select selected, Option.map_eq_some_iff, ← isLastHighest_iff accepted]
  exact exists_congr fun x => and_congr_left fun _ => getLast?_mergeSort_iff

theorem mem_keys_select_iff {m : SortedMap ClassName String}
    (selected : select release entries = .ok m) {c : ClassName} :
    c ∈ m.keys ↔ ∃ entry ∈ entries, ∃ n ≤ release, Denotes entry n c := by
  obtain ⟨read, accepted, -⟩ := bind_eq_ok.1 selected
  rw [SortedMap.mem_keys_iff]
  constructor
  · rintro ⟨entry, found⟩
    obtain ⟨before, after, n, rfl, low, denotes, -⟩ := (get?_select_eq_some_iff selected).1 found
    exact ⟨entry, by simp, n, low, denotes⟩
  · rintro ⟨entry, member, n, low, denotes⟩
    by_contra unselected
    have nothing : m.get? c = none := Option.eq_none_iff_forall_ne_some.2 (not_exists.1 unselected)
    rw [get?_select selected, Option.map_eq_none_iff, List.getLast?_eq_none_iff,
      List.filter_eq_nil_iff] at nothing
    refine (forall_upTo?_iff accepted (List.Subset.refl _) fun _ => False).1 ?_ entry member n low
      denotes
    intro x counted isNamed
    exact nothing x ((List.mergeSort_perm _ _).mem_iff.2 counted) isNamed

end

/-- Selection is exact. The classes selected are those that some entry denotes up to the release
that runs, in the order of their names, and each is taken from the entry that counts. -/
theorem select_counts (release : Nat) (entries : List String) (m : SortedMap ClassName String)
    (selected : select release entries = .ok m) :
    (∀ c, c ∈ m.keys ↔ ∃ entry ∈ entries, ∃ n ≤ release, Denotes entry n c) ∧
    (∀ c entry, m.get? c = some entry ↔ Counts release entries c entry) ∧
    m.keys.Pairwise (fun a b => a.dotted < b.dotted) ∧ m.keys.Nodup := by
  have ascending : m.keys.Pairwise fun a b => a.dotted < b.dotted :=
    m.ascending.imp ClassName.before_iff.1
  refine ⟨fun c => mem_keys_select_iff selected, fun c entry => get?_select_eq_some_iff selected,
    ascending, ascending.imp fun less same => ?_⟩
  exact String.lt_irrefl _ (same ▸ less)

/-- Of three entries for a class the second counts between their releases. -/
theorem select_counts_sample :
    Counts 11 ["Foo.class", "META-INF/Other.class", "META-INF/versions/9/Foo.class",
        "META-INF/versions/17/Foo.class"] ⟨"Foo"⟩ "META-INF/versions/9/Foo.class" := by
  have read : classEntries ["Foo.class", "META-INF/Other.class", "META-INF/versions/9/Foo.class",
      "META-INF/versions/17/Foo.class"] = .ok [⟨0, ⟨"Foo"⟩, "Foo.class"⟩,
        ⟨0, ⟨"META-INF.Other"⟩, "META-INF/Other.class"⟩,
        ⟨9, ⟨"Foo"⟩, "META-INF/versions/9/Foo.class"⟩,
        ⟨17, ⟨"Foo"⟩, "META-INF/versions/17/Foo.class"⟩] := by decide
  have selected : select 11 ["Foo.class", "META-INF/Other.class", "META-INF/versions/9/Foo.class",
      "META-INF/versions/17/Foo.class"] =
        .ok ((SortedMap.empty.insert ⟨"META-INF.Other"⟩ "META-INF/Other.class").insert ⟨"Foo"⟩
          "META-INF/versions/9/Foo.class") := by
    rw [select, read]
    refine congrArg Except.ok ?_
    rw [List.mergeSort_of_pairwise (by decide)]
    decide
  exact ((select_counts 11 _ _ selected).2.1 _ _).1 (by decide)

end Linkage.MultiRelease
