import Linkage.Report.Text

/-!
The report for readers. Its tree is a list of rows, one for each group, and the text is that of the
rows one after the other, each behind the bars of the groups that it stands under (`Row.text`); each
conflict is filed under its headings, and nothing else is (`text_eq_rows`). The text does not hang
on the order of the conflicts, as long as conflicts of one calling class have one path
(`text_perm`).
-/
namespace Linkage

/-- The headings that a conflict is filed under, from the outermost on. -/
def Conflict.headings (c : Conflict) : List String :=
  [c.usedBy, c.existsInName, c.fromClass.dotted, c.reason, c.caller.descriptor.pretty]

namespace Report

/-! ### The rows of the tree -/

/-- A group as it stands in the tree: the keys of the groups that it stands under and its own,
whether each of these groups is the last of its kind there, and the conflicts that it holds. -/
structure Row where
  keys : List String
  lasts : List Bool
  held : List Conflict

namespace Row

/-- A row under one more group. -/
def under (key : String) (isLast : Bool) (row : Row) : Row :=
  ⟨key :: row.keys, isLast :: row.lasts, row.held⟩

/-- The lines of the conflicts. -/
def lines (row : Row) : List Nat := (SortedSet.ofList (row.held.map Conflict.line)).toList

/-- What leads past a group: a bar down to the next group of its place, and blanks if it is the last
there. -/
def past (isLast : Bool) : String := if isLast then "   " else "  |"

/-- What leads to a group: the bar of its place, which ends at the last. -/
def branchOff (isLast : Bool) : String := if isLast then "  \\- " else "  |- "

/-- What leads past the groups that a row stands under, apart from the outermost. -/
def indent (row : Row) : String := String.join (row.lasts.tail.dropLast.map past)

/-- What leads past the row and the groups that it stands under, apart from the outermost. -/
def below (row : Row) : String := String.join (row.lasts.tail.map past)

/-- What stands in front of the text of a row. -/
def lead (row : Row) : String := row.indent ++ branchOff (row.lasts.getLast? == some true)

/-- The path that is printed below a calling class, that of the first conflict that the row
holds. -/
def way (row : Row) : String :=
  match row.held.head? with
  | some c =>
    row.below ++ "  |  With path:\n" ++ row.below ++ "  |    *  " ++
      Text.join ("\n" ++ row.below ++ "  |    -> ") (c.path.map ClassName.dotted) ++ "\n"
  | none => ""

/-- The lines that a row is printed as. How many groups it stands under tells what it is. -/
def text (row : Row) : String :=
  match row.keys with
  | [user] => "Breaks found in: " ++ user ++ "\n"
  | [_, target] => row.lead ++ "Using transitive: " ++ target ++ "\n"
  | [_, _, caller] => row.lead ++ "In class: " ++ caller ++ "\n" ++ row.way
  | [_, _, _, reason] => row.indent ++ "  |\n" ++ row.lead ++ reason ++ "\n"
  | [_, _, _, _, method] =>
    row.lead ++ "In " ++ method ++ " (line " ++ Text.join ", " (row.lines.map toString) ++ ")\n"
  | _ => ""

end Row

/-- The row of a group, and the rows below it. -/
def branch (below : List Conflict → List Row) (group : (String × List Conflict) × Bool) :
    List Row :=
  ⟨[group.1.1], [group.2], group.1.2⟩ :: (below group.1.2).map (Row.under group.1.1 group.2)

/-- The rows of conflicts that are grouped by some keys, one after the other. -/
def rowsBy : List (Conflict → String) → List Conflict → List Row
  | [], _ => []
  | key :: levels, conflicts =>
    (markLast (groupBy key conflicts).toList).flatMap (branch (rowsBy levels))

/-- The keys by which the conflicts of an artifact are grouped. -/
def inner : List (Conflict → String) :=
  [Conflict.existsInName, (·.fromClass.dotted), Conflict.reason, (·.caller.descriptor.pretty)]

/-- The rows of a report, those of each artifact whose classes call by themselves. -/
def blocks (conflicts : List Conflict) : List (List Row) :=
  (markLast (groupBy Conflict.usedBy conflicts).toList).map (branch (rowsBy inner))

/-- The rows of a report. -/
def rows (conflicts : List Conflict) : List Row := (blocks conflicts).flatten

/-- What the report begins with. -/
def preamble : String :=
  "ABI incompatibilities were detected between the following libraries. " ++
    "You should upgrade or downgrade one for each pair. " ++
    "Exact conflicts are detailed below.\n\n"

/-- What stands below the rows of an artifact. -/
def rule : String := "===========================\n\n"

/-! ### Groups that are last -/

theorem markLast_cons {α : Type} (a : α) (l : List α) :
    markLast (a :: l) = (a, l.isEmpty) :: markLast l := by
  cases l <;> rfl

theorem map_fst_markLast {α : Type} (l : List α) : (markLast l).map Prod.fst = l := by
  induction l with
  | nil => rfl
  | cons a l ih => rw [markLast_cons, List.map_cons, ih]

/-- In ascending order, the last element is the one that none exceeds. -/
theorem mem_markLast {β : Type} {l : List (String × β)} {x : String × β} {isLast : Bool}
    (ascending : l.Pairwise fun x y => x.1 < y.1) :
    (x, isLast) ∈ markLast l ↔ x ∈ l ∧ (isLast = true ↔ ∀ y ∈ l, ¬ x.1 < y.1) := by
  induction l with
  | nil => simp [markLast]
  | cons first l ih =>
    obtain ⟨behind, rest⟩ := List.pairwise_cons.1 ascending
    have alone : l.isEmpty = true ↔ ¬ first.1 < first.1 ∧ ∀ y ∈ l, ¬ first.1 < y.1 := by
      rw [List.isEmpty_iff, and_iff_right (String.lt_irrefl _)]
      constructor
      · rintro rfl
        simp
      · intro none
        exact List.eq_nil_iff_forall_not_mem.2 fun y member => none y member (behind y member)
    rw [markLast_cons, List.mem_cons, List.mem_cons, ih rest, List.forall_mem_cons]
    constructor
    · rintro (same | ⟨member, last⟩)
      · cases same
        exact ⟨.inl rfl, alone⟩
      · exact ⟨.inr member, last.trans (and_iff_right (String.lt_asymm (behind x member))).symm⟩
    · rintro ⟨rfl | member, last⟩
      · exact .inl (Prod.ext rfl (Bool.eq_iff_iff.2 (last.trans alone.symm)))
      · exact .inr ⟨member, last.trans (and_iff_right (String.lt_asymm (behind x member)))⟩

section
variable {key : Conflict → String} {cs : List Conflict}

theorem pairwise_groupBy (key : Conflict → String) (cs : List Conflict) :
    (groupBy key cs).toList.Pairwise fun x y => x.1 < y.1 :=
  (List.pairwise_map.1 (groupBy key cs).ascending).imp compareOfLessAndEq_eq_lt.1

/-- The groups by a key: what each holds, and which is the last. -/
theorem mem_markLast_groupBy {k : String} {held : List Conflict} {isLast : Bool} :
    ((k, held), isLast) ∈ markLast (groupBy key cs).toList ↔
      held ≠ [] ∧ held = cs.filter (key · = k) ∧ (isLast = true ↔ ∀ c ∈ cs, ¬ k < key c) := by
  have member : (k, held) ∈ (groupBy key cs).toList ↔
      held ≠ [] ∧ held = cs.filter (key · = k) := by
    rw [← SortedMap.get?_eq_some_iff, get?_groupBy]
    by_cases none : cs.filter (key · = k) = [] <;> grind
  have greatest : (∀ y ∈ (groupBy key cs).toList, ¬ k < y.1) ↔ ∀ c ∈ cs, ¬ k < key c := by
    rw [toList_groupBy]
    simp
  rw [mem_markLast (pairwise_groupBy key cs), member, greatest, and_assoc]

end

/-! ### What is filed where -/

section
variable {key : Conflict → String} {levels : List (Conflict → String)} {cs : List Conflict}
  {row : Row}

/-- A row is that of a group by the first key, or stands under such a group. -/
theorem mem_rowsBy_cons : row ∈ rowsBy (key :: levels) cs ↔
    ∃ k isLast, cs.filter (key · = k) ≠ [] ∧ (isLast = true ↔ ∀ c ∈ cs, ¬ k < key c) ∧
      (row = ⟨[k], [isLast], cs.filter (key · = k)⟩ ∨
        ∃ inner ∈ rowsBy levels (cs.filter (key · = k)), inner.under k isLast = row) := by
  rw [rowsBy, List.mem_flatMap]
  constructor
  · rintro ⟨⟨⟨k, held⟩, isLast⟩, isGroup, member⟩
    obtain ⟨some, rfl, last⟩ := mem_markLast_groupBy.1 isGroup
    exact ⟨k, isLast, some, last, by simpa [branch] using member⟩
  · rintro ⟨k, isLast, some, last, member⟩
    have isGroup := mem_markLast_groupBy.2 ⟨some, rfl, last⟩
    exact ⟨((k, _), isLast), isGroup, by simpa [branch] using member⟩

/-- The groups are those of the keys that a conflict has, from the first key on. -/
theorem mem_map_keys_rowsBy {keys : List String} : keys ∈ (rowsBy levels cs).map Row.keys ↔
    keys ≠ [] ∧ ∃ c ∈ cs, keys <+: levels.map (· c) := by
  rw [List.mem_map]
  induction levels generalizing keys cs with
  | nil =>
    simp only [rowsBy, List.not_mem_nil, false_and, exists_false, List.map_nil, List.prefix_nil]
    grind
  | cons key levels ih =>
    constructor
    · rintro ⟨row, member, rfl⟩
      obtain ⟨k, isLast, some, -, rfl | ⟨inner, under, rfl⟩⟩ := mem_rowsBy_cons.1 member
      · obtain ⟨c, held⟩ := List.exists_mem_of_ne_nil _ some
        obtain ⟨inside, same⟩ := List.mem_filter.1 held
        refine ⟨by simp, c, inside, List.cons_prefix_cons.2 ⟨?_, List.nil_prefix⟩⟩
        exact (of_decide_eq_true same).symm
      · obtain ⟨-, c, held, rest⟩ := ih.1 ⟨inner, under, rfl⟩
        obtain ⟨inside, same⟩ := List.mem_filter.1 held
        exact ⟨by simp [Row.under], c, inside,
          List.cons_prefix_cons.2 ⟨(of_decide_eq_true same).symm, rest⟩⟩
    · rintro ⟨some, c, inside, start⟩
      obtain ⟨k, rest, rfl⟩ := List.exists_cons_of_ne_nil some
      rw [List.map_cons, List.cons_prefix_cons] at start
      obtain ⟨rfl, start⟩ := start
      have held : c ∈ cs.filter (key · = key c) := List.mem_filter.2 ⟨inside, by simp⟩
      have group : cs.filter (key · = key c) ≠ [] := List.ne_nil_of_mem held
      -- the row is there whether or not its group is the last, so any mark that fits will do
      have last : decide (∀ d ∈ cs, ¬ key c < key d) = true ↔ ∀ d ∈ cs, ¬ key c < key d :=
        decide_eq_true_iff
      by_cases none : rest = []
      · exact ⟨_, mem_rowsBy_cons.2 ⟨key c, _, group, last, .inl rfl⟩, by simp [none]⟩
      · obtain ⟨inner, under, same⟩ := ih.2 ⟨none, c, held, start⟩
        exact ⟨_, mem_rowsBy_cons.2 ⟨key c, _, group, last, .inr ⟨inner, under, rfl⟩⟩,
          by simp [Row.under, same]⟩

/-- A row holds the conflicts that have its keys. -/
theorem mem_held_of_mem_rowsBy (member : row ∈ rowsBy levels cs) (c : Conflict) :
    c ∈ row.held ↔ c ∈ cs ∧ row.keys <+: levels.map (· c) := by
  induction levels generalizing row cs with
  | nil => cases member
  | cons key levels ih =>
    obtain ⟨k, isLast, -, -, rfl | ⟨inner, under, rfl⟩⟩ := mem_rowsBy_cons.1 member
    · simp [List.mem_filter, List.cons_prefix_cons, eq_comm]
    · rw [Row.under, ih under, List.map_cons, List.cons_prefix_cons, List.mem_filter,
        decide_eq_true_iff, and_assoc, eq_comm]

/-- A row tells of each group that it stands under, and of its own, whether it has the greatest of
the keys in its place. -/
theorem lasts_of_mem_rowsBy (member : row ∈ rowsBy levels cs) :
    row.lasts.length = row.keys.length ∧
      ∀ above k below isLast, row.keys = above ++ k :: below →
        row.lasts[above.length]? = some isLast →
        (isLast = true ↔ ∀ c ∈ cs, ∀ other, above ++ [other] <+: levels.map (· c) →
          ¬ k < other) := by
  induction levels generalizing row cs with
  | nil => cases member
  | cons key levels ih =>
    obtain ⟨k, isLast, -, last, cases⟩ := mem_rowsBy_cons.1 member
    have first : isLast = true ↔ ∀ c ∈ cs, ∀ other, [] ++ [other] <+: (key :: levels).map (· c) →
        ¬ k < other := by
      rw [last]
      simp [List.cons_prefix_cons]
    rcases cases with rfl | ⟨inner, under, rfl⟩
    · refine ⟨rfl, fun above l below told split found => ?_⟩
      cases above with
      | nil =>
        cases split
        cases found
        exact first
      | cons a above => simp at split
    · obtain ⟨sizes, inside⟩ := ih under
      refine ⟨congrArg (· + 1) sizes, fun above l below told split found => ?_⟩
      cases above with
      | nil =>
        cases split
        cases found
        exact first
      | cons a above =>
        obtain ⟨rfl, rest⟩ := List.cons.inj split
        rw [inside above l below told rest found]
        -- within the group of `k`, the keys behind the first decide
        have place (c : Conflict) (other : String) :
            k :: above ++ [other] <+: (key :: levels).map (· c) ↔
              key c = k ∧ above ++ [other] <+: levels.map (· c) := by
          rw [List.cons_append, List.map_cons, List.cons_prefix_cons, eq_comm]
        constructor
        · intro none c member other start
          obtain ⟨same, start⟩ := (place c other).1 start
          exact none c (List.mem_filter.2 ⟨member, decide_eq_true same⟩) other start
        · intro none c held other start
          obtain ⟨member, same⟩ := List.mem_filter.1 held
          exact none c member other ((place c other).2 ⟨of_decide_eq_true same, start⟩)

theorem exists_keys_of_mem_branch {below : List Conflict → List Row}
    {group : (String × List Conflict) × Bool} (member : row ∈ branch below group) :
    ∃ rest, row.keys = group.1.1 :: rest := by
  rcases List.mem_cons.1 member with rfl | under
  · exact ⟨[], rfl⟩
  · obtain ⟨inner, -, rfl⟩ := List.mem_map.1 under
    exact ⟨inner.keys, rfl⟩

/-- The rows are in ascending order of their keys, and a group stands in front of those below it. -/
theorem pairwise_rowsBy (levels : List (Conflict → String)) (cs : List Conflict) :
    ((rowsBy levels cs).map Row.keys).Pairwise (· < ·) := by
  induction levels generalizing cs with
  | nil => exact .nil
  | cons key levels ih =>
    rw [rowsBy, List.pairwise_map, List.pairwise_flatMap]
    -- rows of one group differ behind the first key, and those of two groups in the first key
    constructor
    · intro group _
      rw [branch, List.pairwise_cons, List.pairwise_map]
      constructor
      · intro row member
        obtain ⟨inner, under, rfl⟩ := List.mem_map.1 member
        have some := (mem_map_keys_rowsBy.1 (List.mem_map_of_mem under)).1
        obtain ⟨k, rest, same⟩ := List.exists_cons_of_ne_nil some
        exact List.cons_lt_cons_iff.2 (.inr ⟨rfl, same ▸ List.nil_lt_cons k rest⟩)
      · refine (List.pairwise_map.1 (ih group.1.2)).imp fun before => ?_
        exact List.cons_lt_cons_iff.2 (.inr ⟨rfl, before⟩)
    · have groups := pairwise_groupBy key cs
      rw [← map_fst_markLast (groupBy key cs).toList, List.pairwise_map] at groups
      refine groups.imp fun before x first y second => ?_
      obtain ⟨rest, left⟩ := exists_keys_of_mem_branch first
      obtain ⟨rest', right⟩ := exists_keys_of_mem_branch second
      rw [left, right]
      exact List.cons_lt_cons_iff.2 (.inl before)

end

/-! ### The text of the rows -/

theorem join_flatMap {α : Type} (l : List α) (f : α → List String) :
    String.join (l.flatMap f) = String.join (l.map fun a => String.join (f a)) := by
  induction l with
  | nil => rfl
  | cons a l ih => rw [List.flatMap_cons, String.join_append, List.map_cons, String.join_cons, ih]

theorem markLast_map {α β : Type} (f : α → β) (l : List α) :
    markLast (l.map f) = (markLast l).map fun x => (f x.1, x.2) := by
  induction l with
  | nil => rfl
  | cons a l ih => rw [List.map_cons, markLast_cons, ih, markLast_cons]; simp

section
variable {key : Conflict → String} {levels : List (Conflict → String)}

/-- Groups are printed as their rows, if each is printed as its row and then those below it. -/
theorem join_markLast {γ : Type} {f : String × List Conflict → γ} {g : γ × Bool → String}
    (print : Row → String) (cs : List Conflict)
    (each : ∀ k held isLast, g (f (k, held), isLast) = print ⟨[k], [isLast], held⟩ ++
      String.join ((rowsBy levels held).map fun row => print (row.under k isLast))) :
    String.join ((markLast ((groupBy key cs).toList.map f)).map g) =
      String.join ((rowsBy (key :: levels) cs).map print) := by
  rw [rowsBy, List.map_flatMap, join_flatMap, markLast_map, List.map_map]
  refine congrArg String.join (List.map_congr_left fun group _ => ?_)
  rw [branch, List.map_cons, String.join_cons, List.map_map]
  exact each group.1.1 group.1.2 group.2

end

theorem Row.past_eq (isLast : Bool) : past isLast = "  " ++ belowMark isLast := by
  cases isLast <;> rfl

theorem Row.branchOff_eq (isLast : Bool) : branchOff isLast = "  " ++ itemMark isLast ++ "- " := by
  cases isLast <;> rfl

section
variable (user target caller reason : String) (userLast targetLast callerLast reasonLast : Bool)
  (cs : List Conflict)

theorem join_methodText :
    String.join ((markLast (methodGroups cs)).map (methodText ("  " ++ belowMark targetLast ++
        "  " ++ belowMark callerLast ++ "  " ++ belowMark reasonLast))) =
      String.join ((rowsBy [(·.caller.descriptor.pretty)] cs).map fun row =>
        ((((row.under reason reasonLast).under caller callerLast).under target targetLast).under
          user userLast).text) := by
  refine join_markLast _ cs fun k held isLast => ?_
  -- the lead of a row ends between the two words that the text has in one literal
  have start : "- In " = "- " ++ "In " := rfl
  simp [methodText, start, rowsBy, Row.under, Row.text, Row.lead, Row.indent, Row.past_eq,
    Row.branchOff_eq, Row.lines,
    String.append_assoc]

theorem join_reasonText :
    String.join ((markLast (reasonGroups cs)).map (reasonText ("  " ++ belowMark targetLast ++
        "  " ++ belowMark callerLast))) =
      String.join ((rowsBy [Conflict.reason, (·.caller.descriptor.pretty)] cs).map fun row =>
        (((row.under caller callerLast).under target targetLast).under user userLast).text) := by
  refine join_markLast _ cs fun k held isLast => ?_
  dsimp only [reasonText]
  rw [join_methodText user target caller k userLast targetLast callerLast isLast held]
  simp [Row.under, Row.text, Row.lead, Row.indent, Row.past_eq,
    Row.branchOff_eq, String.append_assoc]

theorem join_callerText :
    String.join ((markLast (callerGroups cs)).map (callerText ("  " ++ belowMark targetLast))) =
      String.join ((rowsBy [(·.fromClass.dotted), Conflict.reason, (·.caller.descriptor.pretty)]
        cs).map fun row => ((row.under target targetLast).under user userLast).text) := by
  refine join_markLast _ cs fun k held isLast => ?_
  have start : "- In class: " = "- " ++ "In class: " := rfl
  dsimp only [callerText]
  rw [join_reasonText user target k userLast targetLast isLast held]
  cases held <;>
    simp [start, Row.under, Row.text, Row.lead, Row.indent, Row.past_eq, Row.branchOff_eq, Row.way,
      Row.below, pathText, String.append_assoc]

theorem join_targetText :
    String.join ((markLast (targetGroups cs)).map targetText) =
      String.join ((rowsBy inner cs).map fun row => (row.under user userLast).text) := by
  refine join_markLast _ cs fun k held isLast => ?_
  have start : "- Using transitive: " = "- " ++ "Using transitive: " := rfl
  dsimp only [targetText]
  rw [join_callerText user k userLast isLast held]
  simp [start, Row.under, Row.text, Row.lead, Row.indent, Row.past_eq,
    Row.branchOff_eq, String.append_assoc]

end

/-- What an artifact whose classes call is printed as: its rows and a rule. -/
theorem userText_eq (user : String) (held : List Conflict) (isLast : Bool) :
    userText ⟨user, targetGroups held⟩ =
      String.join ((branch (rowsBy inner) ((user, held), isLast)).map Row.text) ++ rule := by
  have heading : Row.text ⟨[user], [isLast], held⟩ = "Breaks found in: " ++ user ++ "\n" := by
    rw [Row.text]
  rw [branch, List.map_cons, String.join_cons, heading, List.map_map]
  exact congrArg (fun below => "Breaks found in: " ++ user ++ "\n" ++ below ++ rule)
    (join_targetText user isLast held)

/-- The report is the advice and then, for each artifact whose classes call, its rows and a rule. -/
theorem text_eq {cs : List Conflict} (some : cs ≠ []) :
    text cs = preamble ++ String.join ((tree cs).map adviceText) ++
      String.join ((blocks cs).map fun block => String.join (block.map Row.text) ++ rule) := by
  have users : (tree cs).map userText =
      (blocks cs).map fun block => String.join (block.map Row.text) ++ rule := by
    rw [tree, blocks, List.map_map, List.map_map]
    conv => lhs; rw [← map_fst_markLast (groupBy Conflict.usedBy cs).toList, List.map_map]
    exact List.map_congr_left fun group _ => userText_eq group.1.1 group.1.2 group.2
  rw [text, if_neg (by simpa using some)]
  exact congrArg (preamble ++ String.join ((tree cs).map adviceText) ++ String.join ·) users

/-! ### The tree as a whole -/

theorem append_lt_append_iff {above : List String} {a b : String} :
    above ++ [a] < above ++ [b] ↔ a < b := by
  induction above with
  | nil => simp [List.cons_lt_cons_iff]
  | cons x above ih => simpa [List.cons_lt_cons_iff, String.lt_irrefl] using ih

/-- In ascending order, the lesser of two members stands in front of the greater. -/
theorem sublist_of_lt {l : List (List String)} (ascending : l.Pairwise (· < ·)) {a b : List String}
    (first : a ∈ l) (second : b ∈ l) (less : a < b) : [a, b].Sublist l := by
  induction l with
  | nil => cases first
  | cons x l ih =>
    obtain ⟨behind, rest⟩ := List.pairwise_cons.1 ascending
    rcases List.mem_cons.1 first with rfl | inside
    · rcases List.mem_cons.1 second with rfl | after
      · exact absurd less (List.lt_irrefl _)
      · exact List.cons_sublist_cons.2 (List.singleton_sublist.2 after)
    · rcases List.mem_cons.1 second with rfl | after
      · exact absurd less (List.lt_asymm (behind a inside))
      · exact (ih rest inside after).cons x

/-- The rows of the methods, under which no group stands. -/
def leaves (rows : List Row) : List Row := rows.filter (·.keys.length = 5)

/-- That none of the groups that stand where a group stands comes behind it. -/
def IsLast (rows : List Row) (above : List String) (key : String) : Prop :=
  ∀ other, ¬ [above ++ [key], above ++ [other]].Sublist (rows.map Row.keys)

/-- What makes rows a tree of conflicts. -/
structure Files (conflicts : List Conflict) (rows : List Row) : Prop where
  /-- There is a group for what a conflict has as its headings, from the outermost on. -/
  headed : ∀ keys, keys ∈ rows.map Row.keys ↔ keys ≠ [] ∧ ∃ c ∈ conflicts, keys <+: c.headings
  /-- Every group stands once, in front of the groups under it. -/
  ordered : (rows.map Row.keys).Pairwise (· < ·)
  /-- The groups of one place are in ascending order. -/
  ascending : ∀ above a b, [above ++ [a], above ++ [b]].Sublist (rows.map Row.keys) → a < b
  /-- No two methods have the same headings. -/
  distinct : ((leaves rows).map Row.keys).Nodup
  /-- Each line of a method is that of a conflict with its headings, and each conflict has one. -/
  filed : ∀ keys line, (∃ leaf ∈ leaves rows, leaf.keys = keys ∧ line ∈ leaf.lines) ↔
    ∃ c ∈ conflicts, c.headings = keys ∧ c.line = line
  /-- Lines are in ascending order. -/
  lines : ∀ leaf ∈ leaves rows, leaf.lines.Pairwise (· < ·)
  /-- A row tells of each group that it stands under, and of its own, whether that is the last. -/
  marks : ∀ row ∈ rows, row.lasts.length = row.keys.length ∧
    ∀ above key below isLast, row.keys = above ++ key :: below →
      row.lasts[above.length]? = some isLast → (isLast = true ↔ IsLast rows above key)

section
variable {cs : List Conflict} {row : Row}

theorem rows_eq (cs : List Conflict) : rows cs = rowsBy (Conflict.usedBy :: inner) cs := by
  rw [rows, blocks, rowsBy, List.flatMap_def]

theorem mem_map_keys_rows {keys : List String} :
    keys ∈ (rows cs).map Row.keys ↔ keys ≠ [] ∧ ∃ c ∈ cs, keys <+: c.headings := by
  rw [rows_eq]
  exact mem_map_keys_rowsBy

theorem pairwise_rows (cs : List Conflict) : ((rows cs).map Row.keys).Pairwise (· < ·) := by
  rw [rows_eq]
  exact pairwise_rowsBy _ cs

theorem mem_held_of_mem_rows (member : row ∈ rows cs) (c : Conflict) :
    c ∈ row.held ↔ c ∈ cs ∧ row.keys <+: c.headings := by
  rw [rows_eq] at member
  exact mem_held_of_mem_rowsBy member c

theorem mem_lines {line : Nat} : line ∈ row.lines ↔ ∃ c ∈ row.held, c.line = line := by
  rw [Row.lines, SortedSet.mem_toList, SortedSet.mem_ofList, List.mem_map]

/-- A method's row is that of the conflicts with its headings. -/
theorem mem_held_of_mem_leaves (member : row ∈ leaves (rows cs)) (c : Conflict) :
    c ∈ row.held ↔ c ∈ cs ∧ c.headings = row.keys := by
  obtain ⟨inside, full⟩ := List.mem_filter.1 member
  rw [mem_held_of_mem_rows inside]
  refine and_congr_right fun _ => ⟨fun start => ?_, fun same => same ▸ List.prefix_rfl⟩
  exact (start.eq_of_length (of_decide_eq_true full)).symm

theorem filed_rows (keys : List String) (line : Nat) :
    (∃ leaf ∈ leaves (rows cs), leaf.keys = keys ∧ line ∈ leaf.lines) ↔
      ∃ c ∈ cs, c.headings = keys ∧ c.line = line := by
  constructor
  · rintro ⟨leaf, member, rfl, told⟩
    obtain ⟨c, held, same⟩ := mem_lines.1 told
    obtain ⟨inside, headings⟩ := (mem_held_of_mem_leaves member c).1 held
    exact ⟨c, inside, headings, same⟩
  · rintro ⟨c, inside, rfl, rfl⟩
    have group := mem_map_keys_rows.2 ⟨by simp [Conflict.headings], c, inside, List.prefix_rfl⟩
    obtain ⟨leaf, found, same⟩ := List.mem_map.1 group
    have member : leaf ∈ leaves (rows cs) :=
      List.mem_filter.2 ⟨found, by rw [same]; rfl⟩
    exact ⟨leaf, member, same, mem_lines.2
      ⟨c, (mem_held_of_mem_leaves member c).2 ⟨inside, same.symm⟩, rfl⟩⟩

theorem lt_of_sublist_rows {above : List String} {a b : String}
    (behind : [above ++ [a], above ++ [b]].Sublist ((rows cs).map Row.keys)) : a < b :=
  append_lt_append_iff.1 (List.pairwise_pair.1 ((pairwise_rows cs).sublist behind))

/-- The group with the greatest key of its place is the one that stands last there. -/
theorem isLast_rows {above : List String} {key : String}
    (group : above ++ [key] ∈ (rows cs).map Row.keys) :
    IsLast (rows cs) above key ↔
      ∀ c ∈ cs, ∀ other, above ++ [other] <+: c.headings → ¬ key < other := by
  constructor
  · intro last c member other start less
    have beside := mem_map_keys_rows.2 ⟨by simp, c, member, start⟩
    exact last other (sublist_of_lt (pairwise_rows cs) group beside (append_lt_append_iff.2 less))
  · intro greatest other behind
    have beside := behind.subset (List.mem_cons_of_mem _ List.mem_cons_self)
    obtain ⟨-, c, member, start⟩ := mem_map_keys_rows.1 beside
    exact greatest c member other start (lt_of_sublist_rows behind)

theorem marks_rows (member : row ∈ rows cs) :
    row.lasts.length = row.keys.length ∧
      ∀ above key below isLast, row.keys = above ++ key :: below →
        row.lasts[above.length]? = some isLast → (isLast = true ↔ IsLast (rows cs) above key) := by
  obtain ⟨sizes, greatest⟩ := lasts_of_mem_rowsBy (rows_eq cs ▸ member)
  refine ⟨sizes, fun above key below isLast split found => ?_⟩
  obtain ⟨-, c, inside, start⟩ := mem_map_keys_rows.1 (List.mem_map_of_mem member)
  have shorter : above ++ [key] <+: row.keys := ⟨below, by simp [split]⟩
  have group := mem_map_keys_rows.2 ⟨by simp, c, inside, shorter.trans start⟩
  exact (greatest above key below isLast split found).trans (isLast_rows group).symm

end

theorem files_rows (cs : List Conflict) : Files cs (rows cs) where
  headed _ := mem_map_keys_rows
  ordered := pairwise_rows cs
  ascending _ _ _ := lt_of_sublist_rows
  distinct := by
    have once : ((rows cs).map Row.keys).Nodup := by
      refine (pairwise_rows cs).imp ?_
      rintro a _ less rfl
      exact List.lt_irrefl a less
    exact once.sublist (List.filter_sublist.map Row.keys)
  filed := filed_rows
  lines leaf _ := (SortedSet.ofList (leaf.held.map Conflict.line)).ascending.imp
    Nat.compare_eq_lt.1
  marks _ := marks_rows

/-- The report of some conflicts is the advice and then, for each artifact whose classes call, its
rows and a rule; the rows are a tree of the conflicts. -/
theorem text_eq_rows (conflicts : List Conflict) (some : conflicts ≠ []) :
    text conflicts = preamble ++ String.join ((tree conflicts).map adviceText) ++
      String.join ((blocks conflicts).map fun block => String.join (block.map Row.text) ++ rule) ∧
    Files conflicts (rows conflicts) :=
  ⟨text_eq some, files_rows conflicts⟩

/-- A class that calls a method that is gone on two lines, and reads a field of a class that is. -/
def sampleConflicts : List Conflict :=
  let path := [⟨"app.Main"⟩, ⟨"lib.Caller"⟩]
  let caller (name : String) : MethodReference := ⟨⟨"lib.Caller"⟩, ⟨name, [], .void⟩, false⟩
  let gone := .method ⟨⟨"dep.Target"⟩, ⟨"gone", [], .void⟩, false⟩
  let field := .field ⟨⟨"gone.Holder"⟩, ⟨"value", .element (.primitive .int)⟩, true⟩
  [⟨.methodNotFound, path, caller "run", 14, gone, "lib", some "dep"⟩,
    ⟨.methodNotFound, path, caller "run", 12, gone, "lib", some "dep"⟩,
    ⟨.classNotFound, path, caller "init", 3, field, "lib", none⟩]

/-- The rows that are printed for them. The artifact of the field comes first, and the bar in front
of it goes on to the other. -/
def sampleRows : List String :=
  ["Breaks found in: lib\n",
    "  |- Using transitive: <unknown>\n",
    "  |  \\- In class: lib.Caller\n" ++
    "  |     |  With path:\n" ++
    "  |     |    *  app.Main\n" ++
    "  |     |    -> lib.Caller\n",
    "  |     |\n" ++
    "  |     \\- Class not found: gone.Holder\n",
    "  |        \\- In void init() (line 3)\n",
    "  \\- Using transitive: dep\n",
    "     \\- In class: lib.Caller\n" ++
    "        |  With path:\n" ++
    "        |    *  app.Main\n" ++
    "        |    -> lib.Caller\n",
    "        |\n" ++
    "        \\- Method not found: void dep.Target.gone()\n",
    "           \\- In void run() (line 12, 14)\n"]

theorem map_text_blocks_sample : (blocks sampleConflicts).map (·.map Row.text) = [sampleRows] := by
  rfl

theorem map_adviceText_sample : (tree sampleConflicts).map adviceText =
    ["\tlib refers to unknown classes, so the library that broke its ABI could not be " ++
      "determined.\n\tlib with dep\n\n"] := by
  rfl

/-- One artifact calls, so that there is one block of rows. The lines of the calls are those of one
method. -/
theorem text_eq_rows_sample : sampleConflicts ≠ [] ∧
    (∃ leaf ∈ leaves (rows sampleConflicts),
      leaf.keys = ["lib", "dep", "lib.Caller", "Method not found: void dep.Target.gone()",
        "void run()"] ∧ 12 ∈ leaf.lines) ∧
    text sampleConflicts = preamble ++
      "\tlib refers to unknown classes, so the library that broke its ABI could not be " ++
      "determined.\n\tlib with dep\n\n" ++ String.join sampleRows ++ rule := by
  have some : sampleConflicts ≠ [] := List.cons_ne_nil _ _
  obtain ⟨printed, files⟩ := text_eq_rows sampleConflicts some
  refine ⟨some, ?_, ?_⟩
  · exact (files.filed _ 12).2 ⟨_, List.mem_cons_of_mem _ List.mem_cons_self, rfl, rfl⟩
  · have block : (blocks sampleConflicts).map (fun block => String.join (block.map Row.text) ++ rule) =
        [String.join sampleRows ++ rule] := by
      simpa using congrArg (List.map fun texts => String.join texts ++ rule) map_text_blocks_sample
    rw [printed, block, map_adviceText_sample]
    simp [String.join, String.append_assoc]

/-! ### The order of the conflicts -/

section
variable {cs ds : List Conflict}

/-- Where a group is treated alike in whatever order it is, all groups are. -/
theorem map_groupBy_perm {β : Type} {key : Conflict → String} {f : String × List Conflict → β}
    (perm : cs.Perm ds)
    (alike : ∀ k, f (k, cs.filter (key · = k)) = f (k, ds.filter (key · = k))) :
    (groupBy key cs).toList.map f = (groupBy key ds).toList.map f := by
  have keys : SortedSet.ofList (cs.map key) = SortedSet.ofList (ds.map key) := by
    refine SortedSet.ext fun k => ?_
    rw [SortedSet.mem_ofList, SortedSet.mem_ofList]
    exact (perm.map key).mem_iff
  rw [toList_groupBy, toList_groupBy, List.map_map, List.map_map, keys]
  exact List.map_congr_left fun k _ => alike k

theorem methodGroups_perm (perm : cs.Perm ds) : methodGroups cs = methodGroups ds := by
  refine map_groupBy_perm perm fun k => congrArg (MethodGroup.mk k) ?_
  refine SortedSet.ext fun line => ?_
  rw [SortedSet.mem_ofList, SortedSet.mem_ofList]
  exact ((perm.filter _).map Conflict.line).mem_iff

theorem reasonGroups_perm (perm : cs.Perm ds) : reasonGroups cs = reasonGroups ds :=
  map_groupBy_perm perm fun k => congrArg (ReasonGroup.mk k) (methodGroups_perm (perm.filter _))

/-- In a group, what is asked of all conflicts is asked of fewer. -/
theorem alike_filter (key : Conflict → String) {k : String} {P : Conflict → Conflict → Prop}
    (alike : ∀ c ∈ cs, ∀ d ∈ cs, key c = key d → P c d) :
    ∀ c ∈ cs.filter (key · = k), ∀ d ∈ cs.filter (key · = k), P c d := by
  intro c first d second
  obtain ⟨inC, keyC⟩ := List.mem_filter.1 first
  obtain ⟨inD, keyD⟩ := List.mem_filter.1 second
  exact alike c inC d inD ((of_decide_eq_true keyC).trans (of_decide_eq_true keyD).symm)

/-- The first of some conflicts that have one path has the path, whichever it is. -/
theorem head?_path_perm (perm : cs.Perm ds) (alike : ∀ c ∈ cs, ∀ d ∈ cs, c.path = d.path) :
    cs.head?.map Conflict.path = ds.head?.map Conflict.path := by
  cases cs with
  | nil => rw [List.nil_perm.1 perm]
  | cons c cs =>
    cases ds with
    | nil => exact absurd perm.symm (List.not_perm_nil_cons c cs)
    | cons d ds =>
      exact congrArg some (alike c List.mem_cons_self d (perm.mem_iff.2 List.mem_cons_self))

theorem callerGroups_perm (perm : cs.Perm ds)
    (alike : ∀ c ∈ cs, ∀ d ∈ cs, c.fromClass = d.fromClass → c.path = d.path) :
    callerGroups cs = callerGroups ds := by
  refine map_groupBy_perm perm fun k => ?_
  have paths := head?_path_perm (perm.filter fun c => c.fromClass.dotted = k)
    (alike_filter (·.fromClass.dotted) fun c inC d inD same =>
      alike c inC d inD (congrArg ClassName.mk same))
  dsimp only
  rw [paths, reasonGroups_perm (perm.filter _)]

theorem targetGroups_perm (perm : cs.Perm ds)
    (alike : ∀ c ∈ cs, ∀ d ∈ cs, c.existsInName = d.existsInName → c.fromClass = d.fromClass →
      c.path = d.path) : targetGroups cs = targetGroups ds :=
  map_groupBy_perm perm fun k =>
    congrArg (TargetGroup.mk k) (callerGroups_perm (perm.filter _) (alike_filter _ alike))

theorem tree_perm (perm : cs.Perm ds)
    (alike : ∀ c ∈ cs, ∀ d ∈ cs, c.usedBy = d.usedBy → c.existsInName = d.existsInName →
      c.fromClass = d.fromClass → c.path = d.path) : tree cs = tree ds :=
  map_groupBy_perm perm fun k =>
    congrArg (UserGroup.mk k) (targetGroups_perm (perm.filter _) (alike_filter _ alike))

end

/-- The report does not hang on the order of the conflicts, if those that name the same artifacts
and the same calling class have the same path. -/
theorem text_perm (cs ds : List Conflict) (perm : cs.Perm ds)
    (alike : ∀ c ∈ cs, ∀ d ∈ cs, c.usedBy = d.usedBy → c.existsInName = d.existsInName →
      c.fromClass = d.fromClass → c.path = d.path) : text cs = text ds := by
  have empty : cs.isEmpty = ds.isEmpty := by
    rw [Bool.eq_iff_iff, List.isEmpty_iff, List.isEmpty_iff]
    exact ⟨fun none => (none ▸ perm).nil_eq.symm, fun none => (none ▸ perm).eq_nil⟩
  rw [text, text, empty, tree_perm perm alike]

/-- The report is the same for the conflicts in reverse. -/
theorem text_perm_reverse : text sampleConflicts = text sampleConflicts.reverse :=
  text_perm _ _ sampleConflicts.reverse_perm.symm fun c first d second _ _ _ => by
    have alike : ∀ c ∈ sampleConflicts, c.path = [⟨"app.Main"⟩, ⟨"lib.Caller"⟩] := by
      simp [sampleConflicts]
    rw [alike c first, alike d second]

end Report
end Linkage
