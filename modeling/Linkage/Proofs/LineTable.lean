import Mathlib.Data.List.Sort
import Mathlib.Data.List.TakeWhile
import Linkage.ClassFile.Decoder

/-!
The lines of offsets. A line table tells the line of an offset whatever the order of its entries is
(`LineAt`, `Code.lineAt_told`). The decoder sorts the table once and passes it along the
instructions of a method; since their offsets ascend, it comes to the line of each
(`Decoder.codeUses_eq`).
-/
namespace Linkage

/-- The line that a table tells for an offset: that of the entry with the greatest start at or
before it, the last in the table of those with one start, and 0 if no entry starts so early. -/
inductive LineAt (lines : List LineNumber) (pc : Nat) : Nat → Prop
  | unknown : (∀ l ∈ lines, pc < l.start) → LineAt lines pc 0
  | entry {l : LineNumber} : l.start ≤ pc → (∀ k ∈ lines, k.start ≤ pc → k.start ≤ l.start) →
      (lines.filter (·.start = l.start)).getLast? = some l → LineAt lines pc l.line

section
variable {lines : List LineNumber} {pc : Nat}

theorem LineAt.unique {m n : Nat} (first : LineAt lines pc m) (second : LineAt lines pc n) :
    m = n := by
  have inside : ∀ {l : LineNumber}, (lines.filter (·.start = l.start)).getLast? = some l →
      l ∈ lines := fun last => List.mem_of_mem_filter (List.mem_of_getLast? last)
  cases first with
  | unknown none =>
    cases second with
    | unknown => rfl
    | entry before _ last =>
      have := none _ (inside last)
      omega
  | @entry l before greatest last =>
    cases second with
    | unknown none =>
      have := none _ (inside last)
      omega
    | @entry k before' greatest' last' =>
      have le := greatest _ (inside last') before'
      have ge := greatest' _ (inside last) before
      have same : l.start = k.start := by omega
      rw [same, last'] at last
      rw [Option.some.inj last]

private theorem start_trans (a b c : LineNumber) :
    decide (a.start ≤ b.start) = true → decide (b.start ≤ c.start) = true →
      decide (a.start ≤ c.start) = true := by
  simp only [decide_eq_true_eq]
  omega

private theorem start_total (a b : LineNumber) :
    (decide (a.start ≤ b.start) || decide (b.start ≤ a.start)) = true := by
  simp only [Bool.or_eq_true, decide_eq_true_eq]
  omega

private theorem sortedLines_ascending : (sortedLines lines).Pairwise (·.start ≤ ·.start) := by
  have sorted : (sortedLines lines).Pairwise fun a b => decide (a.start ≤ b.start) = true :=
    List.pairwise_mergeSort start_trans start_total lines
  exact sorted.imp of_decide_eq_true

-- Sorting is stable, so the entries with one start keep the order of the table.
private theorem filter_sortedLines (start : Nat) :
    (sortedLines lines).filter (·.start = start) = lines.filter (·.start = start) := by
  have level : (lines.filter (·.start = start)).Pairwise fun a b =>
      decide (a.start ≤ b.start) = true := by
    rw [List.pairwise_filter]
    refine List.pairwise_of_forall fun a b => ?_
    simp only [decide_eq_true_eq]
    omega
  have kept : (lines.filter (·.start = start)).Sublist (sortedLines lines) :=
    List.sublist_mergeSort start_trans start_total level List.filter_sublist
  have inside : (lines.filter (·.start = start)).Sublist
      ((sortedLines lines).filter (·.start = start)) := by
    simpa using kept.filter (·.start = start)
  have perm : ((sortedLines lines).filter (·.start = start)).Perm
      (lines.filter (·.start = start)) := (List.mergeSort_perm lines _).filter _
  exact (inside.eq_of_length perm.length_eq.symm).symm

/-- In a table in the order of its starts, the entries up to an offset come first. -/
theorem takeWhile_eq_filter {lines : List LineNumber} {pc : Nat}
    (ascending : lines.Pairwise (·.start ≤ ·.start)) :
    lines.takeWhile (·.start ≤ pc) = lines.filter (·.start ≤ pc) := by
  induction lines with
  | nil => rfl
  | cons l lines ih =>
    obtain ⟨first, others⟩ := List.pairwise_cons.1 ascending
    by_cases here : l.start ≤ pc
    · simp [here, ih others]
    · have none : lines.filter (·.start ≤ pc) = [] := by
        rw [List.filter_eq_nil_iff]
        intro m member
        have := first m member
        simp only [decide_eq_true_eq]
        omega
      simp [here, none]

/-- The line of an offset: that of the last entry that starts at or before it, 0 if there is none.
Entries count in the order of their starts. -/
def Code.lineAt (code : Code) (pc : Nat) : Nat :=
  (((sortedLines code.lines).takeWhile (·.start ≤ pc)).getLast?.map LineNumber.line).getD 0

/-- The line of an offset is the one that the table tells, in whatever order its entries are. -/
theorem Code.lineAt_told (code : Code) (pc : Nat) : LineAt code.lines pc (code.lineAt pc) := by
  have mem_sorted : ∀ l, l ∈ sortedLines code.lines ↔ l ∈ code.lines := fun l =>
    (List.mergeSort_perm code.lines _).mem_iff
  have ascending : (sortedLines code.lines).Pairwise (·.start ≤ ·.start) := sortedLines_ascending
  rw [lineAt, takeWhile_eq_filter ascending]
  cases last : ((sortedLines code.lines).filter (·.start ≤ pc)).getLast? with
  | none =>
    refine .unknown fun l member => ?_
    have early := List.filter_eq_nil_iff.1 (List.getLast?_eq_none_iff.1 last) l
      ((mem_sorted l).2 member)
    simpa using early
  | some l =>
    -- `l` comes last of the entries that start early enough, and they are in order
    obtain ⟨before, split⟩ := List.getLast?_eq_some_iff.1 last
    have here : l.start ≤ pc := by
      have inside := List.mem_filter.1 (List.mem_of_getLast? last)
      exact of_decide_eq_true inside.2
    refine .entry here (fun k member early => ?_) ?_
    · have early : k ∈ before ++ [l] :=
        split ▸ List.mem_filter.2 ⟨(mem_sorted k).2 member, decide_eq_true early⟩
      have sorted : (before ++ [l]).Pairwise (·.start ≤ ·.start) :=
        split ▸ ascending.sublist List.filter_sublist
      rcases List.mem_append.1 early with first | same
      · exact (List.pairwise_append.1 sorted).2.2 k first l List.mem_cons_self
      · rw [List.mem_singleton.1 same]
    · have narrowed : (sortedLines code.lines).filter (·.start = l.start) =
          (before ++ [l]).filter (·.start = l.start) := by
        rw [← split, List.filter_filter]
        refine List.filter_congr fun k _ => ?_
        by_cases same : k.start = l.start <;> simp [same, here]
      rw [← filter_sortedLines, narrowed]
      simp

end

/-! ### One pass over the table

Offsets ascend along the instructions of a method, so a decoder that passes the entries of the table
one after the other, in the order of their starts, never has to go back. -/

private theorem linesAlong_eq {lines passed ahead : List LineNumber} {line : Nat} {pcs : List Nat}
    (split : lines = passed ++ ahead)
    (told : line = (passed.getLast?.map LineNumber.line).getD 0)
    (before : ∀ l ∈ passed, ∀ pc ∈ pcs, l.start ≤ pc) (inOrder : pcs.Pairwise (· ≤ ·)) :
    linesAlong ahead line pcs = pcs.map fun pc =>
      ((lines.takeWhile (·.start ≤ pc)).getLast?.map LineNumber.line).getD 0 := by
  induction pcs generalizing passed ahead line with
  | nil => rfl
  | cons pc rest ih =>
    obtain ⟨first, others⟩ := List.pairwise_cons.1 inOrder
    have all : lines.takeWhile (·.start ≤ pc) = passed ++ ahead.takeWhile (·.start ≤ pc) := by
      rw [split, List.takeWhile_append_of_pos]
      intro l member
      simpa using before l member pc List.mem_cons_self
    have next : ((ahead.takeWhile (·.start ≤ pc)).getLast?.map LineNumber.line).getD line =
        ((lines.takeWhile (·.start ≤ pc)).getLast?.map LineNumber.line).getD 0 := by
      rw [all, List.getLast?_append, told]
      cases (ahead.takeWhile (·.start ≤ pc)).getLast? <;> rfl
    have left : lines = lines.takeWhile (·.start ≤ pc) ++ ahead.dropWhile (·.start ≤ pc) := by
      rw [all, List.append_assoc, List.takeWhile_append_dropWhile, split]
    rw [linesAlong, List.map_cons]
    refine congrArg₂ List.cons next (ih left next (fun l member later isLater => ?_) others)
    have here : l.start ≤ pc := by simpa using List.mem_takeWhile_imp member
    exact here.trans (first later isLater)

theorem Instruction.streamFrom_ascending (pc : Nat) (code : Bytes) :
    (∀ item ∈ (streamFrom pc code).items, pc ≤ item.1) ∧
      ((streamFrom pc code).items.map Prod.fst).Pairwise (· ≤ ·) := by
  fun_induction streamFrom pc code with
  | case1 => simp
  | case2 => simp
  | case3 pc opcode operands instruction n read rest ih =>
    obtain ⟨later, ascending⟩ := ih
    constructor
    · intro item member
      rcases List.mem_cons.1 member with rfl | inside
      · exact Nat.le_refl pc
      · have := later item inside
        omega
    · rw [List.map_cons, List.pairwise_cons]
      refine ⟨fun next member => ?_, ascending⟩
      obtain ⟨item, inside, rfl⟩ := List.mem_map.1 member
      have := later item inside
      omega

/-- One pass tells the lines of all instructions of a method. -/
theorem Code.linesAlong_stream (code : Code) :
    linesAlong (sortedLines code.lines) 0 ((Instruction.stream code.bytecode).items.map Prod.fst) =
      (Instruction.stream code.bytecode).items.map fun item => code.lineAt item.1 := by
  have ascending := (Instruction.streamFrom_ascending 0 code.bytecode).2
  have start : sortedLines code.lines = [] ++ sortedLines code.lines := rfl
  have none : 0 = (([] : List LineNumber).getLast?.map LineNumber.line).getD 0 := rfl
  rw [Instruction.stream, linesAlong_eq start none (by simp) ascending, List.map_map]
  rfl

private theorem mapM_zip_map {ε α β γ : Type} (f : α → β) (g : α × β → Except ε γ) (as : List α) :
    (as.zip (as.map f)).mapM g = as.mapM fun a => g (a, f a) := by
  induction as with
  | nil => rfl
  | cons a as ih => rw [List.map_cons, List.zip_cons_cons, List.mapM_cons, List.mapM_cons, ih]

/-- What the instructions of a method contribute, each on the line that the table tells for it. -/
theorem Decoder.codeUses_eq (decoder : Decoder) (file : ClassFile) (code : Code) :
    decoder.codeUses file code = (do
      let stream := Instruction.stream code.bytecode
      let parts ← stream.items.mapM fun item =>
        decoder.uses file code item.1 (code.lineAt item.1) item.2
      match stream.fault with
      | some e => throw e
      | none => return parts.flatten) := by
  unfold codeUses
  dsimp only
  rw [code.linesAlong_stream]
  exact congrArg (· >>= _) (mapM_zip_map ..)

end Linkage
