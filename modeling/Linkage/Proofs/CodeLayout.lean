import Mathlib.Algebra.GroupWithZero.Nat
import Mathlib.Data.List.Basic
import Linkage.ClassFile.Decoder
import Linkage.ClassFile.Source
import Linkage.Data.Outcome
import Linkage.Proofs.LineTable

/-!
Where the instructions of a method body stand. Each instruction of a list of statements has a source
line, the last one given before it, and exceptions caught at it, those of the statements around it
(`Statement.placedAll`). In the layout of the statements it has an offset instead, and the line
table and the handlers tell its line and its exceptions from the offset (`Body.ofStatements_lays`).
-/
namespace Linkage

/-- An instruction with its source line, 0 where it is unknown, and the exceptions caught there. -/
structure PlacedOperation where
  operation : Operation
  line : Nat
  caught : List String

namespace Statement

mutual
/-- The instructions of a statement and the line after it, where a line and exceptions are given. A
guarded statement ends with an instruction that throws the exception again. -/
def placed (line : Nat) (caught : List String) : Statement → List PlacedOperation × Nat
  | .operation o => ([⟨o, line, caught⟩], line)
  | .line n => ([], n)
  | .guarded catchType body =>
    let (inner, last) := placedAll line (catchType.toList ++ caught) body
    (inner ++ [⟨.plain Opcode.throwReference, last, caught⟩], last)
/-- The instructions of statements and the line after them, where a line and exceptions are
given. -/
def placedAll (line : Nat) (caught : List String) : List Statement → List PlacedOperation × Nat
  | [] => ([], line)
  | s :: rest =>
    let (first, next) := s.placed line caught
    let (others, last) := placedAll next caught rest
    (first ++ others, last)
end

end Statement

/-- Instructions with their offsets, the first of which is given. -/
def offsets : Nat → List PlacedOperation → List (Nat × PlacedOperation)
  | _, [] => []
  | pc, p :: rest => (pc, p) :: offsets (pc + p.operation.size) rest

theorem Operation.size_pos (o : Operation) : 0 < o.size := by
  cases o with
  | invoke kind m => cases kind <;> simp [size]
  | _ => simp [size]

/-- The number of bytes of instructions. -/
def totalSize (ps : List PlacedOperation) : Nat := (ps.map fun p => p.operation.size).sum

theorem offsets_append (pc : Nat) (ps qs : List PlacedOperation) :
    offsets pc (ps ++ qs) = offsets pc ps ++ offsets (pc + totalSize ps) qs := by
  induction ps generalizing pc with
  | nil => simp [offsets, totalSize]
  | cons p ps ih =>
    rw [List.cons_append, offsets, offsets, ih, List.cons_append]
    simp [totalSize, Nat.add_assoc]

theorem mem_offsets {pc : Nat} {ps : List PlacedOperation} {e : Nat × PlacedOperation}
    (member : e ∈ offsets pc ps) : pc ≤ e.1 ∧ e.1 < pc + totalSize ps := by
  induction ps generalizing pc with
  | nil => cases member
  | cons p ps ih =>
    have positive := p.operation.size_pos
    have total : totalSize (p :: ps) = p.operation.size + totalSize ps := by simp [totalSize]
    rcases List.mem_cons.1 member with rfl | later
    · dsimp only
      omega
    · have := ih later
      omega

/-- The line that a table tells for an offset: that of the last entry that starts at or before it, 0
if there is none. -/
def lineOf (lines : List (Nat × Nat)) (pc : Nat) : Nat :=
  ((lines.filter (·.1 ≤ pc)).getLast?.map Prod.snd).getD 0

theorem lineOf_append {lines new : List (Nat × Nat)} {pc : Nat} (later : ∀ l ∈ new, pc < l.1) :
    lineOf (lines ++ new) pc = lineOf lines pc := by
  have none : new.filter (·.1 ≤ pc) = [] := by
    rw [List.filter_eq_nil_iff]
    intro l member
    have := later l member
    simp only [decide_eq_true_eq]
    omega
  rw [lineOf, List.filter_append, none, List.append_nil, lineOf]

/-- At an offset where no entry lies ahead, the line is that of the last entry. -/
theorem lineOf_of_within {lines : List (Nat × Nat)} {pc : Nat} (within : ∀ l ∈ lines, l.1 ≤ pc) :
    lineOf lines pc = (lines.getLast?.map Prod.snd).getD 0 := by
  rw [lineOf, List.filter_eq_self.2 fun l member => by simpa using within l member]

/-- An exception is caught at an offset by one of some handlers. -/
def Covered (handlers : List (Nat × Nat × Option String)) (pc : Nat) (name : String) : Prop :=
  ∃ h ∈ handlers, (h.1 ≤ pc ∧ pc < h.2.1) ∧ h.2.2 = some name

theorem covered_append {hs ks : List (Nat × Nat × Option String)} {pc : Nat} {name : String} :
    Covered (hs ++ ks) pc name ↔ Covered hs pc name ∨ Covered ks pc name := by
  simp only [Covered, List.mem_append, or_and_right, exists_or]

theorem not_covered {hs : List (Nat × Nat × Option String)} {pc : Nat}
    (outside : ∀ h ∈ hs, pc < h.1 ∨ h.2.1 ≤ pc) (name : String) : ¬ Covered hs pc name := by
  rintro ⟨h, member, inside, -⟩
  have := outside h member
  omega

namespace Body

/-- A body is another with some more instructions. The entries of the line table and the handlers
that came with them lie in their range, and tell their lines and, besides the exceptions that are
caught around them, their exceptions. -/
structure Lays (before after : Body) (caught : List String) (ps : List PlacedOperation) : Prop where
  operations : after.operations = before.operations ++ ps.map PlacedOperation.operation
  size : after.size = before.size + totalSize ps
  lines : ∃ new, after.lines = before.lines ++ new ∧
    (∀ l ∈ new, before.size ≤ l.1 ∧ l.1 ≤ after.size) ∧ new.Pairwise (·.1 ≤ ·.1)
  told : ∀ e ∈ offsets before.size ps, lineOf after.lines e.1 = e.2.line
  handlers : ∃ new, after.handlers = before.handlers ++ new ∧
    (∀ h ∈ new, before.size ≤ h.1 ∧ h.1 ≤ h.2.1 ∧ h.2.1 ≤ after.size) ∧
    ∀ e ∈ offsets before.size ps, ∀ name, name ∈ e.2.caught ↔
      name ∈ caught ∨ Covered new e.1 name

namespace Lays
variable {before middle after : Body} {caught : List String} {ps qs : List PlacedOperation}

theorem refl (b : Body) (caught : List String) : Lays b b caught [] where
  operations := by simp
  size := rfl
  lines := ⟨[], by simp⟩
  told := by simp [offsets]
  handlers := ⟨[], by simp [offsets]⟩

theorem trans (first : Lays before middle caught ps) (second : Lays middle after caught qs) :
    Lays before after caught (ps ++ qs) := by
  obtain ⟨newLines, sameLines, ranges, ascending⟩ := first.lines
  obtain ⟨moreLines, sameMore, moreRanges, moreAscending⟩ := second.lines
  obtain ⟨newHandlers, sameHandlers, spans, catches⟩ := first.handlers
  obtain ⟨moreHandlers, sameOthers, moreSpans, moreCatches⟩ := second.handlers
  have start : middle.size = before.size + totalSize ps := first.size
  have stop : after.size = middle.size + totalSize qs := second.size
  have split : offsets before.size (ps ++ qs) = offsets before.size ps ++ offsets middle.size qs := by
    rw [offsets_append, ← start]
  refine ⟨?_, ?_, ?_, ?_, ?_⟩
  · rw [second.operations, first.operations, List.map_append, List.append_assoc]
  · rw [stop, start]
    simp [totalSize, Nat.add_assoc]
  · refine ⟨newLines ++ moreLines, by rw [sameMore, sameLines, List.append_assoc], ?_, ?_⟩
    · intro l member
      rcases List.mem_append.1 member with old | new
      · have := ranges l old
        omega
      · have := moreRanges l new
        omega
    · refine List.pairwise_append.2 ⟨ascending, moreAscending, fun l old m new => ?_⟩
      have := ranges l old
      have := moreRanges m new
      omega
  · intro e member
    rw [split] at member
    rcases List.mem_append.1 member with old | new
    · have bounds := mem_offsets old
      rw [sameMore, lineOf_append, first.told e old]
      intro l fresh
      have := moreRanges l fresh
      omega
    · exact second.told e new
  · refine ⟨newHandlers ++ moreHandlers, by rw [sameOthers, sameHandlers, List.append_assoc], ?_, ?_⟩
    · intro h member
      rcases List.mem_append.1 member with old | new
      · have := spans h old
        omega
      · have := moreSpans h new
        omega
    · -- the handlers of each part cover no instruction of the other
      intro e member name
      rw [split] at member
      rcases List.mem_append.1 member with old | new
      · have bounds := mem_offsets old
        have outside : ¬ Covered moreHandlers e.1 name := by
          refine not_covered (fun h fresh => ?_) name
          have := moreSpans h fresh
          omega
        rw [catches e old name, covered_append, or_iff_left outside]
      · have bounds := mem_offsets new
        have outside : ¬ Covered newHandlers e.1 name := by
          refine not_covered (fun h fresh => ?_) name
          have := spans h fresh
          omega
        rw [moreCatches e new name, covered_append, or_iff_right outside]

theorem push (b : Body) (o : Operation) (caught : List String) :
    Lays b (b.push o) caught [⟨o, lineOf b.lines b.size, caught⟩] where
  operations := rfl
  size := by simp [Body.push, totalSize]
  lines := ⟨[], by simp [Body.push]⟩
  told := by simp [Body.push, offsets]
  handlers := ⟨[], by simp [Body.push, offsets, Covered]⟩

theorem line (b : Body) (n : Nat) (caught : List String) :
    Lays b { b with lines := b.lines ++ [(b.size, n)] } caught [] where
  operations := by simp
  size := rfl
  lines := ⟨[(b.size, n)], by simp⟩
  told := by simp [offsets]
  handlers := ⟨[], by simp [offsets]⟩

/-- No entry of the line table lies ahead of the body. -/
theorem within (lays : Lays before after caught ps) (within : ∀ l ∈ before.lines, l.1 ≤ before.size) :
    ∀ l ∈ after.lines, l.1 ≤ after.size := by
  obtain ⟨new, same, ranges, -⟩ := lays.lines
  have size := lays.size
  intro l member
  rw [same] at member
  rcases List.mem_append.1 member with old | fresh
  · have := within l old
    omega
  · exact (ranges l fresh).2

/-- Statements around which an exception is caught. -/
theorem guarded {inner : Body} {catchType : Option String} {last : Nat}
    (lays : Lays before inner (catchType.toList ++ caught) ps)
    (current : lineOf inner.lines inner.size = last) :
    Lays before ({ inner with handlers := inner.handlers ++ [(before.size, inner.size, catchType)] }.push
        (.plain Opcode.throwReference)) caught
      (ps ++ [⟨.plain Opcode.throwReference, last, caught⟩]) := by
  obtain ⟨newLines, sameLines, ranges, ascending⟩ := lays.lines
  obtain ⟨newHandlers, sameHandlers, spans, catches⟩ := lays.handlers
  have start : inner.size = before.size + totalSize ps := lays.size
  have split : offsets before.size (ps ++ [⟨.plain Opcode.throwReference, last, caught⟩]) =
      offsets before.size ps ++ [(inner.size, ⟨.plain Opcode.throwReference, last, caught⟩)] := by
    rw [offsets_append, ← start]
    rfl
  refine ⟨?_, ?_, ⟨newLines, sameLines, fun l member => ?_, ascending⟩, ?_, ?_⟩
  · simp [Body.push, lays.operations]
  · simp [Body.push, start, totalSize, Nat.add_assoc]
  · have := ranges l member
    simp only [Body.push, Operation.size]
    omega
  · intro e member
    rw [split] at member
    rcases List.mem_append.1 member with old | new
    · exact lays.told e old
    · cases List.mem_singleton.1 new
      exact current
  · refine ⟨newHandlers ++ [(before.size, inner.size, catchType)], ?_, ?_, ?_⟩
    · simp [Body.push, sameHandlers]
    · intro h member
      simp only [Body.push, Operation.size]
      rcases List.mem_append.1 member with old | new
      · have := spans h old
        omega
      · cases List.mem_singleton.1 new
        dsimp only
        omega
    · intro e member name
      rw [split] at member
      rcases List.mem_append.1 member with old | new
      · have bounds := mem_offsets old
        have inside : Covered [(before.size, inner.size, catchType)] e.1 name ↔
            name ∈ catchType.toList := by
          simp only [Covered, List.mem_singleton, exists_eq_left, Option.mem_toList,
            and_iff_right_iff_imp]
          omega
        rw [catches e old name, covered_append, inside, List.mem_append]
        tauto
      · cases List.mem_singleton.1 new
        have outside : ¬ Covered (newHandlers ++ [(before.size, inner.size, catchType)]) inner.size
            name := by
          refine not_covered (fun h fresh => ?_) name
          rcases List.mem_append.1 fresh with old | new
          · exact .inr (spans h old).2.2
          · cases List.mem_singleton.1 new
            exact .inr (Nat.le_refl _)
        rw [or_iff_left outside]

end Lays

mutual
/-- A statement is laid out with its instructions. -/
theorem add_lays (b : Body) (s : Statement) (caught : List String)
    (within : ∀ l ∈ b.lines, l.1 ≤ b.size) :
    Lays b (b.add s) caught (s.placed (lineOf b.lines b.size) caught).1 ∧
      lineOf (b.add s).lines (b.add s).size = (s.placed (lineOf b.lines b.size) caught).2 := by
  cases s with
  | operation o =>
    rw [add, Statement.placed]
    have lays := Lays.push b o caught
    refine ⟨lays, ?_⟩
    rw [lineOf_of_within (lays.within within), lineOf_of_within within]
    rfl
  | line n =>
    rw [add, Statement.placed]
    have lays := Lays.line b n caught
    refine ⟨lays, ?_⟩
    rw [lineOf_of_within (lays.within within)]
    simp
  | guarded catchType body =>
    rw [add, Statement.placed]
    obtain ⟨lays, current⟩ := addAll_lays b body (catchType.toList ++ caught) within
    refine ⟨lays.guarded current, ?_⟩
    rw [lineOf_of_within ((lays.guarded current).within within), ← current,
      lineOf_of_within (lays.within within)]
    rfl
theorem addAll_lays (b : Body) (ss : List Statement) (caught : List String)
    (within : ∀ l ∈ b.lines, l.1 ≤ b.size) :
    Lays b (b.addAll ss) caught (Statement.placedAll (lineOf b.lines b.size) caught ss).1 ∧
      lineOf (b.addAll ss).lines (b.addAll ss).size =
        (Statement.placedAll (lineOf b.lines b.size) caught ss).2 := by
  cases ss with
  | nil =>
    rw [addAll, Statement.placedAll]
    exact ⟨Lays.refl b caught, rfl⟩
  | cons s ss =>
    rw [addAll, Statement.placedAll]
    obtain ⟨first, next⟩ := add_lays b s caught within
    obtain ⟨others, last⟩ := addAll_lays (b.add s) ss caught (first.within within)
    rw [next] at others last
    exact ⟨first.trans others, last⟩
end

/-- The layout of a list of statements. -/
theorem ofStatements_lays (ss : List Statement) :
    Lays empty (ofStatements ss) [] (Statement.placedAll 0 [] ss).1 :=
  (addAll_lays empty ss [] (by simp [empty])).1

/-- Lines start and guarded ranges end within the body, whose size is that of its instructions. -/
theorem ofStatements_bounds (ss : List Statement) :
    ((ofStatements ss).operations.map Operation.size).sum = (ofStatements ss).size ∧
      (∀ l ∈ (ofStatements ss).lines, l.1 ≤ (ofStatements ss).size) ∧
      ∀ h ∈ (ofStatements ss).handlers, h.1 ≤ h.2.1 ∧ h.2.1 ≤ (ofStatements ss).size := by
  have lays := ofStatements_lays ss
  obtain ⟨new, handlers, spans, -⟩ := lays.handlers
  refine ⟨?_, lays.within (by simp [empty]), fun h member => ?_⟩
  · rw [lays.operations, lays.size]
    simp [empty, totalSize, Function.comp_def]
  · rw [handlers] at member
    exact (spans h (by simpa [empty] using member)).2

end Body

/-! ### Line tables and handlers -/

/-- The line of an offset is the one that the table tells. -/
theorem Code.lineAt_eq {code : Code} {lines : List (Nat × Nat)}
    (table : code.lines = lines.map fun l => ⟨l.1, l.2⟩) (ascending : lines.Pairwise (·.1 ≤ ·.1))
    (pc : Nat) : code.lineAt pc = lineOf lines pc := by
  have sorted : code.lines.Pairwise (·.start ≤ ·.start) := by
    rw [table, List.pairwise_map]
    exact ascending
  have kept : sortedLines code.lines = code.lines :=
    List.mergeSort_of_pairwise (sorted.imp fun le => by simpa using le)
  have last : (code.lines.filter (·.start ≤ pc)).getLast? =
      (lines.filter (·.1 ≤ pc)).getLast?.map fun l => ⟨l.1, l.2⟩ := by
    rw [table, List.filter_map, List.getLast?_map]
    rfl
  rw [Code.lineAt, kept, takeWhile_eq_filter sorted, last, lineOf]
  cases (lines.filter (·.1 ≤ pc)).getLast? <;> rfl

theorem ofSymbol_eq_ok {α : Type} {x : Except SymbolError α} {a : α} :
    ClassFileError.ofSymbol x = .ok a ↔ x = .ok a := by
  cases x <;> simp [ClassFileError.ofSymbol]

/-- The exceptions caught at an offset are those of the handlers that cover it. -/
theorem Code.caughtAt_eq_ok {code : Code} {handlers : List (Nat × Nat × Option String)} {pc : Nat}
    {caught : List String} {names : List ClassName}
    (same : code.handlers = handlers.map fun h => ⟨h.1, h.2.1, h.2.1, h.2.2⟩)
    (told : ∀ name, name ∈ caught ↔ Covered handlers pc name)
    (named : caught.mapM ClassName.ofName = .ok names) :
    code.caughtAt pc = .ok (SortedSet.ofList names) := by
  have types : ∀ name, name ∈ (code.handlers.filter (·.covers pc)).filterMap (·.catchType) ↔
      name ∈ caught := by
    intro name
    rw [told, same]
    simp [Covered, ExceptionHandler.covers, and_assoc]
  obtain ⟨found, run⟩ := exists_mapM_eq_ok (f := fun name =>
      ClassFileError.ofSymbol (ClassName.ofName name)) fun name member => by
    obtain ⟨c, here⟩ := exists_of_mapM_eq_ok named ((types name).1 member)
    exact ⟨c, ofSymbol_eq_ok.2 here⟩
  have members : SortedSet.ofList found = SortedSet.ofList names := by
    refine SortedSet.ext fun c => ?_
    simp only [SortedSet.mem_ofList, mem_iff_of_mapM_eq_ok run, mem_iff_of_mapM_eq_ok named, types,
      ofSymbol_eq_ok]
  rw [Code.caughtAt, ← members]
  exact bind_eq_ok.2 ⟨found, run, rfl⟩

end Linkage
