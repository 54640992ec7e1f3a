import Linkage.ClassFile.Instruction
import Linkage.Proofs.Addressing

/-!
Bytecode over addresses. The scan of a method's code looks the opcode up at its offset, reads the
operands with a cursor and adds the length of the instruction to the offset. It ends without fault,
with the stream of the code (`scan_eq`), whatever the four-byte numbers of a switch are; its offsets
ascend, and where it is not stopped its instructions tile the code (`exists_tiles`).
-/
namespace Linkage.Addressed
open Instruction

/-- The number in the next four bytes in two's complement. -/
def i4 : CursorReader Int := return signed4 (← u4)

/-- The instruction with an opcode, read off its operands. -/
def instruction (opcode : UInt8) : CursorReader Instruction :=
  if Opcode.isInvoke opcode then return .invoke opcode (← u2)
  else if Opcode.isAccess opcode then return .access opcode (← u2)
  else if opcode = Opcode.invokeDynamic then return .invokeDynamic (← u2)
  else if opcode = Opcode.ldc then return .loadConstant (← u1)
  else if opcode = Opcode.ldcWide ∨ opcode = Opcode.ldcDouble then return .loadConstant (← u2)
  else return .other

/-- A cursor behind the filler of a switch, with positions that count from the opcode. -/
def switchOperands (code : Bytes) (pc : Nat) : Guarded Cursor := do
  let filler := (← minus 4 ((← word 64 (pc + 1)) % 4)) % 4
  let operands ← itemsFrom code pc
  let (_, c) ← take (← word 64 (1 + filler)) ⟨operands, 0⟩
  return c

/-- The bounds of a table switch, after its default. -/
def tableBounds : CursorReader (Int × Int) := do
  let _default ← i4
  return (← i4, ← i4)

/-- The number of pairs of a lookup switch, after its default. -/
def lookupPairs : CursorReader Int := do
  let _default ← i4
  i4

/-- The end of a table switch: behind its bounds there is a jump for each value between them. -/
def tableEnd : Int × Int → Nat → Guarded Nat
  | (low, high), position => do
    if high < low then throw .tableSwitchBounds
    let values ← signedWord ((← signedWord (high - low)) + 1)
    word 64 (position + (← unsigned (← signedWord (values * 4))))

/-- The end of a lookup switch: behind their number there are the pairs. -/
def lookupEnd (pairs : Int) (position : Nat) : Guarded Nat := do
  if pairs < 0 then throw .lookupSwitchPairs
  word 64 (position + (← word 64 ((← unsigned pairs) * 8)))

/-- The length of a table switch. -/
def tableSwitchLength (code : Bytes) (pc : Nat) : Guarded Nat := do
  let (bounds, c) ← tableBounds (← switchOperands code pc)
  tableEnd bounds c.position

/-- The length of a lookup switch. -/
def lookupSwitchLength (code : Bytes) (pc : Nat) : Guarded Nat := do
  let (pairs, c) ← lookupPairs (← switchOperands code pc)
  lookupEnd pairs c.position

/-- The length of the instruction with an opcode at an offset. -/
def lengthAt (code : Bytes) (pc : Nat) (opcode : UInt8) : Guarded Nat :=
  if opcode = Opcode.tableSwitch then tableSwitchLength code pc
  else if opcode = Opcode.lookupSwitch then lookupSwitchLength code pc
  else if opcode = Opcode.wide then do
    match code[← word 64 (pc + 1)]? with
    | some b => return if b = Opcode.increment then 6 else 4
    | none => throw .unexpectedEnd
  else
    match Opcode.fixedWidth? opcode with
    | some n => return 1 + n
    | none => throw (.invalidOpcode opcode.toNat pc)

/-- The instruction at an offset and its length. -/
def decodeAt (code : Bytes) (pc : Nat) : Guarded (Instruction × Nat) := do
  let opcode ← item code pc
  let operands ← itemsFrom code (← word 64 (pc + 1))
  let (i, _) ← instruction opcode ⟨operands, 0⟩
  let n ← lengthAt code pc opcode
  if code.length < (← word 64 (pc + n)) then throw .unexpectedEnd
  return (i, n)

/-- The instructions from an offset on, in so many turns at most. -/
def scanFrom (code : Bytes) (pc : Nat) : Nat → Except Fault Stream
  | 0 => if pc < code.length then throw .endless else return ⟨[], none⟩
  | turns + 1 =>
    if pc < code.length then do
      match ← (decodeAt code pc).run with
      | .error e => return ⟨[], some e⟩
      | .ok (i, n) =>
        let rest ← scanFrom code (← word 64 (pc + n)) turns
        return ⟨(pc, i) :: rest.items, rest.fault⟩
    else return ⟨[], none⟩

/-- The instructions of a method's code, each with its offset. -/
def scan (code : Bytes) : Except Fault Stream := scanFrom code 0 code.length

/-! ### One instruction -/

/-- A reader that takes so many bytes. -/
def Takes {α : Type} (r : Reader α) (n : Nat) : Prop :=
  ∀ bytes a rest, r bytes = .ok (a, rest) → bytes.length = rest.length + n

theorem takes_bind {α β : Type} {r : Reader α} {f : α → Reader β} {m n : Nat} (first : Takes r m)
    (next : ∀ a, Takes (f a) n) : Takes (r >>= f) (m + n) := by
  intro bytes b rest run
  obtain ⟨⟨a, middle⟩, here, there⟩ := bind_eq_ok.1 run
  have front := first bytes a middle here
  have back := next a middle b rest there
  omega

theorem takes_pure {α : Type} (a : α) : Takes (pure a) 0 := by
  intro bytes b rest run
  cases run
  rfl

theorem of_u4 {bytes rest : Bytes} {n : Nat} (read : Reader.u4 bytes = .ok (n, rest)) :
    n < 2 ^ 32 ∧ bytes.length = rest.length + 4 := by
  obtain ⟨⟨part, left⟩, here, same⟩ := map_eq_ok.1 read
  cases same
  rw [Reader.take_eq] at here
  split at here
  · rename_i enough
    cases here
    rw [List.length_drop]
    exact ⟨Bytes.toNat_lt (List.length_take_of_le enough), by omega⟩
  · cases here

theorem signed4_bounds {n : Nat} (small : n < 2 ^ 32) :
    -0x80000000 ≤ signed4 n ∧ signed4 n < 0x80000000 := by
  unfold signed4
  split <;> omega

theorem takes_i4 : Takes (signed4 <$> Reader.u4) 4 := by
  rw [map_eq_pure_bind]
  exact takes_bind (fun _ _ _ read => (of_u4 read).2) fun _ => takes_pure _

theorem refines_i4 :
    Refines i4 (signed4 <$> Reader.u4) fun n => -0x80000000 ≤ n ∧ n < 0x80000000 := by
  rw [map_eq_pure_bind]
  exact Refines.u4.bind fun n small => .pure (signed4_bounds small)

theorem refines_instruction (opcode : UInt8) :
    Refines (instruction opcode) (ofOpcode opcode) fun _ => True := by
  have index (f : Nat → Instruction) :
      Refines (do return f (← u2)) (do return f (← Reader.u2)) fun _ => True :=
    Refines.u2.bind fun _ _ => .pure trivial
  unfold instruction ofOpcode
  split
  · exact index _
  · split
    · exact index _
    · split
      · exact index _
      · split
        · exact Refines.u1.bind fun _ _ => .pure trivial
        · split
          · exact index _
          · exact .pure trivial

section
variable {code operands : Bytes} {opcode : UInt8} {pc : Nat}

theorem lt_of_drop (here : code.drop pc = opcode :: operands) :
    pc < code.length ∧ code.length = pc + (operands.length + 1) := by
  have left := congrArg List.length here
  rw [List.length_drop, List.length_cons] at left
  omega

theorem drop_of_drop (here : code.drop pc = opcode :: operands) (n : Nat) :
    code.drop (pc + (1 + n)) = operands.drop n := by
  rw [← List.drop_drop, here, Nat.add_comm 1, List.drop_succ_cons]

theorem switchOperands_eq (fits : code.length < 2 ^ 63) (here : code.drop pc = opcode :: operands) :
    switchOperands code pc = ended ((Reader.take (padding pc) operands).map fun p =>
      Cursor.leaving ⟨opcode :: operands, 0⟩ p.2) := by
  obtain ⟨inside, length⟩ := lt_of_drop here
  have few : (4 - (pc + 1) % 4) % 4 < 4 := Nat.mod_lt _ (by decide)
  have valid : Cursor.Valid ⟨opcode :: operands, 0⟩ :=
    Cursor.valid_start (by rw [List.length_cons]; omega)
  have front : Reader.take (1 + padding pc) (opcode :: operands) =
      (Reader.take (padding pc) operands).map fun p => (opcode :: p.1, p.2) := by
    rw [Reader.take_eq, Reader.take_eq, List.length_cons, Nat.add_comm 1]
    split
    · rw [if_pos (by omega)]
      rfl
    · rw [if_neg (by omega)]
      rfl
  rw [switchOperands, word_of_lt (by omega), pure_bind, minus_of_le (by omega), pure_bind,
    itemsFrom_of_le (by omega), pure_bind, word_of_lt (by omega), pure_bind, here]
  show (take (1 + padding pc) ⟨opcode :: operands, 0⟩ >>= fun p => pure p.2) = _
  rw [(Refines.take (1 + padding pc) _ valid).1, Cursor.rest_start, front]
  cases Reader.take (padding pc) operands <;> rfl

/-- A reader behind the filler of a switch, and what follows from its result and the position that
it leaves. -/
theorem switch_eq {α : Type} {run : CursorReader α} {r : Reader α} {P : α → Prop} {k : Nat}
    {f : α → Nat → Guarded Nat} {g : α → Reader Nat} (fits : code.length < 2 ^ 63)
    (here : code.drop pc = opcode :: operands) (refines : Refines run r P) (takes : Takes r k)
    (last : ∀ a left, P a → f a (1 + padding pc + k) = ended ((g a left).map fun p => 1 + p.1)) :
    (do
      let (a, c) ← run (← switchOperands code pc)
      f a c.position) =
      ended (((do
        let _filler ← Reader.take (padding pc)
        let a ← r
        g a) operands).map fun p : Nat × Bytes => 1 + p.1) := by
  obtain ⟨inside, length⟩ := lt_of_drop here
  rw [switchOperands_eq fits here]
  show _ = ended (Except.map _
    (Reader.take (padding pc) operands >>= fun p => r p.2 >>= fun p => g p.1 p.2))
  rw [Reader.take_eq]
  split
  · rename_i enough
    let start : Cursor := ⟨opcode :: operands, 0⟩
    have valid : start.Valid := Cursor.valid_start (by rw [List.length_cons]; omega)
    have suffix : operands.drop (padding pc) <:+ start.rest :=
      (List.drop_suffix _ _).trans (List.suffix_cons opcode operands)
    obtain ⟨same, holds⟩ := refines _ (Cursor.valid_leaving valid (operands.drop (padding pc)))
    rw [Cursor.rest_leaving suffix] at same holds
    show (run (start.leaving (operands.drop (padding pc))) >>= fun p => f p.1 p.2.position) =
      ended (Except.map _ (r (operands.drop (padding pc)) >>= fun p => g p.1 p.2))
    rw [same]
    cases read : r (operands.drop (padding pc)) with
    | error e => rfl
    | ok p =>
      obtain ⟨a, left⟩ := p
      have taken := takes _ a left read
      rw [List.length_drop] at taken
      have position : (opcode :: operands).length - left.length = 1 + padding pc + k := by
        rw [List.length_cons]
        omega
      show f a ((opcode :: operands).length - left.length) = ended (Except.map _ (g a left))
      rw [position]
      exact last a left (holds a left read).2
  · rfl

theorem padding_lt (pc : Nat) : padding pc < 4 := Nat.mod_lt _ (by decide)

theorem tableSwitchLength_eq (fits : code.length < 2 ^ 63)
    (here : code.drop pc = opcode :: operands) : tableSwitchLength code pc =
      ended ((tableSwitchWidth pc operands).map fun p => 1 + p.1) := by
  let bounds : Reader (Int × Int) := do
    let _default ← signed4 <$> Reader.u4
    return (← signed4 <$> Reader.u4, ← signed4 <$> Reader.u4)
  let width (b : Int × Int) : Reader Nat := do
    if b.2 < b.1 then throw .tableSwitchBounds
    return padding pc + 12 + (b.2 - b.1 + 1).toNat * 4
  have refines : Refines tableBounds bounds
      fun b => (-0x80000000 ≤ b.1 ∧ b.1 < 0x80000000) ∧ -0x80000000 ≤ b.2 ∧ b.2 < 0x80000000 :=
    refines_i4.bind fun _ _ => refines_i4.bind fun _ low => refines_i4.bind fun _ high =>
      .pure ⟨low, high⟩
  have takes : Takes bounds 12 :=
    takes_bind takes_i4 fun _ => takes_bind takes_i4 fun _ => takes_bind takes_i4 fun _ =>
      takes_pure _
  have whole : tableSwitchWidth pc = Reader.take (padding pc) >>= fun _ => bounds >>= width := by
    simp only [tableSwitchWidth, bounds, width, map_eq_pure_bind, bind_assoc, pure_bind]
  have few := padding_lt pc
  rw [whole]
  refine switch_eq (f := tableEnd) (g := width) fits here refines takes ?_
  rintro ⟨low, high⟩ left ⟨⟨lowLeast, lowMost⟩, highLeast, highMost⟩
  simp only [tableEnd, width]
  split
  · rfl
  · -- at most 2 ^ 32 values lie between the bounds, with four bytes for each
    rename_i ordered
    rw [signedWord_of_fits (by omega), pure_bind, signedWord_of_fits (by omega), pure_bind,
      signedWord_of_fits (by omega), pure_bind, unsigned_of_nonneg (by omega), pure_bind,
      word_of_lt (by omega)]
    have total : 1 + padding pc + 12 + ((high - low + 1) * 4).toNat =
        1 + (padding pc + 12 + (high - low + 1).toNat * 4) := by omega
    rw [total]
    rfl

theorem lookupSwitchLength_eq (fits : code.length < 2 ^ 63)
    (here : code.drop pc = opcode :: operands) : lookupSwitchLength code pc =
      ended ((lookupSwitchWidth pc operands).map fun p => 1 + p.1) := by
  let number : Reader Int := do
    let _default ← signed4 <$> Reader.u4
    signed4 <$> Reader.u4
  let width (pairs : Int) : Reader Nat := do
    if pairs < 0 then throw .lookupSwitchPairs
    return padding pc + 8 + pairs.toNat * 8
  have refines : Refines lookupPairs number fun n => -0x80000000 ≤ n ∧ n < 0x80000000 :=
    refines_i4.bind fun _ _ => refines_i4
  have takes : Takes number 8 := takes_bind takes_i4 fun _ => takes_i4
  have whole : lookupSwitchWidth pc = Reader.take (padding pc) >>= fun _ => number >>= width := by
    simp only [lookupSwitchWidth, number, width, map_eq_pure_bind, bind_assoc, pure_bind]
  have few := padding_lt pc
  rw [whole]
  refine switch_eq (f := lookupEnd) (g := width) fits here refines takes ?_
  rintro pairs left ⟨least, most⟩
  simp only [lookupEnd, width]
  split
  · rfl
  · rename_i counted
    rw [unsigned_of_nonneg (by omega), pure_bind, word_of_lt (by omega), pure_bind,
      word_of_lt (by omega)]
    have total : 1 + padding pc + 8 + pairs.toNat * 8 =
        1 + (padding pc + 8 + pairs.toNat * 8) := by omega
    rw [total]
    rfl

theorem widened_eq (operands : Bytes) :
    (match operands.head? with
      | some b => return if b = Opcode.increment then 6 else 4
      | none => throw .unexpectedEnd : Guarded Nat) =
      ended ((widenedWidth operands).map fun p => 1 + p.1) := by
  cases operands with
  | nil => rfl
  | cons b rest =>
    have byte : Reader.u1 (b :: rest) = .ok (b.toNat, rest) := Reader.Reads.u1 b rest
    show _ = ended (Except.map _ (Reader.u1 (b :: rest) >>= fun p => _))
    rw [byte]
    by_cases increment : b = Opcode.increment
    · subst increment
      rfl
    · have other : b.toNat ≠ Opcode.increment.toNat := fun same =>
        increment (UInt8.toNat_inj.1 same)
      show pure (if b = Opcode.increment then 6 else 4) = ended (Except.map _
        ((if b.toNat = Opcode.increment.toNat then pure 5 else pure 3 : Reader Nat) rest))
      rw [if_neg increment, if_neg other]
      rfl

theorem lengthAt_eq (fits : code.length < 2 ^ 63) (here : code.drop pc = opcode :: operands) :
    lengthAt code pc opcode = ended ((width pc opcode operands).map fun p => 1 + p.1) := by
  obtain ⟨inside, length⟩ := lt_of_drop here
  unfold lengthAt width
  split
  · exact tableSwitchLength_eq fits here
  · split
    · exact lookupSwitchLength_eq fits here
    · split
      · have following : code[pc + 1]? = operands.head? := by
          rw [← List.getElem?_drop, here, List.getElem?_cons_succ, List.head?_eq_getElem?]
        rw [word_of_lt (by omega), pure_bind, following]
        exact widened_eq operands
      · cases Opcode.fixedWidth? opcode <;> rfl

theorem fixedWidth?_le {n : Nat} (fixed : Opcode.fixedWidth? opcode = some n) : n ≤ 4 := by
  have each : ∀ k < 256, (Opcode.fixedWidth? (UInt8.ofNat k)).all (· ≤ 4) = true := by
    decide +kernel
  have here := each opcode.toNat opcode.toNat_lt
  rw [UInt8.ofNat_toNat, fixed] at here
  exact of_decide_eq_true here

theorem width_lt {n : Nat} {left : Bytes} (read : width pc opcode operands = .ok (n, left)) :
    n < 2 ^ 40 := by
  have few := padding_lt pc
  have number {bytes rest : Bytes} {value : Nat} (read : Reader.u4 bytes = .ok (value, rest)) :
      -0x80000000 ≤ signed4 value ∧ signed4 value < 0x80000000 := signed4_bounds (of_u4 read).1
  unfold width at read
  split at read
  · obtain ⟨_, -, read⟩ := bind_eq_ok.1 read
    obtain ⟨_, -, read⟩ := bind_eq_ok.1 read
    obtain ⟨low, isLow, read⟩ := bind_eq_ok.1 read
    obtain ⟨high, isHigh, read⟩ := bind_eq_ok.1 read
    have lowBounds := number isLow
    have highBounds := number isHigh
    dsimp only at read
    split at read
    · cases read
    · cases read
      omega
  · split at read
    · obtain ⟨_, -, read⟩ := bind_eq_ok.1 read
      obtain ⟨_, -, read⟩ := bind_eq_ok.1 read
      obtain ⟨pairs, isCount, read⟩ := bind_eq_ok.1 read
      have bounds := number isCount
      dsimp only at read
      split at read
      · cases read
      · cases read
        omega
    · split at read
      · obtain ⟨first, -, read⟩ := bind_eq_ok.1 read
        dsimp only at read
        split at read <;> cases read <;> omega
      · cases fixed : Opcode.fixedWidth? opcode with
        | none =>
          rw [fixed] at read
          cases read
        | some k =>
          have narrow := fixedWidth?_le fixed
          rw [fixed] at read
          cases read
          omega

theorem decodeAt_eq (fits : code.length < 2 ^ 63) (here : code.drop pc = opcode :: operands) :
    decodeAt code pc = ended ((next pc opcode operands).map fun p => (p.1, 1 + p.2)) := by
  obtain ⟨inside, length⟩ := lt_of_drop here
  have first : code[pc]? = some opcode := by rw [← List.head?_drop, here, List.head?_cons]
  have after : code.drop (pc + 1) = operands := drop_of_drop here 0
  have valid : Cursor.Valid ⟨operands, 0⟩ := Cursor.valid_start (by omega)
  rw [decodeAt, item_of_getElem? first, pure_bind, word_of_lt (by omega), pure_bind,
    itemsFrom_of_le (by omega), pure_bind, after, (refines_instruction opcode _ valid).1, next,
    Cursor.rest_start]
  cases ofOpcode opcode operands with
  | error e => rfl
  | ok p =>
    obtain ⟨i, left⟩ := p
    show (lengthAt code pc opcode >>= fun n => _) =
      ended (Except.map _ (width pc opcode operands >>= fun p => _))
    rw [lengthAt_eq fits here]
    cases read : width pc opcode operands with
    | error e => rfl
    | ok q =>
      obtain ⟨n, last⟩ := q
      have small := width_lt read
      show (word 64 (pc + (1 + n)) >>= fun stop => do
        if code.length < stop then throw .unexpectedEnd
        return (i, 1 + n)) = ended (Except.map _ (do
          if operands.length < n then throw .unexpectedEnd
          return (i, n)))
      rw [word_of_lt (by omega), pure_bind]
      by_cases short : operands.length < n
      · rw [if_pos (by omega), if_pos short]
        rfl
      · rw [if_neg (by omega), if_neg short]
        rfl

theorem next_fits {i : Instruction} {n : Nat} (read : next pc opcode operands = .ok (i, n)) :
    n ≤ operands.length := by
  obtain ⟨_, -, read⟩ := bind_eq_ok.1 read
  obtain ⟨_, -, read⟩ := bind_eq_ok.1 read
  dsimp only at read
  split at read
  · cases read
  · rename_i enough
    cases read
    exact Nat.le_of_not_lt enough

end

/-! ### All instructions -/

theorem scanFrom_eq {code : Bytes} (fits : code.length < 2 ^ 63) {turns pc : Nat}
    (within : pc ≤ code.length) (enough : code.length - pc ≤ turns) :
    scanFrom code pc turns = .ok (streamFrom pc (code.drop pc)) := by
  -- each turn is over at least one byte, so there are as many turns as bytes are left
  induction turns generalizing pc with
  | zero =>
    rw [scanFrom, if_neg (by omega), List.drop_of_length_le (by omega), streamFrom]
    rfl
  | succ turns ih =>
    rw [scanFrom]
    split
    · rename_i more
      obtain ⟨opcode, operands, here⟩ := List.exists_cons_of_ne_nil
        (fun done => absurd (List.drop_eq_nil_iff.1 done) (Nat.not_le_of_lt more))
      obtain ⟨inside, length⟩ := lt_of_drop here
      rw [decodeAt_eq fits here, here, streamFrom]
      cases read : next pc opcode operands with
      | error e => rfl
      | ok p =>
        obtain ⟨i, n⟩ := p
        have reach := next_fits read
        show (word 64 (pc + (1 + n)) >>= fun next => scanFrom code next turns >>= fun rest => _) = _
        rw [word_of_lt (by omega), pure_bind, ih (by omega) (by omega), drop_of_drop here,
          ← Nat.add_assoc]
        rfl
    · rw [List.drop_of_length_le (by omega), streamFrom]
      rfl

theorem scan_eq {code : Bytes} (fits : code.length < 2 ^ 63) : scan code = .ok (stream code) :=
  scanFrom_eq fits (Nat.zero_le _) (Nat.le_refl _)

/-- Instructions that stand one after the other, each where it is decoded and as long as it is told,
from an offset to another. -/
inductive Tiles (code : Bytes) (stop : Nat) : Nat → List (Nat × Instruction) → Prop
  | done : Tiles code stop stop []
  | step {pc n : Nat} {i : Instruction} {items : List (Nat × Instruction)} :
      decodeAt code pc = ended (.ok (i, n)) → 0 < n → pc + n ≤ code.length →
        Tiles code stop (pc + n) items → Tiles code stop pc ((pc, i) :: items)

theorem Tiles.ascending {code : Bytes} {stop pc : Nat} {items : List (Nat × Instruction)}
    (tiles : Tiles code stop pc items) : pc ≤ stop ∧ (∀ item ∈ items, pc ≤ item.1) ∧
      (items.map Prod.fst ++ [stop]).Pairwise (· < ·) := by
  induction tiles with
  | done => exact ⟨Nat.le_refl _, nofun, List.pairwise_singleton _ _⟩
  | @step pc n i items _ positive _ _ ih =>
    obtain ⟨before, later, ascending⟩ := ih
    refine ⟨by omega, ?_, ?_⟩
    · intro item member
      rcases List.mem_cons.1 member with rfl | inside
      · exact Nat.le_refl pc
      · exact Nat.le_trans (Nat.le_add_right pc n) (later item inside)
    · rw [List.map_cons, List.cons_append, List.pairwise_cons]
      refine ⟨fun q member => ?_, ascending⟩
      rcases List.mem_append.1 member with inside | last
      · obtain ⟨item, isItem, rfl⟩ := List.mem_map.1 inside
        have := later item isItem
        omega
      · rw [List.mem_singleton.1 last]
        omega

/-- Where the scan of a code stops: at its end, or before an instruction that cannot be read. -/
def StopsAt (code : Bytes) (stop : Nat) : Option ClassFileError → Prop
  | none => stop = code.length
  | some e => stop < code.length ∧ decodeAt code stop = ended (.error e)

theorem exists_tiles {code : Bytes} (fits : code.length < 2 ^ 63) {pc : Nat}
    (within : pc ≤ code.length) : ∃ stop, StopsAt code stop (streamFrom pc (code.drop pc)).fault ∧
      Tiles code stop pc (streamFrom pc (code.drop pc)).items := by
  -- on the bytes that are left, since how many an instruction takes is known once it is read
  induction left : code.length - pc using Nat.strongRecOn generalizing pc with
  | ind _ ih =>
    cases here : code.drop pc with
    | nil =>
      have done := List.drop_eq_nil_iff.1 here
      rw [streamFrom]
      exact ⟨pc, Nat.le_antisymm within done, .done⟩
    | cons opcode operands =>
      obtain ⟨inside, length⟩ := lt_of_drop here
      have decoded := decodeAt_eq fits here
      rw [streamFrom]
      cases read : next pc opcode operands with
      | error e =>
        rw [read] at decoded
        exact ⟨pc, ⟨inside, decoded⟩, .done⟩
      | ok p =>
        obtain ⟨i, n⟩ := p
        have reach := next_fits read
        rw [read] at decoded
        obtain ⟨stop, stops, tiles⟩ := ih (code.length - (pc + (1 + n))) (by omega) (by omega) rfl
        rw [drop_of_drop here, ← Nat.add_assoc] at stops tiles
        exact ⟨stop, stops, .step decoded (by omega) (by omega) (Nat.add_assoc pc 1 n ▸ tiles)⟩

end Linkage.Addressed
