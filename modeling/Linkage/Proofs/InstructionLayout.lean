import Linkage.Proofs.Assembling

/-!
The instruction set and how code is laid out. Instructions follow one another from offset 0 on; each
is an opcode and its operands, and the operands of a switch start at a multiple of four after some
filler. Reading the code gives every instruction once, in order and at its own offset, as far as
linking is concerned, and nothing else (`Instruction.stream_laidOut`).
-/
namespace Linkage

/-! ### The instruction set -/

/-- The instructions in the order of their opcodes, with the three that are reserved for debuggers
and implementations at the end. -/
inductive Mnemonic where
  | nop | aconstNull | iconstM1 | iconst0 | iconst1 | iconst2 | iconst3 | iconst4 | iconst5
  | lconst0 | lconst1 | fconst0 | fconst1 | fconst2 | dconst0 | dconst1
  | bipush | sipush | ldc | ldcW | ldc2W
  | iload | lload | fload | dload | aload
  | iload0 | iload1 | iload2 | iload3 | lload0 | lload1 | lload2 | lload3
  | fload0 | fload1 | fload2 | fload3 | dload0 | dload1 | dload2 | dload3
  | aload0 | aload1 | aload2 | aload3
  | iaload | laload | faload | daload | aaload | baload | caload | saload
  | istore | lstore | fstore | dstore | astore
  | istore0 | istore1 | istore2 | istore3 | lstore0 | lstore1 | lstore2 | lstore3
  | fstore0 | fstore1 | fstore2 | fstore3 | dstore0 | dstore1 | dstore2 | dstore3
  | astore0 | astore1 | astore2 | astore3
  | iastore | lastore | fastore | dastore | aastore | bastore | castore | sastore
  | pop | pop2 | dup | dupX1 | dupX2 | dup2 | dup2X1 | dup2X2 | swap
  | iadd | ladd | fadd | dadd | isub | lsub | fsub | dsub | imul | lmul | fmul | dmul
  | idiv | ldiv | fdiv | ddiv | irem | lrem | frem | drem | ineg | lneg | fneg | dneg
  | ishl | lshl | ishr | lshr | iushr | lushr | iand | land | ior | lor | ixor | lxor
  | iinc
  | i2l | i2f | i2d | l2i | l2f | l2d | f2i | f2l | f2d | d2i | d2l | d2f | i2b | i2c | i2s
  | lcmp | fcmpl | fcmpg | dcmpl | dcmpg
  | ifeq | ifne | iflt | ifge | ifgt | ifle
  | ifIcmpeq | ifIcmpne | ifIcmplt | ifIcmpge | ifIcmpgt | ifIcmple | ifAcmpeq | ifAcmpne
  | goto | jsr | ret | tableswitch | lookupswitch
  | ireturn | lreturn | freturn | dreturn | areturn | returnVoid
  | getstatic | putstatic | getfield | putfield
  | invokevirtual | invokespecial | invokestatic | invokeinterface | invokedynamic
  | new | newarray | anewarray | arraylength | athrow | checkcast | instanceof
  | monitorenter | monitorexit | wide | multianewarray | ifnull | ifnonnull | gotoW | jsrW
  | breakpoint | impdep1 | impdep2
  deriving DecidableEq, Repr

namespace Mnemonic

/-- The opcode of an instruction. -/
def opcode : Mnemonic → UInt8
  | .impdep1 => 0xfe
  | .impdep2 => 0xff
  | m => UInt8.ofNat m.ctorIdx

example : opcode .iinc = 0x84 ∧ opcode .tableswitch = 0xaa ∧ opcode .jsrW = 0xc9 := by decide

/-- The width of the operands of an instruction that refers to no constant by which it links, where
it does not depend on the operands. -/
def plainWidth? : Mnemonic → Option Nat
  | .bipush | .iload | .lload | .fload | .dload | .aload | .istore | .lstore | .fstore | .dstore
  | .astore | .ret | .newarray => some 1
  | .sipush | .iinc | .ifeq | .ifne | .iflt | .ifge | .ifgt | .ifle | .ifIcmpeq | .ifIcmpne
  | .ifIcmplt | .ifIcmpge | .ifIcmpgt | .ifIcmple | .ifAcmpeq | .ifAcmpne | .goto | .jsr | .new
  | .anewarray | .checkcast | .instanceof | .ifnull | .ifnonnull => some 2
  | .multianewarray => some 3
  | .gotoW | .jsrW => some 4
  | .ldc | .ldcW | .ldc2W | .getstatic | .putstatic | .getfield | .putfield | .invokevirtual
  | .invokespecial | .invokestatic | .invokeinterface | .invokedynamic | .tableswitch
  | .lookupswitch | .wide => none
  | _ => some 0

end Mnemonic

/-- An instruction with its operands. -/
inductive Bytecode where
  /-- An instruction that makes no symbolic link, with operands of a fixed width. -/
  | plain (m : Mnemonic) (operands : Bytes) (width : m.plainWidth? = some operands.length)
  | ldc (index : UInt8)
  | ldcWide (index : UInt16)
  | ldcDouble (index : UInt16)
  | access (kind : AccessKind) (index : UInt16)
  /-- After the index of an interface method stand a count and a zero. -/
  | invoke (kind : InvokeKind) (index : UInt16) (more : Bytes)
    (width : more.length = if kind = .interface then 2 else 0)
  /-- After the index of a dynamic call stand two zeros. -/
  | invokeDynamic (index : UInt16) (more : Bytes) (width : more.length = 2)
  /-- A jump for each number between two bounds. -/
  | tableSwitch (default low high : Int32) (jumps : List Int32) (bounds : low ≤ high)
    (count : (jumps.length : Int) = high.toInt - low.toInt + 1)
  /-- Pairs of a number and a jump. -/
  | lookupSwitch (default : Int32) (pairs : List (Int32 × Int32)) (count : pairs.length < 2 ^ 31)
  /-- An instruction on a variable with an index of two bytes. -/
  | widened (m : Mnemonic) (index : UInt16) (other : m ≠ .iinc)
  | widenedIncrement (index amount : UInt16)

namespace Bytecode

/-- The mnemonic that tells the opcode. -/
def mnemonic : Bytecode → Mnemonic
  | .plain m _ _ => m
  | .ldc _ => .ldc
  | .ldcWide _ => .ldcW
  | .ldcDouble _ => .ldc2W
  | .access .getStatic _ => .getstatic
  | .access .putStatic _ => .putstatic
  | .access .getField _ => .getfield
  | .access .putField _ => .putfield
  | .invoke .virtual _ _ _ => .invokevirtual
  | .invoke .special _ _ _ => .invokespecial
  | .invoke .static _ _ _ => .invokestatic
  | .invoke .interface _ _ _ => .invokeinterface
  | .invokeDynamic _ _ _ => .invokedynamic
  | .tableSwitch _ _ _ _ _ _ => .tableswitch
  | .lookupSwitch _ _ _ => .lookupswitch
  | .widened _ _ _ | .widenedIncrement _ _ => .wide

/-- A number in four bytes, in two's complement. -/
def ofInt32 (n : Int32) : Bytes := Bytes.ofNat4 n.toUInt32.toNat

/-- The operands, those of a switch after filler. -/
def operands (filler : Bytes) : Bytecode → Bytes
  | .plain _ operands _ => operands
  | .ldc index => [index]
  | .ldcWide index | .ldcDouble index | .access _ index => Bytes.ofNat2 index.toNat
  | .invoke _ index more _ | .invokeDynamic index more _ => Bytes.ofNat2 index.toNat ++ more
  | .tableSwitch default low high jumps _ _ =>
    filler ++ ofInt32 default ++ ofInt32 low ++ ofInt32 high ++ jumps.flatMap ofInt32
  | .lookupSwitch default pairs _ =>
    filler ++ ofInt32 default ++ Bytes.ofNat4 pairs.length ++
      pairs.flatMap fun p => ofInt32 p.1 ++ ofInt32 p.2
  | .widened m index _ => m.opcode :: Bytes.ofNat2 index.toNat
  | .widenedIncrement index amount =>
    Mnemonic.opcode .iinc :: (Bytes.ofNat2 index.toNat ++ Bytes.ofNat2 amount.toNat)

/-- What an instruction is to linking. -/
def link (b : Bytecode) : Instruction :=
  match b with
  | .ldc index => .loadConstant index.toNat
  | .ldcWide index | .ldcDouble index => .loadConstant index.toNat
  | .access _ index => .access b.mnemonic.opcode index.toNat
  | .invoke _ index _ _ => .invoke b.mnemonic.opcode index.toNat
  | .invokeDynamic index _ _ => .invokeDynamic index.toNat
  | _ => .other

/-- The bytes are those of the instruction at an offset: if it is a switch, filler of at most three
bytes makes its operands start at a multiple of four. -/
def LaidOutAt (pc : Nat) (b : Bytecode) (bytes : Bytes) : Prop :=
  ∃ filler : Bytes, filler.length < 4 ∧ 4 ∣ pc + 1 + filler.length ∧
    bytes = b.mnemonic.opcode :: b.operands filler

/-- Instructions with their bytes are laid out one after the other from an offset on. -/
def LaidOut (pc : Nat) : List (Bytecode × Bytes) → Prop
  | [] => True
  | (b, bytes) :: rest => b.LaidOutAt pc bytes ∧ LaidOut (pc + bytes.length) rest

/-- What instructions are to linking, each at the offset where those before it end. -/
def placed (pc : Nat) : List (Bytecode × Bytes) → List (Nat × Instruction)
  | [] => []
  | (b, bytes) :: rest => (pc, b.link) :: placed (pc + bytes.length) rest

end Bytecode

/-! ### Reading -/

namespace Mnemonic

theorem fixedWidth?_opcode {m : Mnemonic} {n : Nat} (plain : m.plainWidth? = some n) :
    Opcode.fixedWidth? m.opcode = some n := by
  cases m <;> cases plain <;> rfl

theorem ofOpcode_opcode {m : Mnemonic} {n : Nat} (plain : m.plainWidth? = some n) :
    Instruction.ofOpcode m.opcode = pure .other := by
  cases m <;> cases plain <;> rfl

theorem opcode_ne_increment {m : Mnemonic} (other : m ≠ .iinc) : m.opcode ≠ Opcode.increment := by
  revert other
  cases m <;> decide

end Mnemonic

namespace Bytecode
open Instruction Reader

theorem signed4_toNat (n : Int32) : signed4 n.toUInt32.toNat = n.toInt := by
  have cases := BitVec.toInt_eq_toNat_cond n.toBitVec
  have same : n.toUInt32.toNat = n.toBitVec.toNat := rfl
  rw [signed4, same, Int32.toInt, cases]
  split <;> split <;> omega

theorem reads_int32 (n : Int32) : Reads u4 (ofInt32 n) n.toUInt32.toNat :=
  Reads.u4_of_lt n.toUInt32.toNat_lt

theorem length_filler {pc : Nat} {filler : Bytes} (short : filler.length < 4)
    (aligned : 4 ∣ pc + 1 + filler.length) : filler.length = padding pc := by
  unfold padding
  omega

theorem reads_tableSwitchWidth {pc : Nat} {filler : Bytes} {low high : Int32} (default : Int32)
    (length : filler.length = padding pc) (bounds : low ≤ high) :
    Reads (tableSwitchWidth pc) (filler ++ ofInt32 default ++ ofInt32 low ++ ofInt32 high)
      (padding pc + 12 + (high.toInt - low.toInt + 1).toNat * 4) := by
  have ordered : ¬ high.toInt < low.toInt := by
    rw [Int32.le_iff_toInt_le] at bounds
    omega
  have reads : Reads (tableSwitchWidth pc)
      (filler ++ (ofInt32 default ++ (ofInt32 low ++ (ofInt32 high ++ []))))
      (padding pc + 12 + (high.toInt - low.toInt + 1).toNat * 4) := by
    unfold tableSwitchWidth
    refine (Reads.take length).bind ((reads_int32 default).bind ((reads_int32 low).bind
      ((reads_int32 high).bind ?_)))
    rw [signed4_toNat, signed4_toNat, if_neg ordered]
    exact Reads.pure _
  simpa only [List.append_assoc, List.append_nil] using reads

theorem reads_lookupSwitchWidth {pc : Nat} {filler : Bytes} {count : Nat} (default : Int32)
    (length : filler.length = padding pc) (few : count < 2 ^ 31) :
    Reads (lookupSwitchWidth pc) (filler ++ ofInt32 default ++ Bytes.ofNat4 count)
      (padding pc + 8 + count * 8) := by
  have positive : signed4 count = count := if_pos (by omega)
  have reads : Reads (lookupSwitchWidth pc)
      (filler ++ (ofInt32 default ++ (Bytes.ofNat4 count ++ []))) (padding pc + 8 + count * 8) := by
    unfold lookupSwitchWidth
    refine (Reads.take length).bind ((reads_int32 default).bind
      ((Reads.u4_of_lt (by omega)).bind ?_))
    rw [positive, if_neg (by omega)]
    exact Reads.pure _
  simpa only [List.append_assoc, List.append_nil] using reads

theorem reads_widenedWidth (opcode : UInt8) :
    Reads widenedWidth [opcode] (if opcode = Opcode.increment then 5 else 3) := by
  have decided : Reads (if opcode.toNat = Opcode.increment.toNat then pure 5 else pure 3) []
      (if opcode = Opcode.increment then 5 else 3) := by
    simp only [UInt8.toNat_inj]
    split <;> exact Reads.pure _
  exact (Reads.u1 opcode).bind decided

/-- An instruction whose first operands tell how many there are. -/
theorem next_of_reads {pc n : Nat} {opcode : UInt8} {front back : Bytes}
    (other : ofOpcode opcode = pure .other) (told : Reads (width pc opcode) front n)
    (length : (front ++ back).length = n) (rest : Bytes) :
    next pc opcode (front ++ back ++ rest) = .ok (.other, (front ++ back).length) := by
  have read : ofOpcode opcode (front ++ back ++ rest) = .ok (.other, front ++ back ++ rest) := by
    rw [other]
    rfl
  have width : width pc opcode (front ++ back ++ rest) = .ok (n, back ++ rest) := by
    rw [List.append_assoc]
    exact told (back ++ rest)
  rw [← length] at width
  exact next_of_width read width

/-- Where its operands start at a multiple of four, an instruction is read off its bytes. -/
theorem next_laidOut {pc : Nat} {filler : Bytes} (short : filler.length < 4)
    (aligned : 4 ∣ pc + 1 + filler.length) (b : Bytecode) (rest : Bytes) :
    next pc b.mnemonic.opcode (b.operands filler ++ rest) =
      .ok (b.link, (b.operands filler).length) := by
  have filled := length_filler short aligned
  cases b with
  | plain m operands width =>
    have read : ofOpcode m.opcode (operands ++ rest) = .ok (.other, operands ++ rest) := by
      rw [Mnemonic.ofOpcode_opcode width]
      rfl
    exact next_eq_ok (Mnemonic.fixedWidth?_opcode width) read
  | ldc index => exact next_eq_ok rfl ((Reads.u1 index).map rest)
  | ldcWide index => exact next_index rfl index.toNat_lt [] rfl pc rest
  | ldcDouble index => exact next_index rfl index.toNat_lt [] rfl pc rest
  | access kind index =>
    cases kind <;> exact next_index rfl index.toNat_lt [] rfl pc rest
  | invoke kind index more width =>
    cases kind <;> exact next_index rfl index.toNat_lt more (width ▸ rfl) pc rest
  | invokeDynamic index more width =>
    exact next_index rfl index.toNat_lt more (by rw [width]; rfl) pc rest
  | tableSwitch default low high jumps bounds count =>
    have told : Reads (width pc (Mnemonic.opcode .tableswitch)) _ _ :=
      reads_tableSwitchWidth default filled bounds
    refine next_of_reads rfl told ?_ rest
    simp only [List.length_append, List.length_flatMap, filled, ofInt32, Bytes.length_ofNat4,
      List.map_const', List.sum_replicate_nat]
    omega
  | lookupSwitch default pairs count =>
    have told : Reads (width pc (Mnemonic.opcode .lookupswitch)) _ _ :=
      reads_lookupSwitchWidth default filled count
    refine next_of_reads rfl told ?_ rest
    simp only [List.length_append, List.length_flatMap, filled, ofInt32, Bytes.length_ofNat4,
      List.map_const', List.sum_replicate_nat]
  | widened m index other =>
    have told : Reads (width pc (Mnemonic.opcode .wide)) [m.opcode] _ :=
      reads_widenedWidth m.opcode
    rw [if_neg (Mnemonic.opcode_ne_increment other)] at told
    exact next_of_reads rfl told rfl rest
  | widenedIncrement index amount =>
    have told : Reads (width pc (Mnemonic.opcode .wide)) [Opcode.increment] _ :=
      reads_widenedWidth Opcode.increment
    exact next_of_reads rfl told rfl rest

theorem streamFrom_laidOut {pc : Nat} {program : List (Bytecode × Bytes)}
    (laidOut : LaidOut pc program) :
    streamFrom pc (program.flatMap Prod.snd) = ⟨placed pc program, none⟩ := by
  induction program generalizing pc with
  | nil => rw [List.flatMap_nil, streamFrom, placed]
  | cons first rest ih =>
    obtain ⟨b, bytes⟩ := first
    obtain ⟨⟨filler, short, aligned, rfl⟩, others⟩ := laidOut
    have later := ih others
    have offset : pc + (b.mnemonic.opcode :: b.operands filler).length =
        pc + 1 + (b.operands filler).length := by
      rw [List.length_cons]
      omega
    rw [offset] at later
    rw [List.flatMap_cons, List.cons_append, streamFrom_cons (next_laidOut short aligned b _), later,
      placed, offset]

theorem mem_placed {pc q : Nat} {program : List (Bytecode × Bytes)} {i : Instruction} :
    (q, i) ∈ placed pc program ↔ ∃ before b bytes after, program = before ++ (b, bytes) :: after ∧
      q = pc + (before.flatMap Prod.snd).length ∧ i = b.link := by
  induction program generalizing pc with
  | nil => simp [placed]
  | cons first rest ih =>
    obtain ⟨b, bytes⟩ := first
    rw [placed, List.mem_cons, ih]
    constructor
    · rintro (here | ⟨before, c, bytes', after, rfl, rfl, rfl⟩)
      · cases here
        exact ⟨[], b, bytes, rest, rfl, rfl, rfl⟩
      · refine ⟨(b, bytes) :: before, c, bytes', after, rfl, ?_, rfl⟩
        rw [List.flatMap_cons, List.length_append, Nat.add_assoc]
    · rintro ⟨before, c, bytes', after, same, rfl, rfl⟩
      cases before with
      | nil =>
        cases same
        exact .inl rfl
      | cons first before =>
        cases same
        refine .inr ⟨before, c, bytes', after, rfl, ?_, rfl⟩
        rw [List.flatMap_cons, List.length_append, Nat.add_assoc]

end Bytecode

open Bytecode in
/-- Code that is laid out is read to its end: one item for each instruction, in order, at the offset
where the bytes before it end, with what the instruction is to linking. No item stands anywhere
else, whatever the operands look like. -/
theorem Instruction.stream_laidOut (program : List (Bytecode × Bytes))
    (laidOut : LaidOut 0 program) :
    stream (program.flatMap Prod.snd) = ⟨placed 0 program, none⟩ ∧
    ∀ pc i, (pc, i) ∈ (stream (program.flatMap Prod.snd)).items ↔
      ∃ before b bytes after, program = before ++ (b, bytes) :: after ∧
        pc = (before.flatMap Prod.snd).length ∧ i = b.link := by
  have whole : stream (program.flatMap Prod.snd) = ⟨placed 0 program, none⟩ :=
    streamFrom_laidOut laidOut
  refine ⟨whole, fun pc i => ?_⟩
  rw [whole, mem_placed]
  simp only [Nat.zero_add]

/-- A number that looks like an opcode, two switches with filler and two widened instructions before
a call. -/
def Sample.bytecode : List (Bytecode × Bytes) :=
  [(.plain .bipush [0xb8] rfl, [0x10, 0xb8]),
    (.tableSwitch 16 (-1) 0 [16, 0xb8] (by decide) (by decide),
      [0xaa, 0, 0, 0, 0, 16, 0xff, 0xff, 0xff, 0xff, 0, 0, 0, 0, 0, 0, 0, 16, 0, 0, 0, 0xb8]),
    (.lookupSwitch 16 [(5, 16)] (by decide),
      [0xab, 0, 0, 0, 0, 0, 0, 16, 0, 0, 0, 1, 0, 0, 0, 5, 0, 0, 0, 16]),
    (.widenedIncrement 0x100 1, [0xc4, 0x84, 1, 0, 0, 1]),
    (.widened .iload 0x100 (by decide), [0xc4, 0x15, 1, 0]),
    (.invoke .static 9 [] rfl, [0xb8, 0, 9])]

/-- Only the call refers to a constant. -/
theorem Sample.stream_laidOut_bytecode : Bytecode.LaidOut 0 bytecode ∧
    Instruction.stream (bytecode.flatMap Prod.snd) =
      ⟨[(0, .other), (2, .other), (24, .other), (44, .other), (50, .other), (54, .invoke 0xb8 9)],
        none⟩ := by
  have laidOut : Bytecode.LaidOut 0 bytecode :=
    ⟨⟨[0, 0, 0], by decide, by decide, rfl⟩, ⟨[0], by decide, by decide, rfl⟩,
      ⟨[0, 0, 0], by decide, by decide, rfl⟩, ⟨[0, 0, 0], by decide, by decide, rfl⟩,
      ⟨[0], by decide, by decide, rfl⟩, ⟨[0], by decide, by decide, rfl⟩, trivial⟩
  exact ⟨laidOut, (Instruction.stream_laidOut bytecode laidOut).1⟩

end Linkage
