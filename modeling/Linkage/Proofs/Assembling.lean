import Linkage.ClassFile.Source
import Linkage.Proofs.Interning

/-!
Instructions written and read back. An instruction of a description refers to a constant of the pool
(`Operation.Refers`), which tells its bytes; the instructions read off the bytes of a list are those
of the list, each at the offset where those before it end (`Instruction.streamFrom_bytes`).
-/
namespace Linkage
open Interning Reader

/-! ### Writing -/

namespace Operation

/-- The bytes of an instruction that refers to a constant. -/
def bytes : Operation → Nat → Bytes
  | .plain opcode, _ => [opcode]
  | .invoke kind _, index =>
    kind.opcode :: Bytes.ofNat2 index ++ if kind = .interface then [1, 0] else []
  | .access kind _, index => kind.opcode :: Bytes.ofNat2 index
  | .loadClass _, index => Opcode.ldcWide :: Bytes.ofNat2 index
  | .loadString _, index => Opcode.ldcWide :: Bytes.ofNat2 index
  | .invokeDynamic _ _ _, index => Opcode.invokeDynamic :: Bytes.ofNat2 index ++ [0, 0]

/-- What is read of an instruction that refers to a constant. -/
def instruction : Operation → Nat → Instruction
  | .plain _, _ => .other
  | .invoke kind _, index => .invoke kind.opcode index
  | .access kind _, index => .access kind.opcode index
  | .loadClass _, index => .loadConstant index
  | .loadString _, index => .loadConstant index
  | .invokeDynamic _ _ _, index => .invokeDynamic index

/-- The handles that an instruction binds, if it makes a dynamic call. -/
def handles? : Operation → Option (List Handle)
  | .invokeDynamic _ _ handles => some handles
  | _ => none

end Operation

/-- The arguments of a bootstrap method are a method type and some handles. -/
structure HoldsBootstrap (pool : List PoolEntry) (handles : List Handle) (b : Image.Bootstrap) :
    Prop where
  method : ∃ e, Holds pool b.method e
  arguments : ∃ type rest, b.arguments = type :: rest ∧ (∃ d, Holds pool type (.methodType d)) ∧
    List.Forall₂ (fun h index => HoldsHandle pool index h) handles rest

/-- The constant with an index is what an instruction refers to, and the number of a dynamic call is
that of its bootstrap method. -/
def Operation.Refers (pool : List PoolEntry) (bootstraps : List Image.Bootstrap) :
    Operation → Nat → Prop
  | .plain _, index => index = 0
  | .invoke _ m, index => HoldsMember pool index m
  | .access _ m, index => HoldsMember pool index m
  | .loadClass name, index => HoldsClass pool index name
  | .loadString _, index => ∃ t, Holds pool index (.string t)
  | .invokeDynamic _ _ handles, index => ∃ k n b, Holds pool index (.invokeDynamic k n) ∧
      bootstraps[k]? = some b ∧ HoldsBootstrap pool handles b

theorem Operation.length_bytes (o : Operation) (index : Nat) : (o.bytes index).length = o.size := by
  cases o with
  | invoke kind m => cases kind <;> rfl
  | _ => rfl

theorem Operation.Refers.lt {pool : List PoolEntry} {bootstraps : List Image.Bootstrap} {o : Operation}
    {index : Nat} (sound : Sound pool) (refers : o.Refers pool bootstraps index) : index < 2 ^ 16 := by
  cases o with
  | plain opcode =>
    cases refers
    decide
  | invoke kind m => exact sound.lt_member refers
  | access kind m => exact sound.lt_member refers
  | loadClass name => exact sound.lt_class refers
  | loadString units =>
    obtain ⟨_, here⟩ := refers
    exact sound.lt here
  | invokeDynamic name descriptor handles =>
    obtain ⟨_, _, _, here, _⟩ := refers
    exact sound.lt here

/-- Instructions are written one after the other, each with the constant that it refers to. -/
def Written (pool : List PoolEntry) (bootstraps : List Image.Bootstrap) (os : List Operation)
    (bytes : Bytes) : Prop :=
  ∃ written : List (Operation × Nat), written.map Prod.fst = os ∧
    (∀ w ∈ written, w.1.Refers pool bootstraps w.2) ∧
    bytes = written.flatMap fun w => w.1.bytes w.2

theorem Written.length {pool : List PoolEntry} {bootstraps : List Image.Bootstrap}
    {os : List Operation} {bytes : Bytes} (written : Written pool bootstraps os bytes) :
    bytes.length = (os.map Operation.size).sum := by
  obtain ⟨ws, rfl, -, rfl⟩ := written
  simp [List.length_flatMap, Operation.length_bytes, Function.comp_def]

/-- Bootstrap methods that bind some handles come after those already there, and something is right
with every list of bootstrap methods that begins with them. -/
structure Binds (pool : List PoolEntry) (before after : List Image.Bootstrap)
    (handles : List (List Handle)) (P : List Image.Bootstrap → Prop) : Prop where
  added : ∃ new, after = before ++ new ∧ List.Forall₂ (HoldsBootstrap pool) handles new
  given : ∀ all, after <+: all → P all

namespace Binds
variable {pool : List PoolEntry} {before middle after : List Image.Bootstrap}
  {handles more : List (List Handle)} {P Q : List Image.Bootstrap → Prop}

theorem refl (given : ∀ all, P all) : Binds pool before before [] P :=
  ⟨⟨[], by simp⟩, fun all _ => given all⟩

theorem trans (first : Binds pool before middle handles P) (second : Binds pool middle after more Q) :
    Binds pool before after (handles ++ more) fun all => P all ∧ Q all := by
  obtain ⟨new, rfl, bound⟩ := first.added
  obtain ⟨later, rfl, others⟩ := second.added
  refine ⟨⟨new ++ later, List.append_assoc .., List.rel_append bound others⟩, fun all longer => ?_⟩
  exact ⟨first.given all ((List.prefix_append _ _).trans longer), second.given all longer⟩

theorem imp (binds : Binds pool before after handles P) (weaker : ∀ all, P all → Q all) :
    Binds pool before after handles Q :=
  ⟨binds.added, fun all longer => weaker all (binds.given all longer)⟩

end Binds

namespace Interning.Grows
open ClassSource

theorem handleIndex (h : Handle) :
    Grows (handleIndex h) fun final index => HoldsHandle final index h := by
  unfold ClassSource.handleIndex methodHandle
  dsimp only
  split
  · exact (fieldRef h.target).bind fun r =>
      (intern (by rfl)).imp fun _ _ here member => ⟨r, here, member⟩
  · exact (methodRef h.target _).bind fun r =>
      (intern (by rfl)).imp fun _ _ here member => ⟨r, here, member⟩

theorem bootstrap (handles : List Handle) :
    Grows (bootstrap handles) fun final b => HoldsBootstrap final handles b := by
  unfold ClassSource.bootstrap methodHandle
  refine (methodRef metafactory false).bind fun r => (intern (by rfl)).bind fun method => ?_
  refine (methodType "()V").bind fun type => (mapM fun h _ => handleIndex h).map ?_
  exact fun final rest bound isType held _ =>
    ⟨⟨_, held⟩, type, rest, rfl, isType.imp fun _ => And.left, bound⟩

theorem emit (bootstraps : List Image.Bootstrap) (o : Operation) :
    Grows (emit bootstraps o) fun final result =>
      Binds final bootstraps result.2 o.handles?.toList fun all =>
        ∃ index, o.Refers final all index ∧ result.1 = o.bytes index := by
  cases o with
  | plain opcode => exact pure fun final => .refl fun all => ⟨0, rfl, rfl⟩
  | invoke kind m =>
    exact (methodRef m _).map fun final index member => .refl fun all => ⟨index, member, rfl⟩
  | access kind m =>
    exact (fieldRef m).map fun final index member => .refl fun all => ⟨index, member, rfl⟩
  | loadClass name =>
    exact (className name).map fun final index named => .refl fun all => ⟨index, named, rfl⟩
  | loadString units =>
    exact (string units).map fun final index text => .refl fun all =>
      ⟨index, text.imp fun _ => And.left, rfl⟩
  | invokeDynamic name descriptor handles =>
    refine (bootstrap handles).bind fun b => (invokeDynamic bootstraps.length name descriptor).map ?_
    rintro final index ⟨n, held, -⟩ bound
    refine ⟨⟨[b], rfl, .cons bound .nil⟩, fun all longer => ⟨index, ⟨_, n, b, held, ?_, bound⟩, rfl⟩⟩
    obtain ⟨more, rfl⟩ := longer
    simp

theorem assemble (bootstraps : List Image.Bootstrap) (os : List Operation) :
    Grows (assemble bootstraps os) fun final result =>
      Binds final bootstraps result.2 (os.flatMap (·.handles?.toList)) fun all =>
        Written final all os result.1 := by
  induction os generalizing bootstraps with
  | nil => exact pure fun final => .refl fun all => ⟨[], by simp⟩
  | cons o os ih =>
    refine (emit bootstraps o).bind fun first => (ih first.2).map ?_
    intro final rest others here
    refine (here.trans others).imp ?_
    rintro all ⟨⟨index, refers, bytes⟩, written, same, each, more⟩
    refine ⟨(o, index) :: written, by rw [List.map_cons, same], ?_, ?_⟩
    · rintro w (_ | ⟨_, member⟩)
      · exact refers
      · exact each w member
    · rw [List.flatMap_cons, ← bytes, ← more]

end Interning.Grows

/-! ### Reading -/

namespace Instruction

/-- An instruction that can be read stands first in the stream. -/
theorem streamFrom_cons {pc : Nat} {opcode : UInt8} {operands rest : Bytes} {i : Instruction}
    (read : next pc opcode (operands ++ rest) = .ok (i, operands.length)) :
    streamFrom pc (opcode :: (operands ++ rest)) =
      let later := streamFrom (pc + 1 + operands.length) rest
      ⟨(pc, i) :: later.items, later.fault⟩ := by
  rw [streamFrom, read]
  simp

/-- An instruction is read off its first operands if their width is told. -/
theorem next_of_width {pc : Nat} {opcode : UInt8} {operands rest left last : Bytes} {i : Instruction}
    (read : ofOpcode opcode (operands ++ rest) = .ok (i, left))
    (told : width pc opcode (operands ++ rest) = .ok (operands.length, last)) :
    next pc opcode (operands ++ rest) = .ok (i, operands.length) := by
  have enough : ¬ (operands ++ rest).length < operands.length := by simp
  rw [next, read]
  simp only [bind, Except.bind, told, if_neg enough]
  rfl

/-- An instruction with operands of fixed width is read off its first operands. -/
theorem next_eq_ok {pc : Nat} {opcode : UInt8} {operands rest left : Bytes} {i : Instruction}
    (fixed : Opcode.fixedWidth? opcode = some operands.length)
    (read : ofOpcode opcode (operands ++ rest) = .ok (i, left)) :
    next pc opcode (operands ++ rest) = .ok (i, operands.length) := by
  have notTable : opcode ≠ Opcode.tableSwitch := by
    rintro rfl
    cases fixed
  have notLookup : opcode ≠ Opcode.lookupSwitch := by
    rintro rfl
    cases fixed
  have notWide : opcode ≠ Opcode.wide := by
    rintro rfl
    cases fixed
  have width : width pc opcode (operands ++ rest) = .ok (operands.length, operands ++ rest) := by
    rw [Instruction.width, if_neg notTable, if_neg notLookup, if_neg notWide, fixed]
    rfl
  exact next_of_width read width

/-- An opcode without operands makes no symbolic link. -/
theorem ofOpcode_plain {opcode : UInt8} (plain : Opcode.fixedWidth? opcode = some 0) (bytes : Bytes) :
    ofOpcode opcode bytes = .ok (.other, bytes) := by
  have other : ∀ named : UInt8, Opcode.fixedWidth? named ≠ some 0 → opcode ≠ named := by
    rintro named wide rfl
    exact wide plain
  have links : opcode ≠ Opcode.invokeVirtual ∧ opcode ≠ Opcode.invokeSpecial ∧
      opcode ≠ Opcode.invokeStatic ∧ opcode ≠ Opcode.invokeInterface ∧ opcode ≠ Opcode.getStatic ∧
      opcode ≠ Opcode.putStatic ∧ opcode ≠ Opcode.getField ∧ opcode ≠ Opcode.putField ∧
      opcode ≠ Opcode.invokeDynamic ∧ opcode ≠ Opcode.ldc ∧ opcode ≠ Opcode.ldcWide ∧
      opcode ≠ Opcode.ldcDouble := by
    refine ⟨?_, ?_, ?_, ?_, ?_, ?_, ?_, ?_, ?_, ?_, ?_, ?_⟩ <;> exact other _ (by decide)
  have body : ofOpcode opcode = pure .other := by
    simp [ofOpcode, Opcode.isInvoke, Opcode.isAccess, links]
  rw [body]
  rfl

/-- An opcode with an index and perhaps some more. -/
theorem next_index {opcode : UInt8} {f : Nat → Instruction} {index : Nat}
    (body : ofOpcode opcode = u2 >>= fun i => pure (f i)) (fits : index < 2 ^ 16) (more : Bytes)
    (fixed : Opcode.fixedWidth? opcode = some (2 + more.length)) (pc : Nat) (rest : Bytes) :
    next pc opcode (Bytes.ofNat2 index ++ more ++ rest) =
      .ok (f index, (Bytes.ofNat2 index ++ more).length) := by
  have length : (Bytes.ofNat2 index ++ more).length = 2 + more.length := by simp
  have read : ofOpcode opcode (Bytes.ofNat2 index ++ more ++ rest) = .ok (f index, more ++ rest) := by
    rw [body, List.append_assoc]
    exact (Reads.u2_of_lt fits).map (more ++ rest)
  exact next_eq_ok (length.symm ▸ fixed) read

private theorem streamFrom_index {opcode : UInt8} {f : Nat → Instruction} {index : Nat}
    (body : ofOpcode opcode = u2 >>= fun i => pure (f i)) (fits : index < 2 ^ 16) (more : Bytes)
    (fixed : Opcode.fixedWidth? opcode = some (2 + more.length)) (pc : Nat) (rest : Bytes) :
    streamFrom pc ((opcode :: Bytes.ofNat2 index ++ more) ++ rest) =
      let later := streamFrom (pc + (3 + more.length)) rest
      ⟨(pc, f index) :: later.items, later.fault⟩ := by
  have offset : pc + 1 + (Bytes.ofNat2 index ++ more).length = pc + (3 + more.length) := by
    simp only [List.length_append, Bytes.length_ofNat2]
    omega
  rw [List.cons_append, List.cons_append, streamFrom_cons (next_index body fits more fixed pc rest),
    offset]

/-- The first instruction of a stream, written with the constant that it refers to. -/
private theorem streamFrom_operation {o : Operation} {index : Nat} (fits : index < 2 ^ 16)
    (valid : ∀ opcode, o = .plain opcode → Opcode.fixedWidth? opcode = some 0) (pc : Nat)
    (rest : Bytes) :
    streamFrom pc (o.bytes index ++ rest) =
      let later := streamFrom (pc + o.size) rest
      ⟨(pc, o.instruction index) :: later.items, later.fault⟩ := by
  cases o with
  | plain opcode =>
    have plain := valid opcode rfl
    have read : next pc opcode ([] ++ rest) = .ok (.other, 0) :=
      next_eq_ok plain (ofOpcode_plain plain _)
    exact streamFrom_cons read
  | invoke kind m =>
    cases kind with
    | interface => exact streamFrom_index rfl fits [1, 0] rfl pc rest
    | _ => exact streamFrom_index rfl fits [] rfl pc rest
  | access kind m =>
    cases kind <;> exact streamFrom_index rfl fits [] rfl pc rest
  | loadClass name => exact streamFrom_index rfl fits [] rfl pc rest
  | loadString units => exact streamFrom_index rfl fits [] rfl pc rest
  | invokeDynamic name descriptor handles => exact streamFrom_index rfl fits [0, 0] rfl pc rest

/-- Instructions with the constants they refer to, each at the offset where those before it end. -/
def ofOperations : Nat → List (Operation × Nat) → List (Nat × Instruction)
  | _, [] => []
  | pc, (o, index) :: rest => (pc, o.instruction index) :: ofOperations (pc + o.size) rest

/-- What is written is read back. -/
theorem streamFrom_bytes {placed : List (Operation × Nat)} (fits : ∀ p ∈ placed, p.2 < 2 ^ 16)
    (valid : ∀ p ∈ placed, ∀ opcode, p.1 = .plain opcode → Opcode.fixedWidth? opcode = some 0)
    (pc : Nat) :
    streamFrom pc (placed.flatMap fun p => p.1.bytes p.2) = ⟨ofOperations pc placed, none⟩ := by
  induction placed generalizing pc with
  | nil => rw [List.flatMap_nil, streamFrom, ofOperations]
  | cons p placed ih =>
    rw [List.flatMap_cons, streamFrom_operation (fits p List.mem_cons_self)
      (valid p List.mem_cons_self), ih (fun q member => fits q (List.mem_cons_of_mem _ member))
      (fun q member => valid q (List.mem_cons_of_mem _ member)), ofOperations]

end Instruction
end Linkage
