import Linkage.ClassFile.Bytes

/-!
Bytecode as a stream of instructions. Of the instructions only those that make symbolic links are
told apart; the others are stepped over by the width of their operands.
-/
namespace Linkage

/-- An instruction, as far as linking is concerned. Numbers are indices of the constant pool. -/
inductive Instruction where
  | invoke (opcode : UInt8) (index : Nat)
  | access (opcode : UInt8) (index : Nat)
  | invokeDynamic (index : Nat)
  | loadConstant (index : Nat)
  | other
  deriving DecidableEq, Repr

namespace Opcode

/-- Opcodes with a meaning of their own for linking, or with operands of variable width. -/
def ldc : UInt8 := 0x12
def ldcWide : UInt8 := 0x13
def ldcDouble : UInt8 := 0x14
def increment : UInt8 := 0x84
def tableSwitch : UInt8 := 0xaa
def lookupSwitch : UInt8 := 0xab
def returnVoid : UInt8 := 0xb1
def getStatic : UInt8 := 0xb2
def putStatic : UInt8 := 0xb3
def getField : UInt8 := 0xb4
def putField : UInt8 := 0xb5
def invokeVirtual : UInt8 := 0xb6
def invokeSpecial : UInt8 := 0xb7
def invokeStatic : UInt8 := 0xb8
def invokeInterface : UInt8 := 0xb9
def invokeDynamic : UInt8 := 0xba
def throwReference : UInt8 := 0xbf
def wide : UInt8 := 0xc4

/-- Whether an opcode invokes a method. -/
def isInvoke (opcode : UInt8) : Bool :=
  opcode == invokeVirtual || opcode == invokeSpecial || opcode == invokeStatic ||
    opcode == invokeInterface

/-- Whether an opcode reads or writes a field. -/
def isAccess (opcode : UInt8) : Bool :=
  opcode == getStatic || opcode == putStatic || opcode == getField || opcode == putField

/-- The width of the operands of an opcode that always has the same. -/
def fixedWidth? (opcode : UInt8) : Option Nat :=
  let n := opcode.toNat
  if n ≤ 0x0f then some 0
  else if n = 0x10 then some 1
  else if n = 0x11 then some 2
  else if n = 0x12 then some 1
  else if n ≤ 0x14 then some 2
  else if n ≤ 0x19 then some 1
  else if n ≤ 0x35 then some 0
  else if n ≤ 0x3a then some 1
  else if n ≤ 0x83 then some 0
  else if n = 0x84 then some 2
  else if n ≤ 0x98 then some 0
  else if n ≤ 0xa8 then some 2
  else if n = 0xa9 then some 1
  else if n ≤ 0xab then none
  else if n ≤ 0xb1 then some 0
  else if n ≤ 0xb8 then some 2
  else if n ≤ 0xba then some 4
  else if n = 0xbb then some 2
  else if n = 0xbc then some 1
  else if n = 0xbd then some 2
  else if n ≤ 0xbf then some 0
  else if n ≤ 0xc1 then some 2
  else if n ≤ 0xc3 then some 0
  else if n = 0xc4 then none
  else if n = 0xc5 then some 3
  else if n ≤ 0xc7 then some 2
  else if n ≤ 0xc9 then some 4
  else if n = 0xca ∨ n = 0xfe ∨ n = 0xff then some 0
  else none

end Opcode

namespace Instruction
open Reader

/-- The number that four bytes denote in two's complement. -/
def signed4 (n : Nat) : Int := if n < 0x80000000 then n else n - 0x100000000

/-- The number of filler bytes after the opcode of a switch at `pc`: its operands start at a
multiple of four. -/
def padding (pc : Nat) : Nat := (4 - (pc + 1) % 4) % 4

/-- The width of the operands of a table switch at `pc`: filler, default, bounds and a jump for each
value between the bounds. -/
def tableSwitchWidth (pc : Nat) : Reader Nat := do
  let _filler ← take (padding pc)
  let _default ← u4
  let low := signed4 (← u4)
  let high := signed4 (← u4)
  if high < low then throw .tableSwitchBounds
  return padding pc + 12 + (high - low + 1).toNat * 4

/-- The width of the operands of a lookup switch at `pc`: filler, default, a count and so many
pairs. -/
def lookupSwitchWidth (pc : Nat) : Reader Nat := do
  let _filler ← take (padding pc)
  let _default ← u4
  let pairs := signed4 (← u4)
  if pairs < 0 then throw .lookupSwitchPairs
  return padding pc + 8 + pairs.toNat * 8

/-- The width of the operands of a widened instruction: five bytes for an increment, else three. -/
def widenedWidth : Reader Nat := do
  if (← u1) = Opcode.increment.toNat then return 5 else return 3

/-- The width of the operands of the instruction with an opcode at `pc`. -/
def width (pc : Nat) (opcode : UInt8) : Reader Nat :=
  if opcode = Opcode.tableSwitch then tableSwitchWidth pc
  else if opcode = Opcode.lookupSwitch then lookupSwitchWidth pc
  else if opcode = Opcode.wide then widenedWidth
  else
    match Opcode.fixedWidth? opcode with
    | some n => pure n
    | none => throw (.invalidOpcode opcode.toNat pc)

/-- The instruction with an opcode, read off its operands. -/
def ofOpcode (opcode : UInt8) : Reader Instruction :=
  if Opcode.isInvoke opcode then return .invoke opcode (← u2)
  else if Opcode.isAccess opcode then return .access opcode (← u2)
  else if opcode = Opcode.invokeDynamic then return .invokeDynamic (← u2)
  else if opcode = Opcode.ldc then return .loadConstant (← u1)
  else if opcode = Opcode.ldcWide ∨ opcode = Opcode.ldcDouble then return .loadConstant (← u2)
  else return .other

/-- The instruction with an opcode at `pc` and the width of its operands, all of which are there. -/
def next (pc : Nat) (opcode : UInt8) (operands : Bytes) :
    Except ClassFileError (Instruction × Nat) := do
  let (instruction, _) ← ofOpcode opcode operands
  let (n, _) ← width pc opcode operands
  if operands.length < n then throw .unexpectedEnd
  return (instruction, n)

/-- The instructions up to the end of the code, or up to the first that cannot be read. -/
structure Stream where
  items : List (Nat × Instruction)
  fault : Option ClassFileError
  deriving DecidableEq, Repr

/-- The instructions of the code from `pc` on. -/
def streamFrom (pc : Nat) : Bytes → Stream
  | [] => ⟨[], none⟩
  | opcode :: operands =>
    match next pc opcode operands with
    | .error e => ⟨[], some e⟩
    | .ok (instruction, n) =>
      let rest := streamFrom (pc + 1 + n) (operands.drop n)
      ⟨(pc, instruction) :: rest.items, rest.fault⟩
termination_by code => code.length
decreasing_by simp only [List.length_drop, List.length_cons]; omega

/-- The instructions of a method's code, each with its offset. -/
def stream (code : Bytes) : Stream := streamFrom 0 code

end Instruction
end Linkage
