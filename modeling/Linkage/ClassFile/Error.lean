import Linkage.Symbol.Method

/-!
The ways in which a class file can be malformed.
-/
namespace Linkage

/-- A number in hexadecimal, with zeros in front up to a width. -/
def Text.hex (width n : Nat) : String :=
  let digits := Nat.toDigits 16 n
  String.ofList (List.replicate (width - digits.length) '0' ++ digits)

/-- Why bytes are no class file, or none that can be decoded. -/
inductive ClassFileError where
  | unexpectedEnd
  | invalidMagic (value : Nat)
  | invalidConstantIndex (index : Nat)
  | invalidConstantTag (tag : Nat)
  | constantMismatch (index : Nat) (expected found : String)
  | invalidModifiedUtf8
  | invalidOpcode (opcode offset : Nat)
  | duplicateMethod (owner : ClassName) (method : MethodDescriptor)
  | malformedAttribute (name : String)
  | trailingBytes
  | constantPoolOverflow
  | tableSwitchBounds
  | lookupSwitchPairs
  | notInvokeDynamic
  | handleKind
  | symbol (error : SymbolError)
  deriving DecidableEq, Repr

/-- The message of a malformed class file. -/
def ClassFileError.message : ClassFileError → String
  | .unexpectedEnd => "unexpected end of input"
  | .invalidMagic value => s!"invalid classfile magic: 0x{Text.hex 8 value}"
  | .invalidConstantIndex index => s!"invalid constant pool index: {index}"
  | .invalidConstantTag tag => s!"invalid constant pool tag: {tag}"
  | .constantMismatch index expected found =>
    s!"constant pool type mismatch at index {index}: expected {expected}, found {found}"
  | .invalidModifiedUtf8 => "invalid modified UTF-8 constant"
  | .invalidOpcode opcode offset => s!"invalid opcode 0x{Text.hex 2 opcode} at offset {offset}"
  | .duplicateMethod owner method =>
    s!"duplicate method signature in {owner.dotted}: {method.pretty}"
  | .malformedAttribute name => s!"malformed {name} attribute"
  | .trailingBytes => "trailing bytes"
  | .constantPoolOverflow => "constant pool overflows its declared count"
  | .tableSwitchBounds => "tableswitch with high < low"
  | .lookupSwitchPairs => "lookupswitch with negative npairs"
  | .notInvokeDynamic => "invokedynamic operand is not an InvokeDynamic entry"
  | .handleKind => "invalid method handle kind"
  | .symbol error => error.message

/-- A malformed name or descriptor makes the class file malformed. -/
def ClassFileError.ofSymbol {α : Type} : Except SymbolError α → Except ClassFileError α
  | .ok a => .ok a
  | .error e => .error (.symbol e)

end Linkage
