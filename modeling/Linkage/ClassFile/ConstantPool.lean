import Linkage.ClassFile.ModifiedUtf8

/-!
The constant pool of a class file: numbered constants that refer to each other by number. Slot 0 and
the slot after an eight-byte constant hold nothing.
-/
namespace Linkage

/-- A constant. Numbers other than the kind of a handle and the bits of a literal are indices. -/
inductive Constant where
  | utf8 (text : String)
  | integer (bits : Nat)
  | float (bits : Nat)
  | long (bits : Nat)
  | double (bits : Nat)
  | classInfo (name : Nat)
  | string (text : Nat)
  | fieldRef (owner nameAndType : Nat)
  | methodRef (owner nameAndType : Nat)
  | interfaceMethodRef (owner nameAndType : Nat)
  | nameAndType (name descriptor : Nat)
  | methodHandle (kind reference : Nat)
  | methodType (descriptor : Nat)
  | dynamic (bootstrap nameAndType : Nat)
  | invokeDynamic (bootstrap nameAndType : Nat)
  | moduleInfo (name : Nat)
  | packageInfo (name : Nat)
  deriving DecidableEq, Repr

namespace Constant

/-- The name of the kind of a constant. -/
def kind : Constant → String
  | .utf8 _ => "Utf8"
  | .integer _ => "Integer"
  | .float _ => "Float"
  | .long _ => "Long"
  | .double _ => "Double"
  | .classInfo _ => "Class"
  | .string _ => "String"
  | .fieldRef _ _ => "Fieldref"
  | .methodRef _ _ => "Methodref"
  | .interfaceMethodRef _ _ => "InterfaceMethodref"
  | .nameAndType _ _ => "NameAndType"
  | .methodHandle _ _ => "MethodHandle"
  | .methodType _ => "MethodType"
  | .dynamic _ _ => "Dynamic"
  | .invokeDynamic _ _ => "InvokeDynamic"
  | .moduleInfo _ => "Module"
  | .packageInfo _ => "Package"

/-- Whether a constant takes two slots. -/
def isWide : Constant → Bool
  | .long _ => true
  | .double _ => true
  | _ => false

open Reader in
/-- The constant that follows a tag. -/
def readBody : Nat → Reader Constant
  | 1 => do
    match ModifiedUtf8.decode? (← take (← u2)) with
    | some text => return .utf8 text
    | none => throw .invalidModifiedUtf8
  | 3 => return .integer (← u4)
  | 4 => return .float (← u4)
  | 5 => return .long (← u8)
  | 6 => return .double (← u8)
  | 7 => return .classInfo (← u2)
  | 8 => return .string (← u2)
  | 9 => return .fieldRef (← u2) (← u2)
  | 10 => return .methodRef (← u2) (← u2)
  | 11 => return .interfaceMethodRef (← u2) (← u2)
  | 12 => return .nameAndType (← u2) (← u2)
  | 15 => return .methodHandle (← u1) (← u2)
  | 16 => return .methodType (← u2)
  | 17 => return .dynamic (← u2) (← u2)
  | 18 => return .invokeDynamic (← u2) (← u2)
  | 19 => return .moduleInfo (← u2)
  | 20 => return .packageInfo (← u2)
  | tag => throw (.invalidConstantTag tag)

/-- The next constant. -/
def read : Reader Constant := do readBody (← Reader.u1)

end Constant

/-- The slots of a constant pool, slot 0 included. -/
structure ConstantPool where
  slots : List (Option Constant)
  deriving DecidableEq, Repr

/-- A resolved reference to a member: the internal name of the owner, the name and the
descriptor. -/
structure MemberSymbol where
  owner : String
  name : String
  descriptor : String
  deriving DecidableEq, Repr

namespace ConstantPool

/-- Reads constants until `n` slots are filled. -/
def readSlots : Nat → Reader (List (Option Constant))
  | 0 => pure []
  | n + 1 => do
    let c ← Constant.read
    if c.isWide then
      match n with
      | 0 => throw .constantPoolOverflow
      | n + 1 => return some c :: none :: (← readSlots n)
    else return some c :: (← readSlots n)

/-- Reads a constant pool: the number of its slots, then its constants. -/
def read : Reader ConstantPool := do
  match ← Reader.u2 with
  | 0 => throw .constantPoolOverflow
  | n + 1 => return ⟨none :: (← readSlots n)⟩

/-- The constant with an index. -/
def get (pool : ConstantPool) (index : Nat) : Except ClassFileError Constant :=
  match pool.slots[index]? with
  | some (some c) => .ok c
  | _ => .error (.invalidConstantIndex index)

/-- The text with an index. -/
def text (pool : ConstantPool) (index : Nat) : Except ClassFileError String := do
  match ← pool.get index with
  | .utf8 text => return text
  | c => throw (.constantMismatch index "Utf8" c.kind)

/-- The internal name of the class with an index; for an array class, its descriptor. -/
def className (pool : ConstantPool) (index : Nat) : Except ClassFileError String := do
  match ← pool.get index with
  | .classInfo name => pool.text name
  | c => throw (.constantMismatch index "Class" c.kind)

/-- The class name with an index, where index 0 means none. -/
def className? (pool : ConstantPool) (index : Nat) : Except ClassFileError (Option String) :=
  if index = 0 then return none else return some (← pool.className index)

/-- The name and the descriptor with an index. -/
def nameAndType (pool : ConstantPool) (index : Nat) : Except ClassFileError (String × String) := do
  match ← pool.get index with
  | .nameAndType name descriptor =>
    let name ← pool.text name
    let descriptor ← pool.text descriptor
    return (name, descriptor)
  | c => throw (.constantMismatch index "NameAndType" c.kind)

/-- The member with the given indices of its class and of its name and type. -/
def memberOf (pool : ConstantPool) (owner nameAndType : Nat) :
    Except ClassFileError MemberSymbol := do
  let owner ← pool.className owner
  let (name, descriptor) ← pool.nameAndType nameAndType
  return ⟨owner, name, descriptor⟩

/-- The member with an index. -/
def member (pool : ConstantPool) (index : Nat) : Except ClassFileError MemberSymbol := do
  match ← pool.get index with
  | .fieldRef owner nameAndType => pool.memberOf owner nameAndType
  | .methodRef owner nameAndType => pool.memberOf owner nameAndType
  | .interfaceMethodRef owner nameAndType => pool.memberOf owner nameAndType
  | c => throw (.constantMismatch index "member reference" c.kind)

end ConstantPool
end Linkage
