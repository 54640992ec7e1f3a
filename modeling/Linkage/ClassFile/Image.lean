import Linkage.ClassFile.Bytes

/-!
Class files as they are laid out: constants, members and attributes that refer to each other by
index, and the bytes that they are written as.
-/
namespace Linkage

/-- A constant as it is laid out. The text of a Utf8 constant is given by its bytes. -/
inductive PoolEntry where
  | utf8 (text : Bytes)
  | integer (bits : Nat)
  | float (bits : Nat)
  | long (bits : Nat)
  | double (bits : Nat)
  | classInfo (name : Nat)
  | string (text : Nat)
  | fieldRef (owner nameAndType : Nat)
  | methodRef (owner nameAndType : Nat)
  | interfaceMethodRef (owner nameAndType : Nat)
  | nameAndType (name descriptor : Nat)
  | methodHandle (kind reference : Nat)
  | methodType (descriptor : Nat)
  | dynamic (bootstrap nameAndType : Nat)
  | invokeDynamic (bootstrap nameAndType : Nat)
  | moduleInfo (name : Nat)
  | packageInfo (name : Nat)
  deriving DecidableEq, Repr

namespace PoolEntry
open Bytes

/-- The number of slots that a constant takes. -/
def slots : PoolEntry → Nat
  | .long _ => 2
  | .double _ => 2
  | _ => 1

/-- The number of slots that constants take. -/
def slotCount : List PoolEntry → Nat
  | [] => 0
  | e :: rest => e.slots + slotCount rest

/-- The bytes of a constant: its tag, then its parts. -/
def bytes : PoolEntry → Bytes
  | .utf8 text => 1 :: ofNat2 text.length ++ text
  | .integer bits => 3 :: ofNat4 bits
  | .float bits => 4 :: ofNat4 bits
  | .long bits => 5 :: ofNat4 (bits / 0x100000000) ++ ofNat4 bits
  | .double bits => 6 :: ofNat4 (bits / 0x100000000) ++ ofNat4 bits
  | .classInfo name => 7 :: ofNat2 name
  | .string text => 8 :: ofNat2 text
  | .fieldRef owner member => 9 :: ofNat2 owner ++ ofNat2 member
  | .methodRef owner member => 10 :: ofNat2 owner ++ ofNat2 member
  | .interfaceMethodRef owner member => 11 :: ofNat2 owner ++ ofNat2 member
  | .nameAndType name descriptor => 12 :: ofNat2 name ++ ofNat2 descriptor
  | .methodHandle kind reference => 15 :: UInt8.ofNat kind :: ofNat2 reference
  | .methodType descriptor => 16 :: ofNat2 descriptor
  | .dynamic bootstrap member => 17 :: ofNat2 bootstrap ++ ofNat2 member
  | .invokeDynamic bootstrap member => 18 :: ofNat2 bootstrap ++ ofNat2 member
  | .moduleInfo name => 19 :: ofNat2 name
  | .packageInfo name => 20 :: ofNat2 name

end PoolEntry

namespace Image
open Bytes

/-- A table as it is laid out: a two-byte count, then the items. -/
def table {α : Type} (item : α → Bytes) (items : List α) : Bytes :=
  ofNat2 items.length ++ items.flatMap item

/-- A constant pool as it is laid out: the number of slots, slot 0 included, then the constants. -/
def pool (constants : List PoolEntry) : Bytes :=
  ofNat2 (PoolEntry.slotCount constants + 1) ++ constants.flatMap PoolEntry.bytes

/-- An attribute: the index of its name, and its contents. -/
structure Attribute where
  name : Nat
  contents : Bytes
  deriving DecidableEq, Repr

/-- The bytes of an attribute. -/
def Attribute.bytes (a : Attribute) : Bytes :=
  ofNat2 a.name ++ ofNat4 a.contents.length ++ a.contents

/-- A field or a method, with the indices of its name and descriptor. -/
structure Member where
  access : Nat
  name : Nat
  descriptor : Nat
  attributes : List Attribute
  deriving DecidableEq, Repr

/-- The bytes of a field or a method. -/
def Member.bytes (m : Member) : Bytes :=
  ofNat2 m.access ++ ofNat2 m.name ++ ofNat2 m.descriptor ++ table Attribute.bytes m.attributes

/-- A handler with the index of the exception type, 0 for every exception. -/
structure Handler where
  start : Nat
  stop : Nat
  handler : Nat
  catchType : Nat
  deriving DecidableEq, Repr

/-- The bytes of a handler. -/
def Handler.bytes (h : Handler) : Bytes :=
  ofNat2 h.start ++ ofNat2 h.stop ++ ofNat2 h.handler ++ ofNat2 h.catchType

/-- The body of a method. -/
structure Code where
  maxStack : Nat
  maxLocals : Nat
  bytecode : Bytes
  handlers : List Handler
  attributes : List Attribute
  deriving DecidableEq, Repr

/-- The contents of the Code attribute of a body. -/
def Code.bytes (c : Code) : Bytes :=
  ofNat2 c.maxStack ++ ofNat2 c.maxLocals ++ ofNat4 c.bytecode.length ++ c.bytecode ++
    table Handler.bytes c.handlers ++ table Attribute.bytes c.attributes

/-- The contents of a LineNumberTable attribute: offsets with the lines that start there. -/
def lineTable (lines : List (Nat × Nat)) : Bytes :=
  table (fun (start, line) => ofNat2 start ++ ofNat2 line) lines

/-- A bootstrap method: the index of its handle and those of its arguments. -/
structure Bootstrap where
  method : Nat
  arguments : List Nat
  deriving DecidableEq, Repr

/-- The bytes of a bootstrap method. -/
def Bootstrap.bytes (b : Bootstrap) : Bytes := ofNat2 b.method ++ table ofNat2 b.arguments

end Image

/-- A class file as it is laid out. -/
structure Image where
  minor : Nat
  major : Nat
  constants : List PoolEntry
  access : Nat
  thisClass : Nat
  superClass : Nat
  interfaces : List Nat
  fields : List Image.Member
  methods : List Image.Member
  attributes : List Image.Attribute
  deriving DecidableEq, Repr

namespace Image
open Bytes

/-- The bytes of a class file. -/
def bytes (i : Image) : Bytes :=
  ofNat4 0xCAFEBABE ++ ofNat2 i.minor ++ ofNat2 i.major ++ pool i.constants ++ ofNat2 i.access ++
    ofNat2 i.thisClass ++ ofNat2 i.superClass ++ table ofNat2 i.interfaces ++
    table Member.bytes i.fields ++ table Member.bytes i.methods ++
    table Attribute.bytes i.attributes

end Image
end Linkage
