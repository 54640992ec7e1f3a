import Linkage.ClassFile.ConstantPool

/-!
The structure of a class file: names with slashes, and of the attributes those that linking needs.
Of several Code or BootstrapMethods attributes the last one counts; line tables are joined.
-/
namespace Linkage

/-- A range of code, from `start` to before `stop`, with the handler of an exception thrown there.
Without a type the handler takes every exception. -/
structure ExceptionHandler where
  start : Nat
  stop : Nat
  handler : Nat
  catchType : Option String
  deriving DecidableEq, Repr

/-- Whether an offset lies in the range of the handler. -/
def ExceptionHandler.covers (h : ExceptionHandler) (pc : Nat) : Bool := h.start ≤ pc && pc < h.stop

/-- The source line of the code from an offset on. -/
structure LineNumber where
  start : Nat
  line : Nat
  deriving DecidableEq, Repr

/-- The body of a method. -/
structure Code where
  bytecode : Bytes
  handlers : List ExceptionHandler
  lines : List LineNumber
  deriving DecidableEq, Repr

/-- A field or a method. -/
structure ClassMember where
  access : Nat
  name : String
  descriptor : String
  code : Option Code
  deriving DecidableEq, Repr

/-- Whether the access flags mark a member of the class itself. -/
def ClassMember.isStatic (m : ClassMember) : Bool := m.access / 8 % 2 = 1

/-- A class file. A bootstrap method is kept as the indices of its arguments. -/
structure ClassFile where
  minor : Nat
  major : Nat
  access : Nat
  thisClass : String
  superClass : Option String
  interfaces : List String
  fields : List ClassMember
  methods : List ClassMember
  bootstraps : List (List Nat)
  pool : ConstantPool
  deriving DecidableEq, Repr

namespace ClassFile
open Reader

/-- Reads an attribute: its name and its contents. -/
def readAttribute (pool : ConstantPool) : Reader (String × Bytes) := do
  let name ← u2
  let contents ← take (← u4)
  return (← pool.text name, contents)

/-- Reads a table of attributes; what `recognised` makes of those with a given name is kept. -/
def readAttributes {α : Type} (pool : ConstantPool) (name : String) (recognised : Reader α) :
    Reader (List α) := do
  let results ← table do
    let (found, contents) ← readAttribute pool
    if found = name then return some (← all (.malformedAttribute name) recognised contents)
    else return none
  return results.filterMap id

/-- Reads an exception handler. -/
def readHandler (pool : ConstantPool) : Reader ExceptionHandler := do
  let start ← u2
  let stop ← u2
  let handler ← u2
  return ⟨start, stop, handler, ← pool.className? (← u2)⟩

/-- Reads an entry of a line table. -/
def readLine : Reader LineNumber := return ⟨← u2, ← u2⟩

/-- Reads the contents of a Code attribute. -/
def readCode (pool : ConstantPool) : Reader Code := do
  let _maxStack ← u2
  let _maxLocals ← u2
  let bytecode ← take (← u4)
  let handlers ← table (readHandler pool)
  let lines ← readAttributes pool "LineNumberTable" (table readLine)
  return ⟨bytecode, handlers, lines.flatten⟩

/-- Reads a field or a method. -/
def readMember (pool : ConstantPool) : Reader ClassMember := do
  let access ← u2
  let name ← pool.text (← u2)
  let descriptor ← pool.text (← u2)
  let codes ← readAttributes pool "Code" (readCode pool)
  return ⟨access, name, descriptor, codes.getLast?⟩

/-- Reads the arguments of a bootstrap method. -/
def readBootstrap : Reader (List Nat) := do
  let _method ← u2
  table u2

/-- Reads what follows the version of a class file. -/
def readBody (minor major : Nat) : Reader ClassFile := do
  let pool ← ConstantPool.read
  let access ← u2
  let thisClass ← pool.className (← u2)
  let superClass ← pool.className? (← u2)
  let interfaces ← table do pool.className (← u2)
  let fields ← table (readMember pool)
  let methods ← table (readMember pool)
  let bootstraps ← readAttributes pool "BootstrapMethods" (table readBootstrap)
  return { minor, major, access, thisClass, superClass, interfaces, fields, methods,
           bootstraps := bootstraps.getLast?.getD [], pool }

/-- The number at the start of every class file. -/
def magic : Nat := 0xCAFEBABE

/-- Reads a class file. -/
def read : Reader ClassFile := do
  let start ← u4
  if start ≠ magic then throw (.invalidMagic start)
  let minor ← u2
  let major ← u2
  readBody minor major

/-- The class file that a byte string is, from its first to its last byte. -/
def ofBytes (bytes : Bytes) : Except ClassFileError ClassFile := all .trailingBytes read bytes

end ClassFile
end Linkage
