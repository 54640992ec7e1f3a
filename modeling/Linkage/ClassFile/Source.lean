import Linkage.ClassFile.ConstantPool
import Linkage.ClassFile.Image
import Linkage.ClassFile.Instruction
import Linkage.ClassFile.Interning

/-!
Class files from descriptions. A description names classes and members in full; `ClassSource.image`
enters the names into a constant pool and lays the code out.
-/
namespace Linkage

/-- How an instruction invokes a method. -/
inductive InvokeKind where
  | virtual | special | static | interface
  deriving DecidableEq, Repr

/-- The opcode of an invocation. -/
def InvokeKind.opcode : InvokeKind → UInt8
  | .virtual => Opcode.invokeVirtual
  | .special => Opcode.invokeSpecial
  | .static => Opcode.invokeStatic
  | .interface => Opcode.invokeInterface

/-- How an instruction accesses a field. -/
inductive AccessKind where
  | getField | putField | getStatic | putStatic
  deriving DecidableEq, Repr

/-- The opcode of a field access. -/
def AccessKind.opcode : AccessKind → UInt8
  | .getField => Opcode.getField
  | .putField => Opcode.putField
  | .getStatic => Opcode.getStatic
  | .putStatic => Opcode.putStatic

/-- What a method handle does with its member. -/
inductive HandleKind where
  | getField | getStatic | putField | putStatic
  | invokeVirtual | invokeStatic | invokeSpecial | newInvokeSpecial | invokeInterface
  deriving DecidableEq, Repr

namespace HandleKind

/-- The number of a handle kind. -/
def number : HandleKind → Nat
  | .getField => 1
  | .getStatic => 2
  | .putField => 3
  | .putStatic => 4
  | .invokeVirtual => 5
  | .invokeStatic => 6
  | .invokeSpecial => 7
  | .newInvokeSpecial => 8
  | .invokeInterface => 9

/-- Whether the member of a handle is a field. -/
def isAccess (k : HandleKind) : Bool := k.number ≤ 4

end HandleKind

/-- A method handle. -/
structure Handle where
  kind : HandleKind
  target : MemberSymbol
  deriving DecidableEq, Repr

/-- An instruction of a description. -/
inductive Operation where
  | plain (opcode : UInt8)
  | invoke (kind : InvokeKind) (target : MemberSymbol)
  | access (kind : AccessKind) (target : MemberSymbol)
  | loadClass (name : String)
  | loadString (units : List UInt16)
  | invokeDynamic (name descriptor : String) (handles : List Handle)
  deriving DecidableEq, Repr

/-- The number of bytes of an instruction. -/
def Operation.size : Operation → Nat
  | .plain _ => 1
  | .invoke kind _ => if kind = .interface then 5 else 3
  | .access _ _ => 3
  | .loadClass _ => 3
  | .loadString _ => 3
  | .invokeDynamic _ _ _ => 5

/-- A statement of a method body: an instruction, the source line of what follows, or statements
during which an exception is caught and thrown again. Without a type every exception is caught. -/
inductive Statement where
  | operation (o : Operation)
  | line (n : Nat)
  | guarded (catchType : Option String) (body : List Statement)
  deriving Inhabited

/-- A method body laid out: the instructions, the offsets where lines start, the guarded ranges and
the number of bytes. -/
structure Body where
  operations : List Operation
  lines : List (Nat × Nat)
  handlers : List (Nat × Nat × Option String)
  size : Nat
  deriving DecidableEq, Repr

namespace Body

/-- The body without statements. -/
def empty : Body := ⟨[], [], [], 0⟩

/-- The body with one more instruction. -/
def push (b : Body) (o : Operation) : Body :=
  { b with operations := b.operations ++ [o], size := b.size + o.size }

mutual
/-- The body with one more statement. The handler of a guarded range stands right after the range
and throws the exception again. -/
def add (b : Body) : Statement → Body
  | .operation o => b.push o
  | .line n => { b with lines := b.lines ++ [(b.size, n)] }
  | .guarded catchType body =>
    let inner := b.addAll body
    let guarded := { inner with handlers := inner.handlers ++ [(b.size, inner.size, catchType)] }
    guarded.push (.plain Opcode.throwReference)
/-- The body with more statements. -/
def addAll (b : Body) : List Statement → Body
  | [] => b
  | s :: rest => (b.add s).addAll rest
end

/-- The layout of a list of statements. -/
def ofStatements (statements : List Statement) : Body := empty.addAll statements

end Body

/-- A field of a description. -/
structure FieldSource where
  access : Nat
  name : String
  descriptor : String
  deriving DecidableEq, Repr

/-- A method of a description; without a body it is abstract. -/
structure MethodSource where
  access : Nat
  name : String
  descriptor : String
  body : Option (List Statement)

/-- A description of a class, with internal names. -/
structure ClassSource where
  access : Nat
  name : String
  superClass : Option String
  interfaces : List String
  fields : List FieldSource
  methods : List MethodSource

namespace ClassSource
open Interning

/-- The access flags of a public class. -/
def classAccess : Nat := 0x0021

/-- The access flags of a public interface. -/
def interfaceAccess : Nat := 0x0601

/-- The flag of a method without a body. -/
def abstractFlag : Nat := 0x0400

/-- The major version that is written. -/
def major : Nat := 61

/-- The method that binds the handles of a dynamic call site. -/
def metafactory : MemberSymbol :=
  { owner := "java/lang/invoke/LambdaMetafactory"
    name := "metafactory"
    descriptor := "(Ljava/lang/invoke/MethodHandles$Lookup;Ljava/lang/String;" ++
      "Ljava/lang/invoke/MethodType;Ljava/lang/invoke/MethodType;" ++
      "Ljava/lang/invoke/MethodHandle;Ljava/lang/invoke/MethodType;)Ljava/lang/invoke/CallSite;" }

/-- The index of a method handle. -/
def handleIndex (h : Handle) : Interning Nat := do
  let m := h.target
  let reference ←
    if h.kind.isAccess then fieldRef m.owner m.name m.descriptor
    else methodRef m.owner m.name m.descriptor (h.kind == .invokeInterface)
  methodHandle h.kind.number reference

/-- The bootstrap method of a dynamic call site. Its first argument is a method type. -/
def bootstrap (handles : List Handle) : Interning Image.Bootstrap := do
  let m := metafactory
  let reference ← methodRef m.owner m.name m.descriptor false
  let method ← methodHandle HandleKind.invokeStatic.number reference
  let type ← methodType "()V"
  return ⟨method, type :: (← handles.mapM handleIndex)⟩

/-- The bytes of an instruction, and the bootstrap methods after those already there. -/
def emit (bootstraps : List Image.Bootstrap) :
    Operation → Interning (Bytes × List Image.Bootstrap)
  | .plain opcode => return ([opcode], bootstraps)
  | .invoke kind m => do
    let index ← methodRef m.owner m.name m.descriptor (kind == .interface)
    let tail := if kind = .interface then [1, 0] else []
    return (kind.opcode :: Bytes.ofNat2 index ++ tail, bootstraps)
  | .access kind m => do
    let index ← fieldRef m.owner m.name m.descriptor
    return (kind.opcode :: Bytes.ofNat2 index, bootstraps)
  | .loadClass name => do
    let index ← className name
    return (Opcode.ldcWide :: Bytes.ofNat2 index, bootstraps)
  | .loadString units => do
    let index ← string units
    return (Opcode.ldcWide :: Bytes.ofNat2 index, bootstraps)
  | .invokeDynamic name descriptor handles => do
    let method ← bootstrap handles
    let index ← invokeDynamic bootstraps.length name descriptor
    return (Opcode.invokeDynamic :: Bytes.ofNat2 index ++ [0, 0], bootstraps ++ [method])

/-- The bytes of instructions, and the bootstrap methods after those already there. -/
def assemble (bootstraps : List Image.Bootstrap) :
    List Operation → Interning (Bytes × List Image.Bootstrap)
  | [] => return ([], bootstraps)
  | o :: rest => do
    let (bytes, bootstraps) ← emit bootstraps o
    let (more, bootstraps) ← assemble bootstraps rest
    return (bytes ++ more, bootstraps)

/-- The index of a class, 0 if there is none. -/
def className? : Option String → Interning Nat
  | some name => className name
  | none => return 0

/-- The handler of a guarded range. -/
def handlerImage : Nat × Nat × Option String → Interning Image.Handler
  | (start, stop, catchType) => do
    let type ← className? catchType
    return ⟨start, stop, stop, type⟩

/-- The attribute of a line table; there is none if there are no lines. -/
def lineAttributes (lines : List (Nat × Nat)) : Interning (List Image.Attribute) :=
  if lines.isEmpty then return []
  else do
    let name ← utf8 "LineNumberTable"
    return [⟨name, Image.lineTable lines⟩]

/-- The contents of the Code attribute of a body. -/
def codeImage (bootstraps : List Image.Bootstrap) (body : Body) :
    Interning (Image.Code × List Image.Bootstrap) := do
  let (bytecode, bootstraps) ← assemble bootstraps body.operations
  let handlers ← body.handlers.mapM handlerImage
  let attributes ← lineAttributes body.lines
  return ({ maxStack := 8, maxLocals := 8, bytecode, handlers, attributes }, bootstraps)

/-- A field laid out. -/
def fieldImage (f : FieldSource) : Interning Image.Member := do
  let name ← utf8 f.name
  let descriptor ← utf8 f.descriptor
  return ⟨f.access, name, descriptor, []⟩

/-- A method laid out. -/
def methodImage (bootstraps : List Image.Bootstrap) (m : MethodSource) :
    Interning (Image.Member × List Image.Bootstrap) := do
  let name ← utf8 m.name
  let descriptor ← utf8 m.descriptor
  match m.body with
  | none => return (⟨m.access ||| abstractFlag, name, descriptor, []⟩, bootstraps)
  | some statements => do
    let (code, bootstraps) ← codeImage bootstraps (Body.ofStatements statements)
    let label ← utf8 "Code"
    return (⟨m.access, name, descriptor, [⟨label, code.bytes⟩]⟩, bootstraps)

/-- Methods laid out, with the bootstrap methods of all of them. -/
def methodImages (bootstraps : List Image.Bootstrap) :
    List MethodSource → Interning (List Image.Member × List Image.Bootstrap)
  | [] => return ([], bootstraps)
  | m :: rest => do
    let (method, bootstraps) ← methodImage bootstraps m
    let (methods, bootstraps) ← methodImages bootstraps rest
    return (method :: methods, bootstraps)

/-- The attribute of the bootstrap methods; there is none if there are none. -/
def bootstrapAttributes (bootstraps : List Image.Bootstrap) : Interning (List Image.Attribute) :=
  if bootstraps.isEmpty then return []
  else do
    let name ← utf8 "BootstrapMethods"
    return [⟨name, Image.table Image.Bootstrap.bytes bootstraps⟩]

/-- What follows the constants of a class, and the constants are entered on the way. -/
def layout (s : ClassSource) : Interning Image := do
  let thisClass ← className s.name
  let superClass ← className? s.superClass
  let interfaces ← s.interfaces.mapM className
  let fields ← s.fields.mapM fieldImage
  let (methods, bootstraps) ← methodImages [] s.methods
  let attributes ← bootstrapAttributes bootstraps
  return { minor := 0, major, constants := [], access := s.access, thisClass, superClass,
           interfaces, fields, methods, attributes }

/-- The class file of a description, laid out. -/
def image (s : ClassSource) : Image :=
  let (image, constants) := s.layout []
  { image with constants }

/-- The bytes of the class file of a description. -/
def bytes (s : ClassSource) : Bytes := s.image.bytes

end ClassSource
end Linkage
