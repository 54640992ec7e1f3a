import Linkage.ClassFile.Instruction
import Linkage.ClassFile.Structure
import Linkage.Symbol.Declaration

/-!
From class files to declarations. Each instruction that refers to a member, each method handle bound
by an `invokedynamic` instruction, and each class literal becomes a reference of its method.
-/
namespace Linkage

/-- How class files are decoded: references to members of the `unverifiable` owners, given by
internal name, are dropped. -/
structure Decoder where
  unverifiable : SortedSet String
  deriving DecidableEq

/-- What one instruction contributes to a declaration. -/
inductive Use where
  | call (site : CallSite MethodReference)
  | access (site : CallSite FieldReference)
  | load (name : ClassName)
  deriving DecidableEq

namespace Use

/-- The call that a use is, if it is one. -/
def call? : Use → Option (CallSite MethodReference)
  | .call site => some site
  | _ => none

/-- The field access that a use is, if it is one. -/
def access? : Use → Option (CallSite FieldReference)
  | .access site => some site
  | _ => none

/-- The class that a use loads, if it loads one. -/
def load? : Use → Option ClassName
  | .load name => some name
  | _ => none

end Use

/-- A method with the calls and accesses among what its instructions contribute. -/
def DeclaredMethod.ofUses (reference : MethodReference) (uses : List Use) : DeclaredMethod :=
  { reference
    calls := SortedSet.ofList (uses.filterMap Use.call?)
    accesses := SortedSet.ofList (uses.filterMap Use.access?) }

/-- The entries of a line table in the order of their starts. Those with one start keep the order of
the table. -/
def sortedLines (lines : List LineNumber) : List LineNumber :=
  lines.mergeSort fun a b => a.start ≤ b.start

/-- The lines of ascending offsets, told in one pass over a sorted table: the entries up to each
offset are passed, and its line is that of the last entry passed so far. -/
def linesAlong : List LineNumber → Nat → List Nat → List Nat
  | _, _, [] => []
  | ahead, line, pc :: rest =>
    let next := ((ahead.takeWhile (·.start ≤ pc)).getLast?.map LineNumber.line).getD line
    next :: linesAlong (ahead.dropWhile (·.start ≤ pc)) next rest

namespace Code

/-- The exceptions caught at an offset: the types of the handlers whose ranges cover it. -/
def caughtAt (code : Code) (pc : Nat) : Except ClassFileError (SortedSet ClassName) := do
  let types := (code.handlers.filter (·.covers pc)).filterMap (·.catchType)
  let names ← types.mapM fun name => ClassFileError.ofSymbol (ClassName.ofName name)
  return SortedSet.ofList names

end Code

namespace Decoder

/-- Owners of methods whose descriptors differ from call to call, so that no call matches the
declaration. -/
def standard : Decoder :=
  ⟨SortedSet.ofList ["java/lang/invoke/MethodHandle", "java/lang/invoke/VarHandle"]⟩

/-- Whether references to members of an owner are kept: the owner is no array and not among the
unverifiable ones. -/
def keeps (decoder : Decoder) (owner : String) : Bool :=
  !Text.startsWith "[" owner && !decoder.unverifiable.toList.contains owner

/-- The call of a method at an offset and its line, unless its owner is dropped. -/
def callUse (decoder : Decoder) (code : Code) (pc line : Nat) (isStatic : Bool) (m : MemberSymbol) :
    Except ClassFileError (List Use) := do
  if !decoder.keeps m.owner then return []
  let owner ← ClassFileError.ofSymbol (ClassName.ofName m.owner)
  let descriptor ← ClassFileError.ofSymbol (MethodDescriptor.ofRaw m.descriptor m.name)
  let caught ← code.caughtAt pc
  return [.call ⟨⟨owner, descriptor, isStatic⟩, line, caught⟩]

/-- The access to a field at an offset and its line, unless its owner is dropped. -/
def accessUse (decoder : Decoder) (code : Code) (pc line : Nat) (isStatic : Bool)
    (m : MemberSymbol) : Except ClassFileError (List Use) := do
  if !decoder.keeps m.owner then return []
  let owner ← ClassFileError.ofSymbol (ClassName.ofName m.owner)
  let descriptor ← ClassFileError.ofSymbol (FieldDescriptor.ofRaw m.descriptor m.name)
  let caught ← code.caughtAt pc
  return [.access ⟨⟨owner, descriptor, isStatic⟩, line, caught⟩]

/-- What a method handle contributes. Kinds 1 to 4 are field accesses and kinds 5 to 9 are calls; 2,
4 and 6 are static. -/
def handleUse (decoder : Decoder) (code : Code) (pc line kind : Nat) (m : MemberSymbol) :
    Except ClassFileError (List Use) :=
  let isStatic := kind == 2 || kind == 4 || kind == 6
  if 1 ≤ kind ∧ kind ≤ 4 then decoder.accessUse code pc line isStatic m
  else if 5 ≤ kind ∧ kind ≤ 9 then decoder.callUse code pc line isStatic m
  else .error .handleKind

/-- What an argument of a bootstrap method contributes. -/
def argumentUse (decoder : Decoder) (pool : ConstantPool) (code : Code) (pc line argument : Nat) :
    Except ClassFileError (List Use) := do
  match ← pool.get argument with
  | .methodHandle kind reference => decoder.handleUse code pc line kind (← pool.member reference)
  | _ => return []

/-- The class that a class literal loads. The literal of an array loads the class of its
elements. -/
def literalUse (name : String) : Except ClassFileError (List Use) := do
  if Text.startsWith "[" name then
    let type ← ClassFileError.ofSymbol (TypeDescriptor.ofRaw name)
    return (type.elementClass?.map Use.load).toList
  else
    return [.load (← ClassFileError.ofSymbol (ClassName.ofName name))]

/-- What the instruction at an offset contributes, on its line. -/
def uses (decoder : Decoder) (file : ClassFile) (code : Code) (pc line : Nat) :
    Instruction → Except ClassFileError (List Use)
  | .invoke opcode index => do
    decoder.callUse code pc line (opcode == Opcode.invokeStatic) (← file.pool.member index)
  | .access opcode index => do
    let isStatic := opcode == Opcode.getStatic || opcode == Opcode.putStatic
    decoder.accessUse code pc line isStatic (← file.pool.member index)
  | .invokeDynamic index => do
    match ← file.pool.get index with
    | .invokeDynamic bootstrap _ =>
      match file.bootstraps[bootstrap]? with
      | some arguments =>
        return (← arguments.mapM (decoder.argumentUse file.pool code pc line)).flatten
      | none => throw (.malformedAttribute "BootstrapMethods")
    | _ => throw .notInvokeDynamic
  | .loadConstant index => do
    match ← file.pool.get index with
    | .classInfo name => literalUse (← file.pool.text name)
    | _ => return []
  | .other => return []

/-- What the instructions of a method contribute, in order. The line table is sorted once and passed
along the instructions. -/
def codeUses (decoder : Decoder) (file : ClassFile) (code : Code) :
    Except ClassFileError (List Use) := do
  let stream := Instruction.stream code.bytecode
  let lines := linesAlong (sortedLines code.lines) 0 (stream.items.map Prod.fst)
  let parts ← (stream.items.zip lines).mapM fun ((pc, instruction), line) =>
    decoder.uses file code pc line instruction
  match stream.fault with
  | some e => throw e
  | none => return parts.flatten

/-- The declaration of a method and the classes that its code loads. -/
def declareMethod (decoder : Decoder) (file : ClassFile) (owner : ClassName) (m : ClassMember) :
    Except ClassFileError (DeclaredMethod × List ClassName) := do
  let descriptor ← ClassFileError.ofSymbol (MethodDescriptor.ofRaw m.descriptor m.name)
  let uses ← match m.code with
    | some code => decoder.codeUses file code
    | none => pure []
  return (.ofUses ⟨owner, descriptor, m.isStatic⟩ uses, uses.filterMap Use.load?)

/-- The declarations of methods, after those already there. Two methods with one descriptor are an
error. -/
def declareMethods (decoder : Decoder) (file : ClassFile) (owner : ClassName)
    (methods : SortedMap MethodDescriptor DeclaredMethod) (loaded : SortedSet ClassName) :
    List ClassMember →
      Except ClassFileError (SortedMap MethodDescriptor DeclaredMethod × SortedSet ClassName)
  | [] => .ok (methods, loaded)
  | m :: rest => do
    let (method, names) ← decoder.declareMethod file owner m
    let descriptor := method.reference.descriptor
    if methods.contains descriptor then throw (.duplicateMethod owner descriptor)
    decoder.declareMethods file owner (methods.insert descriptor method)
      (names.foldl (fun set name => set.insert name) loaded) rest

/-- The declarations of fields. Of two fields with one descriptor the last counts. -/
def declareFields (owner : ClassName) (fields : SortedMap FieldDescriptor FieldReference) :
    List ClassMember → Except ClassFileError (SortedMap FieldDescriptor FieldReference)
  | [] => .ok fields
  | f :: rest => do
    let descriptor ← ClassFileError.ofSymbol (FieldDescriptor.ofRaw f.descriptor f.name)
    declareFields owner (fields.insert descriptor ⟨owner, descriptor, f.isStatic⟩) rest

/-- The declaration that a class file makes. -/
def declare (decoder : Decoder) (file : ClassFile) : Except ClassFileError DeclaredClass := do
  let name ← ClassFileError.ofSymbol (ClassName.ofName file.thisClass)
  let parents ← (file.superClass.toList ++ file.interfaces).mapM fun parent =>
    ClassFileError.ofSymbol (ClassName.ofName parent)
  let fields ← declareFields name .empty file.fields
  let (methods, loaded) ← decoder.declareMethods file name .empty .empty file.methods
  return { name, parents, loaded, methods, fields }

/-- The declaration that the bytes of a class file make. -/
def decode (decoder : Decoder) (bytes : Bytes) : Except ClassFileError DeclaredClass := do
  decoder.declare (← ClassFile.ofBytes bytes)

end Decoder
end Linkage
