import Linkage.ClassFile.Decoder
import Linkage.Proofs.AddressedCode
import Linkage.Proofs.AddressedText
import Linkage.Proofs.Loading

/-!
Class files over addresses. The parts of a class file are read with a cursor, each attribute with a
cursor of its own, and its texts and codes are taken apart by position. Whatever the bytes are,
decoding ends without fault, with the declaration or the error that decoding gives
(`decode_ends`).
-/
namespace Linkage.Addressed

/-! ### Constants -/

/-- The constant that follows a tag. -/
def constantBody : Nat → CursorReader Constant
  | 1 => do return .utf8 (← decodeText (← take (← u2)))
  | 3 => return .integer (← u4)
  | 4 => return .float (← u4)
  | 5 => return .long (← u8)
  | 6 => return .double (← u8)
  | 7 => return .classInfo (← u2)
  | 8 => return .string (← u2)
  | 9 => return .fieldRef (← u2) (← u2)
  | 10 => return .methodRef (← u2) (← u2)
  | 11 => return .interfaceMethodRef (← u2) (← u2)
  | 12 => return .nameAndType (← u2) (← u2)
  | 15 => return .methodHandle (← u1) (← u2)
  | 16 => return .methodType (← u2)
  | 17 => return .dynamic (← u2) (← u2)
  | 18 => return .invokeDynamic (← u2) (← u2)
  | 19 => return .moduleInfo (← u2)
  | 20 => return .packageInfo (← u2)
  | tag => throw (.invalidConstantTag tag)

/-- The next constant. -/
def constant : CursorReader Constant := do constantBody (← u1)

/-- Reads constants until `n` slots are filled. -/
def slots : Nat → CursorReader (List (Option Constant))
  | 0 => pure []
  | n + 1 => do
    let c ← constant
    if c.isWide then
      match n with
      | 0 => throw .constantPoolOverflow
      | n + 1 => return some c :: none :: (← slots n)
    else return some c :: (← slots n)

/-- Reads a constant pool. -/
def constantPool : CursorReader ConstantPool := do
  match ← u2 with
  | 0 => throw .constantPoolOverflow
  | n + 1 => return ⟨none :: (← slots n)⟩

/-- A text that fits in memory. -/
def Fits (text : String) : Prop := size text.toList < 2 ^ 63

/-- A constant whose text fits in memory, if it is a text. -/
def ConstantFits : Constant → Prop
  | .utf8 text => Fits text
  | _ => True

theorem refines_utf8 {bytes : Bytes} (short : bytes.length < 2 ^ 16) :
    Refines (do return .utf8 (← decodeText bytes)) (match ModifiedUtf8.decode? bytes with
      | some text => return .utf8 text
      | none => throw .invalidModifiedUtf8) ConstantFits := by
  rw [decodeText_eq (by omega)]
  cases read : ModifiedUtf8.decode? bytes with
  | none => exact .throw _
  | some text =>
    have bound := size_decode? read
    have fits : ConstantFits (.utf8 text) := by
      show size text.toList < 2 ^ 63
      omega
    exact .pure fits

theorem refines_constantBody (tag : Nat) :
    Refines (constantBody tag) (Constant.readBody tag) ConstantFits := by
  have one {f : Nat → Constant} (other : ∀ n, ConstantFits (f n)) :
      Refines (do return f (← u2)) (do return f (← Reader.u2)) ConstantFits :=
    Refines.u2.bind fun a _ => .pure (other a)
  have two {f : Nat → Nat → Constant} (other : ∀ a b, ConstantFits (f a b)) :
      Refines (do return f (← u2) (← u2)) (do return f (← Reader.u2) (← Reader.u2)) ConstantFits :=
    Refines.u2.bind fun a _ => Refines.u2.bind fun b _ => .pure (other a b)
  unfold constantBody
  split
  · refine Refines.u2.bind fun n small => (Refines.take n).bind fun bytes length => ?_
    exact refines_utf8 (length ▸ small)
  · exact Refines.u4.bind fun _ _ => .pure trivial
  · exact Refines.u4.bind fun _ _ => .pure trivial
  · exact Refines.u8.bind fun _ _ => .pure trivial
  · exact Refines.u8.bind fun _ _ => .pure trivial
  · exact one fun _ => trivial
  · exact one fun _ => trivial
  · exact two fun _ _ => trivial
  · exact two fun _ _ => trivial
  · exact two fun _ _ => trivial
  · exact two fun _ _ => trivial
  · exact Refines.u1.bind fun _ _ => Refines.u2.bind fun _ _ => .pure trivial
  · exact one fun _ => trivial
  · exact two fun _ _ => trivial
  · exact two fun _ _ => trivial
  · exact one fun _ => trivial
  · exact one fun _ => trivial
  · unfold Constant.readBody
    split
    all_goals first | exact .throw _ | contradiction

theorem refines_slots (n : Nat) : Refines (slots n) (ConstantPool.readSlots n)
    fun found => ∀ c, some c ∈ found → ConstantFits c := by
  have each : Refines constant Constant.read ConstantFits :=
    Refines.u1.bind fun tag _ => refines_constantBody tag
  -- an eight-byte constant takes two slots at once
  induction n using Nat.strongRecOn with
  | ind n ih =>
    cases n with
    | zero => exact .pure nofun
    | succ n =>
      unfold slots ConstantPool.readSlots
      refine each.bind fun c fits => ?_
      split
      · cases n with
        | zero => exact .throw _
        | succ n =>
          refine (ih n (by omega)).bind fun found others => .pure fun d member => ?_
          rcases List.mem_cons.1 member with same | later
          · cases same
            exact fits
          · exact others d (by simpa using later)
      · refine (ih n (by omega)).bind fun found others => .pure fun d member => ?_
        rcases List.mem_cons.1 member with same | later
        · cases same
          exact fits
        · exact others d later

/-- A constant pool whose texts fit in memory. -/
def PoolFits (pool : ConstantPool) : Prop := ∀ c, some c ∈ pool.slots → ConstantFits c

theorem refines_constantPool : Refines constantPool ConstantPool.read PoolFits := by
  refine Refines.u2.bind fun count _ => ?_
  cases count with
  | zero => exact .throw _
  | succ n =>
    refine (refines_slots n).bind fun found each => .pure fun c member => ?_
    exact each c (by simpa using member)

namespace PoolFits
variable {pool : ConstantPool} {index : Nat}

theorem text (fits : PoolFits pool) {text : String} (found : pool.text index = .ok text) :
    Fits text := by
  obtain ⟨c, here, same⟩ := bind_eq_ok.1 found
  unfold ConstantPool.get at here
  split at here
  · rename_i d there
    cases here
    have constant := fits c (List.mem_of_getElem? there)
    cases c with
    | utf8 text =>
      cases same
      exact constant
    | _ => cases same
  · cases here

theorem member (fits : PoolFits pool) {m : MemberSymbol} (found : pool.member index = .ok m) :
    Fits m.descriptor := by
  have named {owner nameAndType : Nat} (here : pool.memberOf owner nameAndType = .ok m) :
      Fits m.descriptor := by
    obtain ⟨_, -, here⟩ := bind_eq_ok.1 here
    obtain ⟨⟨name, descriptor⟩, both, same⟩ := bind_eq_ok.1 here
    cases same
    obtain ⟨c, -, both⟩ := bind_eq_ok.1 both
    cases c with
    | nameAndType _ _ =>
      obtain ⟨_, -, both⟩ := bind_eq_ok.1 both
      obtain ⟨_, last, same⟩ := bind_eq_ok.1 both
      cases same
      exact fits.text last
    | _ => cases both
  obtain ⟨c, -, here⟩ := bind_eq_ok.1 found
  cases c with
  | fieldRef _ _ => exact named here
  | methodRef _ _ => exact named here
  | interfaceMethodRef _ _ => exact named here
  | _ => cases here

end PoolFits

/-! ### The parts of a class file -/

/-- Reads a table of attributes; what `recognised` makes of those with a given name is kept. -/
def attributes {α : Type} (pool : ConstantPool) (name : String) (recognised : CursorReader α) :
    CursorReader (List α) := do
  let results ← table do
    let index ← u2
    let contents ← take (← u4)
    let found ← pool.text index
    if found = name then return some (← all (.malformedAttribute name) recognised contents)
    else return none
  return results.filterMap id

/-- Reads an exception handler. -/
def handler (pool : ConstantPool) : CursorReader ExceptionHandler := do
  let start ← u2
  let stop ← u2
  let handler ← u2
  return ⟨start, stop, handler, ← pool.className? (← u2)⟩

/-- Reads an entry of a line table. -/
def line : CursorReader LineNumber := return ⟨← u2, ← u2⟩

/-- Reads the contents of a Code attribute. -/
def code (pool : ConstantPool) : CursorReader Code := do
  let _maxStack ← u2
  let _maxLocals ← u2
  let bytecode ← take (← u4)
  let handlers ← table (handler pool)
  let lines ← attributes pool "LineNumberTable" (table line)
  return ⟨bytecode, handlers, lines.flatten⟩

/-- Reads a field or a method. -/
def member (pool : ConstantPool) : CursorReader ClassMember := do
  let access ← u2
  let name ← pool.text (← u2)
  let descriptor ← pool.text (← u2)
  let codes ← attributes pool "Code" (code pool)
  return ⟨access, name, descriptor, codes.getLast?⟩

/-- Reads the arguments of a bootstrap method. -/
def bootstrap : CursorReader (List Nat) := do
  let _method ← u2
  table u2

/-- Reads what follows the version of a class file. -/
def body (minor major : Nat) : CursorReader ClassFile := do
  let pool ← constantPool
  let access ← u2
  let thisClass ← pool.className (← u2)
  let superClass ← pool.className? (← u2)
  let interfaces ← table do pool.className (← u2)
  let fields ← table (member pool)
  let methods ← table (member pool)
  let bootstraps ← attributes pool "BootstrapMethods" (table bootstrap)
  return { minor, major, access, thisClass, superClass, interfaces, fields, methods,
           bootstraps := bootstraps.getLast?.getD [], pool }

/-- Reads a class file. -/
def classFile : CursorReader ClassFile := do
  let start ← u4
  if start ≠ ClassFile.magic then throw (.invalidMagic start)
  let minor ← u2
  let major ← u2
  body minor major

/-- The class file that a byte string is, from its first to its last byte. -/
def parse (bytes : Bytes) : Guarded ClassFile := all .trailingBytes classFile bytes

/-- A field or a method whose descriptor and code fit in memory. -/
structure MemberFits (m : ClassMember) : Prop where
  descriptor : Fits m.descriptor
  code : ∀ code, m.code = some code → code.bytecode.length < 2 ^ 63

/-- A class file whose texts and codes fit in memory. -/
structure FileFits (file : ClassFile) : Prop where
  pool : PoolFits file.pool
  field : ∀ m ∈ file.fields, MemberFits m
  method : ∀ m ∈ file.methods, MemberFits m

section
variable (pool : ConstantPool)

theorem refines_attributes {α : Type} {run : CursorReader α} {r : Reader α} {P : α → Prop}
    (name : String) (refines : Refines run r P) :
    Refines (attributes pool name run) (ClassFile.readAttributes pool name r)
      fun found => ∀ a ∈ found, P a := by
  have each : Refines (do
      let index ← u2
      let contents ← take (← u4)
      let found ← pool.text index
      if found = name then return some (← all (.malformedAttribute name) run contents)
      else return none) (do
      let entry ← ClassFile.readAttribute pool
      if entry.1 = name then
        return some (← Reader.all (.malformedAttribute name) r entry.2)
      else return none) fun found => ∀ a, found = some a → P a := by
    rw [ClassFile.readAttribute]
    simp only [bind_assoc, pure_bind]
    refine Refines.u2.bind fun index _ => Refines.u4.bind fun n small =>
      (Refines.take n).bind fun contents length => ?_
    refine (Refines.lift rfl fun _ _ => trivial).bind fun found (_ : True) => ?_
    split
    · have short : contents.length < 2 ^ 63 := by omega
      obtain ⟨same, given⟩ := refines.all (.malformedAttribute name) short
      refine (Refines.lift same given).bind fun a holds => .pure fun b isResult => ?_
      cases isResult
      exact holds
    · refine .pure fun b isResult => ?_
      cases isResult
  refine each.table.bind fun results given => .pure fun a member => ?_
  obtain ⟨found, isResult, same⟩ := List.mem_filterMap.1 member
  exact given found isResult a same

theorem refines_handler : Refines (handler pool) (ClassFile.readHandler pool) fun _ => True :=
  Refines.u2.bind fun _ _ => Refines.u2.bind fun _ _ => Refines.u2.bind fun _ _ =>
    Refines.u2.bind fun _ _ => (Refines.lift rfl fun _ _ => trivial).bind fun _ _ => .pure trivial

theorem refines_line : Refines line ClassFile.readLine fun _ => True :=
  Refines.u2.bind fun _ _ => Refines.u2.bind fun _ _ => .pure trivial

theorem refines_code : Refines (code pool) (ClassFile.readCode pool)
    (·.bytecode.length < 2 ^ 63) := by
  refine Refines.u2.bind fun _ _ => Refines.u2.bind fun _ _ => Refines.u4.bind fun n small =>
    (Refines.take n).bind fun bytecode length => (refines_handler pool).table.bind fun _ _ => ?_
  refine (refines_attributes pool _ refines_line.table).bind fun _ _ => .pure ?_
  show bytecode.length < 2 ^ 63
  omega

theorem refines_member (fits : PoolFits pool) :
    Refines (member pool) (ClassFile.readMember pool) MemberFits := by
  refine Refines.u2.bind fun _ _ => Refines.u2.bind fun _ _ =>
    (Refines.lift rfl fun _ _ => trivial).bind fun _ (_ : True) => Refines.u2.bind fun index _ => ?_
  refine (Refines.lift rfl fun text found => fits.text found).bind fun descriptor short => ?_
  refine (refines_attributes pool _ (refines_code pool)).bind fun codes each => .pure ⟨short, ?_⟩
  intro code last
  exact each code (List.mem_of_getLast? last)

theorem refines_body (minor major : Nat) :
    Refines (body minor major) (ClassFile.readBody minor major) FileFits := by
  refine refines_constantPool.bind fun pool fits => ?_
  have className : Refines (do pool.className (← u2)) (do pool.className (← Reader.u2))
      fun _ => True := Refines.u2.bind fun _ _ => .lift rfl fun _ _ => trivial
  have members := (refines_member pool fits).table
  have arguments : Refines bootstrap ClassFile.readBootstrap fun _ => True :=
    Refines.u2.bind fun _ _ => Refines.u2.table.mono fun _ _ => trivial
  refine Refines.u2.bind fun _ _ => Refines.u2.bind fun _ _ =>
    (Refines.lift rfl fun _ _ => trivial).bind fun _ (_ : True) => ?_
  refine Refines.u2.bind fun _ _ =>
    (Refines.lift rfl fun _ _ => trivial).bind fun _ (_ : True) => ?_
  refine className.table.bind fun _ _ => ?_
  refine members.bind fun fields isField => members.bind fun methods isMethod => ?_
  refine (refines_attributes pool _ arguments.table).bind fun _ _ => .pure ?_
  exact ⟨fits, isField, isMethod⟩

theorem refines_classFile : Refines classFile ClassFile.read FileFits := by
  refine Refines.u4.bind fun start _ => ?_
  have versioned : Refines (do
      let minor ← u2
      let major ← u2
      body minor major) (do
      let minor ← Reader.u2
      let major ← Reader.u2
      ClassFile.readBody minor major) FileFits :=
    Refines.u2.bind fun minor _ => Refines.u2.bind fun major _ => refines_body minor major
  split
  · exact (Refines.throw _).bind fun _ (_ : True) => versioned
  · exact versioned

end

theorem parse_eq {bytes : Bytes} (fits : bytes.length < 2 ^ 63) :
    parse bytes = ended (ClassFile.ofBytes bytes) ∧
      ∀ file, ClassFile.ofBytes bytes = .ok file → FileFits file :=
  refines_classFile.all .trailingBytes fits

/-! ### Declarations -/

/-- What the reference to a member at an offset contributes on its line, unless its owner is
dropped. -/
def memberUse {δ : Type} (decoder : Decoder) (code : Code) (pc line : Nat)
    (read : String → String → Guarded δ) (use : CallSite (Reference δ) → Use) (isStatic : Bool)
    (m : MemberSymbol) : Guarded (List Use) := do
  if !decoder.keeps m.owner then return []
  let owner ← ClassFileError.ofSymbol (ClassName.ofName m.owner)
  let descriptor ← read m.descriptor m.name
  let caught ← code.caughtAt pc
  return [use ⟨⟨owner, descriptor, isStatic⟩, line, caught⟩]

/-- The call of a method at an offset. -/
def callUse (decoder : Decoder) (code : Code) (pc line : Nat) :
    Bool → MemberSymbol → Guarded (List Use) :=
  memberUse decoder code pc line methodOf .call

/-- The access to a field at an offset. -/
def accessUse (decoder : Decoder) (code : Code) (pc line : Nat) :
    Bool → MemberSymbol → Guarded (List Use) :=
  memberUse decoder code pc line fieldOf .access

/-- What a method handle contributes. -/
def handleUse (decoder : Decoder) (code : Code) (pc line kind : Nat) (m : MemberSymbol) :
    Guarded (List Use) :=
  let isStatic := kind == 2 || kind == 4 || kind == 6
  if 1 ≤ kind ∧ kind ≤ 4 then accessUse decoder code pc line isStatic m
  else if 5 ≤ kind ∧ kind ≤ 9 then callUse decoder code pc line isStatic m
  else throw .handleKind

/-- What an argument of a bootstrap method contributes. -/
def argumentUse (decoder : Decoder) (pool : ConstantPool) (code : Code) (pc line argument : Nat) :
    Guarded (List Use) := do
  match ← pool.get argument with
  | .methodHandle kind reference => handleUse decoder code pc line kind (← pool.member reference)
  | _ => return []

/-- The class that a class literal loads. -/
def literalUse (name : String) : Guarded (List Use) := do
  if Text.startsWith "[" name then
    let type ← typeOf name
    return (type.elementClass?.map Use.load).toList
  else
    return [.load (← ClassFileError.ofSymbol (ClassName.ofName name))]

/-- What the instruction at an offset contributes, on its line. -/
def uses (decoder : Decoder) (file : ClassFile) (code : Code) (pc line : Nat) :
    Instruction → Guarded (List Use)
  | .invoke opcode index => do
    callUse decoder code pc line (opcode == Opcode.invokeStatic) (← file.pool.member index)
  | .access opcode index => do
    let isStatic := opcode == Opcode.getStatic || opcode == Opcode.putStatic
    accessUse decoder code pc line isStatic (← file.pool.member index)
  | .invokeDynamic index => do
    match ← file.pool.get index with
    | .invokeDynamic bootstrap _ =>
      match file.bootstraps[bootstrap]? with
      | some arguments =>
        return (← arguments.mapM (argumentUse decoder file.pool code pc line)).flatten
      | none => throw (.malformedAttribute "BootstrapMethods")
    | _ => throw .notInvokeDynamic
  | .loadConstant index => do
    match ← file.pool.get index with
    | .classInfo name => literalUse (← file.pool.text name)
    | _ => return []
  | .other => return []

/-- What the instructions of a method contribute, in order. -/
def codeUses (decoder : Decoder) (file : ClassFile) (code : Code) : Guarded (List Use) := do
  let stream ← scan code.bytecode
  let lines := linesAlong (sortedLines code.lines) 0 (stream.items.map Prod.fst)
  let parts ← (stream.items.zip lines).mapM fun ((pc, i), line) => uses decoder file code pc line i
  match stream.fault with
  | some e => throw e
  | none => return parts.flatten

/-- The declaration of a method and the classes that its code loads. -/
def declareMethod (decoder : Decoder) (file : ClassFile) (owner : ClassName) (m : ClassMember) :
    Guarded (DeclaredMethod × List ClassName) := do
  let descriptor ← methodOf m.descriptor m.name
  let uses ← match m.code with
    | some code => codeUses decoder file code
    | none => pure []
  return (.ofUses ⟨owner, descriptor, m.isStatic⟩ uses, uses.filterMap Use.load?)

/-- The declarations of methods, after those already there. -/
def declareMethods (decoder : Decoder) (file : ClassFile) (owner : ClassName)
    (methods : SortedMap MethodDescriptor DeclaredMethod) (loaded : SortedSet ClassName) :
    List ClassMember →
      Guarded (SortedMap MethodDescriptor DeclaredMethod × SortedSet ClassName)
  | [] => return (methods, loaded)
  | m :: rest => do
    let (method, names) ← declareMethod decoder file owner m
    let descriptor := method.reference.descriptor
    if methods.contains descriptor then throw (.duplicateMethod owner descriptor)
    declareMethods decoder file owner (methods.insert descriptor method)
      (names.foldl (fun set name => set.insert name) loaded) rest

/-- The declarations of fields. -/
def declareFields (owner : ClassName) (fields : SortedMap FieldDescriptor FieldReference) :
    List ClassMember → Guarded (SortedMap FieldDescriptor FieldReference)
  | [] => return fields
  | f :: rest => do
    let descriptor ← fieldOf f.descriptor f.name
    declareFields owner (fields.insert descriptor ⟨owner, descriptor, f.isStatic⟩) rest

/-- The declaration that a class file makes. -/
def declare (decoder : Decoder) (file : ClassFile) : Guarded DeclaredClass := do
  let name ← ClassFileError.ofSymbol (ClassName.ofName file.thisClass)
  let parents ← (file.superClass.toList ++ file.interfaces).mapM fun parent =>
    ClassFileError.ofSymbol (ClassName.ofName parent)
  let fields ← declareFields name .empty file.fields
  let (methods, loaded) ← declareMethods decoder file name .empty .empty file.methods
  return { name, parents, loaded, methods, fields }

/-- The declaration that the bytes of a class file make. -/
def decode (decoder : Decoder) (bytes : Bytes) : Guarded DeclaredClass := do
  declare decoder (← parse bytes)

section
variable {decoder : Decoder} {file : ClassFile} {code : Code} {pc line : Nat}

theorem callUse_eq {m : MemberSymbol} (short : Fits m.descriptor) (isStatic : Bool) :
    callUse decoder code pc line isStatic m = ended (decoder.callUse code pc line isStatic m) := by
  unfold callUse memberUse Decoder.callUse
  split
  · rfl
  · exact bind_of_ended rfl fun _ _ => bind_of_ended (methodOf_eq short) fun _ _ =>
      bind_of_ended rfl fun _ _ => rfl

theorem accessUse_eq {m : MemberSymbol} (short : Fits m.descriptor) (isStatic : Bool) :
    accessUse decoder code pc line isStatic m =
      ended (decoder.accessUse code pc line isStatic m) := by
  unfold accessUse memberUse Decoder.accessUse
  split
  · rfl
  · exact bind_of_ended rfl fun _ _ => bind_of_ended (fieldOf_eq short) fun _ _ =>
      bind_of_ended rfl fun _ _ => rfl

theorem handleUse_eq {m : MemberSymbol} (short : Fits m.descriptor) (kind : Nat) :
    handleUse decoder code pc line kind m = ended (decoder.handleUse code pc line kind m) := by
  unfold handleUse Decoder.handleUse
  dsimp only
  split
  · exact accessUse_eq short _
  · split
    · exact callUse_eq short _
    · rfl

theorem argumentUse_eq {pool : ConstantPool} (fits : PoolFits pool) (argument : Nat) :
    argumentUse decoder pool code pc line argument =
      ended (decoder.argumentUse pool code pc line argument) := by
  refine bind_of_ended rfl fun c _ => ?_
  cases c with
  | methodHandle kind reference =>
    exact bind_of_ended rfl fun m found => handleUse_eq (fits.member found) _
  | _ => rfl

theorem literalUse_eq {name : String} (short : Fits name) :
    literalUse name = ended (Decoder.literalUse name) := by
  unfold literalUse Decoder.literalUse
  split
  · exact bind_of_ended (typeOf_eq short) fun _ _ => rfl
  · exact bind_of_ended rfl fun _ _ => rfl

theorem uses_eq (fits : PoolFits file.pool) (i : Instruction) :
    uses decoder file code pc line i = ended (decoder.uses file code pc line i) := by
  cases i with
  | invoke opcode index =>
    exact bind_of_ended rfl fun m found => callUse_eq (fits.member found) _
  | access opcode index =>
    exact bind_of_ended rfl fun m found => accessUse_eq (fits.member found) _
  | invokeDynamic index =>
    refine bind_of_ended rfl fun c _ => ?_
    cases c with
    | invokeDynamic bootstrap _ =>
      dsimp only
      cases file.bootstraps[bootstrap]? with
      | none => rfl
      | some arguments =>
        exact bind_of_ended (mapM_of_ended fun a _ => argumentUse_eq fits a) fun _ _ => rfl
    | _ => rfl
  | loadConstant index =>
    refine bind_of_ended rfl fun c _ => ?_
    cases c with
    | classInfo _ => exact bind_of_ended rfl fun name found => literalUse_eq (fits.text found)
    | _ => rfl
  | other => rfl

theorem codeUses_eq (fits : PoolFits file.pool) (short : code.bytecode.length < 2 ^ 63) :
    codeUses decoder file code = ended (decoder.codeUses file code) := by
  unfold codeUses Decoder.codeUses
  rw [scan_eq short]
  refine bind_of_ended (mapM_of_ended fun item _ => uses_eq fits item.1.2) fun parts _ => ?_
  cases (Instruction.stream code.bytecode).fault <;> rfl

theorem declareMethod_eq (fits : PoolFits file.pool) {m : ClassMember} (given : MemberFits m)
    (owner : ClassName) :
    declareMethod decoder file owner m = ended (decoder.declareMethod file owner m) := by
  refine bind_of_ended (methodOf_eq given.descriptor) fun descriptor _ => ?_
  cases hasCode : m.code with
  | none => rfl
  | some code =>
    exact bind_of_ended (codeUses_eq fits (given.code code hasCode)) fun _ _ => rfl

theorem declareMethods_eq (fits : PoolFits file.pool) {ms : List ClassMember}
    (given : ∀ m ∈ ms, MemberFits m) (owner : ClassName)
    (methods : SortedMap MethodDescriptor DeclaredMethod) (loaded : SortedSet ClassName) :
    declareMethods decoder file owner methods loaded ms =
      ended (decoder.declareMethods file owner methods loaded ms) := by
  induction ms generalizing methods loaded with
  | nil => rfl
  | cons m ms ih =>
    obtain ⟨here, later⟩ := List.forall_mem_cons.1 given
    refine bind_of_ended (declareMethod_eq fits here owner) fun r _ => ?_
    dsimp only
    split
    · rfl
    · exact ih later _ _

theorem declareFields_eq {fs : List ClassMember} (given : ∀ f ∈ fs, MemberFits f)
    (owner : ClassName) (fields : SortedMap FieldDescriptor FieldReference) :
    declareFields owner fields fs = ended (Decoder.declareFields owner fields fs) := by
  induction fs generalizing fields with
  | nil => rfl
  | cons f fs ih =>
    obtain ⟨here, later⟩ := List.forall_mem_cons.1 given
    exact bind_of_ended (fieldOf_eq here.descriptor) fun _ _ => ih later _

theorem declare_eq (fits : FileFits file) :
    declare decoder file = ended (decoder.declare file) := by
  refine bind_of_ended rfl fun name _ => ?_
  refine bind_of_ended (mapM_of_ended fun _ _ => rfl) fun parents _ => ?_
  refine bind_of_ended (declareFields_eq fits.field name .empty) fun fields _ => ?_
  exact bind_of_ended (declareMethods_eq fits.pool fits.method name .empty .empty) fun _ _ => rfl

end

/-- Decoding ends. Over addresses, with faults for what is out of range, inside a character, beyond
its word or endless, decoding bytes that fit in memory ends without fault, with what decoding gives.
The scan of any code ends so too: it visits ascending offsets, up to the end or to the instruction
that stops it, and the instructions that it finds stand side by side from the first byte to
there. -/
theorem decode_ends (decoder : Decoder) (bytes : Bytes) (fits : bytes.length < 2 ^ 63) :
    (decode decoder bytes).run = .ok (decoder.decode bytes) ∧
      ∀ code : Bytes, code.length < 2 ^ 63 → scan code = .ok (Instruction.stream code) ∧
        ∃ stop, StopsAt code stop (Instruction.stream code).fault ∧
          Tiles code stop 0 (Instruction.stream code).items ∧
          ((Instruction.stream code).items.map Prod.fst ++ [stop]).Pairwise (· < ·) := by
  constructor
  · obtain ⟨parsed, given⟩ := parse_eq fits
    have run : decode decoder bytes = ended (decoder.decode bytes) :=
      bind_of_ended parsed fun file read => declare_eq (given file read)
    rw [run]
    rfl
  · intro code short
    obtain ⟨stop, stops, tiles⟩ := exists_tiles short (Nat.zero_le _)
    exact ⟨scan_eq short, stop, stops, tiles, tiles.ascending.2.2⟩

/-- A table switch whose bounds are as far apart as they can be, with no jumps. -/
def widestSwitch : Bytes :=
  [0x00, 0xAA, 0, 0, 0, 0, 0, 0, 0x80, 0, 0, 0, 0x7F, 0xFF, 0xFF, 0xFF]

/-- A class file is decoded over addresses, and the widest switch is cut short. -/
theorem decode_ends_sample : Sample.child.bytes.length < 2 ^ 63 ∧
    (decode Decoder.standard Sample.child.bytes).run = .ok (.ok Sample.declaredChild) ∧
    scan widestSwitch = .ok ⟨[(0, .other)], some .unexpectedEnd⟩ := by
  have fits : Sample.child.bytes.length < 2 ^ 63 := by decide +kernel
  have decoded : Decoder.standard.decode Sample.child.bytes = .ok Sample.declaredChild := by
    decide +kernel
  have stream : Instruction.stream widestSwitch = ⟨[(0, .other)], some .unexpectedEnd⟩ := by
    decide +kernel
  obtain ⟨run, scans⟩ := decode_ends Decoder.standard Sample.child.bytes fits
  refine ⟨fits, run.trans (congrArg _ decoded), ?_⟩
  exact (scans widestSwitch (by decide)).1.trans (congrArg _ stream)

end Linkage.Addressed
