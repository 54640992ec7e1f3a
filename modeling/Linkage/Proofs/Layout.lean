import Linkage.ClassFile.Image
import Linkage.ClassFile.Structure
import Linkage.Proofs.Reading

/-!
Class files read back from their layout. What a layout denotes is said part by part, with indices
looked up in the constant pool (`Image.Denotes`), and reading the bytes of a layout gives what it
denotes (`Image.Denotes.ofBytes`).
-/
namespace Linkage
open Reader Bytes

/-! ### Constants -/

namespace PoolEntry

/-- The constant that is read off the bytes of a constant. Numbers lose what exceeds their bytes,
and a text may be none. -/
def constant? : PoolEntry → Option Constant
  | .utf8 text => (ModifiedUtf8.decode? text).map .utf8
  | .integer bits => some (.integer (bits % 2 ^ 32))
  | .float bits => some (.float (bits % 2 ^ 32))
  | .long bits => some (.long (bits % 2 ^ 64))
  | .double bits => some (.double (bits % 2 ^ 64))
  | .classInfo name => some (.classInfo (name % 2 ^ 16))
  | .string text => some (.string (text % 2 ^ 16))
  | .fieldRef owner member => some (.fieldRef (owner % 2 ^ 16) (member % 2 ^ 16))
  | .methodRef owner member => some (.methodRef (owner % 2 ^ 16) (member % 2 ^ 16))
  | .interfaceMethodRef owner member =>
    some (.interfaceMethodRef (owner % 2 ^ 16) (member % 2 ^ 16))
  | .nameAndType name descriptor => some (.nameAndType (name % 2 ^ 16) (descriptor % 2 ^ 16))
  | .methodHandle kind reference => some (.methodHandle (kind % 2 ^ 8) (reference % 2 ^ 16))
  | .methodType descriptor => some (.methodType (descriptor % 2 ^ 16))
  | .dynamic bootstrap member => some (.dynamic (bootstrap % 2 ^ 16) (member % 2 ^ 16))
  | .invokeDynamic bootstrap member => some (.invokeDynamic (bootstrap % 2 ^ 16) (member % 2 ^ 16))
  | .moduleInfo name => some (.moduleInfo (name % 2 ^ 16))
  | .packageInfo name => some (.packageInfo (name % 2 ^ 16))

/-- The slots that a constant fills. -/
def filled (e : PoolEntry) : List (Option Constant) :=
  e.constant? :: List.replicate (e.slots - 1) none

/-- The length of a text fits in its two bytes, and its bytes spell one. -/
def Legible : PoolEntry → Prop
  | .utf8 text => text.length < 2 ^ 16 ∧ (ModifiedUtf8.decode? text).isSome
  | _ => True

private theorem reads_one {α : Type} {tag : UInt8} {r : Reader α} {f : α → Constant} {bytes : Bytes}
    {a : α} (body : Constant.readBody tag.toNat = r >>= fun a => pure (f a)) (reads : Reads r bytes a) :
    Reads Constant.read (tag :: bytes) (f a) := by
  have both : Reads (u1 >>= Constant.readBody) ([tag] ++ bytes) (f a) :=
    (Reads.u1 tag).bind (body ▸ reads.map)
  exact both

private theorem reads_two {tag : UInt8} {f : Nat → Nat → Constant}
    (body : Constant.readBody tag.toNat = u2 >>= fun a => u2 >>= fun b => pure (f a b)) (a b : Nat) :
    Reads Constant.read (tag :: (ofNat2 a ++ ofNat2 b)) (f (a % 2 ^ 16) (b % 2 ^ 16)) := by
  have both : Reads (u1 >>= Constant.readBody) ([tag] ++ (ofNat2 a ++ ofNat2 b))
      (f (a % 2 ^ 16) (b % 2 ^ 16)) :=
    (Reads.u1 tag).bind (body ▸ (Reads.u2 a).bind (Reads.u2 b).map)
  exact both

/-- A constant is read off its bytes. -/
theorem reads_bytes {e : PoolEntry} (legible : e.Legible) :
    ∃ c, e.constant? = some c ∧ c.isWide = decide (e.slots = 2) ∧ Reads Constant.read e.bytes c := by
  cases e with
  | utf8 text =>
    obtain ⟨fits, spelled⟩ := legible
    obtain ⟨value, decoded⟩ := Option.isSome_iff_exists.1 spelled
    have body : Reads (Constant.readBody 1) (ofNat2 text.length ++ text) (.utf8 value) := by
      refine (Reads.u2_of_lt fits).bind ?_
      rw [← List.append_nil text]
      refine (Reads.take (by simp)).bind ?_
      rw [decoded]
      exact Reads.pure _
    exact ⟨.utf8 value, by simp [constant?, decoded], rfl, (Reads.u1 1).bind body⟩
  | integer bits => exact ⟨_, rfl, rfl, reads_one rfl (.u4 bits)⟩
  | float bits => exact ⟨_, rfl, rfl, reads_one rfl (.u4 bits)⟩
  | long bits => exact ⟨_, rfl, rfl, reads_one rfl (.u8 bits)⟩
  | double bits => exact ⟨_, rfl, rfl, reads_one rfl (.u8 bits)⟩
  | classInfo name => exact ⟨_, rfl, rfl, reads_one rfl (.u2 name)⟩
  | string text => exact ⟨_, rfl, rfl, reads_one rfl (.u2 text)⟩
  | fieldRef owner member => exact ⟨_, rfl, rfl, reads_two rfl owner member⟩
  | methodRef owner member => exact ⟨_, rfl, rfl, reads_two rfl owner member⟩
  | interfaceMethodRef owner member => exact ⟨_, rfl, rfl, reads_two rfl owner member⟩
  | nameAndType name descriptor => exact ⟨_, rfl, rfl, reads_two rfl name descriptor⟩
  | methodHandle kind reference =>
    have body : Reads (Constant.readBody 15) ([UInt8.ofNat kind] ++ ofNat2 reference)
        (.methodHandle (UInt8.ofNat kind).toNat (reference % 2 ^ 16)) :=
      (Reads.u1 (UInt8.ofNat kind)).bind (Reads.u2 reference).map
    refine ⟨_, rfl, rfl, ?_⟩
    rw [← UInt8.toNat_ofNat']
    exact (Reads.u1 15).bind body
  | methodType descriptor => exact ⟨_, rfl, rfl, reads_one rfl (.u2 descriptor)⟩
  | dynamic bootstrap member => exact ⟨_, rfl, rfl, reads_two rfl bootstrap member⟩
  | invokeDynamic bootstrap member => exact ⟨_, rfl, rfl, reads_two rfl bootstrap member⟩
  | moduleInfo name => exact ⟨_, rfl, rfl, reads_one rfl (.u2 name)⟩
  | packageInfo name => exact ⟨_, rfl, rfl, reads_one rfl (.u2 name)⟩

theorem slots_eq (e : PoolEntry) : e.slots = 1 ∨ e.slots = 2 := by
  cases e <;> simp [slots]

end PoolEntry

namespace Image

/-- The constant pool of a layout. -/
def constantPool (constants : List PoolEntry) : ConstantPool :=
  ⟨none :: constants.flatMap PoolEntry.filled⟩

private theorem reads_slots {constants : List PoolEntry} (legible : ∀ e ∈ constants, e.Legible) :
    Reads (ConstantPool.readSlots (PoolEntry.slotCount constants))
      (constants.flatMap PoolEntry.bytes) (constants.flatMap PoolEntry.filled) := by
  induction constants with
  | nil => exact Reads.pure _
  | cons e constants ih =>
    obtain ⟨c, constant, wide, reads⟩ := PoolEntry.reads_bytes (legible e List.mem_cons_self)
    have others := ih fun e member => legible e (List.mem_cons_of_mem _ member)
    rw [PoolEntry.slotCount, List.flatMap_cons, List.flatMap_cons, PoolEntry.filled, constant]
    rcases e.slots_eq with one | two
    · rw [one, Nat.add_comm, ConstantPool.readSlots]
      refine reads.bind ?_
      rw [wide, one]
      exact others.map
    · rw [two, Nat.add_comm, ConstantPool.readSlots]
      refine reads.bind ?_
      rw [wide, two]
      exact others.map

/-- A constant pool is read off its layout. -/
theorem reads_pool {constants : List PoolEntry} (legible : ∀ e ∈ constants, e.Legible)
    (fits : PoolEntry.slotCount constants + 1 < 2 ^ 16) :
    Reads ConstantPool.read (pool constants) (constantPool constants) :=
  (Reads.u2_of_lt fits).bind (reads_slots legible).map

/-! ### Attributes -/

variable {pool : ConstantPool}

/-- An attribute has a given name and contents that are understood, or another name. -/
structure Attribute.Denotes {α : Type} (pool : ConstantPool) (label : String) (recognised : Reader α)
    (a : Attribute) (result : Option α) : Prop where
  fits : a.name < 2 ^ 16 ∧ a.contents.length < 2 ^ 32
  means : ∃ name, pool.text a.name = .ok name ∧
    match result with
    | some x => name = label ∧ Reads recognised a.contents x
    | none => name ≠ label

private theorem reads_attribute {a : Attribute} {name : String}
    (fits : a.name < 2 ^ 16 ∧ a.contents.length < 2 ^ 32) (named : pool.text a.name = .ok name) :
    Reads (ClassFile.readAttribute pool) a.bytes (name, a.contents) := by
  rw [Attribute.bytes, List.append_assoc]
  refine (Reads.u2_of_lt fits.1).bind ((Reads.u4_of_lt fits.2).bind ?_)
  rw [← List.append_nil a.contents]
  refine (Reads.take (by simp)).bind (Reads.lift_bind named ?_)
  rw [List.append_nil]
  exact Reads.pure _

/-- The recognised attributes of a table are read off its layout. -/
theorem reads_attributes {α : Type} {label : String} {recognised : Reader α}
    {attributes : List Attribute} {results : List (Option α)} (fits : attributes.length < 2 ^ 16)
    (each : List.Forall₂ (Attribute.Denotes pool label recognised) attributes results) :
    Reads (ClassFile.readAttributes pool label recognised) (table Attribute.bytes attributes)
      (results.filterMap id) := by
  refine (Reads.table fits (each.imp ?_)).map
  intro a result denotes
  obtain ⟨name, named, means⟩ := denotes.means
  rw [← List.append_nil a.bytes]
  refine (reads_attribute denotes.fits named).bind ?_
  cases result with
  | some x =>
    obtain ⟨rfl, reads⟩ := means
    simp only [if_pos]
    exact Reads.lift_bind (reads.all _) (Reads.pure _)
  | none =>
    simp only [if_neg means]
    exact Reads.pure _

/-! ### Code -/

/-- A handler with its exception type looked up. -/
structure Handler.Denotes (pool : ConstantPool) (h : Handler) (e : ExceptionHandler) : Prop where
  start : h.start < 2 ^ 16 ∧ e.start = h.start
  stop : h.stop < 2 ^ 16 ∧ e.stop = h.stop
  handler : h.handler < 2 ^ 16 ∧ e.handler = h.handler
  catchType : h.catchType < 2 ^ 16 ∧ pool.className? h.catchType = .ok e.catchType

theorem Handler.Denotes.reads {h : Handler} {e : ExceptionHandler} (denotes : h.Denotes pool e) :
    Reads (ClassFile.readHandler pool) h.bytes e := by
  obtain ⟨⟨start, sameStart⟩, ⟨stop, sameStop⟩, ⟨handler, sameHandler⟩, catchType, caught⟩ := denotes
  cases e
  cases sameStart
  cases sameStop
  cases sameHandler
  rw [Handler.bytes, List.append_assoc, List.append_assoc, ← List.append_nil (ofNat2 h.catchType)]
  refine (Reads.u2_of_lt start).bind ((Reads.u2_of_lt stop).bind ((Reads.u2_of_lt handler).bind ?_))
  exact (Reads.u2_of_lt catchType).bind (Reads.lift_bind caught (Reads.pure _))

/-- The lines of a table are read off its layout. -/
theorem reads_lineTable {lines : List (Nat × Nat)} (fits : lines.length < 2 ^ 16)
    (each : ∀ l ∈ lines, l.1 < 2 ^ 16 ∧ l.2 < 2 ^ 16) :
    Reads (Reader.table ClassFile.readLine) (lineTable lines)
      (lines.map fun l => ⟨l.1, l.2⟩) := by
  refine Reads.table fits ?_
  rw [List.forall₂_map_right_iff, List.forall₂_same]
  intro l member
  obtain ⟨start, line⟩ := each l member
  exact (Reads.u2_of_lt start).bind (Reads.u2_of_lt line).map

/-- The body of a method, with the exception types of its handlers looked up. -/
structure Code.Denotes (pool : ConstantPool) (c : Code) (k : Linkage.Code) : Prop where
  stack : c.maxStack < 2 ^ 16 ∧ c.maxLocals < 2 ^ 16
  bytecode : c.bytecode.length < 2 ^ 32 ∧ k.bytecode = c.bytecode
  handlers : c.handlers.length < 2 ^ 16 ∧
    List.Forall₂ (Handler.Denotes pool) c.handlers k.handlers
  lines : c.attributes.length < 2 ^ 16 ∧ ∃ tables, List.Forall₂
    (Attribute.Denotes pool "LineNumberTable" (Reader.table ClassFile.readLine)) c.attributes tables ∧
      k.lines = (tables.filterMap id).flatten

theorem Code.Denotes.reads {c : Code} {k : Linkage.Code} (denotes : c.Denotes pool k) :
    Reads (ClassFile.readCode pool) c.bytes k := by
  obtain ⟨⟨stack, locals⟩, ⟨length, same⟩, ⟨count, handlers⟩, few, tables, attributes, lines⟩ := denotes
  cases k
  cases same
  cases lines
  simp only [Code.bytes, List.append_assoc]
  refine (Reads.u2_of_lt stack).bind ((Reads.u2_of_lt locals).bind ((Reads.u4_of_lt length).bind ?_))
  refine (Reads.take rfl).bind ?_
  refine (Reads.table count (handlers.imp fun _ _ => Handler.Denotes.reads)).bind ?_
  exact (reads_attributes few attributes).map

/-! ### Members and classes -/

/-- A field or a method with its texts looked up. Of several bodies the last counts. -/
structure Member.Denotes (pool : ConstantPool) (m : Member) (k : ClassMember) : Prop where
  access : m.access < 2 ^ 16 ∧ k.access = m.access
  name : m.name < 2 ^ 16 ∧ pool.text m.name = .ok k.name
  descriptor : m.descriptor < 2 ^ 16 ∧ pool.text m.descriptor = .ok k.descriptor
  code : m.attributes.length < 2 ^ 16 ∧ ∃ codes, List.Forall₂
    (Attribute.Denotes pool "Code" (ClassFile.readCode pool)) m.attributes codes ∧
      k.code = (codes.filterMap id).getLast?

theorem Member.Denotes.reads {m : Member} {k : ClassMember} (denotes : m.Denotes pool k) :
    Reads (ClassFile.readMember pool) m.bytes k := by
  obtain ⟨⟨access, same⟩, ⟨name, named⟩, ⟨descriptor, described⟩, few, codes, attributes, code⟩ :=
    denotes
  cases k
  cases same
  cases code
  simp only [Member.bytes, List.append_assoc]
  refine (Reads.u2_of_lt access).bind ((Reads.u2_of_lt name).bind (Reads.lift_bind named ?_))
  refine (Reads.u2_of_lt descriptor).bind (Reads.lift_bind described ?_)
  exact (reads_attributes few attributes).map

/-- A bootstrap method, of which the indices of the arguments are kept. -/
structure Bootstrap.Fits (b : Bootstrap) : Prop where
  method : b.method < 2 ^ 16
  count : b.arguments.length < 2 ^ 16
  arguments : ∀ n ∈ b.arguments, n < 2 ^ 16

/-- The bootstrap methods of a table are read off its layout. -/
theorem reads_bootstraps {bootstraps : List Bootstrap} (fits : bootstraps.length < 2 ^ 16)
    (each : ∀ b ∈ bootstraps, b.Fits) :
    Reads (Reader.table ClassFile.readBootstrap) (table Bootstrap.bytes bootstraps)
      (bootstraps.map Bootstrap.arguments) := by
  refine Reads.table fits ?_
  rw [List.forall₂_map_right_iff, List.forall₂_same]
  intro b member
  obtain ⟨method, count, arguments⟩ := each b member
  refine (Reads.u2_of_lt method).bind (Reads.table count ?_)
  rw [List.forall₂_same]
  exact fun n inside => Reads.u2_of_lt (arguments n inside)

/-- A class file as a layout denotes it: every index is looked up in the constant pool. Of several
tables of bootstrap methods the last counts. -/
structure Denotes (i : Image) (f : ClassFile) : Prop where
  version : (i.minor < 2 ^ 16 ∧ f.minor = i.minor) ∧ i.major < 2 ^ 16 ∧ f.major = i.major
  legible : ∀ e ∈ i.constants, e.Legible
  pool : PoolEntry.slotCount i.constants + 1 < 2 ^ 16 ∧ f.pool = constantPool i.constants
  access : i.access < 2 ^ 16 ∧ f.access = i.access
  thisClass : i.thisClass < 2 ^ 16 ∧ f.pool.className i.thisClass = .ok f.thisClass
  superClass : i.superClass < 2 ^ 16 ∧ f.pool.className? i.superClass = .ok f.superClass
  interfaces : i.interfaces.length < 2 ^ 16 ∧ List.Forall₂
    (fun n name => n < 2 ^ 16 ∧ f.pool.className n = .ok name) i.interfaces f.interfaces
  fields : i.fields.length < 2 ^ 16 ∧ List.Forall₂ (Member.Denotes f.pool) i.fields f.fields
  methods : i.methods.length < 2 ^ 16 ∧ List.Forall₂ (Member.Denotes f.pool) i.methods f.methods
  bootstraps : i.attributes.length < 2 ^ 16 ∧ ∃ tables, List.Forall₂ (Attribute.Denotes f.pool
    "BootstrapMethods" (Reader.table ClassFile.readBootstrap)) i.attributes tables ∧
      f.bootstraps = (tables.filterMap id).getLast?.getD []

/-- What a layout denotes is read off its bytes. -/
theorem Denotes.ofBytes {i : Image} {f : ClassFile} (denotes : i.Denotes f) :
    ClassFile.ofBytes i.bytes = .ok f := by
  obtain ⟨⟨⟨minor, sameMinor⟩, major, sameMajor⟩, legible, ⟨size, samePool⟩, ⟨access, sameAccess⟩,
    ⟨this, thisClass⟩, ⟨super, superClass⟩, ⟨interfaceCount, interfaces⟩, ⟨fieldCount, fields⟩,
    ⟨methodCount, methods⟩, attributeCount, tables, attributes, sameTables⟩ := denotes
  obtain ⟨minor', major', access', this', super', interfaces', fields', methods', bootstraps', pool'⟩ :=
    f
  dsimp only at sameMinor sameMajor samePool sameAccess sameTables
  subst sameMinor sameMajor samePool sameAccess sameTables
  have magic : (0xCAFEBABE : Nat) < 2 ^ 32 := by decide
  refine Reads.all (r := ClassFile.read) _ ?_
  simp only [bytes, List.append_assoc]
  refine (Reads.u4_of_lt magic).bind ?_
  refine (Reads.u2_of_lt minor).bind ((Reads.u2_of_lt major).bind ?_)
  refine (reads_pool legible size).bind ((Reads.u2_of_lt access).bind ?_)
  refine (Reads.u2_of_lt this).bind (Reads.lift_bind thisClass ?_)
  refine (Reads.u2_of_lt super).bind (Reads.lift_bind superClass ?_)
  refine (Reads.table interfaceCount (interfaces.imp ?_)).bind ?_
  · rintro n name ⟨fits, named⟩
    rw [← List.append_nil (ofNat2 n)]
    exact (Reads.u2_of_lt fits).bind (Reads.lift named)
  · refine (Reads.table fieldCount (fields.imp fun _ _ => Member.Denotes.reads)).bind ?_
    refine (Reads.table methodCount (methods.imp fun _ _ => Member.Denotes.reads)).bind ?_
    exact (reads_attributes attributeCount attributes).map

end Image
end Linkage
