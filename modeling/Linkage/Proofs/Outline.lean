import Mathlib.Data.List.Flatten
import Linkage.Data.Outcome
import Linkage.Proofs.Encoding
import Linkage.Proofs.Layout

/-!
Class files in outline: the tables of a class file with the attributes told apart that are looked
for where they stand, and every other attribute as a name and some bytes. What an outline shows is
said by looking its indices up in its constants (`Outline.Shows`), and reading the bytes of an
outline gives what it shows, whatever the other attributes hold (`Outline.ofBytes_bytes`).
-/
namespace Linkage
open Reader

/-! ### Constants by index -/

namespace PoolEntry

/-- A constant as it is laid out: its numbers fit in their bytes, and a text is spelled unit by
unit, where a surrogate without its partner may occur. -/
inductive LaysOut : PoolEntry → Constant → Prop
  | utf8 {units : List UInt16} : (ModifiedUtf8.encodeUnits units).length < 2 ^ 16 →
    LaysOut (.utf8 (ModifiedUtf8.encodeUnits units)) (.utf8 (String.ofList (Utf16.decode units)))
  | integer {bits : Nat} : bits < 2 ^ 32 → LaysOut (.integer bits) (.integer bits)
  | float {bits : Nat} : bits < 2 ^ 32 → LaysOut (.float bits) (.float bits)
  | long {bits : Nat} : bits < 2 ^ 64 → LaysOut (.long bits) (.long bits)
  | double {bits : Nat} : bits < 2 ^ 64 → LaysOut (.double bits) (.double bits)
  | classInfo {name : Nat} : name < 2 ^ 16 → LaysOut (.classInfo name) (.classInfo name)
  | string {text : Nat} : text < 2 ^ 16 → LaysOut (.string text) (.string text)
  | fieldRef {owner member : Nat} : owner < 2 ^ 16 → member < 2 ^ 16 →
    LaysOut (.fieldRef owner member) (.fieldRef owner member)
  | methodRef {owner member : Nat} : owner < 2 ^ 16 → member < 2 ^ 16 →
    LaysOut (.methodRef owner member) (.methodRef owner member)
  | interfaceMethodRef {owner member : Nat} : owner < 2 ^ 16 → member < 2 ^ 16 →
    LaysOut (.interfaceMethodRef owner member) (.interfaceMethodRef owner member)
  | nameAndType {name descriptor : Nat} : name < 2 ^ 16 → descriptor < 2 ^ 16 →
    LaysOut (.nameAndType name descriptor) (.nameAndType name descriptor)
  | methodHandle {kind reference : Nat} : kind < 2 ^ 8 → reference < 2 ^ 16 →
    LaysOut (.methodHandle kind reference) (.methodHandle kind reference)
  | methodType {descriptor : Nat} : descriptor < 2 ^ 16 →
    LaysOut (.methodType descriptor) (.methodType descriptor)
  | dynamic {bootstrap member : Nat} : bootstrap < 2 ^ 16 → member < 2 ^ 16 →
    LaysOut (.dynamic bootstrap member) (.dynamic bootstrap member)
  | invokeDynamic {bootstrap member : Nat} : bootstrap < 2 ^ 16 → member < 2 ^ 16 →
    LaysOut (.invokeDynamic bootstrap member) (.invokeDynamic bootstrap member)
  | moduleInfo {name : Nat} : name < 2 ^ 16 → LaysOut (.moduleInfo name) (.moduleInfo name)
  | packageInfo {name : Nat} : name < 2 ^ 16 → LaysOut (.packageInfo name) (.packageInfo name)

theorem LaysOut.constant {e : PoolEntry} {c : Constant} (lays : e.LaysOut c) :
    e.Legible ∧ e.constant? = some c := by
  cases lays with
  | utf8 fits =>
    have decoded := ModifiedUtf8.decode?_encodeUnits
    exact ⟨⟨fits, by simp [decoded]⟩, by simp [constant?, decoded]⟩
  | _ => exact ⟨trivial, by simp (disch := assumption) only [constant?, Nat.mod_eq_of_lt]⟩

/-- The constant with an index. Indices start at 1, and the second slot of a wide constant has
none. -/
def at? : List PoolEntry → Nat → Option PoolEntry
  | [], _ => none
  | e :: rest, index =>
    if index = 1 then some e
    else if e.slots < index then at? rest (index - e.slots)
    else none

theorem le_slotCount_of_at? {constants : List PoolEntry} {index : Nat} {e : PoolEntry}
    (found : at? constants index = some e) : index ≤ slotCount constants := by
  induction constants generalizing index with
  | nil => simp [at?] at found
  | cons first rest ih =>
    have slots := first.slots_eq
    rw [at?] at found
    rw [slotCount]
    split at found
    · omega
    · split at found
      · have := ih found
        omega
      · cases found

theorem mem_of_at? {constants : List PoolEntry} {index : Nat} {e : PoolEntry}
    (found : at? constants index = some e) : e ∈ constants := by
  induction constants generalizing index with
  | nil => simp [at?] at found
  | cons first rest ih =>
    rw [at?] at found
    split at found
    · simp_all
    · split at found
      · exact List.mem_cons_of_mem _ (ih found)
      · cases found

/-- The slots that constants fill hold them under their indices. -/
theorem getElem?_flatMap_filled (constants : List PoolEntry) (slot : Nat) :
    (constants.flatMap filled)[slot]?.join = (at? constants (slot + 1)).bind constant? := by
  induction constants generalizing slot with
  | nil => rfl
  | cons e rest ih =>
    rw [List.flatMap_cons, filled, at?]
    rcases e.slots_eq with one | two
    · cases slot with
      | zero => simp
      | succ slot => simp [one, ih]
    · cases slot with
      | zero => simp
      | succ slot =>
        cases slot with
        | zero => simp [two]
        | succ slot => simp [two, ih]

end PoolEntry

/-- The text with an index. -/
def TextAt (constants : List PoolEntry) (index : Nat) (text : String) : Prop :=
  ∃ units, PoolEntry.at? constants index = some (.utf8 (ModifiedUtf8.encodeUnits units)) ∧
    text = String.ofList (Utf16.decode units)

/-- The class name with an index. -/
def ClassAt (constants : List PoolEntry) (index : Nat) (name : String) : Prop :=
  ∃ n, PoolEntry.at? constants index = some (.classInfo n) ∧ TextAt constants n name

/-- The class name with an index, where index 0 means none. -/
def ClassOrNoneAt (constants : List PoolEntry) (index : Nat) : Option String → Prop
  | none => index = 0
  | some name => ClassAt constants index name

section
variable {constants : List PoolEntry} {index : Nat} {name : String}

theorem Image.get_constantPool {c : Constant} :
    (constantPool constants).get index = .ok c ↔
      ∃ e, PoolEntry.at? constants index = some e ∧ e.constant? = some c := by
  have get : (constantPool constants).get index = .ok c ↔
      (constantPool constants).slots[index]?.join = some c := by
    rw [ConstantPool.get]
    rcases (constantPool constants).slots[index]? with _ | _ | _ <;> simp
  rw [get, constantPool]
  cases index with
  | zero =>
    cases constants with
    | nil => simp [PoolEntry.at?]
    | cons e rest => simp [PoolEntry.at?]
  | succ slot =>
    rw [List.getElem?_cons_succ, PoolEntry.getElem?_flatMap_filled, Option.bind_eq_some_iff]

theorem TextAt.text (found : TextAt constants index name) :
    (Image.constantPool constants).text index = .ok name := by
  obtain ⟨units, entry, rfl⟩ := found
  refine bind_eq_ok.2 ⟨.utf8 (String.ofList (Utf16.decode units)), ?_, rfl⟩
  have decoded := ModifiedUtf8.decode?_encodeUnits units
  exact Image.get_constantPool.2 ⟨_, entry, by simp [PoolEntry.constant?, decoded]⟩

/-- A text that is encoded stands for itself. -/
theorem TextAt.of_encode (found : PoolEntry.at? constants index =
    some (.utf8 (ModifiedUtf8.encode name))) : TextAt constants index name := by
  refine ⟨Utf16.encode name.toList, found, ?_⟩
  rw [Utf16.decode_encode, String.ofList_toList]

theorem TextAt.lt (found : TextAt constants index name)
    (fits : PoolEntry.slotCount constants + 1 < 2 ^ 16) : index < 2 ^ 16 := by
  obtain ⟨units, entry, -⟩ := found
  have := PoolEntry.le_slotCount_of_at? entry
  omega

theorem ClassAt.className (found : ClassAt constants index name)
    (fits : PoolEntry.slotCount constants + 1 < 2 ^ 16) :
    (Image.constantPool constants).className index = .ok name := by
  obtain ⟨n, entry, text⟩ := found
  have small : n % 2 ^ 16 = n := Nat.mod_eq_of_lt (text.lt fits)
  refine bind_eq_ok.2 ⟨.classInfo n, ?_, text.text⟩
  exact Image.get_constantPool.2 ⟨_, entry, by simp only [PoolEntry.constant?, small]⟩

theorem ClassAt.lt (found : ClassAt constants index name)
    (fits : PoolEntry.slotCount constants + 1 < 2 ^ 16) : index < 2 ^ 16 := by
  obtain ⟨n, entry, -⟩ := found
  have := PoolEntry.le_slotCount_of_at? entry
  omega

theorem ClassAt.ne_zero (found : ClassAt constants index name) : index ≠ 0 := by
  rintro rfl
  obtain ⟨n, entry, -⟩ := found
  cases constants <;> simp [PoolEntry.at?] at entry

theorem ClassOrNoneAt.className? {name : Option String} (found : ClassOrNoneAt constants index name)
    (fits : PoolEntry.slotCount constants + 1 < 2 ^ 16) :
    (Image.constantPool constants).className? index = .ok name ∧ index < 2 ^ 16 := by
  cases name with
  | none =>
    obtain rfl : index = 0 := found
    exact ⟨rfl, by decide⟩
  | some name =>
    have isClass : ClassAt constants index name := found
    rw [ConstantPool.className?, if_neg isClass.ne_zero, isClass.className fits]
    exact ⟨rfl, isClass.lt fits⟩

end

/-! ### Outlines -/

namespace Outline

/-- An attribute with the index of its name: one that is looked for where it stands, or any other,
which may hold any bytes. -/
inductive Attribute (α : Type) where
  | sought (name : Nat) (value : α)
  | other (name : Nat) (contents : Bytes)

namespace Attribute
variable {α β : Type}

def value? : Attribute α → Option α
  | .sought _ value => some value
  | .other _ _ => none

def layout (write : α → Bytes) : Attribute α → Image.Attribute
  | .sought name value => ⟨name, write value⟩
  | .other name contents => ⟨name, contents⟩

def map (f : α → β) : Attribute α → Attribute β
  | .sought name value => .sought name (f value)
  | .other name contents => .other name contents

/-- An attribute that is looked for has the name that is looked for and a value in range, and the
name of any other is another. -/
def WellFormed (constants : List PoolEntry) (label : String) (write : α → Bytes) (fits : α → Prop) :
    Attribute α → Prop
  | .sought name value =>
    TextAt constants name label ∧ fits value ∧ (write value).length < 2 ^ 32
  | .other name contents =>
    (∃ text, TextAt constants name text ∧ text ≠ label) ∧ contents.length < 2 ^ 32

end Attribute

/-- The body of a method. Line tables are looked for among its attributes. -/
structure Code where
  maxStack : Nat
  maxLocals : Nat
  bytecode : Bytes
  handlers : List Image.Handler
  attributes : List (Attribute (List LineNumber))

/-- A field or a method. Bodies are looked for among its attributes. -/
structure Member where
  access : Nat
  name : Nat
  descriptor : Nat
  attributes : List (Attribute Code)

end Outline

/-- A class file in outline. Tables of bootstrap methods are looked for among its attributes. -/
structure Outline where
  minor : Nat
  major : Nat
  constants : List PoolEntry
  access : Nat
  thisClass : Nat
  superClass : Nat
  interfaces : List Nat
  fields : List Outline.Member
  methods : List Outline.Member
  attributes : List (Outline.Attribute (List Image.Bootstrap))

namespace Outline

/-! ### Bytes -/

def lineTable (lines : List LineNumber) : Bytes :=
  Image.lineTable (lines.map fun l => (l.start, l.line))

def Code.layout (c : Code) : Image.Code :=
  ⟨c.maxStack, c.maxLocals, c.bytecode, c.handlers, c.attributes.map (Attribute.layout lineTable)⟩

def Code.bytes (c : Code) : Bytes := c.layout.bytes

def Member.layout (m : Member) : Image.Member :=
  ⟨m.access, m.name, m.descriptor, m.attributes.map (Attribute.layout Code.bytes)⟩

def bootstrapTable (bootstraps : List Image.Bootstrap) : Bytes :=
  Image.table Image.Bootstrap.bytes bootstraps

def layout (o : Outline) : Image :=
  { minor := o.minor, major := o.major, constants := o.constants, access := o.access
    thisClass := o.thisClass, superClass := o.superClass, interfaces := o.interfaces
    fields := o.fields.map Member.layout, methods := o.methods.map Member.layout
    attributes := o.attributes.map (Attribute.layout bootstrapTable) }

/-- The bytes of an outline: every number most significant byte first, every table after its count
and every attribute after its length. -/
def bytes (o : Outline) : Bytes := o.layout.bytes

/-! ### Cross-references and ranges -/

/-- Numbers fit in their bytes, and indices are those of constants of the right kind. -/
structure Code.WellFormed (constants : List PoolEntry) (c : Code) : Prop where
  stack : c.maxStack < 2 ^ 16 ∧ c.maxLocals < 2 ^ 16
  bytecode : c.bytecode.length < 2 ^ 32
  handlers : c.handlers.length < 2 ^ 16 ∧ ∀ h ∈ c.handlers,
    h.start < 2 ^ 16 ∧ h.stop < 2 ^ 16 ∧ h.handler < 2 ^ 16 ∧
      ∃ name, ClassOrNoneAt constants h.catchType name
  attributes : c.attributes.length < 2 ^ 16 ∧ ∀ a ∈ c.attributes,
    a.WellFormed constants "LineNumberTable" lineTable fun lines =>
      lines.length < 2 ^ 16 ∧ ∀ l ∈ lines, l.start < 2 ^ 16 ∧ l.line < 2 ^ 16

structure Member.WellFormed (constants : List PoolEntry) (m : Member) : Prop where
  access : m.access < 2 ^ 16
  name : ∃ text, TextAt constants m.name text
  descriptor : ∃ text, TextAt constants m.descriptor text
  attributes : m.attributes.length < 2 ^ 16 ∧ ∀ a ∈ m.attributes,
    a.WellFormed constants "Code" Code.bytes (Code.WellFormed constants)

structure WellFormed (o : Outline) : Prop where
  version : o.minor < 2 ^ 16 ∧ o.major < 2 ^ 16
  constants : ∀ e ∈ o.constants, ∃ c, e.LaysOut c
  slots : PoolEntry.slotCount o.constants + 1 < 2 ^ 16
  access : o.access < 2 ^ 16
  thisClass : ∃ name, ClassAt o.constants o.thisClass name
  superClass : ∃ name, ClassOrNoneAt o.constants o.superClass name
  interfaces : o.interfaces.length < 2 ^ 16 ∧
    ∀ i ∈ o.interfaces, ∃ name, ClassAt o.constants i name
  fields : o.fields.length < 2 ^ 16 ∧ ∀ m ∈ o.fields, m.WellFormed o.constants
  methods : o.methods.length < 2 ^ 16 ∧ ∀ m ∈ o.methods, m.WellFormed o.constants
  attributes : o.attributes.length < 2 ^ 16 ∧ ∀ a ∈ o.attributes,
    a.WellFormed o.constants "BootstrapMethods" bootstrapTable fun bootstraps =>
      bootstraps.length < 2 ^ 16 ∧ ∀ b ∈ bootstraps, b.Fits

/-! ### What an outline shows -/

structure ShowsHandler (constants : List PoolEntry) (h : Image.Handler) (e : ExceptionHandler) :
    Prop where
  range : e.start = h.start ∧ e.stop = h.stop ∧ e.handler = h.handler
  catchType : ClassOrNoneAt constants h.catchType e.catchType

/-- The lines are those of all line tables, one table after the other. -/
structure Code.Shows (constants : List PoolEntry) (c : Code) (k : Linkage.Code) : Prop where
  bytecode : k.bytecode = c.bytecode
  handlers : List.Forall₂ (ShowsHandler constants) c.handlers k.handlers
  lines : k.lines = (c.attributes.filterMap Attribute.value?).flatten

/-- The body is the last one. -/
structure Member.Shows (constants : List PoolEntry) (m : Member) (k : ClassMember) : Prop where
  access : k.access = m.access
  name : TextAt constants m.name k.name
  descriptor : TextAt constants m.descriptor k.descriptor
  code : Option.Rel (Code.Shows constants) (m.attributes.filterMap Attribute.value?).getLast? k.code

/-- A class file has the numbers of an outline and the names that its indices stand for. The
bootstrap methods are those of the last table, and the constant pool has the constants under their
indices. -/
structure Shows (o : Outline) (f : ClassFile) : Prop where
  version : f.minor = o.minor ∧ f.major = o.major
  access : f.access = o.access
  thisClass : ClassAt o.constants o.thisClass f.thisClass
  superClass : ClassOrNoneAt o.constants o.superClass f.superClass
  interfaces : List.Forall₂ (ClassAt o.constants) o.interfaces f.interfaces
  fields : List.Forall₂ (Member.Shows o.constants) o.fields f.fields
  methods : List.Forall₂ (Member.Shows o.constants) o.methods f.methods
  bootstraps : f.bootstraps =
    ((o.attributes.filterMap Attribute.value?).getLast?.getD []).map Image.Bootstrap.arguments
  constants : ∀ index c, f.pool.get index = .ok c ↔
    ∃ e, PoolEntry.at? o.constants index = some e ∧ e.LaysOut c

/-! ### Reading an outline

Under the right cross-references every look-up gives a name, so what an outline shows is a function
of it (`view`), and the layout of an outline denotes its view. -/

section
variable (pool : ConstantPool)

private def textOf (index : Nat) : String := (pool.text index).toOption.getD ""

private def classOf (index : Nat) : String := (pool.className index).toOption.getD ""

private def classOrNoneOf (index : Nat) : Option String :=
  (pool.className? index).toOption.getD none

private def viewHandler (h : Image.Handler) : ExceptionHandler :=
  ⟨h.start, h.stop, h.handler, classOrNoneOf pool h.catchType⟩

private def Code.view (c : Code) : Linkage.Code :=
  ⟨c.bytecode, c.handlers.map (viewHandler pool), (c.attributes.filterMap Attribute.value?).flatten⟩

private def Member.view (m : Member) : ClassMember :=
  { access := m.access, name := textOf pool m.name, descriptor := textOf pool m.descriptor
    code := (m.attributes.filterMap Attribute.value?).getLast?.map (Code.view pool) }

end

private def view (o : Outline) : ClassFile :=
  let pool := Image.constantPool o.constants
  { minor := o.minor, major := o.major, access := o.access, thisClass := classOf pool o.thisClass
    superClass := classOrNoneOf pool o.superClass, interfaces := o.interfaces.map (classOf pool)
    fields := o.fields.map (Member.view pool), methods := o.methods.map (Member.view pool)
    bootstraps :=
      ((o.attributes.filterMap Attribute.value?).getLast?.getD []).map Image.Bootstrap.arguments
    pool }

section
variable {constants : List PoolEntry} {index : Nat}

private theorem textOf_eq {text : String} (found : TextAt constants index text) :
    textOf (Image.constantPool constants) index = text := by
  simp [textOf, found.text, Except.toOption]

private theorem text_textOf (found : ∃ text, TextAt constants index text) :
    (Image.constantPool constants).text index =
      .ok (textOf (Image.constantPool constants) index) := by
  obtain ⟨text, isText⟩ := found
  rw [textOf_eq isText, isText.text]

variable (fits : PoolEntry.slotCount constants + 1 < 2 ^ 16)
include fits

private theorem classOf_eq {name : String} (found : ClassAt constants index name) :
    classOf (Image.constantPool constants) index = name := by
  simp [classOf, found.className fits, Except.toOption]

private theorem classOrNoneOf_eq {name : Option String}
    (found : ClassOrNoneAt constants index name) :
    classOrNoneOf (Image.constantPool constants) index = name := by
  simp [classOrNoneOf, (found.className? fits).1, Except.toOption]

/-- The attributes that are looked for are read off, and the others are stepped over. -/
private theorem denotes_attributes {α β : Type} {label : String} {write : α → Bytes}
    {inRange : α → Prop} {recognised : Reader β} {view : α → β} {attributes : List (Attribute α)}
    (each : ∀ a ∈ attributes, a.WellFormed constants label write inRange)
    (reads : ∀ value, inRange value → Reads recognised (write value) (view value)) :
    List.Forall₂ (Image.Attribute.Denotes (Image.constantPool constants) label recognised)
      (attributes.map (Attribute.layout write)) (attributes.map fun a => a.value?.map view) := by
  rw [List.forall₂_map_left_iff, List.forall₂_map_right_iff, List.forall₂_same]
  intro a member
  have wellFormed := each a member
  cases a with
  | sought name value =>
    obtain ⟨named, inRange, short⟩ := wellFormed
    exact ⟨⟨named.lt fits, short⟩, label, named.text, rfl, reads value inRange⟩
  | other name contents =>
    obtain ⟨⟨text, named, differs⟩, short⟩ := wellFormed
    exact ⟨⟨named.lt fits, short⟩, text, named.text, differs⟩

omit fits in
private theorem filterMap_values {α β : Type} (view : α → β) (attributes : List (Attribute α)) :
    (attributes.map fun a => a.value?.map view).filterMap id =
      (attributes.filterMap Attribute.value?).map view := by
  rw [List.filterMap_map, List.map_filterMap]
  rfl

private theorem Code.WellFormed.reads {c : Code} (wellFormed : c.WellFormed constants) :
    Reads (ClassFile.readCode (Image.constantPool constants)) c.bytes
      (c.view (Image.constantPool constants)) := by
  have lines : ∀ lines : List LineNumber,
      (lines.length < 2 ^ 16 ∧ ∀ l ∈ lines, l.start < 2 ^ 16 ∧ l.line < 2 ^ 16) →
        Reads (Reader.table ClassFile.readLine) (lineTable lines) (id lines) := by
    rintro lines ⟨few, small⟩
    have short : (lines.map fun l => (l.start, l.line)).length < 2 ^ 16 := by simpa using few
    have reads := Image.reads_lineTable short (by simpa using small)
    simpa [lineTable, Function.comp_def] using reads
  refine Image.Code.Denotes.reads ⟨wellFormed.stack, ⟨wellFormed.bytecode, rfl⟩,
    ⟨wellFormed.handlers.1, ?_⟩, by simpa [layout] using wellFormed.attributes.1, _,
    denotes_attributes fits wellFormed.attributes.2 lines, ?_⟩
  · simp only [view, layout]
    rw [List.forall₂_map_right_iff, List.forall₂_same]
    intro h member
    obtain ⟨start, stop, handler, name, found⟩ := wellFormed.handlers.2 h member
    obtain ⟨named, small⟩ := found.className? fits
    refine ⟨⟨start, rfl⟩, ⟨stop, rfl⟩, ⟨handler, rfl⟩, small, ?_⟩
    simp only [viewHandler]
    rw [classOrNoneOf_eq fits found, named]
  · rw [filterMap_values, List.map_id]
    rfl

private theorem Member.WellFormed.denotes {m : Member} (wellFormed : m.WellFormed constants) :
    m.layout.Denotes (Image.constantPool constants) (m.view (Image.constantPool constants)) where
  access := ⟨wellFormed.access, rfl⟩
  name := ⟨wellFormed.name.elim fun _ named => named.lt fits, text_textOf wellFormed.name⟩
  descriptor :=
    ⟨wellFormed.descriptor.elim fun _ named => named.lt fits, text_textOf wellFormed.descriptor⟩
  code := by
    refine ⟨by simpa [layout] using wellFormed.attributes.1, _, denotes_attributes fits
      wellFormed.attributes.2 fun c inRange => inRange.reads fits, ?_⟩
    rw [filterMap_values, List.getLast?_map]
    rfl

end

private theorem WellFormed.denotes {o : Outline} (wellFormed : o.WellFormed) :
    o.layout.Denotes o.view := by
  have fits := wellFormed.slots
  have bootstraps : ∀ bootstraps : List Image.Bootstrap,
      (bootstraps.length < 2 ^ 16 ∧ ∀ b ∈ bootstraps, b.Fits) →
        Reads (Reader.table ClassFile.readBootstrap) (bootstrapTable bootstraps)
          (bootstraps.map Image.Bootstrap.arguments) :=
    fun _ inRange => Image.reads_bootstraps inRange.1 inRange.2
  obtain ⟨this, isThis⟩ := wellFormed.thisClass
  obtain ⟨super, isSuper⟩ := wellFormed.superClass
  obtain ⟨superNamed, superSmall⟩ := isSuper.className? fits
  refine ⟨⟨⟨wellFormed.version.1, rfl⟩, wellFormed.version.2, rfl⟩, ?_, ⟨fits, rfl⟩,
    ⟨wellFormed.access, rfl⟩, ⟨isThis.lt fits, ?_⟩, ⟨superSmall, ?_⟩, ⟨wellFormed.interfaces.1, ?_⟩,
    ⟨by simpa [layout] using wellFormed.fields.1, ?_⟩,
    ⟨by simpa [layout] using wellFormed.methods.1, ?_⟩,
    by simpa [layout] using wellFormed.attributes.1, _,
    denotes_attributes fits wellFormed.attributes.2 bootstraps, ?_⟩
  · intro e member
    obtain ⟨c, lays⟩ := wellFormed.constants e member
    exact lays.constant.1
  · simp only [view, layout]
    rw [classOf_eq fits isThis, isThis.className fits]
  · simp only [view, layout]
    rw [classOrNoneOf_eq fits isSuper, superNamed]
  · simp only [view, layout]
    rw [List.forall₂_map_right_iff, List.forall₂_same]
    intro i member
    obtain ⟨name, isClass⟩ := wellFormed.interfaces.2 i member
    exact ⟨isClass.lt fits, by rw [classOf_eq fits isClass, isClass.className fits]⟩
  · simp only [view, layout]
    rw [List.forall₂_map_left_iff, List.forall₂_map_right_iff, List.forall₂_same]
    exact fun m member => (wellFormed.fields.2 m member).denotes fits
  · simp only [view, layout]
    rw [List.forall₂_map_left_iff, List.forall₂_map_right_iff, List.forall₂_same]
    exact fun m member => (wellFormed.methods.2 m member).denotes fits
  · rw [filterMap_values, List.getLast?_map]
    simp only [view]
    cases (o.attributes.filterMap Attribute.value?).getLast? <;> rfl

private theorem Code.WellFormed.shows {constants : List PoolEntry} {c : Code}
    (fits : PoolEntry.slotCount constants + 1 < 2 ^ 16) (wellFormed : c.WellFormed constants) :
    c.Shows constants (c.view (Image.constantPool constants)) := by
  refine ⟨rfl, ?_, rfl⟩
  simp only [view]
  rw [List.forall₂_map_right_iff, List.forall₂_same]
  intro h member
  obtain ⟨-, -, -, name, found⟩ := wellFormed.handlers.2 h member
  refine ⟨⟨rfl, rfl, rfl⟩, ?_⟩
  simp only [viewHandler]
  rwa [classOrNoneOf_eq fits found]

private theorem Member.WellFormed.shows {constants : List PoolEntry} {m : Member}
    (fits : PoolEntry.slotCount constants + 1 < 2 ^ 16) (wellFormed : m.WellFormed constants) :
    m.Shows constants (m.view (Image.constantPool constants)) := by
  obtain ⟨name, named⟩ := wellFormed.name
  obtain ⟨descriptor, described⟩ := wellFormed.descriptor
  refine ⟨rfl, ?_, ?_, ?_⟩
  · rwa [view, textOf_eq named]
  · rwa [view, textOf_eq described]
  · simp only [view]
    cases last : (m.attributes.filterMap Attribute.value?).getLast? with
    | none => exact .none
    | some c =>
      obtain ⟨a, member, value⟩ := List.mem_filterMap.1 (List.mem_of_getLast? last)
      have inside := wellFormed.attributes.2 a member
      cases a with
      | other name contents => cases value
      | sought name body =>
        cases value
        exact .some (inside.2.1.shows fits)

private theorem WellFormed.shows {o : Outline} (wellFormed : o.WellFormed) : o.Shows o.view := by
  have fits := wellFormed.slots
  obtain ⟨this, isThis⟩ := wellFormed.thisClass
  obtain ⟨super, isSuper⟩ := wellFormed.superClass
  refine ⟨⟨rfl, rfl⟩, rfl, ?_, ?_, ?_, ?_, ?_, rfl, ?_⟩
  · rwa [view, classOf_eq fits isThis]
  · rwa [view, classOrNoneOf_eq fits isSuper]
  · simp only [view]
    rw [List.forall₂_map_right_iff, List.forall₂_same]
    intro i member
    obtain ⟨name, isClass⟩ := wellFormed.interfaces.2 i member
    rwa [classOf_eq fits isClass]
  · simp only [view]
    rw [List.forall₂_map_right_iff, List.forall₂_same]
    exact fun m member => (wellFormed.fields.2 m member).shows fits
  · simp only [view]
    rw [List.forall₂_map_right_iff, List.forall₂_same]
    exact fun m member => (wellFormed.methods.2 m member).shows fits
  · intro index c
    simp only [view]
    rw [Image.get_constantPool]
    refine exists_congr fun e => and_congr_right fun found => ?_
    obtain ⟨d, lays⟩ := wellFormed.constants e (PoolEntry.mem_of_at? found)
    constructor
    · intro same
      rw [lays.constant.2, Option.some.injEq] at same
      exact same ▸ lays
    · exact fun lays => lays.constant.2

/-! ### Other attributes -/

/-- The attributes that are looked for. -/
def Attribute.soughtOnly {α : Type} (attributes : List (Attribute α)) : List (Attribute α) :=
  attributes.filter fun a => a.value?.isSome

def Code.bare (c : Code) : Code := { c with attributes := Attribute.soughtOnly c.attributes }

def Member.bare (m : Member) : Member :=
  { m with attributes := (Attribute.soughtOnly m.attributes).map (Attribute.map Code.bare) }

/-- The outline without the attributes that are not looked for where they stand. -/
def bare (o : Outline) : Outline :=
  { o with
    fields := o.fields.map Member.bare
    methods := o.methods.map Member.bare
    attributes := Attribute.soughtOnly o.attributes }

section
variable {α β : Type}

@[simp] theorem Attribute.values_soughtOnly (attributes : List (Attribute α)) :
    (soughtOnly attributes).filterMap value? = attributes.filterMap value? := by
  rw [soughtOnly, List.filterMap_filter]
  refine List.filterMap_congr fun a _ => ?_
  cases a <;> simp [value?]

@[simp] theorem Attribute.values_map (f : α → β) (attributes : List (Attribute α)) :
    (attributes.map (map f)).filterMap value? = (attributes.filterMap value?).map f := by
  rw [List.filterMap_map, List.map_filterMap]
  refine List.filterMap_congr fun a _ => ?_
  cases a <;> rfl

theorem Attribute.soughtOnly_sublist (attributes : List (Attribute α)) :
    (soughtOnly attributes).Sublist attributes := List.filter_sublist

end

private theorem Code.length_bytes_bare (c : Code) : c.bare.bytes.length ≤ c.bytes.length := by
  have fewer := (Attribute.soughtOnly_sublist c.attributes).map (Attribute.layout lineTable)
  have shorter := (fewer.flatMap Image.Attribute.bytes).length_le
  simp only [bytes, Image.Code.bytes, Image.table, layout, bare, List.length_append,
    Bytes.length_ofNat2, Bytes.length_ofNat4]
  omega

private theorem Code.WellFormed.bare {constants : List PoolEntry} {c : Code}
    (wellFormed : c.WellFormed constants) : c.bare.WellFormed constants where
  stack := wellFormed.stack
  bytecode := wellFormed.bytecode
  handlers := wellFormed.handlers
  attributes := by
    have fewer := Attribute.soughtOnly_sublist c.attributes
    exact ⟨Nat.lt_of_le_of_lt fewer.length_le wellFormed.attributes.1,
      fun a member => wellFormed.attributes.2 a (fewer.subset member)⟩

private theorem Member.WellFormed.bare {constants : List PoolEntry} {m : Member}
    (wellFormed : m.WellFormed constants) : m.bare.WellFormed constants where
  access := wellFormed.access
  name := wellFormed.name
  descriptor := wellFormed.descriptor
  attributes := by
    have fewer := Attribute.soughtOnly_sublist m.attributes
    refine ⟨?_, fun a member => ?_⟩
    · simpa [Member.bare] using Nat.lt_of_le_of_lt fewer.length_le wellFormed.attributes.1
    · obtain ⟨a, inside, rfl⟩ := List.mem_map.1 member
      have each := wellFormed.attributes.2 a (fewer.subset inside)
      cases a with
      | sought name c =>
        obtain ⟨named, inRange, short⟩ := each
        exact ⟨named, inRange.bare, Nat.lt_of_le_of_lt c.length_bytes_bare short⟩
      | other name contents => exact each

private theorem WellFormed.bare {o : Outline} (wellFormed : o.WellFormed) : o.bare.WellFormed where
  version := wellFormed.version
  constants := wellFormed.constants
  slots := wellFormed.slots
  access := wellFormed.access
  thisClass := wellFormed.thisClass
  superClass := wellFormed.superClass
  interfaces := wellFormed.interfaces
  fields := by
    refine ⟨by simpa [Outline.bare] using wellFormed.fields.1, fun m member => ?_⟩
    obtain ⟨m, inside, rfl⟩ := List.mem_map.1 member
    exact (wellFormed.fields.2 m inside).bare
  methods := by
    refine ⟨by simpa [Outline.bare] using wellFormed.methods.1, fun m member => ?_⟩
    obtain ⟨m, inside, rfl⟩ := List.mem_map.1 member
    exact (wellFormed.methods.2 m inside).bare
  attributes := by
    have fewer := Attribute.soughtOnly_sublist o.attributes
    exact ⟨Nat.lt_of_le_of_lt fewer.length_le wellFormed.attributes.1,
      fun a member => wellFormed.attributes.2 a (fewer.subset member)⟩

private theorem Member.view_bare (pool : ConstantPool) (m : Member) :
    m.bare.view pool = m.view pool := by
  have code : Code.view pool ∘ Code.bare = Code.view pool := by
    funext c
    simp [Code.view, Code.bare]
  simp only [view, bare, Attribute.values_map, Attribute.values_soughtOnly, List.getLast?_map,
    Option.map_map, code]

private theorem view_bare (o : Outline) : o.bare.view = o.view := by
  simp [view, bare, Function.comp_def, Member.view_bare]

/-- Reading inverts the layout. The bytes of an outline whose numbers are in range and whose
cross-references are of the right kind are read as what it shows, and leaving out the attributes
that are not looked for where they stand makes no difference. -/
theorem ofBytes_bytes (o : Outline) (wellFormed : o.WellFormed) :
    ∃ f, ClassFile.ofBytes o.bytes = .ok f ∧ o.Shows f ∧
      ClassFile.ofBytes o.bare.bytes = .ok f := by
  refine ⟨o.view, wellFormed.denotes.ofBytes, wellFormed.shows, ?_⟩
  rw [← o.view_bare]
  exact wellFormed.bare.denotes.ofBytes

end Outline

/-! ### One outline -/

namespace Sample

/-- Wide constants and an unpaired surrogate stand before and between the names that are used. -/
def constants : List PoolEntry :=
  [.long 7, .utf8 (ModifiedUtf8.encode "p/A"), .classInfo 3, .double 0x3FF0000000000000,
    .utf8 (ModifiedUtf8.encode "Code"), .utf8 (ModifiedUtf8.encode "LineNumberTable"),
    .utf8 (ModifiedUtf8.encode "BootstrapMethods"), .utf8 (ModifiedUtf8.encode "run"),
    .utf8 (ModifiedUtf8.encode "()V"), .utf8 (ModifiedUtf8.encodeUnits [0x61, 0xD800]), .string 12,
    .utf8 (ModifiedUtf8.encode "Signature")]

/-- The body that counts: two line tables with an attribute between them that is none. -/
def body : Outline.Code :=
  { maxStack := 1, maxLocals := 0, bytecode := [0x00, 0xB1]
    handlers := [⟨0, 1, 1, 4⟩, ⟨0, 2, 1, 0⟩]
    attributes := [.sought 8 [⟨1, 20⟩], .other 7 [0xFF], .sought 8 [⟨0, 10⟩, ⟨0, 11⟩]] }

/-- Bodies and tables of bootstrap methods are repeated, and line tables and bodies stand where they
are not looked for. -/
def outline : Outline :=
  { minor := 0, major := 52, constants, access := 0x21, thisClass := 4, superClass := 0
    interfaces := [4]
    fields := [⟨8, 10, 11, [.other 14 [0x00, 0x0B], .other 8 []]⟩]
    methods := [⟨1, 10, 11, [.sought 7 { body with handlers := [], attributes := [] },
      .other 8 [0x01], .sought 7 body]⟩]
    attributes := [.sought 9 [⟨1, [2]⟩], .other 7 [0xCA, 0xFE],
      .sought 9 [⟨1, []⟩, ⟨5, [12, 13]⟩]] }

private theorem named_class : ClassAt constants 4 "p/A" :=
  ⟨3, by decide +kernel, .of_encode (by decide +kernel)⟩

private theorem named_code : TextAt constants 7 "Code" := .of_encode (by decide +kernel)

private theorem named_lines : TextAt constants 8 "LineNumberTable" := .of_encode (by decide +kernel)

private theorem named_run : TextAt constants 10 "run" := .of_encode (by decide +kernel)

private theorem named_void : TextAt constants 11 "()V" := .of_encode (by decide +kernel)

private theorem named_signature : TextAt constants 14 "Signature" := .of_encode (by decide +kernel)

private theorem body_wellFormed : body.WellFormed constants where
  stack := by decide
  bytecode := by decide
  handlers := by
    refine ⟨by decide, ?_⟩
    simp only [body, List.forall_mem_cons]
    refine ⟨⟨by decide, by decide, by decide, some "p/A", named_class⟩,
      ⟨by decide, by decide, by decide, none, rfl⟩, by simp⟩
  attributes := by
    refine ⟨by decide, ?_⟩
    simp only [body, List.forall_mem_cons]
    exact ⟨⟨named_lines, by decide, by decide⟩, ⟨⟨_, named_code, by decide⟩, by decide⟩,
      ⟨named_lines, by decide, by decide⟩, by simp⟩

theorem outline_wellFormed : outline.WellFormed where
  version := by decide
  constants := by
    have text (text : String) (short : (ModifiedUtf8.encode text).length < 2 ^ 16) :
        ∃ c, PoolEntry.LaysOut (.utf8 (ModifiedUtf8.encode text)) c := ⟨_, .utf8 short⟩
    simp only [outline, constants, List.forall_mem_cons]
    exact ⟨⟨_, .long (by decide)⟩, text _ (by decide), ⟨_, .classInfo (by decide)⟩,
      ⟨_, .double (by decide)⟩, text _ (by decide), text _ (by decide), text _ (by decide),
      text _ (by decide), text _ (by decide), ⟨_, .utf8 (by decide)⟩, ⟨_, .string (by decide)⟩,
      text _ (by decide), by simp⟩
  slots := by decide
  access := by decide
  thisClass := ⟨_, named_class⟩
  superClass := ⟨none, rfl⟩
  interfaces := by
    refine ⟨by decide, ?_⟩
    simp only [outline, List.forall_mem_cons]
    exact ⟨⟨_, named_class⟩, by simp⟩
  fields := by
    refine ⟨by decide, ?_⟩
    simp only [outline, List.forall_mem_cons]
    refine ⟨⟨by decide, ⟨_, named_run⟩, ⟨_, named_void⟩, by decide, ?_⟩, by simp⟩
    simp only [List.forall_mem_cons]
    exact ⟨⟨⟨_, named_signature, by decide⟩, by decide⟩,
      ⟨⟨_, named_lines, by decide⟩, by decide⟩, by simp⟩
  methods := by
    have first : Outline.Code.WellFormed constants { body with handlers := [], attributes := [] } :=
      ⟨by decide, by decide, by simp, by simp⟩
    refine ⟨by decide, ?_⟩
    simp only [outline, List.forall_mem_cons]
    refine ⟨⟨by decide, ⟨_, named_run⟩, ⟨_, named_void⟩, by decide, ?_⟩, by simp⟩
    simp only [List.forall_mem_cons]
    exact ⟨⟨named_code, first, by decide⟩, ⟨⟨_, named_lines, by decide⟩, by decide⟩,
      ⟨named_code, body_wellFormed, by decide⟩, by simp⟩
  attributes := by
    have bootstraps : TextAt constants 9 "BootstrapMethods" := .of_encode (by decide +kernel)
    have fits (b : Image.Bootstrap) (small : b.method < 2 ^ 16 ∧ b.arguments.length < 2 ^ 16 ∧
        ∀ n ∈ b.arguments, n < 2 ^ 16) : b.Fits := ⟨small.1, small.2.1, small.2.2⟩
    refine ⟨by decide, ?_⟩
    simp only [outline, List.forall_mem_cons]
    refine ⟨⟨bootstraps, ⟨by decide, ?_⟩, by decide⟩, ⟨⟨_, named_code, by decide⟩, by decide⟩,
      ⟨bootstraps, ⟨by decide, ?_⟩, by decide⟩, by simp⟩
    · exact fun b member => fits b (by simp_all)
    · simp only [List.forall_mem_cons]
      exact ⟨fits _ (by decide), fits _ (by decide), by simp⟩

/-- The class file has the last body and the last table of bootstrap methods, and all lines. -/
theorem ofBytes_bytes_outline : outline.WellFormed ∧
    ∃ f, ClassFile.ofBytes outline.bytes = .ok f ∧ outline.Shows f ∧
      ClassFile.ofBytes outline.bare.bytes = .ok f :=
  ⟨outline_wellFormed, Outline.ofBytes_bytes outline outline_wellFormed⟩

end Sample
end Linkage
