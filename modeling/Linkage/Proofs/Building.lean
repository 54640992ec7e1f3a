import Linkage.Proofs.Assembling
import Linkage.Proofs.CodeLayout

/-!
Class files built from descriptions. The layout of a description that fits in the format
(`ClassSource.Fits`) denotes a class file that says what the description says
(`ClassSource.exists_describes`).
-/
namespace Linkage
open Interning

/-! ### What fits -/

/-- The numbers of a method body fit in the two bytes that they have. -/
structure Body.Fits (b : Body) : Prop where
  size : b.size < 2 ^ 16
  lines : b.lines.length < 2 ^ 16 ∧ ∀ l ∈ b.lines, l.2 < 2 ^ 16
  handlers : b.handlers.length < 2 ^ 16

/-- The handles bound by the dynamic calls of a method, one list for each. -/
def MethodSource.bindings (m : MethodSource) : List (List Handle) :=
  match m.body with
  | some ss => (Body.ofStatements ss).operations.flatMap (·.handles?.toList)
  | none => []

/-- The numbers of a method fit in the two bytes that they have. -/
structure MethodSource.Fits (m : MethodSource) : Prop where
  access : m.access < 2 ^ 16
  body : ∀ ss ∈ m.body, (Body.ofStatements ss).Fits

/-- The numbers of a description fit in the bytes that they have: lengths of attributes in four, all
others in two. -/
structure ClassSource.Fits (s : ClassSource) : Prop where
  access : s.access < 2 ^ 16
  interfaces : s.interfaces.length < 2 ^ 16
  fields : s.fields.length < 2 ^ 16 ∧ ∀ f ∈ s.fields, f.access < 2 ^ 16
  methods : s.methods.length < 2 ^ 16 ∧ ∀ m ∈ s.methods, m.Fits
  bindings : (s.methods.flatMap MethodSource.bindings).length < 2 ^ 16 ∧
    ∀ handles ∈ s.methods.flatMap MethodSource.bindings, handles.length + 1 < 2 ^ 16
  bootstraps : 2 + ((s.methods.flatMap MethodSource.bindings).map (6 + 2 * ·.length)).sum < 2 ^ 32
  constants : s.image.constants.length ≤ 65534
  texts : ∀ text, .utf8 text ∈ s.image.constants → text.length < 2 ^ 16

/-! ### What is described -/

/-- A body as it is read: its instructions, each with the constant that it refers to, its handlers
and its lines. -/
structure Code.Describes (code : Code) (pool : List PoolEntry) (bootstraps : List Image.Bootstrap)
    (b : Body) : Prop where
  bytecode : Written pool bootstraps b.operations code.bytecode
  handlers : code.handlers = b.handlers.map fun h => ⟨h.1, h.2.1, h.2.1, h.2.2⟩
  lines : code.lines = b.lines.map fun l => ⟨l.1, l.2⟩

/-- The access flags of a method as they are written. -/
def MethodSource.flags (m : MethodSource) : Nat :=
  if m.body.isSome then m.access else m.access ||| ClassSource.abstractFlag

/-- A method as it is read. -/
structure ClassMember.Describes (k : ClassMember) (pool : List PoolEntry)
    (bootstraps : List Image.Bootstrap) (m : MethodSource) : Prop where
  access : k.access = m.flags
  name : k.name = m.name
  descriptor : k.descriptor = m.descriptor
  code : Option.Rel (fun code ss => code.Describes pool bootstraps (Body.ofStatements ss)) k.code m.body

/-- A field as it is read. -/
def FieldSource.member (f : FieldSource) : ClassMember := ⟨f.access, f.name, f.descriptor, none⟩

/-- A class file as it is read. -/
structure ClassFile.Describes (file : ClassFile) (pool : List PoolEntry)
    (bootstraps : List Image.Bootstrap) (s : ClassSource) : Prop where
  constants : file.pool = Image.constantPool pool
  tables : file.bootstraps = bootstraps.map Image.Bootstrap.arguments
  few : bootstraps.length < 2 ^ 16
  thisClass : file.thisClass = s.name
  parents : file.superClass.toList ++ file.interfaces = s.superClass.toList ++ s.interfaces
  fields : file.fields = s.fields.map FieldSource.member
  methods : List.Forall₂ (fun k m => k.Describes pool bootstraps m) file.methods s.methods

/-! ### Writing -/

namespace Image

theorem length_table {α : Type} (item : α → Bytes) (items : List α) :
    (table item items).length = 2 + (items.map fun i => (item i).length).sum := by
  simp [table, List.length_flatMap]

theorem length_handlers (handlers : List Handler) :
    (table Handler.bytes handlers).length = 2 + 8 * handlers.length := by
  simp [length_table, Handler.bytes, Nat.mul_comm]

theorem length_lineTable (lines : List (Nat × Nat)) :
    (lineTable lines).length = 2 + 4 * lines.length := by
  simp [lineTable, length_table, Nat.mul_comm]

theorem Bootstrap.length_bytes (b : Bootstrap) : b.bytes.length = 4 + 2 * b.arguments.length := by
  have indices : (b.arguments.map fun n => (Bytes.ofNat2 n).length).sum = 2 * b.arguments.length := by
    simp [Nat.mul_comm]
  rw [Bootstrap.bytes, List.length_append, Bytes.length_ofNat2, length_table, indices]
  omega

end Image

section
variable {pool : List PoolEntry}

theorem HoldsBootstrap.fits {handles : List Handle} {b : Image.Bootstrap} (sound : Sound pool)
    (holds : HoldsBootstrap pool handles b) (few : handles.length + 1 < 2 ^ 16) : b.Fits := by
  obtain ⟨_, method⟩ := holds.method
  obtain ⟨type, rest, arguments, ⟨_, isType⟩, bound⟩ := holds.arguments
  refine ⟨sound.lt method, ?_, ?_⟩
  · rw [arguments, List.length_cons, ← bound.length_eq]
    exact few
  · rw [arguments]
    rintro n (_ | ⟨_, member⟩)
    · exact sound.lt isType
    · obtain ⟨h, -, r, here, -⟩ := exists_of_forall₂ bound.flip member
      exact sound.lt here

theorem HoldsBootstrap.length_bytes {handles : List Handle} {b : Image.Bootstrap}
    (holds : HoldsBootstrap pool handles b) : b.bytes.length = 6 + 2 * handles.length := by
  obtain ⟨type, rest, arguments, -, bound⟩ := holds.arguments
  rw [Image.Bootstrap.length_bytes, arguments, List.length_cons, bound.length_eq]
  omega

theorem length_bootstraps {bindings : List (List Handle)} {bootstraps : List Image.Bootstrap}
    (bound : List.Forall₂ (HoldsBootstrap pool) bindings bootstraps) :
    (Image.table Image.Bootstrap.bytes bootstraps).length =
      2 + (bindings.map (6 + 2 * ·.length)).sum := by
  rw [Image.length_table]
  induction bound with
  | nil => rfl
  | cons here _ ih =>
    simp only [List.map_cons, List.sum_cons, here.length_bytes]
    omega

end

namespace Interning.Grows
open ClassSource

theorem className? (name : Option String) :
    Grows (className? name) fun final index => Sound final →
      index < 2 ^ 16 ∧ (Image.constantPool final).className? index = .ok name := by
  cases name with
  | none => exact pure fun final _ => ⟨by decide, rfl⟩
  | some name =>
    exact (className name).imp fun final index named sound =>
      ⟨sound.lt_class named, sound.className? named⟩

theorem handlerImage {h : Nat × Nat × Option String} (start : h.1 < 2 ^ 16) (stop : h.2.1 < 2 ^ 16) :
    Grows (handlerImage h) fun final i => Sound final →
      i.Denotes (Image.constantPool final) ⟨h.1, h.2.1, h.2.1, h.2.2⟩ := by
  refine (className? h.2.2).map ?_
  intro final index named sound
  exact ⟨⟨start, rfl⟩, ⟨stop, rfl⟩, ⟨stop, rfl⟩, named sound⟩

theorem lineAttributes {lines : List (Nat × Nat)} (few : lines.length < 2 ^ 16)
    (fits : ∀ l ∈ lines, l.1 < 2 ^ 16 ∧ l.2 < 2 ^ 16) :
    Grows (lineAttributes lines)
      fun final attributes => Sound final → attributes.length < 2 ^ 16 ∧
        (Image.table Image.Attribute.bytes attributes).length ≤ 10 + 4 * lines.length ∧
        ∃ tables, List.Forall₂ (Image.Attribute.Denotes (Image.constantPool final) "LineNumberTable"
          (Reader.table ClassFile.readLine)) attributes tables ∧
            lines.map (fun l => ⟨l.1, l.2⟩) = (tables.filterMap id).flatten := by
  unfold ClassSource.lineAttributes
  split
  · rename_i none
    rw [List.isEmpty_iff] at none
    refine pure fun final _ => ⟨by decide, ?_, [], .nil, by rw [none]; rfl⟩
    rw [Image.length_table, List.map_nil, List.sum_nil]
    omega
  · refine (utf8 "LineNumberTable").map ?_
    intro final name named sound
    have length := Image.length_lineTable lines
    refine ⟨by simp, ?_, [some (lines.map fun l => ⟨l.1, l.2⟩)], .cons ?_ .nil, by simp⟩
    · simp only [Image.length_table, Image.Attribute.bytes, List.map_cons, List.map_nil, List.sum_cons,
        List.sum_nil, List.length_append, Bytes.length_ofNat2, Bytes.length_ofNat4, length]
      omega
    · refine ⟨⟨sound.lt named, ?_⟩, _, sound.text named, rfl, Image.reads_lineTable few fits⟩
      dsimp only
      omega

theorem codeImage (bootstraps : List Image.Bootstrap) {ss : List Statement}
    (fits : (Body.ofStatements ss).Fits) :
    Grows (codeImage bootstraps (Body.ofStatements ss)) fun final result =>
      Binds final bootstraps result.2 ((Body.ofStatements ss).operations.flatMap (·.handles?.toList))
        fun all => Sound final → result.1.bytes.length < 2 ^ 32 ∧
          ∃ code, result.1.Denotes (Image.constantPool final) code ∧
            code.Describes final all (Body.ofStatements ss) := by
  obtain ⟨total, starts, ranges⟩ := Body.ofStatements_bounds ss
  have size := fits.size
  have lines : ∀ l ∈ (Body.ofStatements ss).lines, l.1 < 2 ^ 16 ∧ l.2 < 2 ^ 16 := fun l member =>
    ⟨Nat.lt_of_le_of_lt (starts l member) size, fits.lines.2 l member⟩
  have spans : ∀ h ∈ (Body.ofStatements ss).handlers, h.1 < 2 ^ 16 ∧ h.2.1 < 2 ^ 16 := by
    intro h member
    have := ranges h member
    omega
  refine (assemble bootstraps (Body.ofStatements ss).operations).bind fun written => ?_
  refine (mapM fun h member => handlerImage (spans h member).1 (spans h member).2).bind ?_
  intro handlers
  refine (lineAttributes fits.lines.1 lines).map ?_
  intro final attributes lined handled binds
  refine binds.imp fun all bytecode sound => ?_
  obtain ⟨fewAttributes, attributesLength, tables, denotes, joined⟩ := lined sound
  have length : written.1.length = (Body.ofStatements ss).size := bytecode.length.trans total
  have count : handlers.length = (Body.ofStatements ss).handlers.length := handled.length_eq.symm
  have fewHandlers := fits.handlers
  have fewLines := fits.lines.1
  refine ⟨?_, ⟨written.1, _, _⟩, ?_, bytecode, rfl, rfl⟩
  · simp only [Image.Code.bytes, List.length_append, Bytes.length_ofNat2, Bytes.length_ofNat4,
      Image.length_handlers]
    omega
  · refine ⟨⟨?_, ?_⟩, ⟨?_, rfl⟩, ⟨?_, ?_⟩, fewAttributes, tables, denotes, joined⟩
    · show 8 < 2 ^ 16
      decide
    · show 8 < 2 ^ 16
      decide
    · exact length ▸ Nat.lt_trans size (by decide)
    · exact count ▸ fewHandlers
    · rw [List.forall₂_map_right_iff]
      exact (handled.imp fun _ _ handler => handler sound).flip

theorem fieldImage {f : FieldSource} (fits : f.access < 2 ^ 16) :
    Grows (fieldImage f) fun final i => Sound final →
      i.Denotes (Image.constantPool final) f.member := by
  refine (utf8 f.name).bind fun name => (utf8 f.descriptor).map ?_
  intro final descriptor described named sound
  exact ⟨⟨fits, rfl⟩, sound.denotes_text named, sound.denotes_text described, by simp, [], .nil, rfl⟩

theorem methodImage (bootstraps : List Image.Bootstrap) {m : MethodSource} (fits : m.Fits) :
    Grows (methodImage bootstraps m) fun final result =>
      Binds final bootstraps result.2 m.bindings fun all => Sound final →
        ∃ k, result.1.Denotes (Image.constantPool final) k ∧ k.Describes final all m := by
  obtain ⟨access, name, descriptor, body⟩ := m
  refine (utf8 name).bind fun n => (utf8 descriptor).bind fun d => ?_
  cases body with
  | none =>
    refine pure fun final described named => .refl fun all sound => ?_
    have flags : access ||| abstractFlag < 2 ^ 16 := Nat.or_lt_two_pow fits.access (by decide)
    refine ⟨⟨_, name, descriptor, none⟩, ?_, rfl, rfl, rfl, .none⟩
    exact ⟨⟨flags, rfl⟩, sound.denotes_text named, sound.denotes_text described, by simp, [], .nil,
      rfl⟩
  | some ss =>
    refine (codeImage bootstraps (fits.body ss rfl)).bind fun written => (utf8 "Code").map ?_
    intro final label labelled binds described named
    refine binds.imp fun all coded sound => ?_
    obtain ⟨length, code, denotes, describes⟩ := coded sound
    refine ⟨⟨_, name, descriptor, some code⟩, ?_, rfl, rfl, rfl, .some describes⟩
    refine ⟨⟨fits.access, rfl⟩, sound.denotes_text named, sound.denotes_text described, by simp,
      [some code], .cons ?_ .nil, rfl⟩
    exact ⟨⟨sound.lt labelled, length⟩, _, sound.text labelled, rfl, denotes.reads⟩

theorem methodImages (bootstraps : List Image.Bootstrap) {ms : List MethodSource}
    (fits : ∀ m ∈ ms, m.Fits) :
    Grows (methodImages bootstraps ms) fun final result =>
      Binds final bootstraps result.2 (ms.flatMap MethodSource.bindings) fun all => Sound final →
        ∃ ks, List.Forall₂ (Image.Member.Denotes (Image.constantPool final)) result.1 ks ∧
          List.Forall₂ (fun k m => k.Describes final all m) ks ms := by
  induction ms generalizing bootstraps with
  | nil => exact pure fun final => .refl fun all _ => ⟨[], .nil, .nil⟩
  | cons m ms ih =>
    refine (methodImage bootstraps (fits m List.mem_cons_self)).bind fun first => ?_
    refine (ih first.2 fun m member => fits m (List.mem_cons_of_mem _ member)).map ?_
    intro final rest others here
    refine (here.trans others).imp ?_
    rintro all ⟨one, more⟩ sound
    obtain ⟨k, denotes, describes⟩ := one sound
    obtain ⟨ks, denoteRest, describeRest⟩ := more sound
    exact ⟨k :: ks, .cons denotes denoteRest, .cons describes describeRest⟩

theorem bootstrapAttributes (bootstraps : List Image.Bootstrap) :
    Grows (bootstrapAttributes bootstraps) fun final attributes => Sound final →
      bootstraps.length < 2 ^ 16 → (∀ b ∈ bootstraps, b.Fits) →
      (Image.table Image.Bootstrap.bytes bootstraps).length < 2 ^ 32 → attributes.length < 2 ^ 16 ∧
        ∃ tables, List.Forall₂ (Image.Attribute.Denotes (Image.constantPool final) "BootstrapMethods"
          (Reader.table ClassFile.readBootstrap)) attributes tables ∧
            bootstraps.map Image.Bootstrap.arguments = (tables.filterMap id).getLast?.getD [] := by
  unfold ClassSource.bootstrapAttributes
  split
  · rename_i none
    rw [List.isEmpty_iff] at none
    exact pure fun final _ _ _ _ => ⟨by simp, [], .nil, by rw [none]; rfl⟩
  · refine (utf8 "BootstrapMethods").map ?_
    intro final name named sound few each length
    refine ⟨by simp, [some (bootstraps.map Image.Bootstrap.arguments)], .cons ?_ .nil, by simp⟩
    exact ⟨⟨sound.lt named, length⟩, _, sound.text named, rfl, Image.reads_bootstraps few each⟩

theorem layout {s : ClassSource} (fits : s.Fits) :
    Grows s.layout fun final i => Sound final → ∃ file bootstraps,
      { i with constants := final }.Denotes file ∧ file.Describes final bootstraps s := by
  refine (className s.name).bind fun this => (className? s.superClass).bind fun super => ?_
  refine (mapM fun name _ => className name).bind fun interfaces => ?_
  refine (mapM fun f member => fieldImage (fits.fields.2 f member)).bind fun fields => ?_
  refine (methodImages [] fits.methods.2).bind fun methods => (bootstrapAttributes methods.2).map ?_
  intro final attributes tabled binds fielded extended inherited named sound
  obtain ⟨bootstraps, same, bound⟩ := binds.added
  rw [List.nil_append] at same
  rw [← same] at bound
  have few : methods.2.length < 2 ^ 16 := bound.length_eq ▸ fits.bindings.1
  have each : ∀ b ∈ methods.2, b.Fits := by
    intro b member
    obtain ⟨handles, inside, holds⟩ := exists_of_forall₂ bound.flip member
    exact HoldsBootstrap.fits sound holds (fits.bindings.2 handles inside)
  have length := length_bootstraps bound
  obtain ⟨fewAttributes, tables, denotes, last⟩ := tabled sound few each (length ▸ fits.bootstraps)
  -- no method comes after these, so their bootstrap methods are all there are
  obtain ⟨members, denoteMethods, describes⟩ := binds.given _ (List.prefix_refl _) sound
  refine ⟨⟨0, major, s.access, s.name, s.superClass, s.interfaces, s.fields.map FieldSource.member,
    members, methods.2.map Image.Bootstrap.arguments, Image.constantPool final⟩, methods.2, ?_,
    rfl, rfl, few, rfl, rfl, rfl, describes⟩
  refine ⟨⟨⟨?_, rfl⟩, ?_, rfl⟩, sound.legible, ⟨?_, rfl⟩, ⟨fits.access, rfl⟩,
    ⟨sound.lt_class named, sound.className named⟩, inherited sound, ⟨?_, ?_⟩, ⟨?_, ?_⟩,
    ⟨?_, denoteMethods⟩, fewAttributes, tables, denotes, last⟩
  · show 0 < 2 ^ 16
    decide
  · show major < 2 ^ 16
    decide
  · have size := sound.size
    rw [sound.slotCount_eq]
    omega
  · exact extended.length_eq ▸ fits.interfaces
  · exact (extended.imp fun name n held => ⟨sound.lt_class held, sound.className held⟩).flip
  · exact fielded.length_eq ▸ fits.fields.1
  · rw [List.forall₂_map_right_iff]
    exact (fielded.imp fun f i denotes => denotes sound).flip
  · have count := denoteMethods.length_eq.trans describes.length_eq
    exact count ▸ fits.methods.1

end Interning.Grows

/-- The layout of a description that fits denotes a class file that describes the same. -/
theorem ClassSource.exists_describes {s : ClassSource} (fits : s.Fits) :
    Sound s.image.constants ∧ ∃ file bootstraps,
      s.image.Denotes file ∧ file.Describes s.image.constants bootstraps s := by
  have grows := Grows.layout fits
  have plain : ∀ e ∈ s.image.constants, Plain e := grows.plain [] (by simp)
  have sound : Sound s.image.constants := ⟨plain, fits.constants, fits.texts⟩
  exact ⟨sound, grows.gives [] s.image.constants (List.prefix_refl _) sound⟩

end Linkage
