import Linkage.ClassFile.Interning
import Linkage.ClassFile.Source
import Linkage.Proofs.Encoding
import Linkage.Proofs.Layout

/-!
Constants entered into a growing pool. A constant keeps its index when others are entered after it
(`Interning.Holds.mono`), so what a computation says about its indices it says about every later
pool (`Interning.Grows`), the last one included, in which they are looked up (`Interning.Sound`).
-/
namespace Linkage.Interning
variable {α β : Type} {pool final : List PoolEntry}

/-- A constant has an index in a pool. -/
def Holds (pool : List PoolEntry) (index : Nat) (e : PoolEntry) : Prop :=
  ∃ k, index = k + 1 ∧ pool[k]? = some e

theorem Holds.mono {index : Nat} {e : PoolEntry} (longer : pool <+: final)
    (holds : Holds pool index e) : Holds final index e := by
  obtain ⟨k, rfl, here⟩ := holds
  obtain ⟨more, rfl⟩ := longer
  obtain ⟨inside, -⟩ := List.getElem?_eq_some_iff.1 here
  exact ⟨k, rfl, by rwa [List.getElem?_append_left inside]⟩

theorem Holds.bounds {index : Nat} {e : PoolEntry} (holds : Holds pool index e) :
    0 < index ∧ index ≤ pool.length := by
  obtain ⟨k, rfl, here⟩ := holds
  obtain ⟨inside, -⟩ := List.getElem?_eq_some_iff.1 here
  omega

theorem holds_concat_iff {e x : PoolEntry} {index : Nat} :
    Holds (pool ++ [e]) index x ↔ Holds pool index x ∨ index = pool.length + 1 ∧ x = e := by
  constructor
  · rintro ⟨k, rfl, found⟩
    rcases Nat.lt_trichotomy k pool.length with inside | rfl | outside
    · rw [List.getElem?_append_left inside] at found
      exact .inl ⟨k, rfl, found⟩
    · rw [List.getElem?_concat_length] at found
      exact .inr ⟨rfl, (Option.some.inj found).symm⟩
    · have bound := (List.getElem?_eq_some_iff.1 found).1
      rw [List.length_append, List.length_singleton] at bound
      omega
  · rintro (here | ⟨rfl, rfl⟩)
    · exact here.mono (List.prefix_append _ _)
    · exact ⟨pool.length, rfl, List.getElem?_concat_length⟩

theorem holds_last (pool : List PoolEntry) (e : PoolEntry) :
    Holds (pool ++ [e]) (pool.length + 1) e := holds_concat_iff.2 (.inr ⟨rfl, rfl⟩)

/-- A constant that is there is found, and one that is not becomes the last. -/
theorem intern_cases (e : PoolEntry) (pool : List PoolEntry) :
    (∃ index, Holds pool index e ∧ intern e pool = (index, pool)) ∨
      (e ∉ pool ∧ intern e pool = (pool.length + 1, pool ++ [e])) := by
  unfold intern
  split
  · rename_i i found
    obtain ⟨inside, same, -⟩ := List.findIdx?_eq_some_iff_getElem.1 found
    refine .inl ⟨i + 1, ⟨i, rfl, ?_⟩, rfl⟩
    rw [List.getElem?_eq_getElem inside, eq_of_beq same]
  · rename_i absent
    exact .inr ⟨List.idxOf?_eq_none_iff.1 absent, rfl⟩

theorem prefix_intern (e : PoolEntry) (pool : List PoolEntry) : pool <+: (intern e pool).2 := by
  rcases intern_cases e pool with ⟨index, -, same⟩ | ⟨-, same⟩
  · simp [same]
  · simp [same]

/-- A constant that takes one slot and, if it is a text, spells code units. -/
def Plain : PoolEntry → Prop
  | .utf8 text => ∃ units, text = ModifiedUtf8.encodeUnits units
  | e => e.slots = 1

theorem Plain.slots {e : PoolEntry} (plain : Plain e) : e.slots = 1 := by
  cases e <;> first | rfl | exact plain

/-- A computation enters only plain constants behind those that are there, and what it gives is
right in every later pool. -/
structure Grows (x : Interning α) (P : List PoolEntry → α → Prop) : Prop where
  longer : ∀ pool, pool <+: (x pool).2
  plain : ∀ pool, (∀ e ∈ pool, Plain e) → ∀ e ∈ (x pool).2, Plain e
  gives : ∀ pool final, (x pool).2 <+: final → P final (x pool).1

namespace Grows
variable {P : List PoolEntry → α → Prop} {Q : List PoolEntry → β → Prop}

theorem pure {a : α} (given : ∀ final, P final a) : Grows (pure a) P :=
  ⟨fun pool => List.prefix_refl pool, fun _ plain => plain, fun _ final _ => given final⟩

theorem bind {x : Interning α} {f : α → Interning β} (first : Grows x P)
    (second : ∀ a, Grows (f a) fun final b => P final a → Q final b) : Grows (x >>= f) Q := by
  refine ⟨fun pool => ?_, fun pool plain => ?_, fun pool final later => ?_⟩
  · exact (first.longer pool).trans ((second (x pool).1).longer (x pool).2)
  · exact (second (x pool).1).plain _ (first.plain pool plain)
  · have inside : (x pool).2 <+: final := ((second (x pool).1).longer _).trans later
    exact (second (x pool).1).gives (x pool).2 final later (first.gives pool final inside)

theorem imp {x : Interning α} {P' : List PoolEntry → α → Prop} (grows : Grows x P)
    (weaker : ∀ final a, P final a → P' final a) : Grows x P' :=
  ⟨grows.longer, grows.plain, fun pool final later => weaker _ _ (grows.gives pool final later)⟩

/-- The last step of a computation. -/
theorem map {x : Interning α} {f : α → β} (grows : Grows x P)
    (weaker : ∀ final a, P final a → Q final (f a)) : Grows (x >>= fun a => Pure.pure (f a)) Q :=
  grows.bind fun a => pure fun final => weaker final a

theorem mapM {f : α → Interning β} {P : List PoolEntry → α → β → Prop} {as : List α}
    (each : ∀ a ∈ as, Grows (f a) fun final b => P final a b) :
    Grows (as.mapM f) fun final bs => List.Forall₂ (P final) as bs := by
  induction as with
  | nil =>
    rw [List.mapM_nil]
    exact pure fun _ => .nil
  | cons a as ih =>
    have others := ih fun a member => each a (List.mem_cons_of_mem _ member)
    rw [List.mapM_cons]
    refine (each a List.mem_cons_self).bind fun b => others.map ?_
    exact fun final bs others first => .cons first others

theorem intern {e : PoolEntry} (isPlain : Plain e) :
    Grows (intern e) fun final index => Holds final index e := by
  refine ⟨prefix_intern e, fun pool plain x member => ?_, fun pool final later => ?_⟩
  · rcases intern_cases e pool with ⟨index, -, same⟩ | ⟨-, same⟩ <;> rw [same] at member
    · exact plain x member
    · rcases List.mem_append.1 member with old | new
      · exact plain x old
      · exact List.mem_singleton.1 new ▸ isPlain
  · rcases intern_cases e pool with ⟨index, here, same⟩ | ⟨-, same⟩ <;> rw [same] at later ⊢
    · exact here.mono later
    · exact (holds_last pool e).mono later

end Grows

/-! ### What is entered -/

/-- A text has an index. -/
def HoldsText (pool : List PoolEntry) (index : Nat) (text : String) : Prop :=
  Holds pool index (.utf8 (ModifiedUtf8.encode text))

/-- A class has an index. -/
def HoldsClass (pool : List PoolEntry) (index : Nat) (name : String) : Prop :=
  ∃ n, Holds pool index (.classInfo n) ∧ HoldsText pool n name

/-- A name with a descriptor has an index. -/
def HoldsNameAndType (pool : List PoolEntry) (index : Nat) (name descriptor : String) : Prop :=
  ∃ n d, Holds pool index (.nameAndType n d) ∧ HoldsText pool n name ∧ HoldsText pool d descriptor

/-- A reference to a member has an index, in one of the forms of a constant. -/
def HoldsReference (pool : List PoolEntry) (index : Nat) (form : Nat → Nat → PoolEntry)
    (m : MemberSymbol) : Prop :=
  ∃ c n, Holds pool index (form c n) ∧ HoldsClass pool c m.owner ∧
    HoldsNameAndType pool n m.name m.descriptor

/-- A member has an index. -/
def HoldsMember (pool : List PoolEntry) (index : Nat) (m : MemberSymbol) : Prop :=
  ∃ c n, (Holds pool index (.fieldRef c n) ∨ Holds pool index (.methodRef c n) ∨
      Holds pool index (.interfaceMethodRef c n)) ∧
    HoldsClass pool c m.owner ∧ HoldsNameAndType pool n m.name m.descriptor

/-- A method handle has an index. -/
def HoldsHandle (pool : List PoolEntry) (index : Nat) (h : Handle) : Prop :=
  ∃ r, Holds pool index (.methodHandle h.kind.number r) ∧ HoldsMember pool r h.target

namespace Grows

theorem units (value : List UInt16) : Grows (units value)
    fun final index => Holds final index (.utf8 (ModifiedUtf8.encodeUnits value)) :=
  intern ⟨value, rfl⟩

theorem utf8 (text : String) : Grows (utf8 text) fun final index => HoldsText final index text :=
  units _

theorem string (value : List UInt16) : Grows (string value) fun final index =>
    ∃ t, Holds final index (.string t) ∧ Holds final t (.utf8 (ModifiedUtf8.encodeUnits value)) :=
  (units value).bind fun t => (intern (by rfl)).imp fun _ _ here text => ⟨t, here, text⟩

theorem className (name : String) :
    Grows (className name) fun final index => HoldsClass final index name :=
  (utf8 name).bind fun n => (intern (by rfl)).imp fun _ _ here text => ⟨n, here, text⟩

theorem nameAndType (name descriptor : String) : Grows (nameAndType name descriptor)
    fun final index => HoldsNameAndType final index name descriptor := by
  refine (utf8 name).bind fun n => (utf8 descriptor).bind fun d => (intern (by rfl)).imp ?_
  exact fun final index here second first => ⟨n, d, here, first, second⟩

/-- A reference to a member is entered after its class and its name and type. -/
theorem reference (m : MemberSymbol) {form : Nat → Nat → PoolEntry}
    (isPlain : ∀ c n, Plain (form c n)) :
    Grows (Interning.className m.owner >>= fun c =>
        Interning.nameAndType m.name m.descriptor >>= fun n => Interning.intern (form c n))
      fun final index => HoldsReference final index form m := by
  refine (className m.owner).bind fun c => (nameAndType m.name m.descriptor).bind fun n =>
    (intern (isPlain c n)).imp ?_
  exact fun final index here second first => ⟨c, n, here, first, second⟩

theorem fieldRef (m : MemberSymbol) : Grows (fieldRef m.owner m.name m.descriptor)
    fun final index => HoldsMember final index m := by
  refine (reference m fun _ _ => by rfl).imp ?_
  rintro final index ⟨c, n, here, parts⟩
  exact ⟨c, n, .inl here, parts⟩

theorem methodRef (m : MemberSymbol) (isInterface : Bool) :
    Grows (methodRef m.owner m.name m.descriptor isInterface)
      fun final index => HoldsMember final index m := by
  cases isInterface with
  | false =>
    refine (reference m fun _ _ => by rfl).imp ?_
    rintro final index ⟨c, n, here, parts⟩
    exact ⟨c, n, .inr (.inl here), parts⟩
  | true =>
    refine (reference m fun _ _ => by rfl).imp ?_
    rintro final index ⟨c, n, here, parts⟩
    exact ⟨c, n, .inr (.inr here), parts⟩

theorem methodType (descriptor : String) : Grows (methodType descriptor) fun final index =>
    ∃ d, Holds final index (.methodType d) ∧ HoldsText final d descriptor :=
  (utf8 descriptor).bind fun d => (intern (by rfl)).imp fun _ _ here text => ⟨d, here, text⟩

theorem invokeDynamic (bootstrap : Nat) (name descriptor : String) :
    Grows (invokeDynamic bootstrap name descriptor) fun final index =>
      ∃ n, Holds final index (.invokeDynamic bootstrap n) ∧
        HoldsNameAndType final n name descriptor :=
  (nameAndType name descriptor).bind fun n =>
    (intern (by rfl)).imp fun _ _ here member => ⟨n, here, member⟩

end Grows

/-! ### Looking up -/

/-- A pool that can be written: it is plain and within bounds. -/
structure Sound (pool : List PoolEntry) : Prop where
  plain : ∀ e ∈ pool, Plain e
  size : pool.length ≤ 65534
  texts : ∀ text, .utf8 text ∈ pool → text.length < 2 ^ 16

namespace Sound

theorem legible (sound : Sound pool) : ∀ e ∈ pool, e.Legible := by
  intro e member
  cases e with
  | utf8 text =>
    obtain ⟨units, rfl⟩ := sound.plain _ member
    exact ⟨sound.texts _ member, by rw [ModifiedUtf8.decode?_encodeUnits]; rfl⟩
  | _ => trivial

theorem slotCount_eq (sound : Sound pool) : PoolEntry.slotCount pool = pool.length := by
  have ones := fun e member => (sound.plain e member).slots
  clear sound
  induction pool with
  | nil => rfl
  | cons e pool ih =>
    have others := ih fun e member => ones e (List.mem_cons_of_mem _ member)
    rw [PoolEntry.slotCount, ones e List.mem_cons_self, others, List.length_cons, Nat.add_comm]

theorem slots_eq (sound : Sound pool) :
    (Image.constantPool pool).slots = none :: pool.map PoolEntry.constant? := by
  have each : ∀ e ∈ pool, e.filled = [e.constant?] := fun e member => by
    rw [PoolEntry.filled, (sound.plain e member).slots]
    rfl
  rw [Image.constantPool, List.flatMap_congr each, ← List.map_eq_flatMap]

theorem get {index : Nat} {e : PoolEntry} {c : Constant} (sound : Sound pool)
    (holds : Holds pool index e) (constant : e.constant? = some c) :
    (Image.constantPool pool).get index = .ok c := by
  obtain ⟨k, rfl, here⟩ := holds
  rw [ConstantPool.get, sound.slots_eq, List.getElem?_cons_succ, List.getElem?_map, here]
  simp [constant]

theorem lt {index : Nat} {e : PoolEntry} (sound : Sound pool) (holds : Holds pool index e) :
    index < 2 ^ 16 := by
  have bounds := holds.bounds
  have size := sound.size
  omega

theorem lt_class {index : Nat} {name : String} (sound : Sound pool)
    (holds : HoldsClass pool index name) : index < 2 ^ 16 := by
  obtain ⟨_, here, _⟩ := holds
  exact sound.lt here

theorem lt_member {index : Nat} {m : MemberSymbol} (sound : Sound pool)
    (holds : HoldsMember pool index m) : index < 2 ^ 16 := by
  obtain ⟨_, _, here | here | here, _⟩ := holds <;> exact sound.lt here

theorem units {index : Nat} {value : List UInt16} (sound : Sound pool)
    (holds : Holds pool index (.utf8 (ModifiedUtf8.encodeUnits value))) :
    (Image.constantPool pool).text index = .ok (String.ofList (Utf16.decode value)) := by
  have constant : (PoolEntry.utf8 (ModifiedUtf8.encodeUnits value)).constant? =
      some (.utf8 (String.ofList (Utf16.decode value))) := by
    rw [PoolEntry.constant?, ModifiedUtf8.decode?_encodeUnits]
    rfl
  rw [ConstantPool.text, sound.get holds constant]
  rfl

theorem text {index : Nat} {value : String} (sound : Sound pool)
    (holds : HoldsText pool index value) : (Image.constantPool pool).text index = .ok value := by
  have read := sound.units holds
  rwa [Utf16.decode_encode, String.ofList_toList] at read

theorem denotes_text {index : Nat} {value : String} (sound : Sound pool)
    (holds : HoldsText pool index value) :
    index < 2 ^ 16 ∧ (Image.constantPool pool).text index = .ok value :=
  ⟨sound.lt holds, sound.text holds⟩

theorem className {index : Nat} {name : String} (sound : Sound pool)
    (holds : HoldsClass pool index name) :
    (Image.constantPool pool).className index = .ok name := by
  obtain ⟨n, here, named⟩ := holds
  have constant : (PoolEntry.classInfo n).constant? = some (.classInfo n) := by
    rw [PoolEntry.constant?, Nat.mod_eq_of_lt (sound.lt named)]
  rw [ConstantPool.className, sound.get here constant]
  exact sound.text named

theorem className? {index : Nat} {name : String} (sound : Sound pool)
    (holds : HoldsClass pool index name) :
    (Image.constantPool pool).className? index = .ok (some name) := by
  have nonzero : index ≠ 0 := by
    obtain ⟨_, here, _⟩ := holds
    exact Nat.ne_of_gt here.bounds.1
  rw [ConstantPool.className?, if_neg nonzero, sound.className holds]
  rfl

theorem nameAndType {index : Nat} {name descriptor : String} (sound : Sound pool)
    (holds : HoldsNameAndType pool index name descriptor) :
    (Image.constantPool pool).nameAndType index = .ok (name, descriptor) := by
  obtain ⟨n, d, here, named, described⟩ := holds
  have constant : (PoolEntry.nameAndType n d).constant? = some (.nameAndType n d) := by
    rw [PoolEntry.constant?, Nat.mod_eq_of_lt (sound.lt named), Nat.mod_eq_of_lt (sound.lt described)]
  rw [ConstantPool.nameAndType, sound.get here constant]
  simp only [bind, Except.bind, sound.text named, sound.text described]
  rfl

theorem memberOf {c n : Nat} {m : MemberSymbol} (sound : Sound pool)
    (owner : HoldsClass pool c m.owner) (member : HoldsNameAndType pool n m.name m.descriptor) :
    (Image.constantPool pool).memberOf c n = .ok m := by
  rw [ConstantPool.memberOf, sound.className owner]
  simp only [bind, Except.bind, sound.nameAndType member]
  rfl

theorem member {index : Nat} {m : MemberSymbol} (sound : Sound pool)
    (holds : HoldsMember pool index m) : (Image.constantPool pool).member index = .ok m := by
  obtain ⟨c, n, here, owner, member⟩ := holds
  have sizes : c % 2 ^ 16 = c ∧ n % 2 ^ 16 = n := by
    obtain ⟨_, _, held, _⟩ := member
    exact ⟨Nat.mod_eq_of_lt (sound.lt_class owner), Nat.mod_eq_of_lt (sound.lt held)⟩
  rcases here with here | here | here <;>
  · rw [ConstantPool.member, sound.get here rfl, sizes.1, sizes.2]
    exact sound.memberOf owner member

theorem handle {index : Nat} {h : Handle} (sound : Sound pool) (holds : HoldsHandle pool index h) :
    ∃ r, (Image.constantPool pool).get index = .ok (.methodHandle h.kind.number r) ∧
      (Image.constantPool pool).member r = .ok h.target := by
  obtain ⟨r, here, member⟩ := holds
  have kind : h.kind.number % 2 ^ 8 = h.kind.number := by
    cases h.kind <;> rfl
  have small : r % 2 ^ 16 = r := Nat.mod_eq_of_lt (sound.lt_member member)
  refine ⟨r, ?_, sound.member member⟩
  rw [sound.get here rfl, kind, small]

end Sound
end Linkage.Interning
