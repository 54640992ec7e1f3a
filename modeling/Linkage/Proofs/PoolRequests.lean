import Mathlib.Data.List.Induction
import Linkage.Data.InsertionMap
import Linkage.Proofs.Interning

/-!
A constant pool that grows by one request after the other. No constant is entered twice and every
index in a constant leads to an earlier one (`Layered`). A map from constants to indices, kept
beside the list, agrees with it (`Table.Agrees`). What a request was answered stands for the same in
every later pool (`Means`), and when the pool is written and read back, it leads to what was asked
for (`Resolves`, `built_resolves`).
-/
namespace Linkage

/-- The indices that a constant holds. The number of a bootstrap method is none. -/
def PoolEntry.indices : PoolEntry → List Nat
  | .classInfo name => [name]
  | .string text => [text]
  | .fieldRef owner member => [owner, member]
  | .methodRef owner member => [owner, member]
  | .interfaceMethodRef owner member => [owner, member]
  | .nameAndType name descriptor => [name, descriptor]
  | .methodHandle _ reference => [reference]
  | .methodType descriptor => [descriptor]
  | .dynamic _ member => [member]
  | .invokeDynamic _ member => [member]
  | .moduleInfo name => [name]
  | .packageInfo name => [name]
  | _ => []

namespace Interning

/-- What a pool can be asked for. A handle is asked for with the index of its member. -/
inductive Request where
  | text (value : String)
  | string (units : List UInt16)
  | className (name : String)
  | fieldRef (m : MemberSymbol)
  | methodRef (m : MemberSymbol) (isInterface : Bool)
  | methodHandle (kind : UInt8) (reference : Nat)
  | methodType (descriptor : String)
  | invokeDynamic (bootstrap : UInt16) (name descriptor : String)
  deriving DecidableEq, Repr

namespace Request

/-- The index of what is asked for. -/
def ask : Request → Interning Nat
  | .text value => utf8 value
  | .string units => Interning.string units
  | .className name => Interning.className name
  | .fieldRef m => Interning.fieldRef m.owner m.name m.descriptor
  | .methodRef m isInterface => Interning.methodRef m.owner m.name m.descriptor isInterface
  | .methodHandle kind reference => Interning.methodHandle kind.toNat reference
  | .methodType descriptor => Interning.methodType descriptor
  | .invokeDynamic bootstrap name descriptor =>
    Interning.invokeDynamic bootstrap.toNat name descriptor

/-- The indices that a request is made with. -/
def references : Request → List Nat
  | .methodHandle _ reference => [reference]
  | _ => []

end Request

/-- What requests are answered, one after the other. -/
def answers (requests : List Request) : List Nat := (requests.mapM Request.ask []).1

/-- The pool that requests leave behind. -/
def built (requests : List Request) : List PoolEntry := (requests.mapM Request.ask []).2

/-- Requests are made only with indices that earlier ones were answered. -/
def Answered (requests : List Request) : Prop :=
  ∀ front r back, requests = front ++ r :: back → ∀ i ∈ r.references, i ∈ answers front

theorem answers_append (front back : List Request) :
    answers (front ++ back) = answers front ++ (back.mapM Request.ask (built front)).1 := by
  rw [answers, List.mapM_append]
  rfl

theorem built_append (front back : List Request) :
    built (front ++ back) = (back.mapM Request.ask (built front)).2 := by
  rw [built, List.mapM_append]
  rfl

theorem answers_concat (front : List Request) (r : Request) :
    answers (front ++ [r]) = answers front ++ [(r.ask (built front)).1] := answers_append front [r]

theorem built_concat (front : List Request) (r : Request) :
    built (front ++ [r]) = (r.ask (built front)).2 := built_append front [r]

/-! ### What is asked for -/

/-- An index leads to what was asked for. -/
def Means (pool : List PoolEntry) (index : Nat) : Request → Prop
  | .text value => HoldsText pool index value
  | .string units => ∃ t, Holds pool index (.string t) ∧
    Holds pool t (.utf8 (ModifiedUtf8.encodeUnits units))
  | .className name => HoldsClass pool index name
  | .fieldRef m => HoldsReference pool index .fieldRef m
  | .methodRef m isInterface =>
    HoldsReference pool index (if isInterface then .interfaceMethodRef else .methodRef) m
  | .methodHandle kind reference => Holds pool index (.methodHandle kind.toNat reference)
  | .methodType descriptor => ∃ d, Holds pool index (.methodType d) ∧ HoldsText pool d descriptor
  | .invokeDynamic bootstrap name descriptor => ∃ n,
    Holds pool index (.invokeDynamic bootstrap.toNat n) ∧ HoldsNameAndType pool n name descriptor

/-- What is answered leads to what was asked for, in every later pool. -/
theorem Request.grows (r : Request) : Grows r.ask fun final index => Means final index r := by
  cases r with
  | text value => exact .utf8 value
  | string units => exact .string units
  | className name => exact .className name
  | fieldRef m => exact .reference m fun _ _ => by rfl
  | methodRef m isInterface =>
    cases isInterface with
    | false => exact .reference m fun _ _ => by rfl
    | true => exact .reference m fun _ _ => by rfl
  | methodHandle kind reference => exact .intern (by rfl)
  | methodType descriptor => exact .methodType descriptor
  | invokeDynamic bootstrap name descriptor => exact .invokeDynamic bootstrap.toNat name descriptor

theorem grows_mapM (requests : List Request) : Grows (requests.mapM Request.ask)
    fun final indices => List.Forall₂ (fun r index => Means final index r) requests indices :=
  .mapM fun r _ => r.grows

theorem prefix_built (front back : List Request) : built front <+: built (front ++ back) := by
  rw [built_append]
  exact (grows_mapM back).longer (built front)

/-! ### The order of constants -/

/-- An index of a pool. -/
def Known (pool : List PoolEntry) (index : Nat) : Prop := 0 < index ∧ index ≤ pool.length

theorem Known.mono {pool final : List PoolEntry} {index : Nat} (longer : pool <+: final)
    (known : Known pool index) : Known final index :=
  ⟨known.1, Nat.le_trans known.2 longer.length_le⟩

theorem Known.exists_holds {pool : List PoolEntry} {index : Nat} (known : Known pool index) :
    ∃ e, Holds pool index e := by
  obtain ⟨k, rfl⟩ := Nat.exists_eq_succ_of_ne_zero (Nat.ne_of_gt known.1)
  exact ⟨_, k, rfl, List.getElem?_eq_getElem known.2⟩

/-- A pool in which no constant occurs twice and constants hold only earlier indices. -/
structure Layered (pool : List PoolEntry) : Prop where
  distinct : pool.Nodup
  earlier : ∀ index e, Holds pool index e → ∀ i ∈ e.indices, 0 < i ∧ i < index

/-- A constant that is new comes after those that it refers to. -/
theorem Layered.concat {pool : List PoolEntry} {e : PoolEntry} (layered : Layered pool)
    (new : e ∉ pool) (known : ∀ i ∈ e.indices, Known pool i) : Layered (pool ++ [e]) := by
  constructor
  · refine List.nodup_append.2 ⟨layered.distinct, List.pairwise_singleton _ _, ?_⟩
    rintro a old b here rfl
    exact new (List.mem_singleton.1 here ▸ old)
  · intro index x holds i member
    rcases holds_concat_iff.1 holds with old | ⟨rfl, rfl⟩
    · exact layered.earlier index x old i member
    · exact ⟨(known i member).1, Nat.lt_succ_of_le (known i member).2⟩

/-- A computation that is given known indices keeps a pool layered, and gives a known index. -/
structure Steady (given : List Nat) (x : Interning Nat) : Prop where
  longer : ∀ pool, pool <+: (x pool).2
  layered : ∀ pool, Layered pool → (∀ i ∈ given, Known pool i) → Layered (x pool).2
  known : ∀ pool, Known (x pool).2 (x pool).1

namespace Steady
variable {given : List Nat}

theorem intern {e : PoolEntry} (inside : e.indices ⊆ given) : Steady given (intern e) := by
  refine ⟨prefix_intern e, fun pool layered known => ?_, fun pool => ?_⟩ <;>
    rcases intern_cases e pool with ⟨index, here, same⟩ | ⟨new, same⟩ <;> rw [same]
  · exact layered
  · exact layered.concat new fun i member => known i (inside member)
  · exact here.bounds
  · exact (holds_last pool e).bounds

theorem bind {x : Interning Nat} {f : Nat → Interning Nat} (first : Steady given x)
    (second : ∀ i, Steady (i :: given) (f i)) : Steady given (x >>= f) := by
  refine ⟨fun pool => ?_, fun pool layered known => ?_, fun pool => ?_⟩
  · exact (first.longer pool).trans ((second (x pool).1).longer (x pool).2)
  · refine (second (x pool).1).layered _ (first.layered pool layered known) ?_
    refine List.forall_mem_cons.2 ⟨first.known pool, fun i member => ?_⟩
    exact (known i member).mono (first.longer pool)
  · exact (second (x pool).1).known _

theorem units (value : List UInt16) : Steady given (units value) := intern (List.nil_subset _)

theorem utf8 (value : String) : Steady given (utf8 value) := units _

theorem className (name : String) : Steady given (className name) :=
  (utf8 name).bind fun _ => intern (by simp [PoolEntry.indices])

theorem nameAndType (name descriptor : String) : Steady given (nameAndType name descriptor) :=
  (utf8 name).bind fun _ => (utf8 descriptor).bind fun _ => intern (by simp [PoolEntry.indices])

theorem reference (m : MemberSymbol) {form : Nat → Nat → PoolEntry}
    (indices : ∀ c n, (form c n).indices = [c, n]) :
    Steady given (Interning.className m.owner >>= fun c =>
      Interning.nameAndType m.name m.descriptor >>= fun n => Interning.intern (form c n)) :=
  (className m.owner).bind fun c => (nameAndType m.name m.descriptor).bind fun n =>
    intern (by simp [indices])

end Steady

theorem Request.steady (r : Request) : Steady r.references r.ask := by
  cases r with
  | text value => exact .utf8 value
  | string value => exact (Steady.units value).bind fun _ => .intern (by simp [PoolEntry.indices])
  | className name => exact .className name
  | fieldRef m => exact .reference m fun _ _ => rfl
  | methodRef m isInterface =>
    cases isInterface with
    | false => exact .reference m fun _ _ => rfl
    | true => exact .reference m fun _ _ => rfl
  | methodHandle kind reference => exact .intern (List.Subset.refl _)
  | methodType descriptor =>
    exact (Steady.utf8 descriptor).bind fun _ => .intern (by simp [PoolEntry.indices])
  | invokeDynamic bootstrap name descriptor =>
    exact (Steady.nameAndType name descriptor).bind fun _ => .intern (by simp [PoolEntry.indices])

theorem Answered.of_append {front back : List Request} (answered : Answered (front ++ back)) :
    Answered front := by
  intro before r between same
  exact answered before r (between ++ back) (by rw [same, List.append_assoc, List.cons_append])

/-- Requests leave a layered pool, and what they are answered is known in it. -/
theorem layered_built {requests : List Request} (answered : Answered requests) :
    Layered (built requests) ∧ ∀ i ∈ answers requests, Known (built requests) i := by
  induction requests using List.reverseRecOn with
  | nil => exact ⟨⟨List.nodup_nil, by rintro _ _ ⟨k, -, found⟩; cases found⟩, by rintro i ⟨⟩⟩
  | append_singleton front r ih =>
    obtain ⟨layered, known⟩ := ih answered.of_append
    have made : ∀ i ∈ r.references, i ∈ answers front := answered front r [] rfl
    have steady := r.steady
    rw [built_concat, answers_concat]
    refine ⟨steady.layered _ layered fun i member => known i (made i member), fun i member => ?_⟩
    rcases List.mem_append.1 member with old | new
    · exact (known i old).mono (steady.longer _)
    · exact List.mem_singleton.1 new ▸ steady.known _

/-! ### A map beside the list -/

section
variable {m : Type → Type} [Monad m] (intern : PoolEntry → m Nat)

/-- Enters a text. -/
def enterText (value : List UInt16) : m Nat := intern (.utf8 (ModifiedUtf8.encodeUnits value))

/-- Enters a class after its name. -/
def enterClass (name : String) : m Nat := do
  let name ← enterText intern (Utf16.encode name.toList)
  intern (.classInfo name)

/-- Enters a name with a descriptor after both. -/
def enterNameAndType (name descriptor : String) : m Nat := do
  let name ← enterText intern (Utf16.encode name.toList)
  let descriptor ← enterText intern (Utf16.encode descriptor.toList)
  intern (.nameAndType name descriptor)

/-- Enters what is asked for, in whatever way single constants are entered. -/
def Request.enter : Request → m Nat
  | .text value => enterText intern (Utf16.encode value.toList)
  | .string units => do
    let text ← enterText intern units
    intern (.string text)
  | .className name => enterClass intern name
  | .fieldRef m => do
    let owner ← enterClass intern m.owner
    let member ← enterNameAndType intern m.name m.descriptor
    intern (.fieldRef owner member)
  | .methodRef m isInterface => do
    let owner ← enterClass intern m.owner
    let member ← enterNameAndType intern m.name m.descriptor
    intern (if isInterface then .interfaceMethodRef owner member else .methodRef owner member)
  | .methodHandle kind reference => intern (.methodHandle kind.toNat reference)
  | .methodType descriptor => do
    let descriptor ← enterText intern (Utf16.encode descriptor.toList)
    intern (.methodType descriptor)
  | .invokeDynamic bootstrap name descriptor => do
    let member ← enterNameAndType intern name descriptor
    intern (.invokeDynamic bootstrap.toNat member)

end

theorem Request.enter_intern (r : Request) : r.enter Interning.intern = r.ask := by
  cases r <;> rfl

/-- A pool with a map by which its constants are found again. -/
structure Table where
  entries : List PoolEntry
  lookup : InsertionMap PoolEntry Nat

namespace Table

/-- The table without constants. -/
def empty : Table := ⟨[], .empty⟩

/-- The index of a constant, which is entered at the end if the map does not have it. An index is
kept in two bytes. -/
def intern (e : PoolEntry) : StateM Table Nat := fun t =>
  match t.lookup.get? e with
  | some index => (index, t)
  | none =>
    let index := (t.entries.length + 1) % 2 ^ 16
    (index, ⟨t.entries ++ [e], t.lookup.insert e index⟩)

/-- The map has the constants of a pool, each with its index. -/
structure Agrees (t : Table) (pool : List PoolEntry) : Prop where
  entries : t.entries = pool
  lookup : ∀ e index, t.lookup.get? e = some index ↔ Holds pool index e

theorem agrees_empty : empty.Agrees [] := by
  refine ⟨rfl, fun e index => ⟨fun found => ?_, ?_⟩⟩
  · cases found
  · rintro ⟨k, -, found⟩
    cases found

/-- With a table one gets what one gets with a pool, as long as indices fit in two bytes. -/
structure Mirrors {α : Type} (x : StateM Table α) (y : Interning α) : Prop where
  longer : ∀ pool, pool <+: (y pool).2
  same : ∀ t pool, t.Agrees pool → (y pool).2.length < 2 ^ 16 →
    (x t).1 = (y pool).1 ∧ (x t).2.Agrees (y pool).2

namespace Mirrors
variable {α β : Type}

theorem pure (a : α) : Mirrors (pure a) (pure a) :=
  ⟨fun _ => List.prefix_refl _, fun _ _ agrees _ => ⟨rfl, agrees⟩⟩

theorem bind {x : StateM Table α} {y : Interning α} {f : α → StateM Table β} {g : α → Interning β}
    (first : Mirrors x y) (second : ∀ a, Mirrors (f a) (g a)) : Mirrors (x >>= f) (y >>= g) := by
  refine ⟨fun pool => ?_, fun t pool agrees fits => ?_⟩
  · exact (first.longer pool).trans ((second _).longer _)
  · have shorter := ((second (y pool).1).longer (y pool).2).length_le
    obtain ⟨same, after⟩ := first.same t pool agrees (Nat.lt_of_le_of_lt shorter fits)
    change (f (x t).1 (x t).2).1 = _ ∧ (f (x t).1 (x t).2).2.Agrees _
    rw [same]
    exact (second _).same _ _ after fits

theorem mapM {f : α → StateM Table β} {g : α → Interning β} (each : ∀ a, Mirrors (f a) (g a))
    (as : List α) : Mirrors (as.mapM f) (as.mapM g) := by
  induction as with
  | nil => exact pure []
  | cons a as ih =>
    rw [List.mapM_cons, List.mapM_cons]
    exact (each a).bind fun b => ih.bind fun bs => pure (b :: bs)

theorem intern (e : PoolEntry) : Mirrors (Table.intern e) (Interning.intern e) := by
  refine ⟨prefix_intern e, fun t pool agrees fits => ?_⟩
  unfold Table.intern
  rcases intern_cases e pool with ⟨index, here, same⟩ | ⟨new, same⟩ <;> rw [same] at fits ⊢
  · rw [(agrees.lookup e index).2 here]
    exact ⟨rfl, agrees⟩
  · have absent : t.lookup.get? e = none := by
      cases found : t.lookup.get? e with
      | none => rfl
      | some index =>
        obtain ⟨k, -, there⟩ := (agrees.lookup e index).1 found
        exact absurd (List.mem_of_getElem? there) new
    rw [List.length_append, List.length_singleton] at fits
    rw [absent, agrees.entries, Nat.mod_eq_of_lt fits]
    refine ⟨rfl, rfl, fun x index => ?_⟩
    rw [InsertionMap.get?_insert, holds_concat_iff]
    by_cases here : e = x
    · subst here
      have nowhere : ¬ Holds pool index e := by
        rintro ⟨k, -, there⟩
        exact new (List.mem_of_getElem? there)
      rw [if_pos rfl, Option.some.injEq, or_iff_right nowhere, and_iff_left rfl, eq_comm]
    · rw [if_neg here, agrees.lookup x index, or_iff_left fun last => here last.2.symm]

theorem text (value : List UInt16) :
    Mirrors (enterText Table.intern value) (enterText Interning.intern value) := intern _

theorem className (name : String) :
    Mirrors (enterClass Table.intern name) (enterClass Interning.intern name) :=
  (text _).bind fun _ => intern _

theorem nameAndType (name descriptor : String) :
    Mirrors (enterNameAndType Table.intern name descriptor)
      (enterNameAndType Interning.intern name descriptor) :=
  (text _).bind fun _ => (text _).bind fun _ => intern _

theorem request (r : Request) : Mirrors (r.enter Table.intern) r.ask := by
  rw [← r.enter_intern]
  cases r with
  | text value => exact text _
  | string units => exact (text units).bind fun _ => intern _
  | className name => exact className name
  | fieldRef m => exact (className _).bind fun _ => (nameAndType _ _).bind fun _ => intern _
  | methodRef m isInterface =>
    exact (className _).bind fun _ => (nameAndType _ _).bind fun _ => intern _
  | methodHandle kind reference => exact intern _
  | methodType descriptor => exact (text _).bind fun _ => intern _
  | invokeDynamic bootstrap name descriptor => exact (nameAndType _ _).bind fun _ => intern _

end Mirrors
end Table

/-! ### Reading the pool back -/

/-- In a pool that was read, an index leads to what was asked for. -/
def Resolves (pool : ConstantPool) (index : Nat) : Request → Prop
  | .text value => pool.text index = .ok value
  | .string units => ∃ t, pool.get index = .ok (.string t) ∧
    pool.text t = .ok (String.ofList (Utf16.decode units))
  | .className name => pool.className index = .ok name
  | .fieldRef m => pool.member index = .ok m ∧ ∃ c n, pool.get index = .ok (.fieldRef c n)
  | .methodRef m isInterface => pool.member index = .ok m ∧ ∃ c n, pool.get index =
    .ok (if isInterface then .interfaceMethodRef c n else .methodRef c n)
  | .methodHandle kind reference => pool.get index = .ok (.methodHandle kind.toNat reference)
  | .methodType descriptor => ∃ d, pool.get index = .ok (.methodType d) ∧
    pool.text d = .ok descriptor
  | .invokeDynamic bootstrap name descriptor => ∃ n,
    pool.get index = .ok (.invokeDynamic bootstrap.toNat n) ∧
      pool.nameAndType n = .ok (name, descriptor)

theorem Sound.resolves {pool : List PoolEntry} {index : Nat} {r : Request} (sound : Sound pool)
    (means : Means pool index r) (known : ∀ i ∈ r.references, Known pool i) :
    Resolves (Image.constantPool pool) index r := by
  cases r with
  | text value => exact sound.text means
  | string units =>
    obtain ⟨t, here, text⟩ := means
    have fits : t % 2 ^ 16 = t := Nat.mod_eq_of_lt (sound.lt text)
    exact ⟨t, sound.get here (by rw [PoolEntry.constant?, fits]), sound.units text⟩
  | className name => exact sound.className means
  | fieldRef m =>
    obtain ⟨c, n, here, parts⟩ := means
    exact ⟨sound.member ⟨c, n, .inl here, parts⟩, _, _, sound.get here rfl⟩
  | methodRef m isInterface =>
    obtain ⟨c, n, here, parts⟩ := means
    cases isInterface with
    | false => exact ⟨sound.member ⟨c, n, .inr (.inl here), parts⟩, _, _, sound.get here rfl⟩
    | true => exact ⟨sound.member ⟨c, n, .inr (.inr here), parts⟩, _, _, sound.get here rfl⟩
  | methodHandle kind reference =>
    have small : kind.toNat % 2 ^ 8 = kind.toNat := Nat.mod_eq_of_lt kind.toNat_lt
    have bound := (known reference List.mem_cons_self).2
    have fits : reference % 2 ^ 16 = reference :=
      Nat.mod_eq_of_lt (Nat.lt_of_le_of_lt (Nat.le_trans bound sound.size) (by decide))
    exact sound.get means (by rw [PoolEntry.constant?, small, fits])
  | methodType descriptor =>
    obtain ⟨d, here, text⟩ := means
    have fits : d % 2 ^ 16 = d := Nat.mod_eq_of_lt (sound.lt text)
    exact ⟨d, sound.get here (by rw [PoolEntry.constant?, fits]), sound.text text⟩
  | invokeDynamic bootstrap name descriptor =>
    obtain ⟨n, here, member⟩ := means
    have small : bootstrap.toNat % 2 ^ 16 = bootstrap.toNat := Nat.mod_eq_of_lt bootstrap.toNat_lt
    have fits : n % 2 ^ 16 = n := by
      obtain ⟨_, _, held, -⟩ := member
      exact Nat.mod_eq_of_lt (sound.lt held)
    exact ⟨n, sound.get here (by rw [PoolEntry.constant?, small, fits]), sound.nameAndType member⟩

theorem sound_built {requests : List Request} (size : (built requests).length ≤ 65534)
    (texts : ∀ text, .utf8 text ∈ built requests → text.length ≤ 65535) :
    Sound (built requests) := by
  refine ⟨(grows_mapM requests).plain [] (by simp), size, fun text member => ?_⟩
  exact Nat.lt_succ_of_le (texts text member)

theorem Answered.known {requests : List Request} (answered : Answered requests) {r : Request}
    (member : r ∈ requests) : ∀ i ∈ r.references, Known (built requests) i := by
  intro i made
  obtain ⟨front, back, rfl⟩ := List.append_of_mem member
  refine (layered_built answered).2 i ?_
  rw [answers_append]
  exact List.mem_append_left _ (answered front r back rfl i made)

/-- The map that is kept beside a pool is the pool turned round. -/
theorem exists_table {requests : List Request} (fits : (built requests).length < 2 ^ 16) :
    ∃ table, requests.mapM (Request.enter Table.intern) Table.empty = (answers requests, table) ∧
      table.Agrees (built requests) := by
  have mirrors := Table.Mirrors.mapM Table.Mirrors.request requests
  obtain ⟨same, agrees⟩ := mirrors.same .empty [] Table.agrees_empty fits
  exact ⟨_, Prod.ext same rfl, agrees⟩

/-- A pool that fits, made by any requests in a row, has no constant twice and is what the map
beside it says. What was answered once is kept under its index by all later pools. Constants hold
only indices of earlier ones; and when the pool is written and read back, every index that was
answered leads to what was asked for. -/
theorem built_resolves (requests : List Request) (answered : Answered requests)
    (size : (built requests).length ≤ 65534)
    (texts : ∀ text, .utf8 text ∈ built requests → text.length ≤ 65535) :
    (built requests).Nodup ∧
    (∃ table, requests.mapM (Request.enter Table.intern) Table.empty = (answers requests, table) ∧
      table.entries = built requests ∧
      ∀ e index, table.lookup.get? e = some index ↔ Holds (built requests) index e) ∧
    (∀ front back, requests = front ++ back →
      built front <+: built requests ∧ answers front <+: answers requests ∧
      ∀ i ∈ answers front, ∃ e, Holds (built front) i e ∧ Holds (built requests) i e) ∧
    (∀ index e, Holds (built requests) index e → ∀ i ∈ e.indices, 0 < i ∧ i < index) ∧
    ∃ pool, Reader.Reads ConstantPool.read (Image.pool (built requests)) pool ∧
      List.Forall₂ (fun r index => Resolves pool index r) requests (answers requests) := by
  have layered := (layered_built answered).1
  have sound := sound_built size texts
  refine ⟨layered.distinct, ?_, ?_, layered.earlier, Image.constantPool (built requests), ?_, ?_⟩
  · obtain ⟨table, same, agrees⟩ := exists_table (Nat.lt_of_le_of_lt size (by decide))
    exact ⟨table, same, agrees.entries, agrees.lookup⟩
  · rintro front back rfl
    refine ⟨prefix_built front back, by rw [answers_append]; exact List.prefix_append _ _, ?_⟩
    intro i member
    obtain ⟨e, here⟩ := ((layered_built answered.of_append).2 i member).exists_holds
    exact ⟨e, here, here.mono (prefix_built front back)⟩
  · refine Image.reads_pool sound.legible ?_
    rw [sound.slotCount_eq]
    omega
  · have means := (grows_mapM requests).gives [] (built requests) (List.prefix_refl _)
    have known : ∀ r ∈ requests, ∀ i ∈ r.references, Known (built requests) i :=
      fun r member => answered.known member
    refine ((List.forall₂_and_left ..).2 ⟨known, means⟩).imp ?_
    rintro r index ⟨made, meant⟩
    exact sound.resolves meant made

/-- A field, a handle of it and the name of its class, which is there already. -/
def fieldAndHandle : List Request := [.fieldRef ⟨"A", "f", "I"⟩, .methodHandle 1 6, .text "A"]

theorem answered_fieldAndHandle : Answered fieldAndHandle := by
  intro front r back same
  rcases front with _ | ⟨a, _ | ⟨b, _ | ⟨c, front⟩⟩⟩
  · cases same
    rintro i ⟨⟩
  · cases same
    exact fun i made => made
  · cases same
    rintro i ⟨⟩
  · have longer := congrArg List.length same
    simp [fieldAndHandle] at longer

theorem built_resolves_fieldAndHandle :
    built fieldAndHandle = [.utf8 [65], .classInfo 1, .utf8 [102], .utf8 [73], .nameAndType 3 4,
      .fieldRef 2 5, .methodHandle 1 6] ∧
    ∃ pool, Reader.Reads ConstantPool.read (Image.pool (built fieldAndHandle)) pool ∧
      pool.member 6 = .ok ⟨"A", "f", "I"⟩ ∧ pool.get 7 = .ok (.methodHandle 1 6) ∧
      pool.text 1 = .ok "A" := by
  have entries : built fieldAndHandle = [.utf8 [65], .classInfo 1, .utf8 [102], .utf8 [73],
    .nameAndType 3 4, .fieldRef 2 5, .methodHandle 1 6] := rfl
  have indices : answers fieldAndHandle = [6, 7, 1] := rfl
  obtain ⟨-, -, -, -, pool, reads, resolved⟩ := built_resolves fieldAndHandle
    answered_fieldAndHandle (by simp [entries]) (by simp [entries])
  rw [indices] at resolved
  obtain ⟨⟨field, -⟩, others⟩ := List.forall₂_cons.1 resolved
  obtain ⟨handle, last⟩ := List.forall₂_cons.1 others
  exact ⟨entries, pool, reads, field, handle, (List.forall₂_cons.1 last).1⟩

end Interning
end Linkage
