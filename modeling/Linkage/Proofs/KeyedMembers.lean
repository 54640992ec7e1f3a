import Linkage.Proofs.DecodedSites
import Linkage.Proofs.Provenance
import Linkage.Proofs.Sessions
import Linkage.Proofs.Transparency

/-!
What members are declared under. A class file is decoded to a declaration that has each method once,
under its own descriptor, and each field under its own; all are members of the class, static where
their access flags say so (`ClassFile.Keyed`). A class file with two methods of one descriptor,
however they are spelled, is not decoded. The search for a member looks at the descriptor that a
member is declared under and at its staticness only; for declarations that were decoded this is
enough (`Decoder.decode_keyed`).
-/
namespace Linkage

/-- A record of a class file is entered under a descriptor: it spells the descriptor, and the
reference that is entered has it too, is a member of the class, and is static if the flag is set. -/
structure ClassMember.Enters {δ : Type} (m : ClassMember)
    (read : String → String → Except SymbolError δ) (owner : ClassName) (key : δ)
    (reference : Reference δ) : Prop where
  spelled : read m.descriptor m.name = .ok key
  keyed : reference.descriptor = key
  owner : reference.owner = owner
  isStatic : reference.isStatic = m.access.testBit 3

namespace ClassFile

/-- Two records spell one method. -/
def RepeatsMethod (file : ClassFile) : Prop :=
  ∃ before a between b after d, file.methods = before ++ a :: (between ++ b :: after) ∧
    MethodDescriptor.ofRaw a.descriptor a.name = .ok d ∧
    MethodDescriptor.ofRaw b.descriptor b.name = .ok d

/-- A class is declared with the members of its file: as many methods as there are records, each of
one of them, and fields each of the last record that spells them. -/
structure Keyed (file : ClassFile) (c : DeclaredClass) : Prop where
  method : ∀ k m, (k, m) ∈ c.methods.toList →
    ∃ r ∈ file.methods, r.Enters MethodDescriptor.ofRaw c.name k m.reference
  field : ∀ k f, (k, f) ∈ c.fields.toList →
    ∃ before r after, file.fields = before ++ r :: after ∧
      r.Enters FieldDescriptor.ofRaw c.name k f ∧
      ∀ later ∈ after, FieldDescriptor.ofRaw later.descriptor later.name ≠ .ok k
  count : c.methods.toList.length = file.methods.length
  distinct : ¬ file.RepeatsMethod

end ClassFile

/-! ### Decoding -/

section
variable {decoder : Decoder} {file : ClassFile} {owner : ClassName}

theorem enters_of_declareMethod {m : ClassMember} {r : DeclaredMethod × List ClassName}
    (run : decoder.declareMethod file owner m = .ok r) :
    m.Enters MethodDescriptor.ofRaw owner r.1.reference.descriptor r.1.reference := by
  obtain ⟨descriptor, read, rest⟩ := bind_eq_ok.1 run
  have spelled := ofSymbol_eq_ok.1 read
  dsimp only at rest
  split at rest
  · obtain ⟨uses, -, last⟩ := bind_eq_ok.1 rest
    cases last
    exact ⟨spelled, rfl, rfl, m.isStatic_eq⟩
  · cases rest
    exact ⟨spelled, rfl, rfl, m.isStatic_eq⟩

/-- Fields are entered one after the other, so an entry comes from the last record that spells it,
or it was there and no record does. -/
theorem enters_of_declareFields {fs : List ClassMember} {fields after :
    SortedMap FieldDescriptor FieldReference} {k : FieldDescriptor} {f : FieldReference}
    (run : Decoder.declareFields owner fields fs = .ok after) (found : after.get? k = some f) :
    (∃ before r rest, fs = before ++ r :: rest ∧ r.Enters FieldDescriptor.ofRaw owner k f ∧
        ∀ later ∈ rest, FieldDescriptor.ofRaw later.descriptor later.name ≠ .ok k) ∨
      fields.get? k = some f ∧
        ∀ r ∈ fs, FieldDescriptor.ofRaw r.descriptor r.name ≠ .ok k := by
  induction fs generalizing fields with
  | nil =>
    cases run
    exact .inr ⟨found, nofun⟩
  | cons first fs ih =>
    obtain ⟨descriptor, read, rest⟩ := bind_eq_ok.1 run
    have spelled := ofSymbol_eq_ok.1 read
    rcases ih rest with ⟨before, r, later, rfl, enters, last⟩ | ⟨old, none⟩
    · exact .inl ⟨first :: before, r, later, rfl, enters, last⟩
    · rw [SortedMap.get?_insert] at old
      by_cases same : descriptor = k
      · subst same
        rw [if_pos (Std.compare_eq_iff_eq.2 rfl)] at old
        cases old
        exact .inl ⟨[], first, fs, rfl, ⟨spelled, rfl, rfl, first.isStatic_eq⟩, none⟩
      · rw [if_neg fun equal => same (Std.LawfulEqOrd.eq_of_compare equal)] at old
        refine .inr ⟨old, ?_⟩
        intro r member
        rcases List.mem_cons.1 member with rfl | later
        · rw [spelled]
          exact fun equal => same (Except.ok.inj equal)
        · exact none r later

/-- As many entries as there are distinct keys. -/
theorem length_methods {rs : List (DeclaredMethod × List ClassName)}
    (distinct : (rs.map (·.1.reference.descriptor)).Nodup) :
    (rs.foldl (fun map r => map.insert r.1.reference.descriptor r.1)
      (.empty : SortedMap MethodDescriptor DeclaredMethod)).toList.length = rs.length := by
  let methods := rs.foldl (fun map r => map.insert r.1.reference.descriptor r.1)
    (.empty : SortedMap MethodDescriptor DeclaredMethod)
  have keys : methods.keys.Nodup := methods.ascending.imp fun {a b} before same => by
    rw [Before, same, Std.compare_self] at before
    cases before
  have members : ∀ k, k ∈ methods.keys ↔ k ∈ rs.map (·.1.reference.descriptor) := by
    intro k
    rw [SortedMap.mem_keys_iff, get?_methods, ← Option.isSome_iff_exists, Option.isSome_map,
      List.getLast?_isSome, ne_eq, List.filter_eq_nil_iff, List.mem_map]
    simp only [decide_eq_true_eq, not_forall, not_not, exists_prop]
  have perm := (List.perm_ext_iff_of_nodup keys distinct).2 members
  simpa [methods, SortedMap.keys] using perm.length_eq

/-- Methods that were declared one after the other have distinct descriptors. -/
theorem not_repeatsMethod {rs : List (DeclaredMethod × List ClassName)}
    (each : List.Forall₂ (fun m r => decoder.declareMethod file owner m = .ok r) file.methods rs)
    (distinct : (rs.map (·.1.reference.descriptor)).Nodup) : ¬ file.RepeatsMethod := by
  have spelled : List.Forall₂ (fun m k => MethodDescriptor.ofRaw m.descriptor m.name = .ok k)
      file.methods (rs.map (·.1.reference.descriptor)) := by
    rw [List.forall₂_map_right_iff]
    exact each.imp fun _ _ run => (enters_of_declareMethod run).spelled
  rintro ⟨before, a, between, b, after, d, split, first, second⟩
  -- the keys that stand where the two records stand are one key, which is then there twice
  rw [split] at spelled
  have fromFirst := List.forall₂_drop before.length spelled
  rw [List.drop_left, List.forall₂_cons_left_iff] at fromFirst
  obtain ⟨k, later, isFirst, others, keys⟩ := fromFirst
  have fromSecond := List.forall₂_drop between.length others
  rw [List.drop_left, List.forall₂_cons_left_iff] at fromSecond
  obtain ⟨l, _, isSecond, -, there⟩ := fromSecond
  have same : k = l :=
    Except.ok.inj (isFirst.symm.trans (first.trans (second.symm.trans isSecond)))
  have again : l ∈ later := List.mem_of_mem_drop (there ▸ List.mem_cons_self)
  have once := (List.drop_sublist before.length _).nodup distinct
  rw [keys, List.nodup_cons] at once
  exact once.1 (same ▸ again)

theorem Decoder.keyed_of_decode {bytes : Bytes} {c : DeclaredClass}
    (run : decoder.decode bytes = .ok c) :
    ∃ file, ClassFile.ofBytes bytes = .ok file ∧ file.Keyed c := by
  obtain ⟨file, parsed, rest⟩ := bind_eq_ok.1 run
  obtain ⟨name, -, rest⟩ := bind_eq_ok.1 rest
  obtain ⟨parents, -, rest⟩ := bind_eq_ok.1 rest
  obtain ⟨fields, fielded, rest⟩ := bind_eq_ok.1 rest
  obtain ⟨⟨methods, loaded⟩, declared, last⟩ := bind_eq_ok.1 rest
  cases last
  obtain ⟨rs, each, distinct, -, rfl, -⟩ := of_declareMethods declared
  refine ⟨file, parsed, ?_, ?_, ?_, not_repeatsMethod each distinct⟩
  · intro k m member
    have found := SortedMap.get?_eq_some_iff.2 member
    rw [get?_methods, Option.map_eq_some_iff] at found
    obtain ⟨r, last, rfl⟩ := found
    obtain ⟨inside, key⟩ := List.mem_filter.1 (List.mem_of_getLast? last)
    obtain ⟨record, isRecord, here⟩ := exists_of_forall₂ each.flip inside
    exact ⟨record, isRecord, of_decide_eq_true key ▸ enters_of_declareMethod here⟩
  · intro k f member
    have found := SortedMap.get?_eq_some_iff.2 member
    rcases enters_of_declareFields fielded found with last | ⟨none, -⟩
    · exact last
    · cases none
  · exact (length_methods distinct).trans each.length_eq.symm

end

/-! ### Looking members up -/

/-- What a look-up in a class answers has the descriptor that was asked for and is a member of the
class. -/
def DeclaredClass.AnswersOwn {δ : Type} (c : DeclaredClass)
    (lookup : DeclaredClass → δ → Option (Reference δ)) : Prop :=
  ∀ k m, lookup c k = some m → m.descriptor = k ∧ m.owner = c.name

namespace ClassFile.Keyed
variable {file : ClassFile} {c : DeclaredClass}

theorem answersOwn_method (keyed : file.Keyed c) : c.AnswersOwn DeclaredClass.methodReference? := by
  intro k reference found
  obtain ⟨m, here, rfl⟩ := Option.map_eq_some_iff.1 found
  obtain ⟨r, -, enters⟩ := keyed.method k m (SortedMap.get?_eq_some_iff.1 here)
  exact ⟨enters.keyed, enters.owner⟩

theorem answersOwn_field (keyed : file.Keyed c) : c.AnswersOwn DeclaredClass.field? := by
  intro k f found
  obtain ⟨_, r, _, -, enters, -⟩ := keyed.field k f (SortedMap.get?_eq_some_iff.1 found)
  exact ⟨enters.keyed, enters.owner⟩

end ClassFile.Keyed

namespace Loader

/-- Every class that the loader keeps was decoded from some bytes. -/
def KeepsDecoded (l : Loader) : Prop :=
  ∀ key c, (key, some c) ∈ l.slots → ∃ bytes, l.decoder.decode bytes = .ok c.declared

variable {l : Loader} {fs : FileSystem}

theorem KeepsDecoded.load (decoded : l.KeepsDecoded) (location : ClassLocation) :
    (l.load fs location).2.KeepsDecoded := by
  intro key c member
  rw [decoder_load]
  rcases mem_slots_load member with old | ⟨-, loaded⟩
  · exact decoded key c old
  · obtain ⟨bytes, -, here⟩ := Decoder.load_eq_ok_iff.1 loaded
    exact ⟨bytes, here⟩

theorem KeepsDecoded.after (decoded : l.KeepsDecoded) (history : List ClassLocation) :
    (l.after fs history).KeepsDecoded := by
  induction history generalizing l with
  | nil => exact decoded
  | cons location history ih => exact ih (decoded.load location)

theorem KeepsDecoded.session {s : Session} (decoded : s.loader.KeepsDecoded)
    (steps : List SessionStep) : (s.run steps).loader.KeepsDecoded := by
  induction steps generalizing s with
  | nil => exact decoded
  | cons first steps ih =>
    cases first with
    | change files => exact ih (s := s.step (.change files)) decoded
    | load location => exact ih (s := s.step (.load location)) (decoded.load location)

theorem KeepsDecoded.gives (decoded : l.KeepsDecoded) {location : ClassLocation} {d : DeclaredClass}
    (given : l.Gives fs location d) :
    ∃ decoder : Decoder, ∃ bytes, decoder.decode bytes = .ok d := by
  obtain ⟨history, c, loaded, rfl⟩ := given
  have before : (l.after fs history).KeepsDecoded := decoded.after history
  unfold Loader.load at loaded
  split at loaded
  · rename_i kept isKept
    cases loaded
    obtain ⟨bytes, here⟩ := before _ _ (mem_slots_of_kept? isKept)
    exact ⟨_, bytes, here⟩
  · split at loaded
    · cases loaded
    · rename_i declared read
      cases loaded
      obtain ⟨bytes, -, here⟩ := Decoder.load_eq_ok_iff.1 read
      exact ⟨_, bytes, here⟩

end Loader

namespace Provenance.Rules
open Inheritance
universe u
variable {m : Type → Type u} [Monad m] [LawfulMonad m] [MonadExceptOf CheckError m]
  {load : ClassLocation → m DeclaredClass} {answers : ClassLocation → DeclaredClass → Prop}
  {permitted : CheckError → Prop} {gives : {α : Type} → m α → (α → Prop) → Prop}
  {α β σ δ : Type} {index : ClassIndex}

omit [LawfulMonad m] in
/-- What the first step with a result gives. -/
theorem firstSome_of_step (rules : Rules load answers permitted gives)
    {step : α → σ → m (Option β × σ)} {P : β → Prop} {as : List α} (s : σ)
    (each : ∀ a ∈ as, ∀ s, gives (step a s) fun r => ∀ b, r.1 = some b → P b) :
    gives (Resolution.firstSome step as s) fun r => ∀ b, r.1 = some b → P b := by
  induction as generalizing s with
  | nil => exact rules.pure nofun
  | cons a as ih =>
    refine rules.bind (each a List.mem_cons_self s) ?_
    rintro ⟨_ | b, next⟩ has
    · exact ih next fun other later => each other (List.mem_cons_of_mem _ later)
    · exact rules.pure has

/-- What the search finds is inherited from declarations that were loaded. -/
theorem search_inherits (rules : Rules load answers permitted gives)
    (lookup : DeclaredClass → δ → Option (Reference δ)) (wanted : Reference δ) (fuel : Nat)
    (c : DeclaredClass) (asked : List ClassName) :
    gives (Resolution.search index load lookup wanted fuel c asked) fun r =>
      ∀ found, r.1 = some found → Inherits index answers lookup wanted c found := by
  induction fuel generalizing c asked with
  | zero => exact rules.pure nofun
  | succ fuel ih =>
    unfold Resolution.search
    split
    · exact rules.pure nofun
    · split
      · rename_i own here
        refine rules.pure fun found same => ?_
        dsimp only at same
        split at same
        · rename_i staticness
          cases same
          exact .own here staticness
        · cases same
      · rename_i silent
        refine rules.firstSome_of_step _ fun p isParent asked => rules.bind (rules.indexLoad p) ?_
        rintro _ (⟨rfl, -⟩ | ⟨d, rfl, location, located, answered⟩)
        · exact rules.pure nofun
        · refine rules.mono (ih d asked) fun r inherited found same => ?_
          exact .parent silent ⟨p, isParent, location, located, answered⟩ (inherited found same)

theorem resolve_inherits_answers (rules : Rules load answers permitted gives)
    (lookup : DeclaredClass → δ → Option (Reference δ)) (wanted : Reference δ)
    (target : DeclaredClass) :
    gives (Resolution.resolve index load lookup target wanted) fun r =>
      ∀ found, r = some found → Inherits index answers lookup wanted target found :=
  rules.bind (rules.search_inherits lookup wanted _ target []) fun _ has => rules.pure has

end Provenance.Rules

namespace Inheritance
variable {δ : Type} {index : ClassIndex} {answers : ClassLocation → DeclaredClass → Prop}
  {lookup : DeclaredClass → δ → Option (Reference δ)} {wanted m : Reference δ}

/-- What is inherited is declared by an ancestor, with the staticness that was asked for. -/
theorem Inherits.exists_declaring {c : DeclaredClass}
    (inherits : Inherits index answers lookup wanted c m) :
    m.isStatic = wanted.isStatic ∧
      ∃ d, Ancestor index answers c d ∧ lookup d wanted.descriptor = some m := by
  induction inherits with
  | own here staticness => exact ⟨staticness, _, .refl, here⟩
  | parent _ parent _ ih =>
    obtain ⟨staticness, d, ancestor, here⟩ := ih
    exact ⟨staticness, d, .head parent ancestor, here⟩

/-- A member that is found has the descriptor and the staticness of the reference, and its owner is
the class of an ancestor that declares it. -/
structure Resolves (index : ClassIndex) (answers : ClassLocation → DeclaredClass → Prop)
    (lookup : DeclaredClass → δ → Option (Reference δ)) (target : DeclaredClass)
    (wanted m : Reference δ) : Prop where
  descriptor : m.descriptor = wanted.descriptor
  isStatic : m.isStatic = wanted.isStatic
  declaring : ∃ d, Ancestor index answers target d ∧ lookup d wanted.descriptor = some m ∧
    m.owner = d.name

/-- Where declarations answer for themselves, so does the search. -/
theorem Inherits.resolves {target : DeclaredClass} (own : target.AnswersOwn lookup)
    (each : ∀ location d, answers location d → d.AnswersOwn lookup)
    (inherits : Inherits index answers lookup wanted target m) :
    Resolves index answers lookup target wanted m := by
  obtain ⟨staticness, d, ancestor, here⟩ := inherits.exists_declaring
  have ofItself : d.AnswersOwn lookup := by
    cases ancestor with
    | refl => exact own
    | tail _ parent =>
      obtain ⟨p, -, location, -, answered⟩ := parent
      exact each location d answered
  obtain ⟨descriptor, owner⟩ := ofItself _ m here
  exact ⟨descriptor, staticness, d, ancestor, here, owner⟩

end Inheritance

open Inheritance in
/-- A loader of decoded declarations gives the search only classes that answer for themselves. -/
theorem Loader.KeepsDecoded.resolves {δ : Type} {l after : Loader} {fs : FileSystem}
    {index : ClassIndex} {lookup : DeclaredClass → δ → Option (Reference δ)} {file : ClassFile}
    {target : DeclaredClass} {wanted m : Reference δ} (decoded : l.KeepsDecoded)
    (own : ∀ {file : ClassFile} {c : DeclaredClass}, file.Keyed c → c.AnswersOwn lookup)
    (keyed : file.Keyed target)
    (found : Loading.outcome l (Resolution.resolve index (Loading.load fs) lookup target wanted) =
      (.ok (some m), after)) :
    Resolves index (l.Gives fs) lookup target wanted m := by
  have rules := Provenance.rules_of_loader fs l
  have inherits := (rules.resolve_inherits_answers _ wanted target [] _ _ found).1 m rfl
  refine inherits.resolves (own keyed) ?_
  intro location d gives
  obtain ⟨decoder, bytes, here⟩ := decoded.gives gives
  obtain ⟨_, -, keyedHere⟩ := Decoder.keyed_of_decode here
  exact own keyedHere

open Inheritance in
/-- Decoded declarations are keyed by what they declare. Every method and field is entered under its
own descriptor, as a member of the class and with the staticness of its access flags, and every
record of a method has its own entry; a class file in which two records spell one method is refused.
So what is found for a reference, from a class that was decoded and through a loader after any
session, has the descriptor and the staticness of the reference and is owned by the class that
declares it. -/
theorem Decoder.decode_keyed (decoder : Decoder) (bytes : Bytes) :
    (∀ c, decoder.decode bytes = .ok c →
      ∃ file, ClassFile.ofBytes bytes = .ok file ∧ file.Keyed c) ∧
    (∀ file, ClassFile.ofBytes bytes = .ok file → file.RepeatsMethod →
      ∃ e, decoder.decode bytes = .error e) ∧
    ∀ target, decoder.decode bytes = .ok target →
      ∀ (other : Decoder) (capacity : Nat) (files now : FileSystem) (steps : List SessionStep)
        (l after : Loader) (index : ClassIndex),
        l = ((Session.start other capacity files).run steps).loader →
        (∀ wanted m, Loading.outcome l (Resolution.resolve index (Loading.load now)
            DeclaredClass.methodReference? target wanted) = (.ok (some m), after) →
          Resolves index (l.Gives now) DeclaredClass.methodReference? target wanted m) ∧
        ∀ wanted m, Loading.outcome l (Resolution.resolve index (Loading.load now)
            DeclaredClass.field? target wanted) = (.ok (some m), after) →
          Resolves index (l.Gives now) DeclaredClass.field? target wanted m := by
  refine ⟨fun c run => keyed_of_decode run, ?_, ?_⟩
  · intro file parsed repeats
    cases run : decoder.decode bytes with
    | error e => exact ⟨e, rfl⟩
    | ok c =>
      obtain ⟨same, read, keyed⟩ := keyed_of_decode run
      cases parsed.symm.trans read
      exact absurd repeats keyed.distinct
  · rintro target run other capacity files now steps l after index rfl
    obtain ⟨file, -, keyed⟩ := keyed_of_decode run
    have start : (Session.start other capacity files).loader.KeepsDecoded := nofun
    have decoded := start.session steps
    constructor
    · intro wanted m found
      exact decoded.resolves (fun each => each.answersOwn_method) keyed found
    · intro wanted m found
      exact decoded.resolves (fun each => each.answersOwn_field) keyed found

namespace Sample

/-- A class with one method in two spellings. -/
def twice : ClassSource :=
  { access := 0x21, name := "A", superClass := none, interfaces := [], fields := []
    methods := [⟨1, "m", "(La/B;)V", none⟩, ⟨9, "m", "(La.B;)V", none⟩] }

/-- Its records. -/
def twiceMethods : List ClassMember :=
  [⟨0x401, "m", "(La/B;)V", none⟩, ⟨0x409, "m", "(La.B;)V", none⟩]

end Sample

/-- A class is decoded and inherits a method of its parent; a class that has a method in two
spellings is not decoded. -/
theorem Decoder.decode_keyed_sample :
    (∃ file, ClassFile.ofBytes Sample.child.bytes = .ok file ∧ file.Keyed Sample.declaredChild) ∧
      (∃ e, standard.decode Sample.twice.bytes = .error e) ∧
      Inheritance.Resolves (ClassIndex.ofArtifacts Sample.classpath)
        ((Loader.new standard 1).Gives Sample.files) DeclaredClass.methodReference?
        Sample.declaredChild (Sample.method "A" "x") (Sample.method "B" "x") := by
  have decoded : standard.decode Sample.child.bytes = .ok Sample.declaredChild := by
    decide +kernel
  have found : (Loading.outcome (Loader.new standard 1) (Resolution.resolve
      (ClassIndex.ofArtifacts Sample.classpath) (Loading.load Sample.files)
      DeclaredClass.methodReference? Sample.declaredChild (Sample.method "A" "x"))).1 =
        .ok (some (Sample.method "B" "x")) := by
    rw [Loading.load_eq_loadKnown Sample.load_of_known]
    decide +kernel
  have records : (ClassFile.ofBytes Sample.twice.bytes).map (·.methods) =
      .ok Sample.twiceMethods := by decide +kernel
  obtain ⟨keyed, -, resolves⟩ := decode_keyed standard Sample.child.bytes
  refine ⟨keyed _ decoded, ?_, ?_⟩
  · cases parsed : ClassFile.ofBytes Sample.twice.bytes with
    | error e =>
      rw [parsed] at records
      cases records
    | ok file =>
      rw [parsed] at records
      refine (decode_keyed standard Sample.twice.bytes).2.1 file parsed
        ⟨[], _, [], _, [], ⟨"m", [.element (.reference ⟨"a.B"⟩)], .void⟩,
          Except.ok.inj records, ?_, ?_⟩
      · decide +kernel
      · decide +kernel
  · exact (resolves _ decoded standard 1 Sample.files Sample.files [] _ _ _ rfl).1 _ _
      (Prod.ext found rfl)

end Linkage
