import Linkage.Proofs.DeclaredSites

/-!
Decoding undoes building: from the class file of a well-formed description that fits in the format,
exactly the declaration of the description is decoded (`ClassSource.decode_bytes`).
-/
namespace Linkage
open Interning

/-! ### Well-formed descriptions -/

/-- Whether the owner of a member is an array or a class and its descriptor is one of a method or a
field, or a literal is that of an array or a class. -/
def Link.isWellFormed : Link → Bool
  | .call _ m => (Text.startsWith "[" m.owner || (ClassName.ofName m.owner).isOk) &&
      (MethodDescriptor.ofRaw m.descriptor m.name).isOk
  | .access _ m => (Text.startsWith "[" m.owner || (ClassName.ofName m.owner).isOk) &&
      (FieldDescriptor.ofRaw m.descriptor m.name).isOk
  | .literal name =>
    if Text.startsWith "[" name then (TypeDescriptor.ofRaw name).isOk
    else (ClassName.ofName name).isOk

/-- Whether the links of an instruction are well formed and an opcode that stands alone takes no
operands. -/
def Operation.isWellFormed : Operation → Bool
  | .plain opcode => Opcode.fixedWidth? opcode == some 0
  | o => o.links.all Link.isWellFormed

namespace Statement

mutual
/-- Whether the instructions of a statement are well formed and the exceptions are classes. -/
def isWellFormed : Statement → Bool
  | .operation o => o.isWellFormed
  | .line _ => true
  | .guarded catchType body =>
    catchType.toList.all (fun name => (ClassName.ofName name).isOk) && areWellFormed body
/-- Whether statements are well formed. -/
def areWellFormed : List Statement → Bool
  | [] => true
  | s :: rest => s.isWellFormed && areWellFormed rest
end

end Statement

/-- The descriptor of a method is one, and its body is well formed. -/
structure MethodSource.WellFormed (m : MethodSource) : Prop where
  descriptor : (MethodDescriptor.ofRaw m.descriptor m.name).isOk
  body : ∀ ss ∈ m.body, Statement.areWellFormed ss

/-- All names and descriptors are well formed, and no two methods have the same descriptor. -/
structure ClassSource.WellFormed (s : ClassSource) : Prop where
  name : (ClassName.ofName s.name).isOk
  parents : ∀ name ∈ s.superClass.toList ++ s.interfaces, (ClassName.ofName name).isOk
  fields : ∀ f ∈ s.fields, (FieldDescriptor.ofRaw f.descriptor f.name).isOk
  methods : ∀ m ∈ s.methods, m.WellFormed
  distinct : (s.methods.map fun m => (MethodDescriptor.ofRaw m.descriptor m.name).toOption).Nodup

/-! ### What a well-formed description declares -/

theorem exists_of_isOk {ε α : Type} {x : Except ε α} (ok : x.isOk) : ∃ a, x = .ok a := by
  cases x with
  | ok a => exact ⟨a, rfl⟩
  | error e => cases ok

/-- An instruction is well formed and so are the exceptions caught at it. -/
structure PlacedOperation.WellFormed (p : PlacedOperation) : Prop where
  operation : p.operation.isWellFormed
  caught : ∀ name ∈ p.caught, (ClassName.ofName name).isOk

namespace Statement

mutual
/-- The instructions of a well-formed statement. -/
theorem placed_wellFormed {s : Statement} {line : Nat} {caught : List String}
    (wellFormed : s.isWellFormed) (named : ∀ name ∈ caught, (ClassName.ofName name).isOk) :
    ∀ p ∈ (s.placed line caught).1, p.WellFormed := by
  cases s with
  | operation o =>
    rw [Statement.placed]
    rintro p (_ | ⟨_, none⟩)
    · exact ⟨wellFormed, named⟩
    · cases none
  | line n =>
    rw [Statement.placed]
    rintro p none
    cases none
  | guarded catchType body =>
    rw [Statement.isWellFormed, Bool.and_eq_true, List.all_eq_true] at wellFormed
    obtain ⟨caughtHere, inner⟩ := wellFormed
    have all : ∀ name ∈ catchType.toList ++ caught, (ClassName.ofName name).isOk := by
      intro name member
      rcases List.mem_append.1 member with here | around
      · exact caughtHere name here
      · exact named name around
    have rethrow : (Operation.plain Opcode.throwReference).isWellFormed := rfl
    rw [Statement.placed]
    intro p member
    rcases List.mem_append.1 member with inside | last
    · exact placedAll_wellFormed inner all p inside
    · cases List.mem_singleton.1 last
      exact ⟨rethrow, named⟩
/-- The instructions of well-formed statements. -/
theorem placedAll_wellFormed {ss : List Statement} {line : Nat} {caught : List String}
    (wellFormed : areWellFormed ss) (named : ∀ name ∈ caught, (ClassName.ofName name).isOk) :
    ∀ p ∈ (placedAll line caught ss).1, p.WellFormed := by
  cases ss with
  | nil =>
    rw [placedAll]
    rintro p none
    cases none
  | cons s ss =>
    rw [areWellFormed, Bool.and_eq_true] at wellFormed
    rw [placedAll]
    intro p member
    rcases List.mem_append.1 member with first | later
    · exact placed_wellFormed wellFormed.1 named p first
    · exact placedAll_wellFormed wellFormed.2 named p later
end

end Statement

/-- A reference to a member contributes something or is left out. -/
private theorem exists_memberUse {δ : Type} {decoder : Decoder} {m : MemberSymbol}
    {descriptor : Except SymbolError δ} (use : ClassName → δ → Use)
    (known : Text.startsWith "[" m.owner || (ClassName.ofName m.owner).isOk)
    (described : descriptor.isOk) :
    ∃ us, (if decoder.Drops m.owner then pure [] else do
      let owner ← ClassName.ofName m.owner
      let descriptor ← descriptor
      return [use owner descriptor] : Except SymbolError (List Use)) = .ok us := by
  by_cases drops : decoder.Drops m.owner
  · exact ⟨[], if_pos drops⟩
  · have noArray : ¬ Text.startsWith "[" m.owner = true := fun array => drops (.inl array)
    obtain ⟨owner, named⟩ := exists_of_isOk ((Bool.or_eq_true_iff.1 known).resolve_left noArray)
    obtain ⟨d, read⟩ := exists_of_isOk described
    rw [if_neg drops]
    exact ⟨_, bind_eq_ok.2 ⟨owner, named, bind_eq_ok.2 ⟨d, read, rfl⟩⟩⟩

theorem Link.exists_uses {l : Link} (decoder : Decoder) (line : Nat) (caught : SortedSet ClassName)
    (wellFormed : l.isWellFormed) : ∃ us, l.uses decoder line caught = .ok us := by
  cases l with
  | call isStatic m =>
    obtain ⟨known, described⟩ := Bool.and_eq_true_iff.1 wellFormed
    exact exists_memberUse _ known described
  | access isStatic m =>
    obtain ⟨known, described⟩ := Bool.and_eq_true_iff.1 wellFormed
    exact exists_memberUse _ known described
  | literal name =>
    rw [Link.isWellFormed] at wellFormed
    rw [Link.uses]
    split at wellFormed <;> rename_i array
    · obtain ⟨type, read⟩ := exists_of_isOk wellFormed
      rw [if_pos array]
      exact ⟨_, bind_eq_ok.2 ⟨type, read, rfl⟩⟩
    · obtain ⟨c, named⟩ := exists_of_isOk wellFormed
      rw [if_neg array]
      exact ⟨_, bind_eq_ok.2 ⟨c, named, rfl⟩⟩

theorem Operation.links_wellFormed {o : Operation} (wellFormed : o.isWellFormed) :
    ∀ l ∈ o.links, l.isWellFormed := by
  cases o with
  | plain opcode =>
    intro l none
    cases none
  | _ => exact List.all_eq_true.1 wellFormed

theorem PlacedOperation.WellFormed.exists_uses {p : PlacedOperation} (decoder : Decoder)
    (wellFormed : p.WellFormed) : ∃ us, p.uses decoder = .ok us := by
  obtain ⟨caught, named⟩ := exists_mapM_eq_ok fun name member =>
    exists_of_isOk (wellFormed.caught name member)
  have links := Operation.links_wellFormed wellFormed.operation
  obtain ⟨parts, linked⟩ := exists_mapM_eq_ok fun l member =>
    Link.exists_uses decoder p.line (SortedSet.ofList caught) (links l member)
  exact ⟨parts.flatten, bind_eq_ok.2 ⟨caught, named, bind_eq_ok.2 ⟨parts, linked, rfl⟩⟩⟩

namespace MethodSource

theorem WellFormed.placed {m : MethodSource} (wellFormed : m.WellFormed) :
    ∀ p ∈ m.placed, p.WellFormed := by
  obtain ⟨access, name, descriptor, body⟩ := m
  cases body with
  | none =>
    intro p none
    cases none
  | some ss => exact Statement.placedAll_wellFormed (wellFormed.body ss rfl) (by simp)

theorem WellFormed.exists_declaration {m : MethodSource} (decoder : Decoder) (owner : ClassName)
    (wellFormed : m.WellFormed) : ∃ r, m.declaration decoder owner = .ok r := by
  obtain ⟨descriptor, read⟩ := exists_of_isOk wellFormed.descriptor
  obtain ⟨parts, used⟩ := exists_mapM_eq_ok fun p member =>
    (wellFormed.placed p member).exists_uses decoder
  exact ⟨_, bind_eq_ok.2 ⟨descriptor, read, bind_eq_ok.2 ⟨parts, used, rfl⟩⟩⟩

end MethodSource

/-! ### What is decoded -/

section
variable {decoder : Decoder} {file : ClassFile} {pool : List PoolEntry}
  {bootstraps : List Image.Bootstrap} {s : ClassSource} {owner : ClassName}

theorem ClassMember.isStatic_eq (k : ClassMember) : k.isStatic = k.access.testBit 3 := by
  rw [isStatic, Nat.testBit_eq_decide_div_mod_eq]

theorem MethodSource.testBit_flags (m : MethodSource) : m.flags.testBit 3 = m.access.testBit 3 := by
  have abstract : ClassSource.abstractFlag.testBit 3 = false := by decide
  rw [flags]
  split
  · rfl
  · rw [Nat.testBit_or, abstract, Bool.or_false]

private theorem declareMethod_eq_ok {k : ClassMember} {m : MethodSource}
    {r : DeclaredMethod × List ClassName} (sound : Sound pool)
    (describes : file.Describes pool bootstraps s) (written : k.Describes pool bootstraps m)
    (wellFormed : m.WellFormed) (declared : m.declaration decoder owner = .ok r) :
    decoder.declareMethod file owner k = .ok r := by
  obtain ⟨descriptor, read, rest⟩ := bind_eq_ok.1 declared
  obtain ⟨parts, used, last⟩ := bind_eq_ok.1 rest
  cases last
  have isStatic : k.isStatic = m.access.testBit 3 := by
    rw [k.isStatic_eq, written.access, m.testBit_flags]
  rw [← written.name, ← written.descriptor] at read
  rw [← isStatic]
  have valid : ∀ p ∈ m.placed, ∀ opcode, p.operation = .plain opcode →
      Opcode.fixedWidth? opcode = some 0 := by
    intro p member opcode plain
    have operation := (wellFormed.placed p member).operation
    rw [plain, Operation.isWellFormed] at operation
    exact eq_of_beq operation
  obtain ⟨access, name, text, code⟩ := k
  obtain ⟨maccess, mname, mtext, body⟩ := m
  refine bind_eq_ok.2 ⟨descriptor, ofSymbol_eq_ok.2 read, ?_⟩
  cases written.code with
  | none =>
    cases used
    rfl
  | some here =>
    have uses := codeUses_eq_ok sound describes.constants describes.tables describes.few here valid
      used
    exact bind_eq_ok.2 ⟨parts.flatten, uses, rfl⟩

/-- Methods with descriptors that are not there yet are declared one after the other. -/
private theorem declareMethods_eq_ok {ks : List ClassMember} {ms : List MethodSource}
    {rs : List (DeclaredMethod × List ClassName)}
    (methods : SortedMap MethodDescriptor DeclaredMethod) (loaded : SortedSet ClassName)
    (sound : Sound pool) (describes : file.Describes pool bootstraps s)
    (written : List.Forall₂ (fun k m => k.Describes pool bootstraps m) ks ms)
    (wellFormed : ∀ m ∈ ms, m.WellFormed)
    (declared : List.Forall₂ (fun m r => m.declaration decoder owner = .ok r) ms rs)
    (distinct : (rs.map (·.1.reference.descriptor)).Nodup)
    (fresh : ∀ r ∈ rs, methods.get? r.1.reference.descriptor = none) :
    decoder.declareMethods file owner methods loaded ks =
      .ok (rs.foldl (fun map r => map.insert r.1.reference.descriptor r.1) methods,
        (rs.flatMap Prod.snd).foldl (fun set name => set.insert name) loaded) := by
  induction written generalizing rs methods loaded with
  | nil =>
    cases declared
    rfl
  | cons here _ ih =>
    cases declared with
    | @cons m r ms rs first others =>
      obtain ⟨apart, distinct⟩ := List.nodup_cons.1 distinct
      have method := declareMethod_eq_ok sound describes here (wellFormed _ List.mem_cons_self) first
      have new : ¬ methods.contains r.1.reference.descriptor = true := by
        rw [SortedMap.contains, fresh r List.mem_cons_self]
        simp
      rw [Decoder.declareMethods]
      refine bind_eq_ok.2 ⟨r, method, ?_⟩
      dsimp only
      rw [if_neg new, List.foldl_cons, List.flatMap_cons, List.foldl_append]
      -- the descriptor that was just entered is none of those to come
      refine ih _ _ (fun m member => wellFormed m (List.mem_cons_of_mem _ member)) others distinct ?_
      intro later member
      have unlike : compare r.1.reference.descriptor later.1.reference.descriptor ≠ .eq := by
        intro same
        have equal := Std.LawfulEqOrd.eq_of_compare same
        exact apart (List.mem_map.2 ⟨later, member, equal.symm⟩)
      rw [SortedMap.get?_insert, if_neg unlike]
      exact fresh later (List.mem_cons_of_mem _ member)

/-- Fields are declared one after the other. -/
private theorem declareFields_eq_ok {fs : List FieldSource} {rs : List FieldReference}
    (fields : SortedMap FieldDescriptor FieldReference)
    (declared : List.Forall₂ (fun f r => f.reference owner = .ok r) fs rs) :
    Decoder.declareFields owner fields (fs.map FieldSource.member) =
      .ok (rs.foldl (fun map r => map.insert r.descriptor r) fields) := by
  induction declared generalizing fields with
  | nil => rfl
  | @cons f r fs rs here _ ih =>
    obtain ⟨descriptor, read, last⟩ := bind_eq_ok.1 here
    cases last
    have isStatic : f.member.isStatic = f.access.testBit 3 := f.member.isStatic_eq
    rw [List.map_cons, Decoder.declareFields, List.foldl_cons]
    refine bind_eq_ok.2 ⟨descriptor, ofSymbol_eq_ok.2 read, ?_⟩
    rw [isStatic]
    exact ih _

/-- A class file that describes a well-formed description declares what the description does. -/
private theorem declare_eq_ok {d : DeclaredClass} (sound : Sound pool)
    (describes : file.Describes pool bootstraps s) (wellFormed : s.WellFormed)
    (declared : s.declaration decoder = .ok d) : decoder.declare file = .ok d := by
  obtain ⟨name, named, rest⟩ := bind_eq_ok.1 declared
  obtain ⟨parents, inherited, rest⟩ := bind_eq_ok.1 rest
  obtain ⟨fields, fielded, rest⟩ := bind_eq_ok.1 rest
  obtain ⟨methods, declaredMethods, last⟩ := bind_eq_ok.1 rest
  cases last
  have parentsRun : (file.superClass.toList ++ file.interfaces).mapM
      (fun parent => ClassFileError.ofSymbol (ClassName.ofName parent)) = .ok parents := by
    rw [describes.parents, mapM_eq_ok]
    exact (mapM_eq_ok.1 inherited).imp fun _ _ => ofSymbol_eq_ok.2
  have fieldsRun := declareFields_eq_ok .empty (mapM_eq_ok.1 fielded)
  have methodsRun := declareMethods_eq_ok .empty .empty sound describes
    describes.methods wellFormed.methods (mapM_eq_ok.1 declaredMethods)
    (ClassSource.distinct_declarations wellFormed.distinct declaredMethods) (by simp)
  rw [Decoder.declare, describes.thisClass, describes.fields]
  refine bind_eq_ok.2 ⟨name, ofSymbol_eq_ok.2 named, bind_eq_ok.2 ⟨parents, parentsRun, ?_⟩⟩
  exact bind_eq_ok.2 ⟨_, fieldsRun, bind_eq_ok.2 ⟨_, methodsRun, rfl⟩⟩

end

theorem ClassSource.WellFormed.exists_declaration {s : ClassSource} (decoder : Decoder)
    (wellFormed : s.WellFormed) : ∃ d, s.declaration decoder = .ok d := by
  obtain ⟨name, named⟩ := exists_of_isOk wellFormed.name
  obtain ⟨parents, inherited⟩ := exists_mapM_eq_ok fun parent member =>
    exists_of_isOk (wellFormed.parents parent member)
  obtain ⟨fields, fielded⟩ := exists_mapM_eq_ok (f := FieldSource.reference name) fun f member => by
    obtain ⟨descriptor, read⟩ := exists_of_isOk (wellFormed.fields f member)
    exact ⟨_, bind_eq_ok.2 ⟨descriptor, read, rfl⟩⟩
  obtain ⟨methods, declared⟩ := exists_mapM_eq_ok fun m member =>
    (wellFormed.methods m member).exists_declaration decoder name
  exact ⟨_, bind_eq_ok.2 ⟨name, named, bind_eq_ok.2 ⟨parents, inherited,
    bind_eq_ok.2 ⟨fields, fielded, bind_eq_ok.2 ⟨methods, declared, rfl⟩⟩⟩⟩⟩

/-- Decoding undoes building. From the class file of a well-formed description that fits in the
format, whatever owners are left out, the declaration of the description is decoded. -/
theorem ClassSource.decode_bytes (decoder : Decoder) {s : ClassSource} (wellFormed : s.WellFormed)
    (fits : s.Fits) :
    ∃ d, decoder.decode s.bytes = .ok d ∧ s.declaration decoder = .ok d ∧ s.Declares decoder d := by
  obtain ⟨d, declared⟩ := wellFormed.exists_declaration decoder
  obtain ⟨sound, file, bootstraps, denotes, describes⟩ := exists_describes fits
  have decoded : decoder.decode s.bytes = .ok d :=
    bind_eq_ok.2 ⟨file, denotes.ofBytes, declare_eq_ok sound describes wellFormed declared⟩
  exact ⟨d, decoded, declared, declares_of_declaration wellFormed.distinct declared⟩

namespace Sample

/-- Calls, accesses and literals, some of them where exceptions are caught. -/
def statements : List Statement :=
  [.line 3,
    .guarded (some "p/E") [.operation (.invoke .static ⟨"p/B", "g", "(I)V"⟩), .line 4,
      .guarded none [.operation (.access .getField ⟨"p/B", "x", "J"⟩)]],
    .operation (.loadClass "[Lp/C;"),
    .operation (.loadString [0x61, 0xD800]),
    .operation (.invoke .virtual ⟨"java/lang/invoke/MethodHandle", "invoke", "()V"⟩),
    .operation (.plain 0xB1)]

/-- A class with a field given twice, a method and an abstract method. -/
def source : ClassSource :=
  { access := ClassSource.classAccess
    name := "p/A"
    superClass := some "java/lang/Object"
    interfaces := ["p/I"]
    fields := [⟨0, "f", "I"⟩, ⟨8, "f", "I"⟩]
    methods := [⟨1, "todo", "()V", none⟩, ⟨9, "run", "()V", some statements⟩] }

theorem source_wellFormed : source.WellFormed where
  name := by decide +kernel
  parents := by decide +kernel
  fields := by decide +kernel
  methods := by
    rintro m (_ | ⟨_, _ | ⟨_, none⟩⟩)
    · refine ⟨by decide +kernel, ?_⟩
      rintro ss ⟨⟩
    · refine ⟨by decide +kernel, ?_⟩
      rintro ss ⟨⟩
      decide +kernel
    · cases none
  distinct := by decide +kernel

private theorem source_constants : source.image.constants.length ≤ 65534 ∧
    ∀ e ∈ source.image.constants, e.bytes.length < 2 ^ 16 := by
  decide +kernel

theorem source_fits : source.Fits where
  access := by decide
  interfaces := by decide
  fields := by decide
  methods := by
    refine ⟨by decide, ?_⟩
    rintro m (_ | ⟨_, _ | ⟨_, none⟩⟩)
    · refine ⟨by decide, ?_⟩
      rintro ss ⟨⟩
    · refine ⟨by decide, ?_⟩
      rintro ss ⟨⟩
      exact ⟨by decide +kernel, by decide +kernel, by decide +kernel⟩
    · cases none
  bindings := by decide +kernel
  bootstraps := by decide +kernel
  constants := source_constants.1
  texts := by
    intro text member
    have length := source_constants.2 _ member
    simp only [PoolEntry.bytes, List.length_cons, List.length_append, Bytes.length_ofNat2] at length
    omega

/-- A class whose code calls a method of an unverifiable owner, too. -/
theorem decode_bytes_source : source.WellFormed ∧ source.Fits ∧
    ∃ d, Decoder.standard.decode source.bytes = .ok d ∧ source.declaration .standard = .ok d ∧
      source.Declares .standard d :=
  ⟨source_wellFormed, source_fits, ClassSource.decode_bytes .standard source_wellFormed source_fits⟩

end Sample
end Linkage
