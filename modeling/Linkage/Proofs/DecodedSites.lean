import Mathlib.Tactic.IntervalCases
import Linkage.Proofs.RoundTrip

/-!
What a decoded class refers to. The bytes at the offset of an instruction say what it is
(`Instruction.StandsAt`). Every instruction that names a member, every method handle that an
`invokedynamic` instruction binds and every class literal is a link of the class file
(`Instruction.Links`). The sites of a declaration are those of the links whose owners are kept, and
the line and the exceptions of a site are those that the tables of the code tell for the offset of
its instruction (`Code.SiteOf`).
-/
namespace Linkage

/-! ### Instructions in the bytecode -/

/-- What the bytes of code say at an offset. The opcode tells the kind of an instruction, and the
bytes behind it are the index of the constant that it names. -/
inductive Instruction.StandsAt (code : Bytes) (pc : Nat) : Instruction → Prop
  | invoke {opcode high low : UInt8} {rest : Bytes} : code.drop pc = opcode :: high :: low :: rest →
      0xb6 ≤ opcode.toNat → opcode.toNat ≤ 0xb9 →
      StandsAt code pc (.invoke opcode (high.toNat * 256 + low.toNat))
  | access {opcode high low : UInt8} {rest : Bytes} : code.drop pc = opcode :: high :: low :: rest →
      0xb2 ≤ opcode.toNat → opcode.toNat ≤ 0xb5 →
      StandsAt code pc (.access opcode (high.toNat * 256 + low.toNat))
  | invokeDynamic {high low : UInt8} {rest : Bytes} : code.drop pc = 0xba :: high :: low :: rest →
      StandsAt code pc (.invokeDynamic (high.toNat * 256 + low.toNat))
  | loadConstant {index : UInt8} {rest : Bytes} : code.drop pc = 0x12 :: index :: rest →
      StandsAt code pc (.loadConstant index.toNat)
  | loadConstantWide {opcode high low : UInt8} {rest : Bytes} :
      code.drop pc = opcode :: high :: low :: rest → opcode = 0x13 ∨ opcode = 0x14 →
      StandsAt code pc (.loadConstant (high.toNat * 256 + low.toNat))
  | other {opcode : UInt8} {rest : Bytes} : code.drop pc = opcode :: rest →
      ¬ (0x12 ≤ opcode.toNat ∧ opcode.toNat ≤ 0x14) →
      ¬ (0xb2 ≤ opcode.toNat ∧ opcode.toNat ≤ 0xba) → StandsAt code pc .other

private theorem eq_cons_of_u1 {bytes rest : Bytes} {n : Nat}
    (run : Reader.u1 bytes = .ok (n, rest)) : ∃ b, bytes = b :: rest ∧ n = b.toNat := by
  cases bytes with
  | nil => cases run
  | cons b bytes =>
    cases (Reader.Reads.u1 b bytes).symm.trans run
    exact ⟨b, rfl, rfl⟩

private theorem eq_cons_of_u2 {bytes rest : Bytes} {n : Nat}
    (run : Reader.u2 bytes = .ok (n, rest)) :
    ∃ high low, bytes = high :: low :: rest ∧ n = high.toNat * 256 + low.toNat := by
  cases bytes with
  | nil => cases run
  | cons high bytes =>
    cases bytes with
    | nil => cases run
    | cons low bytes =>
      cases (Reader.Reads.u2_pair high low bytes).symm.trans run
      exact ⟨high, low, rfl, rfl⟩

private theorem isInvoke_iff {opcode : UInt8} :
    Opcode.isInvoke opcode = true ↔ 0xb6 ≤ opcode.toNat ∧ opcode.toNat ≤ 0xb9 := by
  simp only [Opcode.isInvoke, Opcode.invokeVirtual, Opcode.invokeSpecial, Opcode.invokeStatic,
    Opcode.invokeInterface, Bool.or_eq_true, beq_iff_eq, ← UInt8.toNat_inj, UInt8.reduceToNat]
  omega

private theorem isAccess_iff {opcode : UInt8} :
    Opcode.isAccess opcode = true ↔ 0xb2 ≤ opcode.toNat ∧ opcode.toNat ≤ 0xb5 := by
  simp only [Opcode.isAccess, Opcode.getStatic, Opcode.putStatic, Opcode.getField, Opcode.putField,
    Bool.or_eq_true, beq_iff_eq, ← UInt8.toNat_inj, UInt8.reduceToNat]
  omega

private theorem index_of_u2 {make : Nat → Instruction} {operands left : Bytes} {i : Instruction}
    (run : (Reader.u2 >>= fun n => pure (make n) : Reader Instruction) operands = .ok (i, left)) :
    ∃ high low, operands = high :: low :: left ∧ i = make (high.toNat * 256 + low.toNat) := by
  obtain ⟨⟨n, rest⟩, read, last⟩ := bind_eq_ok.1 run
  cases last
  obtain ⟨high, low, rfl, rfl⟩ := eq_cons_of_u2 read
  exact ⟨high, low, rfl, rfl⟩

private theorem standsAt_of_ofOpcode {code operands left : Bytes} {pc : Nat} {opcode : UInt8}
    {i : Instruction} (here : code.drop pc = opcode :: operands)
    (run : Instruction.ofOpcode opcode operands = .ok (i, left)) : i.StandsAt code pc := by
  unfold Instruction.ofOpcode at run
  split at run
  · rename_i invokes
    obtain ⟨high, low, rfl, rfl⟩ := index_of_u2 run
    obtain ⟨least, greatest⟩ := isInvoke_iff.1 invokes
    exact .invoke here least greatest
  rename_i noInvoke
  split at run
  · rename_i accesses
    obtain ⟨high, low, rfl, rfl⟩ := index_of_u2 run
    obtain ⟨least, greatest⟩ := isAccess_iff.1 accesses
    exact .access here least greatest
  rename_i noAccess
  split at run
  · rename_i isDynamic
    subst isDynamic
    obtain ⟨high, low, rfl, rfl⟩ := index_of_u2 run
    exact .invokeDynamic here
  rename_i noDynamic
  split at run
  · rename_i isLoad
    subst isLoad
    obtain ⟨⟨n, rest⟩, read, last⟩ := bind_eq_ok.1 run
    cases last
    obtain ⟨index, rfl, rfl⟩ := eq_cons_of_u1 read
    exact .loadConstant here
  rename_i noLoad
  split at run
  · rename_i isWide
    obtain ⟨high, low, rfl, rfl⟩ := index_of_u2 run
    exact .loadConstantWide here isWide
  · rename_i noWide
    cases run
    rw [isInvoke_iff] at noInvoke
    rw [isAccess_iff] at noAccess
    simp only [Opcode.invokeDynamic, Opcode.ldc, Opcode.ldcWide, Opcode.ldcDouble, ← UInt8.toNat_inj,
      UInt8.reduceToNat] at noDynamic noLoad noWide
    exact .other here (by omega) (by omega)

/-- The instructions of code are what its bytes say at their offsets. -/
theorem Instruction.standsAt_streamFrom {whole code : Bytes} {pc : Nat}
    (here : whole.drop pc = code) :
    ∀ item ∈ (streamFrom pc code).items, item.2.StandsAt whole item.1 := by
  fun_induction streamFrom pc code with
  | case1 => simp
  | case2 => simp
  | case3 pc opcode operands instruction n read rest ih =>
    have behind : whole.drop (pc + 1 + n) = operands.drop n := by
      rw [Nat.add_assoc, ← List.drop_drop, here, Nat.add_comm, List.drop_succ_cons]
    intro item member
    rcases List.mem_cons.1 member with rfl | later
    · obtain ⟨⟨i, left⟩, first, last⟩ := bind_eq_ok.1 read
      obtain ⟨⟨width, left'⟩, -, last⟩ := bind_eq_ok.1 last
      dsimp only at last
      split at last
      · cases last
      · cases last
        exact standsAt_of_ofOpcode here first
    · exact ih behind item later

/-! ### Links of a class file -/

/-- The links that an instruction of a class file makes. A call by opcode 0xb8 is static, and so are
the accesses by 0xb2 and 0xb3. -/
inductive Instruction.Links (file : ClassFile) : Instruction → Link → Prop
  | invoke {opcode : UInt8} {index : Nat} {m : MemberSymbol} : file.pool.member index = .ok m →
      Links file (.invoke opcode index) (.call (opcode == 0xb8) m)
  | access {opcode : UInt8} {index : Nat} {m : MemberSymbol} : file.pool.member index = .ok m →
      Links file (.access opcode index) (.access (opcode == 0xb2 || opcode == 0xb3) m)
  | handle {index bootstrap nameAndType argument reference : Nat} {arguments : List Nat}
      {h : Handle} : file.pool.get index = .ok (.invokeDynamic bootstrap nameAndType) →
      file.bootstraps[bootstrap]? = some arguments → argument ∈ arguments →
      file.pool.get argument = .ok (.methodHandle h.kind.number reference) →
      file.pool.member reference = .ok h.target → Links file (.invokeDynamic index) h.link
  | literal {index text : Nat} {name : String} : file.pool.get index = .ok (.classInfo text) →
      file.pool.text text = .ok name → Links file (.loadConstant index) (.literal name)

/-- Whatever an instruction names is there: a member, a bootstrap method, the members of the method
handles among its arguments, a constant. -/
def Instruction.Resolves (file : ClassFile) : Instruction → Prop
  | .invoke _ index => ∃ m, file.pool.member index = .ok m
  | .access _ index => ∃ m, file.pool.member index = .ok m
  | .invokeDynamic index => ∃ bootstrap nameAndType arguments,
      file.pool.get index = .ok (.invokeDynamic bootstrap nameAndType) ∧
      file.bootstraps[bootstrap]? = some arguments ∧
      ∀ argument ∈ arguments, ∃ c, file.pool.get argument = .ok c ∧
        ∀ kind reference, c = .methodHandle kind reference →
          ∃ h : Handle, h.kind.number = kind ∧ file.pool.member reference = .ok h.target
  | .loadConstant index => ∃ c, file.pool.get index = .ok c ∧
      ∀ text, c = .classInfo text → ∃ name, file.pool.text text = .ok name
  | .other => True

/-- The site of a link to a member at an offset. Its exceptions are the types of the handlers whose
ranges cover the offset. -/
structure Code.SiteOf {δ : Type} (code : Code) (pc : Nat)
    (read : String → String → Except SymbolError δ) (isStatic : Bool) (m : MemberSymbol)
    (site : CallSite (Reference δ)) : Prop where
  owner : ClassName.ofName m.owner = .ok site.reference.owner
  descriptor : read m.descriptor m.name = .ok site.reference.descriptor
  isStatic : site.reference.isStatic = isStatic
  line : LineAt code.lines pc site.line
  named : ∀ h ∈ code.handlers, h.start ≤ pc → pc < h.stop → ∀ name, h.catchType = some name →
    ∃ c ∈ site.caught, ClassName.ofName name = .ok c
  caught : ∀ c ∈ site.caught, ∃ h ∈ code.handlers, h.start ≤ pc ∧ pc < h.stop ∧
    ∃ name, h.catchType = some name ∧ ClassName.ofName name = .ok c

/-- Sites are those of the links of one kind that code makes: one for each link to a member whose
owner is kept, and no others. -/
structure Code.Makes {δ : Type} (decoder : Decoder) (file : ClassFile) (code : Code)
    (link : Bool → MemberSymbol → Link) (read : String → String → Except SymbolError δ)
    (sites : List (CallSite (Reference δ))) : Prop where
  each : ∀ item ∈ (Instruction.stream code.bytecode).items, ∀ isStatic m,
    item.2.Links file (link isStatic m) → ¬ decoder.Drops m.owner →
      ∃! site, site ∈ sites ∧ code.SiteOf item.1 read isStatic m site
  only : ∀ site ∈ sites, ∃ item ∈ (Instruction.stream code.bytecode).items, ∃ isStatic m,
    item.2.Links file (link isStatic m) ∧ ¬ decoder.Drops m.owner ∧
      code.SiteOf item.1 read isStatic m site

/-- A method is declared with the sites of its code, all of whose instructions can be read and are
what the bytes say. -/
structure ClassMember.Extracts (decoder : Decoder) (file : ClassFile) (owner : ClassName)
    (m : ClassMember) (method : DeclaredMethod) : Prop where
  owner : method.reference.owner = owner
  descriptor : MethodDescriptor.ofRaw m.descriptor m.name = .ok method.reference.descriptor
  isStatic : method.reference.isStatic = m.isStatic
  absent : m.code = none → method.calls.toList = [] ∧ method.accesses.toList = []
  whole : ∀ code, m.code = some code → (Instruction.stream code.bytecode).fault = none ∧
    ∀ item ∈ (Instruction.stream code.bytecode).items, item.2.Resolves file
  stands : ∀ code, m.code = some code → ∀ item ∈ (Instruction.stream code.bytecode).items,
    item.2.StandsAt code.bytecode item.1
  calls : ∀ code, m.code = some code →
    code.Makes decoder file .call MethodDescriptor.ofRaw method.calls.toList
  accesses : ∀ code, m.code = some code →
    code.Makes decoder file .access FieldDescriptor.ofRaw method.accesses.toList

/-- A class is declared with the references of its bytecode: each method of the class file with the
sites of its code, and the classes that the literals of all of them load. -/
structure Decoder.Extracts (decoder : Decoder) (file : ClassFile) (d : DeclaredClass) : Prop where
  methods : ∀ m ∈ file.methods, ∃ method, m.Extracts decoder file d.name method ∧
    d.method? method.reference.descriptor = some method
  only : ∀ k method, d.method? k = some method → method.reference.descriptor = k ∧
    ∃ m ∈ file.methods, m.Extracts decoder file d.name method
  loaded : ∀ c, c ∈ d.loaded ↔ ∃ m ∈ file.methods, ∃ code, m.code = some code ∧
    ∃ item ∈ (Instruction.stream code.bytecode).items, ∃ name,
      item.2.Links file (.literal name) ∧ Loads name c

theorem Code.SiteOf.unique {δ : Type} {code : Code} {pc : Nat} {isStatic : Bool} {m : MemberSymbol}
    {read : String → String → Except SymbolError δ} {site other : CallSite (Reference δ)}
    (first : code.SiteOf pc read isStatic m site) (second : code.SiteOf pc read isStatic m other) :
    site = other := by
  have included : ∀ {s t : CallSite (Reference δ)}, code.SiteOf pc read isStatic m s →
      code.SiteOf pc read isStatic m t → ∀ c ∈ s.caught, c ∈ t.caught := by
    intro s t this that c member
    obtain ⟨h, isHandler, start, stop, name, type, named⟩ := this.caught c member
    obtain ⟨e, inside, same⟩ := that.named h isHandler start stop name type
    rw [named] at same
    cases same
    exact inside
  have owner := first.owner.symm.trans second.owner
  have descriptor := first.descriptor.symm.trans second.descriptor
  have isStatic := first.isStatic.trans second.isStatic.symm
  have line := first.line.unique second.line
  have caught : site.caught = other.caught :=
    SortedSet.ext fun c => ⟨included first second c, included second first c⟩
  obtain ⟨⟨_, _, _⟩, _, _⟩ := site
  obtain ⟨⟨_, _, _⟩, _, _⟩ := other
  cases owner
  cases descriptor
  simp_all

/-! ### Instructions -/

/-- What the decoder makes of a link at an offset. -/
def Link.usesAt (decoder : Decoder) (code : Code) (pc : Nat) :
    Link → Except ClassFileError (List Use)
  | .call isStatic m => decoder.callUse code pc (code.lineAt pc) isStatic m
  | .access isStatic m => decoder.accessUse code pc (code.lineAt pc) isStatic m
  | .literal name => Decoder.literalUse name

section
variable {decoder : Decoder} {file : ClassFile} {code : Code} {pc : Nat} {us : List Use}

theorem Code.of_caughtAt {caught : SortedSet ClassName} (run : code.caughtAt pc = .ok caught) :
    (∀ h ∈ code.handlers, h.start ≤ pc → pc < h.stop → ∀ name, h.catchType = some name →
      ∃ c ∈ caught, ClassName.ofName name = .ok c) ∧
    ∀ c ∈ caught, ∃ h ∈ code.handlers, h.start ≤ pc ∧ pc < h.stop ∧
      ∃ name, h.catchType = some name ∧ ClassName.ofName name = .ok c := by
  obtain ⟨names, named, last⟩ := bind_eq_ok.1 run
  cases last
  constructor
  · intro h member start stop name type
    have covers : h.covers pc = true := by simp [ExceptionHandler.covers, start, stop]
    have inside : name ∈ (code.handlers.filter (·.covers pc)).filterMap (·.catchType) :=
      List.mem_filterMap.2 ⟨h, List.mem_filter.2 ⟨member, covers⟩, type⟩
    obtain ⟨c, here⟩ := exists_of_mapM_eq_ok named inside
    refine ⟨c, ?_, ofSymbol_eq_ok.1 here⟩
    rw [SortedSet.mem_ofList, mem_iff_of_mapM_eq_ok named]
    exact ⟨name, inside, here⟩
  · intro c member
    rw [SortedSet.mem_ofList, mem_iff_of_mapM_eq_ok named] at member
    obtain ⟨name, inside, here⟩ := member
    obtain ⟨h, covering, type⟩ := List.mem_filterMap.1 inside
    obtain ⟨member, covers⟩ := List.mem_filter.1 covering
    simp only [ExceptionHandler.covers, Bool.and_eq_true, decide_eq_true_eq] at covers
    exact ⟨h, member, covers.1, covers.2, name, type, ofSymbol_eq_ok.1 here⟩

private theorem memberUse_of_eq_ok {δ : Type} {m : MemberSymbol} {descriptor : Except SymbolError δ}
    (use : ClassName → δ → SortedSet ClassName → Use)
    (run : (if !decoder.keeps m.owner then pure [] else do
      let owner ← ClassFileError.ofSymbol (ClassName.ofName m.owner)
      let descriptor ← ClassFileError.ofSymbol descriptor
      let caught ← code.caughtAt pc
      return [use owner descriptor caught] : Except ClassFileError (List Use)) = .ok us) :
    ∃ caught, (if decoder.Drops m.owner then pure [] else do
      let owner ← ClassName.ofName m.owner
      let descriptor ← descriptor
      return [use owner descriptor caught] : Except SymbolError (List Use)) = .ok us ∧
        (us ≠ [] → code.caughtAt pc = .ok caught) := by
  by_cases drops : decoder.Drops m.owner
  · have dropped : (!decoder.keeps m.owner) = true := by
      rw [Bool.not_eq_true', Bool.eq_false_iff]
      exact fun kept => Decoder.keeps_eq_true_iff.1 kept drops
    rw [if_pos dropped] at run
    cases run
    exact ⟨.empty, if_pos drops, fun none => absurd rfl none⟩
  · have kept : ¬ (!decoder.keeps m.owner) = true := by
      simp [Decoder.keeps_eq_true_iff.2 drops]
    rw [if_neg kept] at run
    obtain ⟨owner, named, run⟩ := bind_eq_ok.1 run
    obtain ⟨d, described, run⟩ := bind_eq_ok.1 run
    obtain ⟨caught, catches, last⟩ := bind_eq_ok.1 run
    cases last
    refine ⟨caught, ?_, fun _ => catches⟩
    rw [if_neg drops]
    exact bind_eq_ok.2 ⟨owner, ofSymbol_eq_ok.1 named,
      bind_eq_ok.2 ⟨d, ofSymbol_eq_ok.1 described, rfl⟩⟩

/-- What the decoder makes of a link is what the link contributes at the line of its offset, where
the exceptions of the offset are caught. These are looked up only for the site of a member. -/
theorem Link.uses_of_usesAt {l : Link} (run : l.usesAt decoder code pc = .ok us) :
    ∃ caught, l.uses decoder (code.lineAt pc) caught = .ok us ∧
      ∀ u ∈ us, (∀ c, u ≠ .load c) → code.caughtAt pc = .ok caught := by
  cases l with
  | call isStatic m =>
    obtain ⟨caught, here, catches⟩ := memberUse_of_eq_ok
      (fun owner d caught => .call ⟨⟨owner, d, isStatic⟩, code.lineAt pc, caught⟩) run
    exact ⟨caught, here, fun u member _ => catches (List.ne_nil_of_mem member)⟩
  | access isStatic m =>
    obtain ⟨caught, here, catches⟩ := memberUse_of_eq_ok
      (fun owner d caught => .access ⟨⟨owner, d, isStatic⟩, code.lineAt pc, caught⟩) run
    exact ⟨caught, here, fun u member _ => catches (List.ne_nil_of_mem member)⟩
  | literal name =>
    have here : (Link.literal name).uses decoder (code.lineAt pc) .empty = .ok us := by
      rw [usesAt, Decoder.literalUse] at run
      rw [Link.uses]
      split at run <;> rename_i array
      · obtain ⟨type, read, last⟩ := bind_eq_ok.1 run
        cases last
        rw [if_pos array]
        exact bind_eq_ok.2 ⟨type, ofSymbol_eq_ok.1 read, rfl⟩
      · obtain ⟨c, named, last⟩ := bind_eq_ok.1 run
        cases last
        rw [if_neg array]
        exact bind_eq_ok.2 ⟨c, ofSymbol_eq_ok.1 named, rfl⟩
    refine ⟨.empty, here, fun u member notLoad => ?_⟩
    obtain ⟨c, same⟩ := load_of_literal here member
    exact absurd same (notLoad c)

/-- An instruction contributes what the decoder makes of its links. -/
structure Instruction.Contributes (decoder : Decoder) (file : ClassFile) (code : Code) (pc : Nat)
    (i : Instruction) (us : List Use) : Prop where
  resolves : i.Resolves file
  each : ∀ l, i.Links file l → ∃ part, l.usesAt decoder code pc = .ok part ∧ part ⊆ us
  only : ∀ u ∈ us, ∃ l part, i.Links file l ∧ l.usesAt decoder code pc = .ok part ∧ u ∈ part

private theorem handle_of_handleUse {kind : Nat} {m : MemberSymbol}
    (run : decoder.handleUse code pc (code.lineAt pc) kind m = .ok us) :
    ∃ h : Handle, h.kind.number = kind ∧ h.target = m ∧
      h.link.usesAt decoder code pc = .ok us := by
  have known : 1 ≤ kind ∧ kind ≤ 9 := by
    by_contra unknown
    rw [Decoder.handleUse, if_neg (by omega), if_neg (by omega)] at run
    cases run
  obtain ⟨low, high⟩ := known
  interval_cases kind
  · exact ⟨⟨.getField, m⟩, rfl, rfl, run⟩
  · exact ⟨⟨.getStatic, m⟩, rfl, rfl, run⟩
  · exact ⟨⟨.putField, m⟩, rfl, rfl, run⟩
  · exact ⟨⟨.putStatic, m⟩, rfl, rfl, run⟩
  · exact ⟨⟨.invokeVirtual, m⟩, rfl, rfl, run⟩
  · exact ⟨⟨.invokeStatic, m⟩, rfl, rfl, run⟩
  · exact ⟨⟨.invokeSpecial, m⟩, rfl, rfl, run⟩
  · exact ⟨⟨.newInvokeSpecial, m⟩, rfl, rfl, run⟩
  · exact ⟨⟨.invokeInterface, m⟩, rfl, rfl, run⟩

private theorem number_injective : Function.Injective HandleKind.number := by
  intro a b same
  cases a <;> cases b <;> first | rfl | cases same

/-- An argument of a bootstrap method contributes nothing, or it is a method handle and contributes
what its link does. -/
private theorem cases_of_argumentUse {argument : Nat}
    (run : decoder.argumentUse file.pool code pc (code.lineAt pc) argument = .ok us) :
    ∃ c, file.pool.get argument = .ok c ∧
      ((∀ kind reference, c ≠ .methodHandle kind reference) ∧ us = [] ∨
        ∃ (h : Handle) (reference : Nat), c = .methodHandle h.kind.number reference ∧
          file.pool.member reference = .ok h.target ∧
          h.link.usesAt decoder code pc = .ok us) := by
  obtain ⟨c, found, rest⟩ := bind_eq_ok.1 run
  refine ⟨c, found, ?_⟩
  split at rest
  · rename_i kind reference
    obtain ⟨m, member, here⟩ := bind_eq_ok.1 rest
    obtain ⟨h, rfl, rfl, linked⟩ := handle_of_handleUse here
    exact .inr ⟨h, reference, rfl, member, linked⟩
  · rename_i other
    cases rest
    exact .inl ⟨fun kind reference same => other kind reference same, rfl⟩

private theorem contributes_invokeDynamic {index : Nat}
    (run : decoder.uses file code pc (code.lineAt pc) (.invokeDynamic index) = .ok us) :
    Instruction.Contributes decoder file code pc (.invokeDynamic index) us := by
  obtain ⟨c, found, rest⟩ := bind_eq_ok.1 run
  split at rest
  · rename_i bootstrap nameAndType
    split at rest
    · rename_i arguments bound
      obtain ⟨parts, used, last⟩ := bind_eq_ok.1 rest
      cases last
      refine ⟨⟨bootstrap, nameAndType, arguments, found, bound, fun a member => ?_⟩,
        fun l linked => ?_, fun u member => ?_⟩
      · obtain ⟨part, here⟩ := exists_of_mapM_eq_ok used member
        obtain ⟨c, isConstant, other | ⟨h, reference, rfl, target, -⟩⟩ := cases_of_argumentUse here
        · exact ⟨c, isConstant, fun kind reference same => absurd same (other.1 kind reference)⟩
        · refine ⟨_, isConstant, fun kind r same => ?_⟩
          cases same
          exact ⟨h, rfl, target⟩
      · cases linked with
        | @handle _ _ _ argument _ _ h found' bound' isArgument isHandle target =>
          cases found.symm.trans found'
          cases bound.symm.trans bound'
          obtain ⟨part, here⟩ := exists_of_mapM_eq_ok used isArgument
          obtain ⟨c, isConstant, other | ⟨k, r, rfl, target', linked⟩⟩ := cases_of_argumentUse here
          · exact absurd (Except.ok.inj (isConstant.symm.trans isHandle)) (other.1 _ _)
          · obtain ⟨kind, same⟩ :=
              Constant.methodHandle.inj (Except.ok.inj (isConstant.symm.trans isHandle))
            subst same
            -- one number stands for one kind, so the handle that is linked is the one that was used
            have equal : h = k := by
              cases h
              cases k
              cases number_injective kind
              cases target.symm.trans target'
              rfl
            refine ⟨part, equal ▸ linked, fun u inside => ?_⟩
            exact (mem_flatten_of_mapM_eq_ok used).2 ⟨argument, isArgument, part, here, inside⟩
      · obtain ⟨argument, isArgument, part, here, inside⟩ :=
          (mem_flatten_of_mapM_eq_ok used).1 member
        obtain ⟨c, isConstant, ⟨-, rfl⟩ | ⟨h, r, rfl, target, linked⟩⟩ := cases_of_argumentUse here
        · cases inside
        · exact ⟨h.link, part, .handle found bound isArgument isConstant target, linked, inside⟩
    · cases rest
  · cases rest

private theorem contributes_loadConstant {index : Nat}
    (run : decoder.uses file code pc (code.lineAt pc) (.loadConstant index) = .ok us) :
    Instruction.Contributes decoder file code pc (.loadConstant index) us := by
  obtain ⟨c, found, rest⟩ := bind_eq_ok.1 run
  split at rest
  · rename_i text
    obtain ⟨name, isText, here⟩ := bind_eq_ok.1 rest
    refine ⟨⟨_, found, fun t same => ?_⟩, fun l linked => ?_, fun u member => ?_⟩
    · cases same
      exact ⟨name, isText⟩
    · cases linked with
      | literal found' isText' =>
        cases found.symm.trans found'
        cases isText.symm.trans isText'
        exact ⟨us, here, fun _ inside => inside⟩
    · exact ⟨_, us, .literal found isText, here, member⟩
  · rename_i other
    cases rest
    refine ⟨⟨c, found, fun t same => absurd same (other t)⟩, fun l linked => ?_, fun u member => ?_⟩
    · cases linked with
      | literal found' =>
        exact absurd (Except.ok.inj (found.symm.trans found')) (other _)
    · cases member

theorem Instruction.contributes {i : Instruction}
    (run : decoder.uses file code pc (code.lineAt pc) i = .ok us) :
    i.Contributes decoder file code pc us := by
  cases i with
  | invoke opcode index =>
    obtain ⟨m, found, here⟩ := bind_eq_ok.1 run
    refine ⟨⟨m, found⟩, fun l linked => ?_, fun u member => ⟨_, us, .invoke found, here, member⟩⟩
    cases linked with
    | invoke found' =>
      cases found.symm.trans found'
      exact ⟨us, here, fun _ inside => inside⟩
  | access opcode index =>
    obtain ⟨m, found, here⟩ := bind_eq_ok.1 run
    refine ⟨⟨m, found⟩, fun l linked => ?_, fun u member => ⟨_, us, .access found, here, member⟩⟩
    cases linked with
    | access found' =>
      cases found.symm.trans found'
      exact ⟨us, here, fun _ inside => inside⟩
  | invokeDynamic index => exact contributes_invokeDynamic run
  | loadConstant index => exact contributes_loadConstant run
  | other =>
    cases run
    exact ⟨trivial, nofun, nofun⟩

end

/-! ### Code -/

section
variable {decoder : Decoder} {file : ClassFile} {code : Code} {us : List Use}

private theorem of_codeUses (run : decoder.codeUses file code = .ok us) :
    (Instruction.stream code.bytecode).fault = none ∧
      (∀ item ∈ (Instruction.stream code.bytecode).items, ∃ part,
        item.2.Contributes decoder file code item.1 part ∧ part ⊆ us) ∧
      ∀ u ∈ us, ∃ item ∈ (Instruction.stream code.bytecode).items, ∃ part,
        item.2.Contributes decoder file code item.1 part ∧ u ∈ part := by
  rw [Decoder.codeUses_eq] at run
  obtain ⟨parts, used, rest⟩ := bind_eq_ok.1 run
  split at rest
  · cases rest
  · rename_i whole
    cases rest
    refine ⟨whole, fun item member => ?_, fun u member => ?_⟩
    · obtain ⟨part, here⟩ := exists_of_mapM_eq_ok used member
      refine ⟨part, Instruction.contributes here, fun u inside => ?_⟩
      exact (mem_flatten_of_mapM_eq_ok used).2 ⟨item, member, part, here, inside⟩
    · obtain ⟨item, placed, part, here, inside⟩ := (mem_flatten_of_mapM_eq_ok used).1 member
      exact ⟨item, placed, part, Instruction.contributes here, inside⟩

section
variable {δ : Type} {link : Bool → MemberSymbol → Link}
  {read : String → String → Except SymbolError δ} {use : CallSite (Reference δ) → Use}

theorem Link.Contribute.siteOf {pc : Nat} {isStatic : Bool} {m : MemberSymbol}
    {site : CallSite (Reference δ)} (contribute : Contribute link read use)
    (notLoad : ∀ site c, use site ≠ .load c)
    (run : (link isStatic m).usesAt decoder code pc = .ok us) (member : use site ∈ us) :
    ¬ decoder.Drops m.owner ∧ code.SiteOf pc read isStatic m site := by
  obtain ⟨caught, here, catches⟩ := uses_of_usesAt run
  obtain ⟨kept, owner, descriptor, static, line, set⟩ := (contribute.mem_uses here).1 member
  obtain ⟨named, told⟩ := Code.of_caughtAt (catches _ member (notLoad site))
  have lineTold := code.lineAt_told pc
  rw [← line] at lineTold
  rw [← set] at named told
  exact ⟨kept, owner, descriptor, static, lineTold, named, told⟩

theorem Link.Contribute.exists_mem {pc : Nat} {isStatic : Bool} {m : MemberSymbol}
    (contribute : Contribute link read use)
    (run : (link isStatic m).usesAt decoder code pc = .ok us) (kept : ¬ decoder.Drops m.owner) :
    ∃ site, use site ∈ us := by
  obtain ⟨caught, here, -⟩ := uses_of_usesAt run
  rw [contribute.uses, if_neg kept] at here
  obtain ⟨owner, -, rest⟩ := bind_eq_ok.1 here
  obtain ⟨d, -, last⟩ := bind_eq_ok.1 rest
  cases last
  exact ⟨_, List.mem_singleton.2 rfl⟩

/-- The sites among what code contributes are those of its links. -/
theorem Link.Contribute.makes {sites : List (CallSite (Reference δ))}
    (contribute : Contribute link read use) (notLoad : ∀ site c, use site ≠ .load c)
    (run : decoder.codeUses file code = .ok us) (told : ∀ site, site ∈ sites ↔ use site ∈ us) :
    code.Makes decoder file link read sites := by
  obtain ⟨-, each, only⟩ := of_codeUses run
  constructor
  · intro item placed isStatic m linked kept
    obtain ⟨part, contributes, inside⟩ := each item placed
    obtain ⟨uses, here, within⟩ := contributes.each _ linked
    obtain ⟨site, member⟩ := contribute.exists_mem here kept
    have siteOf := (contribute.siteOf notLoad here member).2
    exact ⟨site, ⟨(told site).2 (inside (within member)), siteOf⟩,
      fun other there => there.2.unique siteOf⟩
  · intro site member
    obtain ⟨item, placed, part, contributes, inside⟩ := only _ ((told site).1 member)
    obtain ⟨l, uses, linked, here, inUses⟩ := contributes.only _ inside
    obtain ⟨caught, direct, -⟩ := uses_of_usesAt here
    obtain ⟨isStatic, m, rfl⟩ := contribute.only direct inUses
    exact ⟨item, placed, isStatic, m, linked, contribute.siteOf notLoad here inUses⟩

end

/-- The classes that code loads are those that its literals load. -/
private theorem load_mem_codeUses {c : ClassName} (run : decoder.codeUses file code = .ok us) :
    .load c ∈ us ↔ ∃ item ∈ (Instruction.stream code.bytecode).items, ∃ name,
      item.2.Links file (.literal name) ∧ Loads name c := by
  obtain ⟨-, each, only⟩ := of_codeUses run
  constructor
  · intro member
    obtain ⟨item, placed, part, contributes, inside⟩ := only _ member
    obtain ⟨l, uses, linked, here, inUses⟩ := contributes.only _ inside
    obtain ⟨caught, direct, -⟩ := Link.uses_of_usesAt here
    obtain ⟨name, rfl, loads⟩ := (Link.mem_uses_load direct).1 inUses
    exact ⟨item, placed, name, linked, loads⟩
  · rintro ⟨item, placed, name, linked, loads⟩
    obtain ⟨part, contributes, inside⟩ := each item placed
    obtain ⟨uses, here, within⟩ := contributes.each _ linked
    obtain ⟨caught, direct, -⟩ := Link.uses_of_usesAt here
    exact inside (within ((Link.mem_uses_load direct).2 ⟨name, rfl, loads⟩))

/-! ### Methods and classes -/

private theorem mem_calls {reference : MethodReference} {site : CallSite MethodReference} :
    site ∈ (DeclaredMethod.ofUses reference us).calls.toList ↔ .call site ∈ us := by
  simp [DeclaredMethod.ofUses, Use.call?_eq_some]

private theorem mem_accesses {reference : MethodReference} {site : CallSite FieldReference} :
    site ∈ (DeclaredMethod.ofUses reference us).accesses.toList ↔ .access site ∈ us := by
  simp [DeclaredMethod.ofUses, Use.access?_eq_some]

private theorem extracts_of_declareMethod {owner : ClassName} {m : ClassMember}
    {r : DeclaredMethod × List ClassName} (run : decoder.declareMethod file owner m = .ok r) :
    m.Extracts decoder file owner r.1 ∧
      ∀ c, c ∈ r.2 ↔ ∃ code, m.code = some code ∧
        ∃ item ∈ (Instruction.stream code.bytecode).items, ∃ name,
          item.2.Links file (.literal name) ∧ Loads name c := by
  obtain ⟨descriptor, read, rest⟩ := bind_eq_ok.1 run
  have read := ofSymbol_eq_ok.1 read
  cases body : m.code with
  | none =>
    rw [body] at rest
    cases rest
    refine ⟨⟨rfl, read, rfl, fun _ => ⟨rfl, rfl⟩, ?_, ?_, ?_, ?_⟩, by simp⟩
    all_goals
      intro code some
      rw [body] at some
      cases some
  | some code =>
    rw [body] at rest
    obtain ⟨us, used, last⟩ := bind_eq_ok.1 rest
    cases last
    have here : ∀ other, m.code = some other → other = code := fun other same =>
      Option.some.inj (same.symm.trans body)
    refine ⟨⟨rfl, read, rfl, fun none => ?_, fun other same => ?_, fun other _ => ?_,
      fun other same => ?_, fun other same => ?_⟩, fun c => ?_⟩
    · rw [body] at none
      cases none
    · rw [here other same]
      obtain ⟨whole, each, -⟩ := of_codeUses used
      refine ⟨whole, fun item placed => ?_⟩
      obtain ⟨part, contributes, -⟩ := each item placed
      exact contributes.resolves
    · exact Instruction.standsAt_streamFrom List.drop_zero
    · rw [here other same]
      exact Link.contribute_call.makes nofun used fun site => mem_calls
    · rw [here other same]
      exact Link.contribute_access.makes nofun used fun site => mem_accesses
    · rw [List.mem_filterMap]
      simp only [Use.load?_eq_some, exists_eq_right, Option.some.injEq, exists_eq_left']
      exact load_mem_codeUses used

/-- Methods are declared one after the other, each under a descriptor that is new. -/
theorem of_declareMethods {owner : ClassName} {ms : List ClassMember}
    {methods after : SortedMap MethodDescriptor DeclaredMethod} {loaded last : SortedSet ClassName}
    (run : decoder.declareMethods file owner methods loaded ms = .ok (after, last)) :
    ∃ rs, List.Forall₂ (fun m r => decoder.declareMethod file owner m = .ok r) ms rs ∧
      (rs.map (·.1.reference.descriptor)).Nodup ∧
      (∀ r ∈ rs, methods.get? r.1.reference.descriptor = none) ∧
      after = rs.foldl (fun map r => map.insert r.1.reference.descriptor r.1) methods ∧
      ∀ c, c ∈ last ↔ c ∈ loaded ∨ ∃ r ∈ rs, c ∈ r.2 := by
  induction ms generalizing methods loaded with
  | nil =>
    cases run
    exact ⟨[], .nil, .nil, nofun, rfl, by simp⟩
  | cons m ms ih =>
    obtain ⟨r, first, rest⟩ := bind_eq_ok.1 run
    dsimp only at rest
    split at rest
    · cases rest
    · rename_i new
      obtain ⟨rs, others, distinct, fresh, rfl, loads⟩ := ih rest
      -- a descriptor that was new after `r` differs from that of `r`
      have fresh' : ∀ s ∈ rs, r.1.reference.descriptor ≠ s.1.reference.descriptor ∧
          methods.get? s.1.reference.descriptor = none := by
        intro s member
        have none := fresh s member
        rw [SortedMap.get?_insert] at none
        split at none
        · cases none
        · rename_i apart
          exact ⟨fun same => apart (Std.compare_eq_iff_eq.2 same), none⟩
      refine ⟨r :: rs, .cons first others, ?_, ?_, rfl, fun c => ?_⟩
      · rw [List.map_cons, List.nodup_cons]
        refine ⟨fun member => ?_, distinct⟩
        obtain ⟨s, inside, same⟩ := List.mem_map.1 member
        exact (fresh' s inside).1 same.symm
      · intro s member
        rcases List.mem_cons.1 member with rfl | later
        · simpa [SortedMap.contains] using new
        · exact (fresh' s later).2
      · rw [loads, SortedSet.mem_foldl_insert]
        simp only [List.mem_cons, exists_eq_or_imp]
        tauto

/-- The decoder extracts the references of the bytecode. Where a class file is decoded, the sites of
each method are those of the links of its code whose owners are kept, one for each, with the lines
and the exceptions of their offsets, and the loaded classes are those of its literals. -/
theorem Decoder.decode_extracts {bytes : Bytes} {d : DeclaredClass}
    (run : decoder.decode bytes = .ok d) :
    ∃ file, ClassFile.ofBytes bytes = .ok file ∧ decoder.Extracts file d := by
  obtain ⟨file, parsed, rest⟩ := bind_eq_ok.1 run
  refine ⟨file, parsed, ?_⟩
  obtain ⟨name, -, rest⟩ := bind_eq_ok.1 rest
  obtain ⟨parents, -, rest⟩ := bind_eq_ok.1 rest
  obtain ⟨fields, -, rest⟩ := bind_eq_ok.1 rest
  obtain ⟨⟨methods, loaded⟩, declared, last⟩ := bind_eq_ok.1 rest
  cases last
  obtain ⟨rs, each, distinct, -, rfl, loads⟩ := of_declareMethods declared
  have source : ∀ r ∈ rs, ∃ m ∈ file.methods, decoder.declareMethod file name m = .ok r :=
    fun r member => exists_of_forall₂ each.flip member
  refine ⟨fun m member => ?_, fun k method isMethod => ?_, fun c => ?_⟩
  · obtain ⟨r, inside, here⟩ := exists_of_forall₂ each member
    refine ⟨r.1, (extracts_of_declareMethod here).1, ?_⟩
    rw [DeclaredClass.method?, get?_methods, getLast?_filter distinct inside]
    rfl
  · rw [DeclaredClass.method?, get?_methods, Option.map_eq_some_iff] at isMethod
    obtain ⟨r, last, rfl⟩ := isMethod
    obtain ⟨inside, key⟩ := List.mem_filter.1 (List.mem_of_getLast? last)
    obtain ⟨m, member, here⟩ := source r inside
    exact ⟨of_decide_eq_true key, m, member, (extracts_of_declareMethod here).1⟩
  · rw [loads]
    constructor
    · rintro (none | ⟨r, inside, loaded⟩)
      · cases none
      · obtain ⟨m, member, here⟩ := source r inside
        exact ⟨m, member, ((extracts_of_declareMethod here).2 c).1 loaded⟩
    · rintro ⟨m, member, loaded⟩
      obtain ⟨r, inside, here⟩ := exists_of_forall₂ each member
      exact .inr ⟨r, inside, ((extracts_of_declareMethod here).2 c).2 loaded⟩

end

/-- A class whose code calls a method of an unverifiable owner and catches exceptions. -/
theorem Sample.decode_extracts_source : ∃ d file, Decoder.standard.decode source.bytes = .ok d ∧
    ClassFile.ofBytes source.bytes = .ok file ∧ Decoder.standard.Extracts file d := by
  have decoded : (Decoder.standard.decode source.bytes).toOption.isSome = true := by
    decide +kernel
  cases run : Decoder.standard.decode source.bytes with
  | error e =>
    rw [run] at decoded
    cases decoded
  | ok d =>
    obtain ⟨file, parsed, extracts⟩ := Decoder.decode_extracts run
    exact ⟨d, file, rfl, parsed, extracts⟩

end Linkage
