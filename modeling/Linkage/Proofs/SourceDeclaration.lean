import Mathlib.Data.List.Nodup
import Linkage.Proofs.Building

/-!
What a description of a class declares, read off the description itself: its links, each with the
line and the exceptions of its instruction (`ClassSource.declaration`). What an instruction
contributes when it is decoded from a class file is what it contributes in the description
(`codeUses_eq_ok`).
-/
namespace Linkage
open Interning

/-- A symbolic link: a call of a method, an access to a field, or a class literal. -/
inductive Link where
  | call (isStatic : Bool) (target : MemberSymbol)
  | access (isStatic : Bool) (target : MemberSymbol)
  | literal (name : String)
  deriving DecidableEq, Repr

/-- The link that a method handle makes. -/
def Handle.link (h : Handle) : Link :=
  match h.kind with
  | .getField => .access false h.target
  | .putField => .access false h.target
  | .getStatic => .access true h.target
  | .putStatic => .access true h.target
  | .invokeStatic => .call true h.target
  | .invokeVirtual => .call false h.target
  | .invokeSpecial => .call false h.target
  | .newInvokeSpecial => .call false h.target
  | .invokeInterface => .call false h.target

/-- The links that an instruction makes. -/
def Operation.links : Operation → List Link
  | .plain _ => []
  | .invoke kind m => [.call (kind == .static) m]
  | .access kind m => [.access (kind == .getStatic || kind == .putStatic) m]
  | .loadClass name => [.literal name]
  | .loadString _ => []
  | .invokeDynamic _ _ handles => handles.map Handle.link

/-- Members of arrays and of the unverifiable owners are left out. -/
def Decoder.Drops (decoder : Decoder) (owner : String) : Prop :=
  Text.startsWith "[" owner = true ∨ owner ∈ decoder.unverifiable.toList

instance (decoder : Decoder) (owner : String) : Decidable (decoder.Drops owner) :=
  inferInstanceAs (Decidable (_ ∨ _))

/-- What a link contributes to a declaration, at a line and where some exceptions are caught. The
literal of an array loads the class of its elements. -/
def Link.uses (decoder : Decoder) (line : Nat) (caught : SortedSet ClassName) :
    Link → Except SymbolError (List Use)
  | .call isStatic m => do
    if decoder.Drops m.owner then return []
    let owner ← ClassName.ofName m.owner
    let descriptor ← MethodDescriptor.ofRaw m.descriptor m.name
    return [.call ⟨⟨owner, descriptor, isStatic⟩, line, caught⟩]
  | .access isStatic m => do
    if decoder.Drops m.owner then return []
    let owner ← ClassName.ofName m.owner
    let descriptor ← FieldDescriptor.ofRaw m.descriptor m.name
    return [.access ⟨⟨owner, descriptor, isStatic⟩, line, caught⟩]
  | .literal name => do
    if Text.startsWith "[" name then
      return ((← TypeDescriptor.ofRaw name).elementClass?.map Use.load).toList
    else return [.load (← ClassName.ofName name)]

/-- What an instruction contributes to a declaration. -/
def PlacedOperation.uses (decoder : Decoder) (p : PlacedOperation) :
    Except SymbolError (List Use) := do
  let caught ← p.caught.mapM ClassName.ofName
  return (← p.operation.links.mapM (Link.uses decoder p.line (SortedSet.ofList caught))).flatten

/-- The instructions of a method. -/
def MethodSource.placed (m : MethodSource) : List PlacedOperation :=
  match m.body with
  | some ss => (Statement.placedAll 0 [] ss).1
  | none => []

/-- The declaration of a method and the classes that its code loads. -/
def MethodSource.declaration (decoder : Decoder) (owner : ClassName) (m : MethodSource) :
    Except SymbolError (DeclaredMethod × List ClassName) := do
  let descriptor ← MethodDescriptor.ofRaw m.descriptor m.name
  let uses := (← m.placed.mapM (PlacedOperation.uses decoder)).flatten
  return (.ofUses ⟨owner, descriptor, m.access.testBit 3⟩ uses, uses.filterMap Use.load?)

/-- The reference under which a field is declared. -/
def FieldSource.reference (owner : ClassName) (f : FieldSource) :
    Except SymbolError FieldReference := do
  return ⟨owner, ← FieldDescriptor.ofRaw f.descriptor f.name, f.access.testBit 3⟩

/-- The declaration that a description makes. Of several fields with one descriptor the last
counts. -/
def ClassSource.declaration (decoder : Decoder) (s : ClassSource) :
    Except SymbolError DeclaredClass := do
  let name ← ClassName.ofName s.name
  let parents ← (s.superClass.toList ++ s.interfaces).mapM ClassName.ofName
  let fields ← s.fields.mapM (FieldSource.reference name)
  let methods ← s.methods.mapM (MethodSource.declaration decoder name)
  return { name, parents
           loaded := SortedSet.ofList (methods.flatMap Prod.snd)
           methods := methods.foldl (fun map m => map.insert m.1.reference.descriptor m.1) .empty
           fields := fields.foldl (fun map f => map.insert f.descriptor f) .empty }

section
variable {decoder : Decoder} {s : ClassSource} {owner : ClassName}

theorem MethodSource.ofRaw_of_declaration {m : MethodSource} {r : DeclaredMethod × List ClassName}
    (declared : m.declaration decoder owner = .ok r) :
    MethodDescriptor.ofRaw m.descriptor m.name = .ok r.1.reference.descriptor := by
  obtain ⟨descriptor, read, rest⟩ := bind_eq_ok.1 declared
  obtain ⟨parts, -, last⟩ := bind_eq_ok.1 rest
  cases last
  exact read

theorem ClassSource.distinct_declarations {rs : List (DeclaredMethod × List ClassName)}
    (distinct : (s.methods.map fun m => (MethodDescriptor.ofRaw m.descriptor m.name).toOption).Nodup)
    (declared : s.methods.mapM (MethodSource.declaration decoder owner) = .ok rs) :
    (rs.map (·.1.reference.descriptor)).Nodup := by
  have same : (s.methods.map fun m => (MethodDescriptor.ofRaw m.descriptor m.name).toOption) =
      (rs.map (·.1.reference.descriptor)).map some := by
    rw [List.map_map, ← List.forall₂_eq_eq_eq, List.forall₂_map_left_iff, List.forall₂_map_right_iff]
    refine (mapM_eq_ok.1 declared).imp fun m r here => ?_
    rw [MethodSource.ofRaw_of_declaration here]
    rfl
  rw [same] at distinct
  exact List.Nodup.of_map some distinct

end

/-! ### Instructions -/

section
variable {decoder : Decoder} {code : Code} {pc : Nat} {caught : SortedSet ClassName} {us : List Use}

theorem Decoder.keeps_eq_true_iff {owner : String} :
    decoder.keeps owner = true ↔ ¬ decoder.Drops owner := by
  simp [keeps, Drops]

/-- What the decoder makes of a reference to a member. -/
private theorem memberUse_eq_ok {δ : Type} {m : MemberSymbol} {descriptor : Except SymbolError δ}
    (use : ClassName → δ → SortedSet ClassName → Use) (catches : code.caughtAt pc = .ok caught)
    (declared : (if decoder.Drops m.owner then pure [] else do
      let owner ← ClassName.ofName m.owner
      let descriptor ← descriptor
      return [use owner descriptor caught] : Except SymbolError (List Use)) = .ok us) :
    (if !decoder.keeps m.owner then pure [] else do
      let owner ← ClassFileError.ofSymbol (ClassName.ofName m.owner)
      let descriptor ← ClassFileError.ofSymbol descriptor
      let caught ← code.caughtAt pc
      return [use owner descriptor caught] : Except ClassFileError (List Use)) = .ok us := by
  by_cases drops : decoder.Drops m.owner
  · have dropped : (!decoder.keeps m.owner) = true := by
      rw [Bool.not_eq_true', Bool.eq_false_iff]
      exact fun kept => Decoder.keeps_eq_true_iff.1 kept drops
    rw [if_pos drops] at declared
    rw [if_pos dropped]
    cases declared
    rfl
  · have kept : ¬ (!decoder.keeps m.owner) = true := by
      simp [Decoder.keeps_eq_true_iff.2 drops]
    rw [if_neg drops] at declared
    obtain ⟨owner, named, rest⟩ := bind_eq_ok.1 declared
    obtain ⟨d, described, last⟩ := bind_eq_ok.1 rest
    cases last
    rw [if_neg kept]
    exact bind_eq_ok.2 ⟨owner, ofSymbol_eq_ok.2 named, bind_eq_ok.2 ⟨d, ofSymbol_eq_ok.2 described,
      bind_eq_ok.2 ⟨caught, catches, rfl⟩⟩⟩

private theorem callUse_eq_ok {isStatic : Bool} {m : MemberSymbol}
    (catches : code.caughtAt pc = .ok caught)
    (declared : (Link.call isStatic m).uses decoder (code.lineAt pc) caught = .ok us) :
    decoder.callUse code pc (code.lineAt pc) isStatic m = .ok us :=
  memberUse_eq_ok (fun owner descriptor caught =>
    .call ⟨⟨owner, descriptor, isStatic⟩, code.lineAt pc, caught⟩) catches declared

private theorem accessUse_eq_ok {isStatic : Bool} {m : MemberSymbol}
    (catches : code.caughtAt pc = .ok caught)
    (declared : (Link.access isStatic m).uses decoder (code.lineAt pc) caught = .ok us) :
    decoder.accessUse code pc (code.lineAt pc) isStatic m = .ok us :=
  memberUse_eq_ok (fun owner descriptor caught =>
    .access ⟨⟨owner, descriptor, isStatic⟩, code.lineAt pc, caught⟩) catches declared

/-- What the decoder makes of a class literal. -/
private theorem literalUse_eq_ok {line : Nat} {name : String}
    (declared : (Link.literal name).uses decoder line caught = .ok us) :
    Decoder.literalUse name = .ok us := by
  unfold Decoder.literalUse
  by_cases array : Text.startsWith "[" name = true
  · rw [Link.uses, if_pos array] at declared
    obtain ⟨type, read, last⟩ := bind_eq_ok.1 declared
    cases last
    rw [if_pos array]
    exact bind_eq_ok.2 ⟨type, ofSymbol_eq_ok.2 read, rfl⟩
  · rw [Link.uses, if_neg array] at declared
    obtain ⟨c, named, last⟩ := bind_eq_ok.1 declared
    cases last
    rw [if_neg array]
    exact bind_eq_ok.2 ⟨c, ofSymbol_eq_ok.2 named, rfl⟩

/-- What the decoder makes of a method handle. -/
private theorem handleUse_eq_ok {h : Handle} (catches : code.caughtAt pc = .ok caught)
    (declared : h.link.uses decoder (code.lineAt pc) caught = .ok us) :
    decoder.handleUse code pc (code.lineAt pc) h.kind.number h.target = .ok us := by
  obtain ⟨kind, target⟩ := h
  cases kind
  case getField | getStatic | putField | putStatic => exact accessUse_eq_ok catches declared
  all_goals exact callUse_eq_ok catches declared

private theorem argumentUses_eq_ok {pool : ConstantPool} {final : List PoolEntry}
    {handles : List Handle} {arguments : List Nat} {parts : List (List Use)} (sound : Sound final)
    (same : pool = Image.constantPool final) (catches : code.caughtAt pc = .ok caught)
    (bound : List.Forall₂ (fun h index => HoldsHandle final index h) handles arguments)
    (declared : List.Forall₂ (fun link us => link.uses decoder (code.lineAt pc) caught = .ok us)
      (handles.map Handle.link) parts) :
    arguments.mapM (decoder.argumentUse pool code pc (code.lineAt pc)) = .ok parts := by
  rw [List.forall₂_map_left_iff] at declared
  rw [mapM_eq_ok]
  induction bound generalizing parts with
  | nil =>
    cases declared
    exact .nil
  | cons held _ ih =>
    cases declared with
    | cons here others =>
      obtain ⟨r, found, member⟩ := sound.handle held
      refine .cons ?_ (ih others)
      rw [Decoder.argumentUse, same]
      exact bind_eq_ok.2 ⟨_, found, bind_eq_ok.2 ⟨_, member, handleUse_eq_ok catches here⟩⟩

/-- What is decoded of an instruction is what its links contribute. -/
private theorem uses_eq_ok {file : ClassFile} {final : List PoolEntry}
    {bootstraps : List Image.Bootstrap} {o : Operation} {index : Nat} {parts : List (List Use)}
    (sound : Sound final) (pool : file.pool = Image.constantPool final)
    (tables : file.bootstraps = bootstraps.map Image.Bootstrap.arguments)
    (few : bootstraps.length < 2 ^ 16) (refers : o.Refers final bootstraps index)
    (catches : code.caughtAt pc = .ok caught)
    (declared : o.links.mapM (Link.uses decoder (code.lineAt pc) caught) = .ok parts) :
    decoder.uses file code pc (code.lineAt pc) (o.instruction index) = .ok parts.flatten := by
  replace declared := mapM_eq_ok.1 declared
  cases o with
  | plain opcode =>
    cases declared
    rfl
  | invoke kind m =>
    obtain ⟨us, _, here, none, rfl⟩ := List.forall₂_cons_left_iff.1 declared
    cases none
    have isStatic : (kind.opcode == Opcode.invokeStatic) = (kind == .static) := by cases kind <;> rfl
    rw [← isStatic] at here
    rw [Operation.instruction, Decoder.uses, pool, List.flatten_singleton]
    exact bind_eq_ok.2 ⟨m, sound.member refers, callUse_eq_ok catches here⟩
  | access kind m =>
    obtain ⟨us, _, here, none, rfl⟩ := List.forall₂_cons_left_iff.1 declared
    cases none
    have isStatic : (kind.opcode == Opcode.getStatic || kind.opcode == Opcode.putStatic) =
        (kind == .getStatic || kind == .putStatic) := by cases kind <;> rfl
    rw [← isStatic] at here
    rw [Operation.instruction, Decoder.uses, pool, List.flatten_singleton]
    exact bind_eq_ok.2 ⟨m, sound.member refers, accessUse_eq_ok catches here⟩
  | loadClass name =>
    obtain ⟨us, _, here, none, rfl⟩ := List.forall₂_cons_left_iff.1 declared
    cases none
    obtain ⟨n, held, named⟩ := refers
    have small : n % 2 ^ 16 = n := Nat.mod_eq_of_lt (sound.lt named)
    rw [Operation.instruction, Decoder.uses, pool, List.flatten_singleton]
    refine bind_eq_ok.2 ⟨_, sound.get held rfl, bind_eq_ok.2 ⟨name, ?_, literalUse_eq_ok here⟩⟩
    rw [small]
    exact sound.text named
  | loadString units =>
    cases declared
    obtain ⟨t, held⟩ := refers
    rw [Operation.instruction, Decoder.uses, pool]
    exact bind_eq_ok.2 ⟨_, sound.get held rfl, rfl⟩
  | invokeDynamic name descriptor handles =>
    obtain ⟨k, n, b, held, found, -, type, rest, arguments, ⟨d, isType⟩, bound⟩ := refers
    have inside : k < bootstraps.length := (List.getElem?_eq_some_iff.1 found).1
    have small : k % 2 ^ 16 = k := Nat.mod_eq_of_lt (Nat.lt_trans inside few)
    have entry : file.bootstraps[k % 2 ^ 16]? = some (type :: rest) := by
      rw [small, tables, List.getElem?_map, found, Option.map_some, arguments]
    have first : decoder.argumentUse file.pool code pc (code.lineAt pc) type = .ok [] := by
      rw [Decoder.argumentUse, pool]
      exact bind_eq_ok.2 ⟨_, sound.get isType rfl, rfl⟩
    have all : (type :: rest).mapM (decoder.argumentUse file.pool code pc (code.lineAt pc)) =
        .ok ([] :: parts) := by
      rw [mapM_eq_ok]
      exact .cons first (mapM_eq_ok.1 (argumentUses_eq_ok sound pool catches bound declared))
    rw [Operation.instruction, Decoder.uses]
    refine bind_eq_ok.2 ⟨_, pool ▸ sound.get held rfl, ?_⟩
    dsimp only
    rw [entry]
    exact bind_eq_ok.2 ⟨_, all, rfl⟩

private theorem streamUses_eq_ok {file : ClassFile} {final : List PoolEntry}
    {bootstraps : List Image.Bootstrap} {written : List (Operation × Nat)}
    {ps : List PlacedOperation} {parts : List (List Use)} {pc : Nat}
    (sound : Sound final) (pool : file.pool = Image.constantPool final)
    (tables : file.bootstraps = bootstraps.map Image.Bootstrap.arguments)
    (few : bootstraps.length < 2 ^ 16)
    (same : written.map Prod.fst = ps.map PlacedOperation.operation)
    (refers : ∀ w ∈ written, w.1.Refers final bootstraps w.2)
    (line : ∀ e ∈ offsets pc ps, code.lineAt e.1 = e.2.line)
    (catches : ∀ e ∈ offsets pc ps, ∀ names, e.2.caught.mapM ClassName.ofName = .ok names →
      code.caughtAt e.1 = .ok (SortedSet.ofList names))
    (declared : List.Forall₂ (fun p us => p.uses decoder = .ok us) ps parts) :
    List.Forall₂ (fun i us => decoder.uses file code i.1 (code.lineAt i.1) i.2 = .ok us)
      (Instruction.ofOperations pc written) parts := by
  induction declared generalizing pc written with
  | nil =>
    cases List.map_eq_nil_iff.1 same
    exact .nil
  | @cons p us ps parts here _ ih =>
    obtain ⟨⟨o, index⟩, written, rfl, rfl, rest⟩ := List.map_eq_cons_iff.1 same
    obtain ⟨names, named, last⟩ := bind_eq_ok.1 here
    obtain ⟨links, linked, flat⟩ := bind_eq_ok.1 last
    cases flat
    have first : (pc, p) ∈ offsets pc (p :: ps) := List.mem_cons_self
    rw [← line _ first] at linked
    refine .cons ?_ (ih rest ?_ ?_ ?_)
    · exact uses_eq_ok sound pool tables few (refers (p.operation, index) List.mem_cons_self)
        (catches _ first names named) linked
    · exact fun w member => refers w (List.mem_cons_of_mem _ member)
    · exact fun e member => line e (List.mem_cons_of_mem _ member)
    · exact fun e member => catches e (List.mem_cons_of_mem _ member)

/-- What is decoded of a method body is what its instructions contribute. -/
theorem codeUses_eq_ok {file : ClassFile} {final : List PoolEntry}
    {bootstraps : List Image.Bootstrap} {ss : List Statement} {parts : List (List Use)}
    (sound : Sound final) (pool : file.pool = Image.constantPool final)
    (tables : file.bootstraps = bootstraps.map Image.Bootstrap.arguments)
    (few : bootstraps.length < 2 ^ 16)
    (describes : code.Describes final bootstraps (Body.ofStatements ss))
    (valid : ∀ p ∈ (Statement.placedAll 0 [] ss).1, ∀ opcode, p.operation = .plain opcode →
      Opcode.fixedWidth? opcode = some 0)
    (declared : (Statement.placedAll 0 [] ss).1.mapM (PlacedOperation.uses decoder) = .ok parts) :
    decoder.codeUses file code = .ok parts.flatten := by
  obtain ⟨written, operations, refers, bytecode⟩ := describes.bytecode
  have lays := Body.ofStatements_lays ss
  obtain ⟨new, sameLines, -, ascending⟩ := lays.lines
  obtain ⟨handlers, sameHandlers, -, catches⟩ := lays.handlers
  have same : written.map Prod.fst = (Statement.placedAll 0 [] ss).1.map PlacedOperation.operation :=
    operations.trans lays.operations
  have line : ∀ e ∈ offsets 0 (Statement.placedAll 0 [] ss).1, code.lineAt e.1 = e.2.line := by
    intro e member
    have sorted : (Body.ofStatements ss).lines.Pairwise (·.1 ≤ ·.1) := sameLines ▸ ascending
    rw [Code.lineAt_eq describes.lines sorted]
    exact lays.told e member
  have caught : ∀ e ∈ offsets 0 (Statement.placedAll 0 [] ss).1, ∀ names,
      e.2.caught.mapM ClassName.ofName = .ok names →
        code.caughtAt e.1 = .ok (SortedSet.ofList names) := by
    intro e member names named
    refine Code.caughtAt_eq_ok describes.handlers (fun name => ?_) named
    rw [catches e member name, sameHandlers]
    simp [Body.empty]
  have stream : Instruction.stream code.bytecode = ⟨Instruction.ofOperations 0 written, none⟩ := by
    rw [Instruction.stream, bytecode]
    refine Instruction.streamFrom_bytes (fun w member => (refers w member).lt sound) ?_ 0
    intro w member opcode plain
    obtain ⟨p, placed, isOperation⟩ : ∃ p ∈ (Statement.placedAll 0 [] ss).1, p.operation = w.1 :=
      List.mem_map.1 (same ▸ List.mem_map_of_mem member)
    exact valid p placed opcode (isOperation.trans plain)
  have run := streamUses_eq_ok sound pool tables few same refers line caught (mapM_eq_ok.1 declared)
  rw [Decoder.codeUses_eq, stream]
  exact bind_eq_ok.2 ⟨parts, mapM_eq_ok.2 run, rfl⟩

end
end Linkage
