import Linkage.Proofs.SourceDeclaration

/-!
What the declaration of a description says: its sites are those that the instructions make, each
with the line and the exceptions of its instruction, of several fields the last counts, and every
method is there (`ClassSource.declares_of_declaration`).
-/
namespace Linkage

/-! ### Sites -/

/-- An instruction makes a site: one of its links, whose owner is not left out, has the reference of
the site, and the line and the exceptions of the site are those of the instruction. -/
def PlacedOperation.Makes {δ : Type} (decoder : Decoder) (link : Bool → MemberSymbol → Link)
    (read : String → String → Except SymbolError δ) (p : PlacedOperation)
    (site : CallSite (Reference δ)) : Prop :=
  ∃ m, link site.reference.isStatic m ∈ p.operation.links ∧ ¬ decoder.Drops m.owner ∧
    ClassName.ofName m.owner = .ok site.reference.owner ∧
    read m.descriptor m.name = .ok site.reference.descriptor ∧ site.line = p.line ∧
    ∀ c, c ∈ site.caught ↔ ∃ name ∈ p.caught, ClassName.ofName name = .ok c

/-- Links of one kind, calls or accesses, contribute the sites of their members, and no others
do. -/
structure Link.Contribute {δ : Type} (link : Bool → MemberSymbol → Link)
    (read : String → String → Except SymbolError δ) (use : CallSite (Reference δ) → Use) : Prop where
  uses : ∀ decoder line caught isStatic m, (link isStatic m).uses decoder line caught =
    if decoder.Drops m.owner then pure [] else do
      let owner ← ClassName.ofName m.owner
      let descriptor ← read m.descriptor m.name
      return [use ⟨⟨owner, descriptor, isStatic⟩, line, caught⟩]
  injective : Function.Injective use
  only : ∀ {decoder line caught l us site}, l.uses decoder line caught = .ok us → use site ∈ us →
    ∃ isStatic m, l = link isStatic m

section
variable {decoder : Decoder} {line : Nat} {caught : SortedSet ClassName} {us : List Use}

private theorem mem_memberUses {δ : Type} {m : MemberSymbol} {descriptor : Except SymbolError δ}
    {use : ClassName → δ → Use} {u : Use}
    (run : (if decoder.Drops m.owner then pure [] else do
      let owner ← ClassName.ofName m.owner
      let descriptor ← descriptor
      return [use owner descriptor] : Except SymbolError (List Use)) = .ok us) :
    u ∈ us ↔ ¬ decoder.Drops m.owner ∧ ∃ owner d, ClassName.ofName m.owner = .ok owner ∧
      descriptor = .ok d ∧ u = use owner d := by
  by_cases drops : decoder.Drops m.owner
  · rw [if_pos drops] at run
    cases run
    simp [drops]
  · rw [if_neg drops] at run
    obtain ⟨owner, named, rest⟩ := bind_eq_ok.1 run
    obtain ⟨d, read, last⟩ := bind_eq_ok.1 rest
    cases last
    simp [drops, named, read]

theorem load_of_literal {name : String} {u : Use}
    (run : (Link.literal name).uses decoder line caught = .ok us) (member : u ∈ us) :
    ∃ c, u = .load c := by
  rw [Link.uses] at run
  split at run
  · obtain ⟨type, -, last⟩ := bind_eq_ok.1 run
    cases last
    obtain ⟨c, -, rfl⟩ := Option.map_eq_some_iff.1 (Option.mem_toList.1 member)
    exact ⟨c, rfl⟩
  · obtain ⟨c, -, last⟩ := bind_eq_ok.1 run
    cases last
    exact ⟨c, List.mem_singleton.1 member⟩

theorem Link.contribute_call : Contribute .call MethodDescriptor.ofRaw .call where
  uses _ _ _ _ _ := rfl
  injective _ _ same := Use.call.inj same
  only {_ _ _ l _ _} run member := by
    cases l with
    | call isStatic m => exact ⟨isStatic, m, rfl⟩
    | access isStatic m =>
      obtain ⟨-, _, _, -, -, same⟩ := (mem_memberUses run).1 member
      cases same
    | literal name =>
      obtain ⟨_, same⟩ := load_of_literal run member
      cases same

theorem Link.contribute_access : Contribute .access FieldDescriptor.ofRaw .access where
  uses _ _ _ _ _ := rfl
  injective _ _ same := Use.access.inj same
  only {_ _ _ l _ _} run member := by
    cases l with
    | call isStatic m =>
      obtain ⟨-, _, _, -, -, same⟩ := (mem_memberUses run).1 member
      cases same
    | access isStatic m => exact ⟨isStatic, m, rfl⟩
    | literal name =>
      obtain ⟨_, same⟩ := load_of_literal run member
      cases same

variable {δ : Type} {link : Bool → MemberSymbol → Link}
  {read : String → String → Except SymbolError δ} {use : CallSite (Reference δ) → Use}
  {site : CallSite (Reference δ)}

/-- The sites that a link contributes. -/
theorem Link.Contribute.mem_uses {isStatic : Bool} {m : MemberSymbol}
    (contribute : Contribute link read use)
    (run : (link isStatic m).uses decoder line caught = .ok us) :
    use site ∈ us ↔ ¬ decoder.Drops m.owner ∧ ClassName.ofName m.owner = .ok site.reference.owner ∧
      read m.descriptor m.name = .ok site.reference.descriptor ∧
      site.reference.isStatic = isStatic ∧ site.line = line ∧ site.caught = caught := by
  rw [contribute.uses] at run
  rw [mem_memberUses run]
  constructor
  · rintro ⟨drops, owner, d, named, described, same⟩
    cases contribute.injective same
    exact ⟨drops, named, described, rfl, rfl, rfl⟩
  · rintro ⟨drops, named, described, rfl, rfl, rfl⟩
    exact ⟨drops, _, _, named, described, rfl⟩

/-- The sites that an instruction contributes are those that it makes. -/
theorem Link.Contribute.mem_placed {p : PlacedOperation} (contribute : Contribute link read use)
    (run : p.uses decoder = .ok us) : use site ∈ us ↔ p.Makes decoder link read site := by
  obtain ⟨names, named, rest⟩ := bind_eq_ok.1 run
  obtain ⟨parts, linked, last⟩ := bind_eq_ok.1 rest
  cases last
  have caught : site.caught = SortedSet.ofList names ↔
      ∀ c, c ∈ site.caught ↔ ∃ name ∈ p.caught, ClassName.ofName name = .ok c := by
    have told : ∀ c, c ∈ SortedSet.ofList names ↔
        ∃ name ∈ p.caught, ClassName.ofName name = .ok c := fun c => by
      rw [SortedSet.mem_ofList, mem_iff_of_mapM_eq_ok named]
    simp only [← told]
    exact ⟨fun same c => by rw [same], SortedSet.ext⟩
  rw [mem_flatten_of_mapM_eq_ok linked]
  constructor
  · rintro ⟨l, isLink, part, here, member⟩
    obtain ⟨isStatic, m, rfl⟩ := contribute.only here member
    obtain ⟨drops, owner, described, rfl, line, set⟩ := (contribute.mem_uses here).1 member
    exact ⟨m, isLink, drops, owner, described, line, caught.1 set⟩
  · rintro ⟨m, isLink, drops, owner, described, line, set⟩
    obtain ⟨part, here⟩ := exists_of_mapM_eq_ok linked isLink
    refine ⟨_, isLink, part, here, ?_⟩
    exact (contribute.mem_uses here).2 ⟨drops, owner, described, rfl, line, caught.2 set⟩

/-- The sites that instructions contribute are those that one of them makes. -/
theorem Link.Contribute.mem_flatten {ps : List PlacedOperation} {parts : List (List Use)}
    (contribute : Contribute link read use)
    (run : ps.mapM (PlacedOperation.uses decoder) = .ok parts) :
    use site ∈ parts.flatten ↔ ∃ p ∈ ps, p.Makes decoder link read site := by
  rw [mem_flatten_of_mapM_eq_ok run]
  constructor
  · rintro ⟨p, placed, part, here, member⟩
    exact ⟨p, placed, (contribute.mem_placed here).1 member⟩
  · rintro ⟨p, placed, makes⟩
    obtain ⟨part, here⟩ := exists_of_mapM_eq_ok run placed
    exact ⟨p, placed, part, here, (contribute.mem_placed here).2 makes⟩

/-! ### Literals -/

/-- A class literal loads a class: the literal of an array that of its elements. -/
def Loads (name : String) (c : ClassName) : Prop :=
  if Text.startsWith "[" name then
    ∃ type, TypeDescriptor.ofRaw name = .ok type ∧ type.elementClass? = some c
  else ClassName.ofName name = .ok c

/-- An instruction makes a literal that loads a class. -/
def PlacedOperation.LoadsClass (p : PlacedOperation) (c : ClassName) : Prop :=
  ∃ name, .literal name ∈ p.operation.links ∧ Loads name c

theorem Link.mem_uses_load {l : Link} {c : ClassName} (run : l.uses decoder line caught = .ok us) :
    .load c ∈ us ↔ ∃ name, l = .literal name ∧ Loads name c := by
  cases l with
  | call isStatic m =>
    rw [mem_memberUses run]
    simp
  | access isStatic m =>
    rw [mem_memberUses run]
    simp
  | literal name =>
    rw [Link.uses] at run
    simp only [Link.literal.injEq, exists_eq_left', Loads]
    split at run <;> rename_i array
    · obtain ⟨type, read, last⟩ := bind_eq_ok.1 run
      cases last
      rw [if_pos array]
      simp [read]
    · obtain ⟨d, named, last⟩ := bind_eq_ok.1 run
      cases last
      rw [if_neg array]
      simp [named, eq_comm]

/-- The classes that instructions load are those that one of them does. -/
theorem mem_flatten_load {ps : List PlacedOperation} {parts : List (List Use)} {c : ClassName}
    (run : ps.mapM (PlacedOperation.uses decoder) = .ok parts) :
    .load c ∈ parts.flatten ↔ ∃ p ∈ ps, p.LoadsClass c := by
  rw [mem_flatten_of_mapM_eq_ok run]
  constructor
  · rintro ⟨p, placed, part, here, member⟩
    obtain ⟨names, -, rest⟩ := bind_eq_ok.1 here
    obtain ⟨links, linked, last⟩ := bind_eq_ok.1 rest
    cases last
    obtain ⟨l, isLink, us, uses, inside⟩ := (mem_flatten_of_mapM_eq_ok linked).1 member
    obtain ⟨name, rfl, loads⟩ := (Link.mem_uses_load uses).1 inside
    exact ⟨p, placed, name, isLink, loads⟩
  · rintro ⟨p, placed, name, isLink, loads⟩
    obtain ⟨part, here⟩ := exists_of_mapM_eq_ok run placed
    refine ⟨p, placed, part, here, ?_⟩
    obtain ⟨names, -, rest⟩ := bind_eq_ok.1 here
    obtain ⟨links, linked, last⟩ := bind_eq_ok.1 rest
    cases last
    obtain ⟨us, uses⟩ := exists_of_mapM_eq_ok linked isLink
    exact (mem_flatten_of_mapM_eq_ok linked).2 ⟨_, isLink, us, uses,
      (Link.mem_uses_load uses).2 ⟨name, rfl, loads⟩⟩

theorem Use.call?_eq_some {u : Use} {site : CallSite MethodReference} :
    u.call? = some site ↔ u = .call site := by
  cases u <;> simp [call?]

theorem Use.access?_eq_some {u : Use} {site : CallSite FieldReference} :
    u.access? = some site ↔ u = .access site := by
  cases u <;> simp [access?]

theorem Use.load?_eq_some {u : Use} {c : ClassName} : u.load? = some c ↔ u = .load c := by
  cases u <;> simp [load?]

/-! ### Methods and classes -/

/-- A method is declared with the sites that its instructions make. -/
structure MethodSource.Declares (decoder : Decoder) (owner : ClassName) (m : MethodSource)
    (method : DeclaredMethod) : Prop where
  owner : method.reference.owner = owner
  descriptor : MethodDescriptor.ofRaw m.descriptor m.name = .ok method.reference.descriptor
  isStatic : method.reference.isStatic = m.access.testBit 3
  calls : ∀ site, site ∈ method.calls ↔
    ∃ p ∈ m.placed, p.Makes decoder .call MethodDescriptor.ofRaw site
  accesses : ∀ site, site ∈ method.accesses ↔
    ∃ p ∈ m.placed, p.Makes decoder .access FieldDescriptor.ofRaw site

/-- A class is declared with its name, its parents, the classes that its code loads, the last field
for each descriptor, and its methods. -/
structure ClassSource.Declares (decoder : Decoder) (s : ClassSource) (d : DeclaredClass) : Prop where
  name : ClassName.ofName s.name = .ok d.name
  parents : (s.superClass.toList ++ s.interfaces).mapM ClassName.ofName = .ok d.parents
  loaded : ∀ c, c ∈ d.loaded ↔ ∃ m ∈ s.methods, ∃ p ∈ m.placed, p.LoadsClass c
  fields : ∃ fields, s.fields.mapM (FieldSource.reference d.name) = .ok fields ∧
    ∀ f, d.field? f = (fields.filter (·.descriptor = f)).getLast?
  methods : ∀ m ∈ s.methods, ∃ method, m.Declares decoder d.name method ∧
    d.method? method.reference.descriptor = some method
  only : ∀ k method, d.method? k = some method → method.reference.descriptor = k ∧
    ∃ m ∈ s.methods, m.Declares decoder d.name method

theorem MethodSource.declares_of_declaration {m : MethodSource} {owner : ClassName}
    {r : DeclaredMethod × List ClassName} (declared : m.declaration decoder owner = .ok r) :
    m.Declares decoder owner r.1 ∧ ∀ c, c ∈ r.2 ↔ ∃ p ∈ m.placed, p.LoadsClass c := by
  obtain ⟨descriptor, read, rest⟩ := bind_eq_ok.1 declared
  obtain ⟨parts, used, last⟩ := bind_eq_ok.1 rest
  cases last
  refine ⟨⟨rfl, read, rfl, fun site => ?_, fun site => ?_⟩, fun c => ?_⟩
  · rw [DeclaredMethod.ofUses, SortedSet.mem_ofList, List.mem_filterMap,
      ← Link.contribute_call.mem_flatten used]
    simp [Use.call?_eq_some]
  · rw [DeclaredMethod.ofUses, SortedSet.mem_ofList, List.mem_filterMap,
      ← Link.contribute_access.mem_flatten used]
    simp [Use.access?_eq_some]
  · rw [List.mem_filterMap, ← mem_flatten_load used]
    simp [Use.load?_eq_some]

private theorem get?_fields (fields : List FieldReference) (f : FieldDescriptor) :
    (fields.foldl (fun map r => map.insert r.descriptor r) SortedMap.empty).get? f =
      (fields.filter (·.descriptor = f)).getLast? := by
  have last := SortedMap.get?_foldl_insert Reference.descriptor id fields .empty f
  simpa using last

theorem get?_methods (methods : List (DeclaredMethod × List ClassName)) (k : MethodDescriptor) :
    (methods.foldl (fun map r => map.insert r.1.reference.descriptor r.1) SortedMap.empty).get? k =
      (methods.filter (·.1.reference.descriptor = k)).getLast?.map Prod.fst := by
  have last := SortedMap.get?_foldl_insert
    (fun r : DeclaredMethod × List ClassName => r.1.reference.descriptor) Prod.fst methods .empty k
  simpa using last

/-- Where keys are distinct, an element is the last one with its key. -/
theorem getLast?_filter {α κ : Type} [DecidableEq κ] {key : α → κ} {l : List α} {a : α}
    (distinct : (l.map key).Nodup) (member : a ∈ l) :
    (l.filter (key · = key a)).getLast? = some a := by
  have inside : a ∈ l.filter (key · = key a) := List.mem_filter.2 ⟨member, by simp⟩
  obtain ⟨b, last⟩ := Option.isSome_iff_exists.1 (List.getLast?_isSome.2 (List.ne_nil_of_mem inside))
  obtain ⟨there, same⟩ := List.mem_filter.1 (List.mem_of_getLast? last)
  rw [last, List.inj_on_of_nodup_map distinct there member (of_decide_eq_true same)]

/-- The declaration of a description with methods of distinct descriptors. -/
theorem ClassSource.declares_of_declaration {s : ClassSource} {d : DeclaredClass}
    (distinct : (s.methods.map fun m => (MethodDescriptor.ofRaw m.descriptor m.name).toOption).Nodup)
    (declared : s.declaration decoder = .ok d) : s.Declares decoder d := by
  obtain ⟨name, named, rest⟩ := bind_eq_ok.1 declared
  obtain ⟨parents, inherited, rest⟩ := bind_eq_ok.1 rest
  obtain ⟨fields, fielded, rest⟩ := bind_eq_ok.1 rest
  obtain ⟨methods, methodRun, last⟩ := bind_eq_ok.1 rest
  cases last
  refine ⟨named, inherited, fun c => ?_, ⟨fields, fielded, get?_fields fields⟩, fun m member => ?_,
    fun k method isMethod => ?_⟩
  · rw [SortedSet.mem_ofList, List.mem_flatMap]
    constructor
    · rintro ⟨r, inside, loads⟩
      obtain ⟨m, member, here⟩ := (mem_iff_of_mapM_eq_ok methodRun).1 inside
      exact ⟨m, member, ((MethodSource.declares_of_declaration here).2 c).1 loads⟩
    · rintro ⟨m, member, loads⟩
      obtain ⟨r, inside, here⟩ := exists_of_forall₂ (mapM_eq_ok.1 methodRun) member
      exact ⟨r, inside, ((MethodSource.declares_of_declaration here).2 c).2 loads⟩
  · obtain ⟨r, inside, here⟩ := exists_of_forall₂ (mapM_eq_ok.1 methodRun) member
    refine ⟨r.1, (MethodSource.declares_of_declaration here).1, ?_⟩
    have last := getLast?_filter (distinct_declarations distinct methodRun) inside
    rw [DeclaredClass.method?, get?_methods, last]
    rfl
  · rw [DeclaredClass.method?, get?_methods, Option.map_eq_some_iff] at isMethod
    obtain ⟨r, last, rfl⟩ := isMethod
    obtain ⟨inside, key⟩ := List.mem_filter.1 (List.mem_of_getLast? last)
    obtain ⟨m, member, here⟩ := (mem_iff_of_mapM_eq_ok methodRun).1 inside
    exact ⟨of_decide_eq_true key, m, member, (MethodSource.declares_of_declaration here).1⟩

end
end Linkage
