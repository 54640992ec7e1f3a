import Mathlib.Data.List.Infix
import Linkage.ClassFile.Structure
import Linkage.Data.Outcome
import Linkage.Proofs.Loading
import Linkage.Proofs.Reading

/-!
Where a class file ends is told by its bytes. A reader delimits what it reads if it takes the same
bytes whatever follows them and runs out of bytes on everything shorter (`Reader.Delimits`). Readers
in a row delimit if each does, so a class file that is cut short is never taken for a malformed one,
and bytes after it are noticed (`ClassFile.ofBytes_cut_or_followed`).
-/
namespace Linkage
namespace Reader
variable {α β : Type}

/-- A reader takes some bytes off the front, the same whatever follows them, and it fails for want
of bytes if they are not all there. -/
def Delimits (r : Reader α) : Prop :=
  ∀ bytes a rest, r bytes = .ok (a, rest) → ∃ used, bytes = used ++ rest ∧ Reads r used a ∧
    ∀ cut, cut <+: used → cut ≠ used → r cut = .error .unexpectedEnd

/-- A strict part from the front of two pieces lies within the first, or cuts the second. -/
private theorem cut_append {front back cut : Bytes} (isPrefix : cut <+: front ++ back)
    (shorter : cut ≠ front ++ back) :
    (cut <+: front ∧ cut ≠ front) ∨
      ∃ part, cut = front ++ part ∧ part <+: back ∧ part ≠ back := by
  rcases List.prefix_or_prefix_of_prefix isPrefix (List.prefix_append front back) with
    within | ⟨part, rfl⟩
  · by_cases whole : cut = front
    · subst whole
      refine .inr ⟨[], by simp, List.nil_prefix, ?_⟩
      rintro rfl
      simp at shorter
    · exact .inl ⟨within, whole⟩
  · have inside : part <+: back := (List.prefix_append_right_inj front).1 isPrefix
    exact .inr ⟨part, rfl, inside, fun same => shorter (by rw [same])⟩

namespace Delimits

theorem pure (a : α) : Delimits (pure a) := by
  intro bytes b rest run
  cases run
  refine ⟨[], rfl, Reads.pure a, ?_⟩
  intro cut isPrefix shorter
  exact absurd (List.prefix_nil.1 isPrefix) shorter

theorem lift (x : Except ClassFileError α) : Delimits (liftM x : Reader α) := by
  intro bytes b rest run
  cases x with
  | error e => cases run
  | ok a => exact pure a bytes b rest run

theorem bind {r : Reader α} {f : α → Reader β} (first : Delimits r)
    (second : ∀ a, Delimits (f a)) : Delimits (r >>= f) := by
  intro bytes b rest run
  obtain ⟨⟨a, middle⟩, here, there⟩ := bind_eq_ok.1 run
  obtain ⟨front, rfl, reads, short⟩ := first bytes a middle here
  obtain ⟨back, rfl, later, shortLater⟩ := second a middle b rest there
  refine ⟨front ++ back, (List.append_assoc ..).symm, reads.bind later, ?_⟩
  intro cut isPrefix shorter
  show (r cut >>= fun p => f p.1 p.2) = _
  rcases cut_append isPrefix shorter with ⟨within, strict⟩ | ⟨part, rfl, within, strict⟩
  · rw [short cut within strict]
    rfl
  · rw [reads part]
    exact shortLater part within strict

theorem map {r : Reader α} (f : α → β) (delimits : Delimits r) : Delimits (f <$> r) := by
  rw [map_eq_pure_bind]
  exact delimits.bind fun a => pure (f a)

theorem take (n : Nat) : Delimits (Reader.take n) := by
  intro bytes front rest run
  simp only [Reader.take, List.splitAt_eq] at run
  split at run
  · rename_i enough
    cases run
    refine ⟨bytes.take n, (List.take_append_drop n bytes).symm, Reads.take enough, ?_⟩
    intro cut isPrefix shorter
    have fewer : cut.length < n := by
      have bound := isPrefix.length_le
      have apart : cut.length ≠ (bytes.take n).length := fun same =>
        shorter (isPrefix.eq_of_length same)
      omega
    have missing : (cut.take n).length ≠ n := by
      rw [List.length_take]
      omega
    rw [Reader.take, List.splitAt_eq]
    exact if_neg missing
  · cases run

theorem u1 : Delimits Reader.u1 := (take 1).map _

theorem u2 : Delimits Reader.u2 := (take 2).map _

theorem u4 : Delimits Reader.u4 := (take 4).map _

theorem u8 : Delimits Reader.u8 := (take 8).map _

theorem times {r : Reader α} (each : Delimits r) (n : Nat) : Delimits (Reader.times n r) := by
  induction n with
  | zero => exact pure []
  | succ n ih => exact each.bind fun a => ih.bind fun rest => pure (a :: rest)

theorem table {r : Reader α} (each : Delimits r) : Delimits (Reader.table r) :=
  u2.bind fun n => each.times n

/-- Cut short, what is read to its end is missing bytes; with more behind it, something is left. -/
theorem all {r : Reader α} (delimits : Delimits r) {leftover : ClassFileError} {bytes : Bytes}
    {a : α} (run : Reader.all leftover r bytes = .ok a) :
    (∀ cut, cut <+: bytes → cut ≠ bytes → Reader.all leftover r cut = .error .unexpectedEnd) ∧
      ∀ more, more ≠ [] → Reader.all leftover r (bytes ++ more) = .error leftover := by
  have ends : r bytes = .ok (a, []) := by
    unfold Reader.all at run
    split at run
    · rename_i b here
      cases run
      exact here
    · cases run
    · cases run
  obtain ⟨used, same, reads, short⟩ := delimits bytes a [] ends
  rw [List.append_nil] at same
  subst same
  constructor
  · intro cut isPrefix shorter
    rw [Reader.all, short cut isPrefix shorter]
  · intro more some
    rw [Reader.all, reads more]
    cases more with
    | nil => exact absurd rfl some
    | cons b more => rfl

end Delimits
end Reader

open Reader

/-! ### The parts of a class file -/

theorem Constant.delimits_readBody (tag : Nat) : Delimits (Constant.readBody tag) := by
  have two {f : Nat → Nat → Constant} : Delimits (do return f (← u2) (← u2)) :=
    Delimits.u2.bind fun a => Delimits.u2.bind fun b => .pure (f a b)
  unfold Constant.readBody
  split
  · refine Delimits.u2.bind fun n => (Delimits.take n).bind fun text => ?_
    split
    · exact .pure _
    · exact .lift (.error _)
  · exact Delimits.u4.bind fun _ => .pure _
  · exact Delimits.u4.bind fun _ => .pure _
  · exact Delimits.u8.bind fun _ => .pure _
  · exact Delimits.u8.bind fun _ => .pure _
  · exact Delimits.u2.bind fun _ => .pure _
  · exact Delimits.u2.bind fun _ => .pure _
  · exact two
  · exact two
  · exact two
  · exact two
  · exact Delimits.u1.bind fun _ => Delimits.u2.bind fun _ => .pure _
  · exact Delimits.u2.bind fun _ => .pure _
  · exact two
  · exact two
  · exact Delimits.u2.bind fun _ => .pure _
  · exact Delimits.u2.bind fun _ => .pure _
  · exact .lift (.error _)

namespace ConstantPool

theorem delimits_readSlots (n : Nat) : Delimits (readSlots n) := by
  -- an eight-byte constant takes two slots at once
  induction n using Nat.strongRecOn with
  | ind n ih =>
    cases n with
    | zero => exact .pure []
    | succ n =>
      unfold readSlots
      refine (Delimits.u1.bind Constant.delimits_readBody).bind fun c => ?_
      split
      · cases n with
        | zero => exact .lift (.error _)
        | succ n => exact (ih n (by omega)).bind fun _ => .pure _
      · exact (ih n (by omega)).bind fun _ => .pure _

theorem delimits_read : Delimits read := by
  refine Delimits.u2.bind fun count => ?_
  cases count with
  | zero => exact .lift (.error _)
  | succ n => exact (delimits_readSlots n).bind fun _ => .pure _

end ConstantPool

namespace ClassFile
variable (pool : ConstantPool)

/-- What an attribute holds is read by itself, once all of it is there, so nothing is asked of the
reader of its contents. -/
theorem delimits_readAttributes {α : Type} (name : String) (recognised : Reader α) :
    Delimits (readAttributes pool name recognised) := by
  have one : Delimits (readAttribute pool) :=
    Delimits.u2.bind fun _ => Delimits.u4.bind fun n => (Delimits.take n).bind fun _ =>
      (Delimits.lift _).bind fun _ => .pure _
  refine (Delimits.table (one.bind ?_)).bind fun _ => .pure _
  rintro ⟨found, contents⟩
  dsimp only
  split
  · exact (Delimits.lift _).bind fun _ => .pure _
  · exact .pure _

theorem delimits_readMember : Delimits (readMember pool) :=
  Delimits.u2.bind fun _ => Delimits.u2.bind fun _ => (Delimits.lift _).bind fun _ =>
    Delimits.u2.bind fun _ => (Delimits.lift _).bind fun _ =>
      (delimits_readAttributes pool _ _).bind fun _ => .pure _

theorem delimits_readBody (minor major : Nat) : Delimits (readBody minor major) := by
  refine ConstantPool.delimits_read.bind fun pool => ?_
  have members : Delimits (table (readMember pool)) := (delimits_readMember pool).table
  have className : Delimits (do pool.className (← u2)) := Delimits.u2.bind fun _ => .lift _
  refine Delimits.u2.bind fun _ => Delimits.u2.bind fun _ => (Delimits.lift _).bind fun _ => ?_
  refine Delimits.u2.bind fun _ => (Delimits.lift _).bind fun _ => ?_
  refine className.table.bind fun _ => members.bind fun _ => members.bind fun _ => ?_
  exact (delimits_readAttributes pool _ _).bind fun _ => .pure _

theorem delimits_read : Delimits read := by
  refine Delimits.u4.bind fun start => ?_
  split
  · exact (Delimits.lift (.error _)).bind fun _ => Delimits.u2.bind fun minor =>
      Delimits.u2.bind fun major => delimits_readBody minor major
  · exact Delimits.u2.bind fun minor => Delimits.u2.bind fun major => delimits_readBody minor major

/-- Class files tell where they end. Cut short anywhere, a class file is missing bytes, which is the
only fault that is found; with more bytes behind it, it has trailing bytes. So no class file is the
beginning of another. -/
theorem ofBytes_cut_or_followed (bytes : Bytes) (file : ClassFile)
    (accepted : ofBytes bytes = .ok file) :
    (∀ cut, cut <+: bytes → cut ≠ bytes → ofBytes cut = .error .unexpectedEnd) ∧
      (∀ more, more ≠ [] → ofBytes (bytes ++ more) = .error .trailingBytes) ∧
      ∀ other otherFile, ofBytes other = .ok otherFile → bytes <+: other → other = bytes := by
  obtain ⟨short, long⟩ := delimits_read.all accepted
  refine ⟨short, long, ?_⟩
  rintro _ otherFile isFile ⟨more, rfl⟩
  by_contra longer
  have some : more ≠ [] := fun none => longer (by rw [none, List.append_nil])
  have refused : ofBytes (bytes ++ more) = .error .trailingBytes := long more some
  rw [isFile] at refused
  cases refused

/-- Without its last byte the class file of a class is cut short, and with a zero behind it there is
something left. -/
theorem ofBytes_cut_or_followed_child : (∃ file, ofBytes Sample.child.bytes = .ok file) ∧
    ofBytes Sample.child.bytes.dropLast = .error .unexpectedEnd ∧
    ofBytes (Sample.child.bytes ++ [0]) = .error .trailingBytes := by
  have accepted : (ofBytes Sample.child.bytes).isOk = true := by decide +kernel
  obtain ⟨file, read⟩ : ∃ file, ofBytes Sample.child.bytes = .ok file := by
    cases result : ofBytes Sample.child.bytes with
    | error e =>
      rw [result] at accepted
      cases accepted
    | ok file => exact ⟨file, rfl⟩
  obtain ⟨short, long, -⟩ := ofBytes_cut_or_followed Sample.child.bytes file read
  refine ⟨⟨file, read⟩, short _ (List.dropLast_prefix _) ?_, long [0] (by simp)⟩
  intro same
  have shorter := congrArg List.length same
  have some : Sample.child.bytes.length ≠ 0 := by decide +kernel
  rw [List.length_dropLast] at shorter
  omega

end ClassFile
end Linkage
