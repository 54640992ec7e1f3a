import Mathlib.Data.List.Infix
import Linkage.Data.Outcome
import Linkage.Proofs.Reading

/-!
Computation over addresses. Bytes are reached by their positions, and positions are words of 64
bits: what reaches out of range, cuts a character or exceeds its word is a fault, and so is a loop
that does not end (`Fault`). A reader that moves a cursor over bytes does what the reader that takes
bytes off the front of a list does, without fault (`Refines`), as long as the bytes fit in memory.
-/
namespace Linkage

/-- How a computation over addresses goes wrong: beyond the end of a sequence, inside a character of
a text, beyond the numbers that a word holds, or round and round. -/
inductive Fault where
  | outOfRange
  | insideCharacter
  | overflow
  | endless
  deriving DecidableEq, Repr

namespace Bytes

theorem toNat_concat (bytes : Bytes) (b : UInt8) :
    toNat (bytes ++ [b]) = toNat bytes * 256 + b.toNat := by
  simp [toNat]

theorem toNat_append (front back : Bytes) :
    toNat (front ++ back) = toNat front * 256 ^ back.length + toNat back := by
  induction back using List.reverseRecOn with
  | nil => simp [toNat]
  | append_singleton back b ih =>
    rw [← List.append_assoc, toNat_concat, toNat_concat, ih, List.length_append,
      List.length_singleton, Nat.pow_succ, Nat.add_mul, Nat.mul_assoc, Nat.add_assoc]

theorem toNat_lt {bytes : Bytes} {n : Nat} (length : bytes.length = n) : toNat bytes < 256 ^ n := by
  subst length
  induction bytes using List.reverseRecOn with
  | nil => exact Nat.one_pos
  | append_singleton bytes b ih =>
    have small := b.toNat_lt
    rw [toNat_concat, List.length_append, List.length_singleton, Nat.pow_succ]
    omega

end Bytes

namespace Reader

theorem take_eq (n : Nat) (bytes : Bytes) : take n bytes =
    if n ≤ bytes.length then .ok (bytes.take n, bytes.drop n) else .error .unexpectedEnd := by
  have enough : min n bytes.length = n ↔ n ≤ bytes.length := by omega
  simp only [take, List.splitAt_eq, List.length_take, enough]

/-- Eight bytes are four and four. -/
theorem u8_eq : u8 = do
    let high ← u4
    let low ← u4
    return high * 2 ^ 32 + low := by
  have number (n : Nat) (bytes : Bytes) : (Bytes.toNat <$> take n) bytes =
      if n ≤ bytes.length then .ok (Bytes.toNat (bytes.take n), bytes.drop n)
      else .error .unexpectedEnd := by
    show Except.map _ (take n bytes) = _
    rw [take_eq]
    split <;> rfl
  funext bytes
  show u8 bytes = (u4 bytes >>= fun p => u4 p.2 >>= fun q => .ok (p.1 * 2 ^ 32 + q.1, q.2))
  rw [u8, u4, number, number]
  by_cases four : 4 ≤ bytes.length
  · rw [if_pos four]
    show _ = ((Bytes.toNat <$> take 4) (bytes.drop 4) >>= fun q => _)
    rw [number, List.length_drop]
    by_cases eight : 8 ≤ bytes.length
    · have both : bytes.take 8 = bytes.take 4 ++ (bytes.drop 4).take 4 :=
        List.take_add (i := 4) (j := 4)
      have last : ((bytes.drop 4).take 4).length = 4 := by
        rw [List.length_take, List.length_drop]
        omega
      rw [if_pos eight, if_pos (by omega), both, Bytes.toNat_append, last]
      show _ = Except.ok (_, (bytes.drop 4).drop 4)
      rw [List.drop_drop]
      rfl
    · rw [if_neg eight, if_neg (by omega)]
      rfl
  · rw [if_neg four, if_neg (by omega)]
    rfl

end Reader

namespace Addressed

/-- Bits below those of a shifted number. -/
theorem shiftLeft_or {low k : Nat} (fits : low < 2 ^ k) (high : Nat) :
    high <<< k ||| low = high * 2 ^ k + low := by
  rw [Nat.shiftLeft_eq, Nat.mul_comm, Nat.two_pow_add_eq_or_of_lt fits]

section
variable {m : Type → Type} [Monad m] [MonadExceptOf Fault m] {α : Type}

/-- A number in a word of so many bits. -/
def word (bits n : Nat) : m Nat :=
  if n < 2 ^ bits then pure n else throwThe Fault .overflow

/-- A number in a signed word of 64 bits. -/
def signedWord (n : Int) : m Int :=
  if -0x8000000000000000 ≤ n ∧ n < 0x8000000000000000 then pure n else throwThe Fault .overflow

/-- The difference of two unsigned words. -/
def minus (a b : Nat) : m Nat := if b ≤ a then pure (a - b) else throwThe Fault .overflow

/-- A signed word as an unsigned one. -/
def unsigned (n : Int) : m Nat := if 0 ≤ n then pure n.toNat else throwThe Fault .overflow

/-- The element at a position. -/
def item (xs : List α) (i : Nat) : m α :=
  match xs[i]? with
  | some a => pure a
  | none => throwThe Fault .outOfRange

/-- The elements from a position on. -/
def itemsFrom (xs : List α) (i : Nat) : m (List α) :=
  if i ≤ xs.length then pure (xs.drop i) else throwThe Fault .outOfRange

theorem word_of_lt {bits n : Nat} (fits : n < 2 ^ bits) : (word bits n : m Nat) = pure n :=
  if_pos fits

theorem signedWord_of_fits {n : Int} (fits : -0x8000000000000000 ≤ n ∧ n < 0x8000000000000000) :
    (signedWord n : m Int) = pure n :=
  if_pos fits

theorem minus_of_le {a b : Nat} (le : b ≤ a) : (minus a b : m Nat) = pure (a - b) := if_pos le

theorem unsigned_of_nonneg {n : Int} (nonneg : 0 ≤ n) : (unsigned n : m Nat) = pure n.toNat :=
  if_pos nonneg

theorem item_of_getElem? {xs : List α} {i : Nat} {a : α} (there : xs[i]? = some a) :
    (item xs i : m α) = pure a := by
  rw [item, there]

theorem itemsFrom_of_le {xs : List α} {i : Nat} (within : i ≤ xs.length) :
    (itemsFrom xs i : m (List α)) = pure (xs.drop i) :=
  if_pos within

end

variable {α β : Type}

/-- The elements from a position to before another, if there are such. -/
def range? (xs : List α) (start stop : Nat) : Option (List α) :=
  if start ≤ stop ∧ stop ≤ xs.length then some ((xs.drop start).take (stop - start)) else none

/-- The sum of two words, if a word holds it. -/
def sum? (a b : Nat) : Option Nat := if a + b < 2 ^ 64 then some (a + b) else none

/-- A computation that ends with a result or finds the class file malformed, unless it faults. -/
abbrev Guarded := ExceptT ClassFileError (Except Fault)

/-- A computation that has ended. -/
def ended (x : Except ClassFileError α) : Guarded α := ExceptT.mk (.ok x)

theorem bind_of_ended {run : Guarded α} {x : Except ClassFileError α} {f : α → Guarded β}
    {g : α → Except ClassFileError β} (here : run = ended x)
    (next : ∀ a, x = .ok a → f a = ended (g a)) : run >>= f = ended (x >>= g) := by
  subst here
  cases x with
  | error e => rfl
  | ok a => exact next a rfl

theorem mapM_of_ended {as : List α} {f : α → Guarded β} {g : α → Except ClassFileError β}
    (each : ∀ a ∈ as, f a = ended (g a)) : as.mapM f = ended (as.mapM g) := by
  induction as with
  | nil => rfl
  | cons a as ih =>
    rw [List.mapM_cons, List.mapM_cons]
    refine bind_of_ended (each a List.mem_cons_self) fun b _ => ?_
    exact bind_of_ended (ih fun c later => each c (List.mem_cons_of_mem a later)) fun _ _ => rfl

/-! ### Cursors -/

/-- A place in bytes. -/
structure Cursor where
  bytes : Bytes
  position : Nat

namespace Cursor

/-- The bytes from the place on. -/
def rest (c : Cursor) : Bytes := c.bytes.drop c.position

/-- The place in the same bytes before their last ones. -/
def leaving (c : Cursor) (rest : Bytes) : Cursor :=
  { c with position := c.bytes.length - rest.length }

/-- The bytes fit in memory, which holds fewer than half as many as a word counts, and the place is
among them or at their end. -/
structure Valid (c : Cursor) : Prop where
  within : c.position ≤ c.bytes.length
  fits : c.bytes.length < 2 ^ 63

variable {c : Cursor}

@[simp] theorem rest_start (bytes : Bytes) : rest ⟨bytes, 0⟩ = bytes := rfl

theorem valid_start {bytes : Bytes} (fits : bytes.length < 2 ^ 63) : Valid ⟨bytes, 0⟩ :=
  ⟨Nat.zero_le _, fits⟩

theorem length_rest (c : Cursor) : c.rest.length = c.bytes.length - c.position := List.length_drop

theorem leaving_rest (valid : c.Valid) : c.leaving c.rest = c := by
  have within := valid.within
  unfold leaving
  rw [length_rest, Nat.sub_sub_self within]

theorem valid_leaving (valid : c.Valid) (rest : Bytes) : (c.leaving rest).Valid :=
  ⟨Nat.sub_le _ _, valid.fits⟩

theorem rest_leaving {rest : Bytes} (suffix : rest <:+ c.rest) : (c.leaving rest).rest = rest :=
  List.suffix_iff_eq_drop.1 (suffix.trans (List.drop_suffix _ _)) |>.symm

end Cursor

/-- A reader that moves a cursor. -/
abbrev CursorReader := StateT Cursor Guarded

/-- The next `n` bytes. -/
def take (n : Nat) : CursorReader Bytes := fun c =>
  match sum? c.position n with
  | none => throw .unexpectedEnd
  | some stop =>
    match range? c.bytes c.position stop with
    | none => throw .unexpectedEnd
    | some part => return (part, { c with position := stop })

/-- The number in the next byte. -/
def u1 : CursorReader Nat := fun c =>
  match c.bytes[c.position]? with
  | none => throw .unexpectedEnd
  | some b => return (b.toNat, { c with position := ← word 64 (c.position + 1) })

/-- The number in the next two bytes. -/
def u2 : CursorReader Nat := do
  let part ← take 2
  return Bytes.toNat [← item part 0, ← item part 1]

/-- The number in the next four bytes. -/
def u4 : CursorReader Nat := do
  let part ← take 4
  return Bytes.toNat [← item part 0, ← item part 1, ← item part 2, ← item part 3]

/-- The number in the next eight bytes. -/
def u8 : CursorReader Nat := do
  let high ← u4
  let low ← u4
  return (← word 64 (high <<< 32)) ||| low

/-- What a reader reads `n` times in a row. -/
def times (n : Nat) (run : CursorReader α) : CursorReader (List α) :=
  match n with
  | 0 => pure []
  | n + 1 => do
    let a ← run
    return a :: (← times n run)

/-- A table: a two-byte count, then so many items. -/
def table (run : CursorReader α) : CursorReader (List α) := do times (← u2) run

/-- Reads bytes to their end; bytes left over are the given error. -/
def all (leftover : ClassFileError) (run : CursorReader α) (bytes : Bytes) : Guarded α := do
  let (a, c) ← run ⟨bytes, 0⟩
  if c.position = c.bytes.length then return a else throw leftover

/-! ### What a cursor refines -/

/-- Over every valid cursor a reader ends as another does over the bytes that are left, and so does
the cursor; what is read has a property. -/
def Refines (run : CursorReader α) (r : Reader α) (P : α → Prop) : Prop :=
  ∀ c : Cursor, c.Valid →
    run c = ended ((r c.rest).map fun p => (p.1, c.leaving p.2)) ∧
      ∀ a rest, r c.rest = .ok (a, rest) → rest <:+ c.rest ∧ P a

namespace Refines
variable {run : CursorReader α} {r : Reader α} {P Q : α → Prop}

theorem mono (refines : Refines run r P) (weaker : ∀ a, P a → Q a) : Refines run r Q := by
  intro c valid
  obtain ⟨same, holds⟩ := refines c valid
  refine ⟨same, fun a rest read => ?_⟩
  exact ⟨(holds a rest read).1, weaker a (holds a rest read).2⟩

theorem pure {a : α} (given : P a) : Refines (pure a) (pure a) P := by
  intro c valid
  constructor
  · show ended (.ok (a, c)) = ended (.ok (a, c.leaving c.rest))
    rw [Cursor.leaving_rest valid]
  · rintro b rest read
    cases read
    exact ⟨List.suffix_rfl, given⟩

theorem throw (e : ClassFileError) : Refines (throw e : CursorReader α) (throw e) P :=
  fun _ _ => ⟨rfl, nofun⟩

/-- A step that reads nothing. -/
theorem lift {x : Guarded α} {y : Except ClassFileError α} (same : x = ended y)
    (given : ∀ a, y = .ok a → P a) : Refines (liftM x) (liftM y) P := by
  subst same
  cases y with
  | error e => exact throw e
  | ok a => exact pure (given a rfl)

theorem bind {β : Type} {f : α → CursorReader β} {g : α → Reader β} {Q : β → Prop}
    (first : Refines run r P) (next : ∀ a, P a → Refines (f a) (g a) Q) :
    Refines (run >>= f) (r >>= g) Q := by
  intro c valid
  obtain ⟨same, holds⟩ := first c valid
  show (run c >>= fun p => f p.1 p.2) = ended (Except.map _ (r c.rest >>= fun p => g p.1 p.2)) ∧
    ∀ b rest, (r c.rest >>= fun p => g p.1 p.2) = .ok (b, rest) → _
  rw [same]
  cases read : r c.rest with
  | error e => exact ⟨rfl, nofun⟩
  | ok p =>
    obtain ⟨a, rest⟩ := p
    obtain ⟨suffix, given⟩ := holds a rest read
    have later := next a given (c.leaving rest) (Cursor.valid_leaving valid rest)
    rw [Cursor.rest_leaving suffix] at later
    obtain ⟨sameLater, holdsLater⟩ := later
    refine ⟨sameLater, fun b last readLater => ?_⟩
    exact ⟨(holdsLater b last readLater).1.trans suffix, (holdsLater b last readLater).2⟩

end Refines

namespace Refines

theorem take (n : Nat) : Refines (take n) (Reader.take n) (·.length = n) := by
  intro c valid
  obtain ⟨within, fits⟩ := valid
  have left := c.length_rest
  rw [Reader.take_eq]
  split
  · rename_i enough
    have stop : sum? c.position n = some (c.position + n) := if_pos (by omega)
    have part : range? c.bytes c.position (c.position + n) = some (c.rest.take n) := by
      rw [range?, if_pos (by omega), Nat.add_sub_cancel_left, Cursor.rest]
    constructor
    · rw [Addressed.take, stop]
      dsimp only
      rw [part]
      have position : c.position + n = c.bytes.length - (c.rest.drop n).length := by
        rw [List.length_drop]
        omega
      show ended (.ok (c.rest.take n, { c with position := c.position + n })) = _
      rw [position]
      rfl
    · intro a rest read
      cases read
      exact ⟨List.drop_suffix n c.rest, List.length_take_of_le enough⟩
  · rename_i missing
    refine ⟨?_, nofun⟩
    rw [Addressed.take]
    split
    · rfl
    · rename_i stop isSum
      have sum : stop = c.position + n := by
        unfold sum? at isSum
        split at isSum
        · cases isSum
          rfl
        · cases isSum
      have none : range? c.bytes c.position stop = none := if_neg (by omega)
      rw [none]
      rfl

theorem u1 : Refines u1 Reader.u1 (· < 2 ^ 8) := by
  intro c valid
  obtain ⟨within, fits⟩ := valid
  have left := c.length_rest
  have head : c.bytes[c.position]? = c.rest.head? := by
    rw [Cursor.rest, List.head?_drop]
  show Addressed.u1 c = ended (Except.map _ (Except.map _ (Reader.take 1 c.rest))) ∧
    ∀ n rest, Except.map _ (Reader.take 1 c.rest) = .ok (n, rest) → _
  rw [Addressed.u1, head]
  cases rest : c.rest with
  | nil => exact ⟨rfl, nofun⟩
  | cons b after =>
    have one : Reader.take 1 (b :: after) = .ok ([b], after) := by simp [Reader.take_eq]
    rw [rest, List.length_cons] at left
    rw [one]
    constructor
    · dsimp only [List.head?_cons]
      rw [word_of_lt (by omega), pure_bind]
      have position : c.position + 1 = c.bytes.length - after.length := by omega
      show ended (.ok (b.toNat, { c with position := c.position + 1 })) =
        ended (.ok (Bytes.toNat [b], c.leaving after))
      rw [position]
      simp [Bytes.toNat, Cursor.leaving]
    · intro n last read
      cases read
      exact ⟨List.suffix_cons b after, Bytes.toNat_lt rfl⟩

theorem u2 : Refines u2 Reader.u2 (· < 2 ^ 16) := by
  rw [Reader.u2, map_eq_pure_bind]
  refine (take 2).bind fun part length => ?_
  obtain ⟨a, b, rfl⟩ := List.length_eq_two.1 length
  exact pure (Bytes.toNat_lt length)

theorem u4 : Refines u4 Reader.u4 (· < 2 ^ 32) := by
  rw [Reader.u4, map_eq_pure_bind]
  refine (take 4).bind fun part length => ?_
  obtain ⟨a, b, c, d, rfl⟩ := List.length_eq_four.1 length
  exact pure (Bytes.toNat_lt length)

theorem u8 : Refines u8 Reader.u8 fun _ => True := by
  rw [Reader.u8_eq]
  refine u4.bind fun high highFits => u4.bind fun low lowFits => ?_
  have shifted : high <<< 32 < 2 ^ 64 := by
    rw [Nat.shiftLeft_eq]
    omega
  rw [word_of_lt shifted, pure_bind, shiftLeft_or lowFits]
  exact pure trivial

theorem times {run : CursorReader α} {r : Reader α} {P : α → Prop} (each : Refines run r P)
    (n : Nat) : Refines (times n run) (Reader.times n r) fun as => ∀ a ∈ as, P a := by
  induction n with
  | zero => exact pure nofun
  | succ n ih =>
    refine each.bind fun a given => ih.bind fun as later => pure ?_
    exact List.forall_mem_cons.2 ⟨given, later⟩

theorem table {run : CursorReader α} {r : Reader α} {P : α → Prop} (each : Refines run r P) :
    Refines (table run) (Reader.table r) fun as => ∀ a ∈ as, P a :=
  u2.bind fun n _ => each.times n

/-- To the end of bytes that fit in memory. -/
theorem all {run : CursorReader α} {r : Reader α} {P : α → Prop} (refines : Refines run r P)
    (leftover : ClassFileError) {bytes : Bytes} (fits : bytes.length < 2 ^ 63) :
    all leftover run bytes = ended (Reader.all leftover r bytes) ∧
      ∀ a, Reader.all leftover r bytes = .ok a → P a := by
  obtain ⟨same, holds⟩ := refines ⟨bytes, 0⟩ (Cursor.valid_start fits)
  rw [Cursor.rest_start] at same holds
  rw [Addressed.all, same, Reader.all]
  cases read : r bytes with
  | error e =>
    refine ⟨rfl, fun b same => ?_⟩
    cases same
  | ok p =>
    obtain ⟨a, rest⟩ := p
    obtain ⟨suffix, given⟩ := holds a rest read
    have shorter := suffix.length_le
    show (if bytes.length - rest.length = bytes.length then Pure.pure a
      else MonadExcept.throw leftover) = _ ∧ _
    cases rest with
    | nil =>
      refine ⟨if_pos rfl, fun b same => ?_⟩
      cases same
      exact given
    | cons b rest =>
      rw [List.length_cons] at shorter
      refine ⟨if_neg (by rw [List.length_cons]; omega), fun c same => ?_⟩
      cases same

end Refines
end Addressed
end Linkage
