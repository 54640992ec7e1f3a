import Mathlib.Algebra.GroupWithZero.Nat
import Mathlib.Data.List.Forall2
import Linkage.ClassFile.Bytes

/-!
Readers and the bytes they take. A reader reads a value off some bytes if it takes just these bytes
off the front of whatever they stand in front of (`Reader.Reads`). Readers in a row read what was
written in a row, so the laws here follow a layout part by part.
-/
namespace Linkage
namespace Bytes

theorem toNat_ofNat2 (n : Nat) : toNat (ofNat2 n) = n % 2 ^ 16 := by
  simp only [toNat, ofNat2, List.foldl_cons, List.foldl_nil, UInt8.toNat_ofNat']
  omega

theorem toNat_ofNat4 (n : Nat) : toNat (ofNat4 n) = n % 2 ^ 32 := by
  simp only [toNat, ofNat4, List.foldl_cons, List.foldl_nil, UInt8.toNat_ofNat']
  omega

theorem toNat_ofNat8 (n : Nat) : toNat (ofNat4 (n / 2 ^ 32) ++ ofNat4 n) = n % 2 ^ 64 := by
  simp only [toNat, ofNat4, List.cons_append, List.nil_append, List.foldl_cons, List.foldl_nil,
    UInt8.toNat_ofNat']
  omega

@[simp] theorem length_ofNat2 (n : Nat) : (ofNat2 n).length = 2 := rfl

@[simp] theorem length_ofNat4 (n : Nat) : (ofNat4 n).length = 4 := rfl

end Bytes

namespace Reader
variable {α β : Type}

/-- A reader takes a value off some bytes, whatever follows them. -/
def Reads (r : Reader α) (bytes : Bytes) (a : α) : Prop :=
  ∀ rest, r (bytes ++ rest) = .ok (a, rest)

namespace Reads

theorem pure (a : α) : Reads (pure a) [] a := fun _ => rfl

theorem bind {r : Reader α} {f : α → Reader β} {front back : Bytes} {a : α} {b : β}
    (first : Reads r front a) (second : Reads (f a) back b) : Reads (r >>= f) (front ++ back) b := by
  intro rest
  show (r (front ++ back ++ rest) >>= fun p => f p.1 p.2) = _
  rw [List.append_assoc, first]
  exact second rest

/-- The last reader of a row. -/
theorem map {r : Reader α} {f : α → β} {bytes : Bytes} {a : α} (reads : Reads r bytes a) :
    Reads (r >>= fun a => Pure.pure (f a)) bytes (f a) := by
  have both : Reads (r >>= fun a => Pure.pure (f a)) (bytes ++ []) (f a) := reads.bind (pure (f a))
  rwa [List.append_nil] at both

/-- A step that takes nothing. -/
theorem lift {x : Except ClassFileError α} {a : α} (given : x = .ok a) :
    Reads (liftM x : Reader α) [] a := by
  subst given
  exact pure a

theorem lift_bind {x : Except ClassFileError α} {f : α → Reader β} {bytes : Bytes} {a : α} {b : β}
    (given : x = .ok a) (second : Reads (f a) bytes b) : Reads (liftM x >>= f) bytes b :=
  (lift given).bind second

theorem take {bytes : Bytes} {n : Nat} (length : bytes.length = n) :
    Reads (Reader.take n) bytes bytes := by
  intro rest
  subst length
  simp [Reader.take]

private theorem number {bytes : Bytes} {n value : Nat} (length : bytes.length = n)
    (denotes : Bytes.toNat bytes = value) : Reads (Bytes.toNat <$> Reader.take n) bytes value := by
  rw [map_eq_pure_bind, ← denotes]
  exact (take length).map

theorem u1 (b : UInt8) : Reads Reader.u1 [b] b.toNat := number rfl (by simp [Bytes.toNat])

theorem u2 (n : Nat) : Reads Reader.u2 (Bytes.ofNat2 n) (n % 2 ^ 16) :=
  number rfl (Bytes.toNat_ofNat2 n)

theorem u2_pair (high low : UInt8) :
    Reads Reader.u2 [high, low] (high.toNat * 256 + low.toNat) := number rfl (by simp [Bytes.toNat])

theorem u4 (n : Nat) : Reads Reader.u4 (Bytes.ofNat4 n) (n % 2 ^ 32) :=
  number rfl (Bytes.toNat_ofNat4 n)

theorem u8 (n : Nat) :
    Reads Reader.u8 (Bytes.ofNat4 (n / 2 ^ 32) ++ Bytes.ofNat4 n) (n % 2 ^ 64) :=
  number rfl (Bytes.toNat_ofNat8 n)

/-- A number that fits in two bytes. -/
theorem u2_of_lt {n : Nat} (fits : n < 2 ^ 16) : Reads Reader.u2 (Bytes.ofNat2 n) n := by
  have reads := u2 n
  rwa [Nat.mod_eq_of_lt fits] at reads

/-- A number that fits in four bytes. -/
theorem u4_of_lt {n : Nat} (fits : n < 2 ^ 32) : Reads Reader.u4 (Bytes.ofNat4 n) n := by
  have reads := u4 n
  rwa [Nat.mod_eq_of_lt fits] at reads

theorem times {r : Reader β} {item : α → Bytes} {as : List α} {bs : List β}
    (each : List.Forall₂ (fun a b => Reads r (item a) b) as bs) :
    Reads (Reader.times as.length r) (as.flatMap item) bs := by
  induction each with
  | nil => exact pure []
  | cons first _ ih => exact first.bind ih.map

/-- A table, item by item. -/
theorem table {r : Reader β} {item : α → Bytes} {as : List α} {bs : List β}
    (fits : as.length < 2 ^ 16) (each : List.Forall₂ (fun a b => Reads r (item a) b) as bs) :
    Reads (Reader.table r) (Bytes.ofNat2 as.length ++ as.flatMap item) bs :=
  (u2_of_lt fits).bind (times each)

theorem all {r : Reader α} {bytes : Bytes} {a : α} (leftover : ClassFileError)
    (reads : Reads r bytes a) : Reader.all leftover r bytes = .ok a := by
  have whole := reads []
  rw [List.append_nil] at whole
  simp [Reader.all, whole]

end Reads
end Reader
end Linkage
