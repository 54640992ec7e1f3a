import Linkage.ClassFile.Error

/-!
Byte strings, the big-endian numbers in them, and readers that take values off their front.
-/
namespace Linkage

/-- A byte string. -/
abbrev Bytes := List UInt8

namespace Bytes

/-- The number that a byte string denotes, most significant byte first. -/
def toNat (bytes : Bytes) : Nat := bytes.foldl (fun value b => value * 256 + b.toNat) 0

/-- A number in two bytes, without what exceeds them. -/
def ofNat2 (n : Nat) : Bytes := [UInt8.ofNat (n / 0x100), UInt8.ofNat n]

/-- A number in four bytes, without what exceeds them. -/
def ofNat4 (n : Nat) : Bytes :=
  [UInt8.ofNat (n / 0x1000000), UInt8.ofNat (n / 0x10000), UInt8.ofNat (n / 0x100), UInt8.ofNat n]

end Bytes

/-- A reader takes a value off the front of a byte string, or fails. -/
abbrev Reader := StateT Bytes (Except ClassFileError)

namespace Reader
universe u

/-- The next `n` bytes. -/
def take (n : Nat) : Reader Bytes := fun bytes =>
  let (front, rest) := bytes.splitAt n
  if front.length = n then .ok (front, rest) else .error .unexpectedEnd

/-- The number in the next byte. -/
def u1 : Reader Nat := Bytes.toNat <$> take 1

/-- The number in the next two bytes. -/
def u2 : Reader Nat := Bytes.toNat <$> take 2

/-- The number in the next four bytes. -/
def u4 : Reader Nat := Bytes.toNat <$> take 4

/-- The number in the next eight bytes. -/
def u8 : Reader Nat := Bytes.toNat <$> take 8

/-- What a reader takes `n` times in a row. -/
def times {α : Type} (n : Nat) (r : Reader α) : Reader (List α) :=
  match n with
  | 0 => pure []
  | n + 1 => do
    let a ← r
    return a :: (← times n r)

/-- A table: a two-byte count, then so many items. -/
def table {α : Type} (item : Reader α) : Reader (List α) := do times (← u2) item

/-- Reads a byte string to its end; bytes left over are the given error. -/
def all {α : Type} (leftover : ClassFileError) (r : Reader α) (bytes : Bytes) :
    Except ClassFileError α :=
  match r bytes with
  | .ok (a, []) => .ok a
  | .ok (_, _ :: _) => .error leftover
  | .error e => .error e

end Reader
end Linkage
