import Linkage.ClassFile.Bytes
import Linkage.Text.Utf16

/-!
The text encoding of class files. Each UTF-16 code unit is written by itself in one to three bytes,
so a character above U+FFFF takes two groups, and NUL takes two bytes, so no zero byte occurs.
-/
namespace Linkage.ModifiedUtf8

/-- The bytes of a code unit. -/
def encodeUnit (u : UInt16) : Bytes :=
  let n := u.toNat
  if 1 ≤ n ∧ n < 0x80 then [UInt8.ofNat n]
  else if n < 0x800 then [UInt8.ofNat (0xC0 + n / 0x40), UInt8.ofNat (0x80 + n % 0x40)]
  else [UInt8.ofNat (0xE0 + n / 0x1000), UInt8.ofNat (0x80 + n / 0x40 % 0x40),
    UInt8.ofNat (0x80 + n % 0x40)]

/-- The bytes of a list of code units. -/
def encodeUnits (units : List UInt16) : Bytes := units.flatMap encodeUnit

/-- The bytes of a text. -/
def encode (text : String) : Bytes := encodeUnits (Utf16.encode text.toList)

/-- The six bits of a continuation byte. -/
def continuation? (b : UInt8) : Option Nat :=
  if 0x80 ≤ b.toNat ∧ b.toNat < 0xC0 then some (b.toNat - 0x80) else none

/-- The code units that a byte string spells, group by group. -/
def decodeUnits? : Bytes → Option (List UInt16)
  | [] => some []
  | a :: rest =>
    if 1 ≤ a.toNat ∧ a.toNat < 0x80 then do
      return UInt16.ofNat a.toNat :: (← decodeUnits? rest)
    else if 0xC0 ≤ a.toNat ∧ a.toNat < 0xE0 then
      match rest with
      | b :: rest => do
        let low ← continuation? b
        return UInt16.ofNat ((a.toNat - 0xC0) * 0x40 + low) :: (← decodeUnits? rest)
      | [] => none
    else if 0xE0 ≤ a.toNat ∧ a.toNat < 0xF0 then
      match rest with
      | b :: c :: rest => do
        let middle ← continuation? b
        let low ← continuation? c
        return UInt16.ofNat ((a.toNat - 0xE0) * 0x1000 + middle * 0x40 + low) ::
          (← decodeUnits? rest)
      | _ => none
    else none

/-- Whether every byte is an ASCII character other than NUL. -/
def isPlain (bytes : Bytes) : Bool := bytes.all fun b => b ≠ 0 && b.toNat < 0x80

/-- The text of a byte string. Plain ASCII, which nearly every name is, is taken byte by byte. -/
def decode? (bytes : Bytes) : Option String :=
  if isPlain bytes then some (String.ofList (bytes.map fun b => Char.ofNat b.toNat))
  else (decodeUnits? bytes).map fun units => String.ofList (Utf16.decode units)

end Linkage.ModifiedUtf8
