import Linkage.ClassFile.Bytes

/-!
The checksum CRC-32: the remainder of a byte string, taken as a polynomial with the lowest bits
first.
-/
namespace Linkage

/-- A remainder after one more bit. -/
def crcBit (r : UInt32) : UInt32 := if r &&& 1 = 1 then (r >>> 1) ^^^ 0xEDB88320 else r >>> 1

/-- A remainder after one more byte. -/
def crcByte (r : UInt32) (b : UInt8) : UInt32 := Nat.repeat crcBit 8 (r ^^^ b.toUInt32)

/-- The checksum of a byte string. -/
def crc32 (bytes : Bytes) : UInt32 := bytes.foldl crcByte 0xFFFFFFFF ^^^ 0xFFFFFFFF

end Linkage
