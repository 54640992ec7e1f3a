import Linkage.Archive.Checksum
import Linkage.Archive.Inflate
import Linkage.Text.CodePage

/-!
Zip archives, read from their bytes. The record at the end of an archive says where its directory
is, and the directory says where the entries are; bytes in front of the archive do not count.
-/
namespace Linkage.Zip

/-- What keeps bytes from being an archive, or an entry from being found in it. -/
inductive Fault where
  | tooShort
  | noEndRecord
  | severalDisks
  | misplacedDirectory
  | badDirectory
  | badHeader
  | encrypted
  | unknownMethod
  | cutShort
  deriving DecidableEq, Repr

/-- The message of an unusable archive. -/
def Fault.message : Fault → String
  | .tooShort => "invalid Zip archive: Invalid zip header"
  | .noEndRecord => "invalid Zip archive: Could not find central directory end"
  | .severalDisks => "unsupported Zip archive: Support for multi-disk files is not implemented"
  | .misplacedDirectory => "invalid Zip archive: Invalid central directory size or offset"
  | .badDirectory => "invalid Zip archive: Invalid Central Directory header"
  | .badHeader => "invalid Zip archive: Invalid local file header"
  | .encrypted => "unsupported Zip archive: Password required to decrypt file"
  | .unknownMethod => "unsupported Zip archive: Compression method not supported"
  | .cutShort => "failed to fill whole buffer"

/-- What keeps the contents of an entry from being used. -/
inductive Damage where
  | badChecksum
  | badCompression
  deriving DecidableEq, Repr

/-- The message of unusable contents. -/
def Damage.message : Damage → String
  | .badChecksum => "Invalid checksum"
  | .badCompression => "corrupt deflate stream"

/-- The number of `count` bytes at an offset, the lowest first. -/
def number? (data : Array UInt8) (offset : Nat) : Nat → Option Nat
  | 0 => some 0
  | count + 1 => do return (← data[offset]?).toNat + 256 * (← number? data (offset + 1) count)

/-- The number of `count` bytes at an offset, which must be there. -/
def number (data : Array UInt8) (offset count : Nat) : Except Fault Nat :=
  match number? data offset count with
  | some n => .ok n
  | none => .error .cutShort

/-- The bytes between two offsets, which must be there. -/
def slice (data : Array UInt8) (start stop : Nat) : Except Fault (Array UInt8) :=
  if start ≤ stop ∧ stop ≤ data.size then .ok (data.extract start stop) else .error .cutShort

/-- The mark of the record that an archive ends with. -/
def endMark : Nat := 0x06054b50

/-- The mark of an entry of the directory. -/
def entryMark : Nat := 0x02014b50

/-- The mark of an entry itself. -/
def headerMark : Nat := 0x04034b50

/-- The size of the record that an archive ends with, without a comment. -/
def endSize : Nat := 22

/-- The number of bytes that a comment has at most. -/
def commentLimit : Nat := 0xFFFF

/-- The last place at or before an offset, but not before `least`, that has the mark of the end
record. -/
def markBefore? (data : Array UInt8) (least : Nat) : Nat → Option Nat
  | 0 => if least = 0 ∧ number? data 0 4 = some endMark then some 0 else none
  | offset + 1 =>
    if offset + 1 < least then none
    else if number? data (offset + 1) 4 = some endMark then some (offset + 1)
    else markBefore? data least offset

/-- The offset of the record that an archive ends with. -/
def endRecord (data : Array UInt8) : Except Fault Nat :=
  if data.size < endSize then .error .tooShort
  else
    match markBefore? data (data.size - endSize - commentLimit) (data.size - endSize) with
    | some offset => .ok offset
    | none => .error .noEndRecord

/-- An entry of the directory: what it is called, how its contents are stored, and where it is. -/
structure Entry where
  name : String
  encrypted : Bool
  method : Nat
  checksum : Nat
  storedSize : Nat
  header : Nat
  deriving DecidableEq, Repr

/-- A name. It is in UTF-8 if the archive says so, and in the code page of the first archives
otherwise. -/
def nameOf (isUtf8 : Bool) (bytes : Array UInt8) : String :=
  match if isUtf8 then String.fromUTF8? ⟨bytes⟩ else none with
  | some name => name
  | none => String.ofList (bytes.toList.map Text.ofCodePage)

/-- The entries of a directory from an offset on. Their own offsets count from `start`. -/
def entriesFrom (data : Array UInt8) (start offset : Nat) : Nat → Except Fault (List Entry)
  | 0 => .ok []
  | count + 1 => do
    if (← number data offset 4) ≠ entryMark then throw .badDirectory
    let flags ← number data (offset + 8) 2
    let method ← number data (offset + 10) 2
    let checksum ← number data (offset + 16) 4
    let storedSize ← number data (offset + 20) 4
    let nameSize ← number data (offset + 28) 2
    let extraSize ← number data (offset + 30) 2
    let commentSize ← number data (offset + 32) 2
    let header ← number data (offset + 42) 4
    let next := offset + 46 + nameSize + extraSize + commentSize
    discard (slice data offset next)
    let name := nameOf (flags.testBit 11) (← slice data (offset + 46) (offset + 46 + nameSize))
    let entry : Entry :=
      { name, encrypted := flags.testBit 0, method, checksum, storedSize, header := start + header }
    return entry :: (← entriesFrom data start next count)

/-- An archive: its bytes and the entries of its directory, in order. -/
structure Archive where
  data : Array UInt8
  entries : List Entry
  deriving DecidableEq, Repr

namespace Archive

/-- The archive that bytes are. -/
def ofBytes (bytes : Bytes) : Except Fault Archive := do
  let data := bytes.toArray
  let record ← endRecord data
  let disk ← number data (record + 4) 2
  let directoryDisk ← number data (record + 6) 2
  let count ← number data (record + 8) 2
  let size ← number data (record + 12) 4
  let offset ← number data (record + 16) 4
  let commentSize ← number data (record + 20) 2
  discard (slice data record (record + endSize + commentSize))
  if disk ≠ directoryDisk then throw .severalDisks
  if record < size + offset then throw .misplacedDirectory
  return ⟨data, ← entriesFrom data (record - size - offset) (record - size) count⟩

/-- The entry of a name; of several the last. -/
def named? (a : Archive) (name : String) : Option Entry :=
  (a.entries.filter fun e => e.name = name).getLast?

/-- How the contents of an entry are stored. -/
inductive Storage where
  | plain
  | deflated
  deriving DecidableEq, Repr

/-- The stored bytes of an entry, and how they are stored. -/
def stored (a : Archive) (e : Entry) : Except Fault (Storage × Array UInt8) := do
  if e.encrypted then throw .encrypted
  if (← number a.data e.header 4) ≠ headerMark then throw .badHeader
  let start := e.header + 30 + (← number a.data (e.header + 26) 2)
    + (← number a.data (e.header + 28) 2)
  let bytes := a.data.extract start (start + e.storedSize)
  match e.method with
  | 0 => return (.plain, bytes)
  | 8 => return (.deflated, bytes)
  | _ => throw .unknownMethod

/-- The contents of an entry that are stored in a way. They must have the checksum of the entry. -/
def contents (e : Entry) : Storage × Array UInt8 → Except Damage Bytes
  | (storage, bytes) => do
    let contents ← match storage with
      | .plain => pure bytes.toList
      | .deflated =>
        match Inflate.inflate? bytes with
        | some bytes => pure bytes.toList
        | none => throw .badCompression
    if (crc32 contents).toNat ≠ e.checksum then throw .badChecksum
    return contents

end Archive
end Linkage.Zip
