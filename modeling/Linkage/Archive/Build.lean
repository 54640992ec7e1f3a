import Linkage.Archive.Zip

/-!
Building zip archives. The contents of all entries are stored as they are.
-/
namespace Linkage.Zip

/-- A number in so many bytes, the lowest first. -/
def little (n : Nat) : Nat → Bytes
  | 0 => []
  | count + 1 => UInt8.ofNat n :: little (n / 256) count

/-- An entry to be built: a name and contents. -/
abbrev Source := String × Bytes

/-- What the header of an entry and its place in the directory have in common: a version, flags, a
method, a date, the checksum, the sizes of the contents and of the name, and no extras. -/
def description (source : Source) : Bytes :=
  let name := source.1.toUTF8
  let flags := if source.1.toList.all fun c => c.toNat < 0x80 then 0 else 0x800
  little 20 2 ++ little flags 2 ++ little 0 2 ++ little 0 2 ++ little 0x21 2 ++
    little (crc32 source.2).toNat 4 ++ little source.2.length 4 ++ little source.2.length 4 ++
    little name.size 2 ++ little 0 2

/-- An entry itself. -/
def localRecord (source : Source) : Bytes :=
  little headerMark 4 ++ description source ++ source.1.toUTF8.toList ++ source.2

/-- What is in an archive are files that everyone may read and the owner may change. -/
def attributes : Nat := 0o100644 * 0x10000

/-- The place in the directory of an entry at an offset. -/
def directoryRecord (source : Source) (offset : Nat) : Bytes :=
  little entryMark 4 ++ little 0x032E 2 ++ description source ++ little 0 2 ++ little 0 2 ++
    little 0 2 ++ little attributes 4 ++ little offset 4 ++ source.1.toUTF8.toList

/-- The record that an archive ends with. -/
def endRecordOf (count size offset : Nat) : Bytes :=
  little endMark 4 ++ little 0 2 ++ little 0 2 ++ little count 2 ++ little count 2 ++
    little size 4 ++ little offset 4 ++ little 0 2

/-- The entries and the directory of an archive from an offset on. -/
def records (offset : Nat) : List Source → Bytes × Bytes
  | [] => ([], [])
  | source :: rest =>
    let entry := localRecord source
    let (entries, directory) := records (offset + entry.length) rest
    (entry ++ entries, directoryRecord source offset ++ directory)

/-- The archive with some entries, behind bytes that do not belong to it. -/
def build (lead : Bytes) (sources : List Source) : Bytes :=
  let (entries, directory) := records lead.length sources
  lead ++ entries ++ directory ++
    endRecordOf sources.length directory.length (lead.length + entries.length)

/-- The bytes in front of the archive that a module is. -/
def moduleLead : Bytes := [0x4A, 0x4D, 0x01, 0x00]

end Linkage.Zip
