import Linkage.Archive.Zip
import Linkage.Classpath.Path
import Linkage.Data.SortedMap

/-!
A file system as a value: what stands at each absolute path. Looking a path up follows links, at
most forty of them, and a path of 4096 bytes or more is not looked up at all.
-/
namespace Linkage

/-- What stands at a path. -/
inductive Node where
  | directory
  | file (bytes : Bytes)
  | link (target : Path)
  deriving DecidableEq, Repr

/-- Why a file cannot be used. -/
inductive FileError where
  | notFound
  | notDirectory
  | isDirectory
  | tooManyLinks
  | tooLong
  | notText
  | damaged (cause : Zip.Damage)
  deriving DecidableEq, Repr

/-- The message of a file that cannot be used. -/
def FileError.message : FileError → String
  | .notFound => "No such file or directory (os error 2)"
  | .notDirectory => "Not a directory (os error 20)"
  | .isDirectory => "Is a directory (os error 21)"
  | .tooManyLinks => "Too many levels of symbolic links (os error 40)"
  | .tooLong => "File name too long (os error 36)"
  | .notText => "stream did not contain valid UTF-8"
  | .damaged cause => cause.message

/-- Why a file cannot be used as an archive. -/
inductive ArchiveError where
  | faulty (fault : Zip.Fault)
  | unreadable (cause : FileError)
  deriving DecidableEq, Repr

namespace ArchiveError

/-- The message of a file that cannot be used as an archive. -/
def message : ArchiveError → String
  | .faulty fault => fault.message
  | .unreadable cause => cause.message

/-- The messages of an error and of what lies behind it. Behind what cannot be read is the file. -/
def chain (e : ArchiveError) : List String :=
  match e with
  | .faulty .cutShort => [e.message, e.message]
  | .faulty _ => [e.message]
  | .unreadable cause => [e.message, cause.message]

end ArchiveError

/-- A file system with a working directory. Absolute paths are lists of names. -/
structure FileSystem where
  workingDirectory : List String
  nodes : SortedMap (List String) Node
  deriving DecidableEq

namespace FileSystem

/-- A file system with nothing but the working directory. -/
def empty (workingDirectory : List String) : FileSystem := ⟨workingDirectory, .empty⟩

/-- What stands at an absolute path. The working directory and what it lies in are always there. -/
def node? (fs : FileSystem) (place : List String) : Option Node :=
  if place.isPrefixOf fs.workingDirectory then some .directory else fs.nodes.get? place

/-- The place that names lead to from a directory, through at most `links` links. -/
def follow (fs : FileSystem) (links : Nat) (place : List String) :
    List String → Except FileError (List String)
  | [] => .ok place
  | name :: rest =>
    if Path.isVoid name then fs.follow links place rest
    else if name = ".." then fs.follow links place.dropLast rest
    else
      match fs.node? (place ++ [name]) with
      | none => .error .notFound
      | some .directory => fs.follow links (place ++ [name]) rest
      | some (.link target) =>
        match links with
        | 0 => .error .tooManyLinks
        | links + 1 =>
          fs.follow links (if target.isAbsolute then [] else place) (target.segments ++ rest)
      | some (.file _) => if rest.isEmpty then .ok (place ++ [name]) else .error .notDirectory
termination_by names => (links, names.length)

/-- The number of links that a path may lead through. -/
def linkLimit : Nat := 40

/-- The number of bytes from which on a path is too long to be followed. -/
def pathLimit : Nat := 4096

/-- Where a path starts. -/
def start (fs : FileSystem) (p : Path) : List String :=
  if p.isAbsolute then [] else fs.workingDirectory

/-- The place of what a path leads to. -/
def locate (fs : FileSystem) (p : Path) : Except FileError (List String) :=
  if p.text == "" then .error .notFound
  else if pathLimit ≤ p.text.utf8ByteSize then .error .tooLong
  else fs.follow linkLimit (fs.start p) p.segments

/-- What a path leads to. -/
def find (fs : FileSystem) (p : Path) : Except FileError Node := do
  match fs.node? (← fs.locate p) with
  | some node => return node
  | none => throw .notFound

/-- Whether a path leads to anything. -/
def exists? (fs : FileSystem) (p : Path) : Bool := (fs.find p).isOk

/-- Whether a path leads to a directory. -/
def isDirectory (fs : FileSystem) (p : Path) : Bool :=
  match fs.find p with
  | .ok .directory => true
  | _ => false

/-- Whether a path leads to a file. -/
def isFile (fs : FileSystem) (p : Path) : Bool :=
  match fs.find p with
  | .ok (.file _) => true
  | _ => false

/-- The bytes of the file at a path. -/
def read (fs : FileSystem) (p : Path) : Except FileError Bytes := do
  match ← fs.find p with
  | .file bytes => return bytes
  | _ => throw .isDirectory

/-- The text of the file at a path. -/
def readText (fs : FileSystem) (p : Path) : Except FileError String := do
  match String.fromUTF8? ⟨(← fs.read p).toArray⟩ with
  | some text => return text
  | none => throw .notText

/-- The archive at a path, or why it is none; a path that leads nowhere fails. -/
def openArchive (fs : FileSystem) (p : Path) :
    Except FileError (Except ArchiveError Zip.Archive) := do
  match ← fs.find p with
  | .file bytes =>
    match Zip.Archive.ofBytes bytes with
    | .ok archive => return .ok archive
    | .error fault => return .error (.faulty fault)
  | _ => return .error (.unreadable .isDirectory)

/-- The absolute path of what a path leads to, without links. -/
def canonical (fs : FileSystem) (p : Path) : Except FileError Path := do
  return ⟨"/" ++ Text.join "/" (← fs.locate p)⟩

/-- The names in the directory at a path, ascending. -/
def list (fs : FileSystem) (p : Path) : Except FileError (List String) := do
  let place ← fs.locate p
  match fs.node? place with
  | some .directory =>
    let inside := fs.nodes.keys.filter fun k => k.dropLast = place && k ≠ place
    return inside.filterMap List.getLast?
  | some _ => throw .notDirectory
  | none => throw .notFound

/-- The files below the directory at a path, each with the names that lead to it. A directory is
listed name by name in ascending order, and links are not followed. -/
def filesBelow (fs : FileSystem) (p : Path) : Except FileError (List (List String)) := do
  let place ← fs.locate p
  let files := fs.nodes.toList.filter fun e =>
    match e.2 with
    | .file _ => true
    | _ => false
  return files.filterMap fun e =>
    if place.isPrefixOf e.1 then some (e.1.drop place.length) else none

/-- Creates the directories that names lead through from a place, as far as they are missing. -/
def makeDirectories (fs : FileSystem) (place : List String) :
    List String → Except FileError (FileSystem × List String)
  | [] => .ok (fs, place)
  | name :: rest => do
    match fs.follow linkLimit place [name] with
    | .ok next => fs.makeDirectories next rest
    | .error .notFound =>
      let next := place ++ [name]
      FileSystem.makeDirectories { fs with nodes := fs.nodes.insert next .directory } next rest
    | .error e => throw e

/-- Creates the directory at a path, with those that it lies in. -/
def createDirectory (fs : FileSystem) (p : Path) : Except FileError FileSystem := do
  return (← fs.makeDirectories (fs.start p) p.components).1

/-- Where a file that is written under a name in a directory is put. A link of that name is
followed, also to where nothing is yet. -/
def destination (fs : FileSystem) (links : Nat) (parent : List String) (name : String) :
    List String :=
  match fs.node? (parent ++ [name]), links with
  | some (.link target), links + 1 =>
    let directory := fs.follow links (if target.isAbsolute then [] else parent)
      target.components.dropLast
    match directory, target.components.getLast? with
    | .ok directory, some name => fs.destination links directory name
    | _, _ => parent ++ [name]
  | _, _ => parent ++ [name]

/-- Puts something at a path, or where `place` says for the directory and the name there. The
directories that the path lies in are created. -/
def put (fs : FileSystem) (p : Path) (node : Node)
    (place : FileSystem → List String → String → List String) : Except FileError FileSystem := do
  match p.components.getLast? with
  | none => throw .isDirectory
  | some name =>
    let (fs, parent) ← fs.makeDirectories (fs.start p) p.components.dropLast
    return { fs with nodes := fs.nodes.insert (place fs parent name) node }

/-- Writes a file. -/
def writeFile (fs : FileSystem) (p : Path) (bytes : Bytes) : Except FileError FileSystem :=
  fs.put p (.file bytes) fun fs parent name => fs.destination linkLimit parent name

/-- Makes a link. -/
def writeLink (fs : FileSystem) (p target : Path) : Except FileError FileSystem :=
  fs.put p (.link target) fun _ parent name => parent ++ [name]

/-- Takes away what stands at a path, a directory with all that lies below. A link is taken away
itself. -/
def remove (fs : FileSystem) (p : Path) : Except FileError FileSystem := do
  match p.components.getLast? with
  | none => throw .notFound
  | some name =>
    let parent ← fs.follow linkLimit (fs.start p) p.components.dropLast
    let place := parent ++ [name]
    return { fs with nodes := fs.nodes.filter fun e => !place.isPrefixOf e.1 }

end FileSystem
end Linkage
