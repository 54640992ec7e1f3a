import Linkage.Classpath.Location
import Linkage.Classpath.MultiRelease
import Linkage.Data.InsertionMap

/-!
Artifacts: named units of a classpath with the locations of their classes. An artifact is loaded
from a directory of class files or from an archive.
-/
namespace Linkage

/-- A named unit of a classpath. -/
structure Artifact where
  name : String
  classes : InsertionMap ClassName ClassLocation
  deriving DecidableEq

namespace Artifact

/-- The release that is assumed to run when nothing says which. -/
def defaultRelease : Nat := 17

/-- The artifact without classes. -/
def empty (name : String) : Artifact := ⟨name, .empty⟩

/-- Whether a path looks like a directory for compiler output: it is called `classes`, or it has no
extension and lies two levels below one that is. -/
def isOutputDirectory (path : Path) : Bool :=
  path.fileName? == some "classes" ||
    (path.extension?.isNone &&
      ((path.parent?.bind Path.parent?).bind Path.fileName?) == some "classes")

/-- Whether a path has an extension, in upper or lower case. -/
def hasExtension (path : Path) (extension : String) : Bool :=
  match path.extension? with
  | some found => Text.sameIgnoringAsciiCase found extension
  | none => false

/-- The path of a file, by the names that lead to it, if it is the file of a class. -/
def classFile? (names : List String) : Option String := do
  let name ← names.getLast?
  guard ((Path.splitExtension name).2 == some "class")
  let relative := Text.join "/" names
  guard !MultiRelease.isPseudoClass relative
  return relative

/-- The class of a class file in a directory, and where it is. -/
def classInDirectory (root : Path) (relative : String) :
    Except ClasspathError (ClassName × ClassLocation) := do
  let name ← ClasspathError.ofSymbol (ClassName.ofFileName relative)
  return (name, .directory name root relative)

/-- The class files in a directory and below. -/
def classesInDirectory (fs : FileSystem) (root : Path) :
    Except ClasspathError (InsertionMap ClassName ClassLocation) := do
  let files ← ClasspathError.ofFile root (fs.filesBelow root)
  let entries ← (files.filterMap classFile?).mapM (classInDirectory root)
  return InsertionMap.ofList entries

/-- The class files in an archive that count when `release` runs. -/
def classesInArchive (fs : FileSystem) (release : Nat) (path : Path) :
    Except ClasspathError (InsertionMap ClassName ClassLocation) := do
  match ← ClasspathError.ofFile path (fs.openArchive path) with
  | .error cause => throw (.badArchive path cause)
  | .ok archive =>
    let names := archive.entries.map Zip.Entry.name
    let selected ← ClasspathError.ofSymbol (MultiRelease.select release names)
    return InsertionMap.ofList (selected.toList.map fun (name, entry) =>
      (name, ClassLocation.archive name path entry))

/-- Loads the artifact at a path. A directory for compiler output need not exist, and a file that is
no archive by its name has no classes. -/
def load (fs : FileSystem) (release : Nat) (name : String) (path : Path) :
    Except ClasspathError Artifact := do
  if !fs.exists? path then
    if isOutputDirectory path then return empty name
    throw (.missingEntry path)
  if fs.isDirectory path then return ⟨name, ← classesInDirectory fs path⟩
  if hasExtension path "jar" || hasExtension path "zip" then
    return ⟨name, ← classesInArchive fs release path⟩
  return empty name

end Artifact
end Linkage
