import Linkage.Classpath.Error
import Linkage.Symbol.ClassName

/-!
Where the class file of a class is found: in a directory, in an archive or in a module of the JDK.
-/
namespace Linkage

/-- The place of a class file. -/
inductive ClassLocation where
  | directory (name : ClassName) (root : Path) (relative : String)
  | archive (name : ClassName) (file : Path) (entry : String)
  | platform (name : ClassName) (module : String) (file : Path) (entry : String)
  deriving DecidableEq, Repr

/-- What tells locations apart: paths that differ only in what says nothing are the same. -/
structure LocationKey where
  kind : Nat
  name : ClassName
  module : String
  absolute : Bool
  path : List String
  entry : String
  deriving DecidableEq, Repr

namespace ClassLocation

/-- The class that is located. -/
def className : ClassLocation → ClassName
  | .directory name _ _ => name
  | .archive name _ _ => name
  | .platform name _ _ _ => name

/-- What tells a location apart from others. -/
def key : ClassLocation → LocationKey
  | .directory name root relative => ⟨0, name, "", root.isAbsolute, root.components, relative⟩
  | .archive name file entry => ⟨1, name, "", file.isAbsolute, file.components, entry⟩
  | .platform name module file entry => ⟨2, name, module, file.isAbsolute, file.components, entry⟩

/-- The form for readers. -/
def display : ClassLocation → String
  | .directory _ root relative => (root.join ⟨relative⟩).text
  | .archive _ file entry => file.text ++ "!/" ++ entry
  | .platform _ module _ entry =>
    let inside := match Text.afterStart? "classes/".toList entry.toList with
      | some rest => String.ofList rest
      | none => entry
    "jrt:/" ++ module ++ "/" ++ inside

/-- The contents of an entry of an archive; of several entries with one name the last. -/
def readEntry (fs : FileSystem) (path : Path) (entry : String) : Except ClasspathError Bytes := do
  match ← ClasspathError.ofFile path (fs.openArchive path) with
  | .error cause => throw (.badArchive path cause)
  | .ok zip =>
    match zip.named? entry with
    | none => throw (.missingClass path entry)
    | some found =>
      match zip.stored found with
      | .error fault => throw (.badArchive path (.faulty fault))
      | .ok stored =>
        match Zip.Archive.contents found stored with
        | .ok bytes => return bytes
        | .error damage => throw (.unreadable path (.damaged damage))

/-- The bytes of the class file. -/
def read (fs : FileSystem) : ClassLocation → Except ClasspathError Bytes
  | .directory _ root relative =>
    let path := root.join ⟨relative⟩
    ClasspathError.ofFile path (fs.read path)
  | .archive _ file entry => readEntry fs file entry
  | .platform _ _ file entry => readEntry fs file entry

end ClassLocation
end Linkage
