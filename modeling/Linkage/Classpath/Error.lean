import Linkage.Classpath.FileSystem
import Linkage.Symbol.Error

/-!
The ways in which a classpath can be unusable.
-/
namespace Linkage

/-- Why a classpath entry, a class on it or a JDK cannot be used. -/
inductive ClasspathError where
  | unreadable (path : Path) (cause : FileError)
  | badArchive (path : Path) (cause : ArchiveError)
  | missingEntry (path : Path)
  | missingClass (path : Path) (entry : String)
  | symbol (cause : SymbolError)
  | jdkNotFound
  | missingModuleDirectory (root : Path)
  | noModules (directory : Path)
  | invalidJavaVersion (text : String)
  deriving DecidableEq, Repr

namespace ClasspathError

/-- The message of an unusable classpath. -/
def message : ClasspathError → String
  | .unreadable path cause => s!"failed to read `{path.text}`: {cause.message}"
  | .badArchive path cause => s!"failed to read archive `{path.text}`: {cause.message}"
  | .missingEntry path => s!"classpath entry `{path.text}` does not exist"
  | .missingClass path entry => s!"`{entry}` is no longer present in `{path.text}`"
  | .symbol cause => cause.message
  | .jdkNotFound => "could not discover a JDK installation " ++
      "(tried the configured home, JAVA_HOME and `java` on PATH)"
  | .missingModuleDirectory root =>
    s!"JDK root `{root.text}` does not contain a `jmods/` directory"
  | .noModules directory => s!"no `.jmod` modules found under `{directory.text}`"
  | .invalidJavaVersion text => s!"unrecognised Java version `{text}`"

/-- The messages of an error and of what lies behind it, from the outside in. -/
def chain (e : ClasspathError) : List String :=
  match e with
  | .unreadable _ cause => [e.message, cause.message]
  | .badArchive _ cause => e.message :: cause.chain
  | _ => [e.message]

/-- A malformed name makes the classpath unusable. -/
def ofSymbol {α : Type} : Except SymbolError α → Except ClasspathError α
  | .ok a => .ok a
  | .error e => .error (.symbol e)

/-- A file that cannot be used, at a path. -/
def ofFile {α : Type} (path : Path) : Except FileError α → Except ClasspathError α
  | .ok a => .ok a
  | .error e => .error (.unreadable path e)

end ClasspathError
end Linkage
