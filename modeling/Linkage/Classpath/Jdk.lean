import Linkage.Classpath.Artifact
import Linkage.Classpath.JavaVersion

/-!
The JDK's own modules as artifacts, and where a JDK is found.
-/
namespace Linkage

/-- The environment variables that count; a variable may be unset. -/
structure Environment where
  javaHome : Option String
  searchPath : Option String
  logDirectives : Option String
  deriving DecidableEq, Repr

/-- The environment without variables. -/
def Environment.empty : Environment := ⟨none, none, none⟩

/-- An installed JDK: its root and the directory of its modules. -/
structure Jdk where
  root : Path
  modules : Path
  deriving DecidableEq, Repr

namespace Jdk

/-- The directory of the modules of a JDK. -/
def moduleDirectory (root : Path) : Path := root.join ⟨"jmods"⟩

/-- The JDK with a root. -/
def ofRoot (fs : FileSystem) (root : Path) : Except ClasspathError Jdk :=
  if fs.isDirectory (moduleDirectory root) then .ok ⟨root, moduleDirectory root⟩
  else .error (.missingModuleDirectory root)

/-- The first of a path and its parent that is the root of a JDK. -/
def rootNear? (fs : FileSystem) (candidate : Path) : Option Path :=
  (candidate :: candidate.parent?.toList).find? fun p => fs.isDirectory (moduleDirectory p)

/-- The program `java` in the first directory of the search path that has it. -/
def javaOnPath? (fs : FileSystem) (env : Environment) : Option Path := do
  let directories := (Text.splitAll (· == ':') (← env.searchPath).toList).map String.ofList
  (directories.map fun directory => (⟨directory⟩ : Path).join ⟨"java"⟩).find? fs.isFile

/-- The root of the JDK that a program lies in: the program is two levels below. -/
def rootOfProgram? (fs : FileSystem) (program : Path) : Option Path := do
  rootNear? fs (← (← program.parent?).parent?)

/-- Finds a JDK: the given home, or else the home that the environment names, or else the JDK of the
`java` on the search path. -/
def discover (fs : FileSystem) (env : Environment) (home : Option Path) :
    Except ClasspathError Jdk :=
  match home with
  | some home => ofRoot fs ((rootNear? fs home).getD home)
  | none =>
    let fromHome := env.javaHome.bind fun text => rootNear? fs ⟨text⟩
    let root := fromHome <|> do
      let program ← (fs.canonical (← javaOnPath? fs env)).toOption
      rootOfProgram? fs program
    match root with
    | some root => ofRoot fs root
    | none => .error .jdkNotFound

/-- The lines of a text, without the line ends. -/
def linesOf (text : List Char) : List (List Char) :=
  (Text.splitAll (· == '\n') text).map fun line =>
    match Text.beforeEnd? ['\r'] line with
    | some line => line
    | none => line

/-- The value of the first line that gives the Java version. -/
def versionText? (text : String) : Option String :=
  (linesOf text.toList).findSome? fun line => do
    let (key, value) ← Text.splitFirst? '=' line
    guard (String.ofList (Text.trim key) == "JAVA_VERSION")
    return String.ofList (Text.trim value)

/-- The feature release that the JDK's release file gives, if it has one that gives any. -/
def release? (jdk : Jdk) (fs : FileSystem) : Except ClasspathError (Option Nat) := do
  let path := jdk.root.join ⟨"release"⟩
  match fs.readText path with
  | .error .notFound => return none
  | .error e => throw (.unreadable path e)
  | .ok text =>
    match versionText? text with
    | none => return none
    | some raw =>
      match JavaVersion.feature? raw with
      | some n => return some n
      | none => throw (.invalidJavaVersion raw)

/-- The module that comes before all others. -/
def baseModule : String := "java.base.jmod"

/-- The files of the modules, the base module first and the others by name. -/
def modulePaths (jdk : Jdk) (fs : FileSystem) : Except ClasspathError (List Path) := do
  let names ← ClasspathError.ofFile jdk.modules (fs.list jdk.modules)
  let modules := names.filter fun name => (Path.splitExtension name).2 == some "jmod"
  let ordered := modules.filter (· == baseModule) ++ modules.filter (· != baseModule)
  if ordered.isEmpty then throw (.noModules jdk.modules)
  return ordered.map fun name => jdk.modules.join ⟨name⟩

/-- Loads a module. Its class files are the entries under `classes/`. -/
def loadModule (fs : FileSystem) (path : Path) : Except ClasspathError Artifact := do
  let module := path.stem?.getD ""
  match ← ClasspathError.ofFile path (fs.openArchive path) with
  | .error cause => throw (.badArchive path cause)
  | .ok archive =>
    let files := (archive.entries.map Zip.Entry.name).filterMap fun entry => do
      let inside ← Text.afterStart? "classes/".toList entry.toList
      let inside := String.ofList inside
      guard (Text.endsWith ".class" inside && !MultiRelease.isPseudoClass inside)
      return (inside, entry)
    let classes ← files.mapM fun (inside, entry) => do
      let name ← ClasspathError.ofSymbol (ClassName.ofFileName inside)
      return (name, ClassLocation.platform name module path entry)
    let sorted : SortedMap ClassName ClassLocation :=
      classes.foldl (fun m e => m.insert e.1 e.2) .empty
    return ⟨module, InsertionMap.ofList sorted.toList⟩

/-- The modules that have classes. -/
def artifacts (jdk : Jdk) (fs : FileSystem) : Except ClasspathError (List Artifact) := do
  let modules ← (← jdk.modulePaths fs).mapM (loadModule fs)
  return modules.filter fun a => a.classes.size != 0

end Jdk
end Linkage
