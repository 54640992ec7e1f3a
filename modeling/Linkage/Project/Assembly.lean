import Linkage.Check.Run
import Linkage.Classpath.Jdk
import Linkage.Settings.File

/-!
Projects: what settings describe, loaded and ready to be checked. The classpath has the JDK's
modules first, then the entry points and then the libraries. Nothing is reported on the JDK and the
entry points.
-/
namespace Linkage

/-- What is to be checked. -/
structure Project where
  policy : Policy
  classpath : List Artifact
  entryPoints : List ClassLocation
  release : Nat
  deriving DecidableEq

/-- Why a project cannot be checked. -/
inductive ProjectError where
  | jdkNotLocated (cause : ClasspathError)
  | releaseUnknown (cause : ClasspathError)
  | modulesUnreadable (directory : Path) (cause : ClasspathError)
  | entryUnloadable (name : String) (cause : ClasspathError)
  | unchecked (cause : CheckError)
  deriving DecidableEq, Repr

namespace ProjectError

/-- The messages of an error and of what lies behind it, from the outside in. -/
def chain : ProjectError → List String
  | .jdkNotLocated cause =>
    "failed to locate a JDK (set `classpath.jdk_home` or `include_jdk = false`)" :: cause.chain
  | .releaseUnknown cause => cause.chain
  | .modulesUnreadable directory cause =>
    s!"failed to read JDK modules from {directory.text}" :: cause.chain
  | .entryUnloadable name cause => s!"failed to load classpath entry `{name}`" :: cause.chain
  | .unchecked cause => cause.chain

/-- The message of a project that cannot be checked. -/
def message (e : ProjectError) : String := Text.join ": " e.chain

end ProjectError

namespace Project

/-- The JDK, if the settings include one. -/
def jdk? (fs : FileSystem) (env : Environment) (s : ClasspathSettings) :
    Except ProjectError (Option Jdk) :=
  if s.includeJdk then some <$> (Jdk.discover fs env s.jdkHome).mapError .jdkNotLocated
  else .ok none

/-- The release that runs: the one set, or else the JDK's, or else the one that is assumed. -/
def releaseOf (fs : FileSystem) (s : ClasspathSettings) (jdk : Option Jdk) :
    Except ProjectError Nat :=
  match s.release, jdk with
  | some release, _ => .ok release
  | none, some jdk =>
    (·.getD Artifact.defaultRelease) <$> (jdk.release? fs).mapError .releaseUnknown
  | none, none => .ok Artifact.defaultRelease

/-- The modules of the JDK. -/
def modulesOf (fs : FileSystem) : Option Jdk → Except ProjectError (List Artifact)
  | some jdk => (jdk.artifacts fs).mapError (.modulesUnreadable jdk.modules)
  | none => .ok []

/-- Loads a named part of the classpath. -/
def loadEntry (fs : FileSystem) (release : Nat) (entry : ClasspathEntry) :
    Except ProjectError Artifact :=
  (Artifact.load fs release entry.name entry.path).mapError (.entryUnloadable entry.name)

/-- Loads what settings describe. -/
def assemble (fs : FileSystem) (env : Environment) (s : Settings) :
    Except ProjectError Project := do
  let jdk ← jdk? fs env s.classpath
  let release ← releaseOf fs s.classpath jdk
  let modules ← modulesOf fs jdk
  let entryPoints ← s.classpath.entryPoints.mapM (loadEntry fs release)
  let entries ← s.classpath.entries.mapM (loadEntry fs release)
  let excluded := modules.map Artifact.name ++ entryPoints.map Artifact.name
  return {
    policy := { s.policy with
      ignoredArtifacts := s.policy.ignoredArtifacts.union (SortedSet.ofList excluded) }
    classpath := modules ++ entryPoints ++ entries
    entryPoints := entryPoints.flatMap fun a => a.classes.values
    release }

/-- The conflicts of a project. -/
def conflicts (p : Project) (fs : FileSystem) : Loading (List Conflict) :=
  Check.conflicts p.policy (Loading.load fs) p.classpath p.entryPoints

/-- Loads what settings describe and gives its conflicts. -/
def check (fs : FileSystem) (env : Environment) (s : Settings) :
    Except ProjectError (List Conflict) := do
  let project ← assemble fs env s
  let loader := Loader.new Decoder.standard s.cache.maxEntries
  ((project.conflicts fs).run loader).1.mapError .unchecked

end Project
end Linkage
