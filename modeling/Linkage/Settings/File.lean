import Linkage.Settings.Basic
import Linkage.Text.Blank

/-!
Settings files. The text must be a TOML document with the right values, every part of the classpath
must have a name of its own, and the cache must not be empty. Relative paths in a file start from
the directory that the file lies in.
-/
namespace Linkage

/-- What the settings contradict. -/
inductive InvalidSettings where
  | noCache
  | emptyName (path : Path)
  | repeatedName (name : String)
  deriving DecidableEq, Repr

/-- The message of settings that contradict something. -/
def InvalidSettings.message : InvalidSettings → String
  | .noCache => "cache.max_entries must be at least 1"
  | .emptyName path => s!"classpath entry `{path.text}` has an empty name"
  | .repeatedName name => s!"classpath entry name `{name}` is used more than once"

/-- Why settings cannot be used. -/
inductive SettingsError where
  | unreadable (path : Path) (cause : FileError)
  | notToml
  | unsuitable (cause : SettingError)
  | invalid (cause : InvalidSettings)
  deriving DecidableEq, Repr

namespace SettingsError

/-- The message of settings that cannot be used. -/
def message : SettingsError → String
  | .unreadable path cause => s!"failed to read config file {path.text}: {cause.message}"
  | .notToml => "failed to parse toml config: not a TOML document"
  | .unsuitable cause => s!"failed to parse toml config: {cause.message}"
  | .invalid cause => s!"invalid config: {cause.message}"

/-- The messages of an error and of what lies behind it, from the outside in. -/
def chain (e : SettingsError) : List String :=
  match e with
  | .unreadable _ cause => [e.message, cause.message]
  | _ => [e.message]

end SettingsError

namespace Settings

/-- Checks names one after the other; `used` holds those that came before. -/
def checkNames (used : List String) : List ClasspathEntry → Except InvalidSettings Unit
  | [] => .ok ()
  | entry :: rest =>
    if (Text.trim entry.name.toList).isEmpty then .error (.emptyName entry.path)
    else if entry.name ∈ used then .error (.repeatedName entry.name)
    else checkNames (entry.name :: used) rest

/-- Checks what the settings must agree with: first the cache, then the names of the entry points
and of the libraries. -/
def validate (s : Settings) : Except InvalidSettings Unit :=
  if s.cache.maxEntries = 0 then .error .noCache
  else checkNames [] (s.classpath.entryPoints ++ s.classpath.entries)

/-- The settings of a document. -/
def ofText (text : String) : Except SettingsError Settings :=
  match Toml.document? text with
  | none => .error .notToml
  | some v =>
    match Setting.settings .toml v with
    | .error e => .error (.unsuitable e)
    | .ok s =>
      match s.validate with
      | .error e => .error (.invalid e)
      | .ok () => .ok s

/-- The settings with relative paths starting from a directory. -/
def relativeTo (s : Settings) (base : Path) : Settings :=
  let moved (entry : ClasspathEntry) : ClasspathEntry := { entry with path := base.join entry.path }
  { s with classpath := { s.classpath with
      entries := s.classpath.entries.map moved
      entryPoints := s.classpath.entryPoints.map moved
      jdkHome := s.classpath.jdkHome.map base.join } }

/-- The settings of a file. -/
def ofFile (fs : FileSystem) (path : Path) : Except SettingsError Settings :=
  match fs.readText path with
  | .error e => .error (.unreadable path e)
  | .ok text => do
    let s ← ofText text
    return match path.parent? with
      | some base => s.relativeTo base
      | none => s

end Settings
end Linkage
