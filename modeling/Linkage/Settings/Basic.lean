import Linkage.Check.Loader
import Linkage.Check.Policy
import Linkage.Settings.Reading
import Linkage.Toml.Document

/-!
The settings of a check: its policy, its classpath, the size of its cache and its log. They are read
from a TOML document, and everything that is left out has a default.
-/
namespace Linkage

/-- A named part of a classpath. -/
structure ClasspathEntry where
  name : String
  path : Path
  deriving DecidableEq, Repr

/-- What the classpath consists of. -/
structure ClasspathSettings where
  /-- The libraries, in the order in which they are searched. -/
  entries : List ClasspathEntry
  /-- The program itself, from which classes are reached. -/
  entryPoints : List ClasspathEntry
  /-- Whether the JDK's modules come before everything else. -/
  includeJdk : Bool
  /-- Where the JDK is, if it is not to be looked for. -/
  jdkHome : Option Path
  /-- The release that runs, if it is not the JDK's. -/
  release : Option Nat
  deriving DecidableEq, Repr

/-- How much is cached. -/
structure CacheSettings where
  maxEntries : Nat
  deriving DecidableEq, Repr

/-- What is logged, and whether as JSON. -/
structure LoggingSettings where
  level : String
  json : Bool
  deriving DecidableEq, Repr

/-- The settings of a check. -/
structure Settings where
  policy : Policy
  classpath : ClasspathSettings
  cache : CacheSettings
  logging : LoggingSettings
  deriving DecidableEq

/-- The classpath that is assumed: nothing but the JDK. -/
def ClasspathSettings.standard : ClasspathSettings := ⟨[], [], true, none, none⟩

/-- The cache that is assumed. -/
def CacheSettings.standard : CacheSettings := ⟨Loader.defaultCapacity⟩

/-- The log that is assumed. -/
def LoggingSettings.standard : LoggingSettings := ⟨"warn", false⟩

/-- The settings that are assumed. -/
def Settings.standard : Settings :=
  ⟨Policy.standard, ClasspathSettings.standard, CacheSettings.standard, LoggingSettings.standard⟩

namespace Setting

/-- A number of 32 bits. -/
def word32 : Setting Nat := natural 0x100000000 "u32"

/-- A number of 64 bits. -/
def word64 : Setting Nat := natural 0x10000000000000000 "usize"

/-- The policy of a check. -/
def policy : Setting Policy :=
  RecordShape.read
    ⟨"ConflictCheckerConfiguration",
      [.of "error_artifact_prefixes" textSet fun p s => { p with reportedArtifacts := s },
        .of "ignored_artifact_prefixes" textSet fun p s => { p with ignoredArtifacts := s },
        .of "ignored_class_prefixes" textSet fun p s => { p with ignoredClasses := s },
        .of "ignored_classname_keywords" textSet fun p s => { p with ignoredKeywords := s },
        .of "check_completely" boolean fun p b => { p with complete := b }]⟩
    Policy.standard

/-- A named part of a classpath. Its name and its path must be given. -/
def classpathEntry : Setting ClasspathEntry :=
  RecordShape.read
    ⟨"ClasspathEntry",
      [{ RecordField.of "name" text fun (e : ClasspathEntry) s => { e with name := s } with
          required := true },
        { RecordField.of "path" path fun (e : ClasspathEntry) p => { e with path := p } with
          required := true }]⟩
    ⟨"", ⟨""⟩⟩

/-- The classpath. -/
def classpath : Setting ClasspathSettings :=
  RecordShape.read
    ⟨"ClasspathConfig",
      [.of "entries" (list classpathEntry) fun c l => { c with entries := l },
        .of "entry_points" (list classpathEntry) fun c l => { c with entryPoints := l },
        .of "include_jdk" boolean fun c b => { c with includeJdk := b },
        .of "jdk_home" (optional path) fun c p => { c with jdkHome := p },
        .of "release" (optional word32) fun c n => { c with release := n }]⟩
    ClasspathSettings.standard

/-- The cache. -/
def cache : Setting CacheSettings :=
  RecordShape.read
    ⟨"CacheConfig", [.of "max_entries" word64 fun _ n => ⟨n⟩]⟩
    CacheSettings.standard

/-- The log. -/
def logging : Setting LoggingSettings :=
  RecordShape.read
    ⟨"LoggingConfig",
      [.of "level" text fun l s => { l with level := s },
        .of "json" boolean fun l b => { l with json := b }]⟩
    LoggingSettings.standard

/-- All settings. -/
def settings : Setting Settings :=
  RecordShape.read
    ⟨"AbiCheckConfig",
      [.of "checker" policy fun s p => { s with policy := p },
        .of "classpath" classpath fun s c => { s with classpath := c },
        .of "cache" cache fun s c => { s with cache := c },
        .of "logging" logging fun s l => { s with logging := l }]⟩
    Settings.standard

end Setting
end Linkage
