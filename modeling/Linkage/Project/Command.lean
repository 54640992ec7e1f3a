import Linkage.Project.Assembly
import Linkage.Report.Json
import Linkage.Report.Text

/-!
The command line. There is one command, which checks what a settings file describes; its options
override some of the settings.
-/
namespace Linkage

/-- The options of a check, each of them unset unless it is given. -/
structure CheckOptions where
  config : Option Path
  json : Bool
  complete : Bool
  release : Option Nat
  noJdk : Bool
  deriving DecidableEq, Repr

namespace CheckOptions

/-- No options. -/
def none : CheckOptions := ⟨.none, false, false, .none, false⟩

/-- The settings file that is read when nothing says which. -/
def defaultConfig : Path := ⟨"abi-check.toml"⟩

/-- The number of a text: a sign and digits, and no more than 32 bits. -/
def releaseOf? (text : String) : Option Nat :=
  match text.toList with
  | '-' :: digits => do
    guard (digits.head? != some '+')
    Text.numeral? 1 digits
  | digits => Text.numeral? Text.bound32 digits

/-- Sets an option with a value, which must not have been set. -/
def setValue? (o : CheckOptions) (name value : String) : Option CheckOptions :=
  match name with
  | "--config" => do
    guard (o.config.isNone && value != "")
    return { o with config := some ⟨value⟩ }
  | "--release" => do
    guard o.release.isNone
    return { o with release := some (← releaseOf? value) }
  | _ => .none

/-- Sets an option without a value, which must not have been set. -/
def setFlag? (o : CheckOptions) (name : String) : Option CheckOptions :=
  match name with
  | "--json" => if o.json then .none else some { o with json := true }
  | "--complete" => if o.complete then .none else some { o with complete := true }
  | "--no-jdk" => if o.noJdk then .none else some { o with noJdk := true }
  | _ => .none

/-- Whether an option is followed by a value. -/
def takesValue (name : String) : Bool := name == "--config" || name == "--release"

/-- Whether an argument cannot be the value of an option in front of it. -/
def looksLikeOption (argument : String) : Bool :=
  Text.startsWith "-" argument && argument != "-"

/-- The settings with the options in their place. -/
def override (o : CheckOptions) (s : Settings) : Settings :=
  { s with
    policy := { s.policy with complete := s.policy.complete || o.complete }
    classpath := { s.classpath with
      release := o.release <|> s.classpath.release
      includeJdk := s.classpath.includeJdk && !o.noJdk } }

end CheckOptions

/-- What the program is asked to do. -/
inductive Command where
  | version
  | help
  | check (options : CheckOptions)
  deriving DecidableEq, Repr

namespace Command

/-- Whether an argument asks for help. Further letters may follow the short form. -/
def asksForHelp (argument : String) : Bool :=
  argument == "--help" || Text.startsWith "-h" argument

/-- Whether an argument asks for the version. Further letters may follow the short form. -/
def asksForVersion (argument : String) : Bool :=
  argument == "--version" || Text.startsWith "-V" argument

/-- Reads the options of a check, of which `o` are known. The value of an option is the next
argument, or follows an equals sign. What is in front of a request for help must be in order, and
what follows it does not count. -/
def ofOptions? (o : CheckOptions) : List String → Option Command
  | [] => some (.check o)
  | ["--"] => some (.check o)
  | argument :: rest =>
    if asksForHelp argument then some .help
    else
      match Text.splitFirst? '=' argument.toList with
      | some (name, value) => do
        ofOptions? (← o.setValue? (String.ofList name) (String.ofList value)) rest
      | none =>
        if CheckOptions.takesValue argument then
          match rest with
          | value :: rest =>
            if CheckOptions.looksLikeOption value then none
            else do ofOptions? (← o.setValue? argument value) rest
          | [] => none
        else do ofOptions? (← o.setFlag? argument) rest

/-- Reads the arguments of the program. Help can be asked for on the program or on a command. -/
def ofArguments? : List String → Option Command
  | ["help"] => some .help
  | ["help", topic] => if topic == "check" || topic == "help" then some .help else none
  | "check" :: rest => ofOptions? .none rest
  | argument :: _ =>
    if asksForVersion argument then some .version
    else if asksForHelp argument then some .help
    else none
  | [] => none

end Command

/-- What the program leaves behind: its exit code and what it writes. -/
structure Outcome where
  exitCode : Nat
  output : String
  errors : String
  deriving DecidableEq, Repr

namespace Command

/-- The name and the number of the program. -/
def versionText : String := "abi-check 0.1.0"

/-- How the program is used. -/
def usageText : String :=
  "Find binary incompatibilities between JVM libraries on a runtime classpath\n\n" ++
    "Usage: abi-check check [--config <CONFIG>] [--json] [--complete] [--release <RELEASE>] " ++
    "[--no-jdk]\n       abi-check --version\n"

/-- The messages of an error, from the outside in, on one line. -/
def failure (chain : List String) : Outcome := ⟨2, "", Text.join ": " chain ++ "\n"⟩

/-- Checks what a settings file describes. -/
def runCheck (fs : FileSystem) (env : Environment) (o : CheckOptions) : Outcome :=
  let config := o.config.getD CheckOptions.defaultConfig
  match Settings.ofFile fs config with
  | .error e => failure (s!"failed to load {config.text}" :: e.chain)
  | .ok settings =>
    match Project.check fs env (o.override settings) with
    | .error e => failure e.chain
    | .ok conflicts =>
      let output := if o.json then Report.json conflicts ++ "\n" else Report.text conflicts
      ⟨if conflicts.isEmpty then 0 else 1, output, ""⟩

/-- Does what the program is asked to do. -/
def run (fs : FileSystem) (env : Environment) : Command → Outcome
  | .version => ⟨0, versionText ++ "\n", ""⟩
  | .help => ⟨0, usageText, ""⟩
  | .check options => runCheck fs env options

end Command
end Linkage
