import Linkage.Classpath.Jdk
import Linkage.Pattern.Matchable
import Linkage.Settings.Basic

/-!
Which messages are logged. A filter is a list of directives, each of which sets a level for the
messages of a target, for those inside a span, or for all; the more a directive says about the
messages it is for, the earlier it stands in the filter.
-/
namespace Linkage

/-- How much is logged. -/
inductive LogLevel where
  | off | error | warn | info | debug | trace
  deriving DecidableEq, Repr

namespace LogLevel

/-- The levels, from the fewest messages to the most. -/
def all : List LogLevel := [.off, .error, .warn, .info, .debug, .trace]

/-- The name of a level. -/
def name : LogLevel → String
  | .off => "off"
  | .error => "error"
  | .warn => "warn"
  | .info => "info"
  | .debug => "debug"
  | .trace => "trace"

/-- The level of a text: its position among the levels, or its name in upper or lower case. -/
def ofText? (text : List Char) : Option LogLevel :=
  ((Text.numeral? 0x10000000000000000 text).bind (all[·]?)) <|>
    all.find? fun level => Text.sameIgnoringAsciiCase level.name (String.ofList text)

end LogLevel

/-- What the value of a field must be: a flag, a number, or a text that fits a pattern. -/
inductive FieldPattern where
  | flag (value : Bool)
  | real (value : Binary64)
  | natural (value : Nat)
  | belowZero (value : Int)
  | pattern (text : String)
  deriving DecidableEq, Repr

namespace FieldPattern

/-- The value of an exponent, which has a sign or none. One of more than twenty digits is cut down
to what is beyond all numbers too. -/
def exponent? (text : List Char) : Option Int := do
  let (negative, digits) := match text with
    | '-' :: rest => (true, rest)
    | '+' :: rest => (false, rest)
    | _ => (false, text)
  guard (!digits.isEmpty && digits.all Char.isDigit)
  let digits := digits.dropWhile (· == '0')
  let value : Nat := if 20 < digits.length then 100000000000000000000 else (Text.digitsValue? 0 digits).getD 0
  return if negative then -(value : Int) else value

/-- A decimal number with an optional sign, point and exponent, as the nearest binary number. -/
def real? (text : List Char) : Option Binary64 := do
  let (negative, text) := match text with
    | '-' :: rest => (true, rest)
    | '+' :: rest => (false, rest)
    | _ => (false, text)
  match (String.ofList (text.map Text.lowerAscii)) with
  | "inf" => return .infinite negative
  | "infinity" => return .infinite negative
  | "nan" => return .nan
  | _ => do
    let (body, rest) := text.span fun c => c != 'e' && c != 'E'
    let power ← match rest with
      | [] => some 0
      | _ :: digits => exponent? digits
    let (whole, decimals) := (Text.splitFirst? '.' body).getD (body, [])
    guard !(whole ++ decimals).isEmpty
    let digits ← Text.digitsValue? 0 (whole ++ decimals)
    return .ofDecimal negative digits (power - decimals.length)

/-- What a text asks for. A text that is neither a flag nor a number must be a pattern. -/
def ofText? (text : List Char) : Option FieldPattern :=
  let negative? : Option Int := do
    let digits ← Text.afterStart? ['-'] text
    guard (digits.head? != some '+')
    return -(← Text.numeral? 0x8000000000000001 digits : Nat)
  if text = "true".toList then some (.flag true)
  else if text = "false".toList then some (.flag false)
  else if let some n := Text.numeral? 0x10000000000000000 text then some (.natural n)
  else if let some n := negative? then some (.belowZero n)
  else if let some x := real? text then some (.real x)
  else if Pattern.isPattern text then some (.pattern (String.ofList text))
  else none

/-- The text of a pattern. Numbers are written without an exponent. -/
def text : FieldPattern → String
  | .flag value => toString value
  | .real value =>
    let text := value.text fun _ => true
    match Text.beforeEnd? ".0".toList text.toList with
    | some whole => String.ofList whole
    | none => text
  | .natural value => toString value
  | .belowZero value => toString value
  | .pattern text => text

/-- The kinds of patterns in order. -/
def kind : FieldPattern → Nat
  | .flag _ => 0
  | .real _ => 1
  | .natural _ => 2
  | .belowZero _ => 3
  | .pattern _ => 4

/-- The order of patterns: by kind, and within a kind by value. -/
def compareValues : FieldPattern → FieldPattern → Ordering
  | .flag a, .flag b => compare a b
  | .real a, .real b => compare a b
  | .natural a, .natural b => compare a b
  | .belowZero a, .belowZero b => compare a b
  | .pattern a, .pattern b => compare a b
  | a, b => compare a.kind b.kind

instance : Ord FieldPattern where
  compare := compareValues

end FieldPattern

/-- A field that a span must have, and what its value must be. -/
structure LogField where
  name : String
  value : Option FieldPattern
  deriving DecidableEq, Repr

namespace LogField

/-- The field of a text: a name, and a value after an equals sign. -/
def ofText? (text : List Char) : Option LogField :=
  match Text.splitAll (· == '=') text with
  | [] => some ⟨"", none⟩
  | [name] => some ⟨String.ofList name, none⟩
  | name :: value :: _ => do return ⟨String.ofList name, some (← FieldPattern.ofText? value)⟩

/-- The text of a field. -/
def text (f : LogField) : String :=
  match f.value with
  | some value => f.name ++ "=" ++ value.text
  | none => f.name

end LogField

/-- A level for the messages of a target, or of all; and for those inside a span with a name or a
field, or for all. -/
structure LogDirective where
  target : Option String
  span : Option String
  field : Option LogField
  level : LogLevel
  deriving DecidableEq, Repr

namespace LogDirective

/-- Whether a directive is about spans. -/
def isDynamic (d : LogDirective) : Bool := d.span.isSome || d.field.isSome

/-- Whether a directive can be decided without knowing the spans that are entered. -/
def isStatic (d : LogDirective) : Bool :=
  d.span.isNone && !(d.field.any fun field => field.value.isSome)

/-- The text of a directive. -/
def text (d : LogDirective) : String :=
  let field := match d.field with
    | some field => "\x7b" ++ field.text ++ "\x7d"
    | none => ""
  let span := if d.isDynamic then "[" ++ d.span.getD "" ++ field ++ "]" else ""
  let subject := d.target.getD "" ++ span
  if d.target.isSome || d.isDynamic then subject ++ "=" ++ d.level.name else d.level.name

/-- What orders directives: how much they say, and then the texts themselves. -/
structure Rank where
  targetSize : Option Nat
  hasSpan : Bool
  hasField : Bool
  target : Option String
  span : Option String
  hasValue : Bool
  fieldName : Option String
  value : Option FieldPattern

instance : Ord Rank where
  compare a b :=
    (compare a.targetSize b.targetSize).then <|
    (compare a.hasSpan b.hasSpan).then <|
    (compare a.hasField b.hasField).then <|
    (compare a.target b.target).then <|
    (compare a.span b.span).then <|
    (compare a.hasValue b.hasValue).then <|
    (compare a.fieldName b.fieldName).then (compare a.value b.value)

/-- The rank of a directive. -/
def rank (d : LogDirective) : Rank :=
  let value := d.field.bind LogField.value
  { targetSize := d.target.map String.utf8ByteSize, hasSpan := d.span.isSome
    hasField := d.field.isSome, target := d.target, span := d.span, hasValue := value.isSome
    fieldName := d.field.map LogField.name, value }

/-- The size of a text in bytes. -/
def byteSize (text : List Char) : Nat := text.foldl (fun n c => n + c.utf8Size) 0

/-- The text from a byte on, if a character starts there. -/
def fromByte? (text : List Char) (start : Nat) : Option (List Char) :=
  match text, start with
  | text, 0 => some text
  | [], _ => none
  | c :: rest, start => if c.utf8Size ≤ start then fromByte? rest (start - c.utf8Size) else none

/-- The text between two bytes, if characters start there. -/
def between? (text : List Char) (start stop : Nat) : Option (List Char) := do
  let tail ← fromByte? text stop
  let head := text.take (text.length - tail.length)
  fromByte? head start

/-- Whether a target can start with a character. -/
def isTargetStart (c : Char) : Bool :=
  c == '-' || c == ':' || c == '_' || Text.isAlphanumeric c

/-- The level of a text after an equals sign; without one everything is logged. -/
def levelOf? (text : List Char) : Option LogLevel :=
  if text.isEmpty then some .trace else LogLevel.ofText? text

/-- The level after a span that ends before a byte; `rest` is what follows. -/
def levelAfterSpan? (text rest : List Char) (place : Nat) : Option LogLevel :=
  match rest with
  | [] => some .trace
  | '=' :: _ => do levelOf? (← fromByte? text (place + 1))
  | _ => none

/-- Reads a span that starts at a byte, behind its opening bracket, and the level that follows. -/
def ofSpan? (target : Option String) (text inside : List Char) (start : Nat) :
    Option LogDirective := do
  let (name, rest) := inside.span fun c => c != ']' && c != '\x7b'
  let stop := start + byteSize name
  let span := String.ofList (← between? text start stop)
  match rest with
  | ']' :: rest => return ⟨target, some span, none, ← levelAfterSpan? text rest (stop + 1)⟩
  | _ :: inside => do
    let (field, rest) := inside.span (· != '\x7d')
    let fieldStop := stop + 1 + byteSize field
    let fieldText ← between? text (stop + 1) fieldStop
    guard !fieldText.isEmpty
    match rest with
    | _ :: ']' :: rest =>
      return ⟨target, if span == "" then none else some span, some (← LogField.ofText? fieldText),
        ← levelAfterSpan? text rest (fieldStop + 2)⟩
    | _ => none
  | [] => none

/-- The directive of a text. White space around the text is not looked at, but the places of the
parts are counted from the start of the trimmed text and taken from the start of the whole. -/
def ofText? (text : List Char) : Option LogDirective := do
  let bare := Text.trim text
  let first ← bare.head?
  guard (first == '[' || isTargetStart first)
  let (name, rest) := bare.span fun c => c != '=' && c != '['
  let stop := byteSize name
  match rest with
  | [] =>
    match LogLevel.ofText? text with
    | some level => return ⟨none, none, none, level⟩
    | none => return ⟨some (String.ofList text), none, none, .trace⟩
  | '=' :: _ =>
    let target := String.ofList (← between? text 0 stop)
    return ⟨some target, none, none, ← levelOf? (← fromByte? text (stop + 1))⟩
  | _ :: inside =>
    let target ← if name.isEmpty then pure none
      else do pure (some (String.ofList (← between? text 0 stop)))
    ofSpan? target text inside (stop + 1)

/-- Directives by falling rank; of several with the same rank only the last counts. -/
def inOrder (directives : List LogDirective) : List LogDirective :=
  let ranked := directives.foldl (fun l d => insertEntry d.rank d l) []
  (ranked.map Prod.snd).reverse

end LogDirective

namespace LogFilter

/-- The directives of a text, which are set apart by commas. -/
def ofText? (text : String) : Option (List LogDirective) :=
  let parts := (Text.splitAll (· == ',') text.toList).filter fun part => !part.isEmpty
  parts.mapM LogDirective.ofText?

/-- The text of a filter: the directives that need not know the spans, then those about spans. -/
def text (directives : List LogDirective) : String :=
  let (dynamic, plain) := directives.partition LogDirective.isDynamic
  let statics := LogDirective.inOrder (plain ++ dynamic.filter LogDirective.isStatic)
  Text.join "," ((statics ++ LogDirective.inOrder dynamic).map LogDirective.text)

end LogFilter

namespace LoggingSettings

/-- The level that is assumed. -/
def defaultLevel : String := "warn"

/-- The names that are levels of their own, in small letters, with the levels. -/
def levelNames : List (String × String) :=
  [("trace", "trace"), ("debug", "debug"), ("info", "info"), ("warn", "warn"), ("warning", "warn"),
    ("error", "error")]

/-- The directives of a level setting: a level in any case, or directives as they are. -/
def levelDirectives (level : String) : String :=
  let bare := Text.trim level.toList
  if bare.isEmpty then defaultLevel
  else (levelNames.lookup (String.ofList (bare.map Text.lowerAscii))).getD (String.ofList bare)

/-- The directives of the settings followed by those of the environment. -/
def directives (s : LoggingSettings) (env : Environment) : String :=
  let added := Text.trim (env.logDirectives.getD "").toList
  if added.isEmpty then levelDirectives s.level
  else levelDirectives s.level ++ "," ++ String.ofList added

/-- The filter of the settings and the environment. If one of the directives cannot be read,
warnings are logged and nothing else counts. -/
def filter (s : LoggingSettings) (env : Environment) : String :=
  match LogFilter.ofText? (s.directives env) with
  | some directives => LogFilter.text directives
  | none => LogLevel.warn.name

end LoggingSettings
end Linkage
