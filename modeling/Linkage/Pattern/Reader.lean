import Linkage.Pattern.Basic
import Linkage.Text.Blank
import Linkage.Text.Letter
import Linkage.Text.Numeral
import Linkage.Text.Parts

/-!
How patterns are written. Every character stands for itself but for a dozen; a backslash takes the
meaning from those and gives one to letters. In a spaced pattern white space does not count, and
neither does what follows a hash on its line. There are no counted repetitions.
-/
namespace Linkage.Pattern

/-- The text without white space and comments at its start. -/
def afterSpace (inComment : Bool) : List Char → List Char
  | [] => []
  | c :: rest =>
    if inComment then afterSpace (c != '\n') rest
    else if c = '#' then afterSpace true rest
    else if Text.isBlank c then afterSpace false rest
    else c :: rest

/-- What is left of a pattern, whether it is spaced here, and the names of the groups so far. -/
structure Cursor where
  rest : List Char
  spaced : Bool
  names : List (List Char)
  deriving DecidableEq, Repr

/-- A step of reading, which fails if there is no pattern. -/
abbrev Reader := StateT Cursor Option

namespace Reader

/-- What is left of the pattern. -/
def rest : Reader (List Char) := return (← get).rest

/-- Goes on with another rest. -/
def goOn (rest : List Char) : Reader Unit := modify fun c => { c with rest }

/-- Takes a character. -/
def take : Reader Char := do
  match ← rest with
  | [] => failure
  | c :: rest => goOn rest; return c

/-- Takes the white space of a spaced pattern. -/
def space : Reader Unit := do
  if (← get).spaced then goOn (afterSpace false (← rest))

/-- Says whether the pattern is spaced from here on. -/
def setSpaced (spaced : Bool) : Reader Unit := modify fun c => { c with spaced }

/-- Adds the name of a group, which must be a new one. -/
def addName (name : List Char) : Reader Unit := do
  guard ((← get).names.all (· != name))
  modify fun c => { c with names := name :: c.names }

end Reader

/-- What one character or escape means. -/
inductive Atom where
  | letter (l : Letter)
  | short (kind : ShortClass) (negated : Bool)
  | place (p : Place)
  deriving DecidableEq, Repr

/-- A character that stands for itself. -/
def plain (c : Char) : Atom := .letter ⟨c, false⟩

/-- Takes hexadecimal digits after `value`. -/
def hexNumber (value : Nat) : Nat → Reader Nat
  | 0 => pure value
  | count + 1 => do
    Reader.space
    match Text.hexDigit? (← Reader.take) with
    | some digit => hexNumber (value * 16 + digit) count
    | none => failure

/-- Takes the code point of a character in a number of hexadecimal digits. -/
def hexChar (count : Nat) : Reader Char := do
  let n ← hexNumber 0 count
  guard n.isValidChar
  return Char.ofNat n

/-- Whether a backslash in front of a character makes it stand for itself. -/
def isEscapable (c : Char) : Bool := c.toNat < 0x80 && !c.isAlphanum

/-- Takes an escape, behind its backslash. -/
def escape : Reader Atom := do
  match ← Reader.take with
  | 'x' => return .letter ⟨← hexChar 2, true⟩
  | 'u' => return plain (← hexChar 4)
  | 'U' => return plain (← hexChar 8)
  | 'd' => return .short .digit false
  | 's' => return .short .space false
  | 'w' => return .short .word false
  | 'D' => return .short .digit true
  | 'S' => return .short .space true
  | 'W' => return .short .word true
  | 'a' => return plain (Char.ofNat 0x07)
  | 'f' => return plain (Char.ofNat 0x0C)
  | 't' => return plain '\t'
  | 'n' => return plain '\n'
  | 'r' => return plain '\r'
  | 'v' => return plain (Char.ofNat 0x0B)
  | 'A' => return .place .textStart
  | 'z' => return .place .textEnd
  | 'b' => return .place .wordEdge
  | 'B' => return .place .notWordEdge
  | '<' => return .place .wordStart
  | '>' => return .place .wordEnd
  | c => do
    guard (isEscapable c)
    return plain c

/-- The names of classes that stand between colons. -/
def classNames : List String :=
  ["alnum", "alpha", "ascii", "blank", "cntrl", "digit", "graph", "lower", "print", "punct",
    "space", "upper", "word", "xdigit"]

/-- A class with a name, and what follows it, behind its opening bracket. -/
def namedClass? (text : List Char) : Option (ClassItem × List Char) := do
  let text ← Text.afterStart? [':'] text
  let (negated, text) := match text with
    | '^' :: text => (true, text)
    | _ => (false, text)
  let (name, rest) := text.span (· != ':')
  let rest ← Text.afterStart? [':', ']'] rest
  guard (classNames.contains (String.ofList name))
  return (.named (String.ofList name) negated, rest)

/-- Takes a character or an escape inside a class. -/
def classAtom : Reader Atom := do
  match ← Reader.take with
  | '\\' => escape
  | c => return plain c

/-- The character that decides whether a hyphen makes a range: the next one, or in a spaced pattern
the next one that is not blank, where one hash counts as blank too. -/
def afterHyphen? (spaced : Bool) (text : List Char) : Option Char :=
  if spaced then
    let rest := text.dropWhile Text.isBlank
    let rest := match rest with
      | '#' :: rest => rest.dropWhile Text.isBlank
      | _ => rest
    rest.head? <|> text.head?
  else text.head?

/-- Takes a member of a class: a character, a range of characters or a class with a letter. -/
def classMember : Reader ClassItem := do
  let first ← classAtom
  Reader.space
  let spaced := (← get).spaced
  let ahead? := match ← Reader.rest with
    | '-' :: rest => afterHyphen? spaced rest
    | _ => some ']'
  if ahead? = some ']' || ahead? = some '-' then
    match first with
    | .letter l => return .letter l
    | .short kind negated => return .short kind negated
    | .place _ => failure
  else
    discard Reader.take
    Reader.space
    match first, ← classAtom with
    | .letter first, .letter last => do
      guard (first.char ≤ last.char)
      return .range first last
    | _, _ => failure

/-- The operation that a class goes on with, and what follows its sign. -/
def classOperation? : List Char → Option (ClassOperation × List Char)
  | '&' :: '&' :: rest => some (.intersection, rest)
  | '-' :: '-' :: rest => some (.difference, rest)
  | '~' :: '~' :: rest => some (.symmetricDifference, rest)
  | _ => none

/-- The class whose last operand has some members, the last one first; `left` is what is in front of
that operand. -/
def combine (left : Option (ClassOperation × ClassSet)) (items : List ClassItem) : ClassSet :=
  match left with
  | some (operation, left) => .combined operation left (.union items.reverse)
  | none => .union items.reverse

/-- Takes the caret that negates a class, if there is one. -/
def negation : Reader Bool := do
  Reader.space
  match ← Reader.rest with
  | '^' :: rest => Reader.goOn rest; return true
  | _ => return false

/-- Takes a class up to its closing bracket. Hyphens stand for themselves at the start of a class,
and so does a closing bracket that comes first of all. -/
def classBody (left : Option (ClassOperation × ClassSet)) (atStart : Bool)
    (items : List ClassItem) : Nat → Reader ClassSet
  | 0 => failure
  | fuel + 1 => do
    Reader.space
    match ← Reader.rest with
    | [] => failure
    | c :: rest =>
      if atStart && (c = '-' || (c = ']' && items.isEmpty)) then
        Reader.goOn rest
        classBody left (c = '-') (.letter ⟨c, false⟩ :: items) fuel
      else if c = ']' then
        Reader.goOn rest
        return combine left items
      else if c = '[' then
        match namedClass? rest with
        | some (item, rest) => do
          Reader.goOn rest
          classBody left false (item :: items) fuel
        | none => do
          Reader.goOn rest
          let negated ← negation
          let inside ← classBody none true [] fuel
          classBody left false (.nested negated inside :: items) fuel
      else
        match classOperation? (c :: rest) with
        | some (operation, rest) => do
          Reader.goOn rest
          classBody (some (operation, combine left items)) false [] fuel
        | none => do
          let item ← classMember
          classBody left false (item :: items) fuel

/-- The flag of a letter. -/
def flag? : Char → Option Flag
  | 'i' => some .anyCase
  | 'm' => some .multiLine
  | 's' => some .dotMatchesAll
  | 'U' => some .lazy
  | 'u' => some .unicode
  | 'R' => some .carriageReturn
  | 'x' => some .spaced
  | _ => none

/-- The flags at the start of a text, up to a colon or a closing bracket. A hyphen stands in front
of those that are switched off; no flag is switched twice. -/
def switches? (on : Bool) (found : Switches) : List Char → Option (Switches × List Char)
  | [] => none
  | c :: rest =>
    if c = ':' || c = ')' then some (found.reverse, c :: rest)
    else if c = '-' then do
      guard (on && rest.head? != some ':' && rest.head? != some ')')
      switches? false found rest
    else do
      let flag ← flag? c
      guard (found.lookup flag).isNone
      switches? on ((flag, on) :: found) rest

/-- Whether a group can have a name. -/
def isGroupName : List Char → Bool
  | [] => false
  | c :: rest => (c == '_' || Text.isAlphabetic c) &&
    rest.all fun c => c == '_' || c == '.' || c == '[' || c == ']' || Text.isAlphanumeric c

/-- What an opening bracket begins: a group, or switches that stand alone. -/
inductive Opening where
  | group (switches : Switches)
  | alone (switches : Switches)
  deriving DecidableEq, Repr

/-- Takes the start of a group, behind its opening bracket. What looks ahead or behind is no
group. -/
def opening : Reader Opening := do
  Reader.space
  match ← Reader.rest with
  | '?' :: rest =>
    match Text.afterStart? ['P', '<'] rest <|> Text.afterStart? ['<'] rest with
    | some rest => do
      let (name, rest) := rest.span (· != '>')
      guard (isGroupName name && !rest.isEmpty)
      Reader.addName name
      Reader.goOn (rest.drop 1)
      return .group []
    | none =>
      match switches? true [] rest with
      | some (switches, ':' :: rest) => do
        Reader.goOn rest
        return .group switches
      | some (switches, _ :: rest) => do
        guard !switches.isEmpty
        Reader.goOn rest
        return .alone switches
      | _ => failure
  | _ => return .group []

/-- Takes a part that is neither a group nor a class nor repeated. -/
def single : Reader Part := do
  match ← Reader.take with
  | '\\' =>
    match ← escape with
    | .letter l => return .letter l
    | .short kind negated => return .short kind negated
    | .place p => return .place p
  | '.' => return .any
  | '^' => return .place .lineStart
  | '$' => return .place .lineEnd
  | '\x7b' => failure
  | c => return .letter ⟨c, false⟩

/-- Takes the mark that a repetition is as short as possible, if there is one. -/
def shortMark : Reader Unit := do
  match ← Reader.rest with
  | '?' :: rest => Reader.goOn rest
  | _ => pure ()

/-- Whether a character repeats the part in front of it. -/
def isRepetition (c : Char) : Bool := c == '?' || c == '*' || c == '+'

/-- Takes the branches of a group up to its closing bracket or the end of the pattern. `done` are
the branches before the current one and `branch` the parts of that one, the last ones first. -/
def branches (done : List (List Part)) (branch : List Part) : Nat → Reader (List (List Part))
  | 0 => failure
  | fuel + 1 => do
    Reader.space
    match ← Reader.rest with
    | [] => return (branch.reverse :: done).reverse
    | ')' :: _ => return (branch.reverse :: done).reverse
    | '|' :: rest => do
      Reader.goOn rest
      branches (branch.reverse :: done) [] fuel
    | '[' :: rest => do
      Reader.goOn rest
      let negated ← negation
      let inside ← classBody none true [] fuel
      branches done (.oneOf negated inside :: branch) fuel
    | '(' :: rest => do
      Reader.goOn rest
      let outside := (← get).spaced
      match ← opening with
      | .alone switches =>
        Reader.setSpaced ((switches.get? .spaced).getD outside)
        branches done (.switch switches :: branch) fuel
      | .group switches =>
        Reader.setSpaced ((switches.get? .spaced).getD outside)
        let inside ← branches [] [] fuel
        guard ((← Reader.take) = ')')
        Reader.setSpaced outside
        branches done (.group switches inside :: branch) fuel
    | c :: rest =>
      if isRepetition c then
        match branch with
        | [] => failure
        | .switch _ :: _ => failure
        | p :: before =>
          Reader.goOn rest
          shortMark
          branches done (.repeated p :: before) fuel
      else
        let p ← single
        branches done (p :: branch) fuel

/-- The branches of the pattern that a text is. -/
def read? (text : List Char) : Option (List (List Part)) := do
  let (found, cursor) ← branches [] [] (text.length + 1) ⟨text, false, []⟩
  guard cursor.rest.isEmpty
  return found

end Linkage.Pattern
