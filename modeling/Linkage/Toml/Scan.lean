/-!
Scanning a text from the left. A scan either takes a part of the text from the front and gives a
result, or fails and takes nothing.
-/
namespace Linkage.Toml

/-- What is left of a text, and the byte offset at which it starts. -/
structure Cursor where
  offset : Nat
  rest : List Char
  deriving DecidableEq, Repr

/-- A scan with a result. -/
abbrev Scan := StateT Cursor Option

namespace Scan
variable {α : Type}

/-- Where the scan stands. -/
def here : Scan Nat := return (← get).offset

/-- The next character, which is not taken. -/
def peek? : Scan (Option Char) := return (← get).rest.head?

/-- Takes a character of a class. -/
def satisfy (isMember : Char → Bool) : Scan Char := fun c =>
  match c.rest with
  | [] => none
  | x :: rest => if isMember x then some (x, ⟨c.offset + x.utf8Size, rest⟩) else none

/-- Takes a given character. -/
def char (x : Char) : Scan Unit := discard (satisfy (· == x))

/-- Takes given characters. -/
def word (text : String) : Scan Unit := text.toList.forM char

/-- Tries a scan; it is no failure if there is nothing to take. -/
def optional (p : Scan α) : Scan (Option α) := (some <$> p) <|> pure none

/-- Repeats a scan until it fails, at most `limit` times. -/
def repeated (p : Scan α) : Nat → Scan (List α)
  | 0 => pure []
  | limit + 1 => do
    match ← optional p with
    | none => return []
    | some a => return a :: (← repeated p limit)

/-- Repeats a scan until it fails. A scan that takes something each time is not cut short, since it
takes no more often than there are characters. -/
def many (p : Scan α) : Scan (List α) := do repeated p (← get).rest.length

/-- Takes characters of a class, as many as there are. -/
def takeWhile (isMember : Char → Bool) : Scan (List Char) := many (satisfy isMember)

/-- Repeats a scan with separators between; there may be nothing. -/
def separated (p : Scan α) (separator : Scan Unit) : Scan (List α) := do
  match ← optional p with
  | none => return []
  | some first => return first :: (← many (do separator; p))

/-- Succeeds at the end of the text. -/
def atEnd : Scan Unit := do guard (← get).rest.isEmpty

/-- Runs a scan on a text, which it must take as a whole. -/
def run? (p : Scan α) (text : String) : Option α := do
  let (a, c) ← p ⟨0, text.toList⟩
  guard c.rest.isEmpty
  return a

end Scan

/-- Blanks and tabs. -/
def isSpace (c : Char) : Bool := c == ' ' || c == '\t'

/-- Takes blanks and tabs. -/
def space : Scan Unit := discard (Scan.takeWhile isSpace)

/-- Takes the end of a line. -/
def newline : Scan Unit := Scan.char '\n' <|> Scan.word "\r\n"

/-- The characters that a comment and a quoted text can hold: all but control characters, of which
only the tab is allowed. -/
def isTextChar (c : Char) : Bool := c == '\t' || (0x20 ≤ c.toNat && c.toNat != 0x7F)

/-- Takes a comment up to the end of the line. -/
def comment : Scan Unit := do
  Scan.char '#'
  discard (Scan.takeWhile isTextChar)

/-- Takes what may stand after the end of a statement, and the end of the line. -/
def lineEnd : Scan Unit := do
  space
  discard (Scan.optional comment)
  newline <|> Scan.atEnd

/-- Takes what may stand between the items of a list: space, ends of lines, and comments. -/
def gap : Scan Unit := do
  space
  discard (Scan.many do
    discard (Scan.optional comment)
    newline
    space)

end Linkage.Toml
