import Linkage.Text.Numeral
import Linkage.Toml.Scan

/-!
Quoted texts. In double quotes a backslash starts an escape, in single quotes it does not; three
quotes of either kind enclose a text of several lines.
-/
namespace Linkage.Toml

/-- Takes a code point of `count` hexadecimal digits. -/
def codePoint (count : Nat) : Scan Char := do
  let digits ← (List.replicate count ()).mapM fun _ => do
    let c ← Scan.satisfy fun c => (Text.hexDigit? c).isSome
    return (Text.hexDigit? c).getD 0
  let n := digits.foldl (fun value digit => value * 16 + digit) 0
  if n.isValidChar then return Char.ofNat n else failure

/-- Takes an escape. -/
def escape : Scan Char := do
  Scan.char '\\'
  match ← Scan.satisfy fun _ => true with
  | 'b' => return Char.ofNat 8
  | 't' => return '\t'
  | 'n' => return '\n'
  | 'f' => return Char.ofNat 12
  | 'r' => return '\r'
  | '"' => return '"'
  | '\\' => return '\\'
  | 'u' => codePoint 4
  | 'U' => codePoint 8
  | _ => failure

/-- Takes a character that stands for itself between quotes. -/
def plainChar (quote : Char) : Scan Char :=
  Scan.satisfy fun c => isTextChar c && c != quote && !(quote == '"' && c == '\\')

/-- Takes a character of a text in quotes. -/
def quotedChar (quote : Char) : Scan Char :=
  plainChar quote <|> (do guard (quote == '"'); escape)

/-- Takes a text in quotes on one line. -/
def shortQuote (quote : Char) : Scan String := do
  Scan.char quote
  let text ← Scan.many (quotedChar quote)
  Scan.char quote
  return String.ofList text

/-- Takes a backslash at the end of a line with all the space and line ends that follow. -/
def joinedLines : Scan Unit := do
  Scan.char '\\'
  space
  newline
  discard (Scan.many (newline <|> discard (Scan.satisfy isSpace)))

/-- Takes one or two quotes that do not belong to the end of a text of several lines. -/
def innerQuotes (quote : Char) : Scan (List Char) := do
  let quotes ← Scan.takeWhile (· == quote)
  guard (1 ≤ quotes.length && quotes.length ≤ 2)
  return quotes

/-- Takes a part of a text of several lines. Every end of a line counts as a single character. -/
def longPart (quote : Char) : Scan (List Char) :=
  (do newline; return ['\n'])
    <|> (do guard (quote == '"'); joinedLines; return [])
    <|> (do return [← quotedChar quote])
    <|> innerQuotes quote

/-- Takes a text in three quotes. A line end right after the opening quotes does not count, and the
text may itself end with one or two quotes. -/
def longQuote (quote : Char) : Scan String := do
  let fence := String.ofList [quote, quote, quote]
  Scan.word fence
  discard (Scan.optional newline)
  let parts ← Scan.many (longPart quote)
  let quotes ← Scan.takeWhile (· == quote)
  guard (3 ≤ quotes.length && quotes.length ≤ 5)
  return String.ofList (parts.flatten ++ quotes.drop 3)

/-- Takes a quoted text. -/
def quote (mark : Char) : Scan String := longQuote mark <|> shortQuote mark

end Linkage.Toml
