import Linkage.Number.Binary64
import Linkage.Settings.Value
import Linkage.Text.Numeral
import Linkage.Toml.Quote

/-!
Numbers: integers in four bases, and decimal numbers with a fraction or an exponent. Digits may be
set apart with single underscores.
-/
namespace Linkage.Toml

/-- Takes digits of a class, at least one, with underscores between digits; the underscores do not
count. -/
def digits (isDigit : Char → Bool) : Scan (List Char) := do
  let first ← Scan.satisfy isDigit
  let rest ← Scan.many do
    discard (Scan.optional (Scan.char '_'))
    Scan.satisfy isDigit
  return first :: rest

/-- Whether a character is a digit in a base. -/
def isDigitIn (base : Nat) (c : Char) : Bool :=
  match Text.hexDigit? c with
  | some value => value < base
  | none => false

/-- The number that digits denote in a base. -/
def numberIn (base : Nat) (digits : List Char) : Nat :=
  digits.foldl (fun value c => value * base + (Text.hexDigit? c).getD 0) 0

/-- Takes a sign and tells whether it is a minus; no sign counts as a plus. -/
def sign : Scan Bool := do
  match ← Scan.optional (Scan.satisfy fun c => c == '+' || c == '-') with
  | some c => return c == '-'
  | none => return false

/-- Takes the digits of a decimal integer, which has no zero in front. -/
def decimalDigits : Scan (List Char) :=
  (do Scan.char '0'; return ['0']) <|> digits (isDigitIn 10)

/-- One more than the greatest integer, which is one of 64 bits with a sign. -/
def integerBound : Int := 0x8000000000000000

/-- Takes an integer in a base other than ten. -/
def basedInteger (mark : String) (base : Nat) : Scan Int := do
  Scan.word mark
  return (numberIn base (← digits (isDigitIn base)) : Nat)

/-- Takes a decimal integer. -/
def decimalInteger : Scan Int := do
  let negative ← sign
  let value : Int := (numberIn 10 (← decimalDigits) : Nat)
  return if negative then -value else value

/-- Takes an integer. -/
def integer : Scan Value := do
  let value ← basedInteger "0x" 16 <|> basedInteger "0o" 8 <|> basedInteger "0b" 2
    <|> decimalInteger
  guard (-integerBound ≤ value && value < integerBound)
  return .integer value

/-- Takes an exponent. -/
def exponent : Scan Int := do
  discard (Scan.satisfy fun c => c == 'e' || c == 'E')
  let negative ← sign
  let value : Int := (numberIn 10 (← digits (isDigitIn 10)) : Nat)
  return if negative then -value else value

/-- Takes the digits after a point, with the point. -/
def fraction : Scan (List Char) := do
  Scan.char '.'
  digits (isDigitIn 10)

/-- Takes a number with a fraction or an exponent or both. One that is too great is refused; one
that is too far below zero is not. -/
def realNumber : Scan Value := do
  let negative ← sign
  let whole ← decimalDigits
  let decimals ← Scan.optional fraction
  let power ← Scan.optional exponent
  guard (decimals.isSome || power.isSome)
  let decimals := decimals.getD []
  let value := Binary64.ofDecimal negative (numberIn 10 (whole ++ decimals))
    (power.getD 0 - decimals.length)
  guard (value != .infinite false)
  return .real value

/-- Takes an infinite number, or what is no number. -/
def specialNumber : Scan Value := do
  let negative ← sign
  (do Scan.word "inf"; return .real (.infinite negative)) <|>
    (do Scan.word "nan"; return .real .nan)

end Linkage.Toml
