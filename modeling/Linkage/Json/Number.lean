import Linkage.Settings.Value
import Linkage.Text.Numeral

/-!
JSON numbers. One without a point and an exponent is a whole number if that fits into 64 bits. Any
other is a real number, made from those of its first digits that fit into 64 bits by scaling them
with a power of ten; every step is rounded, so that the last digit can be off.
-/
namespace Linkage.Json

/-- A number as it is written: its sign, the digits before and after the point, and its exponent.
What is not written is empty. -/
structure Numeral where
  negative : Bool
  whole : List Char
  decimals : List Char
  exponent : Option Int
  deriving DecidableEq, Repr

/-- The sign that a text starts with, and the rest. -/
def splitSign : List Char → Bool × List Char
  | '-' :: rest => (true, rest)
  | '+' :: rest => (false, rest)
  | text => (false, text)

/-- The exponent that a text starts with, if there is one, and the rest. -/
def splitExponent? : List Char → Option (Option Int × List Char)
  | [] => some (none, [])
  | c :: rest => do
    if c = 'e' || c = 'E' then
      let (negative, rest) := splitSign rest
      let (digits, rest) := rest.span Char.isDigit
      guard !digits.isEmpty
      let value : Nat ← Text.digitsValue? 0 digits
      return (some (if negative then -(value : Int) else value), rest)
    else return (none, c :: rest)

/-- The number that a text starts with, and the rest. There is no zero in front of other digits, and
a point stands between digits. -/
def Numeral.split? (text : List Char) : Option (Numeral × List Char) := do
  let (negative, text) := match text with
    | '-' :: rest => (true, rest)
    | _ => (false, text)
  let (whole, text) := text.span Char.isDigit
  guard (!whole.isEmpty && (whole.head? != some '0' || whole.length == 1))
  let (decimals, text) ← match text with
    | '.' :: rest => do
      let (decimals, rest) := rest.span Char.isDigit
      guard !decimals.isEmpty
      pure (decimals, rest)
    | _ => pure ([], text)
  let (exponent, rest) ← splitExponent? text
  return (⟨negative, whole, decimals, exponent⟩, rest)

/-- One more than the greatest number of 64 bits. -/
def bound64 : Nat := 0x10000000000000000

/-- A number with digits added to it, up to the first that does not fit into 64 bits, and how many
have been added. -/
def addDigits (n : Nat) : List Char → Nat × Nat
  | [] => (n, 0)
  | c :: rest =>
    let next := n * 10 + (Text.digit? c).getD 0
    if next < bound64 then
      let (sum, count) := addDigits next rest
      (sum, count + 1)
    else (n, 0)

/-- The greatest power of ten that is a finite number. -/
def greatestPower : Nat := 308

/-- A number times a power of ten. The power of ten and the product are each rounded. -/
def scaled (x : Binary64) (power : Int) : Binary64 :=
  match x, Binary64.ofDecimal false 1 power.natAbs with
  | .finite negative m e, .finite _ n f =>
    let (above, below) :=
      if 0 ≤ power then Binary64.fraction (m * n) (e + f) else Binary64.shift 2 (f - e) m n
    Binary64.ofFraction negative above below
  | x, _ => x

/-- A number times any power of ten; one that is far below zero is reached in steps. -/
def scaledFar (x : Binary64) (power : Int) : Binary64 :=
  if x = .finite false 0 Binary64.leastExponent then x
  else if power < -greatestPower then
    scaledFar (scaled x (-greatestPower)) (power + greatestPower)
  else if greatestPower < power then .infinite false
  else scaled x power
termination_by (-power).toNat
decreasing_by simp only [greatestPower] at *; omega

namespace Numeral

/-- The digits that are kept, and the power of ten that they are scaled with. -/
def parts (n : Numeral) : Nat × Int :=
  let (start, count) := addDigits 0 n.whole
  let (significand, decimals) := addDigits start n.decimals
  (significand, (n.whole.length - count : Nat) - (decimals : Nat) + n.exponent.getD 0)

/-- The real number, if it is not too great. -/
def real? (n : Numeral) : Option Binary64 :=
  let (significand, power) := n.parts
  match scaledFar (.ofFraction false significand 1) power with
  | .finite _ mantissa exponent => some (.finite n.negative mantissa exponent)
  | _ => none

/-- The whole number, if the numeral is written as one and fits into 64 bits. Zero has no minus. -/
def whole? (n : Numeral) : Option Int := do
  guard (n.decimals.isEmpty && n.exponent.isNone)
  let value ← Text.digitsValue? 0 n.whole
  if n.negative then
    guard (0 < value && value ≤ 0x8000000000000000)
    return -value
  else
    guard (value < bound64)
    return value

/-- The value of a number. -/
def value? (n : Numeral) : Option Value :=
  (n.whole?.map .integer) <|> (n.real?.map .real)

end Numeral
end Linkage.Json
