import Linkage.Number.Binary64
import Linkage.Text.Parts

/-!
The shortest decimal of a binary number: of the decimals that read back as the number, one with the
fewest digits, and of those the nearest.
-/
namespace Linkage

/-- The decimal `digits * 10 ^ exponent`. -/
structure Decimal where
  digits : Nat
  exponent : Int
  deriving DecidableEq, Repr

namespace Binary64

/-- The decimal `digits * 10 ^ power`, with a zero at the end of the digits taken into the power. -/
def decimal (digits : Nat) (power : Int) : Decimal :=
  if digits % 10 = 0 then ⟨digits / 10, power + 1⟩ else ⟨digits, power⟩

/-- A finite number without its sign as a fraction. -/
def fraction (mantissa : Nat) (exponent : Int) : Nat × Nat := shift 2 (-exponent) mantissa 1

/-- The decimal with `count` digits that reads back as a number, the nearer of two; the neighbours
of the number among the decimals with that many digits are tried. A digit more than asked for can
only be a zero. -/
def decimalWith? (mantissa : Nat) (exponent : Int) (count : Nat) : Option Decimal :=
  let (numerator, denominator) := fraction mantissa exponent
  let power := magnitude 10 numerator denominator - count
  let (above, below) := shift 10 power numerator denominator
  let nearest := roundDiv above below
  let lower := above / below
  let other := if nearest = lower then lower + 1 else lower
  ([nearest, other].find? fun digits =>
    ofDecimal false digits power == .finite false mantissa exponent).map (decimal · power)

/-- The shortest decimal of a finite number without its sign. Seventeen digits always suffice. -/
def shortest (mantissa : Nat) (exponent : Int) : Decimal :=
  if mantissa = 0 then ⟨0, 0⟩
  else ((List.range' 1 17).findSome? (decimalWith? mantissa exponent)).getD ⟨0, 0⟩

end Binary64

namespace Decimal

/-- The number of digits before the point. -/
def wholeDigits (d : Decimal) : Int := Binary64.digitCount 10 d.digits + d.exponent

/-- The decimal with a point and without an exponent; at least one digit stands on either side of
the point. -/
def positional (d : Decimal) : String :=
  let digits := toString d.digits
  if 0 ≤ d.exponent then digits ++ Text.repeated d.exponent.toNat "0" ++ ".0"
  else if 0 < d.wholeDigits then
    String.ofList (digits.toList.take d.wholeDigits.toNat) ++ "." ++
      String.ofList (digits.toList.drop d.wholeDigits.toNat)
  else "0." ++ Text.repeated (-d.wholeDigits).toNat "0" ++ digits

/-- The decimal with an exponent, which always has a sign, and its first digit before the point. -/
def scientific (d : Decimal) : String :=
  let power := d.wholeDigits - 1
  let exponent := (if power < 0 then "e" else "e+") ++ toString power
  match (toString d.digits).toList with
  | [] => exponent
  | [digit] => digit.toString ++ exponent
  | digit :: rest => digit.toString ++ "." ++ String.ofList rest ++ exponent

end Decimal

namespace Binary64

/-- A number as its shortest decimal. `isPositional` tells by the number of digits before the point
whether the decimal is written without an exponent. -/
def text (isPositional : Int → Bool) : Binary64 → String
  | .nan => "NaN"
  | .infinite negative => if negative then "-inf" else "inf"
  | .finite negative mantissa exponent =>
    let d := shortest mantissa exponent
    (if negative then "-" else "") ++
      (if isPositional d.wholeDigits then d.positional else d.scientific)

end Binary64
end Linkage
