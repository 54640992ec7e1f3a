/-!
Numbers in 64-bit binary floating point. A decimal is read as the nearest such number, of two
equally near ones the one with the even mantissa; all arithmetic on the way is exact.
-/
namespace Linkage

/-- A number in 64-bit binary floating point. A finite one is `mantissa * 2 ^ exponent`, with the
sign apart; the exponent is the least one for which the mantissa has at most 53 bits. -/
inductive Binary64 where
  | nan
  | infinite (negative : Bool)
  | finite (negative : Bool) (mantissa : Nat) (exponent : Int)
  deriving DecidableEq, Repr

namespace Binary64

/-- The least exponent of a finite number. -/
def leastExponent : Int := -1074

/-- The greatest exponent of a finite number. -/
def greatestExponent : Int := 971

/-- A quotient rounded to the nearest whole number, a half to the even one. -/
def roundDiv (numerator denominator : Nat) : Nat :=
  let quotient := numerator / denominator
  let twice := 2 * (numerator % denominator)
  if denominator < twice || (twice == denominator && quotient % 2 == 1) then quotient + 1
  else quotient

/-- A fraction divided by a power of a base. -/
def shift (base : Nat) (power : Int) (numerator denominator : Nat) : Nat × Nat :=
  (numerator * base.pow (-power).toNat, denominator * base.pow power.toNat)

/-- The number of digits of a number in a base. -/
def digitCount (base n : Nat) : Nat := (Nat.toDigits base n).length

/-- The `k` for which a positive fraction is at least `base ^ (k - 1)` and less than `base ^ k`. -/
def magnitude (base numerator denominator : Nat) : Int :=
  let guess : Int := digitCount base numerator - digitCount base denominator
  let (above, below) := shift base guess numerator denominator
  if below ≤ above then guess + 1 else guess

/-- The number nearest to a fraction. -/
def ofFraction (negative : Bool) (numerator denominator : Nat) : Binary64 :=
  if numerator = 0 then .finite negative 0 leastExponent
  else
    let exponent := max (magnitude 2 numerator denominator - 53) leastExponent
    let (above, below) := shift 2 exponent numerator denominator
    let mantissa := roundDiv above below
    let (mantissa, exponent) :=
      if mantissa = 0x20000000000000 then (0x10000000000000, exponent + 1) else (mantissa, exponent)
    if greatestExponent < exponent then .infinite negative
    else .finite negative mantissa exponent

/-- The number nearest to `digits * 10 ^ exponent`. What has more than 310 digits before the point
is beyond all finite numbers, and what has more than 330 zeros after it is nearest to zero. -/
def ofDecimal (negative : Bool) (digits : Nat) (exponent : Int) : Binary64 :=
  let size := digitCount 10 digits + exponent
  if digits = 0 ∨ size < -330 then .finite negative 0 leastExponent
  else if 310 < size then .infinite negative
  else
    let (above, below) := shift 10 (-exponent) digits 1
    ofFraction negative above below

/-- A finite number as a multiple of the least positive one. -/
def multiple (negative : Bool) (mantissa : Nat) (exponent : Int) : Int :=
  let value : Nat := mantissa <<< (exponent - leastExponent).toNat
  if negative then -value else value

/-- The order of numbers by value, in which the two zeros are equal. What is no number comes
last. -/
def compareValues : Binary64 → Binary64 → Ordering
  | .nan, .nan => .eq
  | .nan, _ => .gt
  | _, .nan => .lt
  | .infinite a, .infinite b => compare b a
  | .infinite negative, _ => if negative then .lt else .gt
  | _, .infinite negative => if negative then .gt else .lt
  | .finite s m e, .finite t n f => compare (multiple s m e) (multiple t n f)

instance : Ord Binary64 where
  compare := compareValues

end Binary64
end Linkage
