import Orm.Number.Rounding

/-!
# Floating-point numbers of 64 bits

A `Binary64` is its bits, so two of them are equal exactly if no operation tells them apart.
`Binary64.sameNumber` is the comparison of the numbers they stand for: it identifies the two zeros
and distinguishes a value that is not a number from itself.
-/

namespace Orm

/-- A floating-point number of 64 bits. -/
structure Binary64 where
  bits : UInt64
deriving DecidableEq, Inhabited

namespace Binary64

/-- The number of fractions that 52 bits tell apart. -/
abbrev fractionCount : Nat := 4503599627370496

/-- The number of exponents that 11 bits tell apart. -/
abbrev exponentCount : Nat := 2048

/-- The number of magnitudes, and the first bits of a negative value. -/
abbrev magnitudeCount : Nat := 9223372036854775808

/-- Whether the sign bit is set. -/
def isNegative (x : Binary64) : Bool := magnitudeCount ≤ x.bits.toNat

/-- The biased exponent. -/
def exponentField (x : Binary64) : Nat := x.bits.toNat / fractionCount % exponentCount

/-- The bits of the significand that are stored. -/
def fractionField (x : Binary64) : Nat := x.bits.toNat % fractionCount

/-- Whether the value is not a number. -/
def isNaN (x : Binary64) : Bool := x.exponentField = 2047 && x.fractionField != 0

/-- Whether the value is one of the two infinities. -/
def isInfinite (x : Binary64) : Bool := x.exponentField = 2047 && x.fractionField == 0

/-- Whether the value is a number other than the infinities. -/
def isFinite (x : Binary64) : Bool := x.exponentField != 2047

/-- The natural `m` of a finite value of magnitude `m * 2 ^ scale`. -/
def significand (x : Binary64) : Nat :=
  if x.exponentField = 0 then x.fractionField else fractionCount + x.fractionField

/-- The power of two of a finite value of magnitude `significand * 2 ^ scale`. -/
def scale (x : Binary64) : Int := (max x.exponentField 1 : Nat) - 1075

/-- Whether the value is one of the two zeros. -/
def isZero (x : Binary64) : Bool := x.exponentField = 0 && x.fractionField == 0

/-- A value from its sign and the bits of its magnitude. -/
def ofMagnitude (negative : Bool) (magnitude : Nat) : Binary64 :=
  ⟨.ofNat ((if negative then magnitudeCount else 0) + magnitude)⟩

/-- The infinity of the given sign. -/
def infinity (negative : Bool) : Binary64 := ofMagnitude negative (2047 * fractionCount)

/-- A value that is not a number. -/
def nan : Binary64 := ofMagnitude false (2047 * fractionCount + fractionCount / 2)

/-- The zero without sign. -/
def zero : Binary64 := ⟨0⟩

/-- The value of the given sign with a magnitude that the format holds exactly, and the infinity
for `none`. -/
def ofRounded (negative : Bool) : Option (Nat × Int) → Binary64
  | none => infinity negative
  | some (significand, scale) =>
      ofMagnitude negative
        (if significand < fractionCount then significand
         else (scale + 1075).toNat * fractionCount + (significand - fractionCount))

/-- The nearest value to the quotient `num / den` with the given sign. -/
def ofRatio (negative : Bool) (num den : Nat) : Binary64 :=
  ofRounded negative (BinaryFormat.double.round num den)

/-- The nearest value to an integer. -/
def ofInt (n : Int) : Binary64 := ofRatio (n < 0) n.natAbs 1

/-- The integer that a value stands for, if it is one. -/
def toInt? (x : Binary64) : Option Int :=
  if !x.isFinite then none
  else
    let num := scaledNum 1 (-x.scale) * x.significand
    let den := scaledDen 1 (-x.scale)
    if num % den = 0 then
      some (if x.isNegative then -(num / den : Nat) else (num / den : Nat))
    else none

/-- Whether two values stand for the same number. -/
def sameNumber (left right : Binary64) : Bool :=
  !left.isNaN && !right.isNaN && (left == right || left.isZero && right.isZero)

/-- The nearest value with a significand of 24 bits and the exponents of 32-bit numbers. -/
def toSingle (x : Binary64) : Binary64 :=
  if !x.isFinite then x
  else
    match BinaryFormat.single.round
        (scaledNum x.significand (-x.scale)) (scaledDen 1 (-x.scale)) with
    | none => infinity x.isNegative
    | some (significand, scale) =>
        ofRatio x.isNegative (scaledNum significand (-scale)) (scaledDen 1 (-scale))

end Binary64

end Orm
