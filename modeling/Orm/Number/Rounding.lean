/-!
# Rounding to a binary floating-point format

A quotient of naturals is rounded to the nearest number `significand * 2 ^ scale` of a format, a
tie going to the even significand. All arithmetic is exact.
-/

namespace Orm

/-- A binary floating-point format: its significands have at most `precision` bits and its scales
lie between `minScale` and `maxScale`. -/
structure BinaryFormat where
  precision : Nat
  minScale : Int
  maxScale : Int

/-- The least natural with too many bits for a significand of a format. -/
def BinaryFormat.bound (format : BinaryFormat) : Nat := Nat.pow 2 format.precision

/-- The format of 64 bits. -/
def BinaryFormat.double : BinaryFormat := ⟨53, -1074, 971⟩

/-- The format of 32 bits. -/
def BinaryFormat.single : BinaryFormat := ⟨24, -149, 104⟩

/-- A quotient rounded to the nearest natural, a tie going to the even one. -/
def roundHalfEven (num den : Nat) : Nat :=
  let quotient := num / den
  let rest := num % den
  if 2 * rest < den then quotient
  else if den < 2 * rest then quotient + 1
  else quotient + quotient % 2

/-- The numerator of `num / (den * 2 ^ scale)` written without negative powers. -/
def scaledNum (num : Nat) (scale : Int) : Nat := num * Nat.pow 2 (-scale).toNat

/-- The denominator of `num / (den * 2 ^ scale)` written without negative powers. -/
def scaledDen (den : Nat) (scale : Int) : Nat := den * Nat.pow 2 scale.toNat

/-- The scale at which the significand of `num / den` has exactly the precision of the format, or
the least scale of the format if that is greater. -/
def BinaryFormat.scaleOf (format : BinaryFormat) (num den : Nat) : Int :=
  -- The lengths of the two numbers fix the scale up to one.
  let guess : Int := num.log2 - den.log2 - format.precision
  let exact :=
    if scaledNum num guess < scaledDen den guess * format.bound then guess else guess + 1
  max exact format.minScale

/-- The nearest number of the format to `num / den`, as significand and scale, or `none` if it
lies beyond the greatest one. -/
def BinaryFormat.round (format : BinaryFormat) (num den : Nat) : Option (Nat × Int) :=
  if num = 0 then some (0, format.minScale)
  else
    let scale := format.scaleOf num den
    let rounded := roundHalfEven (scaledNum num scale) (scaledDen den scale)
    -- Rounding up can give a power of two that is one bit too long.
    let (significand, scale) :=
      if rounded = format.bound then (format.bound / 2, scale + 1)
      else (rounded, scale)
    if scale ≤ format.maxScale then some (significand, scale) else none

end Orm
