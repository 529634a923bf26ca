import Orm.Json.Basic
import Orm.Number.Reading

/-!
# Numbers of JSON documents

A number that is written as an integer and fits 64 bits is one. Any other is a significand of at
most 64 bits times a power of ten, and its value is rounded in steps: the significand, the power,
and their product or quotient. Of more digits than the significand has room for, the first ones
count.
-/

namespace Orm

/-- The nearest number of the format to `num * 2 ^ scale / den`. -/
def BinaryFormat.roundScaled (format : BinaryFormat) (num den : Nat) (scale : Int) :
    Option (Nat × Int) :=
  format.round (scaledDen num scale) (scaledDen den (-scale))

/-- The rounded product of two numbers of the format. -/
def BinaryFormat.times (format : BinaryFormat) (left right : Nat × Int) : Option (Nat × Int) :=
  format.roundScaled (left.1 * right.1) 1 (left.2 + right.2)

/-- The rounded quotient of two numbers of the format. -/
def BinaryFormat.quotient (format : BinaryFormat) (left right : Nat × Int) : Option (Nat × Int) :=
  format.roundScaled left.1 right.1 (left.2 - right.2)

namespace Json

/-- The greatest power of ten that is a finite number. -/
abbrev greatestPower : Nat := 308

/-- The power of ten with the given exponent, rounded. -/
def powerOfTen (exponent : Nat) : Option (Nat × Int) :=
  BinaryFormat.double.round (Nat.pow 10 exponent) 1

/-- The significand of 64 bits times a power of ten, rounded at every step; `none` is a number
beyond the greatest one. A power below the range is divided by in two steps. -/
def roundedInSteps (significand : Nat) (exponent : Int) : Option (Nat × Int) := do
  let start ← BinaryFormat.double.round significand 1
  if significand = 0 then return start
  else if 0 ≤ exponent then
    if greatestPower < exponent then none
    else BinaryFormat.double.times start (← powerOfTen exponent.toNat)
  else if -greatestPower ≤ exponent then
    BinaryFormat.double.quotient start (← powerOfTen (-exponent).toNat)
  else if -(2 * greatestPower) ≤ exponent then
    let reduced ← BinaryFormat.double.quotient start (← powerOfTen greatestPower)
    BinaryFormat.double.quotient reduced (← powerOfTen (-exponent - greatestPower).toNat)
  else BinaryFormat.double.round 0 1

/-- Appends digits to a significand as long as it stays below the bound of 64 bits, and gives what
is left of them. -/
def appendDigits (significand : Nat) : List Char → Nat × List Char
  | [] => (significand, [])
  | c :: rest =>
      let longer := 10 * significand + digitValue c
      if longer < UInt64.size then appendDigits longer rest else (significand, c :: rest)

/-- The value of the digits before and after the point and the exponent; `none` is a number beyond
the greatest one. -/
def floatOfDigits? (negative : Bool) (whole fraction : List Char) (exponent : Int) :
    Option Binary64 :=
  let (significand, skipped) := appendDigits 0 whole
  -- A digit that found no room in front of the point counts as a power of ten.
  let (significand, unused) := appendDigits significand fraction
  let used := fraction.length - unused.length
  (roundedInSteps significand (exponent + skipped.length - used)).map fun magnitude =>
    .ofRounded negative magnitude

/-- The digits after a point, or nothing without one, and what follows. -/
def readFractionPart? : List Char → Option (Option (List Char) × List Char)
  | '.' :: tail =>
      let digits := tail.takeWhile Char.isDigit
      if digits.isEmpty then none else some (some digits, tail.dropWhile Char.isDigit)
  | other => some (none, other)

/-- The exponent after the letter e, or nothing without one, and what follows. -/
def readExponentPart? : List Char → Option (Option Int × List Char)
  | [] => some (none, [])
  | c :: tail =>
      if c = 'e' ∨ c = 'E' then
        let (minus, digits) := readSign tail
        let used := digits.takeWhile Char.isDigit
        if used.isEmpty then none
        else
          let size : Int := digitsValue used
          some (some (if minus then -size else size), digits.dropWhile Char.isDigit)
      else some (none, c :: tail)

/-- The integers that are kept as such: those of 64 bits with or without a sign, but for a zero
with a sign. -/
def isInteger (negative : Bool) (n : Int) : Bool :=
  Int64.minValue.toInt ≤ n && n < UInt64.size && !(negative && n == 0)

/-- A number without its sign: no zero in front of other digits, and digits on both sides of a
point and after an exponent. A number beyond the greatest one is unusable. -/
def readNumber? (negative : Bool) (input : List Char) : Option (Json × List Char) := do
  let whole := input.takeWhile Char.isDigit
  if whole.isEmpty ∨ (whole.head? = some '0' ∧ 1 < whole.length) then none
  let (fraction, rest) ← readFractionPart? (input.dropWhile Char.isDigit)
  let (exponent, rest) ← readExponentPart? rest
  let integer : Int := if negative then -(digitsValue whole : Int) else digitsValue whole
  if fraction.isNone && exponent.isNone && isInteger negative integer then
    return (.int integer, rest)
  else match floatOfDigits? negative whole (fraction.getD []) (exponent.getD 0) with
    | some value => return (.float value, rest)
    | none => return (.unusable, rest)

end Json

end Orm
