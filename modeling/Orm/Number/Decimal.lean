/-!
# Decimal notation

A `Decimal` is a natural times a power of ten. `Decimal.positional` writes it without an exponent,
`Decimal.scientific` with one; `natDigits` writes a natural.
-/

namespace Orm

/-- The digits of a natural in base ten. -/
def natDigits (n : Nat) : List Char := Nat.toDigits 10 n

/-- The digits of a natural, with zeros in front up to the given width. -/
def paddedDigits (width n : Nat) : List Char :=
  let digits := natDigits n
  List.replicate (width - digits.length) '0' ++ digits

/-- The decimal text of an integer. -/
def intText (n : Int) : String :=
  String.ofList ((if n < 0 then ['-'] else []) ++ natDigits n.natAbs)

/-- The number `digits * 10 ^ exponent`. -/
structure Decimal where
  digits : Nat
  exponent : Int
deriving DecidableEq, Repr

namespace Decimal

/-- A natural without its trailing zeros, with their number added to `exponent`; at most `fuel`
zeros are taken away. -/
def stripZeros : Nat → Nat → Int → Decimal
  | 0, digits, exponent => ⟨digits, exponent⟩
  | fuel + 1, digits, exponent =>
      if digits % 10 = 0 then stripZeros fuel (digits / 10) (exponent + 1)
      else ⟨digits, exponent⟩

/-- Where the point stands: the number of digits before it, negative if zeros follow it. -/
def point (d : Decimal) : Int := (natDigits d.digits).length + d.exponent

/-- The positional text, with at least `places` digits after the point. -/
def positional (places : Nat) (d : Decimal) : List Char :=
  let digits := natDigits d.digits
  if 0 ≤ d.exponent then
    digits ++ List.replicate d.exponent.toNat '0' ++
      (if places = 0 then [] else '.' :: List.replicate places '0')
  else
    let after := (-d.exponent).toNat
    let fraction :=
      List.replicate (after - digits.length) '0' ++ digits.drop (digits.length - after)
    let whole := digits.take (digits.length - after)
    (if whole.isEmpty then ['0'] else whole) ++ '.' :: fraction ++
      List.replicate (places - after) '0'

/-- The text with one digit before the point and an exponent after the letter e, in front of which
a positive exponent has the given mark. -/
def scientific (positive : List Char) (d : Decimal) : List Char :=
  let exponent := d.point - 1
  match natDigits d.digits with
  | [] => []
  | first :: rest =>
      first :: (if rest.isEmpty then [] else '.' :: rest) ++
        'e' :: (if 0 < exponent then positive else []) ++ (intText exponent).toList

end Decimal

end Orm
