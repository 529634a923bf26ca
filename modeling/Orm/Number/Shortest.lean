import Orm.Number.Binary64
import Orm.Number.Decimal

/-!
# The fewest digits that read back

`Binary64.shortest` finds, among the decimals that round to a finite value, one with the fewest
digits, and of those the nearest. The decimals with a given number of digits form a grid, and only
the two neighbours of the value on it need to be tried.
-/

namespace Orm

/-- Which of two equally near decimals is taken. -/
inductive DecimalTie
  | upward
  | toEven
deriving DecidableEq, Repr

namespace Binary64

/-- The weight of `10 ^ power` against `2 ^ scale`, as the two factors that bring a multiple of
the one and a multiple of the other to one unit. -/
def gridFactors (power scale : Int) : Nat × Nat :=
  (Nat.pow 10 power.toNat * Nat.pow 2 (-scale).toNat,
    Nat.pow 10 (-power).toNat * Nat.pow 2 scale.toNat)

/-- The number of digits before the point of `significand * 2 ^ scale`, negative if zeros follow
the point. The value is scaled up so far that it is no fraction. -/
def decimalPoint (significand : Nat) (scale : Int) : Int :=
  let raised := scaledNum (significand * Nat.pow 10 400) (-scale) / scaledDen 1 (-scale)
  (natDigits raised).length - (400 : Int)

/-- The decimal with power `power` that is nearest to a value among those that round to it, if
there is one. -/
def nearestOnGrid? (tie : DecimalTie) (significand : Nat) (scale : Int) (narrowBelow : Bool)
    (power : Int) : Option Nat :=
  let (decimalUnit, binaryUnit) := gridFactors power (scale - 2)
  let value := 4 * significand * binaryUnit
  let low := (4 * significand - (if narrowBelow then 1 else 2)) * binaryUnit
  let high := (4 * significand + 2) * binaryUnit
  let readsBack (digits : Nat) : Bool :=
    let candidate := digits * decimalUnit
    if significand % 2 = 0 then low ≤ candidate && candidate ≤ high
    else low < candidate && candidate < high
  let below := value / decimalUnit
  let above := below + 1
  match readsBack below, readsBack above with
  | false, false => none
  | true, false => some below
  | false, true => some above
  | true, true =>
      let twice := 2 * value
      let middle := (below + above) * decimalUnit
      if twice < middle then some below
      else if middle < twice then some above
      else match tie with
        | .upward => some above
        | .toEven => some (if below % 2 = 0 then below else above)

/-- The first hit on the grids of one, two and more digits; at most `fuel` grids are tried. -/
def searchGrids (tie : DecimalTie) (significand : Nat) (scale : Int) (narrowBelow : Bool) :
    Nat → Int → Option Decimal
  | 0, _ => none
  | fuel + 1, power =>
      match nearestOnGrid? tie significand scale narrowBelow power with
      | some digits => some ⟨digits, power⟩
      | none => searchGrids tie significand scale narrowBelow fuel (power - 1)

/-- The decimal of fewest digits that reads back as the magnitude of a finite value. -/
def shortest (tie : DecimalTie) (x : Binary64) : Decimal :=
  if x.isZero then ⟨0, 0⟩
  else
    let narrowBelow := 1 < x.exponentField && x.fractionField == 0
    let power := decimalPoint x.significand x.scale - 1
    match searchGrids tie x.significand x.scale narrowBelow 17 power with
    | some found => Decimal.stripZeros 400 found.digits found.exponent
    | none => ⟨scaledNum x.significand (-x.scale) * Nat.pow 5 (-x.scale).toNat, min x.scale 0⟩

end Binary64

end Orm
