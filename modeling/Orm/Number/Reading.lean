import Orm.Number.Binary64
import Orm.Number.Decimal

/-!
# Numbers read from text

`readInt?` accepts an optional sign and digits. `readBinary64?` accepts in addition a point, an
exponent, and the names of the infinities and of the value that is not a number; the value is the
nearest one to the decimal that is written. `readHex?` accepts hexadecimal digits.
-/

namespace Orm

/-- The value of a digit. -/
def digitValue (c : Char) : Nat := c.toNat - '0'.toNat

/-- The natural that a list of digits stands for. -/
def digitsValue (digits : List Char) : Nat :=
  digits.foldl (fun value c => 10 * value + digitValue c) 0

/-- The value of a hexadecimal digit. -/
def hexDigit? (c : Char) : Option Nat :=
  if c.isDigit then some (digitValue c)
  else if 'a' ≤ c ∧ c ≤ 'f' then some (c.toNat - 'a'.toNat + 10)
  else if 'A' ≤ c ∧ c ≤ 'F' then some (c.toNat - 'A'.toNat + 10)
  else none

/-- The natural that a list of hexadecimal digits stands for. -/
def readHex? (digits : List Char) : Option Nat :=
  digits.foldlM (fun value c => (hexDigit? c).map (16 * value + ·)) 0

/-- The sign of a number and the characters after it; a plus sign is dropped. -/
def readSign : List Char → Bool × List Char
  | '-' :: rest => (true, rest)
  | '+' :: rest => (false, rest)
  | text => (false, text)

/-- The natural that a text of at least one digit, and nothing else, stands for. -/
def readNat? (text : List Char) : Option Nat :=
  if !text.isEmpty && text.all Char.isDigit then some (digitsValue text) else none

/-- The integer that an optional sign and at least one digit stand for. -/
def readInt? (text : List Char) : Option Int :=
  let (negative, digits) := readSign text
  (readNat? digits).map fun n => if negative then -(n : Int) else n

/-- The value nearest to `digits * 10 ^ exponent`, where `count` is the number of digits.
An exponent far outside the range of the format decides the result alone. -/
def nearestBinary64 (negative : Bool) (digits count : Nat) (exponent : Int) : Binary64 :=
  if digits = 0 then .ofMagnitude negative 0
  else if 400 < count + exponent then .infinity negative
  else if count + exponent < -400 then .ofMagnitude negative 0
  else .ofRatio negative (digits * Nat.pow 10 exponent.toNat) (Nat.pow 10 (-exponent).toNat)

/-- The exponent that follows the digits of a number: nothing, or the letter e and an integer. -/
def readExponent? : List Char → Option Int
  | [] => some 0
  | c :: rest => if c = 'e' || c = 'E' then readInt? rest else none

/-- The value of digits, an optional point and an optional exponent. -/
def readUnsigned64? (negative : Bool) (text : List Char) : Option Binary64 :=
  let whole := text.takeWhile Char.isDigit
  let afterWhole := text.dropWhile Char.isDigit
  let (fraction, rest) := match afterWhole with
    | '.' :: tail => (tail.takeWhile Char.isDigit, tail.dropWhile Char.isDigit)
    | other => ([], other)
  if whole.isEmpty && fraction.isEmpty then none
  else
    (readExponent? rest).map fun exponent =>
      let digits := (whole ++ fraction).dropWhile (· = '0')
      nearestBinary64 negative (digitsValue digits) digits.length (exponent - fraction.length)

/-- The floating-point number that a text stands for. -/
def readBinary64? (text : List Char) : Option Binary64 :=
  let (negative, unsigned) := readSign text
  let name := String.ofList (unsigned.map Char.toLower)
  if name = "inf" || name = "infinity" then some (.infinity negative)
  else if name = "nan" then some .nan
  else readUnsigned64? negative unsigned

end Orm
