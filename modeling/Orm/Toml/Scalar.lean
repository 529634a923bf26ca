import Orm.Calendar.Moment
import Orm.Toml.Basic
import Orm.Toml.Lexeme

/-!
# Values without parts

`Lexeme.value?` is the value that a lexeme stands for: a text, a truth value, an integer, a number
with a fraction or an exponent, or a date, a time or both. What is written like an integer but has
no value as one is a number that is no integer.
-/

namespace Orm

namespace Toml

/-- The value of a digit of a base. -/
def digitOf? (base : Nat) (c : Char) : Option Nat := do
  let value ← hexDigit? c
  if value < base then some value else none

/-- Whether a character is a digit of the largest base. -/
def isHexDigit (c : Char) : Bool := (hexDigit? c).isSome

/-- Whether every underscore stands between two digits; `afterDigit` says whether one could stand
at the front. -/
def isSeparated (isDigit : Char → Bool) : Bool → List Char → Bool
  | _, [] => true
  | afterDigit, c :: rest =>
      if c = '_' then afterDigit && rest.head?.any isDigit && isSeparated isDigit false rest
      else isSeparated isDigit (isDigit c) rest

/-- A number without the underscores between its digits. -/
def withoutUnderscores (chars : List Char) : List Char := chars.filter (· != '_')

/-- Whether a sign stands in front of a number. It then counts as a digit in front of an
underscore. -/
def isSigned (chars : List Char) : Bool := (readSign chars).2.length < chars.length

/-- The base of an integer, and what follows the mark of its base. -/
def baseOf : List Char → Nat × List Char
  | '0' :: 'x' :: digits => (16, digits)
  | '0' :: 'o' :: digits => (8, digits)
  | '0' :: 'b' :: digits => (2, digits)
  | chars => (10, chars)

/-- Whether a text is written like an integer in base ten, with an optional sign and no zero in
front. Once an underscore has shown that it is no other kind of number, what stands beside the
underscores may be any digit of the largest base, and what stands away from them is not looked
at. -/
def isDecimal (chars : List Char) : Bool :=
  let digits := (readSign chars).2
  let rest := digits.dropWhile Char.isDigit
  !digits.isEmpty && !(digits.head? = some '0' && 1 < digits.length) &&
    (rest.isEmpty ||
      rest.head? = some '_' &&
        rest.all (fun c => c != ' ' && c != '.' && c != 'e' && c != 'E') &&
        isSeparated isHexDigit (isSigned chars) digits)

/-- Whether a text is written like an integer: in base ten, or in another base after its mark,
where no digit has to follow. -/
def isInteger (chars : List Char) : Bool :=
  let (base, digits) := baseOf chars
  if base = 10 then isDecimal chars
  else digits.all (fun c => c = '_' || (digitOf? base c).isSome) &&
    isSeparated isHexDigit false digits

/-- The value of a text that is written like an integer, if it has digits and all of them are
digits of its base. -/
def readInteger? (chars : List Char) : Option Int := do
  let (base, written) := baseOf chars
  let (negative, digits) := readSign (withoutUnderscores written)
  if digits.isEmpty then none
  let value ← digits.foldlM (fun value c => (digitOf? base c).map (base * value + ·)) 0
  return if negative then -(value : Int) else value

/-- Whether a text is a number with a fraction or an exponent or both, or the name of an infinity
or of the value that is not a number, with an optional sign. -/
def isFloat (chars : List Char) : Bool :=
  let unsigned := (readSign chars).2
  let digits := withoutUnderscores unsigned
  let significand := digits.takeWhile fun c => c != 'e' && c != 'E'
  let whole := significand.takeWhile (· != '.')
  let fraction := significand.drop whole.length
  let exponent := digits.drop significand.length
  unsigned == ['i', 'n', 'f'] || unsigned == ['n', 'a', 'n'] ||
    (readNat? whole).isSome && !(unsigned.head? = some '0' && 1 < whole.length) &&
      (fraction.isEmpty || (readNat? (fraction.drop 1)).isSome) &&
      (exponent.isEmpty || (readNat? (readSign (exponent.drop 1)).2).isSome) &&
      !(fraction.isEmpty && exponent.isEmpty) &&
      isSeparated Char.isDigit (isSigned chars) unsigned

/-- The number of a run of exactly `width` digits, and what follows. -/
def readField? (width : Nat) (chars : List Char) : Option (Nat × List Char) :=
  let digits := chars.takeWhile Char.isDigit
  if digits.length = width then some (digitsValue digits, chars.drop width) else none

/-- What follows a date of the calendar: year, month and day with dashes between them. -/
def afterDate? (chars : List Char) : Option (List Char) := do
  let (year, '-' :: rest) ← readField? 4 chars | none
  let (month, '-' :: rest) ← readField? 2 rest | none
  let (day, rest) ← readField? 2 rest
  if (Date.ofParts? year month day).isSome then some rest else none

/-- What follows hours and minutes with a colon between them. -/
def afterHourMinute? (chars : List Char) : Option (List Char) := do
  let (hour, ':' :: rest) ← readField? 2 chars | none
  let (minute, rest) ← readField? 2 rest
  if hour < 24 ∧ minute < 60 then some rest else none

/-- What follows a time of day. It may go without seconds; seconds may have a fraction, and the
last one can be a leap second. -/
def afterTime? (chars : List Char) : Option (List Char) := do
  match ← afterHourMinute? chars with
  | ':' :: rest =>
      let (second, rest) ← readField? 2 rest
      if 60 < second then none
      match rest with
      | '.' :: rest =>
          if (rest.head?.any Char.isDigit) then some (rest.dropWhile Char.isDigit) else none
      | rest => some rest
  | rest => some rest

/-- Whether a text is the offset of a time zone, or nothing. -/
def isOffset : List Char → Bool
  | [] => true
  | c :: rest =>
      if c = 'Z' ∨ c = 'z' then rest.isEmpty
      else (c = '+' || c = '-') && afterHourMinute? rest == some []

/-- Whether a text is a date, a time, or a date and a time with an optional offset. -/
def isMoment (chars : List Char) : Bool :=
  match afterDate? chars with
  | some [] => true
  | some (c :: rest) =>
      (c = 'T' || c = 't' || c = ' ') && (afterTime? rest).any isOffset
  | none => afterTime? chars == some []

/-- The value of a run of characters without marks. -/
def ofBare? (chars : List Char) : Option Toml :=
  if chars = ['t', 'r', 'u', 'e'] then some (.bool true)
  else if chars = ['f', 'a', 'l', 's', 'e'] then some (.bool false)
  else if isInteger chars then
    match readInteger? chars with
    | some n => some (.int n)
    | none => some (.numeral (String.ofList chars))
  else if isFloat chars then some (.numeral (String.ofList chars))
  else if isMoment chars then some (.moment (String.ofList chars))
  else none

end Toml

/-- The value that a lexeme stands for. -/
def Lexeme.value? : Lexeme → Option Toml
  | .bare chars => Toml.ofBare? chars
  | written => written.text?.map .text

end Orm
