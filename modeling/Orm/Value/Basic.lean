import Orm.Calendar.Pattern
import Orm.Number.Shortest
import Orm.Text.Escaped

/-!
# Column values

A `Value` is what one column of one row holds. Two values are equal in the logic if they are the
same data; `Value.same` compares them as the database would and so agrees with the comparison of
floating-point numbers.
-/

namespace Orm

/-- The value of a column. -/
inductive Value
  | null
  | bool (flag : Bool)
  | int (number : Int64)
  | float (number : Binary64)
  | text (content : String)
  | date (day : Date)
  | dateTime (moment : DateTime)
  | blob (bytes : List UInt8)
  | array (items : List Value)
deriving Inhabited

namespace Value

mutual
/-- Decides whether two values are the same data. -/
def decideEq : (left right : Value) → Decidable (left = right)
  | .null, .null => isTrue rfl
  | .bool a, .bool b => decidable_of_iff (a = b) (by simp)
  | .int a, .int b => decidable_of_iff (a = b) (by simp)
  | .float a, .float b => decidable_of_iff (a = b) (by simp)
  | .text a, .text b => decidable_of_iff (a = b) (by simp)
  | .date a, .date b => decidable_of_iff (a = b) (by simp)
  | .dateTime a, .dateTime b => decidable_of_iff (a = b) (by simp)
  | .blob a, .blob b => decidable_of_iff (a = b) (by simp)
  | .array a, .array b =>
      match decideEqList a b with
      | isTrue h => isTrue (by rw [h])
      | isFalse h => isFalse (by simpa using h)
  | .null, .bool _ | .null, .int _ | .null, .float _ | .null, .text _ | .null, .date _
  | .null, .dateTime _ | .null, .blob _ | .null, .array _
  | .bool _, .null | .bool _, .int _ | .bool _, .float _ | .bool _, .text _ | .bool _, .date _
  | .bool _, .dateTime _ | .bool _, .blob _ | .bool _, .array _
  | .int _, .null | .int _, .bool _ | .int _, .float _ | .int _, .text _ | .int _, .date _
  | .int _, .dateTime _ | .int _, .blob _ | .int _, .array _
  | .float _, .null | .float _, .bool _ | .float _, .int _ | .float _, .text _ | .float _, .date _
  | .float _, .dateTime _ | .float _, .blob _ | .float _, .array _
  | .text _, .null | .text _, .bool _ | .text _, .int _ | .text _, .float _ | .text _, .date _
  | .text _, .dateTime _ | .text _, .blob _ | .text _, .array _
  | .date _, .null | .date _, .bool _ | .date _, .int _ | .date _, .float _ | .date _, .text _
  | .date _, .dateTime _ | .date _, .blob _ | .date _, .array _
  | .dateTime _, .null | .dateTime _, .bool _ | .dateTime _, .int _ | .dateTime _, .float _
  | .dateTime _, .text _ | .dateTime _, .date _ | .dateTime _, .blob _ | .dateTime _, .array _
  | .blob _, .null | .blob _, .bool _ | .blob _, .int _ | .blob _, .float _ | .blob _, .text _
  | .blob _, .date _ | .blob _, .dateTime _ | .blob _, .array _
  | .array _, .null | .array _, .bool _ | .array _, .int _ | .array _, .float _ | .array _, .text _
  | .array _, .date _ | .array _, .dateTime _ | .array _, .blob _ => isFalse nofun

/-- Decides whether two lists of values are the same data. -/
def decideEqList : (left right : List Value) → Decidable (left = right)
  | [], [] => isTrue rfl
  | [], _ :: _ => isFalse nofun
  | _ :: _, [] => isFalse nofun
  | a :: rest, b :: others =>
      match decideEq a b, decideEqList rest others with
      | isTrue h, isTrue k => isTrue (by rw [h, k])
      | isFalse h, _ => isFalse fun same => h (List.cons.inj same).1
      | _, isFalse k => isFalse fun same => k (List.cons.inj same).2
end

instance : DecidableEq Value := decideEq

/-- Whether the value is the null of the database. -/
def isNull : Value → Bool
  | .null => true
  | _ => false

/-- The kind of a value, as diagnostics name it. -/
def kind : Value → String
  | .null => "null"
  | .bool _ => "bool"
  | .int _ => "int"
  | .float _ => "float"
  | .text _ => "text"
  | .date _ => "date"
  | .dateTime _ => "datetime"
  | .blob _ => "blob"
  | .array _ => "array"

/-- The content of a text. -/
def asText? : Value → Option String
  | .text content => some content
  | _ => none

mutual
/-- Whether two values hold the same data, floating-point numbers being compared as numbers. -/
def same : Value → Value → Bool
  | .null, .null => true
  | .bool a, .bool b => a == b
  | .int a, .int b => a == b
  | .float a, .float b => a.sameNumber b
  | .text a, .text b => a == b
  | .date a, .date b => a == b
  | .dateTime a, .dateTime b => a == b
  | .blob a, .blob b => a == b
  | .array a, .array b => sameItems a b
  | _, _ => false

/-- Whether two lists hold the same values. -/
def sameItems : List Value → List Value → Bool
  | [], [] => true
  | a :: rest, b :: others => same a b && sameItems rest others
  | _, _ => false
end

end Value

/-- A floating-point number with the fewest digits that read back, never with an exponent; of two
equally near numbers the greater is written. -/
def Binary64.text (x : Binary64) : List Char :=
  if x.isNaN then ['N', 'a', 'N']
  else
    (if x.isNegative then ['-'] else []) ++
      (if x.isInfinite then ['i', 'n', 'f'] else (x.shortest .upward).positional 0)

/-- The two upper-case hexadecimal digits of a byte. -/
def upperHexByte (byte : UInt8) : List Char :=
  let digits := (Nat.toDigits 16 byte.toNat).map Char.toUpper
  List.replicate (2 - digits.length) '0' ++ digits

namespace Value

mutual
/-- The text of a value. -/
def display : Value → String
  | .null => "NULL"
  | .bool flag => if flag then "true" else "false"
  | .int number => intText number.toInt
  | .float number => String.ofList number.text
  | .text content => content
  | .date day => String.ofList (Pattern.date.write (.ofDate day))
  | .dateTime moment => String.ofList (Pattern.dateTime.write (.ofDateTime moment))
  | .blob bytes => String.ofList ('0' :: 'x' :: bytes.flatMap upperHexByte)
  | .array items => "\x7b" ++ displayItems items ++ "\x7d"

/-- The texts of values, with commas between them. -/
def displayItems : List Value → String
  | [] => ""
  | [item] => display item
  | item :: rest => display item ++ "," ++ displayItems rest
end

end Value

end Orm
