import Orm.Text.LowerCase
import Orm.Value.Affinity
import Orm.Value.Basic

/-!
# Conversion between kinds of values

`Value.coerce` converts a value to the representation that a column of some affinity stores. Each
conversion fails in one of three ways, which `CoercionError` names.
-/

namespace Orm

open Text

/-- Why a value cannot be converted. -/
inductive CoercionError
  | incompatible (source target : String)
  | outOfRange (value target : String)
  | unreadable (text target : String)
deriving DecidableEq, Repr

/-- The text of a conversion error. -/
def CoercionError.message : CoercionError → String
  | .incompatible source target => s!"cannot convert {source} value to {target}"
  | .outOfRange value target => s!"value {value} is out of range for {target}"
  | .unreadable text target => s!"cannot parse '{text}' as {target}"

namespace Value

/-- The integers of 64 bits. -/
abbrev FitsInt64 (n : Int) : Prop := Int64.minValue.toInt ≤ n ∧ n ≤ Int64.maxValue.toInt

/-- A truth value: an integer counts as true unless it is zero, a text by its word. -/
def toBool : Value → Except CoercionError Bool
  | .bool flag => .ok flag
  | .int number => .ok (number != 0)
  | .text content =>
      let word := asciiLower (trim content)
      if word = "true" ∨ word = "1" ∨ word = "yes" then .ok true
      else if word = "false" ∨ word = "0" ∨ word = "no" then .ok false
      else .error (.unreadable content "bool")
  | other => .error (.incompatible other.kind "bool")

/-- An integer: a floating-point number must be one exactly. -/
def toInt : Value → Except CoercionError Int64
  | .int number => .ok number
  | .bool flag => .ok (if flag then 1 else 0)
  | .float number =>
      match number.toInt? with
      | some n =>
          if FitsInt64 n then .ok (.ofInt n)
          else .error (.outOfRange (String.ofList number.text) "int")
      | none => .error (.outOfRange (String.ofList number.text) "int")
  | .text content =>
      match readInt? (trimBlanks content.toList) with
      | some n =>
          if FitsInt64 n then .ok (.ofInt n) else .error (.unreadable content "int")
      | none => .error (.unreadable content "int")
  | other => .error (.incompatible other.kind "int")

/-- A floating-point number: an integer gives the nearest one. -/
def toFloat : Value → Except CoercionError Binary64
  | .float number => .ok number
  | .int number => .ok (.ofInt number.toInt)
  | .text content =>
      match readBinary64? (trimBlanks content.toList) with
      | some number => .ok number
      | none => .error (.unreadable content "float")
  | other => .error (.incompatible other.kind "float")

/-- A text: every value but a blob has one. -/
def toText : Value → Except CoercionError String
  | .text content => .ok content
  | .blob _ => .error (.incompatible "blob" "text")
  | other => .ok other.display

/-- The moment that a text names in either of the two written forms. -/
def readDateTime? (text : List Char) : Option DateTime :=
  ((Pattern.dateTime.read? text).bind MomentParts.dateTime?).or
    ((Pattern.exactDateTime.read? text).bind MomentParts.dateTime?)

/-- A date: that of a moment, or one that a text names alone or with a time. -/
def toDate : Value → Except CoercionError Date
  | .date day => .ok day
  | .dateTime moment => .ok moment.date
  | .text content =>
      let text := trimBlanks content.toList
      match ((Pattern.date.read? text).bind MomentParts.date?).or
          ((readDateTime? text).map DateTime.date) with
      | some day => .ok day
      | none => .error (.unreadable content "date")
  | other => .error (.incompatible other.kind "date")

/-- A moment: a date stands for its beginning. -/
def toDateTime : Value → Except CoercionError DateTime
  | .dateTime moment => .ok moment
  | .date day => .ok ⟨day, .midnight⟩
  | .text content =>
      match readDateTime? (trimBlanks content.toList) with
      | some moment => .ok moment
      | none => .error (.unreadable content "datetime")
  | other => .error (.incompatible other.kind "datetime")

/-- Bytes: a text gives those of its encoding. -/
def toBytes : Value → Except CoercionError (List UInt8)
  | .blob bytes => .ok bytes
  | .text content => .ok content.toUTF8.toList
  | other => .error (.incompatible other.kind "blob")

/-- The value as a column of the given affinity stores it. Nulls and arrays are stored as they are
everywhere. -/
def coerce (affinity : Affinity) (value : Value) : Except CoercionError Value :=
  match value with
  | .null => .ok .null
  | .array items => .ok (.array items)
  | value =>
      match affinity with
      | .boolean => value.toBool.map .bool
      | .integer => value.toInt.map .int
      | .float | .decimal => value.toFloat.map .float
      | .text | .guid => value.toText.map .text
      | .date => value.toDate.map .date
      | .dateTime => value.toDateTime.map .dateTime
      | .binary => value.toBytes.map .blob
      | .array | .other => .ok value

end Value

end Orm
