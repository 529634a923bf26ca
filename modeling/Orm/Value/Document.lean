import Orm.Json.Decoding
import Orm.Value.Basic
import Orm.Value.Coercion

/-!
# Values as JSON documents

A value is written as the name of its kind with its content, and null as its name alone. Dates and
moments are texts; the reader of them lets blanks stand around their marks.
-/

namespace Orm

namespace Value

mutual
/-- The document of a value. -/
def toJson : Value → Json
  | .null => .text "Null"
  | .bool flag => .object [("Bool", .bool flag)]
  | .int number => .object [("Int", .int number.toInt)]
  | .float number => .object [("Float", .float number)]
  | .text content => .object [("Text", .text content)]
  | .date day => .object [("Date", .text (String.ofList (Pattern.date.write (.ofDate day))))]
  | .dateTime moment =>
      .object [("DateTime",
        .text (String.ofList (Pattern.exactDateTime.write (.ofDateTime moment))))]
  | .blob bytes => .object [("Blob", .array (bytes.map fun byte => .int byte.toNat))]
  | .array items => .object [("Array", .array (toJsonList items))]

/-- The documents of some values. -/
def toJsonList : List Value → List Json
  | [] => []
  | item :: rest => toJson item :: toJsonList rest
end

/-- The floating-point number of a document; an integer stands for the nearest one. -/
def floatOfJson? : Json → Option Binary64
  | .float number => some number
  | .int number => some (.ofInt number)
  | _ => none

/-- The byte of a document. -/
def byteOfJson? (document : Json) : Option UInt8 :=
  (document.asIntBetween? 0 255).map fun number => .ofNat number.toNat

/-- The date of a document. -/
def dateOfJson? (document : Json) : Option Date := do
  (← Pattern.looseDate.read? (← document.asText?).toList).date?

/-- The moment of a document. -/
def dateTimeOfJson? (document : Json) : Option DateTime := do
  (← Pattern.looseDateTime.read? (← document.asText?).toList).dateTime?

mutual
/-- The value of a document. -/
def ofJson? : Json → Option Value
  | .text "Null" => some .null
  | .object [("Null", .null)] => some .null
  | .object [("Bool", .bool flag)] => some (.bool flag)
  | .object [("Int", .int number)] =>
      if FitsInt64 number then some (.int (.ofInt number)) else none
  | .object [("Float", number)] => (floatOfJson? number).map .float
  | .object [("Text", .text content)] => some (.text content)
  | .object [("Date", day)] => (dateOfJson? day).map .date
  | .object [("DateTime", moment)] => (dateTimeOfJson? moment).map .dateTime
  | .object [("Blob", .array bytes)] => (bytes.mapM byteOfJson?).map .blob
  | .object [("Array", .array items)] => (ofJsonList? items).map .array
  | _ => none

/-- The values of some documents. -/
def ofJsonList? : List Json → Option (List Value)
  | [] => some []
  | item :: rest => do
      let value ← ofJson? item
      return value :: (← ofJsonList? rest)
end

end Value

end Orm
