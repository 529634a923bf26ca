import Orm.Exchange.Members
import Orm.Json.Reading
import Orm.Value.Typed

/-!
# Exchanged values

Nulls, truth values, integers, texts and arrays are themselves. A floating-point number is given by
the hexadecimal digits of its bits, a date or moment by its parts, and bytes by their digits.
-/

namespace Orm

/-- A number in lower-case hexadecimal digits, with zeros in front up to the given width. -/
def hexDigits (width number : Nat) : String :=
  let digits := Nat.toDigits 16 number
  String.ofList (List.replicate (width - digits.length) '0' ++ digits)

/-- The bytes of hexadecimal digits, two for each. -/
def ofHexBytes? : List Char → Option (List UInt8)
  | [] => some []
  | high :: low :: rest => do
      let byte ← readHex? [high, low]
      return .ofNat byte :: (← ofHexBytes? rest)
  | [_] => none

/-- The exchanged form of a floating-point number. -/
def Binary64.toExchange (number : Binary64) : Json :=
  .object [("f", .text (if number.isNaN then "nan" else hexDigits 16 number.bits.toNat))]

/-- The floating-point number with the digits of a document. -/
def Binary64.ofExchange? (document : Json) : Option Binary64 := do
  let digits ← document.asText?
  if digits = "nan" then return .nan else return ⟨.ofNat (← readHex? digits.toList)⟩

/-- The exchanged form of a date. -/
def Date.toExchange (day : Date) : Json :=
  .object [("d", .array [.int day.year, .ofNat day.month, .ofNat day.day])]

/-- The exchanged form of a moment. -/
def DateTime.toExchange (moment : DateTime) : Json :=
  let date := moment.date
  let time := moment.time
  .object [("dt", .array [.int date.year, .ofNat date.month, .ofNat date.day, .ofNat time.hour,
    .ofNat time.minute, .ofNat time.second, .ofNat time.nanos])]

/-- The exchanged form of bytes. -/
def bytesToExchange (bytes : List UInt8) : Json :=
  .object [("b", .text (String.join (bytes.map fun byte => hexDigits 2 byte.toNat)))]

namespace Value

mutual
/-- The exchanged form of a value. -/
def toExchange : Value → Json
  | .null => .null
  | .bool flag => .bool flag
  | .int number => .int number.toInt
  | .float number => number.toExchange
  | .text content => .text content
  | .date day => day.toExchange
  | .dateTime moment => moment.toExchange
  | .blob bytes => bytesToExchange bytes
  | .array items => .array (listToExchange items)

/-- The exchanged forms of some values. -/
def listToExchange : List Value → List Json
  | [] => []
  | item :: rest => toExchange item :: listToExchange rest
end

/-- The date or moment with the given parts. -/
def ofParts? : List Nat → Int → Option Value
  | [month, day], year => (Date.ofParts? year month day).map .date
  | [month, day, hour, minute, second, nanos], year => do
      return .dateTime ⟨← Date.ofParts? year month day,
        ← TimeOfDay.ofParts? hour minute second nanos⟩
  | _, _ => none

mutual
/-- The value of an exchanged form. -/
def ofExchange? : Json → Option Value
  | .null => some .null
  | .bool flag => some (.bool flag)
  | .int number => if FitsInt64 number then some (.int (.ofInt number)) else none
  | .text content => some (.text content)
  | .array items => (listOfExchange? items).map .array
  | .object [("f", digits)] => (Binary64.ofExchange? digits).map .float
  | .object [("d", .array (.int year :: parts))] => do ofParts? (← parts.mapM Json.asNat?) year
  | .object [("dt", .array (.int year :: parts))] => do ofParts? (← parts.mapM Json.asNat?) year
  | .object [("b", .text digits)] => (ofHexBytes? digits.toList).map .blob
  | _ => none

/-- The values of some exchanged forms. -/
def listOfExchange? : List Json → Option (List Value)
  | [] => some []
  | item :: rest => do
      let value ← ofExchange? item
      return value :: (← listOfExchange? rest)
end

/-- The pairs of a name and a value that a document lists. -/
def pairsOfExchange? : Json → Option (List (String × Value)) :=
  Json.asList? (Json.asPair? Json.asText? ofExchange?)

end Value

/-- All that there is to say about a value. -/
def Value.summary (value : Value) : Json :=
  .object [("display", .text value.display), ("kind", .text value.kind),
    ("null", .bool value.isNull), ("text", .ofOption .text value.asText?)]

/-- The change of the values of columns that a document names. -/
def Value.transformOfExchange? (document : Json) : Option (String → Value → Value) := do
  match ← document.asText? with
  | "null" => return fun _ _ => .null
  | "text" => return fun _ value => .text value.display
  | "name" => return fun column _ => .text column
  | _ => none

/-- A type that columns are read as, the results being given in their exchanged form. -/
abbrev ExchangeRead := Readable Json

namespace ExchangeRead

/-- The read as a type whose members have an exchanged form. -/
abbrev of (α : Type) [Readable α] (encode : α → Json) : ExchangeRead where
  ofValue value := (Readable.ofValue value : Except CoercionError α).map encode
  nullDefault := encode Readable.nullDefault

/-- The read as a type of integers. -/
abbrev ofInts (α : Type) [Readable α] (toInt : α → Int) : ExchangeRead :=
  of α fun number => .int (toInt number)

/-- The read that a name stands for. -/
def ofName? (name : String) : Option ExchangeRead :=
  match name with
  | "value" => some (of Value Value.toExchange)
  | "bool" => some (of Bool .bool)
  | "i8" => some (ofInts Int8 Int8.toInt)
  | "i16" => some (ofInts Int16 Int16.toInt)
  | "i32" => some (ofInts Int32 Int32.toInt)
  | "i64" => some (ofInts Int64 Int64.toInt)
  | "u8" => some (ofInts UInt8 fun number => number.toNat)
  | "u16" => some (ofInts UInt16 fun number => number.toNat)
  | "u32" => some (ofInts UInt32 fun number => number.toNat)
  | "u64" => some (ofInts UInt64 fun number => number.toNat)
  | "f32" => some (of Single fun number => number.widened.toExchange)
  | "f64" => some (of Binary64 Binary64.toExchange)
  | "text" => some (of String .text)
  | "blob" => some (of (List UInt8) bytesToExchange)
  | "date" => some (of Date Date.toExchange)
  | "datetime" => some (of DateTime DateTime.toExchange)
  | "opt_i64" => some (of (Option Int64) (.ofPresence fun number => .int number.toInt))
  | "opt_text" => some (of (Option String) (.ofPresence .text))
  | "opt_value" => some (of (Option Value) (.ofPresence Value.toExchange))
  | _ => none

/-- The read that a document names. -/
def ofExchange? (document : Json) : Option ExchangeRead := do ofName? (← document.asText?)

end ExchangeRead

/-- The stored form of a member of a type, given by the name of the type and a document. -/
def storedOfExchange? (name : String) (raw : Json) : Option Value :=
  match name with
  | "i8" => raw.asInt?.map fun number => Storable.toValue (Int8.ofInt number)
  | "i16" => raw.asInt?.map fun number => Storable.toValue (Int16.ofInt number)
  | "i32" => raw.asInt?.map fun number => Storable.toValue (Int32.ofInt number)
  | "i64" => raw.asInt?.map fun number => Storable.toValue (Int64.ofInt number)
  | "u8" => raw.asNat?.map fun number => Storable.toValue (UInt8.ofNat number)
  | "u16" => raw.asNat?.map fun number => Storable.toValue (UInt16.ofNat number)
  | "u32" => raw.asNat?.map fun number => Storable.toValue (UInt32.ofNat number)
  | "bool" => raw.asBool?.map Storable.toValue
  | "str" | "string" => raw.asText?.map Storable.toValue
  | "f32" =>
      (Binary64.ofExchange? raw).map fun number => Storable.toValue (Single.mk number.toSingle)
  | "f64" => (Binary64.ofExchange? raw).map Storable.toValue
  | "blob" => do return Storable.toValue (← ofHexBytes? (← raw.asText?).toList)
  | "opt_i64" =>
      if raw matches .null then some (Storable.toValue (none : Option Int64))
      else raw.asInt?.map fun number => Storable.toValue (some (Int64.ofInt number))
  | "opt_text" =>
      if raw matches .null then some (Storable.toValue (none : Option String))
      else raw.asText?.map fun content => Storable.toValue (some content)
  | "date" | "datetime" =>
      match Value.ofExchange? raw with
      | some (.date day) => some (Storable.toValue day)
      | some (.dateTime moment) => some (Storable.toValue moment)
      | _ => none
  | _ => none

end Orm
