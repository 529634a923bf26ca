import Orm.Value.Coercion

/-!
# Typed reads

A type is `Readable` if a column can be read as it. A null is read as the default of the type,
which is given beside the conversion of other values. A type is `Storable` if it has a value of a
column for each of its own.
-/

namespace Orm

/-- Types that the value of a column can be read as. -/
class Readable (α : Type) where
  ofValue : Value → Except CoercionError α
  nullDefault : α

/-- Types that can be stored in a column. -/
class Storable (α : Type) where
  toValue : α → Value

/-- A number of 32 bits, as the number of 64 bits with the same value. -/
structure Single where
  widened : Binary64
deriving DecidableEq

/-- An integer read between two bounds, which `name` is the type of. -/
def readBetween {α : Type} (low high : Int) (name : String) (convert : Int → α) (value : Value) :
    Except CoercionError α := do
  let wide := (← value.toInt).toInt
  if low ≤ wide ∧ wide ≤ high then .ok (convert wide)
  else .error (.outOfRange (intText wide) name)

instance : Readable Value := ⟨.ok, .null⟩
instance : Readable Bool := ⟨Value.toBool, false⟩
instance : Readable Int64 := ⟨Value.toInt, 0⟩
instance : Readable Int8 :=
  ⟨readBetween Int8.minValue.toInt Int8.maxValue.toInt "i8" Int8.ofInt, 0⟩
instance : Readable Int16 :=
  ⟨readBetween Int16.minValue.toInt Int16.maxValue.toInt "i16" Int16.ofInt, 0⟩
instance : Readable Int32 :=
  ⟨readBetween Int32.minValue.toInt Int32.maxValue.toInt "i32" Int32.ofInt, 0⟩
instance : Readable UInt8 := ⟨readBetween 0 (UInt8.size - 1) "u8" fun n => .ofNat n.toNat, 0⟩
instance : Readable UInt16 := ⟨readBetween 0 (UInt16.size - 1) "u16" fun n => .ofNat n.toNat, 0⟩
instance : Readable UInt32 := ⟨readBetween 0 (UInt32.size - 1) "u32" fun n => .ofNat n.toNat, 0⟩
instance : Readable UInt64 := ⟨readBetween 0 (UInt64.size - 1) "u64" fun n => .ofNat n.toNat, 0⟩
instance : Readable Binary64 := ⟨Value.toFloat, .zero⟩
instance : Readable Single := ⟨fun value => value.toFloat.map fun x => ⟨x.toSingle⟩, ⟨.zero⟩⟩
instance : Readable String := ⟨Value.toText, ""⟩
instance : Readable (List UInt8) := ⟨Value.toBytes, []⟩
instance : Readable Date := ⟨Value.toDate, .epoch⟩
instance : Readable DateTime := ⟨Value.toDateTime, .epoch⟩

instance {α : Type} [Readable α] : Readable (Option α) where
  ofValue value := if value.isNull then .ok none else (Readable.ofValue value).map some
  nullDefault := none

instance : Storable Bool := ⟨.bool⟩
instance : Storable Int64 := ⟨.int⟩
instance : Storable Int8 := ⟨fun n => .int n.toInt64⟩
instance : Storable Int16 := ⟨fun n => .int n.toInt64⟩
instance : Storable Int32 := ⟨fun n => .int n.toInt64⟩
instance : Storable UInt8 := ⟨fun n => .int (.ofNat n.toNat)⟩
instance : Storable UInt16 := ⟨fun n => .int (.ofNat n.toNat)⟩
instance : Storable UInt32 := ⟨fun n => .int (.ofNat n.toNat)⟩
instance : Storable Binary64 := ⟨.float⟩
instance : Storable Single := ⟨fun x => .float x.widened⟩
instance : Storable String := ⟨.text⟩
instance : Storable (List UInt8) := ⟨.blob⟩
instance : Storable Date := ⟨.date⟩
instance : Storable DateTime := ⟨.dateTime⟩

instance {α : Type} [Storable α] : Storable (Option α) where
  toValue
    | none => .null
    | some x => Storable.toValue x

end Orm
