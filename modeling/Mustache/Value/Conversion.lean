import Mustache.Value

namespace Mustache

/-! Values made of the data of a program. -/

/-- Types whose elements can be bound to names. -/
class ToValue (α : Type) where
  toValue {Lambda : Type} : α → Value Lambda

export ToValue (toValue)

variable {Lambda : Type}

instance : ToValue Bool := ⟨.bool⟩

instance : ToValue String := ⟨.text⟩

instance : ToValue Int64 := ⟨.integer⟩

instance : ToValue Int32 := ⟨fun number => .integer number.toInt64⟩

instance : ToValue Float := ⟨.float⟩

/-- Numbers of 64 bits without a sign keep their bits, so large ones become
negative. -/
instance : ToValue UInt64 := ⟨fun number => .integer number.toInt64⟩

instance {α : Type} [ToValue α] : ToValue (Option α) :=
  ⟨fun value => (value.map toValue).getD .absent⟩

instance {α : Type} [ToValue α] : ToValue (List α) :=
  ⟨fun items => .list (items.map toValue)⟩

namespace Value

/-! ## Numbers of data formats

Data formats know numbers by their size and not by their type. -/

/-- A number of 64 bits without a sign; one too large for an integer is a float. -/
def ofNumber (number : UInt64) : Value Lambda :=
  if number.toNat < Number.twoTo 63 then .integer number.toInt64 else .float number.toFloat

/-- A float that is a number; data formats have no others. -/
def ofFinite (number : Float) : Value Lambda :=
  if number.isFinite then .float number else .absent

end Value

end Mustache
