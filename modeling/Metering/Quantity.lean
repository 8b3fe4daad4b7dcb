import Metering.Instrument
import Metering.Number

/-!
Quantities: measured and aggregated numbers. Integers keep to exact arithmetic modulo 2^64;
quantities of different types meet as floating-point numbers.
-/

namespace Metering

open Number

/-- A number in the type of the instrument that measured it. -/
inductive Quantity where
  | unsigned (value : UInt64)
  | signed (value : Int64)
  | float (value : Float)

namespace Quantity

def toFloat : Quantity → Float
  | .unsigned value => value.toFloat
  | .signed value => value.toFloat
  | .float value => value

def add : Quantity → Quantity → Quantity
  | .unsigned left, .unsigned right => .unsigned (left + right)
  | .signed left, .signed right => .signed (left + right)
  | left, right => .float (left.toFloat + right.toFloat)

def sub : Quantity → Quantity → Quantity
  | .unsigned left, .unsigned right => .unsigned (left - right)
  | .signed left, .signed right => .signed (left - right)
  | left, right => .float (left.toFloat - right.toFloat)

instance : Add Quantity := ⟨add⟩
instance : Sub Quantity := ⟨sub⟩

/-- Whether two quantities have the same type and compare as equal numbers. -/
def sameNumber : Quantity → Quantity → Bool
  | .unsigned left, .unsigned right => left = right
  | .signed left, .signed right => left = right
  | .float left, .float right => left == right
  | _, _ => false

def equalsFloat (quantity : Quantity) (other : Float) : Bool := quantity.toFloat == other

def isNegative : Quantity → Bool
  | .unsigned _ => false
  | .signed value => value < 0
  | .float value => value < 0

def zero : Quantity → Quantity
  | .unsigned _ => .unsigned 0
  | .signed _ => .signed 0
  | .float _ => .float 0

def text : Quantity → String
  | .unsigned value => toString value.toNat
  | .signed value => toString value.toInt
  | .float value => Layout.plain.write value.toBits

end Quantity

/-- A number as it is handed to an instrument, before it takes the instrument's type. -/
inductive Reading where
  | integer (value : Int)
  | float (bits : UInt64)
  deriving DecidableEq, Repr

/-- The quantity that an instrument of a number type makes of a reading. -/
def NumberType.quantity : NumberType → Reading → Quantity
  | .unsigned, .integer value => .unsigned (UInt64.ofInt value)
  | .signed, .integer value => .signed (Int64.ofInt value)
  | .float, .float bits => .float (Float.ofBits bits)
  | .float, .integer value => .float (Float.ofInt value)
  | .unsigned, .float bits => .unsigned bits
  | .signed, .float bits => .signed bits.toInt64

end Metering
