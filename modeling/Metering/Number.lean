/-!
Floating-point numbers and spans of time in writing.

The digits of a number are those of the shortest decimal that reads back as it. A finite positive
number is taken apart into `significand * 2 ^ exponent`; the reals that round to it form an
interval, and among the decimals with the fewest digits inside that interval the nearest is taken,
the larger one of two that are equally near. The plain form never uses an exponent and writes whole
numbers without a point; the literal form always shows that the number is not an integer and uses an
exponent for very large and very small magnitudes.

A span is counted in nanoseconds and written in the largest unit that gives a whole part.
-/

namespace Metering

namespace Number

/-- A positive binary floating-point number `significand * 2 ^ exponent`. -/
structure Binary where
  significand : Nat
  exponent : Int
  deriving DecidableEq, Repr

def powerOfTwo (exponent : Nat) : Nat := Nat.pow 2 exponent

def powerOfTen (exponent : Nat) : Nat := Nat.pow 10 exponent

/-- The parts of a number given by the 64 bits of its standard encoding. -/
inductive Parts where
  | nan
  | infinite (negative : Bool)
  | zero (negative : Bool)
  | finite (negative : Bool) (magnitude : Binary)
  deriving DecidableEq, Repr

def Parts.ofBits (bits : UInt64) : Parts :=
  let negative : Bool := bits.toNat / powerOfTwo 63 = 1
  let biased : Nat := bits.toNat / powerOfTwo 52 % powerOfTwo 11
  let fraction : Nat := bits.toNat % powerOfTwo 52
  if biased = 2047 then
    if fraction = 0 then .infinite negative else .nan
  else if biased = 0 then
    if fraction = 0 then .zero negative else .finite negative ⟨fraction, -1074⟩
  else .finite negative ⟨fraction + powerOfTwo 52, (biased : Int) - 1075⟩

/-- A power of ten as a numerator and a denominator. -/
def tenPower (exponent : Int) : Nat × Nat :=
  if 0 ≤ exponent then (powerOfTen exponent.toNat, 1) else (1, powerOfTen (-exponent).toNat)

/-- Four times a number and the ends of its rounding interval, over one common denominator. -/
structure Interval where
  lower : Nat
  value : Nat
  upper : Nat
  denominator : Nat
  closed : Bool

/-- The interval of reals that round to a number. The gap below a power of two is half as wide as
the gap above it, and the ends belong to the interval when the significand is even. -/
def Binary.interval (number : Binary) : Interval :=
  let scale := if 0 ≤ number.exponent then powerOfTwo number.exponent.toNat else 1
  let denominator := if 0 ≤ number.exponent then 4 else 4 * powerOfTwo (-number.exponent).toNat
  let narrow := number.significand = powerOfTwo 52 ∧ number.exponent ≠ -1074
  { lower := (4 * number.significand - if narrow then 1 else 2) * scale
    value := 4 * number.significand * scale
    upper := (4 * number.significand + 2) * scale
    denominator
    closed := number.significand % 2 = 0 }

/-- Whether `numerator / interval.denominator` lies in the interval, for a numerator given as a
fraction `above / below`. -/
def Interval.contains (interval : Interval) (above below : Nat) : Bool :=
  let scaled := above * interval.denominator
  if interval.closed then interval.lower * below ≤ scaled && scaled ≤ interval.upper * below
  else interval.lower * below < scaled && scaled < interval.upper * below

/-- The least `point` with `value < 10 ^ point`, found near the value's binary logarithm. -/
def Interval.point (interval : Interval) : Int :=
  let binaryLength := (Nat.log2 interval.value : Int) - (Nat.log2 interval.denominator : Int)
  let estimate := (binaryLength * 30103).fdiv 100000
  let below (point : Int) : Bool :=
    let (above, under) := tenPower point
    interval.value * under < above * interval.denominator
  (([-1, 0, 1, 2].map (estimate + ·)).find? below).getD (estimate + 3)

/-- The nearest number with `count` digits that lies in the interval, if there is one. -/
def Interval.candidate? (interval : Interval) (point : Int) (count : Nat) : Option Nat :=
  let (above, under) := tenPower (point - count)
  let numerator := interval.value * under
  let denominator := interval.denominator * above
  let floor := numerator / denominator
  let fits (digits : Nat) := interval.contains (digits * above) under
  let roundsUp := denominator ≤ 2 * (numerator % denominator)
  if fits (floor + 1) && (roundsUp || !fits floor) then some (floor + 1)
  else if fits floor then some floor
  else none

def dropTrailingZeros (digits : List Char) : List Char :=
  (digits.reverse.dropWhile (· == '0')).reverse

/-- The digits of the shortest decimal that reads back as the number, without trailing zeros, and
the place of the decimal point counted from before the first digit. -/
def Binary.shortest (number : Binary) : List Char × Int :=
  let interval := number.interval
  let point := interval.point
  let digits := ((List.range 17).findSome? fun index =>
    (interval.candidate? point (index + 1)).map fun digits => (digits, index + 1)).getD (0, 1)
  let written := Nat.toDigits 10 digits.1
  (dropTrailingZeros written, point + ((written.length : Int) - digits.2))

/-- How a number's shortest digits are laid out. -/
structure Layout where
  /-- What follows the last digit of a whole number. -/
  wholeEnd : List Char
  /-- Whether a magnitude with this place of the point is written with an exponent. -/
  usesExponent : Int → Bool

def Layout.plain : Layout := ⟨[], fun _ => false⟩

/-- A point in every number, and an exponent from `1e16` on and below `1e-4`. -/
def Layout.literal : Layout := ⟨['.', '0'], fun point => 17 ≤ point || point ≤ -4⟩

def positional (layout : Layout) (digits : List Char) (point : Int) : List Char :=
  if point ≤ 0 then ['0', '.'] ++ List.replicate (-point).toNat '0' ++ digits
  else if digits.length ≤ point.toNat then
    digits ++ List.replicate (point.toNat - digits.length) '0' ++ layout.wholeEnd
  else digits.take point.toNat ++ '.' :: digits.drop point.toNat

def exponential (digits : List Char) (point : Int) : List Char :=
  let fraction := if digits.length ≤ 1 then [] else '.' :: digits.drop 1
  digits.take 1 ++ fraction ++ 'e' :: (toString (point - 1)).toList

def Layout.magnitude (layout : Layout) (number : Binary) : List Char :=
  let (digits, point) := number.shortest
  if layout.usesExponent point then exponential digits point
  else positional layout digits point

def Layout.write (layout : Layout) (bits : UInt64) : String :=
  let signed (negative : Bool) (rest : List Char) :=
    String.ofList (if negative then '-' :: rest else rest)
  match Parts.ofBits bits with
  | .nan => "NaN"
  | .infinite negative => signed negative ['i', 'n', 'f']
  | .zero negative => signed negative ('0' :: layout.wholeEnd)
  | .finite negative magnitude => signed negative (layout.magnitude magnitude)

end Number

structure Span where
  nanos : Nat
  deriving DecidableEq, Repr

namespace Span

def zero : Span := ⟨0⟩
def ofMillis (millis : Nat) : Span := ⟨millis * 1000000⟩
def ofSeconds (seconds : Nat) : Span := ⟨seconds * 1000000000⟩

def isZero (span : Span) : Bool := span.nanos = 0

/-- A whole part with as many decimal places of a fraction as are needed: `places` digits of
`fraction` without the zeros at their end. -/
def decimal (whole fraction places : Nat) : String :=
  let digits := Nat.toDigits 10 fraction
  let padded := List.replicate (places - digits.length) '0' ++ digits
  let kept := (padded.reverse.dropWhile (· == '0')).reverse
  if fraction = 0 then toString whole
  else toString whole ++ "." ++ String.ofList kept

/-- The written form of a span: seconds, milliseconds, microseconds or nanoseconds. -/
def text (span : Span) : String :=
  if 1000000000 ≤ span.nanos then
    decimal (span.nanos / 1000000000) (span.nanos % 1000000000) 9 ++ "s"
  else if 1000000 ≤ span.nanos then
    decimal (span.nanos / 1000000) (span.nanos % 1000000) 6 ++ "ms"
  else if 1000 ≤ span.nanos then
    decimal (span.nanos / 1000) (span.nanos % 1000) 3 ++ "µs"
  else toString span.nanos ++ "ns"

end Span

end Metering
