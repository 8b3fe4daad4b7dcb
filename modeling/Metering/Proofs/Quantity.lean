import Mathlib.Algebra.Group.Int.Defs
import Metering.Quantity

/-!
Integer quantities. A number type other than floating point makes every integer a quantity, modulo
2^64, and addition and subtraction of quantities are those of the integers behind them. Sums of
many quantities are therefore stated by their integers.
-/

namespace Metering

/-- Whether quantities of a type are integers. -/
def NumberType.isInteger : NumberType → Bool
  | .float => false
  | _ => true

namespace Quantity

/-- Whether a quantity has a type. -/
def HasType : Quantity → NumberType → Prop
  | .unsigned _, .unsigned | .signed _, .signed | .float _, .float => True
  | _, _ => False

def toInt : Quantity → Int
  | .unsigned value => value.toNat
  | .signed value => value.toInt
  | .float _ => 0

/-- The sum of the integers that quantities stand for. -/
def total : List Quantity → Int
  | [] => 0
  | value :: rest => value.toInt + total rest

theorem total_append (first second : List Quantity) :
    total (first ++ second) = total first + total second := by
  induction first with
  | nil => exact (Int.zero_add _).symm
  | cons value rest ih => rw [List.cons_append, total, ih, total, Int.add_assoc]

theorem total_perm {first second : List Quantity} (perm : first.Perm second) :
    total first = total second := by
  induction perm with
  | nil => rfl
  | cons value _ ih => rw [total, ih, total]
  | swap left right rest => simp only [total, Int.add_left_comm]
  | trans _ _ one other => exact one.trans other

/-- The sum of integer quantities of one type, modulo 2^64. -/
def sum (number : NumberType) (values : List Quantity) : Quantity :=
  number.quantity (.integer (total values))

theorem hasType_reading (reading : Reading) :
    (NumberType.unsigned.quantity reading).HasType .unsigned := by
  cases reading <;> trivial

variable {number : NumberType} (integer : number.isInteger)
include integer

theorem hasType_quantity (value : Int) : (number.quantity (.integer value)).HasType number := by
  cases number with
  | unsigned => trivial
  | signed => trivial
  | float => cases integer

theorem quantity_toInt (value : Quantity) (typed : value.HasType number) :
    number.quantity (.integer value.toInt) = value := by
  cases number with
  | unsigned =>
    cases value with
    | unsigned value =>
      have bounded := value.toNat_lt
      have reduced : ((value.toNat : Int) % 2 ^ 64).toNat = value.toNat := by omega
      change Quantity.unsigned (UInt64.ofNat ((value.toNat : Int) % 2 ^ 64).toNat) = _
      rw [reduced, UInt64.ofNat_toNat]
    | signed => cases typed
    | float => cases typed
  | signed =>
    cases value with
    | unsigned => cases typed
    | signed value =>
      change Quantity.signed (Int64.ofInt value.toInt) = _
      rw [Int64.ofInt_toInt]
    | float => cases typed
  | float => cases integer

theorem quantity_add (left right : Int) :
    number.quantity (.integer left) + number.quantity (.integer right) =
      number.quantity (.integer (left + right)) := by
  cases number with
  | unsigned =>
    change Quantity.unsigned (UInt64.ofInt left + UInt64.ofInt right) = .unsigned _
    rw [← UInt64.ofInt_add]
  | signed =>
    change Quantity.signed (Int64.ofInt left + Int64.ofInt right) = .signed _
    rw [← Int64.ofInt_add]
  | float => cases integer

theorem quantity_sub (left right : Int) :
    number.quantity (.integer left) - number.quantity (.integer right) =
      number.quantity (.integer (left - right)) := by
  cases number with
  | unsigned =>
    change Quantity.unsigned (UInt64.ofInt left - UInt64.ofInt right) = .unsigned _
    rw [Int.sub_eq_add_neg, UInt64.ofInt_add, UInt64.ofInt_neg, UInt64.sub_eq_add_neg]
  | signed =>
    change Quantity.signed (Int64.ofInt left - Int64.ofInt right) = .signed _
    rw [← Int64.ofInt_sub]
  | float => cases integer

/-- Integers make the same quantity if they differ by a multiple of 2^64. -/
theorem quantity_eq_iff (left right : Int) :
    number.quantity (.integer left) = number.quantity (.integer right) ↔
      (2 ^ 64 : Int) ∣ left - right := by
  have residues : left % 2 ^ 64 = right % 2 ^ 64 ↔ (2 ^ 64 : Int) ∣ left - right := by omega
  rw [← residues]
  cases number with
  | unsigned =>
    constructor
    · intro same
      have words : UInt64.ofInt left = UInt64.ofInt right := by injection same
      have naturals := congrArg UInt64.toNat words
      simp only [UInt64.ofInt, UInt64.toNat_ofNat'] at naturals
      omega
    · intro same
      change Quantity.unsigned (UInt64.ofNat (left % 2 ^ 64).toNat) = _
      rw [same]
      rfl
  | signed =>
    constructor
    · intro same
      have words : Int64.ofInt left = Int64.ofInt right := by injection same
      have naturals := congrArg (fun word => word.toBitVec.toNat) words
      simp only [Int64.toBitVec_ofInt, BitVec.toNat_ofInt] at naturals
      omega
    · intro same
      have words : Int64.ofInt left = Int64.ofInt right := by
        apply Int64.toBitVec_inj.mp
        apply BitVec.eq_of_toNat_eq
        rw [Int64.toBitVec_ofInt, Int64.toBitVec_ofInt, BitVec.toNat_ofInt, BitVec.toNat_ofInt]
        change (left % 2 ^ 64).toNat = (right % 2 ^ 64).toNat
        rw [same]
      exact congrArg Quantity.signed words
  | float => cases integer

theorem zero_eq (value : Quantity) (typed : value.HasType number) :
    value.zero = number.quantity (.integer 0) := by
  cases number with
  | unsigned =>
    cases value with
    | unsigned => rfl
    | signed => cases typed
    | float => cases typed
  | signed =>
    cases value with
    | unsigned => cases typed
    | signed => rfl
    | float => cases typed
  | float => cases integer

omit integer in
theorem sum_nil : sum number [] = number.quantity (.integer 0) := rfl

theorem sum_concat (first second : List Quantity) :
    sum number (first ++ second) = sum number first + sum number second := by
  rw [sum, total_append, sum, sum, quantity_add integer]

theorem sum_append (values : List Quantity) (value : Quantity) (typed : value.HasType number) :
    sum number (values ++ [value]) = sum number values + value := by
  calc
    sum number (values ++ [value])
      = number.quantity (.integer (total values + value.toInt)) := by
        rw [sum, total_append, total, total, Int.add_zero]
    _ = sum number values + number.quantity (.integer value.toInt) := by
        rw [sum, quantity_add integer]
    _ = sum number values + value := by rw [quantity_toInt integer value typed]

theorem sum_singleton (value : Quantity) (typed : value.HasType number) :
    sum number [value] = value := by
  rw [sum, total, total, Int.add_zero, quantity_toInt integer value typed]

theorem hasType_sum (values : List Quantity) : (sum number values).HasType number :=
  hasType_quantity integer _

theorem hasType_add (left right : Quantity) (first : left.HasType number)
    (second : right.HasType number) : (left + right).HasType number := by
  rw [← quantity_toInt integer left first, ← quantity_toInt integer right second,
    quantity_add integer]
  exact hasType_quantity integer _

theorem hasType_sub (left right : Quantity) (first : left.HasType number)
    (second : right.HasType number) : (left - right).HasType number := by
  rw [← quantity_toInt integer left first, ← quantity_toInt integer right second,
    quantity_sub integer]
  exact hasType_quantity integer _

theorem zero_add (value : Quantity) (typed : value.HasType number) :
    number.quantity (.integer 0) + value = value := by
  rw [← quantity_toInt integer value typed, quantity_add integer, Int.zero_add]

theorem add_zero (value : Quantity) (typed : value.HasType number) :
    value + number.quantity (.integer 0) = value := by
  rw [← quantity_toInt integer value typed, quantity_add integer, Int.add_zero]

theorem add_sub_cancel (base change : Quantity) (first : base.HasType number)
    (second : change.HasType number) : base + change - base = change := by
  rw [← quantity_toInt integer base first, ← quantity_toInt integer change second,
    quantity_add integer, quantity_sub integer]
  congr 2
  omega

/-- A change adds as much to the gain since `base` as it adds to the value. -/
theorem add_sub_right_comm (value change base : Quantity) (first : value.HasType number)
    (second : change.HasType number) (third : base.HasType number) :
    value + change - base = value - base + change := by
  rw [← quantity_toInt integer value first, ← quantity_toInt integer change second,
    ← quantity_toInt integer base third, quantity_add integer, quantity_sub integer,
    quantity_sub integer, quantity_add integer]
  congr 2
  omega

/-- What was gained up to `base` and the change from there to `value` make the gain up to
`value`. -/
theorem add_add_sub (gained base value : Quantity) (first : gained.HasType number)
    (second : base.HasType number) (third : value.HasType number) :
    gained + base + (value - base) = gained + value := by
  rw [← quantity_toInt integer gained first, ← quantity_toInt integer base second,
    ← quantity_toInt integer value third, quantity_sub integer, quantity_add integer,
    quantity_add integer, quantity_add integer]
  congr 2
  omega

theorem add_assoc (first second third : Quantity) (one : first.HasType number)
    (two : second.HasType number) (three : third.HasType number) :
    first + second + third = first + (second + third) := by
  rw [← quantity_toInt integer first one, ← quantity_toInt integer second two,
    ← quantity_toInt integer third three, quantity_add integer, quantity_add integer,
    quantity_add integer, quantity_add integer, Int.add_assoc]

section Unsigned

omit integer
variable {left right : Quantity} (first : left.HasType .unsigned) (second : right.HasType .unsigned)

theorem toInt_bounds (typed : left.HasType .unsigned) : 0 ≤ left.toInt ∧ left.toInt < 2 ^ 64 := by
  cases left with
  | unsigned value =>
    have bounded := value.toNat_lt
    change 0 ≤ (value.toNat : Int) ∧ (value.toNat : Int) < 2 ^ 64
    omega
  | signed => cases typed
  | float => cases typed

theorem toInt_quantity (value : Int) :
    (NumberType.unsigned.quantity (.integer value)).toInt = value % 2 ^ 64 := by
  have reduced := Int.emod_nonneg value (show (2 ^ 64 : Int) ≠ 0 by decide)
  have below := Int.emod_lt_of_pos value (show (0 : Int) < 2 ^ 64 by decide)
  change (((UInt64.ofNat (value % 2 ^ 64).toNat).toNat : Nat) : Int) = value % 2 ^ 64
  rw [UInt64.toNat_ofNat']
  omega

include first second

/-- A sum of unsigned quantities is exact if it fits into 64 bits. -/
theorem toInt_add (room : left.toInt + right.toInt < 2 ^ 64) :
    (left + right).toInt = left.toInt + right.toInt := by
  have one := toInt_bounds first
  have other := toInt_bounds second
  rw [← quantity_toInt rfl left first, ← quantity_toInt rfl right second, quantity_add rfl]
  simp only [toInt_quantity]
  omega

/-- A difference of unsigned quantities is exact unless it would be negative. -/
theorem toInt_sub : (left - right).toInt =
    if right.toInt ≤ left.toInt then left.toInt - right.toInt
    else left.toInt - right.toInt + 2 ^ 64 := by
  have one := toInt_bounds first
  have other := toInt_bounds second
  rw [← quantity_toInt rfl left first, ← quantity_toInt rfl right second, quantity_sub rfl]
  simp only [toInt_quantity]
  split <;> omega

end Unsigned

end Quantity

end Metering
