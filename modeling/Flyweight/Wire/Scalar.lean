import Flyweight.Binary64
import Flyweight.ByteOrder

/- Scalars as bytes.

   A scalar of a fixed width is named by a natural, its code; the code is written
   in base 256, least digit first, and the digits are the bytes in little-endian
   order. Main statements: `decode_encode` and `encode_decode`, for both orders. -/

namespace Flyweight.Wire

/-- A single-precision number, as its bits. -/
structure Binary32 where
  bits : UInt32
  deriving DecidableEq, Repr, Inhabited

namespace Bytes

/-- The number of values that `width` bytes can have. -/
def values : Nat → Nat
  | 0 => 1
  | width + 1 => 256 * values width

theorem values_pos (width : Nat) : 0 < values width := by
  induction width with
  | zero => exact Nat.one_pos
  | succ width ih => exact Nat.mul_pos (by omega) ih

/-- Each byte has eight bits. -/
theorem values_eq_shiftLeft (width : Nat) : values width = 1 <<< (8 * width) := by
  induction width with
  | zero => rfl
  | succ width ih =>
    rw [values, ih, Nat.mul_succ, Nat.shiftLeft_add, Nat.shiftLeft_eq _ 8]
    omega

/-- The `width` lowest digits of `n` in base 256, least first. -/
def ofNat : Nat → Nat → List UInt8
  | 0, _ => []
  | width + 1, n => UInt8.ofNat n :: ofNat width (n / 256)

/-- The natural with the given digits in base 256, least first. -/
def toNat : List UInt8 → Nat
  | [] => 0
  | b :: rest => b.toNat + 256 * toNat rest

theorem length_ofNat (width n : Nat) : (ofNat width n).length = width := by
  induction width generalizing n with
  | zero => rfl
  | succ width ih => simp [ofNat, ih]

theorem toNat_ofNat (width n : Nat) : toNat (ofNat width n) = n % values width := by
  induction width generalizing n with
  | zero => simp [ofNat, toNat, values, Nat.mod_one]
  | succ width ih =>
    have digit : (UInt8.ofNat n).toNat = n % 256 := UInt8.toNat_ofNat'
    rw [ofNat, toNat, values, ih, digit, Nat.mod_mul]

theorem toNat_lt (bytes : List UInt8) : toNat bytes < values bytes.length := by
  induction bytes with
  | nil => simp [toNat, values]
  | cons b rest ih =>
    have := b.toNat_lt
    rw [toNat, List.length_cons, values]
    omega

theorem ofNat_toNat (bytes : List UInt8) : ofNat bytes.length (toNat bytes) = bytes := by
  induction bytes with
  | nil => rfl
  | cons b rest ih =>
    have small := b.toNat_lt
    have low : UInt8.ofNat (b.toNat + 256 * toNat rest) = b := by
      apply UInt8.toNat.inj
      rw [UInt8.toNat_ofNat']
      omega
    have high : (b.toNat + 256 * toNat rest) / 256 = toNat rest := by omega
    rw [List.length_cons, toNat, ofNat, low, high, ih]

end Bytes

/-- A type of values of one width, each with a natural as its code. -/
class Scalar (α : Type) where
  /-- the width in bytes -/
  width : Nat
  code : α → Nat
  ofCode : Nat → α
  code_lt : ∀ a, code a < Bytes.values width
  ofCode_code : ∀ a, ofCode (code a) = a
  code_ofCode : ∀ n, n < Bytes.values width → code (ofCode n) = n

/-- A type of unsigned words: their codes are their values. -/
class Word (α : Type) extends Scalar α

instance : Word UInt8 where
  width := 1
  code := UInt8.toNat
  ofCode := UInt8.ofNat
  code_lt := UInt8.toNat_lt
  ofCode_code _ := UInt8.ofNat_toNat
  code_ofCode _ h := UInt8.toNat_ofNat'.trans (Nat.mod_eq_of_lt h)

instance : Word UInt16 where
  width := 2
  code := UInt16.toNat
  ofCode := UInt16.ofNat
  code_lt := UInt16.toNat_lt
  ofCode_code _ := UInt16.ofNat_toNat
  code_ofCode _ h := UInt16.toNat_ofNat'.trans (Nat.mod_eq_of_lt h)

instance : Word UInt32 where
  width := 4
  code := UInt32.toNat
  ofCode := UInt32.ofNat
  code_lt := UInt32.toNat_lt
  ofCode_code _ := UInt32.ofNat_toNat
  code_ofCode _ h := UInt32.toNat_ofNat'.trans (Nat.mod_eq_of_lt h)

instance : Word UInt64 where
  width := 8
  code := UInt64.toNat
  ofCode := UInt64.ofNat
  code_lt := UInt64.toNat_lt
  ofCode_code _ := UInt64.ofNat_toNat
  code_ofCode _ h := UInt64.toNat_ofNat'.trans (Nat.mod_eq_of_lt h)

namespace Scalar

/-- The bytes of a value in the given order. -/
def encode [Scalar α] (order : ByteOrder) (a : α) : List UInt8 :=
  match order with
  | .littleEndian => Bytes.ofNat (width α) (code a)
  | .bigEndian => (Bytes.ofNat (width α) (code a)).reverse

/-- The value that bytes stand for in the given order. -/
def decode [Scalar α] (order : ByteOrder) (bytes : List UInt8) : α :=
  match order with
  | .littleEndian => ofCode (Bytes.toNat bytes)
  | .bigEndian => ofCode (Bytes.toNat bytes.reverse)

theorem length_encode [Scalar α] (order : ByteOrder) (a : α) :
    (encode order a).length = width α := by
  cases order <;> simp [encode, Bytes.length_ofNat]

/-- A value's bytes stand for that value. -/
theorem decode_encode [Scalar α] (order : ByteOrder) (a : α) :
    decode order (encode order a) = a := by
  have exact : Bytes.toNat (Bytes.ofNat (width α) (code a)) = code a := by
    rw [Bytes.toNat_ofNat, Nat.mod_eq_of_lt (code_lt a)]
  cases order <;> simp [encode, decode, exact, ofCode_code]

/-- Bytes of the right number are those of the value that they stand for. -/
theorem encode_decode [Scalar α] (order : ByteOrder) {bytes : List UInt8}
    (h : bytes.length = width α) : encode order (decode order bytes : α) = bytes := by
  cases order with
  | littleEndian =>
    have small := Bytes.toNat_lt bytes
    rw [h] at small
    rw [encode, decode, code_ofCode _ small, ← h, Bytes.ofNat_toNat]
  | bigEndian =>
    have small := Bytes.toNat_lt bytes.reverse
    rw [List.length_reverse, h] at small
    have same := Bytes.ofNat_toNat bytes.reverse
    rw [List.length_reverse, h] at same
    rw [encode, decode, code_ofCode _ small, same, List.reverse_reverse]

/-- A type whose values are another scalar's, under other names. -/
@[reducible] def ofEquiv [Scalar β] (toBase : α → β) (ofBase : β → α)
    (ofBase_toBase : ∀ a, ofBase (toBase a) = a) (toBase_ofBase : ∀ b, toBase (ofBase b) = b) :
    Scalar α where
  width := width β
  code a := code (toBase a)
  ofCode n := ofBase (ofCode n)
  code_lt a := code_lt (toBase a)
  ofCode_code a := by rw [ofCode_code, ofBase_toBase]
  code_ofCode n h := by rw [toBase_ofBase, code_ofCode n h]

end Scalar

instance : Scalar Int8 :=
  .ofEquiv Int8.toUInt8 UInt8.toInt8 (fun _ => rfl) (fun _ => rfl)

instance : Scalar Int16 :=
  .ofEquiv Int16.toUInt16 UInt16.toInt16 (fun _ => rfl) (fun _ => rfl)

instance : Scalar Int32 :=
  .ofEquiv Int32.toUInt32 UInt32.toInt32 (fun _ => rfl) (fun _ => rfl)

instance : Scalar Int64 :=
  .ofEquiv Int64.toUInt64 UInt64.toInt64 (fun _ => rfl) (fun _ => rfl)

instance : Scalar Binary32 := .ofEquiv Binary32.bits Binary32.mk (fun _ => rfl) (fun _ => rfl)

instance : Scalar Binary64 := .ofEquiv Binary64.bits Binary64.mk (fun _ => rfl) (fun _ => rfl)

namespace Word

/-- The greatest value of the type. -/
def greatest (α : Type) [Word α] : Nat := Bytes.values (Scalar.width α) - 1

/-- The word of that value, if the type has one. -/
def ofNat? (α : Type) [Word α] (n : Nat) : Option α :=
  if n ≤ greatest α then some (Scalar.ofCode n) else none

/-- Whether bit `bit` of the word is set. -/
def testBit [Word α] (word : α) (bit : Nat) : Bool := (Scalar.code word).testBit bit

/-- The word with bit `bit` set or cleared. -/
def withBit [Word α] (word : α) (bit : Nat) (value : Bool) : α :=
  if testBit word bit = value then word
  else Scalar.ofCode (Scalar.code word ^^^ 1 <<< bit)

theorem xor_bit_lt [Word α] (word : α) {bit : Nat} (h : bit < 8 * Scalar.width α) :
    Scalar.code word ^^^ 1 <<< bit < Bytes.values (Scalar.width α) := by
  have small := Scalar.code_lt word
  rw [Bytes.values_eq_shiftLeft, Nat.shiftLeft_eq, Nat.one_mul] at small ⊢
  rw [Nat.shiftLeft_eq, Nat.one_mul]
  exact Nat.xor_lt_two_pow small (Nat.pow_lt_pow_right (by omega) h)

/-- The bit that was given a value has it, and the others keep theirs. -/
theorem testBit_withBit [Word α] (word : α) {bit : Nat} (h : bit < 8 * Scalar.width α)
    (value : Bool) (other : Nat) :
    testBit (withBit word bit value) other = if other = bit then value else testBit word other := by
  unfold withBit
  by_cases settled : testBit word bit = value
  · rw [if_pos settled]
    split
    · simp_all
    · rfl
  · rw [if_neg settled]
    unfold testBit
    rw [Scalar.code_ofCode _ (xor_bit_lt word h), Nat.testBit_xor, Nat.shiftLeft_eq, Nat.one_mul,
      Nat.testBit_two_pow]
    unfold testBit at settled
    by_cases same : other = bit
    · subst same
      cases value <;> simp_all
    · simp [same, Ne.symm same]

end Word

end Flyweight.Wire
