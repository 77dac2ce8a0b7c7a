import Grsan.FloatVal

set_option autoImplicit false

namespace Grsan

structure CType where
  bits : Nat
  signed : Bool
  deriving DecidableEq, Repr

namespace CType

def uint8_t : CType := ⟨8, false⟩
def int8_t : CType := ⟨8, true⟩
def uint16_t : CType := ⟨16, false⟩
def int16_t : CType := ⟨16, true⟩
def uint32_t : CType := ⟨32, false⟩
def int : CType := ⟨32, true⟩
def uint64_t : CType := ⟨64, false⟩
def long : CType := ⟨64, true⟩
def uint128_t : CType := ⟨128, false⟩
def int128_t : CType := ⟨128, true⟩
-- `char` is signed on x86-64; `u8` and `u16` are the sanitizer's unsigned typedefs.
def char : CType := int8_t
def u8 : CType := uint8_t
def u16 : CType := uint16_t

def conv (t : CType) (v : Int) : Int :=
  if t.signed then v.bmod (2 ^ t.bits) else v % (2 ^ t.bits : Nat)

theorem conv_zero (t : CType) : t.conv 0 = 0 := by
  unfold conv
  split <;> simp

theorem conv_conv (t : CType) (v : Int) : t.conv (t.conv v) = t.conv v := by
  unfold conv
  split <;> simp

def minVal (t : CType) : Int := if t.signed then -(2 ^ (t.bits - 1) : Nat) else 0

def maxVal (t : CType) : Int := if t.signed then (2 ^ (t.bits - 1) - 1 : Nat) else (2 ^ t.bits - 1 : Nat)

def promote (t : CType) : CType := if t.bits < 32 then int else t

def common (a b : CType) : CType :=
  let a := a.promote
  let b := b.promote
  if a = b then a
  else if a.signed = b.signed then (if b.bits ≤ a.bits then a else b)
  else if a.signed then (if a.bits ≤ b.bits then b else a)
  else (if b.bits ≤ a.bits then a else b)

-- A float converted to the type; the conversion of NaN, an infinity or an
-- out-of-range value is undefined in C, and the model wraps or yields 0.
def ofFloat (t : CType) (f : FloatVal) : Int := t.conv ((f.trunc).getD 0)

theorem ofFloat_zero (t : CType) : t.ofFloat 0 = 0 := by
  simp [ofFloat, FloatVal.trunc, conv]

def ofFloatChecked (t : CType) (f : FloatVal) : Option Int :=
  match f.trunc with
  | some n => if t.minVal ≤ n ∧ n ≤ t.maxVal then some n else none
  | none => none

def rem (t : CType) (a b : Int) : Option Int :=
  if b = 0 ∨ (t.signed ∧ a = t.minVal ∧ b = -1) then none else some (t.conv (a.tmod b))

def div (t : CType) (a b : Int) : Option Int :=
  if b = 0 ∨ (t.signed ∧ a = t.minVal ∧ b = -1) then none else some (t.conv (a.tdiv b))

def shl (t : CType) (a b : Int) : Option Int :=
  if b < 0 ∨ (t.bits : Int) ≤ b then none else some (t.conv (a * 2 ^ b.toNat))

def shr (t : CType) (a b : Int) : Option Int :=
  if b < 0 ∨ (t.bits : Int) ≤ b then none else some (t.conv (a >>> b.toNat))

end CType

inductive BinOp where
  | rem | shl | shr | and | or | xor
  deriving DecidableEq, Repr

def BinOp.eval (t : CType) : BinOp → Int → Int → Option Int
  | .rem, a, b => t.rem a b
  | .shl, a, b => t.shl a b
  | .shr, a, b => t.shr a b
  | .and, a, b => some (t.conv (Int.land a b))
  | .or, a, b => some (t.conv (Int.lor a b))
  | .xor, a, b => some (t.conv (Int.xor a b))

def BinOp.Defined (t : CType) (op : BinOp) (a b : Int) : Prop := (op.eval t a b).isSome

instance (t : CType) (op : BinOp) (a b : Int) : Decidable (op.Defined t a b) :=
  inferInstanceAs (Decidable ((op.eval t a b).isSome = true))

end Grsan
