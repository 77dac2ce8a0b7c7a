import Mathlib

set_option autoImplicit false

namespace Grsan

-- The runtime's `float` and `double` values, read exactly: a rational, a signed
-- infinity or NaN. Rounding is not modelled, so `float` and `double` coincide.
inductive FloatVal where
  | num (q : ℚ)
  | inf (positive : Bool)
  | nan
  deriving DecidableEq, Repr

namespace FloatVal

instance (n : Nat) : OfNat FloatVal n := ⟨num n⟩

def ofInt (n : Int) : FloatVal := num n

def add : FloatVal → FloatVal → FloatVal
  | num a, num b => num (a + b)
  | num _, inf s => inf s
  | inf s, num _ => inf s
  | inf s, inf t => if s = t then inf s else nan
  | _, _ => nan

def neg : FloatVal → FloatVal
  | num a => num (-a)
  | inf s => inf (!s)
  | nan => nan

def sub (a b : FloatVal) : FloatVal := add a (neg b)

def mul : FloatVal → FloatVal → FloatVal
  | num a, num b => num (a * b)
  | num a, inf s => if a = 0 then nan else inf (s == decide (0 < a))
  | inf s, num a => if a = 0 then nan else inf (s == decide (0 < a))
  | inf s, inf t => inf (s == t)
  | _, _ => nan

-- Zeros are read as +0, so a nonzero value over zero is an infinity of its own sign.
def div : FloatVal → FloatVal → FloatVal
  | num a, num b => if b = 0 then (if a = 0 then nan else inf (decide (0 < a))) else num (a / b)
  | num _, inf _ => num 0
  | inf s, num b => inf (s == decide (0 ≤ b))
  | _, _ => nan

instance : Add FloatVal := ⟨add⟩
instance : Sub FloatVal := ⟨sub⟩
instance : Mul FloatVal := ⟨mul⟩
instance : Div FloatVal := ⟨div⟩
instance : Neg FloatVal := ⟨neg⟩

-- C's `==` and `<` on floats: every comparison with NaN is false.
def cmpEq : FloatVal → FloatVal → Bool
  | num a, num b => decide (a = b)
  | inf s, inf t => s == t
  | _, _ => false

def cmpLt : FloatVal → FloatVal → Bool
  | num a, num b => decide (a < b)
  | num _, inf s => s
  | inf s, num _ => !s
  | inf s, inf t => !s && t
  | _, _ => false

def trunc : FloatVal → Option Int
  | num q => some (q.num.tdiv q.den)
  | _ => none

def fmod : FloatVal → FloatVal → FloatVal
  | num a, num b => if b = 0 then nan else num (a - ((a / b).num.tdiv (a / b).den) * b)
  | num a, inf _ => num a
  | _, _ => nan

def ceil : FloatVal → FloatVal
  | num q => num ⌈q⌉
  | v => v

@[simp] theorem add_num (a b : ℚ) : num a + num b = num (a + b) := rfl
@[simp] theorem sub_num (a b : ℚ) : num a - num b = num (a - b) := by
  show add (num a) (neg (num b)) = _
  simp only [add, neg, sub_eq_add_neg]
@[simp] theorem mul_num (a b : ℚ) : num a * num b = num (a * b) := rfl
@[simp] theorem div_num (a b : ℚ) (nonzero : b ≠ 0) : num a / num b = num (a / b) := by
  show div (num a) (num b) = _
  simp [div, nonzero]
@[simp] theorem ofNat_eq (n : Nat) : (OfNat.ofNat n : FloatVal) = num n := rfl
@[simp] theorem ofInt_eq (n : Int) : ofInt n = num n := rfl
@[simp] theorem cmpEq_num (a b : ℚ) : cmpEq (num a) (num b) = decide (a = b) := rfl
@[simp] theorem cmpEq_nan (a : FloatVal) : cmpEq nan a = false := by cases a <;> rfl
@[simp] theorem cmpEq_nan_right (a : FloatVal) : cmpEq a nan = false := by cases a <;> rfl

@[simp] theorem ceil_num (q : ℚ) : ceil (num q) = num ⌈q⌉ := rfl
@[simp] theorem trunc_intCast (n : Int) : trunc (num n) = some n := by
  simp [trunc, Rat.num_intCast, Rat.den_intCast]

theorem cmpEq_eq {a b : FloatVal} (h : cmpEq a b = true) : a = b := by
  cases a <;> cases b <;> simp_all [cmpEq]

end FloatVal

end Grsan
