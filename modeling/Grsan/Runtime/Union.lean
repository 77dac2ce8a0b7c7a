import Grsan.Runtime.State

set_option autoImplicit false

namespace Grsan

open FloatVal

-- `enum OpCode` of `dfsan.cc`, from `include/llvm/IR/Instruction.def`.
namespace OpCode
@[match_pattern] def ADD : Nat := 11
@[match_pattern] def FADD : Nat := 12
@[match_pattern] def SUB : Nat := 13
@[match_pattern] def FSUB : Nat := 14
@[match_pattern] def MUL : Nat := 15
@[match_pattern] def FMUL : Nat := 16
@[match_pattern] def SDIV : Nat := 18
@[match_pattern] def FDIV : Nat := 19
@[match_pattern] def UREM : Nat := 20
@[match_pattern] def SREM : Nat := 21
@[match_pattern] def FREM : Nat := 22
@[match_pattern] def SHL : Nat := 23
@[match_pattern] def LSHR : Nat := 24
@[match_pattern] def ASHR : Nat := 25
@[match_pattern] def AND : Nat := 26
@[match_pattern] def OR : Nat := 27
@[match_pattern] def XOR : Nat := 28
@[match_pattern] def GETELEMENTPTRT : Nat := 32
@[match_pattern] def SELECT : Nat := 55
end OpCode

open OpCode

-- The parameters of `DFSAN_INT_UNION`; `argType` is the macro's `Type`.
structure IntUnion where
  argType : CType
  unsignedDivType : CType
  signedDivType : CType
  bitwiseType : CType

def dfsanUnionByte : IntUnion := ⟨.u8, .uint8_t, .int8_t, .char⟩
def dfsanUnionShort : IntUnion := ⟨.u16, .uint16_t, .int16_t, .int16_t⟩
def dfsanUnion : IntUnion := ⟨.int, .uint32_t, .int, .long⟩
def dfsanUnionLong : IntUnion := ⟨.long, .uint64_t, .long, .long⟩

structure Sampler where
  base : CType
  pert : CType
  result : CType
  op : BinOp
  doubling : Bool

def IntUnion.sampler (u : IntUnion) : Nat → Option Sampler
  | UREM => some ⟨u.unsignedDivType, u.unsignedDivType, u.unsignedDivType, .rem, false⟩
  | SREM => some ⟨u.argType, u.signedDivType, u.signedDivType, .rem, false⟩
  | SHL => some ⟨u.argType, u.bitwiseType, u.bitwiseType, .shl, false⟩
  | LSHR => some ⟨u.argType, u.unsignedDivType, u.unsignedDivType, .shr, true⟩
  | ASHR => some ⟨u.argType, u.bitwiseType, u.bitwiseType, .shr, true⟩
  | AND => some ⟨u.argType, u.bitwiseType, u.bitwiseType, .and, true⟩
  | OR => some ⟨u.argType, u.bitwiseType, u.bitwiseType, .or, false⟩
  | XOR => some ⟨u.argType, u.bitwiseType, u.bitwiseType, .xor, false⟩
  | _ => none

-- `(x1 ∓ P(step*dx1)) op (x2 ∓ P(step*dx2))`, stored in the result type.
def Sampler.sample (sm : Sampler) (x1 x2 : Int) (d1 d2 : FloatVal) (step : Nat) (up : Bool) :
    Option Int :=
  let c := CType.common sm.base sm.pert
  let perturb (x : Int) (d : FloatVal) : Int :=
    let p := sm.pert.ofFloat (ofInt step * d)
    c.conv (if up then x + p else x - p)
  (sm.op.eval c (perturb x1 d1) (perturb x2 d2)).map sm.result.conv

-- `neg_dydx > -0.00001 && neg_dydx < 0.00001`
def nearZero (d : FloatVal) : Bool := cmpLt (num (-1 / 100000)) d && cmpLt d (num (1 / 100000))

-- `float(y - neg_y)/step`: the difference, taken in the promoted result type, is read
-- exactly, not rounded to `float`.
def Sampler.quotient (sm : Sampler) (a b : Int) (step : Nat) : FloatVal :=
  ofInt (sm.result.promote.conv (a - b)) / ofInt step

-- `for (int smp=1; smp<=nsamples; smp++)`; `offset` is an `unsigned int`.
def Sampler.loop (sm : Sampler) (x1 x2 y : Int) (dx1 dx2 : FloatVal × FloatVal) :
    Nat → Nat → Nat → FloatVal × FloatVal → Option (FloatVal × FloatVal)
  | 0, _, _, dydx => some dydx
  | n + 1, smp, offset, (neg, pos) => do
    let step := if sm.doubling then offset else smp
    let negY ← sm.sample x1 x2 dx1.1 dx2.1 step false
    let neg := if nearZero neg then sm.quotient y negY step else neg
    let posY ← sm.sample x1 x2 dx1.2 dx2.2 step true
    let pos := if nearZero pos then sm.quotient posY y step else pos
    sm.loop x1 x2 y dx1 dx2 n (smp + 1) (offset * 2 % 2 ^ 32) (neg, pos)

def Sampler.run (sm : Sampler) (samples : Int) (x1 x2 : Int) (dx1 dx2 : FloatVal × FloatVal) :
    Option (Int × FloatVal × FloatVal) := do
  let a := sm.base.conv x1
  let b := sm.base.conv x2
  let y ← (sm.op.eval sm.base.promote a b).map sm.result.conv
  let (neg, pos) ← sm.loop a b y dx1 dx2 samples.toNat 1 1 (0, 0)
  pure (y, neg, pos)

-- The `switch (opcode)` of `DFSAN_INT_UNION`: the derivative pair and `f_val`,
-- or the reason the process stops.
def intRule (fl : Flags) (u : IntUnion) (opcode : Nat) (x1 x2 : Int)
    (dx1 dx2 : FloatVal × FloatVal) : Except String (FloatVal × FloatVal × Int) :=
  let t := u.argType.promote
  match opcode with
  | ADD => .ok (dx1.1 + dx2.1, dx1.2 + dx2.2, CType.int.conv (t.conv (x1 + x2)))
  | SUB => .ok (dx1.1 - dx2.1, dx1.2 - dx2.2, CType.int.conv (t.conv (x1 - x2)))
  | MUL => .ok (ofInt x1 * dx2.1 + ofInt x2 * dx1.1, ofInt x1 * dx2.2 + ofInt x2 * dx1.2,
      CType.int.conv (t.conv (x1 * x2)))
  | SDIV =>
    if x2 = 0 then .error "assert(false)"
    else match t.div x1 x2 with
      | some q => .ok ((ofInt x2 * dx1.1 - ofInt x1 * dx2.1) / ofInt x2,
          (ofInt x2 * dx1.2 - ofInt x1 * dx2.2) / ofInt x2, CType.int.conv q)
      | none => .error "SIGFPE"
  | GETELEMENTPTRT => let d := if fl.gepDefault then 1 else 0; .ok (d, d, -1)
  | SELECT => let d := if fl.selectDefault then 1 else 0; .ok (d, d, -1)
  | _ => match u.sampler opcode with
    | some sm => match sm.run fl.samples x1 x2 dx1 dx2 with
      | some (y, neg, pos) => .ok (neg, pos, CType.int.conv y)
      | none => .error "undefined operation"
    | none => let d := if fl.defaultNan then nan else 0; .ok (d, d, -1)

-- The `switch (opcode)` of `DFSAN_FLOAT_UNION`.
def floatRule (fl : Flags) (opcode : Nat) (x1 x2 : FloatVal) (dx1 dx2 : FloatVal × FloatVal) :
    FloatVal × FloatVal :=
  match opcode with
  | FADD => (dx1.1 + dx2.1, dx1.2 + dx2.2)
  | FSUB => (dx1.1 - dx2.1, dx1.2 - dx2.2)
  | FMUL => (x1 * dx2.1 + x2 * dx1.1, x1 * dx2.2 + x2 * dx1.2)
  | FDIV =>
    if cmpEq x2 0 then (nan, nan)
    else ((x2 * dx1.1 - x1 * dx2.1) / x2, (x2 * dx1.2 - x1 * dx2.2) / x2)
  | FREM =>
    let y := fmod x1 x2
    (y - fmod (x1 - dx1.1) (x2 - dx2.1), fmod (x1 + dx1.2) (x2 + dx2.2) - y)
  | _ => let d := if fl.defaultNan then nan else 0; (d, d)

def intArgSite : Nat → Option Nat
  | SDIV => some 18
  | UREM => some 20
  | SREM => some 21
  | _ => none

def floatArgSite : Nat → Option Nat
  | FDIV => some 19
  | FREM => some 22
  | _ => none

def allZero (dx1 dx2 : FloatVal × FloatVal) : Bool :=
  cmpEq dx1.1 0 && cmpEq dx1.2 0 && cmpEq dx2.1 0 && cmpEq dx2.2 0

def unionLabel (fl : Flags) (l1 l2 : Nat) (dx1 dx2 : FloatVal × FloatVal) (opcode : Nat)
    (neg pos : FloatVal) (fVal : Option Int) (location : Option String) : Rt Nat :=
  if fl.reuseLabels ∧ l1 ≠ 0 ∧ cmpEq pos dx1.2 ∧ cmpEq neg dx1.1 then pure l1
  else if fl.reuseLabels ∧ l2 ≠ 0 ∧ cmpEq pos dx2.2 ∧ cmpEq neg dx2.1 then pure l2
  else do
    let label ← allocLabel
    setLabelInfo label fun i =>
      { i with l1, l2, opcode, negDydx := neg, posDydx := pos, loc := location,
               fVal := fVal.getD i.fVal }
    pure label

def divisorRecord (cfg : Config) (site : Option Nat) (l2 retAddr : Nat) (v : FloatVal)
    (location : Option String) : Rt Unit :=
  match site with
  | some instId => if l2 ≠ 0 ∧ ¬cfg.grModePerf then recordArg cfg retAddr instId 0 l2 v location
      else pure ()
  | none => pure ()

def intUnionLabel (fl : Flags) (u : IntUnion) (l1 l2 : Nat) (a b : Int) (dx1 dx2 : FloatVal × FloatVal)
    (opcode : Nat) (location : Option String) : Rt Nat :=
  match intRule fl u opcode a b dx1 dx2 with
  | .ok (neg, pos, fVal) => unionLabel fl l1 l2 dx1 dx2 opcode neg pos (some fVal) location
  | .error msg => throw (.crash msg)

-- `DFSAN_INT_UNION(FunctionName, Type, UnsignedDivType, SignedDivType, BitwiseType)`.
def intUnion (cfg : Config) (u : IntUnion) (l1 l2 : Nat) (x1 x2 : Int) (retAddr opcode : Nat)
    (location : Option String) : Rt Nat :=
  if l1 = 0 ∧ l2 = 0 then pure 0 else do
  let s ← get
  let dx1 := operandDx s l1
  let dx2 := operandDx s l2
  if cfg.flags.reuseLabels ∧ allZero dx1 dx2 then pure (if l1 ≠ 0 then l1 else l2) else do
  let a := u.argType.conv x1
  let b := u.argType.conv x2
  divisorRecord cfg (intArgSite opcode) l2 retAddr (ofInt b) location
  intUnionLabel cfg.flags u l1 l2 a b dx1 dx2 opcode location

-- `DFSAN_FLOAT_UNION(FunctionName, Type)`; `__dfsan_union_float` and
-- `__dfsan_union_double` coincide on exact values.
def floatUnion (cfg : Config) (l1 l2 : Nat) (x1 x2 : FloatVal) (retAddr opcode : Nat)
    (location : Option String) : Rt Nat :=
  if l1 = 0 ∧ l2 = 0 then pure 0 else do
  let s ← get
  let dx1 := operandDx s l1
  let dx2 := operandDx s l2
  if cfg.flags.reuseLabels ∧ allZero dx1 dx2 then pure (if l1 ≠ 0 then l1 else l2) else do
  divisorRecord cfg (floatArgSite opcode) l2 retAddr x2 location
  unionLabel cfg.flags l1 l2 dx1 dx2 opcode (floatRule cfg.flags opcode x1 x2 dx1 dx2).1
    (floatRule cfg.flags opcode x1 x2 dx1 dx2).2 none location

def dfsanUnionUnsupportedType (l1 l2 opcode : Nat) (location : Option String) : Rt Nat :=
  if l1 = 0 ∧ l2 = 0 then pure 0 else do
  let label ← allocLabel
  setLabelInfo label fun i =>
    { i with l1, l2, opcode, negDydx := nan, posDydx := nan, loc := location }
  pure label

def dfsanCreateLabel (desc : Option String) : Rt Nat := do
  let label ← allocLabel
  setLabelInfo label fun i => { i with l1 := 0, l2 := 0, loc := desc, negDydx := 1, posDydx := 1 }
  pure label

end Grsan
