import Grsan.Runtime.Union

set_option autoImplicit false

namespace Grsan

open FloatVal

-- `enum Predicate`: the integer comparisons the branch barriers handle.
namespace Predicate
@[match_pattern] def ICMP_EQ : Nat := 32
@[match_pattern] def ICMP_NE : Nat := 33
@[match_pattern] def ICMP_UGT : Nat := 34
@[match_pattern] def ICMP_UGE : Nat := 35
@[match_pattern] def ICMP_ULT : Nat := 36
@[match_pattern] def ICMP_ULE : Nat := 37
@[match_pattern] def ICMP_SGT : Nat := 38
@[match_pattern] def ICMP_SGE : Nat := 39
@[match_pattern] def ICMP_SLT : Nat := 40
@[match_pattern] def ICMP_SLE : Nat := 41
end Predicate

open Predicate

-- The parameters of `DFSAN_INT_BRANCH(FunctionName, UType, SType, TypeName)`.
structure IntBranch where
  uType : CType
  sType : CType

def branchVisitorChar : IntBranch := ⟨.uint8_t, .int8_t⟩
def branchVisitorShort : IntBranch := ⟨.uint16_t, .int16_t⟩
def branchVisitorInt : IntBranch := ⟨.uint32_t, .int⟩
def branchVisitorLong : IntBranch := ⟨.uint64_t, .long⟩
def branchVisitorLonglong : IntBranch := ⟨.uint128_t, .int128_t⟩

def icmpPredicate : Nat → Option (Bool × (Int → Int → Bool))
  | ICMP_EQ => some (false, fun a b => a == b)
  | ICMP_NE => some (false, fun a b => a != b)
  | ICMP_UGT => some (false, fun a b => decide (b < a))
  | ICMP_UGE => some (false, fun a b => decide (b ≤ a))
  | ICMP_ULT => some (false, fun a b => decide (a < b))
  | ICMP_ULE => some (false, fun a b => decide (a ≤ b))
  | ICMP_SGT => some (true, fun a b => decide (b < a))
  | ICMP_SGE => some (true, fun a b => decide (b ≤ a))
  | ICMP_SLT => some (true, fun a b => decide (a < b))
  | ICMP_SLE => some (true, fun a b => decide (a ≤ b))
  | _ => none

-- `lhs_v ∓ UType(lhs_dx)`, or `SType(lhs_v) ∓ SType(lhs_dx)` for a signed predicate.
def IntBranch.barrierSample (b : IntBranch) (signed : Bool) (v : Int) (d : FloatVal) (up : Bool) :
    Int :=
  let t := if signed then b.sType else b.uType
  let p := t.ofFloat d
  t.conv (if up then t.conv v + p else t.conv v - p)

def IntBranch.barrier (b : IntBranch) (signed : Bool) (cmp : Int → Int → Bool) (cond : Bool)
    (lhsV rhsV : Int) (ldx rdx : FloatVal × FloatVal) : (FloatVal × FloatVal) × (FloatVal × FloatVal) :=
  let keepNeg := cond == cmp (b.barrierSample signed lhsV ldx.1 false) (b.barrierSample signed rhsV rdx.1 false)
  let keepPos := cond == cmp (b.barrierSample signed lhsV ldx.2 true) (b.barrierSample signed rhsV rdx.2 true)
  ((if keepNeg then ldx.1 else 0, if keepPos then ldx.2 else 0),
    (if keepNeg then rdx.1 else 0, if keepPos then rdx.2 else 0))

def logBranch (cfg : Config) (fileId brId lhs rhs : Nat) (lhsV rhsV : FloatVal) (cond : Bool)
    (isPtr : Nat) (location : Option String) : Rt Unit :=
  if cfg.grModePerf then pure () else recordBranch fileId brId lhs rhs lhsV rhsV cond isPtr location

-- The barrier overwrites both operands' derivatives and location in place, label 0 included.
def branchBarrier (b : IntBranch) (lhs rhs : Nat) (lhsV rhsV : Int) (cond : Bool) (pred : Nat)
    (location : Option String) : Rt Unit := do
  let s ← get
  match icmpPredicate pred with
  | none => throw (.exit s s!"ERROR: invalid branch cmp predicate {pred}\n")
  | some (signed, cmp) =>
    let (l, r) := b.barrier signed cmp cond lhsV rhsV (operandDx s lhs) (operandDx s rhs)
    setLabelInfo lhs fun i => { i with negDydx := l.1, posDydx := l.2, loc := location }
    setLabelInfo rhs fun i => { i with negDydx := r.1, posDydx := r.2, loc := location }

-- `DFSAN_INT_BRANCH`.
def intBranchVisitor (cfg : Config) (b : IntBranch) (lhs rhs : Nat) (lhsV rhsV : Int) (cond : Bool)
    (pred fileId brId isPtr : Nat) (location : Option String) : Rt Unit :=
  if lhs = 0 ∧ rhs = 0 then pure () else do
  let lhsV := b.uType.conv lhsV
  let rhsV := b.uType.conv rhsV
  logBranch cfg fileId brId lhs rhs (ofInt lhsV) (ofInt rhsV) cond isPtr location
  if cfg.flags.branchBarriers then branchBarrier b lhs rhs lhsV rhsV cond pred location
  else pure ()

-- `DFSAN_FLOAT_BRANCH`: no barrier; its `br_id` parameter is a `uint16_t`.
def floatBranchVisitor (cfg : Config) (lhs rhs : Nat) (lhsV rhsV : FloatVal) (cond : Bool)
    (fileId brId isPtr : Nat) (location : Option String) : Rt Unit :=
  if lhs ≠ 0 ∨ rhs ≠ 0 then logBranch cfg fileId (brId % 2 ^ 16) lhs rhs lhsV rhsV cond isPtr location
  else pure ()

/-- Modelled from the spec: `dfsan_memcpy` is only declared under src/ (part_003), and
neither the source nor the spec says how it copies. The model copies each of the `n`
labels from the source's shadow to the destination's, as they were before the copy; the
theorems that read labels back take the two ranges disjoint, where any order agrees. -/
def copyShadow (shadow : Nat → Nat) (dest src : Nat) : Nat → Nat → Nat
  | 0 => shadow
  | n + 1 => Function.update (copyShadow shadow dest src n) (dest + 2 * n) (shadow (src + 2 * n))

def memcpyArg (cfg : Config) (retAddr argInd label : Nat) (v : FloatVal) (location : Option String) :
    Rt Unit :=
  if label ≠ 0 then recordArg cfg retAddr 6 argInd label v location else pure ()

def memcpy (cfg : Config) (dest src n destLabel srcLabel nLabel retAddr : Nat)
    (location : Option String) : Rt Unit := do
  memcpyArg cfg retAddr 0 destLabel 0 location
  memcpyArg cfg retAddr 1 srcLabel 0 location
  memcpyArg cfg retAddr 2 nLabel (ofInt n) location
  modify fun s => { s with shadow := copyShadow s.shadow (shadowFor dest) (shadowFor src) n }

-- `__dfsan_union_load`: the first slot that differs from slot 0 is combined by a
-- bare `__dfsan_union` call and the process dies.
def dfsanUnionLoad (cfg : Config) (ls n : Nat) : Rt Nat := do
  let s ← get
  let label := s.shadow ls
  match (List.range n).find? (fun i => i ≠ 0 ∧ s.shadow (ls + 2 * i) ≠ label) with
  | none => pure label
  | some i =>
    let _ ← intUnion cfg dfsanUnion label (s.shadow (ls + 2 * i)) 0 0 0 0 none
    die "ERROR Non-instrumented call to dfsan_union via dfsan_union_load\n"

def dfsanReadLabel (cfg : Config) (addr size : Nat) : Rt Nat :=
  if size = 0 then pure 0 else dfsanUnionLoad cfg (shadowFor addr) size

def dfsanAddLabel (label addr size : Nat) : Rt Unit := do
  let s ← get
  if (List.range size).any (fun i => s.shadow (shadowFor addr + 2 * i) ≠ label) then
    die "ERROR already labeled"
  else pure ()

end Grsan
