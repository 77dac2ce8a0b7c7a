import Grsan.Runtime.Branch

set_option autoImplicit false

namespace Grsan

inductive IntWidth where
  | byte | short | int | long
  deriving DecidableEq, Repr

def IntWidth.union : IntWidth → IntUnion
  | .byte => dfsanUnionByte
  | .short => dfsanUnionShort
  | .int => dfsanUnion
  | .long => dfsanUnionLong

inductive BranchWidth where
  | char | short | int | long | longlong
  deriving DecidableEq, Repr

def BranchWidth.visitor : BranchWidth → IntBranch
  | .char => branchVisitorChar
  | .short => branchVisitorShort
  | .int => branchVisitorInt
  | .long => branchVisitorLong
  | .longlong => branchVisitorLonglong

-- The runtime's entry points, with the arguments the instrumentation or the
-- caller passes; `retAddr` is `__builtin_return_address(0)` at the call.
inductive Call where
  | createLabel (desc : Option String)
  | intUnion (w : IntWidth) (l1 l2 : Nat) (x1 x2 : Int) (retAddr opcode : Nat)
      (location : Option String)
  | floatUnion (l1 l2 : Nat) (x1 x2 : FloatVal) (retAddr opcode : Nat) (location : Option String)
  | unionUnsupportedType (l1 l2 opcode : Nat) (location : Option String)
  | intBranch (w : BranchWidth) (lhs rhs : Nat) (lhsV rhsV : Int) (cond : Bool)
      (pred fileId brId isPtr : Nat) (location : Option String)
  | floatBranch (lhs rhs : Nat) (lhsV rhsV : FloatVal) (cond : Bool) (pred fileId brId isPtr : Nat)
      (location : Option String)
  | recordBranch (fileId instId lhs rhs : Nat) (lhsV rhsV : FloatVal) (cond : Bool) (isPtr : Nat)
      (location : Option String)
  | recordArg (fileId instId argInd label : Nat) (v : FloatVal) (location : Option String)
  | memcpy (dest src n destLabel srcLabel nLabel retAddr : Nat) (location : Option String)
  | setLabel (label addr size : Nat)
  | addLabel (label addr size : Nat)
  | readLabel (addr size : Nat)
  | flush

def step (cfg : Config) : Call → Rt Nat
  | .createLabel desc => dfsanCreateLabel desc
  | .intUnion w l1 l2 x1 x2 retAddr opcode location =>
    intUnion cfg w.union l1 l2 x1 x2 retAddr opcode location
  | .floatUnion l1 l2 x1 x2 retAddr opcode location =>
    floatUnion cfg l1 l2 x1 x2 retAddr opcode location
  | .unionUnsupportedType l1 l2 opcode location => dfsanUnionUnsupportedType l1 l2 opcode location
  | .intBranch w lhs rhs lhsV rhsV cond pred fileId brId isPtr location => do
    intBranchVisitor cfg w.visitor lhs rhs lhsV rhsV cond pred fileId brId isPtr location
    pure 0
  | .floatBranch lhs rhs lhsV rhsV cond _ fileId brId isPtr location => do
    floatBranchVisitor cfg lhs rhs lhsV rhsV cond fileId brId isPtr location
    pure 0
  | .recordBranch fileId instId lhs rhs lhsV rhsV cond isPtr location => do
    recordBranch fileId instId lhs rhs lhsV rhsV cond isPtr location
    pure 0
  | .recordArg fileId instId argInd label v location => do
    recordArg cfg fileId instId argInd label v location
    pure 0
  | .memcpy dest src n destLabel srcLabel nLabel retAddr location => do
    memcpy cfg dest src n destLabel srcLabel nLabel retAddr location
    pure 0
  | .setLabel label addr size => do dfsanSetLabel label addr size; pure 0
  | .addLabel label addr size => do dfsanAddLabel label addr size; pure 0
  | .readLabel addr size => dfsanReadLabel cfg addr size
  | .flush => do dfsanFlush; pure 0

def run (cfg : Config) : List Call → Rt (List Nat)
  | [] => pure []
  | c :: cs => do
    let r ← step cfg c
    let rs ← run cfg cs
    pure (r :: rs)

def Call.labels : Call → List Nat
  | .intUnion _ l1 l2 .. | .floatUnion l1 l2 .. | .unionUnsupportedType l1 l2 .. => [l1, l2]
  | .intBranch _ lhs rhs .. | .floatBranch lhs rhs .. | .recordBranch _ _ lhs rhs .. => [lhs, rhs]
  | .recordArg _ _ _ label .. | .setLabel label .. | .addLabel label .. => [label]
  | .memcpy _ _ _ destLabel srcLabel nLabel .. => [destLabel, srcLabel, nLabel]
  | _ => []

def Call.sources (c : Call) (r : Nat) (sources : List Nat) : List Nat :=
  match c with
  | .createLabel _ => r :: sources
  | .flush => []
  | _ => sources

inductive Reach (cfg : Config) : RuntimeState → List Nat → Prop
  | flushed : Reach cfg flushedState []
  | call {s : RuntimeState} {sources : List Nat} {c : Call} {r : Nat} {s' : RuntimeState} :
      Reach cfg s sources → (∀ l ∈ c.labels, l ≤ s.table.dfsanLastLabel) →
      (step cfg c).run s = .ok (r, s') → Reach cfg s' (c.sources r sources)

end Grsan
