import Grsan.Runtime.Step

set_option autoImplicit false

namespace Grsan

namespace OpCode
@[match_pattern] def STORE : Nat := 31
@[match_pattern] def ICMP : Nat := 51
@[match_pattern] def FCMP : Nat := 52
end OpCode

open OpCode

-- The LLVM types the visitors tell apart; `other` is a vector, struct or array type.
inductive IRType where
  | int (bits : Nat)
  | float
  | double
  | ptr
  | other
  deriving DecidableEq, Repr

inductive IRValue where
  | arg (i : Nat)
  | inst (i : Nat)
  | intConst (v : Int)
  | floatConst (f : FloatVal)
  deriving DecidableEq, Repr

abbrev DebugLoc := Option (String × Nat)

-- `Loc->getFilename() + ":" + std::to_string(Loc->getLine())`, else `"UNKNOWN"`.
def locationOf : DebugLoc → String
  | some (file, line) => file ++ ":" ++ toString line
  | none => "UNKNOWN"

inductive Inst where
  | binaryOperator (opcode : Nat) (x1 x2 : IRValue) (t1 t2 : IRType) (loc : DebugLoc)
  | cmp (opcode pred : Nat) (lhs rhs : IRValue) (t : IRType)
  | operandShadow (opcode : Nat) (ops : List IRValue)
  | load (addr : IRValue) (size : Nat)
  | store (val addr : IRValue) (size : Nat)
  | alloca
  | select (vectorCond : Bool) (cond t f : IRValue)
  | br (cond : Option IRValue) (loc : DebugLoc)
  | memSet (dest val len : IRValue)
  | memTransfer (dest src len : IRValue) (loc : DebugLoc)
  | ret (v : Option IRValue)
  | other
  deriving DecidableEq, Repr

def Inst.operands : Inst → List IRValue
  | .binaryOperator _ x1 x2 .. => [x1, x2]
  | .cmp _ _ lhs rhs _ => [lhs, rhs]
  | .operandShadow _ ops => ops
  | .load addr _ => [addr]
  | .store val addr _ => [val, addr]
  | .select _ cond t f => [cond, t, f]
  | .br (some cond) _ => [cond]
  | .memSet dest val len | .memTransfer dest val len _ => [dest, val, len]
  | .ret (some v) => [v]
  | _ => []

structure IRFunction where
  body : List Inst
  nativeABI : Bool
  constantObjects : IRValue → Bool

-- No call site, nor any other instruction the model leaves out.
def IRFunction.CallFree (F : IRFunction) : Prop := ∀ inst ∈ F.body, inst ≠ .other

instance (F : IRFunction) : Decidable F.CallFree := inferInstanceAs (Decidable (∀ inst ∈ F.body, inst ≠ .other))

structure PassOptions where
  combinePointerLabelsOnStore : Bool
  fileId : Nat

inductive Shadow where
  | zero
  | arg (i : Nat)
  | reg (r : Nat)
  deriving DecidableEq, Repr

-- The union `combineDerivShadows` calls: by width, `__dfsan_union_float`,
-- `__dfsan_union_double`, or `__dfsan_union_unsupported_type`.
inductive UnionFn where
  | int (w : IntWidth)
  | float
  | double
  | unsupported
  deriving DecidableEq, Repr

-- The branch visitor `recordBranchInst` calls; `zext` is the width both operands are
-- zero-extended from when it is not one the visitors take.
inductive BranchFn where
  | int (w : BranchWidth) (zext : Option Nat)
  | float
  | double
  deriving DecidableEq, Repr

inductive ShadowInst where
  | union (fn : UnionFn) (l1 l2 : Shadow) (x1 x2 : IRValue) (opcode : Nat) (location : String)
  | select (cond : IRValue) (t f : Shadow)
  | load (addr : IRValue)
  | allocaLoad (slot : Nat)
  | storeZero (addr : IRValue) (size : Nat)
  | storeVec (addr : IRValue) (offset : Nat) (s : Shadow)
  | storeSlot (addr : IRValue) (offset : Nat) (s : Shadow)
  | allocaStore (slot : Nat) (s : Shadow)
  | branch (fn : BranchFn) (lhsLabel rhsLabel : Shadow) (lhs rhs cond : IRValue) (pred fileId brId : Nat)
      (location : String)
  | setLabel (label : Shadow) (dest len : IRValue)
  | memcpy (dest src len : IRValue) (destLabel srcLabel nLabel : Shadow) (location : String)
  | retval (s : Shadow)
  deriving DecidableEq, Repr

structure DFSanFunction where
  F : IRFunction
  valShadowMap : Nat → Option Shadow
  allocaShadowMap : Nat → Option Nat
  code : List ShadowInst
  branchId : Nat

namespace DFSanFunction

variable (st : DFSanFunction)

def emit (si : ShadowInst) : Shadow × DFSanFunction :=
  (.reg st.code.length, { st with code := st.code ++ [si] })

def emitAll (sis : List ShadowInst) : DFSanFunction := { st with code := st.code ++ sis }

def setShadow (i : Nat) (s : Shadow) : DFSanFunction :=
  { st with valShadowMap := Function.update st.valShadowMap i (some s) }

def getShadow : IRValue → Shadow
  | .arg i => if st.F.nativeABI then .zero else .arg i
  | .inst i => (st.valShadowMap i).getD .zero
  | _ => .zero

-- `__dfsan_union(V1, V2, 0, 0, 0, opcode, "UNKNOWN")`: the location it builds is never used.
def combineShadows (v1 v2 : Shadow) (opcode : Nat) : Shadow × DFSanFunction :=
  st.emit (.union (.int .int) v1 v2 (.intConst 0) (.intConst 0) opcode "UNKNOWN")

def combineRest (opcode : Nat) : Shadow → List IRValue → DFSanFunction → Shadow × DFSanFunction
  | s, [], st => (s, st)
  | s, v :: vs, st =>
    let (s, st') := st.combineShadows s (st.getShadow v) opcode
    combineRest opcode s vs st'

def combineOperandShadows (opcode : Nat) : List IRValue → Shadow × DFSanFunction
  | [] => (.zero, st)
  | v :: vs => combineRest opcode (st.getShadow v) vs st

end DFSanFunction

def unionFn : IRType → IRType → UnionFn
  | .int 8, .int 8 => .int .byte
  | .int 16, .int 16 => .int .short
  | .int 32, .int 32 => .int .int
  | .int 64, .int 64 => .int .long
  | .float, .float => .float
  | .double, .double => .double
  | _, _ => .unsupported

def branchFn : IRType → Option BranchFn
  | .int 8 => some (.int .char none)
  | .int 16 => some (.int .short none)
  | .int 32 => some (.int .int none)
  | .int 64 => some (.int .long none)
  | .int 128 => some (.int .longlong none)
  | .int bits => some (.int .long (some bits))
  | .float => some .float
  | .double => some .double
  | _ => none

def storeSlots (addr : IRValue) (s : Shadow) (offset : Nat) : Nat → List ShadowInst
  | 0 => []
  | n + 1 => .storeSlot addr offset s :: storeSlots addr s (offset + 1) n

def storeVecs (addr : IRValue) (s : Shadow) (offset : Nat) : Nat → List ShadowInst
  | 0 => []
  | n + 1 => .storeVec addr offset s :: storeVecs addr s (offset + 1) n

-- `ShadowVecSize = 128 / ShadowWidth`.
def ShadowVecSize : Nat := 8

def storeShadowCode (addr : IRValue) (size : Nat) (s : Shadow) : List ShadowInst :=
  if s = .zero then [.storeZero addr size]
  else storeVecs addr s 0 (size / ShadowVecSize) ++
    storeSlots addr s (ShadowVecSize * (size / ShadowVecSize)) (size % ShadowVecSize)

theorem mem_storeSlots {addr : IRValue} {s : Shadow} {si : ShadowInst} :
    ∀ {offset n : Nat}, si ∈ storeSlots addr s offset n → ∃ o, si = .storeSlot addr o s
  | _, 0, mem => absurd mem (List.not_mem_nil _)
  | _, _ + 1, mem => (List.mem_cons.mp mem).elim (fun h => ⟨_, h⟩) mem_storeSlots

theorem mem_storeVecs {addr : IRValue} {s : Shadow} {si : ShadowInst} :
    ∀ {offset n : Nat}, si ∈ storeVecs addr s offset n → ∃ o, si = .storeVec addr o s
  | _, 0, mem => absurd mem (List.not_mem_nil _)
  | _, _ + 1, mem => (List.mem_cons.mp mem).elim (fun h => ⟨_, h⟩) mem_storeVecs

theorem mem_storeShadowCode {addr : IRValue} {size : Nat} {s : Shadow} {si : ShadowInst}
    (mem : si ∈ storeShadowCode addr size s) :
    si = .storeZero addr size ∨ (∃ o, si = .storeVec addr o s) ∨ ∃ o, si = .storeSlot addr o s := by
  unfold storeShadowCode at mem
  split at mem
  · exact .inl (List.mem_singleton.mp mem)
  · exact (List.mem_append.mp mem).elim (fun vec => .inr (.inl (mem_storeVecs vec)))
      fun slot => .inr (.inr (mem_storeSlots slot))

namespace DFSanFunction

variable (st : DFSanFunction)

def allocaSlot : IRValue → Option Nat
  | .inst i => st.allocaShadowMap i
  | _ => none

def loadShadow (addr : IRValue) (size : Nat) : Shadow × DFSanFunction :=
  match st.allocaSlot addr with
  | some slot => st.emit (.allocaLoad slot)
  | none =>
    if st.F.constantObjects addr then (.zero, st)
    else if size = 0 then (.zero, st)
    else st.emit (.load addr)

def storeShadow (addr : IRValue) (size : Nat) (s : Shadow) : DFSanFunction :=
  match st.allocaSlot addr with
  | some slot => (st.emit (.allocaStore slot s)).2
  | none => st.emitAll (storeShadowCode addr size s)

def recordBranchInst (opts : PassOptions) (lhsLabel rhsLabel : Shadow) (lhs rhs cond : IRValue) (t : IRType)
    (pred : Nat) (location : String) : DFSanFunction :=
  match branchFn t with
  | none => st
  | some fn =>
    let brId := st.branchId
    ({ st with branchId := (brId + 1) % 2 ^ 64 }.emit
      (.branch fn lhsLabel rhsLabel lhs rhs cond pred opts.fileId brId location)).2

def visitBinaryOperator (i opcode : Nat) (x1 x2 : IRValue) (t1 t2 : IRType) (loc : DebugLoc) :
    DFSanFunction :=
  let (s, st') := st.emit (.union (unionFn t1 t2) (st.getShadow x1) (st.getShadow x2) x1 x2 opcode (locationOf loc))
  st'.setShadow i s

def visitOperandShadowInst (i opcode : Nat) (ops : List IRValue) : DFSanFunction :=
  let (s, st') := st.combineOperandShadows opcode ops
  st'.setShadow i s

def visitLoadInst (i : Nat) (addr : IRValue) (size : Nat) : DFSanFunction :=
  if size = 0 then st.setShadow i .zero
  else
    let (s, st') := st.loadShadow addr size
    st'.setShadow i s

def visitStoreInst (opts : PassOptions) (val addr : IRValue) (size : Nat) : DFSanFunction :=
  if size = 0 then st
  else
    let (s, st') :=
      if opts.combinePointerLabelsOnStore then st.combineShadows (st.getShadow val) (st.getShadow addr) STORE
      else (st.getShadow val, st)
    st'.storeShadow addr size s

end DFSanFunction

def allLoadsStores (body : List Inst) (i : Nat) : Bool :=
  body.all fun u => !u.operands.contains (.inst i) ||
    match u with
    | .load _ _ => true
    | .store _ addr _ => addr == .inst i
    | _ => false

namespace DFSanFunction

variable (st : DFSanFunction)

def visitAllocaInst (i : Nat) : DFSanFunction :=
  let st' := if allLoadsStores st.F.body i then
    { st with allocaShadowMap := Function.update st.allocaShadowMap i (some i) } else st
  st'.setShadow i .zero

def visitSelectInst (i : Nat) (vectorCond : Bool) (cond t f : IRValue) : DFSanFunction :=
  let condShadow := st.getShadow cond
  let trueShadow := st.getShadow t
  let falseShadow := st.getShadow f
  if vectorCond then
    let (inner, st₁) := st.combineShadows trueShadow falseShadow SELECT
    let (s, st₂) := st₁.combineShadows condShadow inner SELECT
    st₂.setShadow i s
  else
    let (shadowSel, st₁) := if trueShadow = falseShadow then (trueShadow, st)
      else st.emit (.select cond trueShadow falseShadow)
    let (s, st₂) := st₁.combineShadows condShadow shadowSel SELECT
    st₂.setShadow i s

def visitBranchInst (opts : PassOptions) (cond : Option IRValue) (loc : DebugLoc) : DFSanFunction :=
  match cond with
  | some (.inst j) =>
    match st.F.body[j]? with
    | some (.cmp _ pred lhs rhs t) =>
      st.recordBranchInst opts (st.getShadow lhs) (st.getShadow rhs) lhs rhs (.inst j) t pred (locationOf loc)
    | _ => st
  | _ => st

def visitMemSetInst (dest val len : IRValue) : DFSanFunction :=
  (st.emit (.setLabel (st.getShadow val) dest len)).2

-- `__memcpy(dst, src, n, srcShadow, dstShadow, nShadow, location)`, whose parameters are
-- `(dest, src, n, dest_label, src_label, n_label, location)`.
def visitMemTransferInst (dest src len : IRValue) (loc : DebugLoc) : DFSanFunction :=
  (st.emit (.memcpy dest src len (st.getShadow src) (st.getShadow dest) (st.getShadow len) (locationOf loc))).2

def visitReturnInst (v : Option IRValue) : DFSanFunction :=
  match v with
  | some v => if st.F.nativeABI then st else (st.emit (.retval (st.getShadow v))).2
  | none => st

def visit (opts : PassOptions) (i : Nat) : Inst → DFSanFunction
  | .binaryOperator opcode x1 x2 t1 t2 loc => st.visitBinaryOperator i opcode x1 x2 t1 t2 loc
  | .cmp opcode _ lhs rhs _ => st.visitOperandShadowInst i opcode [lhs, rhs]
  | .operandShadow opcode ops => st.visitOperandShadowInst i opcode ops
  | .load addr size => st.visitLoadInst i addr size
  | .store val addr size => st.visitStoreInst opts val addr size
  | .alloca => st.visitAllocaInst i
  | .select vectorCond cond t f => st.visitSelectInst i vectorCond cond t f
  | .br cond loc => st.visitBranchInst opts cond loc
  | .memSet dest val len => st.visitMemSetInst dest val len
  | .memTransfer dest src len loc => st.visitMemTransferInst dest src len loc
  | .ret v => st.visitReturnInst v
  | .other => st

end DFSanFunction

def visitAll (opts : PassOptions) : Nat → List Inst → DFSanFunction → DFSanFunction
  | _, [], st => st
  | i, inst :: rest, st => visitAll opts (i + 1) rest (st.visit opts i inst)

def instrument (F : IRFunction) (opts : PassOptions) (branchId : Nat) : DFSanFunction :=
  visitAll opts 0 F.body ⟨F, fun _ => none, fun _ => none, [], branchId⟩

end Grsan
