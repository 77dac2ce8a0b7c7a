import Grsan.Runtime.Immutable

set_option autoImplicit false

namespace Grsan

inductive Ref where
  | zero
  | result (i : Nat)
  deriving DecidableEq, Repr

def Ref.label (results : List Nat) : Ref → Nat
  | .zero => 0
  | .result i => results.getD i 0

inductive Flow where
  | create
  | intUnion (w : IntWidth) (a b : Ref) (opcode : Nat)
  | floatUnion (a b : Ref) (opcode : Nat)
  | unsupported (a b : Ref) (opcode : Nat)
  | intBranch (w : BranchWidth) (a b : Ref) (pred : Nat)
  | floatBranch (a b : Ref) (pred : Nat)
  deriving DecidableEq, Repr

structure Values where
  x1 : Int
  x2 : Int
  f1 : FloatVal
  f2 : FloatVal
  cond : Bool
  retAddr : Nat
  fileId : Nat
  brId : Nat
  isPtr : Nat
  location : Option String

def Flow.call (f : Flow) (results : List Nat) (v : Values) : Call :=
  match f with
  | .create => .createLabel v.location
  | .intUnion w a b opcode =>
    .intUnion w (a.label results) (b.label results) v.x1 v.x2 v.retAddr opcode v.location
  | .floatUnion a b opcode =>
    .floatUnion (a.label results) (b.label results) v.f1 v.f2 v.retAddr opcode v.location
  | .unsupported a b opcode => .unionUnsupportedType (a.label results) (b.label results) opcode v.location
  | .intBranch w a b pred =>
    .intBranch w (a.label results) (b.label results) v.x1 v.x2 v.cond pred v.fileId v.brId v.isPtr v.location
  | .floatBranch a b pred =>
    .floatBranch (a.label results) (b.label results) v.f1 v.f2 v.cond pred v.fileId v.brId v.isPtr v.location

def runFlow (cfg : Config) (results : List Nat) : List (Flow × Values) → Rt (List Nat)
  | [] => pure results
  | (f, v) :: rest => do
    let r ← step cfg (f.call results v)
    runFlow cfg (results ++ [r]) rest

structure LabelShape where
  last : Nat
  parents : Nat → Nat × Nat × Nat

def LabelTable.shape (t : LabelTable) : LabelShape :=
  ⟨t.dfsanLastLabel, fun l => ((t.dfsanLabelInfo l).l1, (t.dfsanLabelInfo l).l2, (t.dfsanLabelInfo l).opcode)⟩

def LabelShape.alloc (σ : LabelShape) (l1 l2 opcode : Nat) : Nat × LabelShape :=
  let label := (σ.last + 1) % kNumLabels
  (label, ⟨label, Function.update σ.parents label (l1, l2, opcode)⟩)

def Flow.shapeStep (f : Flow) (results : List Nat) (σ : LabelShape) : Nat × LabelShape :=
  let union (a b : Ref) (opcode : Nat) :=
    if a.label results = 0 ∧ b.label results = 0 then (0, σ)
    else σ.alloc (a.label results) (b.label results) opcode
  match f with
  | .create => σ.alloc 0 0 (σ.parents ((σ.last + 1) % kNumLabels)).2.2
  | .intUnion _ a b opcode | .floatUnion a b opcode | .unsupported a b opcode => union a b opcode
  | .intBranch .. | .floatBranch .. => (0, σ)

def shapeRun (results : List Nat) (σ : LabelShape) : List Flow → List Nat × LabelShape
  | [] => (results, σ)
  | f :: rest => shapeRun (results ++ [(f.shapeStep results σ).1]) (f.shapeStep results σ).2 rest

theorem LabelTable.Allocates.shape {t t' : LabelTable} {e : DfsanLabelInfo} (h : t.Allocates t' e) :
    t'.shape = (t.shape.alloc e.l1 e.l2 e.opcode).2 := by
  obtain ⟨-, rfl⟩ := h
  simp only [LabelTable.shape, LabelShape.alloc, LabelShape.mk.injEq, true_and]
  funext l
  by_cases hl : l = (t.dfsanLastLabel + 1) % kNumLabels
  · subst hl
    simp
  · simp [Function.update_noteq hl]

theorem LabelTable.Barriered.shape {t t' : LabelTable} {lhs rhs : Nat} (h : t.Barriered t' lhs rhs) :
    t'.shape = t.shape := by
  simp only [LabelTable.shape, h.1, LabelShape.mk.injEq, true_and]
  funext l
  obtain ⟨l1, l2, opcode, -⟩ := h.2.1 l
  rw [l1, l2, opcode]

theorem UnionTableEffect.shape {reuse : Bool} {l1 l2 opcode r : Nat} {t t' : LabelTable}
    (off : reuse = false) (effect : UnionTableEffect reuse l1 l2 opcode t t' r) :
    (r, t'.shape) = if l1 = 0 ∧ l2 = 0 then (0, t.shape) else t.shape.alloc l1 l2 opcode := by
  rcases effect with ⟨zero1, zero2, rfl, rfl⟩ | ⟨enabled, -⟩ | ⟨nonzero, e, rfl, rfl, rfl, alloc, rfl⟩
  · rw [if_pos ⟨zero1, zero2⟩]
  · rw [off] at enabled
    cases enabled
  · rw [if_neg (by omega)]
    exact Prod.ext (by rw [alloc.2]; rfl) alloc.shape

section Refinement

variable {cfg : Config} (off : cfg.flags.reuseLabels = false)
include off

theorem step_shape {f : Flow} {results : List Nat} {v : Values} {s s' : RuntimeState} {r : Nat}
    (h : (step cfg (f.call results v)).run s = .ok (r, s')) :
    (r, s'.table.shape) = f.shapeStep results s.table.shape := by
  cases f with
  | create =>
    obtain ⟨⟨e, h1, h2, -, -, h3, alloc⟩, ret, -⟩ := dfsanCreateLabel_ok h
    refine Prod.ext (by rw [ret, alloc.2]; rfl) ?_
    rw [alloc.shape, h1, h2, h3]
    rfl
  | intUnion w a b opcode => exact (intUnion_ok h).1.shape off
  | floatUnion a b opcode => exact (floatUnion_ok h).1.shape off
  | unsupported a b opcode => exact (dfsanUnionUnsupportedType_ok h).1.shape rfl
  | intBranch w a b pred =>
    obtain ⟨_, s₁, visit, h⟩ := bind_ok h
    obtain ⟨rfl, rfl⟩ := pure_ok h
    rcases (intBranchVisitor_ok visit).1 with same | ⟨-, barrier⟩
    · rw [same]
      rfl
    · rw [barrier.shape]
      rfl
  | floatBranch a b pred =>
    obtain ⟨_, s₁, visit, h⟩ := bind_ok h
    obtain ⟨rfl, rfl⟩ := pure_ok h
    rw [(floatBranchVisitor_ok visit).1]
    rfl

theorem runFlow_shape (prog : List (Flow × Values)) {results results' : List Nat} {s s' : RuntimeState}
    (h : (runFlow cfg results prog).run s = .ok (results', s')) :
    (results', s'.table.shape) = shapeRun results s.table.shape (prog.map Prod.fst) := by
  induction prog generalizing results s with
  | nil => obtain ⟨rfl, rfl⟩ := pure_ok h; rfl
  | cons call rest ih =>
    obtain ⟨r, s₁, first, h⟩ := bind_ok h
    have step := step_shape off first
    rw [ih h, List.map_cons, shapeRun, ← step]

end Refinement

theorem labels_follow_dataflow {cfg : Config} (off : cfg.flags.reuseLabels = false) (prog : List Flow)
    (v₁ v₂ : List Values) (len₁ : prog.length ≤ v₁.length) (len₂ : prog.length ≤ v₂.length) :
    match (runFlow cfg [] (prog.zip v₁)).run flushedState, (runFlow cfg [] (prog.zip v₂)).run flushedState with
    | .ok (rs₁, s₁), .ok (rs₂, s₂) =>
      rs₁ = rs₂ ∧ s₁.table.dfsanLastLabel = s₂.table.dfsanLastLabel ∧
        ∀ l, (s₁.table.dfsanLabelInfo l).l1 = (s₂.table.dfsanLabelInfo l).l1 ∧
          (s₁.table.dfsanLabelInfo l).l2 = (s₂.table.dfsanLabelInfo l).l2 ∧
          (s₁.table.dfsanLabelInfo l).opcode = (s₂.table.dfsanLabelInfo l).opcode
    | _, _ => True := by
  split
  · rename_i rs₁ s₁ rs₂ s₂ run₁ run₂
    have shape₁ := runFlow_shape off _ run₁
    have shape₂ := runFlow_shape off _ run₂
    rw [List.map_fst_zip _ _ len₁] at shape₁
    rw [List.map_fst_zip _ _ len₂, ← shape₁, Prod.mk.injEq] at shape₂
    obtain ⟨rfl, same⟩ := shape₂
    refine ⟨rfl, congrArg LabelShape.last same.symm, fun l => ?_⟩
    have entry := congrFun (congrArg LabelShape.parents same) l
    simp only [LabelTable.shape, Prod.mk.injEq] at entry
    exact ⟨entry.1.symm, entry.2.1.symm, entry.2.2.symm⟩
  · trivial

theorem labels_follow_dataflow_product :
    let cfg : Config := ⟨⟨false, 1, false, false, false, false⟩, false⟩
    let prog := [Flow.create, .intUnion .int (.result 0) .zero OpCode.MUL]
    let v (x2 : Int) : Values := ⟨3, x2, 0, 0, false, 0, 0, 0, 0, none⟩
    cfg.flags.reuseLabels = false ∧
      match (runFlow cfg [] (prog.zip [v 1, v 1])).run flushedState,
        (runFlow cfg [] (prog.zip [v 2, v 2])).run flushedState with
      | .ok (rs₁, s₁), .ok (rs₂, s₂) =>
        rs₁ = rs₂ ∧ s₁.table.dfsanLastLabel = s₂.table.dfsanLastLabel ∧
          ∀ l, (s₁.table.dfsanLabelInfo l).l1 = (s₂.table.dfsanLabelInfo l).l1 ∧
            (s₁.table.dfsanLabelInfo l).l2 = (s₂.table.dfsanLabelInfo l).l2 ∧
            (s₁.table.dfsanLabelInfo l).opcode = (s₂.table.dfsanLabelInfo l).opcode
      | _, _ => True :=
  ⟨rfl, labels_follow_dataflow rfl _ _ _ (by decide) (by decide)⟩

theorem reuse_labels_follow_values :
    let cfg : Config := ⟨⟨true, 1, false, false, false, false⟩, false⟩
    let prog := [Flow.create, .intUnion .int (.result 0) .zero OpCode.MUL]
    let v (x2 : Int) : Values := ⟨3, x2, 0, 0, false, 0, 0, 0, 0, none⟩
    (match (runFlow cfg [] (prog.zip [v 1, v 1])).run flushedState with
      | .ok (rs, _) => rs = [1, 1]
      | .error _ => False) ∧
    match (runFlow cfg [] (prog.zip [v 2, v 2])).run flushedState with
    | .ok (rs, _) => rs = [1, 2]
    | .error _ => False := by
  intro cfg prog v
  have created (x2 : Int) : (runFlow cfg [] (prog.zip [v x2, v x2])).run flushedState =
      (runFlow cfg [1] [(.intUnion .int (.result 0) .zero OpCode.MUL, v x2)]).run (createdState none) := rfl
  rw [created, created]
  simp [runFlow, Flow.call, Ref.label, step, allocLabel, dfsanCheckLabel, setLabelInfo, kNumLabels,
    kInitializingLabel, intUnion, IntWidth.union, dfsanUnion, allZero, divisorRecord, intArgSite, intUnionLabel,
    intRule, unionLabel, OpCode.MUL, CType.conv, CType.int, Int.bmod, v]

end Grsan
