import Grsan.Runtime.Step

set_option autoImplicit false

namespace Grsan

section Monad

variable {α β : Type} {s : RuntimeState}

@[simp] theorem run_bind (x : Rt α) (f : α → Rt β) :
    (x >>= f).run s = (x.run s).bind fun p => (f p.1).run p.2 := rfl
@[simp] theorem except_ok_bind {ε : Type} (a : α) (f : α → Except ε β) :
    (Except.ok a).bind f = f a := rfl
@[simp] theorem except_ok_bind_op {ε : Type} (a : α) (f : α → Except ε β) :
    (Except.ok a >>= f) = f a := rfl
@[simp] theorem except_error_bind_op {ε : Type} (e : ε) (f : α → Except ε β) :
    (Except.error e >>= f) = .error e := rfl
@[simp] theorem except_pure {ε : Type} (a : α) : (pure a : Except ε α) = .ok a := rfl
@[simp] theorem except_error_bind {ε : Type} (e : ε) (f : α → Except ε β) :
    (Except.error e : Except ε α).bind f = .error e := rfl
@[simp] theorem run_pure (a : α) : (pure a : Rt α).run s = .ok (a, s) := rfl
@[simp] theorem run_get : (get : Rt RuntimeState).run s = .ok (s, s) := rfl
@[simp] theorem run_set (s' : RuntimeState) : (set s' : Rt Unit).run s = .ok ((), s') := rfl
@[simp] theorem run_modify (f : RuntimeState → RuntimeState) :
    (modify f : Rt Unit).run s = .ok ((), f s) := rfl
@[simp] theorem run_throw (e : Halt) : (throw e : Rt α).run s = .error e := rfl
@[simp] theorem run_die (msg : String) : (die msg : Rt α).run s = .error (.die s msg) := rfl
@[simp] theorem run_modifyTable (f : LabelTable → LabelTable) :
    (modifyTable f).run s = .ok ((), { s with table := f s.table }) := rfl
@[simp] theorem run_modifyLogs (f : Logs → Logs) :
    (modifyLogs f).run s = .ok ((), { s with logs := f s.logs }) := rfl
theorem run_ite (c : Prop) [Decidable c] (x y : Rt α) :
    (if c then x else y).run s = if c then x.run s else y.run s := by
  split <;> rfl

theorem bind_ok {x : Rt α} {f : α → Rt β} {b : β} {s' : RuntimeState}
    (h : (x >>= f).run s = .ok (b, s')) : ∃ a s₁, x.run s = .ok (a, s₁) ∧ (f a).run s₁ = .ok (b, s') := by
  rw [run_bind] at h
  cases hx : x.run s with
  | error e => simp [hx] at h
  | ok p =>
    obtain ⟨a, s₁⟩ := p
    rw [hx] at h
    exact ⟨a, s₁, rfl, h⟩

theorem pure_ok {a b : α} {s' : RuntimeState} (h : (pure a : Rt α).run s = .ok (b, s')) :
    b = a ∧ s' = s := by
  simp only [run_pure, Except.ok.injEq, Prod.mk.injEq] at h
  exact ⟨h.1.symm, h.2.symm⟩

end Monad

def LabelTable.Allocates (t t' : LabelTable) (e : DfsanLabelInfo) : Prop :=
  (t.dfsanLastLabel + 1) % kNumLabels ≠ kInitializingLabel ∧
    t' = ⟨(t.dfsanLastLabel + 1) % kNumLabels,
      Function.update t.dfsanLabelInfo ((t.dfsanLastLabel + 1) % kNumLabels) e⟩

def DfsanLabelInfo.Barriered (i i' : DfsanLabelInfo) : Prop :=
  i'.l1 = i.l1 ∧ i'.l2 = i.l2 ∧ i'.opcode = i.opcode ∧ i'.fVal = i.fVal ∧
    (i'.negDydx = i.negDydx ∨ i'.negDydx = 0) ∧ (i'.posDydx = i.posDydx ∨ i'.posDydx = 0)

def LabelTable.Barriered (t t' : LabelTable) (lhs rhs : Nat) : Prop :=
  t'.dfsanLastLabel = t.dfsanLastLabel ∧
    (∀ l, (t.dfsanLabelInfo l).Barriered (t'.dfsanLabelInfo l)) ∧
    ∀ l, l ≠ lhs → l ≠ rhs → t'.dfsanLabelInfo l = t.dfsanLabelInfo l

variable {s s' : RuntimeState} {r : Nat}

theorem allocLabel_ok (h : allocLabel.run s = .ok (r, s')) :
    r = (s.table.dfsanLastLabel + 1) % kNumLabels ∧ r ≠ kInitializingLabel ∧
      s' = { s with table := { s.table with dfsanLastLabel := r } } := by
  simp only [allocLabel, dfsanCheckLabel, run_bind, run_get, except_ok_bind, run_modifyTable,
    run_ite, run_die, run_pure] at h
  split at h
  · simp at h
  · simp only [except_ok_bind, Except.ok.injEq, Prod.mk.injEq] at h
    exact ⟨h.1.symm, h.1 ▸ ‹_›, h.2.symm.trans (by rw [h.1])⟩

theorem setLabelInfo_run (label : Nat) (f : DfsanLabelInfo → DfsanLabelInfo) :
    (setLabelInfo label f).run s = .ok ((), { s with table := { s.table with
      dfsanLabelInfo := Function.update s.table.dfsanLabelInfo label
        (f (s.table.dfsanLabelInfo label)) } }) := rfl

theorem recordArg_ok (cfg : Config) {fileId instId argInd label : Nat} {v : FloatVal}
    {location : Option String} {u : Unit}
    (h : (recordArg cfg fileId instId argInd label v location).run s = .ok (u, s')) :
    s'.table = s.table ∧ s'.shadow = s.shadow ∧ (cfg.grModePerf = true → s' = s) := by
  simp only [recordArg, run_bind, run_get, except_ok_bind, run_modifyLogs, run_ite, run_die,
    run_pure] at h
  split at h
  · simp only [run_pure, Except.ok.injEq, Prod.mk.injEq] at h
    simp [← h.2]
  · split at h
    · simp at h
    · simp only [except_ok_bind, run_modifyLogs, Except.ok.injEq, Prod.mk.injEq] at h
      simp_all [← h.2]

theorem recordBranch_ok {fileId instId lhs rhs isPtr : Nat} {lhsV rhsV : FloatVal} {cond : Bool}
    {location : Option String} {u : Unit}
    (h : (recordBranch fileId instId lhs rhs lhsV rhsV cond isPtr location).run s = .ok (u, s')) :
    s'.table = s.table ∧ s'.shadow = s.shadow := by
  simp only [recordBranch, run_bind, run_get, except_ok_bind, run_modifyLogs, run_ite, run_die,
    run_pure] at h
  split at h
  · simp at h
  · simp only [except_ok_bind, run_modifyLogs, Except.ok.injEq, Prod.mk.injEq] at h
    simp [← h.2]

def UnionTableEffect (reuse : Bool) (l1 l2 opcode : Nat) (t t' : LabelTable) (r : Nat) : Prop :=
  (l1 = 0 ∧ l2 = 0 ∧ t' = t ∧ r = 0) ∨ (reuse = true ∧ t' = t) ∨
    ((l1 ≠ 0 ∨ l2 ≠ 0) ∧ ∃ e : DfsanLabelInfo, e.l1 = l1 ∧ e.l2 = l2 ∧ e.opcode = opcode ∧
      t.Allocates t' e ∧ r = t'.dfsanLastLabel)

theorem unionLabel_ok {fl : Flags} {l1 l2 : Nat} {dx1 dx2 : FloatVal × FloatVal} {opcode : Nat}
    {neg pos : FloatVal} {fVal : Option Int} {location : Option String}
    (h : (unionLabel fl l1 l2 dx1 dx2 opcode neg pos fVal location).run s = .ok (r, s')) :
    (fl.reuseLabels = true ∧ s' = s ∧
      ((r = l1 ∧ FloatVal.cmpEq pos dx1.2 ∧ FloatVal.cmpEq neg dx1.1) ∨
        (r = l2 ∧ FloatVal.cmpEq pos dx2.2 ∧ FloatVal.cmpEq neg dx2.1))) ∨
      ∃ e : DfsanLabelInfo, e.l1 = l1 ∧ e.l2 = l2 ∧ e.opcode = opcode ∧ e.negDydx = neg ∧
        e.posDydx = pos ∧ s.table.Allocates s'.table e ∧ s'.logs = s.logs ∧ s'.shadow = s.shadow ∧
        r = s'.table.dfsanLastLabel := by
  unfold unionLabel at h
  split at h
  · obtain ⟨rfl, rfl⟩ := pure_ok h
    obtain ⟨enabled, -, pos, neg⟩ := ‹_ ∧ _›
    exact .inl ⟨enabled, rfl, .inl ⟨rfl, pos, neg⟩⟩
  · split at h
    · obtain ⟨rfl, rfl⟩ := pure_ok h
      obtain ⟨enabled, -, pos, neg⟩ := ‹_ ∧ _›
      exact .inl ⟨enabled, rfl, .inr ⟨rfl, pos, neg⟩⟩
    · obtain ⟨label, s₁, alloc, h⟩ := bind_ok h
      obtain ⟨rfl, fresh, rfl⟩ := allocLabel_ok alloc
      obtain ⟨_, s₂, write, h⟩ := bind_ok h
      rw [setLabelInfo_run, Except.ok.injEq] at write
      obtain ⟨rfl, rfl⟩ := pure_ok h
      cases write
      exact .inr ⟨_, rfl, rfl, rfl, rfl, rfl, ⟨fresh, rfl⟩, rfl, rfl, rfl⟩

theorem divisorRecord_ok {cfg : Config} {site : Option Nat} {l2 retAddr : Nat} {v : FloatVal}
    {location : Option String} {u : Unit}
    (h : (divisorRecord cfg site l2 retAddr v location).run s = .ok (u, s')) :
    s'.table = s.table ∧ s'.shadow = s.shadow ∧ (cfg.grModePerf = true → s' = s) := by
  unfold divisorRecord at h
  split at h
  · split at h
    · exact recordArg_ok cfg h
    · obtain ⟨-, rfl⟩ := pure_ok h
      exact ⟨rfl, rfl, fun _ => rfl⟩
  · obtain ⟨-, rfl⟩ := pure_ok h
    exact ⟨rfl, rfl, fun _ => rfl⟩

theorem intUnionLabel_ok {fl : Flags} {u : IntUnion} {l1 l2 : Nat} {a b : Int}
    {dx1 dx2 : FloatVal × FloatVal} {opcode : Nat} {location : Option String}
    (h : (intUnionLabel fl u l1 l2 a b dx1 dx2 opcode location).run s = .ok (r, s')) :
    ∃ neg pos fVal, intRule fl u opcode a b dx1 dx2 = .ok (neg, pos, fVal) ∧
      (unionLabel fl l1 l2 dx1 dx2 opcode neg pos (some fVal) location).run s = .ok (r, s') := by
  unfold intUnionLabel at h
  split at h
  · exact ⟨_, _, _, ‹_›, h⟩
  · simp at h

theorem intUnion_ok {cfg : Config} {u : IntUnion} {l1 l2 : Nat} {x1 x2 : Int} {retAddr opcode : Nat}
    {location : Option String} (h : (intUnion cfg u l1 l2 x1 x2 retAddr opcode location).run s = .ok (r, s')) :
    UnionTableEffect cfg.flags.reuseLabels l1 l2 opcode s.table s'.table r ∧ s'.shadow = s.shadow := by
  unfold intUnion at h
  by_cases zero : l1 = 0 ∧ l2 = 0
  · rw [if_pos zero] at h
    obtain ⟨rfl, rfl⟩ := pure_ok h
    exact ⟨.inl ⟨zero.1, zero.2, rfl, rfl⟩, rfl⟩
  rw [if_neg zero] at h
  rw [run_bind, run_get, except_ok_bind] at h
  dsimp only at h
  by_cases reuse : cfg.flags.reuseLabels = true ∧ allZero (operandDx s l1) (operandDx s l2) = true
  · rw [if_pos reuse] at h
    obtain ⟨-, rfl⟩ := pure_ok h
    exact ⟨.inr (.inl ⟨reuse.1, rfl⟩), rfl⟩
  rw [if_neg reuse] at h
  obtain ⟨_, s₁, record, h⟩ := bind_ok h
  obtain ⟨table₁, shadow₁, -⟩ := divisorRecord_ok record
  obtain ⟨_, _, _, -, h⟩ := intUnionLabel_ok h
  rcases unionLabel_ok h with ⟨enabled, rfl, -⟩ | ⟨e, h1, h2, h3, -, -, alloc, -, shadow, ret⟩
  · exact ⟨.inr (.inl ⟨enabled, table₁⟩), shadow₁⟩
  · exact ⟨.inr (.inr ⟨by omega, e, h1, h2, h3, table₁ ▸ alloc, ret⟩), shadow.trans shadow₁⟩

theorem floatUnion_ok {cfg : Config} {l1 l2 : Nat} {x1 x2 : FloatVal} {retAddr opcode : Nat}
    {location : Option String} (h : (floatUnion cfg l1 l2 x1 x2 retAddr opcode location).run s = .ok (r, s')) :
    UnionTableEffect cfg.flags.reuseLabels l1 l2 opcode s.table s'.table r ∧ s'.shadow = s.shadow := by
  unfold floatUnion at h
  by_cases zero : l1 = 0 ∧ l2 = 0
  · rw [if_pos zero] at h
    obtain ⟨rfl, rfl⟩ := pure_ok h
    exact ⟨.inl ⟨zero.1, zero.2, rfl, rfl⟩, rfl⟩
  rw [if_neg zero, run_bind, run_get, except_ok_bind] at h
  dsimp only at h
  by_cases reuse : cfg.flags.reuseLabels = true ∧ allZero (operandDx s l1) (operandDx s l2) = true
  · rw [if_pos reuse] at h
    obtain ⟨-, rfl⟩ := pure_ok h
    exact ⟨.inr (.inl ⟨reuse.1, rfl⟩), rfl⟩
  rw [if_neg reuse] at h
  obtain ⟨_, s₁, record, h⟩ := bind_ok h
  obtain ⟨table₁, shadow₁, -⟩ := divisorRecord_ok record
  rcases unionLabel_ok h with ⟨enabled, rfl, -⟩ | ⟨e, h1, h2, h3, -, -, alloc, -, shadow, ret⟩
  · exact ⟨.inr (.inl ⟨enabled, table₁⟩), shadow₁⟩
  · exact ⟨.inr (.inr ⟨by omega, e, h1, h2, h3, table₁ ▸ alloc, ret⟩), shadow.trans shadow₁⟩

theorem dfsanUnionUnsupportedType_ok {l1 l2 opcode : Nat} {location : Option String}
    (h : (dfsanUnionUnsupportedType l1 l2 opcode location).run s = .ok (r, s')) :
    UnionTableEffect false l1 l2 opcode s.table s'.table r ∧ s'.shadow = s.shadow := by
  unfold dfsanUnionUnsupportedType at h
  by_cases zero : l1 = 0 ∧ l2 = 0
  · rw [if_pos zero] at h
    obtain ⟨rfl, rfl⟩ := pure_ok h
    exact ⟨.inl ⟨zero.1, zero.2, rfl, rfl⟩, rfl⟩
  rw [if_neg zero] at h
  obtain ⟨label, s₁, alloc, h⟩ := bind_ok h
  obtain ⟨rfl, fresh, rfl⟩ := allocLabel_ok alloc
  obtain ⟨_, s₂, write, h⟩ := bind_ok h
  rw [setLabelInfo_run, Except.ok.injEq] at write
  obtain ⟨rfl, rfl⟩ := pure_ok h
  cases write
  exact ⟨.inr (.inr ⟨by omega, _, rfl, rfl, rfl, ⟨fresh, rfl⟩, rfl⟩), rfl⟩

theorem dfsanCreateLabel_ok {desc : Option String} (h : (dfsanCreateLabel desc).run s = .ok (r, s')) :
    (∃ e : DfsanLabelInfo, e.l1 = 0 ∧ e.l2 = 0 ∧ e.negDydx = 1 ∧ e.posDydx = 1 ∧
      e.opcode = (s.table.dfsanLabelInfo ((s.table.dfsanLastLabel + 1) % kNumLabels)).opcode ∧
      s.table.Allocates s'.table e) ∧
      r = s'.table.dfsanLastLabel ∧ s'.logs = s.logs ∧ s'.shadow = s.shadow := by
  unfold dfsanCreateLabel at h
  obtain ⟨label, s₁, alloc, h⟩ := bind_ok h
  obtain ⟨rfl, fresh, rfl⟩ := allocLabel_ok alloc
  obtain ⟨_, s₂, write, h⟩ := bind_ok h
  rw [setLabelInfo_run, Except.ok.injEq] at write
  obtain ⟨rfl, rfl⟩ := pure_ok h
  cases write
  refine ⟨⟨_, rfl, rfl, rfl, rfl, ?_, fresh, rfl⟩, rfl, rfl, rfl⟩
  rfl

def createdState (desc : Option String) : RuntimeState :=
  { flushedState with
    table := ⟨1, Function.update flushedState.table.dfsanLabelInfo 1 ⟨0, 0, desc, 1, 1, 0, 0⟩⟩ }

@[simp] theorem createdState_last (desc : Option String) : (createdState desc).table.dfsanLastLabel = 1 := rfl
@[simp] theorem createdState_info_one (desc : Option String) :
    (createdState desc).table.dfsanLabelInfo 1 = ⟨0, 0, desc, 1, 1, 0, 0⟩ := rfl
@[simp] theorem createdState_logs (desc : Option String) : (createdState desc).logs = flushedState.logs := rfl
@[simp] theorem operandDx_zero (s : RuntimeState) : operandDx s 0 = (0, 0) := rfl
@[simp] theorem operandDx_created_one (desc : Option String) : operandDx (createdState desc) 1 = (1, 1) := rfl

theorem run_create_flushed (cfg : Config) (desc : Option String) (c : Call) :
    (run cfg [.createLabel desc, c]).run flushedState =
      ((step cfg c).run (createdState desc)).map fun p => ([1, p.1], p.2) := by
  have create : (step cfg (.createLabel desc)).run flushedState = .ok (1, createdState desc) := rfl
  simp only [run, run_bind, create, except_ok_bind]
  cases (step cfg c).run (createdState desc) <;> rfl

end Grsan
