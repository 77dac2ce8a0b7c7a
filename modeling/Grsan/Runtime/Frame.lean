import Grsan.Runtime.Effects

set_option autoImplicit false

namespace Grsan

variable {s s' : RuntimeState} {r : Nat} {u : Unit}

theorem or_zero_trans {a b c : FloatVal} (hab : a = b ∨ a = 0) (hbc : b = c ∨ b = 0) :
    a = c ∨ a = 0 := by
  rcases hab with rfl | rfl
  · exact hbc
  · exact .inr rfl

theorem operandDx_cases (l : Nat) :
    ((operandDx s l).1 = (s.table.dfsanLabelInfo l).negDydx ∨ (operandDx s l).1 = 0) ∧
      ((operandDx s l).2 = (s.table.dfsanLabelInfo l).posDydx ∨ (operandDx s l).2 = 0) := by
  unfold operandDx
  split <;> simp

theorem IntBranch.barrier_cases (b : IntBranch) (signed : Bool) (cmp : Int → Int → Bool)
    (cond : Bool) (lhsV rhsV : Int) (ldx rdx : FloatVal × FloatVal) :
    let p := b.barrier signed cmp cond lhsV rhsV ldx rdx
    ((p.1.1 = ldx.1 ∨ p.1.1 = 0) ∧ (p.1.2 = ldx.2 ∨ p.1.2 = 0)) ∧
      ((p.2.1 = rdx.1 ∨ p.2.1 = 0) ∧ (p.2.2 = rdx.2 ∨ p.2.2 = 0)) := by
  simp only [IntBranch.barrier]
  split_ifs <;> simp

theorem barriered_write (i : DfsanLabelInfo) {d₁ d₂ : FloatVal} (loc : Option String)
    (neg : d₁ = i.negDydx ∨ d₁ = 0) (pos : d₂ = i.posDydx ∨ d₂ = 0) :
    i.Barriered { i with negDydx := d₁, posDydx := d₂, loc := loc } :=
  ⟨rfl, rfl, rfl, rfl, neg, pos⟩

theorem barriered_refl (i : DfsanLabelInfo) : i.Barriered i :=
  ⟨rfl, rfl, rfl, rfl, .inl rfl, .inl rfl⟩

theorem branchBarrier_ok {b : IntBranch} {lhs rhs : Nat} {lhsV rhsV : Int} {cond : Bool}
    {pred : Nat} {location : Option String}
    (h : (branchBarrier b lhs rhs lhsV rhsV cond pred location).run s = .ok (u, s')) :
    s.table.Barriered s'.table lhs rhs ∧ s'.logs = s.logs ∧ s'.shadow = s.shadow := by
  rw [branchBarrier, run_bind, run_get, except_ok_bind] at h
  dsimp only at h
  split at h
  · simp at h
  rename_i signed cmp _
  obtain ⟨⟨ln, lp⟩, rn, rp⟩ := IntBranch.barrier_cases b signed cmp cond lhsV rhsV
    (operandDx s lhs) (operandDx s rhs)
  obtain ⟨_, s₁, write, h⟩ := bind_ok h
  rw [setLabelInfo_run, Except.ok.injEq] at write
  rw [setLabelInfo_run, Except.ok.injEq] at h
  cases write
  cases h
  refine ⟨⟨rfl, fun l => ?_, fun l hl hr => ?_⟩, rfl, rfl⟩
  · by_cases onR : l = rhs <;> by_cases onL : l = lhs
    · subst onR onL
      simpa using barriered_write _ location (or_zero_trans rn (operandDx_cases l).1)
        (or_zero_trans rp (operandDx_cases l).2)
    · subst onR
      simpa [onL] using barriered_write _ location (or_zero_trans rn (operandDx_cases l).1)
        (or_zero_trans rp (operandDx_cases l).2)
    · subst onL
      simpa [onR] using barriered_write _ location (or_zero_trans ln (operandDx_cases l).1)
        (or_zero_trans lp (operandDx_cases l).2)
    · simpa [onR, onL] using barriered_refl _
  · simp [hl, hr]

theorem logBranch_ok {cfg : Config} {fileId brId lhs rhs isPtr : Nat} {lhsV rhsV : FloatVal}
    {cond : Bool} {location : Option String}
    (h : (logBranch cfg fileId brId lhs rhs lhsV rhsV cond isPtr location).run s = .ok (u, s')) :
    s'.table = s.table ∧ s'.shadow = s.shadow ∧ (cfg.grModePerf = true → s' = s) := by
  unfold logBranch at h
  split at h
  · obtain ⟨-, rfl⟩ := pure_ok h
    exact ⟨rfl, rfl, fun _ => rfl⟩
  · exact ⟨(recordBranch_ok h).1, (recordBranch_ok h).2, fun perf => absurd perf ‹_›⟩

theorem intBranchVisitor_ok {cfg : Config} {b : IntBranch} {lhs rhs : Nat} {lhsV rhsV : Int}
    {cond : Bool} {pred fileId brId isPtr : Nat} {location : Option String}
    (h : (intBranchVisitor cfg b lhs rhs lhsV rhsV cond pred fileId brId isPtr location).run s =
      .ok (u, s')) :
    (s'.table = s.table ∨ (cfg.flags.branchBarriers = true ∧ s.table.Barriered s'.table lhs rhs)) ∧
      s'.shadow = s.shadow := by
  unfold intBranchVisitor at h
  split at h
  · obtain ⟨-, rfl⟩ := pure_ok h
    exact ⟨.inl rfl, rfl⟩
  obtain ⟨_, s₁, log, h⟩ := bind_ok h
  obtain ⟨table₁, shadow₁, -⟩ := logBranch_ok log
  split at h
  · obtain ⟨barrier, -, shadow⟩ := branchBarrier_ok h
    exact ⟨.inr ⟨‹_›, table₁ ▸ barrier⟩, shadow.trans shadow₁⟩
  · obtain ⟨-, rfl⟩ := pure_ok h
    exact ⟨.inl table₁, shadow₁⟩

theorem floatBranchVisitor_ok {cfg : Config} {lhs rhs : Nat} {lhsV rhsV : FloatVal} {cond : Bool}
    {fileId brId isPtr : Nat} {location : Option String}
    (h : (floatBranchVisitor cfg lhs rhs lhsV rhsV cond fileId brId isPtr location).run s =
      .ok (u, s')) :
    s'.table = s.table ∧ s'.shadow = s.shadow := by
  unfold floatBranchVisitor at h
  split at h
  · exact ⟨(logBranch_ok h).1, (logBranch_ok h).2.1⟩
  · obtain ⟨-, rfl⟩ := pure_ok h
    exact ⟨rfl, rfl⟩

theorem memcpyArg_ok {cfg : Config} {retAddr argInd label : Nat} {v : FloatVal}
    {location : Option String} (h : (memcpyArg cfg retAddr argInd label v location).run s = .ok (u, s')) :
    s'.table = s.table ∧ s'.shadow = s.shadow ∧ (cfg.grModePerf = true → s' = s) := by
  unfold memcpyArg at h
  split at h
  · exact recordArg_ok cfg h
  · obtain ⟨-, rfl⟩ := pure_ok h
    exact ⟨rfl, rfl, fun _ => rfl⟩

theorem memcpy_ok {cfg : Config} {dest src n destLabel srcLabel nLabel retAddr : Nat}
    {location : Option String}
    (h : (memcpy cfg dest src n destLabel srcLabel nLabel retAddr location).run s = .ok (u, s')) :
    s'.table = s.table := by
  unfold memcpy at h
  obtain ⟨_, s₁, first, h⟩ := bind_ok h
  obtain ⟨_, s₂, second, h⟩ := bind_ok h
  obtain ⟨_, s₃, third, h⟩ := bind_ok h
  rw [run_modify, Except.ok.injEq] at h
  cases h
  exact (memcpyArg_ok third).1.trans ((memcpyArg_ok second).1.trans (memcpyArg_ok first).1)

theorem dfsanReadLabel_ok {cfg : Config} {addr size : Nat}
    (h : (dfsanReadLabel cfg addr size).run s = .ok (r, s')) : s' = s := by
  unfold dfsanReadLabel at h
  split at h
  · exact (pure_ok h).2
  rw [dfsanUnionLoad, run_bind, run_get, except_ok_bind] at h
  dsimp only at h
  split at h
  · exact (pure_ok h).2
  · obtain ⟨_, _, -, h⟩ := bind_ok h
    simp at h

theorem dfsanAddLabel_ok {label addr size : Nat}
    (h : (dfsanAddLabel label addr size).run s = .ok (u, s')) : s' = s := by
  rw [dfsanAddLabel, run_bind, run_get, except_ok_bind] at h
  dsimp only at h
  split at h
  · simp at h
  · exact (pure_ok h).2

def Call.isCreateLabel : Call → Bool
  | .createLabel _ => true
  | _ => false

def Call.isRecordBranch : Call → Bool
  | .recordBranch .. => true
  | _ => false

def Call.Plain (c : Call) : Prop := c ≠ .flush ∧ c.isCreateLabel = false

theorem Call.plain_of_labels {c : Call} {l1 l2 : Nat} (labels : c.labels = [l1, l2]) : c.Plain := by
  cases c <;> simp_all [Call.labels, Call.Plain, Call.isCreateLabel]

def TableStep (cfg : Config) (c : Call) (s s' : RuntimeState) (r : Nat) : Prop :=
  (c = .flush ∧ s' = flushedState) ∨ (c.Plain ∧ s'.table = s.table) ∨
    (c.Plain ∧ cfg.flags.branchBarriers = true ∧
      ∃ lhs rhs, c.labels = [lhs, rhs] ∧ s.table.Barriered s'.table lhs rhs) ∨
    ∃ e : DfsanLabelInfo,
      ((c.isCreateLabel ∧ e.l1 = 0 ∧ e.l2 = 0) ∨ (c.labels = [e.l1, e.l2] ∧ (e.l1 ≠ 0 ∨ e.l2 ≠ 0))) ∧
        s.table.Allocates s'.table e ∧ r = s'.table.dfsanLastLabel

theorem tableStep_of_union {cfg : Config} {c : Call} {reuse : Bool} {l1 l2 opcode : Nat}
    (labels : c.labels = [l1, l2]) (effect : UnionTableEffect reuse l1 l2 opcode s.table s'.table r) :
    TableStep cfg c s s' r := by
  rcases effect with ⟨-, -, same, -⟩ | ⟨-, same⟩ | ⟨nonzero, e, rfl, rfl, -, alloc, ret⟩
  · exact .inr (.inl ⟨Call.plain_of_labels labels, same⟩)
  · exact .inr (.inl ⟨Call.plain_of_labels labels, same⟩)
  · exact .inr (.inr (.inr ⟨e, .inr ⟨labels, nonzero⟩, alloc, ret⟩))

theorem step_table {cfg : Config} {c : Call} (h : (step cfg c).run s = .ok (r, s')) :
    TableStep cfg c s s' r := by
  have plain {c : Call} (same : s'.table = s.table) (hc : c.Plain) : TableStep cfg c s s' r :=
    .inr (.inl ⟨hc, same⟩)
  cases c with
  | createLabel desc =>
    obtain ⟨⟨e, h1, h2, -, -, -, alloc⟩, ret, -⟩ := dfsanCreateLabel_ok h
    exact .inr (.inr (.inr ⟨e, .inl ⟨rfl, h1, h2⟩, alloc, ret⟩))
  | intUnion w l1 l2 x1 x2 retAddr opcode location => exact tableStep_of_union rfl (intUnion_ok h).1
  | floatUnion l1 l2 x1 x2 retAddr opcode location => exact tableStep_of_union rfl (floatUnion_ok h).1
  | unionUnsupportedType l1 l2 opcode location => exact tableStep_of_union rfl (dfsanUnionUnsupportedType_ok h).1
  | intBranch w lhs rhs lhsV rhsV cond pred fileId brId isPtr location =>
    obtain ⟨_, s₁, visit, h⟩ := bind_ok h
    obtain ⟨-, rfl⟩ := pure_ok h
    rcases (intBranchVisitor_ok visit).1 with same | ⟨enabled, barrier⟩
    · exact plain same ⟨nofun, rfl⟩
    · exact .inr (.inr (.inl ⟨⟨nofun, rfl⟩, enabled, lhs, rhs, rfl, barrier⟩))
  | floatBranch lhs rhs lhsV rhsV cond pred fileId brId isPtr location =>
    obtain ⟨_, s₁, visit, h⟩ := bind_ok h
    obtain ⟨-, rfl⟩ := pure_ok h
    exact plain ((floatBranchVisitor_ok visit).1) ⟨nofun, rfl⟩
  | recordBranch fileId instId lhs rhs lhsV rhsV cond isPtr location =>
    obtain ⟨_, s₁, record, h⟩ := bind_ok h
    obtain ⟨-, rfl⟩ := pure_ok h
    exact plain ((recordBranch_ok record).1) ⟨nofun, rfl⟩
  | recordArg fileId instId argInd label v location =>
    obtain ⟨_, s₁, record, h⟩ := bind_ok h
    obtain ⟨-, rfl⟩ := pure_ok h
    exact plain ((recordArg_ok cfg record).1) ⟨nofun, rfl⟩
  | memcpy dest src n destLabel srcLabel nLabel retAddr location =>
    obtain ⟨_, s₁, copy, h⟩ := bind_ok h
    obtain ⟨-, rfl⟩ := pure_ok h
    exact plain (memcpy_ok copy) ⟨nofun, rfl⟩
  | setLabel label addr size =>
    obtain ⟨_, s₁, set, h⟩ := bind_ok h
    obtain ⟨-, rfl⟩ := pure_ok h
    rw [dfsanSetLabel, run_modify, Except.ok.injEq] at set
    cases set
    exact plain rfl ⟨nofun, rfl⟩
  | addLabel label addr size =>
    obtain ⟨_, s₁, add, h⟩ := bind_ok h
    obtain ⟨-, rfl⟩ := pure_ok h
    exact plain (by rw [dfsanAddLabel_ok add]) ⟨nofun, rfl⟩
  | readLabel addr size => exact plain (by rw [dfsanReadLabel_ok h]) ⟨nofun, rfl⟩
  | flush =>
    obtain ⟨_, s₁, flush, h⟩ := bind_ok h
    obtain ⟨-, rfl⟩ := pure_ok h
    rw [dfsanFlush, run_set, Except.ok.injEq] at flush
    cases flush
    exact .inl ⟨rfl, rfl⟩

end Grsan
