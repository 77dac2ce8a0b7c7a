import Grsan.Runtime.Invariant

set_option autoImplicit false

namespace Grsan

inductive Steps (cfg : Config) (ok : Call → Prop) : RuntimeState → RuntimeState → Prop
  | refl (s : RuntimeState) : Steps cfg ok s s
  | tail {s s₁ s₂ : RuntimeState} {c : Call} {r : Nat} :
      Steps cfg ok s s₁ → ok c → (step cfg c).run s₁ = .ok (r, s₂) → Steps cfg ok s s₂

section Step

variable {cfg : Config} {c : Call} {s s' : RuntimeState} {r : Nat}

theorem bounded_step (bounded : s.table.dfsanLastLabel ≤ 65534)
    (h : (step cfg c).run s = .ok (r, s')) : s'.table.dfsanLastLabel ≤ 65534 := by
  rcases step_table h with ⟨-, rfl⟩ | ⟨-, same⟩ | ⟨-, -, _, _, -, barrier⟩ | ⟨e, -, alloc, -⟩
  · decide
  · rwa [same]
  · rwa [barrier.1]
  · rw [(alloc.next bounded).2]
    exact (alloc.next bounded).1

theorem entry_step (bounded : s.table.dfsanLastLabel ≤ 65534) (notFlush : c ≠ .flush)
    (h : (step cfg c).run s = .ok (r, s')) :
    s.table.dfsanLastLabel ≤ s'.table.dfsanLastLabel ∧ ∀ l, l ≤ s.table.dfsanLastLabel →
      (s.table.dfsanLabelInfo l).Barriered (s'.table.dfsanLabelInfo l) ∧
        (cfg.flags.branchBarriers = false → s'.table.dfsanLabelInfo l = s.table.dfsanLabelInfo l) := by
  rcases step_table h with ⟨flush, -⟩ | ⟨-, same⟩ | ⟨-, enabled, _, _, -, barrier⟩ | ⟨e, -, alloc, -⟩
  · exact absurd flush notFlush
  · rw [same]
    exact ⟨le_rfl, fun l _ => ⟨barriered_refl _, fun _ => rfl⟩⟩
  · refine ⟨barrier.1.ge, fun l _ => ⟨barrier.2.1 l, fun off => ?_⟩⟩
    rw [enabled] at off
    cases off
  · rw [(alloc.next bounded).2]
    refine ⟨Nat.le_succ _, fun l low => ?_⟩
    dsimp only
    rw [Function.update_noteq (by omega)]
    exact ⟨barriered_refl _, fun _ => rfl⟩

end Step

theorem bounded_of_steps {cfg : Config} {ok : Call → Prop} {s : RuntimeState}
    (h : Steps cfg ok flushedState s) : s.table.dfsanLastLabel ≤ 65534 := by
  induction h with
  | refl => decide
  | tail _ _ step ih => exact bounded_step ih step

theorem DfsanLabelInfo.Barriered.trans {i i' i'' : DfsanLabelInfo} (h : i.Barriered i')
    (h' : i'.Barriered i'') : i.Barriered i'' :=
  ⟨h'.1.trans h.1, h'.2.1.trans h.2.1, h'.2.2.1.trans h.2.2.1, h'.2.2.2.1.trans h.2.2.2.1,
    or_zero_trans h'.2.2.2.2.1 h.2.2.2.2.1, or_zero_trans h'.2.2.2.2.2 h.2.2.2.2.2⟩

theorem Steps.append {cfg : Config} {ok ok' : Call → Prop} {s s₁ s₂ : RuntimeState}
    (first : Steps cfg ok s s₁) (second : Steps cfg ok' s₁ s₂) (weaken : ∀ c, ok' c → ok c) :
    Steps cfg ok s s₂ := by
  induction second with
  | refl => exact first
  | tail _ allowed step ih => exact .tail ih (weaken _ allowed) step

theorem entries_steps {cfg : Config} {s s' : RuntimeState}
    (reach : Steps cfg (fun _ => True) flushedState s) (run : Steps cfg (· ≠ .flush) s s') :
    s.table.dfsanLastLabel ≤ s'.table.dfsanLastLabel ∧ ∀ l, l ≤ s.table.dfsanLastLabel →
      (s.table.dfsanLabelInfo l).Barriered (s'.table.dfsanLabelInfo l) ∧
        (cfg.flags.branchBarriers = false → s'.table.dfsanLabelInfo l = s.table.dfsanLabelInfo l) := by
  induction run with
  | refl => exact ⟨le_rfl, fun l _ => ⟨barriered_refl _, fun _ => rfl⟩⟩
  | tail steps notFlush step ih =>
    obtain ⟨grown, entries⟩ := ih
    obtain ⟨grown', entries'⟩ :=
      entry_step (bounded_of_steps (reach.append steps fun _ _ => trivial)) notFlush step
    refine ⟨grown.trans grown', fun l low => ?_⟩
    obtain ⟨barriered, off⟩ := entries l low
    obtain ⟨barriered', off'⟩ := entries' l (low.trans grown)
    exact ⟨barriered.trans barriered', fun disabled => (off' disabled).trans (off disabled)⟩

theorem label_info_stable {cfg : Config} {s s' : RuntimeState}
    (reach : Steps cfg (fun _ => True) flushedState s) (run : Steps cfg (· ≠ .flush) s s') :
    ∀ l, l ≤ dfsanGetLabelCount s →
      let i := s.table.dfsanLabelInfo l
      let i' := s'.table.dfsanLabelInfo l
      (cfg.flags.branchBarriers = false → i' = i) ∧
        i'.l1 = i.l1 ∧ i'.l2 = i.l2 ∧ i'.opcode = i.opcode ∧ i'.fVal = i.fVal ∧
        (i'.negDydx = i.negDydx ∨ i'.negDydx = 0) ∧ (i'.posDydx = i.posDydx ∨ i'.posDydx = 0) := by
  intro l low
  obtain ⟨barriered, off⟩ := (entries_steps reach run).2 l low
  exact ⟨off, barriered⟩

theorem label_info_stable_across_barrier :
    let cfg : Config := ⟨⟨false, 1, false, false, false, true⟩, false⟩
    let branch : Call := .intBranch .int 1 0 4 3 true Predicate.ICMP_SGT 0 0 0 (some "br")
    match (step cfg branch).run (createdState (some "x")) with
    | .ok (_, s') =>
      let i := (createdState (some "x")).table.dfsanLabelInfo 1
      let i' := s'.table.dfsanLabelInfo 1
      (cfg.flags.branchBarriers = false → i' = i) ∧
        i'.l1 = i.l1 ∧ i'.l2 = i.l2 ∧ i'.opcode = i.opcode ∧ i'.fVal = i.fVal ∧
        (i'.negDydx = i.negDydx ∨ i'.negDydx = 0) ∧ (i'.posDydx = i.posDydx ∨ i'.posDydx = 0)
    | .error _ => False := by
  intro cfg branch
  have reach : Steps cfg (fun _ => True) flushedState (createdState (some "x")) :=
    @Steps.tail cfg _ _ _ _ (.createLabel (some "x")) 1 (.refl _) trivial rfl
  cases h : (step cfg branch).run (createdState (some "x")) with
  | error e =>
    simp [branch, step, Except.map, BranchWidth.visitor, intBranchVisitor, logBranch, recordBranch, branchBarrier,
      icmpPredicate, IntBranch.barrier, IntBranch.barrierSample, branchVisitorInt, BRANCH_RECORDS_SIZE,
      Predicate.ICMP_SGT, CType.ofFloat, FloatVal.trunc, createdState, flushedState, operandDx, setLabelInfo] at h
  | ok p => exact label_info_stable reach (.tail (.refl _) (by simp [branch]) h) 1 le_rfl

theorem branch_visitor_rewrites_label :
    let cfg : Config := ⟨⟨false, 1, false, false, false, true⟩, false⟩
    let create : Call := .createLabel (some "x")
    (match (run cfg [create]).run flushedState with
      | .ok (_, s) => (s.table.dfsanLabelInfo 1).negDydx = 1 ∧ (s.table.dfsanLabelInfo 1).loc = some "x"
      | .error _ => False) ∧
    match (run cfg [create, .intBranch .int 1 0 4 3 true Predicate.ICMP_SGT 0 0 0 (some "br")]).run
        flushedState with
    | .ok (_, s) => (s.table.dfsanLabelInfo 1).negDydx = 0 ∧ (s.table.dfsanLabelInfo 1).loc = some "br"
    | .error _ => False := by
  intro cfg create
  have created : (run cfg [create]).run flushedState = .ok ([1], createdState (some "x")) := rfl
  rw [created, run_create_flushed]
  simp [step, Except.map, BranchWidth.visitor, intBranchVisitor, logBranch, recordBranch, branchBarrier,
    icmpPredicate, IntBranch.barrier, IntBranch.barrierSample, branchVisitorInt, BRANCH_RECORDS_SIZE,
    Predicate.ICMP_SGT, CType.ofFloat, FloatVal.trunc, flushedState, operandDx, setLabelInfo]
  decide

end Grsan
