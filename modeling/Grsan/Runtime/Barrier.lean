import Grsan.Runtime.Frame

set_option autoImplicit false

namespace Grsan

open FloatVal

namespace IntBranch

variable (b : IntBranch) (signed : Bool) (cmp : Int → Int → Bool) (cond : Bool) (lhsV rhsV : Int)

theorem barrierSample_zero (v : Int) (up : Bool) :
    b.barrierSample signed v 0 up = (if signed then b.sType else b.uType).conv v := by
  simp only [barrierSample, CType.ofFloat_zero, sub_zero, add_zero, CType.conv_conv, ite_self]

def KeepsBranch (ldx rdx : FloatVal × FloatVal) : Prop :=
  cmp (b.barrierSample signed lhsV ldx.1 false) (b.barrierSample signed rhsV rdx.1 false) = cond ∧
    cmp (b.barrierSample signed lhsV ldx.2 true) (b.barrierSample signed rhsV rdx.2 true) = cond

variable {b signed cmp cond lhsV rhsV}

theorem keepsBranch_zero
    (taken : cmp (b.barrierSample signed lhsV 0 false) (b.barrierSample signed rhsV 0 false) = cond) :
    b.KeepsBranch signed cmp cond lhsV rhsV (0, 0) (0, 0) :=
  ⟨taken, by simpa only [barrierSample_zero] using taken⟩

theorem keepsBranch_barrier
    (taken : cmp (b.barrierSample signed lhsV 0 false) (b.barrierSample signed rhsV 0 false) = cond)
    (ldx rdx : FloatVal × FloatVal) :
    let p := b.barrier signed cmp cond lhsV rhsV ldx rdx
    b.KeepsBranch signed cmp cond lhsV rhsV p.1 p.2 := by
  obtain ⟨negZero, posZero⟩ := keepsBranch_zero taken
  simp only [barrier, KeepsBranch]
  constructor <;> split_ifs with keep <;> simp_all

theorem barrier_of_keepsBranch {ldx rdx : FloatVal × FloatVal}
    (keeps : b.KeepsBranch signed cmp cond lhsV rhsV ldx rdx) :
    b.barrier signed cmp cond lhsV rhsV ldx rdx = (ldx, rdx) := by
  simp [barrier, keeps.1, keeps.2]

theorem barrier_zero_left (rdx : FloatVal × FloatVal) :
    (b.barrier signed cmp cond lhsV rhsV (0, 0) rdx).1 = (0, 0) := by
  simp only [barrier, ite_self]

theorem barrier_zero_right (ldx : FloatVal × FloatVal) :
    (b.barrier signed cmp cond lhsV rhsV ldx (0, 0)).2 = (0, 0) := by
  simp only [barrier, ite_self]

end IntBranch

section Visitor

variable {b : IntBranch} {lhs rhs : Nat} {lhsV rhsV : Int} {cond : Bool} {pred : Nat}
  {location : Option String} {signed : Bool} {cmp : Int → Int → Bool} {s s' : RuntimeState}

theorem operandDx_barrier_write {l : Nat} {p : FloatVal × FloatVal} (zero : l = 0 → p = (0, 0))
    (info : Nat → DfsanLabelInfo) (written : (info l).negDydx = p.1 ∧ (info l).posDydx = p.2)
    (t : LabelTable) (table : t.dfsanLabelInfo = info) :
    operandDx { s with table := t } l = p := by
  unfold operandDx
  split
  · exact (zero ‹_›).symm
  · simp [table, written.1, written.2]

theorem branchBarrier_operandDx (predicate : icmpPredicate pred = some (signed, cmp)) (distinct : lhs ≠ rhs)
    {u : Unit} (h : (branchBarrier b lhs rhs lhsV rhsV cond pred location).run s = .ok (u, s')) :
    let p := b.barrier signed cmp cond lhsV rhsV (operandDx s lhs) (operandDx s rhs)
    operandDx s' lhs = p.1 ∧ operandDx s' rhs = p.2 := by
  intro p
  rw [branchBarrier, run_bind, run_get, except_ok_bind] at h
  dsimp only at h
  rw [predicate] at h
  dsimp only at h
  obtain ⟨_, s₁, write, h⟩ := bind_ok h
  rw [setLabelInfo_run, Except.ok.injEq] at write h
  cases write
  cases h
  constructor
  · refine operandDx_barrier_write (fun zero => ?_) _ ?_ _ rfl
    · subst zero
      exact IntBranch.barrier_zero_left _
    · simp [Function.update_noteq distinct, p]
  · refine operandDx_barrier_write (fun zero => ?_) _ ?_ _ rfl
    · subst zero
      exact IntBranch.barrier_zero_right _
    · simp [p]

theorem operandDx_of_table {s₁ : RuntimeState} (table : s₁.table = s.table) (l : Nat) :
    operandDx s₁ l = operandDx s l := by
  simp only [operandDx, table]

theorem intBranchVisitor_operandDx {cfg : Config} {fileId brId isPtr : Nat}
    (barriers : cfg.flags.branchBarriers = true) (predicate : icmpPredicate pred = some (signed, cmp))
    (distinct : lhs ≠ rhs)
    (h : (intBranchVisitor cfg b lhs rhs lhsV rhsV cond pred fileId brId isPtr location).run s = .ok ((), s')) :
    let p := b.barrier signed cmp cond (b.uType.conv lhsV) (b.uType.conv rhsV) (operandDx s lhs) (operandDx s rhs)
    operandDx s' lhs = p.1 ∧ operandDx s' rhs = p.2 := by
  unfold intBranchVisitor at h
  split at h
  · obtain ⟨-, rfl⟩ := pure_ok h
    rename_i unlabeled
    rw [unlabeled.1, unlabeled.2]
    exact ⟨(IntBranch.barrier_zero_left _).symm, (IntBranch.barrier_zero_right _).symm⟩
  obtain ⟨_, s₁, log, h⟩ := bind_ok h
  have same := operandDx_of_table (logBranch_ok log).1
  rw [← same lhs, ← same rhs]
  exact branchBarrier_operandDx predicate distinct h

end Visitor

theorem int_branch_keeps_outcome {cfg : Config} {b : IntBranch} {lhs rhs : Nat} {lhsV rhsV : Int} {cond : Bool}
    {pred fileId brId isPtr : Nat} {location : Option String} {signed : Bool} {cmp : Int → Int → Bool}
    {s s' : RuntimeState} (barriers : cfg.flags.branchBarriers = true) (distinct : lhs ≠ rhs)
    (predicate : icmpPredicate pred = some (signed, cmp))
    (taken : cmp (b.barrierSample signed (b.uType.conv lhsV) 0 false)
      (b.barrierSample signed (b.uType.conv rhsV) 0 false) = cond)
    (h : (intBranchVisitor cfg b lhs rhs lhsV rhsV cond pred fileId brId isPtr location).run s = .ok ((), s')) :
    b.KeepsBranch signed cmp cond (b.uType.conv lhsV) (b.uType.conv rhsV) (operandDx s' lhs) (operandDx s' rhs) ∧
      ∀ s'', (intBranchVisitor cfg b lhs rhs lhsV rhsV cond pred fileId brId isPtr location).run s' =
          .ok ((), s'') →
        operandDx s'' lhs = operandDx s' lhs ∧ operandDx s'' rhs = operandDx s' rhs := by
  have keeps : b.KeepsBranch signed cmp cond (b.uType.conv lhsV) (b.uType.conv rhsV)
      (operandDx s' lhs) (operandDx s' rhs) := by
    obtain ⟨left, right⟩ := intBranchVisitor_operandDx barriers predicate distinct h
    rw [left, right]
    exact IntBranch.keepsBranch_barrier taken _ _
  refine ⟨keeps, fun s'' again => ?_⟩
  obtain ⟨left, right⟩ := intBranchVisitor_operandDx barriers predicate distinct again
  rw [left, right, IntBranch.barrier_of_keepsBranch keeps]
  exact ⟨rfl, rfl⟩

open Predicate in
theorem int_branch_keeps_outcome_sgt :
    let cfg : Config := ⟨⟨false, 1, false, false, false, true⟩, true⟩
    let cmp : Int → Int → Bool := fun a b => decide (b < a)
    let visit := intBranchVisitor cfg branchVisitorInt 1 0 5 0 true ICMP_SGT 0 0 0 none
    cfg.flags.branchBarriers = true ∧ (1 : Nat) ≠ 0 ∧ icmpPredicate ICMP_SGT = some (true, cmp) ∧
      cmp (branchVisitorInt.barrierSample true (branchVisitorInt.uType.conv 5) 0 false)
        (branchVisitorInt.barrierSample true (branchVisitorInt.uType.conv 0) 0 false) = true ∧
      ∃ s', visit.run (createdState none) = .ok ((), s') ∧
        branchVisitorInt.KeepsBranch true cmp true (branchVisitorInt.uType.conv 5) (branchVisitorInt.uType.conv 0)
          (operandDx s' 1) (operandDx s' 0) ∧
        ∀ s'', visit.run s' = .ok ((), s'') →
          operandDx s'' 1 = operandDx s' 1 ∧ operandDx s'' 0 = operandDx s' 0 := by
  intro cfg cmp visit
  have taken : cmp (branchVisitorInt.barrierSample true (branchVisitorInt.uType.conv 5) 0 false)
      (branchVisitorInt.barrierSample true (branchVisitorInt.uType.conv 0) 0 false) = true := by
    simp only [IntBranch.barrierSample_zero, if_true, cmp]
    decide
  have barriers : cfg.flags.branchBarriers = true := rfl
  have predicate : icmpPredicate ICMP_SGT = some (true, cmp) := rfl
  have run : visit.run (createdState none) = .ok ((), _) := rfl
  exact ⟨barriers, by decide, predicate, taken, _, run,
    int_branch_keeps_outcome barriers (by decide) predicate taken run⟩

end Grsan
