import Grsan.Runtime.Effects

set_option autoImplicit false

namespace Grsan

open FloatVal OpCode

def intUnionRest (cfg : Config) (u : IntUnion) (l1 l2 : Nat) (x1 x2 : Int) (retAddr opcode : Nat)
    (location : Option String) (dx1 dx2 : FloatVal × FloatVal) : Rt Nat := do
  let a := u.argType.conv x1
  let b := u.argType.conv x2
  divisorRecord cfg (intArgSite opcode) l2 retAddr (ofInt b) location
  intUnionLabel cfg.flags u l1 l2 a b dx1 dx2 opcode location

def floatUnionRest (cfg : Config) (l1 l2 : Nat) (x1 x2 : FloatVal) (retAddr opcode : Nat)
    (location : Option String) (dx1 dx2 : FloatVal × FloatVal) : Rt Nat := do
  divisorRecord cfg (floatArgSite opcode) l2 retAddr x2 location
  unionLabel cfg.flags l1 l2 dx1 dx2 opcode (floatRule cfg.flags opcode x1 x2 dx1 dx2).1
    (floatRule cfg.flags opcode x1 x2 dx1 dx2).2 none location

def labelDx (s : RuntimeState) (l : Nat) : FloatVal × FloatVal :=
  ((s.table.dfsanLabelInfo l).negDydx, (s.table.dfsanLabelInfo l).posDydx)

section Split

variable {cfg : Config} {l1 l2 : Nat} {retAddr opcode : Nat} {location : Option String}

theorem intUnion_eq_rest (u : IntUnion) (x1 x2 : Int) :
    intUnion cfg u l1 l2 x1 x2 retAddr opcode location =
      (if l1 = 0 ∧ l2 = 0 then pure 0 else do
        let s ← get
        if cfg.flags.reuseLabels ∧ allZero (operandDx s l1) (operandDx s l2) then pure (if l1 ≠ 0 then l1 else l2)
        else intUnionRest cfg u l1 l2 x1 x2 retAddr opcode location (operandDx s l1) (operandDx s l2)) := rfl

end Split

section Flat

theorem cmpEq_zero_iff {d : FloatVal} : cmpEq d 0 = true ↔ d = 0 :=
  ⟨cmpEq_eq, fun zero => by rw [zero]; rfl⟩

theorem allZero_iff {dx1 dx2 : FloatVal × FloatVal} : allZero dx1 dx2 = true ↔ dx1 = (0, 0) ∧ dx2 = (0, 0) := by
  obtain ⟨n1, p1⟩ := dx1
  obtain ⟨n2, p2⟩ := dx2
  simp only [allZero, Bool.and_eq_true, cmpEq_zero_iff, Prod.mk.injEq, and_assoc]

variable {s s' : RuntimeState} {l1 l2 r : Nat}

theorem labelDx_early (labeled : l1 ≠ 0 ∨ l2 ≠ 0) (flat : allZero (operandDx s l1) (operandDx s l2) = true) :
    labelDx s (if l1 ≠ 0 then l1 else l2) = (0, 0) := by
  obtain ⟨zero1, zero2⟩ := allZero_iff.mp flat
  split
  · rw [operandDx, if_neg ‹_›] at zero1
    exact zero1
  · rw [operandDx, if_neg (by omega)] at zero2
    exact zero2

theorem unionLabel_flat {fl : Flags} (reuse : fl.reuseLabels = true) (labeled : l1 ≠ 0 ∨ l2 ≠ 0) {opcode : Nat}
    {neg pos : FloatVal} {fVal : Option Int} {location : Option String}
    (h : (unionLabel fl l1 l2 (0, 0) (0, 0) opcode neg pos fVal location).run s = .ok (r, s')) :
    (neg = 0 ∧ pos = 0 ∧ r = (if l1 ≠ 0 then l1 else l2) ∧ s' = s) ∨
      (¬(neg = 0 ∧ pos = 0) ∧ r = (s.table.dfsanLastLabel + 1) % kNumLabels ∧ labelDx s' r = (neg, pos)) := by
  unfold unionLabel at h
  split at h
  · rename_i first
    obtain ⟨rfl, rfl⟩ := pure_ok h
    exact .inl ⟨cmpEq_eq first.2.2.2, cmpEq_eq first.2.2.1, (if_pos first.2.1).symm, rfl⟩
  rename_i notFirst
  split at h
  · rename_i second
    obtain ⟨rfl, rfl⟩ := pure_ok h
    have unlabeled : l1 = 0 := by
      by_contra nonzero
      exact notFirst ⟨reuse, nonzero, second.2.2.1, second.2.2.2⟩
    exact .inl ⟨cmpEq_eq second.2.2.2, cmpEq_eq second.2.2.1, (if_neg (not_not.mpr unlabeled)).symm, rfl⟩
  rename_i notSecond
  refine .inr ⟨fun ⟨zeroNeg, zeroPos⟩ => ?_, ?_⟩
  · have flat : cmpEq pos (0, 0).2 = true ∧ cmpEq neg (0, 0).1 = true := by
      rw [zeroNeg, zeroPos]
      exact ⟨rfl, rfl⟩
    rcases labeled with nonzero | nonzero
    · exact notFirst ⟨reuse, nonzero, flat⟩
    · exact notSecond ⟨reuse, nonzero, flat⟩
  · obtain ⟨label, s₁, alloc, h⟩ := bind_ok h
    obtain ⟨rfl, -, rfl⟩ := allocLabel_ok alloc
    obtain ⟨_, s₂, write, h⟩ := bind_ok h
    rw [setLabelInfo_run, Except.ok.injEq] at write
    obtain ⟨rfl, rfl⟩ := pure_ok h
    cases write
    simp [labelDx]

theorem unionLabel_agrees_iff {fl : Flags} (reuse : fl.reuseLabels = true) (labeled : l1 ≠ 0 ∨ l2 ≠ 0)
    {s₁ : RuntimeState} (table : s₁.table = s.table) (flat : allZero (operandDx s l1) (operandDx s l2) = true)
    {opcode : Nat} {neg pos : FloatVal} {fVal : Option Int} {location : Option String}
    (h : (unionLabel fl l1 l2 (0, 0) (0, 0) opcode neg pos fVal location).run s₁ = .ok (r, s')) :
    (labelDx s' r = labelDx s (if l1 ≠ 0 then l1 else l2) ↔ (neg, pos) = (0, 0)) ∧
      ((neg, pos) = (0, 0) → r = if l1 ≠ 0 then l1 else l2) ∧
      ((neg, pos) ≠ (0, 0) → r = (s.table.dfsanLastLabel + 1) % kNumLabels ∧ labelDx s' r = (neg, pos)) := by
  rcases unionLabel_flat reuse labeled h with ⟨rfl, rfl, rfl, rfl⟩ | ⟨notFlat, fresh, carried⟩
  · exact ⟨iff_of_true (by simp only [labelDx, table]) rfl, fun _ => rfl, fun differs => absurd rfl differs⟩
  · have differs : (neg, pos) ≠ (0, 0) := fun same => notFlat (Prod.mk.injEq .. ▸ same)
    exact ⟨iff_of_false (by rw [carried, labelDx_early labeled flat]; exact differs) differs,
      fun yes => absurd yes differs, fun _ => ⟨table ▸ fresh, carried⟩⟩

end Flat

theorem early_exit_agrees_iff_flat_rule {cfg : Config} (reuse : cfg.flags.reuseLabels = true) {s : RuntimeState}
    {l1 l2 : Nat} (labeled : l1 ≠ 0 ∨ l2 ≠ 0) (flat : allZero (operandDx s l1) (operandDx s l2) = true) :
    labelDx s (if l1 ≠ 0 then l1 else l2) = (0, 0) ∧
      (∀ u x1 x2 retAddr opcode location l s',
        (intUnionRest cfg u l1 l2 x1 x2 retAddr opcode location (operandDx s l1) (operandDx s l2)).run s =
          .ok (l, s') →
        ((labelDx s' l = labelDx s (if l1 ≠ 0 then l1 else l2) ↔
            ∃ fVal, intRule cfg.flags u opcode (u.argType.conv x1) (u.argType.conv x2) (0, 0) (0, 0) = .ok (0, 0, fVal)) ∧
          ((∃ fVal, intRule cfg.flags u opcode (u.argType.conv x1) (u.argType.conv x2) (0, 0) (0, 0) = .ok (0, 0, fVal)) →
            l = if l1 ≠ 0 then l1 else l2) ∧
          ∀ neg pos fVal, intRule cfg.flags u opcode (u.argType.conv x1) (u.argType.conv x2) (0, 0) (0, 0) =
            .ok (neg, pos, fVal) → (neg, pos) ≠ (0, 0) →
            l = (s.table.dfsanLastLabel + 1) % kNumLabels ∧ labelDx s' l = (neg, pos))) ∧
      ∀ x1 x2 retAddr opcode location l s',
        (floatUnionRest cfg l1 l2 x1 x2 retAddr opcode location (operandDx s l1) (operandDx s l2)).run s = .ok (l, s') →
        ((labelDx s' l = labelDx s (if l1 ≠ 0 then l1 else l2) ↔ floatRule cfg.flags opcode x1 x2 (0, 0) (0, 0) = (0, 0)) ∧
          (floatRule cfg.flags opcode x1 x2 (0, 0) (0, 0) = (0, 0) → l = if l1 ≠ 0 then l1 else l2) ∧
          (floatRule cfg.flags opcode x1 x2 (0, 0) (0, 0) ≠ (0, 0) →
            l = (s.table.dfsanLastLabel + 1) % kNumLabels ∧ labelDx s' l = floatRule cfg.flags opcode x1 x2 (0, 0) (0, 0))) := by
  obtain ⟨zero1, zero2⟩ := allZero_iff.mp flat
  refine ⟨labelDx_early labeled flat, fun u x1 x2 retAddr opcode location l s' h => ?_,
    fun x1 x2 retAddr opcode location l s' h => ?_⟩
  · rw [zero1, zero2] at h
    obtain ⟨_, s₁, record, h⟩ := bind_ok h
    obtain ⟨neg, pos, fVal, rule, h⟩ := intUnionLabel_ok h
    obtain ⟨agree, same, fresh⟩ := unionLabel_agrees_iff reuse labeled (divisorRecord_ok record).1 flat h
    have flatRule : (∃ fVal', (.ok (neg, pos, fVal) : Except String _) = .ok (0, 0, fVal')) ↔ (neg, pos) = (0, 0) := by
      simp
    rw [rule]
    exact ⟨agree.trans flatRule.symm, fun yes => same (flatRule.mp yes), fun _ _ _ eq => by cases eq; exact fresh⟩
  · rw [zero1, zero2] at h
    obtain ⟨_, s₁, record, h⟩ := bind_ok h
    exact unionLabel_agrees_iff reuse labeled (divisorRecord_ok record).1 flat h

theorem mul_zero_flat (cfg : Config) (reuse : cfg.flags.reuseLabels = true) :
    ∃ s, (run cfg [.createLabel (some "x"), .intUnion .int 1 0 5 0 0 MUL none]).run flushedState = .ok ([1, 2], s) ∧
      allZero (operandDx s 2) (operandDx s 0) = true ∧ s.table.dfsanLastLabel = 2 := by
  rw [run_create_flushed]
  simp [step, allocLabel, dfsanCheckLabel, setLabelInfo, Except.map, kNumLabels, kInitializingLabel, intUnion,
    IntWidth.union, dfsanUnion, allZero, divisorRecord, intArgSite, intUnionLabel, intRule, unionLabel,
    OpCode.MUL, CType.conv, CType.int, CType.promote, Int.bmod, operandDx, reuse]

theorem early_exit_agrees_iff_flat_rule_after_mul_zero :
    let cfg : Config := ⟨⟨true, 1, true, false, false, false⟩, false⟩
    ∃ s, (run cfg [.createLabel (some "x"), .intUnion .int 1 0 5 0 0 MUL none]).run flushedState = .ok ([1, 2], s) ∧
      cfg.flags.reuseLabels = true ∧ (2 ≠ 0 ∨ 0 ≠ 0) ∧ allZero (operandDx s 2) (operandDx s 0) = true ∧
      labelDx s (if 2 ≠ 0 then 2 else 0) = (0, 0) ∧
      (∀ u x1 x2 retAddr opcode location l s',
        (intUnionRest cfg u 2 0 x1 x2 retAddr opcode location (operandDx s 2) (operandDx s 0)).run s =
          .ok (l, s') →
        ((labelDx s' l = labelDx s (if 2 ≠ 0 then 2 else 0) ↔
            ∃ fVal, intRule cfg.flags u opcode (u.argType.conv x1) (u.argType.conv x2) (0, 0) (0, 0) = .ok (0, 0, fVal)) ∧
          ((∃ fVal, intRule cfg.flags u opcode (u.argType.conv x1) (u.argType.conv x2) (0, 0) (0, 0) = .ok (0, 0, fVal)) →
            l = if 2 ≠ 0 then 2 else 0) ∧
          ∀ neg pos fVal, intRule cfg.flags u opcode (u.argType.conv x1) (u.argType.conv x2) (0, 0) (0, 0) =
            .ok (neg, pos, fVal) → (neg, pos) ≠ (0, 0) →
            l = (s.table.dfsanLastLabel + 1) % kNumLabels ∧ labelDx s' l = (neg, pos))) ∧
      ∀ x1 x2 retAddr opcode location l s',
        (floatUnionRest cfg 2 0 x1 x2 retAddr opcode location (operandDx s 2) (operandDx s 0)).run s = .ok (l, s') →
        ((labelDx s' l = labelDx s (if 2 ≠ 0 then 2 else 0) ↔ floatRule cfg.flags opcode x1 x2 (0, 0) (0, 0) = (0, 0)) ∧
          (floatRule cfg.flags opcode x1 x2 (0, 0) (0, 0) = (0, 0) → l = if 2 ≠ 0 then 2 else 0) ∧
          (floatRule cfg.flags opcode x1 x2 (0, 0) (0, 0) ≠ (0, 0) →
            l = (s.table.dfsanLastLabel + 1) % kNumLabels ∧ labelDx s' l = floatRule cfg.flags opcode x1 x2 (0, 0) (0, 0))) := by
  intro cfg
  obtain ⟨s, run, flat, -⟩ := mul_zero_flat cfg rfl
  exact ⟨s, run, rfl, .inl (by decide), flat, early_exit_agrees_iff_flat_rule rfl (.inl (by decide)) flat⟩

theorem gep_early_exit_drops_default :
    let cfg : Config := ⟨⟨true, 1, true, false, false, false⟩, false⟩
    ∃ s, (run cfg [.createLabel (some "x"), .intUnion .int 1 0 5 0 0 MUL none]).run flushedState = .ok ([1, 2], s) ∧
      (intUnion cfg dfsanUnion 2 0 7 0 0 GETELEMENTPTRT none).run s = .ok (2, s) ∧ labelDx s 2 = (0, 0) ∧
      ∃ s', (intUnionRest cfg dfsanUnion 2 0 7 0 0 GETELEMENTPTRT none (operandDx s 2) (operandDx s 0)).run s =
          .ok (3, s') ∧ labelDx s' 3 = (1, 1) := by
  intro cfg
  obtain ⟨s, run, flat, last⟩ := mul_zero_flat cfg rfl
  refine ⟨s, run, ?_, ?_, ?_⟩
  · rw [intUnion_eq_rest, if_neg (by decide)]
    simp only [run_bind, run_get, except_ok_bind]
    rw [if_pos ⟨trivial, flat⟩]
    rfl
  · exact labelDx_early (.inl (by decide)) flat
  · simp [cfg, intUnionRest, divisorRecord, intArgSite, intUnionLabel, intRule, unionLabel, OpCode.GETELEMENTPTRT,
      allocLabel, dfsanCheckLabel, setLabelInfo, last, kNumLabels, kInitializingLabel, labelDx, allZero_iff.mp flat]

end Grsan
