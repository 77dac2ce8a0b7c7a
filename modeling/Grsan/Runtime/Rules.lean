import Grsan.Runtime.Effects
import Grsan.Runtime.Sampling

set_option autoImplicit false

namespace Grsan

open FloatVal

theorem quotient_rule_drops_square (cfg : Config) :
    (match (run cfg [.createLabel (some "x"), .intUnion .int 1 0 2 2 0 OpCode.SDIV none]).run
        flushedState with
      | .ok ([_, l], s) => (s.table.dfsanLabelInfo l).negDydx = 1 ∧ (s.table.dfsanLabelInfo l).posDydx = 1
      | _ => False) ∧
    match (run cfg [.createLabel (some "x"), .floatUnion 1 0 2 2 0 OpCode.FDIV none]).run flushedState with
    | .ok ([_, l], s) => (s.table.dfsanLabelInfo l).negDydx = 1 ∧ (s.table.dfsanLabelInfo l).posDydx = 1
    | _ => False := by
  rw [run_create_flushed, run_create_flushed]
  obtain ⟨⟨reuse, samples, gep, select, nan, barriers⟩, perf⟩ := cfg
  cases reuse <;>
  simp [step, allocLabel, dfsanCheckLabel, setLabelInfo, Except.map, kNumLabels, kInitializingLabel, intUnion,
    floatUnion, IntWidth.union, dfsanUnion, allZero, divisorRecord, intArgSite, floatArgSite, intUnionLabel, intRule,
    floatRule, unionLabel, OpCode.SDIV, OpCode.FDIV, CType.div, CType.promote, CType.conv, CType.int, CType.minVal,
    Int.bmod]

theorem urem_sample_divides_by_zero (cfg : Config) (sampled : 1 ≤ cfg.flags.samples) :
    CType.uint32_t.rem 5 1 = some 0 ∧
      (run cfg [.createLabel none, .intUnion .int 0 1 5 1 0 OpCode.UREM none]).run flushedState =
        .error (.crash "undefined operation") := by
  refine ⟨by decide, ?_⟩
  obtain ⟨n, hn⟩ : ∃ n, cfg.flags.samples.toNat = n + 1 := ⟨cfg.flags.samples.toNat - 1, by omega⟩
  have rule : intRule cfg.flags dfsanUnion OpCode.UREM 5 1 (0, 0) (1, 1) = .error "undefined operation" := by
    simp [intRule, OpCode.UREM, IntUnion.sampler, dfsanUnion, Sampler.run, hn, Sampler.loop,
      Sampler.sample, BinOp.eval, CType.rem, CType.common, CType.promote, CType.ofFloat, FloatVal.trunc,
      CType.conv, CType.uint32_t, CType.int, CType.minVal]
  simp [dfsanUnion, OpCode.UREM, CType.int] at rule
  rw [run_create_flushed]
  cases perf : cfg.grModePerf <;>
  simp [step, intUnion, IntWidth.union, dfsanUnion, allZero, Except.map, divisorRecord, intArgSite, intUnionLabel,
    OpCode.UREM, perf, recordArg, FUNC_ARGS_SIZE, rule, CType.conv, CType.int, flushedState]

theorem urem_sample_divides_by_zero_one_sample :
    let cfg : Config := ⟨⟨false, 1, false, false, false, false⟩, false⟩
    1 ≤ cfg.flags.samples ∧ CType.uint32_t.rem 5 1 = some 0 ∧
      (run cfg [.createLabel none, .intUnion .int 0 1 5 1 0 OpCode.UREM none]).run flushedState =
        .error (.crash "undefined operation") :=
  ⟨by decide, urem_sample_divides_by_zero _ (by decide)⟩

theorem byte_srem_reads_operands_unsigned :
    let cfg : Config := ⟨⟨false, 1, false, false, false, false⟩, false⟩
    (match (run cfg [.createLabel (some "x"), .intUnion .byte 1 0 255 2 0 OpCode.SREM none]).run
        flushedState with
      | .ok (rs, s) => rs = [1, 2] ∧ (s.table.dfsanLabelInfo 2).fVal = 1
      | .error _ => False) ∧
    (CType.int8_t.conv 255).tmod 2 = -1 := by
  intro cfg
  rw [run_create_flushed]
  simp [step, allocLabel, dfsanCheckLabel, setLabelInfo, Except.map, kNumLabels, kInitializingLabel,
    intUnion, IntWidth.union, dfsanUnionByte, allZero,
    divisorRecord, intArgSite, intUnionLabel, intRule, unionLabel, OpCode.SREM, IntUnion.sampler,
    Sampler.run, Sampler.loop, Sampler.sample, Sampler.quotient, nearZero, BinOp.eval, CType.rem,
    CType.common, CType.promote, CType.ofFloat, FloatVal.trunc, CType.conv, CType.u8, CType.uint8_t,
    CType.int8_t, CType.int, CType.minVal, Int.bmod]
  decide

theorem and_mask_budget_past_32_gives_nan (cfg : Config) (x : Int) :
    ∃ s, (run cfg [.createLabel (some "x"), .intUnion .int 1 0 x 0 0 OpCode.AND none]).run flushedState = .ok ([1, 2], s) ∧
      (s.table.dfsanLabelInfo 2).negDydx = (if cfg.flags.samples ≤ 32 then 0 else nan) ∧
      (s.table.dfsanLabelInfo 2).posDydx = (if cfg.flags.samples ≤ 32 then 0 else nan) := by
  have rule : intRule cfg.flags dfsanUnion OpCode.AND (CType.int.conv x) (CType.int.conv 0) (num 1, num 1) (num 0, num 0) =
      if cfg.flags.samples ≤ 32 then .ok (0, 0, 0) else .ok (nan, nan, 0) :=
    and_zero_mask_overflows_to_nan cfg.flags dfsanUnion (CType.int.conv x) (1, 1)
  simp only [dfsanUnion] at rule
  rw [run_create_flushed]
  by_cases few : cfg.flags.samples ≤ 32 <;> simp only [few, if_true, if_false] at rule <;>
  simp [step, allocLabel, dfsanCheckLabel, setLabelInfo, Except.map, kNumLabels, kInitializingLabel, intUnion,
    IntWidth.union, dfsanUnion, allZero, divisorRecord, intArgSite, intUnionLabel, unionLabel, few, rule]

end Grsan
