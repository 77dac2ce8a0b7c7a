import Grsan.Runtime.Union

set_option autoImplicit false

namespace Grsan

open FloatVal OpCode

def Sampler.stepAt (sm : Sampler) (i : Nat) : Nat := if sm.doubling then 2 ^ i % 2 ^ 32 else i + 1

def Sampler.steps (sm : Sampler) : Nat → Nat → Nat → List Nat
  | 0, _, _ => []
  | n + 1, smp, offset => (if sm.doubling then offset else smp) :: sm.steps n (smp + 1) (offset * 2 % 2 ^ 32)

def Sampler.quotients (sm : Sampler) (x1 x2 y : Int) (dx1 dx2 : FloatVal × FloatVal) (step : Nat) :
    Option (FloatVal × FloatVal) := do
  let negY ← sm.sample x1 x2 dx1.1 dx2.1 step false
  let posY ← sm.sample x1 x2 dx1.2 dx2.2 step true
  pure (sm.quotient y negY step, sm.quotient posY y step)

def firstFar (ds : List FloatVal) : FloatVal :=
  (ds.find? fun d => !nearZero d).getD (ds.getLast?.getD 0)

section FirstFar

theorem firstFar_single (d : FloatVal) : firstFar [d] = d := by
  cases h : nearZero d <;> simp [firstFar, List.find?_cons, h]

theorem firstFar_cons_cons (d q : FloatVal) (ds : List FloatVal) :
    firstFar (d :: q :: ds) = firstFar ((if nearZero d then q else d) :: ds) := by
  cases h : nearZero d <;> simp [firstFar, List.find?_cons, h]

@[simp] theorem nearZero_num_zero : nearZero (num 0) = true := by
  simp only [nearZero, cmpLt, Bool.and_eq_true, decide_eq_true_eq]
  norm_num

theorem firstFar_cons_near {d : FloatVal} (near : nearZero d = true) {ds : List FloatVal} (nonempty : ds ≠ []) :
    firstFar (d :: ds) = firstFar ds := by
  obtain ⟨q, qs, rfl⟩ := List.exists_cons_of_ne_nil nonempty
  rw [firstFar_cons_cons, if_pos near]

theorem firstFar_of_zero {ds : List FloatVal} (zero : ∀ d ∈ ds, d = 0) : firstFar ds = 0 := by
  induction ds with
  | nil => rfl
  | cons d ds ih =>
    rw [zero d (.head _)]
    cases ds with
    | nil => exact firstFar_single 0
    | cons q qs =>
      rw [firstFar_cons_near (by simp) (List.cons_ne_nil q qs)]
      exact ih fun d' mem => zero d' (.tail _ mem)

theorem firstFar_map_range (f : Nat → FloatVal) : ∀ {k n : Nat}, k < n → (∀ i < k, nearZero (f i) = true) →
    nearZero (f k) = false → firstFar ((List.range n).map f) = f k
  | 0, n + 1, _, _, far => by simp [List.range_succ_eq_map, firstFar, List.find?_cons, far]
  | k + 1, n + 1, lt, near, far => by
    rw [List.range_succ_eq_map, List.map_cons, List.map_map,
      firstFar_cons_near (near 0 (by omega)) (by simp only [ne_eq, List.map_eq_nil_iff, List.range_eq_nil]; omega)]
    exact firstFar_map_range (f ∘ Nat.succ) (by omega) (fun i lt => near (i + 1) (by omega)) far

theorem firstFar_zero_cons (ds : List FloatVal) : firstFar (0 :: ds) = firstFar ds := by
  simp [firstFar, List.find?_cons, List.getLast?_cons]

end FirstFar

section Loop

variable (sm : Sampler) (x1 x2 y : Int) (dx1 dx2 : FloatVal × FloatVal)

theorem Sampler.loop_eq : ∀ n smp offset neg pos, sm.loop x1 x2 y dx1 dx2 n smp offset (neg, pos) =
    ((sm.steps n smp offset).mapM (sm.quotients x1 x2 y dx1 dx2)).map fun qs =>
      (firstFar (neg :: qs.map Prod.fst), firstFar (pos :: qs.map Prod.snd))
  | 0, _, _, neg, pos => by
    simp only [Sampler.loop, Sampler.steps, List.mapM_nil]
    exact congrArg some (by simp only [List.map_nil, firstFar_single])
  | n + 1, smp, offset, neg, pos => by
    simp only [Sampler.loop, Sampler.steps, List.mapM_cons, Sampler.quotients, Sampler.loop_eq n]
    cases sm.sample x1 x2 dx1.1 dx2.1 (if sm.doubling then offset else smp) false <;>
    cases sm.sample x1 x2 dx1.2 dx2.2 (if sm.doubling then offset else smp) true <;> try rfl
    cases (sm.steps n (smp + 1) (offset * 2 % 2 ^ 32)).mapM (sm.quotients x1 x2 y dx1 dx2)
    · rfl
    · exact congrArg some (by simp only [List.map_cons, firstFar_cons_cons])

theorem Sampler.steps_eq : ∀ n smp offset, offset < 2 ^ 32 →
    sm.steps n smp offset = (List.range n).map fun i => if sm.doubling then offset * 2 ^ i % 2 ^ 32 else smp + i
  | 0, _, _, _ => rfl
  | n + 1, smp, offset, small => by
    rw [Sampler.steps, Sampler.steps_eq n _ _ (Nat.mod_lt _ (by decide)), List.range_succ_eq_map]
    simp only [List.map_cons, List.map_map, pow_zero, mul_one, Nat.mod_eq_of_lt small, add_zero]
    congr 2
    funext i
    simp only [Function.comp, Nat.mod_mul_mod, pow_succ]
    split
    · ring_nf
    · omega

end Loop

theorem sampler_run_first_far (sm : Sampler) (samples x1 x2 : Int) (dx1 dx2 : FloatVal × FloatVal) :
    sm.run samples x1 x2 dx1 dx2 =
      ((sm.op.eval sm.base.promote (sm.base.conv x1) (sm.base.conv x2)).map sm.result.conv).bind fun y =>
        (((List.range samples.toNat).map sm.stepAt).mapM
          (sm.quotients (sm.base.conv x1) (sm.base.conv x2) y dx1 dx2)).map fun qs =>
            (y, firstFar (qs.map Prod.fst), firstFar (qs.map Prod.snd)) := by
  have steps : sm.steps samples.toNat 1 1 = (List.range samples.toNat).map sm.stepAt := by
    rw [Sampler.steps_eq sm _ _ _ (by decide)]
    congr 1
    funext i
    simp only [Sampler.stepAt, one_mul, Nat.add_comm 1]
  simp only [Sampler.run, Sampler.loop_eq, steps, firstFar_zero_cons]
  cases (sm.op.eval sm.base.promote (sm.base.conv x1) (sm.base.conv x2)).map sm.result.conv with
  | none => rfl
  | some y =>
    simp only [Option.bind_eq_bind, Option.some_bind]
    cases ((List.range samples.toNat).map sm.stepAt).mapM
      (sm.quotients (sm.base.conv x1) (sm.base.conv x2) y dx1 dx2)
    <;> rfl

theorem mapM_some_of_eq {α β : Type} {f : α → Option β} {g : α → β} (eq : ∀ a, f a = some (g a))
    (l : List α) :
    l.mapM f = some (l.map g) := by
  induction l with
  | nil => rfl
  | cons a l ih =>
    rw [List.mapM_cons, eq, ih]
    rfl

theorem intRule_sampled {fl : Flags} {u : IntUnion} {opcode : Nat} {sm : Sampler}
    (sampled : u.sampler opcode = some sm) (x1 x2 : Int) (dx1 dx2 : FloatVal × FloatVal) :
    intRule fl u opcode x1 x2 dx1 dx2 = match sm.run fl.samples x1 x2 dx1 dx2 with
      | some (y, neg, pos) => .ok (neg, pos, CType.int.conv y)
      | none => .error "undefined operation" := by
  unfold intRule
  split <;> first
    | cases sampled
    | (rw [sampled]; try rfl)

theorem land_zero_right (a : Int) : Int.land a 0 = 0 := by
  cases a <;> simp [Int.land, Nat.ldiff]

theorem and_zero_mask_ratio (i : Nat) :
    num 0 / num ((⟨.int, .int, .int, .and, true⟩ : Sampler).stepAt i : Nat) = if i < 32 then 0 else nan := by
  simp only [Sampler.stepAt, if_true]
  split
  · rw [Nat.mod_eq_of_lt (Nat.pow_lt_pow_right (by decide) (by assumption)),
      div_num _ _ (by exact_mod_cast (Nat.pos_pow_of_pos i (by decide)).ne')]
    simp
  · rw [Nat.mod_eq_zero_of_dvd (Nat.pow_dvd_pow 2 (by omega))]
    rfl

theorem and_zero_mask_overflows_to_nan (fl : Flags) (u : IntUnion) (x1 : Int) (dx1 : FloatVal × FloatVal) :
    intRule fl u AND x1 0 dx1 (0, 0) = if fl.samples ≤ 32 then .ok (0, 0, 0) else .ok (nan, nan, 0) := by
  set sm : Sampler := ⟨u.argType, u.bitwiseType, u.bitwiseType, .and, true⟩
  have y : (sm.op.eval sm.base.promote (sm.base.conv x1) (sm.base.conv 0)).map sm.result.conv = some 0 := by
    simp [sm, BinOp.eval, land_zero_right, CType.conv]
  have quotients (step : Nat) : sm.quotients (sm.base.conv x1) (sm.base.conv 0) 0 dx1 (0, 0) step =
      some (num 0 / num step, num 0 / num step) := by
    simp [sm, Sampler.quotients, Sampler.sample, BinOp.eval, land_zero_right, CType.conv, CType.ofFloat,
      FloatVal.trunc, Sampler.quotient]
  have steps : sm.stepAt = (⟨.int, .int, .int, .and, true⟩ : Sampler).stepAt := rfl
  rw [intRule_sampled (show u.sampler AND = some sm from rfl), sampler_run_first_far, y, Option.some_bind,
    mapM_some_of_eq quotients]
  simp only [Option.map_some', List.map_map, Function.comp_def, steps, and_zero_mask_ratio]
  have fVal : CType.int.conv 0 = 0 := rfl
  by_cases few : fl.samples ≤ 32
  · rw [if_pos few, firstFar_of_zero fun d mem => ?_, fVal]
    obtain ⟨i, lt, rfl⟩ := List.mem_map.mp mem
    rw [if_pos (by rw [List.mem_range] at lt; omega)]
  · rw [if_neg few, firstFar_map_range _ (k := 32) (by omega) (fun i lt => by simp [lt]) (by rfl), fVal]
    rfl

end Grsan
