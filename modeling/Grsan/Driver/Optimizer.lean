import Grsan.Runtime.Invariant
import Grsan.Runtime.Dump

set_option autoImplicit false

namespace Grsan

open FloatVal OpCode

-- `kMaxLabels = 1 << (sizeof(dfsan_label) * 8)`
def kMaxLabels : Nat := 2 ^ 16

-- `struct Metadata`: the copied entries and `num_dfsan_labels`.
structure Metadata where
  localDfsanLabelInfo : Nat → DfsanLabelInfo
  numDfsanLabels : Nat

section Populate

variable (info : Nat → DfsanLabelInfo) (cnt : Nat)

def populateMetadataLoop : Nat → Nat → (Nat → DfsanLabelInfo) → Option (Nat → DfsanLabelInfo)
  | 0, _, _ => none
  | fuel + 1, l, copy =>
    if l ≤ cnt + 1 then populateMetadataLoop fuel ((l + 1) % 2 ^ 16) (Function.update copy l (info l))
    else some copy

theorem populateMetadataLoop_copies (small : cnt ≤ 65533) :
    ∀ fuel l copy, 1 ≤ l → l ≤ cnt + 2 → cnt + 2 - l < fuel →
      populateMetadataLoop info cnt fuel l copy = some fun q => if l ≤ q ∧ q ≤ cnt + 1 then info q else copy q
  | 0, _, _, _, _, enough => absurd enough (Nat.not_lt_zero _)
  | fuel + 1, l, copy, low, high, enough => by
    rw [populateMetadataLoop]
    by_cases more : l ≤ cnt + 1
    · rw [if_pos more, Nat.mod_eq_of_lt (by omega),
        populateMetadataLoop_copies small fuel (l + 1) _ (by omega) (by omega) (by omega)]
      congr 1
      funext q
      by_cases here : q = l
      · subst here
        simp [more]
      · simp only [Function.update_noteq here]
        split_ifs <;> first | rfl | omega
    · rw [if_neg more]
      congr 1
      funext q
      rw [if_neg (by omega)]

theorem populateMetadataLoop_full : ∀ fuel l copy, l < 2 ^ 16 → populateMetadataLoop info 65534 fuel l copy = none
  | 0, _, _, _ => rfl
  | fuel + 1, l, copy, small => by
    rw [populateMetadataLoop, if_pos (by omega)]
    exact populateMetadataLoop_full fuel _ _ (Nat.mod_lt _ (by decide))

end Populate

def populateMetadata (s : RuntimeState) (fuel : Nat) : Option Metadata :=
  let cnt := dfsanGetLabelCount s
  (populateMetadataLoop s.table.dfsanLabelInfo cnt fuel 1 fun _ => default).map fun copy => ⟨copy, cnt⟩

theorem reach_label_count (cfg : Config) :
    ∀ n ≤ 65534, ∃ s sources, Reach cfg s sources ∧ dfsanGetLabelCount s = n
  | 0, _ => ⟨_, _, .flushed, rfl⟩
  | n + 1, room => by
    obtain ⟨s, sources, reach, count⟩ := reach_label_count cfg n (by omega)
    unfold dfsanGetLabelCount at count
    have next : (s.table.dfsanLastLabel + 1) % kNumLabels = n + 1 := by
      unfold kNumLabels
      omega
    have fresh : (s.table.dfsanLastLabel + 1) % kNumLabels ≠ kInitializingLabel := by
      unfold kInitializingLabel
      omega
    obtain ⟨s', run, last⟩ : ∃ s', (step cfg (.createLabel none)).run s = .ok (n + 1, s') ∧
        s'.table.dfsanLastLabel = n + 1 := by
      simp only [step, dfsanCreateLabel, run_bind, allocLabel_run_fresh fresh, except_ok_bind, setLabelInfo_run,
        run_pure, next]
      exact ⟨_, rfl, rfl⟩
    exact ⟨s', _, .call reach (fun l mem => by simp [Call.labels] at mem) run, last⟩

theorem populate_metadata_wraps_at_full_table (cfg : Config) :
    (∀ s : RuntimeState, dfsanGetLabelCount s ≤ 65533 →
      dfsanGetLabelCount s + 1 < kMaxLabels ∧
        populateMetadata s (dfsanGetLabelCount s + 2) = some ⟨fun q =>
          if 1 ≤ q ∧ q ≤ dfsanGetLabelCount s + 1 then s.table.dfsanLabelInfo q else default, dfsanGetLabelCount s⟩) ∧
      ∃ s sources, Reach cfg s sources ∧ dfsanGetLabelCount s = 65534 ∧ ∀ fuel, populateMetadata s fuel = none := by
  refine ⟨fun s small => ⟨by unfold kMaxLabels; omega, ?_⟩, ?_⟩
  · rw [populateMetadata, populateMetadataLoop_copies _ _ small _ 1 _ (le_refl 1) (by omega) (by omega)]
    rfl
  · obtain ⟨s, sources, reach, full⟩ := reach_label_count cfg 65534 (le_refl _)
    refine ⟨s, sources, reach, full, fun fuel => ?_⟩
    rw [populateMetadata, full, populateMetadataLoop_full _ fuel 1 _ (by decide)]
    rfl

-- `struct BugTarget`; its `loss` is called but the update does not use the result.
structure BugTarget where
  srcId : Nat
  opcode : Nat
  sinkId : Nat

def newtonUpdate (x : Nat) (fX : Int) (fderivXP : FloatVal) : Option Nat :=
  let secondTerm := num (-1) * ceil (fderivXP / ofInt fX)
  let lrate : Int := 2
  (CType.uint8_t.ofFloatChecked (ofInt x - ofInt lrate * secondTerm)).map Int.toNat

def newtonObserve (bt : BugTarget) (md : Metadata) (x : Nat) : Option (Option Nat) :=
  let info := md.localDfsanLabelInfo bt.sinkId
  if info.opcode ≠ bt.opcode then none else some (newtonUpdate x info.fVal info.posDydx)

theorem newtonUpdate_num (x : Nat) (fX : Int) (q : ℚ) :
    newtonUpdate x fX (num q) =
      if fX ≠ 0 ∧ 0 ≤ x + 2 * ⌈q / fX⌉ ∧ x + 2 * ⌈q / fX⌉ ≤ 255 then some (x + 2 * ⌈q / fX⌉).toNat else none := by
  by_cases zero : fX = 0
  · subst zero
    rw [if_neg (by simp)]
    by_cases q0 : q = 0 <;>
    simp [newtonUpdate, q0, HDiv.hDiv, Div.div, div, HMul.hMul, Mul.mul, mul, HSub.hSub, Sub.sub, sub, add, neg,
      ceil, CType.ofFloatChecked, trunc]
  have value : (ofInt x - ofInt 2 * (num (-1) * ceil (num q / ofInt fX)) : FloatVal) =
      num ((x + 2 * ⌈q / fX⌉ : ℤ) : ℚ) := by
    simp only [ofInt_eq]
    rw [div_num _ _ (by exact_mod_cast zero), ceil_num, mul_num, mul_num, sub_num]
    congr 1
    push_cast
    ring
  have range : CType.uint8_t.minVal = 0 ∧ CType.uint8_t.maxVal = 255 := ⟨rfl, rfl⟩
  show (CType.uint8_t.ofFloatChecked (ofInt x - ofInt 2 * (num (-1) * ceil (num q / ofInt fX)))).map Int.toNat = _
  simp only [value, CType.ofFloatChecked, trunc_intCast, range.1, range.2]
  by_cases fits : 0 ≤ x + 2 * ⌈q / fX⌉ ∧ x + 2 * ⌈q / fX⌉ ≤ 255
  · rw [if_pos fits, if_pos ⟨zero, fits⟩]
    rfl
  · rw [if_neg fits, if_neg fun h => fits h.2]
    rfl

theorem newtonObserve_populated (s : RuntimeState) (bt : BugTarget) (small : dfsanGetLabelCount s ≤ 65533)
    (low : 1 ≤ bt.sinkId) (high : bt.sinkId ≤ dfsanGetLabelCount s + 1) (x : Nat) :
    ∃ md, populateMetadata s (dfsanGetLabelCount s + 2) = some md ∧
      newtonObserve bt md x = let info := s.table.dfsanLabelInfo bt.sinkId
        if info.opcode ≠ bt.opcode then none else some (newtonUpdate x info.fVal info.posDydx) := by
  refine ⟨_, by rw [populateMetadata, populateMetadataLoop_copies _ _ small _ 1 _ (le_refl 1) (by omega) (by omega)]; rfl, ?_⟩
  simp only [newtonObserve, if_pos (show 1 ≤ bt.sinkId ∧ bt.sinkId ≤ dfsanGetLabelCount s + 1 from ⟨low, high⟩)]

theorem newtonUpdate_one (x : Nat) {fX : Int} (pos : 0 < fX) :
    newtonUpdate x fX 1 = if x + 2 ≤ 255 then some (x + 2) else none := by
  have ceil : ⌈(1 : ℚ) / fX⌉ = 1 := by
    rw [Int.ceil_eq_iff]
    constructor
    · norm_num
      positivity
    · rw [Int.cast_one, div_le_one (by exact_mod_cast pos : (0 : ℚ) < fX)]
      exact_mod_cast (show 1 ≤ fX by omega)
  rw [show (1 : FloatVal) = num 1 by simp, newtonUpdate_num, ceil]
  by_cases fits : x + 2 ≤ 255
  · rw [if_pos ⟨pos.ne', by omega, by omega⟩, if_pos fits]
    rfl
  · rw [if_neg fun h => fits (by omega), if_neg fits]

theorem newtonUpdate_zero (x : Nat) (q : ℚ) : newtonUpdate x 0 (num q) = none := by
  rw [newtonUpdate_num, if_neg fun h => h.1 rfl]

theorem add_sink (cfg : Config) (noReuse : cfg.flags.reuseLabels = false) (x c : Int) :
    ∃ s, (run cfg [.createLabel (some "x"), .intUnion .int 1 0 x c 0 ADD none]).run flushedState = .ok ([1, 2], s) ∧
      dfsanGetLabelCount s = 2 ∧ (s.table.dfsanLabelInfo 2).opcode = ADD ∧
      (s.table.dfsanLabelInfo 2).fVal = CType.int.conv (CType.int.conv (CType.int.conv x + CType.int.conv c)) ∧
      (s.table.dfsanLabelInfo 2).posDydx = 1 := by
  rw [run_create_flushed]
  simp [step, allocLabel, dfsanCheckLabel, setLabelInfo, Except.map, kNumLabels, kInitializingLabel, intUnion,
    IntWidth.union, dfsanUnion, allZero, divisorRecord, intArgSite, intUnionLabel, intRule, unionLabel, OpCode.ADD,
    CType.promote, noReuse, dfsanGetLabelCount]

theorem newton_update_leaves_byte_range (cfg : Config) (noReuse : cfg.flags.reuseLabels = false) :
    (∃ s, (run cfg [.createLabel (some "x"), .intUnion .int 1 0 254 10 0 ADD none]).run flushedState = .ok ([1, 2], s) ∧
      (s.table.dfsanLabelInfo 2).opcode = ADD ∧ (s.table.dfsanLabelInfo 2).fVal = 264 ∧
      (s.table.dfsanLabelInfo 2).posDydx = 1 ∧
      ∃ md, populateMetadata s 4 = some md ∧ newtonObserve ⟨0, ADD, 2⟩ md 254 = some none) ∧
    ∃ s, (run cfg [.createLabel (some "x"), .intUnion .int 1 0 10 (-10) 0 ADD none]).run flushedState = .ok ([1, 2], s) ∧
      (s.table.dfsanLabelInfo 2).opcode = ADD ∧ (s.table.dfsanLabelInfo 2).fVal = 0 ∧
      (s.table.dfsanLabelInfo 2).posDydx = 1 ∧
      ∃ md, populateMetadata s 4 = some md ∧ newtonObserve ⟨0, ADD, 2⟩ md 10 = some none := by
  obtain ⟨s₁, run₁, count₁, opcode₁, fVal₁, pos₁⟩ := add_sink cfg noReuse 254 10
  obtain ⟨s₂, run₂, count₂, opcode₂, fVal₂, pos₂⟩ := add_sink cfg noReuse 10 (-10)
  replace fVal₁ : (s₁.table.dfsanLabelInfo 2).fVal = 264 := by rw [fVal₁]; rfl
  replace fVal₂ : (s₂.table.dfsanLabelInfo 2).fVal = 0 := by rw [fVal₂]; rfl
  obtain ⟨md₁, populated₁, observe₁⟩ := newtonObserve_populated s₁ ⟨0, ADD, 2⟩ (by omega) (by decide) (by simp [count₁]) 254
  obtain ⟨md₂, populated₂, observe₂⟩ := newtonObserve_populated s₂ ⟨0, ADD, 2⟩ (by omega) (by decide) (by simp [count₂]) 10
  rw [count₁] at populated₁
  rw [count₂] at populated₂
  refine ⟨⟨s₁, run₁, opcode₁, fVal₁, pos₁, md₁, populated₁, ?_⟩, ⟨s₂, run₂, opcode₂, fVal₂, pos₂, md₂, populated₂, ?_⟩⟩
  · simp only [observe₁, opcode₁, fVal₁, pos₁, ne_eq, not_true_eq_false, if_false, newtonUpdate_one 254 (by decide : (0 : Int) < 264)]
    rfl
  · simp only [observe₂, opcode₂, fVal₂, pos₂, ne_eq, not_true_eq_false, if_false]
    rw [show (1 : FloatVal) = num 1 by simp, newtonUpdate_zero]

theorem newton_update_leaves_byte_range_no_reuse :
    let cfg : Config := ⟨⟨false, 1, false, false, false, false⟩, false⟩
    cfg.flags.reuseLabels = false ∧
      (∃ s, (run cfg [.createLabel (some "x"), .intUnion .int 1 0 254 10 0 ADD none]).run flushedState =
          .ok ([1, 2], s) ∧
        (s.table.dfsanLabelInfo 2).opcode = ADD ∧ (s.table.dfsanLabelInfo 2).fVal = 264 ∧
        (s.table.dfsanLabelInfo 2).posDydx = 1 ∧
        ∃ md, populateMetadata s 4 = some md ∧ newtonObserve ⟨0, ADD, 2⟩ md 254 = some none) ∧
      ∃ s, (run cfg [.createLabel (some "x"), .intUnion .int 1 0 10 (-10) 0 ADD none]).run flushedState =
          .ok ([1, 2], s) ∧
        (s.table.dfsanLabelInfo 2).opcode = ADD ∧ (s.table.dfsanLabelInfo 2).fVal = 0 ∧
        (s.table.dfsanLabelInfo 2).posDydx = 1 ∧
        ∃ md, populateMetadata s 4 = some md ∧ newtonObserve ⟨0, ADD, 2⟩ md 10 = some none :=
  ⟨rfl, newton_update_leaves_byte_range _ rfl⟩

end Grsan
