import Grsan.Runtime.Invariant

set_option autoImplicit false

namespace Grsan

def dfsanHasLabel (info : Nat → DfsanLabelInfo) : Nat → Nat → Nat → Option Bool
  | 0, _, _ => none
  | fuel + 1, label, elem =>
    if label = elem then some true
    else if (info label).l1 ≠ 0 then
      match dfsanHasLabel info fuel (info label).l1 elem with
      | some true => some true
      | some false => dfsanHasLabel info fuel (info label).l2 elem
      | none => none
    else some false

inductive HasLabelPath (info : Nat → DfsanLabelInfo) : Nat → Nat → Prop
  | refl (l : Nat) : HasLabelPath info l l
  | left {l r : Nat} : (info l).l1 ≠ 0 → HasLabelPath info (info l).l1 r → HasLabelPath info l r
  | right {l r : Nat} : (info l).l1 ≠ 0 → HasLabelPath info (info l).l2 r → HasLabelPath info l r

section Decides

variable {info : Nat → DfsanLabelInfo}

theorem hasLabelPath_iff {l r : Nat} : HasLabelPath info l r ↔
    l = r ∨ (info l).l1 ≠ 0 ∧ (HasLabelPath info (info l).l1 r ∨ HasLabelPath info (info l).l2 r) := by
  constructor
  · rintro (_ | ⟨nonzero, h⟩ | ⟨nonzero, h⟩)
    · exact .inl rfl
    · exact .inr ⟨nonzero, .inl h⟩
    · exact .inr ⟨nonzero, .inr h⟩
  · rintro (rfl | ⟨nonzero, h | h⟩)
    · exact .refl l
    · exact .left nonzero h
    · exact .right nonzero h

variable {t : LabelTable} {sources : List Nat}

theorem hasLabelPath_zero (inv : TableInv t sources) {r : Nat} (h : HasLabelPath t.dfsanLabelInfo 0 r) :
    r = 0 := by
  cases h with
  | refl => rfl
  | left nonzero => exact absurd inv.zero_l1 nonzero
  | right nonzero => exact absurd inv.zero_l1 nonzero

theorem dfsanHasLabel_decides (inv : TableInv t sources) (elem : Nat) :
    ∀ label fuel, label < fuel → ∃ b, dfsanHasLabel t.dfsanLabelInfo fuel label elem = some b ∧
      (b = true ↔ HasLabelPath t.dfsanLabelInfo label elem) := by
  intro label
  induction label using Nat.strong_induction_on with
  | _ label ih =>
    intro fuel enough
    obtain ⟨fuel, rfl⟩ : ∃ f, fuel = f + 1 := ⟨fuel - 1, by omega⟩
    rw [hasLabelPath_iff]
    unfold dfsanHasLabel
    by_cases same : label = elem
    · simp [same]
    rw [if_neg same]
    by_cases first : (t.dfsanLabelInfo label).l1 = 0
    · simp [first, same]
    rw [if_pos first]
    have allocated : 1 ≤ label ∧ label ≤ t.dfsanLastLabel := by
      refine ⟨Nat.pos_of_ne_zero fun zero => first (zero ▸ inv.zero_l1), ?_⟩
      by_contra beyond
      exact first (inv.unallocated label (by omega)).1
    have lt := inv.parents_lt label allocated.1 allocated.2
    obtain ⟨b1, left, iff1⟩ := ih _ lt.1 fuel (by omega)
    obtain ⟨b2, right, iff2⟩ := ih _ lt.2 fuel (by omega)
    refine ⟨b1 || b2, ?_, ?_⟩
    · rw [left]
      cases b1 <;> simp [right]
    · simp [same, first, ← iff1, ← iff2]

theorem HasLabelPath.descends (inv : TableInv t sources) {l r : Nat} (nonzero : r ≠ 0)
    (h : HasLabelPath t.dfsanLabelInfo l r) : Descends t.dfsanLabelInfo l r := by
  induction h with
  | refl l => exact .refl l
  | left first _ ih => exact .left first (ih nonzero)
  | @right l r _ path ih =>
    by_cases second : (t.dfsanLabelInfo l).l2 = 0
    · rw [second] at path
      exact absurd (hasLabelPath_zero inv path) nonzero
    · exact .right second (ih nonzero)

end Decides

def dfsanHasLabelWithDesc (info : Nat → DfsanLabelInfo) (desc : String) : Nat → Nat → Option (Except String Bool)
  | 0, _ => none
  | fuel + 1, label =>
    if (info label).l1 ≠ 0 then
      match dfsanHasLabelWithDesc info desc fuel (info label).l1 with
      | some (.ok false) => dfsanHasLabelWithDesc info desc fuel (info label).l2
      | r => r
    else match (info label).loc with
      | some loc => some (.ok (desc == loc))
      | none => some (.error "SIGSEGV")

section WithDesc

variable {info : Nat → DfsanLabelInfo} {desc : String}

theorem dfsanHasLabelWithDesc_sound : ∀ {fuel label : Nat},
    dfsanHasLabelWithDesc info desc fuel label = some (.ok true) →
      ∃ m, HasLabelPath info label m ∧ (info m).l1 = 0 ∧ (info m).loc = some desc
  | 0, _, h => by cases h
  | fuel + 1, label, h => by
    unfold dfsanHasLabelWithDesc at h
    split at h
    · rename_i first
      split at h
      · obtain ⟨m, path, leaf⟩ := dfsanHasLabelWithDesc_sound h
        exact ⟨m, .right first path, leaf⟩
      · obtain ⟨m, path, leaf⟩ := dfsanHasLabelWithDesc_sound h
        exact ⟨m, .left first path, leaf⟩
    · rename_i leaf
      split at h
      · have same : desc = ‹String› := by simpa using h
        exact ⟨label, .refl label, not_not.mp leaf, same ▸ ‹_›⟩
      · cases h

variable {t : LabelTable} {sources : List Nat}

theorem dfsanHasLabelWithDesc_total (inv : TableInv t sources) (desc : String) :
    ∀ label fuel, label < fuel → (dfsanHasLabelWithDesc t.dfsanLabelInfo desc fuel label).isSome := by
  intro label
  induction label using Nat.strong_induction_on with
  | _ label ih =>
    intro fuel enough
    obtain ⟨fuel, rfl⟩ : ∃ f, fuel = f + 1 := ⟨fuel - 1, by omega⟩
    unfold dfsanHasLabelWithDesc
    by_cases first : (t.dfsanLabelInfo label).l1 = 0
    · rw [if_neg (not_not.mpr first)]
      split <;> rfl
    rw [if_pos first]
    have allocated : 1 ≤ label ∧ label ≤ t.dfsanLastLabel := by
      refine ⟨Nat.pos_of_ne_zero fun zero => first (zero ▸ inv.zero_l1), ?_⟩
      by_contra beyond
      exact first (inv.unallocated label (by omega)).1
    have lt := inv.parents_lt label allocated.1 allocated.2
    obtain ⟨r, left⟩ := Option.isSome_iff_exists.mp (ih _ lt.1 fuel (by omega))
    rw [left]
    split
    · exact ih _ lt.2 fuel (by omega)
    · rfl

end WithDesc

theorem has_label_with_desc_finds_leaf_loc {cfg : Config} {s : RuntimeState} {sources : List Nat}
    (reach : Reach cfg s sources) (label : Nat) (desc : String) :
    ∃ r, dfsanHasLabelWithDesc s.table.dfsanLabelInfo desc (label + 1) label = some r ∧
      (r = .ok true → ∃ m, HasLabelPath s.table.dfsanLabelInfo label m ∧
        (s.table.dfsanLabelInfo m).l1 = 0 ∧ (s.table.dfsanLabelInfo m).loc = some desc) := by
  obtain ⟨r, result⟩ := Option.isSome_iff_exists.mp
    (dfsanHasLabelWithDesc_total (tableInv_of_reach reach) desc label (label + 1) (Nat.lt_succ_self _))
  exact ⟨r, result, fun yes => dfsanHasLabelWithDesc_sound (yes ▸ result)⟩

theorem has_label_with_desc_finds_leaf_loc_after_union :
    let cfg : Config := ⟨⟨false, 1, false, false, false, false⟩, false⟩
    ∃ s, (step cfg (.intUnion .int 1 0 5 4 0 OpCode.MUL none)).run (createdState (some "x")) = .ok (2, s) ∧
      Reach cfg s [1] ∧ (s.table.dfsanLabelInfo 2).l1 = 1 ∧
      ∃ r, dfsanHasLabelWithDesc s.table.dfsanLabelInfo "x" (2 + 1) 2 = some r ∧
        (r = .ok true → ∃ m, HasLabelPath s.table.dfsanLabelInfo 2 m ∧
          (s.table.dfsanLabelInfo m).l1 = 0 ∧ (s.table.dfsanLabelInfo m).loc = some "x") := by
  intro cfg
  obtain ⟨s, run, reach, -, parent, -⟩ := reach_union_after_create cfg
  exact ⟨s, run, reach, parent, has_label_with_desc_finds_leaf_loc reach 2 "x"⟩

theorem has_label_follows_guarded_links {cfg : Config} {s : RuntimeState} {sources : List Nat}
    (reach : Reach cfg s sources) (label elem : Nat) :
    ∃ b, dfsanHasLabel s.table.dfsanLabelInfo (label + 1) label elem = some b ∧
      (b = true ↔ HasLabelPath s.table.dfsanLabelInfo label elem) ∧
      (elem ≠ 0 → b = true → Descends s.table.dfsanLabelInfo label elem) := by
  have inv := tableInv_of_reach reach
  obtain ⟨b, run, iff⟩ := dfsanHasLabel_decides inv elem label (label + 1) (Nat.lt_succ_self _)
  exact ⟨b, run, iff, fun nonzero yes => (iff.mp yes).descends inv nonzero⟩

theorem has_label_follows_guarded_links_after_union :
    let cfg : Config := ⟨⟨false, 1, false, false, false, false⟩, false⟩
    ∃ s, (step cfg (.intUnion .int 1 0 5 4 0 OpCode.MUL none)).run (createdState (some "x")) = .ok (2, s) ∧
      Reach cfg s [1] ∧ (s.table.dfsanLabelInfo 2).l1 = 1 ∧
      ∃ b, dfsanHasLabel s.table.dfsanLabelInfo (2 + 1) 2 1 = some b ∧
        (b = true ↔ HasLabelPath s.table.dfsanLabelInfo 2 1) ∧
        (1 ≠ 0 → b = true → Descends s.table.dfsanLabelInfo 2 1) := by
  intro cfg
  obtain ⟨s, run, reach, -, parent, -⟩ := reach_union_after_create cfg
  exact ⟨s, run, reach, parent, has_label_follows_guarded_links reach 2 1⟩

theorem has_label_misses_second_parent (cfg : Config) (x : Int) (fuel : Nat) :
    match (run cfg [.createLabel (some "x"), .intUnion .int 0 1 4 x 0 OpCode.MUL none]).run
        flushedState with
    | .ok (rs, s) => rs = [1, 2] ∧ Descends s.table.dfsanLabelInfo 2 1 ∧
        dfsanHasLabel s.table.dfsanLabelInfo (fuel + 1) 2 1 = some false
    | .error _ => False := by
  have product : match (run cfg [.createLabel (some "x"), .intUnion .int 0 1 4 x 0 OpCode.MUL none]).run
      flushedState with
    | .ok (rs, s) => rs = [1, 2] ∧ (s.table.dfsanLabelInfo 2).l1 = 0 ∧ (s.table.dfsanLabelInfo 2).l2 = 1
    | .error _ => False := by
    rw [run_create_flushed]
    simp [step, allocLabel, dfsanCheckLabel, setLabelInfo, Except.map, kNumLabels, kInitializingLabel, intUnion,
      IntWidth.union, dfsanUnion, allZero, divisorRecord, intArgSite, intUnionLabel, intRule, unionLabel, OpCode.MUL,
      CType.conv, CType.int, Int.bmod]
  revert product
  generalize (run cfg _).run flushedState = result
  rcases result with _ | ⟨rs, s⟩
  · exact id
  · rintro ⟨rfl, first, second⟩
    refine ⟨rfl, .right (by omega) (by rw [second]; exact .refl 1), ?_⟩
    simp [dfsanHasLabel, first]

theorem has_label_with_desc_reads_null_loc (cfg : Config) (x : Int) (fuel : Nat) :
    ∃ s, (run cfg [.createLabel (some "x"), .intUnion .int 1 0 x 4 0 OpCode.MUL none,
        .intUnion .int 0 1 4 x 0 OpCode.MUL (some "z.c:3")]).run flushedState = .ok ([1, 2, 3], s) ∧
      dfsanHasLabelWithDesc s.table.dfsanLabelInfo "y" (fuel + 2) 2 = some (.error "SIGSEGV") ∧
      (s.table.dfsanLabelInfo 1).loc = some "x" ∧ Descends s.table.dfsanLabelInfo 3 1 ∧
      dfsanHasLabelWithDesc s.table.dfsanLabelInfo "x" (fuel + 1) 3 = some (.ok false) := by
  have create : (step cfg (.createLabel (some "x"))).run flushedState = .ok (1, createdState (some "x")) := rfl
  have zero : (default : DfsanLabelInfo) = ⟨0, 0, none, 0, 0, 0, 0⟩ := rfl
  have four : CType.int.conv 4 = 4 := rfl
  simp only [run, run_bind, create, except_ok_bind]
  simp [step, allocLabel, dfsanCheckLabel, setLabelInfo, Except.map, kNumLabels, kInitializingLabel, intUnion,
    IntWidth.union, dfsanUnion, allZero, divisorRecord, intArgSite, intUnionLabel, intRule, unionLabel, OpCode.MUL,
    four, operandDx, dfsanHasLabelWithDesc, createdState, flushedState, Function.update_apply, zero]
  exact .right (by simp [Function.update_apply]) (.refl 1)

end Grsan
