import Grsan.Runtime.Frame

set_option autoImplicit false

namespace Grsan

def dfsanGetLabelCount (s : RuntimeState) : Nat := s.table.dfsanLastLabel

inductive Descends (info : Nat → DfsanLabelInfo) : Nat → Nat → Prop
  | refl (l : Nat) : Descends info l l
  | left {l r : Nat} : (info l).l1 ≠ 0 → Descends info (info l).l1 r → Descends info l r
  | right {l r : Nat} : (info l).l2 ≠ 0 → Descends info (info l).l2 r → Descends info l r

structure TableInv (t : LabelTable) (sources : List Nat) : Prop where
  bounded : t.dfsanLastLabel ≤ 65534
  sources_allocated : ∀ r ∈ sources, 1 ≤ r ∧ r ≤ t.dfsanLastLabel
  zero_l1 : (t.dfsanLabelInfo 0).l1 = 0
  zero_l2 : (t.dfsanLabelInfo 0).l2 = 0
  zero_neg : (t.dfsanLabelInfo 0).negDydx = 0
  zero_pos : (t.dfsanLabelInfo 0).posDydx = 0
  parents_lt : ∀ l, 1 ≤ l → l ≤ t.dfsanLastLabel →
    (t.dfsanLabelInfo l).l1 < l ∧ (t.dfsanLabelInfo l).l2 < l
  unallocated : ∀ l, t.dfsanLastLabel < l → (t.dfsanLabelInfo l).l1 = 0 ∧ (t.dfsanLabelInfo l).l2 = 0
  union_parent : ∀ l, 1 ≤ l → l ≤ t.dfsanLastLabel → l ∉ sources →
    (t.dfsanLabelInfo l).l1 ≠ 0 ∨ (t.dfsanLabelInfo l).l2 ≠ 0

variable {t t' : LabelTable} {sources : List Nat}

theorem tableInv_flushed : TableInv flushedState.table [] where
  bounded := by decide
  sources_allocated := by simp
  zero_l1 := rfl
  zero_l2 := rfl
  zero_neg := rfl
  zero_pos := rfl
  parents_lt := fun l low high => by simp [flushedState] at high; omega
  unallocated := fun _ _ => ⟨rfl, rfl⟩
  union_parent := fun l low high => by simp [flushedState] at high; omega

theorem LabelTable.Allocates.next {e : DfsanLabelInfo} (alloc : t.Allocates t' e)
    (bounded : t.dfsanLastLabel ≤ 65534) :
    t.dfsanLastLabel + 1 ≤ 65534 ∧
      t' = ⟨t.dfsanLastLabel + 1, Function.update t.dfsanLabelInfo (t.dfsanLastLabel + 1) e⟩ := by
  obtain ⟨fresh, rfl⟩ := alloc
  have small : (t.dfsanLastLabel + 1) % kNumLabels = t.dfsanLastLabel + 1 :=
    Nat.mod_eq_of_lt (by unfold kNumLabels; omega)
  rw [small] at fresh ⊢
  exact ⟨by unfold kInitializingLabel at fresh; omega, rfl⟩

theorem tableInv_barriered {lhs rhs : Nat} (inv : TableInv t sources)
    (barrier : t.Barriered t' lhs rhs) : TableInv t' sources := by
  obtain ⟨last, entry, -⟩ := barrier
  have zero := entry 0
  refine ⟨last ▸ inv.bounded, last ▸ inv.sources_allocated, ?_, ?_, ?_, ?_, ?_, ?_, ?_⟩
  · rw [zero.1, inv.zero_l1]
  · rw [zero.2.1, inv.zero_l2]
  · rcases zero.2.2.2.2.1 with same | zeroed
    · rw [same, inv.zero_neg]
    · exact zeroed
  · rcases zero.2.2.2.2.2 with same | zeroed
    · rw [same, inv.zero_pos]
    · exact zeroed
  · intro l low high
    rw [(entry l).1, (entry l).2.1]
    exact inv.parents_lt l low (last ▸ high)
  · intro l high
    rw [(entry l).1, (entry l).2.1]
    exact inv.unallocated l (last ▸ high)
  · intro l low high fresh
    rw [(entry l).1, (entry l).2.1]
    exact inv.union_parent l low (last ▸ high) fresh

theorem tableInv_alloc {e : DfsanLabelInfo} {sources' : List Nat} (inv : TableInv t sources)
    (alloc : t.Allocates t' e) (l1_le : e.l1 ≤ t.dfsanLastLabel) (l2_le : e.l2 ≤ t.dfsanLastLabel)
    (grown : sources' = sources ∨ sources' = (t.dfsanLastLabel + 1) :: sources)
    (origin : sources' = (t.dfsanLastLabel + 1) :: sources ∨ e.l1 ≠ 0 ∨ e.l2 ≠ 0) :
    TableInv t' sources' := by
  obtain ⟨room, rfl⟩ := alloc.next inv.bounded
  have old (l : Nat) (low : l ≤ t.dfsanLastLabel) :
      Function.update t.dfsanLabelInfo (t.dfsanLastLabel + 1) e l = t.dfsanLabelInfo l :=
    Function.update_noteq (by omega) _ _
  have mem (r : Nat) (member : r ∈ sources') : r = t.dfsanLastLabel + 1 ∨ r ∈ sources := by
    rcases grown with rfl | rfl
    · exact .inr member
    · simpa using member
  refine ⟨room, fun r member => ?_, ?_, ?_, ?_, ?_, fun l low high => ?_, fun l high => ?_,
    fun l low high fresh => ?_⟩ <;> dsimp only at *
  · rcases mem r member with rfl | old
    · omega
    · have := inv.sources_allocated r old
      omega
  · rw [old 0 (by omega)]; exact inv.zero_l1
  · rw [old 0 (by omega)]; exact inv.zero_l2
  · rw [old 0 (by omega)]; exact inv.zero_neg
  · rw [old 0 (by omega)]; exact inv.zero_pos
  · by_cases new : l = t.dfsanLastLabel + 1
    · subst new
      simp only [Function.update_same]
      omega
    · rw [old l (by omega)]
      exact inv.parents_lt l low (by omega)
  · rw [Function.update_noteq (by omega)]
    exact inv.unallocated l (by omega)
  · by_cases new : l = t.dfsanLastLabel + 1
    · subst new
      simp only [Function.update_same]
      rcases origin with rfl | nonzero
      · simp at fresh
      · exact nonzero
    · rw [old l (by omega)]
      exact inv.union_parent l low (by omega) fun member => fresh (by
        rcases grown with rfl | rfl
        · exact member
        · exact List.mem_cons_of_mem _ member)

theorem Call.sources_plain {c : Call} {r : Nat} (hc : c.Plain) : c.sources r sources = sources := by
  obtain ⟨notFlush, notCreate⟩ := hc
  cases c <;> simp_all [Call.sources, Call.isCreateLabel]

theorem Call.sources_create {c : Call} {r : Nat} (hc : c.isCreateLabel = true) :
    c.sources r sources = r :: sources := by
  cases c <;> simp_all [Call.sources, Call.isCreateLabel]

section Step

variable {cfg : Config} {c : Call} {s s' : RuntimeState} {r : Nat}

theorem tableInv_step (inv : TableInv s.table sources)
    (bound : ∀ l ∈ c.labels, l ≤ s.table.dfsanLastLabel) (h : (step cfg c).run s = .ok (r, s')) :
    TableInv s'.table (c.sources r sources) := by
  rcases step_table h with ⟨rfl, rfl⟩ | ⟨plain, same⟩ | ⟨plain, -, lhs, rhs, -, barrier⟩ |
    ⟨e, origin, alloc, ret⟩
  · exact tableInv_flushed
  · rw [Call.sources_plain plain, same]
    exact inv
  · rw [Call.sources_plain plain]
    exact tableInv_barriered inv barrier
  · have next := alloc.next inv.bounded
    rcases origin with ⟨create, zero1, zero2⟩ | ⟨labels, nonzero⟩
    · have last : s'.table.dfsanLastLabel = s.table.dfsanLastLabel + 1 := by rw [next.2]
      rw [Call.sources_create create, ret, last]
      exact tableInv_alloc inv alloc (by omega) (by omega) (.inr rfl) (.inl rfl)
    · rw [Call.sources_plain (Call.plain_of_labels labels)]
      rw [labels] at bound
      exact tableInv_alloc inv alloc (bound _ (by simp)) (bound _ (by simp)) (.inl rfl) (.inr nonzero)

theorem count_step (inv : TableInv s.table sources) (h : (step cfg c).run s = .ok (r, s')) :
    c = .flush ∨ dfsanGetLabelCount s' = dfsanGetLabelCount s ∨
      dfsanGetLabelCount s' = dfsanGetLabelCount s + 1 := by
  unfold dfsanGetLabelCount
  rcases step_table h with ⟨rfl, -⟩ | ⟨-, same⟩ | ⟨-, -, _, _, -, barrier⟩ | ⟨e, -, alloc, -⟩
  · exact .inl rfl
  · exact .inr (.inl (by rw [same]))
  · exact .inr (.inl barrier.1)
  · exact .inr (.inr (by rw [(alloc.next inv.bounded).2]))

end Step

theorem tableInv_of_reach {cfg : Config} {s : RuntimeState} (h : Reach cfg s sources) :
    TableInv s.table sources := by
  induction h with
  | flushed => exact tableInv_flushed
  | call _ bound step ih => exact tableInv_step ih bound step

theorem TableInv.descends (inv : TableInv t sources) :
    ∀ l, 1 ≤ l → l ≤ t.dfsanLastLabel → ∃ r ∈ sources, Descends t.dfsanLabelInfo l r := by
  intro l
  induction l using Nat.strong_induction_on with
  | _ l ih =>
    intro low high
    by_cases source : l ∈ sources
    · exact ⟨l, source, .refl l⟩
    have lt := inv.parents_lt l low high
    rcases inv.union_parent l low high source with left | right
    · obtain ⟨r, member, path⟩ := ih _ lt.1 (by omega) (by omega)
      exact ⟨r, member, .left left path⟩
    · obtain ⟨r, member, path⟩ := ih _ lt.2 (by omega) (by omega)
      exact ⟨r, member, .right right path⟩

theorem reach_union_after_create (cfg : Config) :
    ∃ s, (step cfg (.intUnion .int 1 0 5 4 0 OpCode.MUL none)).run (createdState (some "x")) = .ok (2, s) ∧
      Reach cfg s [1] ∧ dfsanGetLabelCount s = 2 ∧ (s.table.dfsanLabelInfo 2).l1 = 1 ∧
      (s.table.dfsanLabelInfo 2).l2 = 0 := by
  have created : Reach cfg (createdState (some "x")) [1] :=
    @Reach.call cfg _ _ (.createLabel (some "x")) 1 _ .flushed (by simp [Call.labels]) rfl
  obtain ⟨s, run, facts⟩ : ∃ s, (step cfg (.intUnion .int 1 0 5 4 0 OpCode.MUL none)).run (createdState (some "x")) =
      .ok (2, s) ∧ dfsanGetLabelCount s = 2 ∧ (s.table.dfsanLabelInfo 2).l1 = 1 ∧ (s.table.dfsanLabelInfo 2).l2 = 0 := by
    simp [step, allocLabel, dfsanCheckLabel, setLabelInfo, Except.map, kNumLabels, kInitializingLabel, intUnion,
      IntWidth.union, dfsanUnion, allZero, divisorRecord, intArgSite, intUnionLabel, intRule, unionLabel, OpCode.MUL,
      CType.conv, CType.int, Int.bmod, operandDx, dfsanGetLabelCount]
  exact ⟨s, run, .call created (by simp [Call.labels]) run, facts⟩

end Grsan
