import Grsan.Pass.Visitor

set_option autoImplicit false

namespace Grsan

open OpCode

def ShadowInst.reads : ShadowInst → List Shadow
  | .union _ l1 l2 .. => [l1, l2]
  | .select _ t f => [t, f]
  | .storeVec _ _ s | .storeSlot _ _ s | .allocaStore _ s | .retval s => [s]
  | .branch _ lhsLabel rhsLabel .. => [lhsLabel, rhsLabel]
  | .setLabel l .. => [l]
  | .memcpy _ _ _ destLabel srcLabel nLabel _ => [destLabel, srcLabel, nLabel]
  | .load _ | .allocaLoad _ | .storeZero .. => []

def DefBeforeUse (code : List ShadowInst) : Prop :=
  ∀ p (lt : p < code.length), ∀ s ∈ (code.get ⟨p, lt⟩).reads, s.Below p

theorem DefBeforeUse.append {code sis : List ShadowInst} (h : DefBeforeUse code)
    (reads : ∀ si ∈ sis, ∀ s ∈ si.reads, s.Below code.length) : DefBeforeUse (code ++ sis) := by
  intro p lt s mem
  simp only [List.get_eq_getElem] at mem
  by_cases old : p < code.length
  · rw [List.getElem_append_left old] at mem
    exact h p old s mem
  · rw [List.getElem_append_right (Nat.le_of_not_lt old)] at mem
    exact Shadow.below_mono (reads _ (List.getElem_mem _) s mem) (Nat.le_of_not_lt old)

theorem storeShadowCode_reads (addr : IRValue) (size : Nat) (s : Shadow) :
    ∀ si ∈ storeShadowCode addr size s, ∀ s' ∈ si.reads, s' = s := fun _ mem => by
  rcases mem_storeShadowCode mem with rfl | ⟨_, rfl⟩ | ⟨_, rfl⟩ <;> simp [ShadowInst.reads]

namespace DFSanFunction

structure WellFormed (st : DFSanFunction) : Prop where
  defined : st.Defined
  code : DefBeforeUse st.code

variable {st : DFSanFunction}

theorem WellFormed.emit (w : st.WellFormed) {si : ShadowInst} (reads : ∀ s ∈ si.reads, s.Below st.code.length) :
    (st.emit si).2.WellFormed :=
  ⟨(appends_emit si).defined w.defined, w.code.append (by simpa using reads)⟩

theorem WellFormed.setShadow (w : st.WellFormed) (i : Nat) {s : Shadow} (below : s.Below st.code.length) :
    (st.setShadow i s).WellFormed := by
  refine ⟨fun j t some => ?_, w.code⟩
  by_cases same : j = i
  · subst same
    simp only [DFSanFunction.setShadow, Function.update_same, Option.some.injEq] at some
    exact some ▸ below
  · exact w.defined j t ((Function.update_noteq same _ _).symm.trans some)

def Result (p : Shadow × DFSanFunction) : Prop := p.2.WellFormed ∧ p.1.Below p.2.code.length

theorem Result.set {p : Shadow × DFSanFunction} (h : Result p) (i : Nat) : (p.2.setShadow i p.1).WellFormed :=
  h.1.setShadow i h.2

theorem combineShadows_result (w : st.WellFormed) {v1 v2 : Shadow} (b1 : v1.Below st.code.length)
    (b2 : v2.Below st.code.length) (opcode : Nat) : Result (st.combineShadows v1 v2 opcode) :=
  ⟨w.emit (by simpa [ShadowInst.reads] using And.intro b1 b2), emit_below _⟩

theorem combineRest_result (opcode : Nat) : ∀ (s : Shadow) (vs : List IRValue) (st : DFSanFunction),
    st.WellFormed → s.Below st.code.length → Result (combineRest opcode s vs st)
  | _, [], _, w, below => ⟨w, below⟩
  | _, v :: vs, _, w, below =>
    have first := combineShadows_result w below (w.defined.getShadow v) opcode
    combineRest_result opcode _ vs _ first.1 first.2

theorem combineOperandShadows_result (w : st.WellFormed) (opcode : Nat) :
    ∀ vs : List IRValue, Result (st.combineOperandShadows opcode vs)
  | [] => ⟨w, trivial⟩
  | v :: vs => combineRest_result opcode _ vs st w (w.defined.getShadow v)

theorem loadShadow_result (w : st.WellFormed) (addr : IRValue) (size : Nat) : Result (st.loadShadow addr size) := by
  obtain ⟨seg, app, -, below⟩ := @loadShadow_appends st addr size
  refine ⟨⟨app.defined w.defined, ?_⟩, below⟩
  unfold loadShadow
  split
  · exact (w.emit (by simp [ShadowInst.reads])).code
  · split
    · exact w.code
    · split
      · exact w.code
      · exact (w.emit (by simp [ShadowInst.reads])).code

theorem WellFormed.storeShadow (w : st.WellFormed) (addr : IRValue) (size : Nat) {s : Shadow}
    (below : s.Below st.code.length) : (st.storeShadow addr size s).WellFormed := by
  unfold DFSanFunction.storeShadow
  split
  · exact w.emit (by simpa [ShadowInst.reads] using below)
  · refine ⟨(⟨rfl, rfl, rfl, rfl⟩ : Appends st (st.emitAll (storeShadowCode addr size s)) (storeShadowCode addr size s)).defined w.defined,
      w.code.append fun si mem s' read => ?_⟩
    rw [storeShadowCode_reads addr size s si mem s' read]
    exact below

theorem WellFormed.visit (w : st.WellFormed) (opts : PassOptions) (i : Nat) (inst : Inst) :
    (st.visit opts i inst).WellFormed := by
  have get := w.defined.getShadow
  cases inst with
  | binaryOperator opcode x1 x2 t1 t2 loc =>
    exact Result.set (p := st.emit _) ⟨w.emit (by simpa [ShadowInst.reads] using And.intro (get x1) (get x2)),
      emit_below _⟩ i
  | cmp opcode _ lhs rhs => exact (combineOperandShadows_result w opcode [lhs, rhs]).set i
  | operandShadow opcode ops => exact (combineOperandShadows_result w opcode ops).set i
  | load addr size =>
    simp only [DFSanFunction.visit, visitLoadInst]
    split
    · exact w.setShadow i trivial
    · exact (loadShadow_result w addr size).set i
  | store val addr size =>
    simp only [DFSanFunction.visit, visitStoreInst]
    split
    · exact w
    · split
      · have combined := combineShadows_result w (get val) (get addr) STORE
        exact combined.1.storeShadow addr size combined.2
      · exact w.storeShadow addr size (get val)
  | alloca =>
    simp only [DFSanFunction.visit, visitAllocaInst_eq]
    exact ⟨(w.setShadow i (s := .zero) trivial).defined, w.code⟩
  | select vectorCond cond t f =>
    simp only [DFSanFunction.visit, visitSelectInst]
    split
    · have inner := combineShadows_result w (get t) (get f) SELECT
      exact (combineShadows_result inner.1 (Shadow.below_mono (get cond) (appends_emit _).length_le) inner.2
        SELECT).set i
    · split
      · exact (combineShadows_result w (get cond) (get t) SELECT).set i
      · have chosen := @WellFormed.emit st w (.select cond (st.getShadow t) (st.getShadow f))
          (by simpa [ShadowInst.reads] using And.intro (get t) (get f))
        exact (combineShadows_result chosen (Shadow.below_mono (get cond) (appends_emit _).length_le)
          (emit_below _) SELECT).set i
  | br cond loc =>
    simp only [DFSanFunction.visit, visitBranchInst]
    split
    · split
      · unfold recordBranchInst
        split
        · exact w
        · dsimp only
          refine @WellFormed.emit { st with branchId := (st.branchId + 1) % 2 ^ 64 } ⟨w.defined, w.code⟩ _ ?_
          simpa [ShadowInst.reads] using And.intro (get _) (get _)
      · exact w
    · exact w
  | memSet dest val len => exact w.emit (by simpa [ShadowInst.reads] using get val)
  | memTransfer dest src len loc =>
    exact w.emit (by simpa [ShadowInst.reads] using And.intro (get src) (And.intro (get dest) (get len)))
  | ret v =>
    simp only [DFSanFunction.visit, visitReturnInst]
    split
    · split
      · exact w
      · exact w.emit (by simpa [ShadowInst.reads] using get _)
    · exact w
  | other => exact w

end DFSanFunction

theorem visitAll_wellFormed (opts : PassOptions) :
    ∀ (i : Nat) (body : List Inst) (st : DFSanFunction), st.WellFormed → (visitAll opts i body st).WellFormed
  | _, [], _, w => w
  | i, inst :: body, _, w => visitAll_wellFormed opts (i + 1) body _ (w.visit opts i inst)

theorem instrumented_code_defines_before_use (F : IRFunction) (opts : PassOptions) (branchId : Nat) :
    DefBeforeUse (instrument F opts branchId).code :=
  (visitAll_wellFormed opts 0 F.body _ ⟨fun _ _ none => (by cases none), fun _ lt => absurd lt (Nat.not_lt_zero _)⟩).code

end Grsan
