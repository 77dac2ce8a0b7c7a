import Grsan.Pass.Memory

set_option autoImplicit false

namespace Grsan

open OpCode

def Inst.writesMemory : Inst → Bool
  | .store .. | .memSet .. | .memTransfer .. => true
  | _ => false

def Inst.hasResult : Inst → Bool
  | .binaryOperator .. | .cmp .. | .operandShadow .. | .load .. | .alloca | .select .. => true
  | _ => false

def Inst.combinesLabels : Inst → Bool
  | .binaryOperator .. | .cmp .. | .operandShadow .. | .select .. | .store .. => true
  | _ => false

def ShadowInst.isUnion : ShadowInst → Bool
  | .union .. => true
  | _ => false

namespace DFSanFunction

structure Appends (st st' : DFSanFunction) (seg : List ShadowInst) : Prop where
  F : st'.F = st.F
  vals : st'.valShadowMap = st.valShadowMap
  allocas : st'.allocaShadowMap = st.allocaShadowMap
  code : st'.code = st.code ++ seg

def Defined (st : DFSanFunction) : Prop := ∀ j s, st.valShadowMap j = some s → s.Below st.code.length

variable {st st₁ st₂ : DFSanFunction} {a b : List ShadowInst}

theorem Appends.refl (st : DFSanFunction) : Appends st st [] := ⟨rfl, rfl, rfl, (List.append_nil _).symm⟩

theorem Appends.trans (h₁ : Appends st st₁ a) (h₂ : Appends st₁ st₂ b) : Appends st st₂ (a ++ b) :=
  ⟨h₂.F.trans h₁.F, h₂.vals.trans h₁.vals, h₂.allocas.trans h₁.allocas, by rw [h₂.code, h₁.code, List.append_assoc]⟩

theorem Appends.getShadow (h : Appends st st₁ a) (v : IRValue) : st₁.getShadow v = st.getShadow v := by
  cases v <;> simp only [DFSanFunction.getShadow, h.F, h.vals]

theorem Appends.length_le (h : Appends st st₁ a) : st.code.length ≤ st₁.code.length := by
  rw [h.code, List.length_append]
  omega

theorem Appends.defined (h : Appends st st₁ a) (d : st.Defined) : st₁.Defined := fun j s some =>
  Shadow.below_mono (d j s (h.vals ▸ some)) h.length_le

theorem appends_emit (si : ShadowInst) : Appends st (st.emit si).2 [si] := ⟨rfl, rfl, rfl, rfl⟩

theorem emit_below (si : ShadowInst) : (st.emit si).1.Below (st.emit si).2.code.length := by
  simp [emit, Shadow.Below]

theorem Defined.getShadow (d : st.Defined) (v : IRValue) : (st.getShadow v).Below st.code.length := by
  cases v with
  | arg i => by_cases native : st.F.nativeABI <;> simp [DFSanFunction.getShadow, native, Shadow.Below]
  | inst j =>
    cases h : st.valShadowMap j with
    | none => simp [DFSanFunction.getShadow, h, Shadow.Below]
    | some s => simpa [DFSanFunction.getShadow, h] using d j s h
  | _ => trivial

theorem combineRest_appends (opcode : Nat) : ∀ (vs : List IRValue) (s : Shadow) (st : DFSanFunction),
    ∃ seg, Appends st (combineRest opcode s vs st).2 seg ∧ (∀ si ∈ seg, si.writes = false) ∧
      (s.Below st.code.length → (combineRest opcode s vs st).1.Below (combineRest opcode s vs st).2.code.length)
  | [], s, st => ⟨[], Appends.refl st, by simp, id⟩
  | v :: vs, s, st => by
    obtain ⟨seg, app, pure, below⟩ := combineRest_appends opcode vs _ (st.combineShadows s (st.getShadow v) opcode).2
    refine ⟨_ :: seg, (appends_emit _).trans app, ?_, fun _ => below (emit_below _)⟩
    rintro si (_ | ⟨_, mem⟩)
    · rfl
    · exact pure si mem

theorem combineOperandShadows_appends (opcode : Nat) (vs : List IRValue) :
    ∃ seg, Appends st (st.combineOperandShadows opcode vs).2 seg ∧ (∀ si ∈ seg, si.writes = false) ∧
      (st.Defined → (st.combineOperandShadows opcode vs).1.Below (st.combineOperandShadows opcode vs).2.code.length) := by
  cases vs with
  | nil => exact ⟨[], Appends.refl st, by simp, fun _ => trivial⟩
  | cons v vs =>
    obtain ⟨seg, app, pure, below⟩ := combineRest_appends opcode vs (st.getShadow v) st
    exact ⟨seg, app, pure, fun d => below (d.getShadow v)⟩

theorem loadShadow_appends (addr : IRValue) (size : Nat) :
    ∃ seg, Appends st (st.loadShadow addr size).2 seg ∧ (∀ si ∈ seg, si.writes = false ∧ si.isUnion = false) ∧
      (st.loadShadow addr size).1.Below (st.loadShadow addr size).2.code.length := by
  unfold loadShadow
  split
  · exact ⟨_, appends_emit _, by simp [ShadowInst.writes, ShadowInst.isUnion], emit_below _⟩
  · split
    · exact ⟨[], Appends.refl st, by simp, trivial⟩
    · split
      · exact ⟨[], Appends.refl st, by simp, trivial⟩
      · exact ⟨_, appends_emit _, by simp [ShadowInst.writes, ShadowInst.isUnion], emit_below _⟩

theorem storeShadow_appends (addr : IRValue) (size : Nat) (s : Shadow) :
    ∃ seg, Appends st (st.storeShadow addr size s) seg := by
  unfold storeShadow
  split
  · exact ⟨_, appends_emit _⟩
  · exact ⟨_, rfl, rfl, rfl, rfl⟩

structure VisitStep (i : Nat) (inst : Inst) (st st' : DFSanFunction) : Prop where
  F : st'.F = st.F
  vals : ∀ j ≠ i, st'.valShadowMap j = st.valShadowMap j
  own : inst.hasResult = false → st'.valShadowMap i = st.valShadowMap i
  allocas : st'.allocaShadowMap = if inst = .alloca ∧ allLoadsStores st.F.body i = true then
    Function.update st.allocaShadowMap i (some i) else st.allocaShadowMap
  defined : st.Defined → st'.Defined
  code : ∃ seg, st'.code = st.code ++ seg ∧ (inst.writesMemory = false → ∀ si ∈ seg, si.writes = false) ∧
    (inst.combinesLabels = false → ∀ si ∈ seg, si.isUnion = false)

variable {i : Nat} {inst : Inst}

theorem Appends.visitStep (h : Appends st st₁ a) (notAlloca : inst ≠ .alloca)
    (pure : inst.writesMemory = false → ∀ si ∈ a, si.writes = false)
    (plain : inst.combinesLabels = false → ∀ si ∈ a, si.isUnion = false) : VisitStep i inst st st₁ :=
  ⟨h.F, fun _ _ => congrFun h.vals _, fun _ => congrFun h.vals _, by rw [if_neg (fun h => notAlloca h.1), h.allocas],
    h.defined, a, h.code, pure, plain⟩

theorem Appends.visitStep_setShadow {s : Shadow} (h : Appends st st₁ a) (notAlloca : inst ≠ .alloca)
    (result : inst.hasResult = true) (pure : inst.writesMemory = false → ∀ si ∈ a, si.writes = false)
    (plain : inst.combinesLabels = false → ∀ si ∈ a, si.isUnion = false) (below : st.Defined → s.Below st₁.code.length) :
    VisitStep i inst st (st₁.setShadow i s) := by
  refine ⟨h.F, fun j ne => ?_, fun no => (nomatch result.symm.trans no), by rw [if_neg (fun h => notAlloca h.1), ← h.allocas]; rfl,
    fun d j t some => ?_, a, h.code, pure, plain⟩
  · exact (Function.update_noteq ne _ _).trans (congrFun h.vals j)
  · by_cases same : j = i
    · subst same
      simp only [setShadow, Function.update_same, Option.some.injEq] at some
      exact some ▸ below d
    · exact h.defined d j t ((Function.update_noteq same _ _).symm.trans some)

theorem visitStep_operandShadow (opcode : Nat) (ops : List IRValue) (notAlloca : inst ≠ .alloca)
    (result : inst.hasResult = true) (combines : inst.combinesLabels = true) :
    VisitStep i inst st (st.visitOperandShadowInst i opcode ops) := by
  obtain ⟨seg, app, pure, below⟩ := @combineOperandShadows_appends st opcode ops
  exact app.visitStep_setShadow notAlloca result (fun _ => pure) (fun no => nomatch combines.symm.trans no) below

theorem combineShadows_appends (v1 v2 : Shadow) (opcode : Nat) :
    Appends st (st.combineShadows v1 v2 opcode).2 [.union (.int .int) v1 v2 (.intConst 0) (.intConst 0) opcode "UNKNOWN"] :=
  appends_emit _

theorem Appends.ofBranchId {n : Nat} (h : Appends { st with branchId := n } st₁ a) : Appends st st₁ a :=
  ⟨h.F, h.vals, h.allocas, h.code⟩

theorem visitAllocaInst_eq : st.visitAllocaInst i = { st with
    valShadowMap := Function.update st.valShadowMap i (some .zero),
    allocaShadowMap := if allLoadsStores st.F.body i = true then Function.update st.allocaShadowMap i (some i)
      else st.allocaShadowMap } := by
  unfold visitAllocaInst setShadow
  split <;> rfl

theorem visit_step (opts : PassOptions) (i : Nat) (inst : Inst) (st : DFSanFunction) :
    VisitStep i inst st (st.visit opts i inst) := by
  have pure {si : ShadowInst} (h : si.writes = false) : ∀ x ∈ [si], x.writes = false := by simpa using h
  have plain {si : ShadowInst} (h : si.isUnion = false) : ∀ x ∈ [si], x.isUnion = false := by simpa using h
  have none : (∀ x ∈ ([] : List ShadowInst), x.writes = false) ∧ ∀ x ∈ ([] : List ShadowInst), x.isUnion = false := by
    simp
  cases inst with
  | binaryOperator opcode x1 x2 t1 t2 loc =>
    exact (appends_emit _).visitStep_setShadow nofun rfl (fun _ => pure rfl) nofun (fun _ => emit_below _)
  | cmp opcode pred lhs rhs t => exact visitStep_operandShadow opcode [lhs, rhs] nofun rfl rfl
  | operandShadow opcode ops => exact visitStep_operandShadow opcode ops nofun rfl rfl
  | load addr size =>
    simp only [visit, visitLoadInst]
    split
    · exact (Appends.refl st).visitStep_setShadow nofun rfl (fun _ => none.1) (fun _ => none.2) (fun _ => trivial)
    · obtain ⟨seg, app, pure, below⟩ := @loadShadow_appends st addr size
      exact app.visitStep_setShadow nofun rfl (fun _ si mem => (pure si mem).1) (fun _ si mem => (pure si mem).2)
        (fun _ => below)
  | store val addr size =>
    simp only [visit, visitStoreInst]
    split
    · exact (Appends.refl st).visitStep nofun nofun nofun
    · by_cases combine : opts.combinePointerLabelsOnStore
      · rw [if_pos combine]
        obtain ⟨seg, app⟩ := @storeShadow_appends (st.combineShadows (st.getShadow val) (st.getShadow addr) STORE).2
          addr size (st.combineShadows (st.getShadow val) (st.getShadow addr) STORE).1
        exact ((combineShadows_appends _ _ _).trans app).visitStep nofun nofun nofun
      · rw [if_neg combine]
        obtain ⟨seg, app⟩ := @storeShadow_appends st addr size (st.getShadow val)
        exact app.visitStep nofun nofun nofun
  | alloca =>
    simp only [visit, visitAllocaInst_eq]
    refine ⟨rfl, fun j ne => Function.update_noteq ne _ _, nofun, by simp, fun d j s some => ?_, [], by simp, fun _ => none.1,
      fun _ => none.2⟩
    by_cases same : j = i
    · subst same
      simp only [Function.update_same, Option.some.injEq] at some
      exact some ▸ trivial
    · exact d j s ((Function.update_noteq same _ _).symm.trans some)
  | select vectorCond cond t f =>
    simp only [visit, visitSelectInst]
    split
    · exact ((combineShadows_appends _ _ _).trans (combineShadows_appends _ _ _)).visitStep_setShadow nofun rfl
        (fun _ => by simp [ShadowInst.writes]) nofun (fun _ => emit_below _)
    · by_cases same : st.getShadow t = st.getShadow f
      · rw [if_pos same]
        exact (combineShadows_appends _ _ _).visitStep_setShadow nofun rfl (fun _ => pure rfl) nofun
          (fun _ => emit_below _)
      · rw [if_neg same]
        exact ((appends_emit _).trans (combineShadows_appends _ _ _)).visitStep_setShadow nofun rfl
          (fun _ => by simp [ShadowInst.writes]) nofun (fun _ => emit_below _)
  | br cond loc =>
    simp only [visit, visitBranchInst]
    split
    · split
      · unfold recordBranchInst
        split
        · exact (Appends.refl st).visitStep nofun (fun _ => none.1) (fun _ => none.2)
        · exact (Appends.ofBranchId (appends_emit _)).visitStep nofun (fun _ => pure rfl)
            (fun _ => plain rfl)
      · exact (Appends.refl st).visitStep nofun (fun _ => none.1) (fun _ => none.2)
    · exact (Appends.refl st).visitStep nofun (fun _ => none.1) (fun _ => none.2)
  | memSet dest val len => exact (appends_emit _).visitStep nofun nofun (fun _ => plain rfl)
  | memTransfer dest src len loc => exact (appends_emit _).visitStep nofun nofun (fun _ => plain rfl)
  | ret v =>
    simp only [visit, visitReturnInst]
    split
    · split
      · exact (Appends.refl st).visitStep nofun (fun _ => none.1) (fun _ => none.2)
      · exact (appends_emit _).visitStep nofun (fun _ => pure rfl) (fun _ => plain rfl)
    · exact (Appends.refl st).visitStep nofun (fun _ => none.1) (fun _ => none.2)
  | other => exact (Appends.refl st).visitStep nofun (fun _ => none.1) (fun _ => none.2)

end DFSanFunction

end Grsan
