import Grsan.Pass.Visitor

set_option autoImplicit false

namespace Grsan

def IRFunction.allocaCell (F : IRFunction) : IRValue → Option Nat
  | .inst a => if F.body[a]? = some .alloca ∧ allLoadsStores F.body a = true then some a else none
  | _ => none

def IRValue.Before (k : Nat) : IRValue → Prop
  | .inst j => j < k
  | _ => True

instance (k : Nat) : DecidablePred (IRValue.Before k)
  | .inst j => inferInstanceAs (Decidable (j < k))
  | .arg _ | .intConst _ | .floatConst _ => isTrue trivial

def IRFunction.SSA (F : IRFunction) : Prop :=
  ∀ k : Fin F.body.length, ∀ v ∈ (F.body.get k).operands, v.Before k

instance (F : IRFunction) : Decidable F.SSA := inferInstanceAs (Decidable (∀ _, _))

def AppRange (a n : Nat) : Prop := 0x700000008000 ≤ a ∧ a + n ≤ 0x800000000000

instance (a n : Nat) : Decidable (AppRange a n) := inferInstanceAs (Decidable (_ ∧ _))

-- The bytes an instruction reaches through shadow memory are application addresses, where
-- `shadow_for` gives each byte a slot of its own; a `memcpy` or `memmove` copies between
-- disjoint ranges, where the order of the copy does not matter.
def Inst.InApp (F : IRFunction) (fr : Frame) : Inst → Prop
  | .load addr size => F.allocaCell addr = none → F.constantObjects addr = false → 0 < size → AppAddr (fr.ptr addr)
  | .store _ addr size => F.allocaCell addr = none → AppRange (fr.ptr addr) size
  | .memSet dest _ len => AppRange (fr.ptr dest) (fr.ptr len)
  | .memTransfer dest src len _ => AppRange (fr.ptr dest) (fr.ptr len) ∧ AppRange (fr.ptr src) (fr.ptr len) ∧
      (fr.ptr dest + fr.ptr len ≤ fr.ptr src ∨ fr.ptr src + fr.ptr len ≤ fr.ptr dest)
  | _ => True

instance (F : IRFunction) (fr : Frame) : DecidablePred (Inst.InApp F fr)
  | .load addr size => inferInstanceAs
    (Decidable (F.allocaCell addr = none → F.constantObjects addr = false → 0 < size → AppAddr (fr.ptr addr)))
  | .store _ addr size => inferInstanceAs (Decidable (F.allocaCell addr = none → AppRange (fr.ptr addr) size))
  | .memSet dest _ len => inferInstanceAs (Decidable (AppRange (fr.ptr dest) (fr.ptr len)))
  | .memTransfer dest src len _ => inferInstanceAs (Decidable (AppRange (fr.ptr dest) (fr.ptr len) ∧
      AppRange (fr.ptr src) (fr.ptr len) ∧ (fr.ptr dest + fr.ptr len ≤ fr.ptr src ∨ fr.ptr src + fr.ptr len ≤ fr.ptr dest)))
  | .binaryOperator .. | .cmp .. | .operandShadow .. | .alloca | .select .. | .br .. | .ret _ | .other =>
    isTrue trivial

structure LabelMemory where
  bytes : Nat → Nat
  cells : Nat → Nat

def fillLabels (bytes : Nat → Nat) (a n label : Nat) : Nat → Nat := fun x =>
  if a ≤ x ∧ x < a + n then label else bytes x

def copyLabels (bytes : Nat → Nat) (dest src n : Nat) : Nat → Nat := fun x =>
  if dest ≤ x ∧ x < dest + n then bytes (src + (x - dest)) else bytes x

def Inst.labelStep (F : IRFunction) (fr : Frame) (label : IRValue → Nat) (m : LabelMemory) : Inst → LabelMemory
  | .store val addr size =>
    if size = 0 then m
    else
      match F.allocaCell addr with
      | some a => { m with cells := Function.update m.cells a (label val) }
      | none => { m with bytes := fillLabels m.bytes (fr.ptr addr) size (label val) }
  | .memSet dest val len => { m with bytes := fillLabels m.bytes (fr.ptr dest) (fr.ptr len) (label val) }
  | .memTransfer dest src len _ => { m with bytes := copyLabels m.bytes (fr.ptr dest) (fr.ptr src) (fr.ptr len) }
  | _ => m

def loadLabel (F : IRFunction) (fr : Frame) (m : LabelMemory) (addr : IRValue) (size : Nat) : Nat :=
  if size = 0 then 0
  else
    match F.allocaCell addr with
    | some a => m.cells a
    | none => if F.constantObjects addr then 0 else m.bytes (fr.ptr addr)

def labelRun (F : IRFunction) (fr : Frame) (label : IRValue → Nat) (m : LabelMemory) (body : List Inst) :
    LabelMemory :=
  body.foldl (fun m inst => inst.labelStep F fr label m) m

def LabelMemory.Shadowed (m : LabelMemory) (σ : ShadowState) : Prop :=
  (∀ x, AppAddr x → σ.rt.shadow (shadowFor x) = m.bytes x) ∧ σ.slots = m.cells

def passState (F : IRFunction) (opts : PassOptions) (branchId k : Nat) : DFSanFunction :=
  visitAll opts 0 (F.body.take k) ⟨F, fun _ => none, fun _ => none, [], branchId⟩

theorem visitAll_append (opts : PassOptions) : ∀ (l₁ l₂ : List Inst) (i : Nat) (st : DFSanFunction),
    visitAll opts i (l₁ ++ l₂) st = visitAll opts (i + l₁.length) l₂ (visitAll opts i l₁ st)
  | [], _, _, _ => rfl
  | inst :: rest, l₂, i, st => by
    rw [List.cons_append, visitAll, visitAll, visitAll_append opts rest l₂ (i + 1), List.length_cons,
      Nat.add_assoc, Nat.add_comm 1]

section Pass

variable {F : IRFunction} {opts : PassOptions} {branchId : Nat}

theorem passState_succ {k : Nat} (lt : k < F.body.length) :
    passState F opts branchId (k + 1) = (passState F opts branchId k).visit opts k (F.body.get ⟨k, lt⟩) := by
  rw [passState, passState, List.take_succ, List.getElem?_eq_getElem lt, Option.toList_some, visitAll_append,
    List.length_take_of_le (Nat.le_of_lt lt), Nat.zero_add]
  rfl

theorem instrument_eq_passState : instrument F opts branchId = passState F opts branchId F.body.length := by
  rw [passState, List.take_length]
  rfl

structure PassInv (F : IRFunction) (k : Nat) (st : DFSanFunction) : Prop where
  function : st.F = F
  defined : st.Defined
  allocas : ∀ a, st.allocaShadowMap a = if a < k then F.allocaCell (.inst a) else none

theorem PassInv.allocaSlot {k : Nat} {st : DFSanFunction} (inv : PassInv F k st) {v : IRValue} (before : v.Before k) :
    st.allocaSlot v = F.allocaCell v := by
  cases v with
  | inst a => exact (inv.allocas a).trans (if_pos before)
  | _ => rfl

theorem passInv_visit {k : Nat} {st : DFSanFunction} (inv : PassInv F k st) (lt : k < F.body.length) :
    PassInv F (k + 1) (st.visit opts k (F.body.get ⟨k, lt⟩)) := by
  have step := DFSanFunction.visit_step opts k (F.body.get ⟨k, lt⟩) st
  refine ⟨step.F.trans inv.function, step.defined inv.defined, fun a => ?_⟩
  rw [step.allocas, inv.function]
  by_cases same : a = k
  · subst same
    have cell : F.allocaCell (.inst a) =
        if F.body.get ⟨a, lt⟩ = .alloca ∧ allLoadsStores F.body a = true then some a else none := by
      simp only [IRFunction.allocaCell, List.getElem?_eq_getElem lt, Option.some.injEq, List.get_eq_getElem]
    rw [cell, if_pos (Nat.lt_succ_self a)]
    split
    · rw [Function.update_same]
    · rw [inv.allocas, if_neg (Nat.lt_irrefl a)]
  · have keep (c : Prop) [Decidable c] :
        (if c then Function.update st.allocaShadowMap k (some k) else st.allocaShadowMap) a = st.allocaShadowMap a := by
      split
      · exact Function.update_noteq same _ _
      · rfl
    rw [keep, inv.allocas]
    exact if_congr (by omega) rfl rfl

theorem passInv_passState : ∀ k ≤ F.body.length, PassInv F k (passState F opts branchId k)
  | 0, _ => ⟨rfl, fun _ _ h => (nomatch h), fun _ => rfl⟩
  | k + 1, le => by
    rw [passState_succ (by omega)]
    exact passInv_visit (passInv_passState k (by omega)) _

theorem passState_mono {j k : Nat} (le : j ≤ k) (bound : k ≤ F.body.length) :
    (∀ i < j, (passState F opts branchId k).valShadowMap i = (passState F opts branchId j).valShadowMap i) ∧
      (passState F opts branchId j).code <+: (passState F opts branchId k).code := by
  induction k, le using Nat.le_induction with
  | base => exact ⟨fun _ _ => rfl, List.prefix_refl _⟩
  | succ k le ih =>
    obtain ⟨vals, code⟩ := ih (by omega)
    have step := DFSanFunction.visit_step opts k (F.body.get ⟨k, by omega⟩) (passState F opts branchId k)
    obtain ⟨seg, grown, -⟩ := step.code
    rw [passState_succ (by omega)]
    exact ⟨fun i lt => (step.vals i (by omega)).trans (vals i lt), grown ▸ code.trans (List.prefix_append _ _)⟩

end Pass

section Step

variable {cfg : Config} {fr : Frame} {argTls retAddr : Nat → Nat} {F : IRFunction} {opts : PassOptions}
  {k : Nat} {st : DFSanFunction} {σ σ' : ShadowState} {m : LabelMemory} {seg : List ShadowInst}
  {label : IRValue → Nat}

theorem LabelMemory.Shadowed.of_frame (held : m.Shadowed σ) (pure : ∀ si ∈ seg, si.writes = false)
    (run : execShadow cfg fr argTls retAddr seg σ = .ok σ') : m.Shadowed σ' := by
  obtain ⟨shadow, slots⟩ := execShadow_frame pure run
  exact ⟨fun x app => shadow ▸ held.1 x app, slots.trans held.2⟩

theorem exec_of_execShadow_singleton {si : ShadowInst} (run : execShadow cfg fr argTls retAddr [si] σ = .ok σ') :
    si.exec cfg fr argTls (retAddr σ.regs.length) σ = .ok σ' :=
  (execShadow_singleton si σ).symm.trans run

theorem segment_eq {st' : DFSanFunction} {seg' : List ShadowInst} (code : st'.code = st.code ++ seg)
    (code' : st'.code = st.code ++ seg') : seg = seg' :=
  List.append_cancel_left (code.symm.trans code')

theorem store_shadowed {val addr : IRValue} {size : Nat} (separate : opts.combinePointerLabelsOnStore = false)
    (inv : PassInv F k st) (before : addr.Before k) (inApp : (Inst.store val addr size).InApp F fr)
    (labelled : (st.getShadow val).value argTls σ.regs = label val)
    (code : (st.visit opts k (.store val addr size)).code = st.code ++ seg)
    (run : execShadow cfg fr argTls retAddr seg σ = .ok σ') (held : m.Shadowed σ) :
    ((Inst.store val addr size).labelStep F fr label m).Shadowed σ' := by
  simp only [DFSanFunction.visit, DFSanFunction.visitStoreInst, separate, Bool.false_eq_true, if_false] at code
  by_cases zero : size = 0
  · rw [if_pos zero] at code
    cases segment_eq code (List.append_nil _).symm
    cases run
    simpa only [Inst.labelStep, if_pos zero] using held
  rw [if_neg zero] at code
  simp only [Inst.labelStep, if_neg zero]
  unfold DFSanFunction.storeShadow at code
  rw [inv.allocaSlot before] at code
  cases cell : F.allocaCell addr with
  | some a =>
    rw [cell] at code
    cases segment_eq code rfl
    obtain ⟨-, shadow, slots⟩ := ShadowInst.exec_ok (exec_of_execShadow_singleton run)
    exact ⟨fun x app => shadow ▸ held.1 x app, by rw [slots, ShadowInst.slotEffect, labelled, held.2]⟩
  | none =>
    rw [cell] at code
    cases segment_eq code rfl
    obtain ⟨zeros, store⟩ := execShadow_storeShadowCode addr (st.getShadow val) size σ
    cases store.symm.trans run
    obtain ⟨low, high⟩ := inApp cell
    refine ⟨fun x app => ?_, held.2⟩
    simp only [getShadowAddress_eq_shadowFor, writeSlots_shadowFor _ _ low high app, labelled, held.1 x app]
    rfl

theorem memSet_shadowed {dest val len : IRValue} (inApp : (Inst.memSet dest val len).InApp F fr)
    (labelled : (st.getShadow val).value argTls σ.regs = label val)
    (code : (st.visit opts k (.memSet dest val len)).code = st.code ++ seg)
    (run : execShadow cfg fr argTls retAddr seg σ = .ok σ') (held : m.Shadowed σ) :
    ((Inst.memSet dest val len).labelStep F fr label m).Shadowed σ' := by
  cases segment_eq code rfl
  obtain ⟨-, shadow, slots⟩ := ShadowInst.exec_ok (exec_of_execShadow_singleton run)
  obtain ⟨low, high⟩ := inApp
  refine ⟨fun x app => ?_, slots.trans held.2⟩
  simp only [shadow, ShadowInst.memEffect, labelled, setLabelLoop_shadowFor _ _ low high app, held.1 x app]
  rfl

theorem memTransfer_shadowed {dest src len : IRValue} {loc : DebugLoc}
    (inApp : (Inst.memTransfer dest src len loc).InApp F fr)
    (code : (st.visit opts k (.memTransfer dest src len loc)).code = st.code ++ seg)
    (run : execShadow cfg fr argTls retAddr seg σ = .ok σ') (held : m.Shadowed σ) :
    ((Inst.memTransfer dest src len loc).labelStep F fr label m).Shadowed σ' := by
  cases segment_eq code rfl
  obtain ⟨-, shadow, slots⟩ := ShadowInst.exec_ok (exec_of_execShadow_singleton run)
  obtain ⟨⟨lowD, highD⟩, ⟨lowS, highS⟩, -⟩ := inApp
  refine ⟨fun x app => ?_, slots.trans held.2⟩
  rw [shadow, ShadowInst.memEffect, copyShadow_shadowFor _ _ _ lowD highD lowS highS app]
  show _ = copyLabels _ _ _ _ x
  unfold copyLabels
  split
  · exact held.1 _ ⟨by omega, by omega⟩
  · exact held.1 x app

theorem load_label {addr : IRValue} {size : Nat} (inv : PassInv F k st) (before : addr.Before k)
    (inApp : (Inst.load addr size).InApp F fr) (regs : σ.regs.length = st.code.length)
    (code : (st.visit opts k (.load addr size)).code = st.code ++ seg)
    (run : execShadow cfg fr argTls retAddr seg σ = .ok σ') (held : m.Shadowed σ) :
    ((st.visit opts k (.load addr size)).getShadow (.inst k)).value argTls σ'.regs = loadLabel F fr m addr size := by
  have own (s : Shadow) (st' : DFSanFunction) : (st'.setShadow k s).getShadow (.inst k) = s := by
    simp [DFSanFunction.setShadow, DFSanFunction.getShadow]
  have pushed {v : Nat} (push : σ' = { σ with regs := σ.regs ++ [v] }) :
      (Shadow.reg st.code.length).value argTls σ'.regs = v := by
    rw [push, Shadow.value, ← regs, List.getD_append_right _ _ _ _ (le_refl _), Nat.sub_self]
    rfl
  simp only [DFSanFunction.visit, DFSanFunction.visitLoadInst] at code ⊢
  unfold loadLabel
  by_cases zero : size = 0
  · rw [if_pos zero, own, if_pos zero]
    rfl
  rw [if_neg zero, if_neg zero]
  rw [if_neg zero] at code
  unfold DFSanFunction.loadShadow at code ⊢
  rw [inv.allocaSlot before, inv.function] at code ⊢
  cases cell : F.allocaCell addr with
  | some a =>
    rw [cell] at code
    simp only [own]
    cases segment_eq code rfl
    exact (pushed (Except.ok.inj (exec_of_execShadow_singleton run)).symm).trans (congrFun held.2 a)
  | none =>
    simp only [cell] at code ⊢
    by_cases constant : F.constantObjects addr
    · simp only [constant, if_true, own] at code ⊢
      rfl
    · simp only [constant, Bool.false_eq_true, if_false, zero, own] at code ⊢
      cases segment_eq code rfl
      refine (pushed (Except.ok.inj (exec_of_execShadow_singleton run)).symm).trans ?_
      show σ.rt.shadow (getShadowAddress (fr.ptr addr)) = _
      rw [getShadowAddress_eq_shadowFor, held.1 _ (inApp cell (by simpa using constant) (Nat.pos_of_ne_zero zero))]

theorem visit_shadowed {inst : Inst} (separate : opts.combinePointerLabelsOnStore = false) (inv : PassInv F k st)
    (ssa : ∀ v ∈ inst.operands, v.Before k) (inApp : inst.InApp F fr)
    (labelled : ∀ v ∈ inst.operands, (st.getShadow v).value argTls σ.regs = label v)
    (code : (st.visit opts k inst).code = st.code ++ seg)
    (run : execShadow cfg fr argTls retAddr seg σ = .ok σ') (held : m.Shadowed σ) :
    (inst.labelStep F fr label m).Shadowed σ' := by
  have pure (notMemory : inst.writesMemory = false) (same : inst.labelStep F fr label m = m) :
      (inst.labelStep F fr label m).Shadowed σ' := by
    obtain ⟨seg', grown, pure, -⟩ := (DFSanFunction.visit_step opts k inst st).code
    rw [same]
    exact held.of_frame (segment_eq code grown ▸ pure notMemory) run
  cases inst with
  | store val addr size =>
    exact store_shadowed separate inv (ssa addr (by simp [Inst.operands])) inApp
      (labelled val (by simp [Inst.operands])) code run held
  | memSet dest val len => exact memSet_shadowed inApp (labelled val (by simp [Inst.operands])) code run held
  | memTransfer dest src len loc => exact memTransfer_shadowed inApp code run held
  | _ => exact pure rfl rfl

end Step

theorem execShadow_append_ok {cfg : Config} {fr : Frame} {argTls retAddr : Nat → Nat} {a b : List ShadowInst}
    {σ σ'' : ShadowState} (run : execShadow cfg fr argTls retAddr (a ++ b) σ = .ok σ'') :
    ∃ σ', execShadow cfg fr argTls retAddr a σ = .ok σ' ∧ execShadow cfg fr argTls retAddr b σ' = .ok σ'' := by
  rw [execShadow_append] at run
  cases first : execShadow cfg fr argTls retAddr a σ with
  | error e => rw [first] at run; cases run
  | ok σ' => rw [first] at run; exact ⟨σ', rfl, run⟩

theorem getShadow_congr {st₁ st₂ : DFSanFunction} {v : IRValue} (function : st₁.F = st₂.F)
    (vals : ∀ j, v = .inst j → st₁.valShadowMap j = st₂.valShadowMap j) : st₁.getShadow v = st₂.getShadow v := by
  cases v with
  | inst j => simp only [DFSanFunction.getShadow, vals j rfl]
  | _ => simp only [DFSanFunction.getShadow, function]

section Run

variable {F : IRFunction} {opts : PassOptions} {branchId : Nat} {cfg : Config} {fr : Frame}
  {argTls retAddr : Nat → Nat} {rt : RuntimeState} {slots : Nat → Nat} {retvalTls : Nat} {σ : ShadowState}

theorem passState_run {k : Nat} (le : k ≤ F.body.length)
    (run : execShadow cfg fr argTls retAddr (instrument F opts branchId).code ⟨rt, [], slots, retvalTls⟩ = .ok σ) :
    ∃ σk, execShadow cfg fr argTls retAddr (passState F opts branchId k).code ⟨rt, [], slots, retvalTls⟩ = .ok σk ∧
      σk.regs.length = (passState F opts branchId k).code.length ∧ σk.regs <+: σ.regs := by
  obtain ⟨rest, whole⟩ := (passState_mono le (le_refl _)).2
  rw [instrument_eq_passState, ← whole] at run
  obtain ⟨σk, first, later⟩ := execShadow_append_ok run
  obtain ⟨vs, regs, length⟩ := execShadow_regs first
  obtain ⟨vs', regs', -⟩ := execShadow_regs later
  exact ⟨σk, first, by rw [regs, List.nil_append, length], regs' ▸ List.prefix_append _ _⟩

theorem passState_succ_run {k : Nat} (lt : k < F.body.length) {σ' : ShadowState}
    (run : execShadow cfg fr argTls retAddr (passState F opts branchId (k + 1)).code ⟨rt, [], slots, retvalTls⟩ =
      .ok σ') :
    ∃ seg σk, ((passState F opts branchId k).visit opts k (F.body.get ⟨k, lt⟩)).code =
        (passState F opts branchId k).code ++ seg ∧
      execShadow cfg fr argTls retAddr (passState F opts branchId k).code ⟨rt, [], slots, retvalTls⟩ = .ok σk ∧
      execShadow cfg fr argTls retAddr seg σk = .ok σ' ∧ σk.regs.length = (passState F opts branchId k).code.length ∧
      σk.regs <+: σ'.regs := by
  obtain ⟨seg, grown, -⟩ := (DFSanFunction.visit_step opts k (F.body.get ⟨k, lt⟩) (passState F opts branchId k)).code
  rw [passState_succ lt, grown] at run
  obtain ⟨σk, first, later⟩ := execShadow_append_ok run
  obtain ⟨vs, regs, length⟩ := execShadow_regs first
  obtain ⟨vs', regs', -⟩ := execShadow_regs later
  exact ⟨seg, σk, grown, first, later, by rw [regs, List.nil_append, length], regs' ▸ List.prefix_append _ _⟩

theorem passState_label {k : Nat} (le : k ≤ F.body.length) {σk : ShadowState}
    (length : σk.regs.length = (passState F opts branchId k).code.length) (pre : σk.regs <+: σ.regs)
    {v : IRValue} (before : v.Before k) :
    ((passState F opts branchId k).getShadow v).value argTls σk.regs =
      ((instrument F opts branchId).getShadow v).value argTls σ.regs := by
  have inv := @passInv_passState F opts branchId k le
  rw [instrument_eq_passState, getShadow_congr ((passInv_passState _ (le_refl _)).function.trans inv.function.symm)
    (fun j eq => (passState_mono le (le_refl _)).1 j (by subst eq; exact before))]
  exact (Shadow.value_of_prefix (length ▸ inv.defined.getShadow v) pre).symm

theorem labelRun_succ (label : IRValue → Nat) (m : LabelMemory) {k : Nat} (lt : k < F.body.length) :
    labelRun F fr label m (F.body.take (k + 1)) = (F.body.get ⟨k, lt⟩).labelStep F fr label (labelRun F fr label m (F.body.take k)) := by
  rw [List.take_succ, List.getElem?_eq_getElem lt, Option.toList_some, labelRun, List.foldl_append]
  rfl

end Run

theorem instrumented_memory_labels (F : IRFunction) (opts : PassOptions) (branchId : Nat) (ssa : F.SSA)
    (callFree : F.CallFree) (separate : opts.combinePointerLabelsOnStore = false) (cfg : Config) (fr : Frame) (argTls retAddr : Nat → Nat)
    (inApp : ∀ inst ∈ F.body, inst.InApp F fr) (rt : RuntimeState) (slots : Nat → Nat) (retvalTls : Nat) :
    let st := instrument F opts branchId
    match execShadow cfg fr argTls retAddr st.code ⟨rt, [], slots, retvalTls⟩ with
    | .ok σ =>
      let label (v : IRValue) := (st.getShadow v).value argTls σ.regs
      let start : LabelMemory := ⟨fun x => rt.shadow (shadowFor x), slots⟩
      (∀ j addr size, F.body[j]? = some (.load addr size) →
        label (.inst j) = loadLabel F fr (labelRun F fr label start (F.body.take j)) addr size) ∧
        (labelRun F fr label start F.body).Shadowed σ
    | .error _ => True := by
  intro st
  split
  · rename_i σ run
    intro label start
    have shadowed : ∀ k ≤ F.body.length, ∀ σk,
        execShadow cfg fr argTls retAddr (passState F opts branchId k).code ⟨rt, [], slots, retvalTls⟩ = .ok σk →
        σk.regs <+: σ.regs → (labelRun F fr label start (F.body.take k)).Shadowed σk := by
      intro k
      induction k with
      | zero =>
        intro _ σk first _
        cases first
        exact ⟨fun _ _ => rfl, rfl⟩
      | succ k ih =>
        intro le σ' runK pre
        have lt : k < F.body.length := by omega
        obtain ⟨seg, σk, code, first, later, length, pre'⟩ := passState_succ_run lt runK
        rw [labelRun_succ label start lt]
        exact visit_shadowed separate (passInv_passState k (by omega)) (ssa ⟨k, lt⟩) (inApp _ (List.get_mem _ _ _))
          (fun v mem => passState_label (by omega) length (pre'.trans pre) (ssa ⟨k, lt⟩ v mem)) code later
          (ih (by omega) σk first (pre'.trans pre))
    refine ⟨fun j addr size load => ?_, ?_⟩
    · obtain ⟨lt, get⟩ := List.getElem?_eq_some_iff.mp load
      replace get : F.body.get ⟨j, lt⟩ = .load addr size := get
      obtain ⟨σ', runJ, length', pre⟩ := passState_run (by omega : j + 1 ≤ F.body.length) run
      obtain ⟨seg, σj, code, first, later, length, pre'⟩ := passState_succ_run lt runJ
      have before : addr.Before j := ssa ⟨j, lt⟩ addr (by rw [get]; exact List.mem_singleton_self _)
      show ((instrument F opts branchId).getShadow (.inst j)).value argTls σ.regs = _
      rw [← passState_label (by omega) length' pre (show (IRValue.inst j).Before (j + 1) from Nat.lt_succ_self j),
        passState_succ lt, get]
      rw [get] at code
      exact load_label (passInv_passState j (by omega)) before (get ▸ inApp _ (List.get_mem _ _ _)) length code later
        (shadowed j (by omega) σj first (pre'.trans pre))
    · obtain ⟨σ', runAll, -, pre⟩ := passState_run (le_refl _) run
      have same : σ' = σ := by
        rw [← instrument_eq_passState] at runAll
        exact Except.ok.inj (runAll.symm.trans run)
      subst same
      simpa only [List.take_length] using shadowed _ (le_refl _) _ runAll pre
  · trivial

theorem instrumented_memory_labels_copy :
    let F : IRFunction := ⟨[.store (.arg 0) (.arg 1) 4, .memTransfer (.arg 2) (.arg 1) (.intConst 4) none,
      .load (.arg 2) 4, .alloca, .store (.inst 2) (.inst 3) 4, .load (.inst 3) 4], false, fun _ => false⟩
    let fr : Frame := ⟨fun v => match v with
      | .arg 1 => 0x700000008000
      | .arg 2 => 0x700000010000
      | _ => 0, fun _ => 0⟩
    let st := instrument F ⟨false, 0⟩ 0
    match execShadow ⟨⟨true, 1, false, false, false, false⟩, false⟩ fr (fun _ => 1) (fun _ => 0) st.code
        ⟨flushedState, [], fun _ => 0, 0⟩ with
    | .ok σ =>
      let label (v : IRValue) := (st.getShadow v).value (fun _ => 1) σ.regs
      let start : LabelMemory := ⟨fun x => flushedState.shadow (shadowFor x), fun _ => 0⟩
      (∀ j addr size, F.body[j]? = some (.load addr size) →
        label (.inst j) = loadLabel F fr (labelRun F fr label start (F.body.take j)) addr size) ∧
        (labelRun F fr label start F.body).Shadowed σ
    | .error _ => True := by
  intro F fr st
  exact instrumented_memory_labels F ⟨false, 0⟩ 0 (by decide) (by decide) rfl ⟨⟨true, 1, false, false, false, false⟩, false⟩ fr
    (fun _ => 1) (fun _ => 0) (by decide) flushedState (fun _ => 0) 0

end Grsan
