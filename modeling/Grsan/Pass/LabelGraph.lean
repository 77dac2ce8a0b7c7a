import Grsan.Pass.LabelMemory
import Grsan.Runtime.Dataflow

set_option autoImplicit false

namespace Grsan

open OpCode

def LabelShape.union (σ : LabelShape) (a b opcode : Nat) : Nat × LabelShape :=
  if a = 0 ∧ b = 0 then (0, σ) else σ.alloc a b opcode

def LabelShape.unionRest (opcode : Nat) : Nat → List Nat → LabelShape → Nat × LabelShape
  | l, [], σ => (l, σ)
  | l, b :: bs, σ => unionRest opcode (σ.union l b opcode).1 bs (σ.union l b opcode).2

def LabelShape.unionAll (σ : LabelShape) (opcode : Nat) : List Nat → Nat × LabelShape
  | [] => (0, σ)
  | a :: bs => unionRest opcode a bs σ

def LabelMemory.store (F : IRFunction) (fr : Frame) (m : LabelMemory) (addr : IRValue) (size l : Nat) :
    LabelMemory :=
  if size = 0 then m
  else
    match F.allocaCell addr with
    | some a => { m with cells := Function.update m.cells a l }
    | none => { m with bytes := fillLabels m.bytes (fr.ptr addr) size l }

def Inst.graphEffect (F : IRFunction) (opts : PassOptions) (fr : Frame) (lab : IRValue → Nat) (σ : LabelShape)
    (m : LabelMemory) : Inst → Nat × LabelShape × LabelMemory
  | .binaryOperator opcode x1 x2 .. => ((σ.union (lab x1) (lab x2) opcode).1, (σ.union (lab x1) (lab x2) opcode).2, m)
  | .cmp opcode _ lhs rhs _ => ((σ.unionAll opcode [lab lhs, lab rhs]).1, (σ.unionAll opcode [lab lhs, lab rhs]).2, m)
  | .operandShadow opcode ops => ((σ.unionAll opcode (ops.map lab)).1, (σ.unionAll opcode (ops.map lab)).2, m)
  | .load addr size => (loadLabel F fr m addr size, σ, m)
  | .store val addr size =>
    if size = 0 then (0, σ, m)
    else if opts.combinePointerLabelsOnStore then
      (0, (σ.union (lab val) (lab addr) STORE).2, m.store F fr addr size (σ.union (lab val) (lab addr) STORE).1)
    else (0, σ, m.store F fr addr size (lab val))
  | .select vectorCond cond t f =>
    let p :=
      if vectorCond then (σ.union (lab t) (lab f) SELECT).2.union (lab cond) (σ.union (lab t) (lab f) SELECT).1 SELECT
      else σ.union (lab cond) (if fr.int cond ≠ 0 then lab t else lab f) SELECT
    (p.1, p.2, m)
  | .memSet dest val len => (0, σ, (Inst.memSet dest val len).labelStep F fr lab m)
  | .memTransfer dest src len loc => (0, σ, (Inst.memTransfer dest src len loc).labelStep F fr lab m)
  | .alloca | .br .. | .ret _ | .other => (0, σ, m)

structure LabelGraph where
  shape : LabelShape
  labels : List Nat
  mem : LabelMemory

namespace LabelGraph

def initial (rt : RuntimeState) (slots : Nat → Nat) : LabelGraph :=
  ⟨rt.table.shape, [], ⟨fun x => rt.shadow (shadowFor x), slots⟩⟩

variable (F : IRFunction) (opts : PassOptions) (fr : Frame) (argTls : Nat → Nat)

def operand (g : LabelGraph) : IRValue → Nat
  | .arg i => if F.nativeABI then 0 else argTls i
  | .inst j => g.labels.getD j 0
  | _ => 0

def step (g : LabelGraph) (inst : Inst) : LabelGraph :=
  ⟨(inst.graphEffect F opts fr (g.operand F argTls) g.shape g.mem).2.1,
    g.labels ++ [(inst.graphEffect F opts fr (g.operand F argTls) g.shape g.mem).1],
    (inst.graphEffect F opts fr (g.operand F argTls) g.shape g.mem).2.2⟩

def run (g : LabelGraph) (body : List Inst) : LabelGraph :=
  body.foldl (step F opts fr argTls) g

theorem run_take_succ (g : LabelGraph) {k : Nat} (lt : k < F.body.length) :
    g.run F opts fr argTls (F.body.take (k + 1)) = (g.run F opts fr argTls (F.body.take k)).step F opts fr argTls
      (F.body.get ⟨k, lt⟩) := by
  rw [List.take_succ, List.getElem?_eq_getElem lt, Option.toList_some, run, List.foldl_append]
  rfl

end LabelGraph

section Exec

variable {cfg : Config} {fr : Frame} {argTls : Nat → Nat} {r : Nat} {σ σ' : ShadowState}

theorem ShadowInst.exec_call_ok {si : ShadowInst} {c : Call} (call : si.call fr (fun s => s.value argTls σ.regs) r = some c)
    (h : si.exec cfg fr argTls r σ = .ok σ') :
    ∃ v rt, (step cfg c).run σ.rt = .ok (v, rt) ∧ σ' = { σ with rt := rt, regs := σ.regs ++ [v] } := by
  rw [ShadowInst.exec_call call] at h
  cases run : (step cfg c).run σ.rt with
  | error e => rw [run] at h; cases h
  | ok p =>
    obtain ⟨v, rt⟩ := p
    rw [run] at h
    cases h
    exact ⟨v, rt, rfl, rfl⟩

theorem ShadowInst.exec_union (off : cfg.flags.reuseLabels = false) {fn : UnionFn} {l1 l2 : Shadow}
    {x1 x2 : IRValue} {opcode : Nat} {location : String}
    (h : (ShadowInst.union fn l1 l2 x1 x2 opcode location).exec cfg fr argTls r σ = .ok σ') :
    ∃ v rt, σ' = { σ with rt := rt, regs := σ.regs ++ [v] } ∧ rt.shadow = σ.rt.shadow ∧
      (v, rt.table.shape) = σ.rt.table.shape.union (l1.value argTls σ.regs) (l2.value argTls σ.regs) opcode := by
  obtain ⟨c, call, effect⟩ : ∃ c, (ShadowInst.union fn l1 l2 x1 x2 opcode location).call fr
      (fun s => s.value argTls σ.regs) r = some c ∧ ∀ {v rt}, (step cfg c).run σ.rt = .ok (v, rt) →
      rt.shadow = σ.rt.shadow ∧
        (v, rt.table.shape) = σ.rt.table.shape.union (l1.value argTls σ.regs) (l2.value argTls σ.regs) opcode := by
    cases fn with
    | int w => exact ⟨_, rfl, fun run => ⟨(intUnion_ok run).2, (intUnion_ok run).1.shape off⟩⟩
    | float => exact ⟨_, rfl, fun run => ⟨(floatUnion_ok run).2, (floatUnion_ok run).1.shape off⟩⟩
    | double => exact ⟨_, rfl, fun run => ⟨(floatUnion_ok run).2, (floatUnion_ok run).1.shape off⟩⟩
    | unsupported =>
      exact ⟨_, rfl, fun run => ⟨(dfsanUnionUnsupportedType_ok run).2, (dfsanUnionUnsupportedType_ok run).1.shape rfl⟩⟩
  obtain ⟨v, rt, run, rfl⟩ := ShadowInst.exec_call_ok call h
  exact ⟨v, rt, rfl, effect run⟩

theorem ShadowInst.exec_keeps_shape {si : ShadowInst} (notUnion : si.isUnion = false)
    (h : si.exec cfg fr argTls r σ = .ok σ') : σ'.rt.table.shape = σ.rt.table.shape := by
  have unit {x : Rt Unit} {v : Nat} {rt : RuntimeState} (run : (do x; pure 0 : Rt Nat).run σ.rt = .ok (v, rt)) :
      ∃ u, x.run σ.rt = .ok (u, rt) := by
    obtain ⟨u, s₁, first, h⟩ := bind_ok run
    obtain ⟨-, rfl⟩ := pure_ok h
    exact ⟨u, first⟩
  cases call : si.call fr (fun s => s.value argTls σ.regs) r with
  | some c =>
    obtain ⟨v, rt, run, rfl⟩ := ShadowInst.exec_call_ok call h
    show rt.table.shape = _
    cases si with
    | union => cases notUnion
    | branch fn =>
      cases fn <;> cases call <;> obtain ⟨_, visit⟩ := unit run
      · rcases (intBranchVisitor_ok visit).1 with same | ⟨-, barrier⟩
        · rw [same]
        · exact barrier.shape
      · rw [(floatBranchVisitor_ok visit).1]
      · rw [(floatBranchVisitor_ok visit).1]
    | setLabel =>
      cases call
      obtain ⟨_, set⟩ := unit run
      cases set
      rfl
    | memcpy =>
      cases call
      obtain ⟨_, copy⟩ := unit run
      rw [memcpy_ok copy]
    | _ => cases call
  | none =>
    cases si with
    | union => cases notUnion
    | branch fn => cases fn <;> cases call
    | setLabel | memcpy => cases call
    | _ => cases h; rfl

variable {retAddr : Nat → Nat}

theorem execShadow_cons_ok {si : ShadowInst} {rest : List ShadowInst}
    (run : execShadow cfg fr argTls retAddr (si :: rest) σ = .ok σ') :
    ∃ σ₁, si.exec cfg fr argTls (retAddr σ.regs.length) σ = .ok σ₁ ∧ execShadow cfg fr argTls retAddr rest σ₁ = .ok σ' := by
  simp only [execShadow] at run
  cases first : si.exec cfg fr argTls (retAddr σ.regs.length) σ with
  | error e => rw [first] at run; cases run
  | ok σ₁ => rw [first] at run; exact ⟨σ₁, rfl, run⟩

theorem execShadow_keeps_shape : ∀ {code : List ShadowInst} {σ σ' : ShadowState}, (∀ si ∈ code, si.isUnion = false) →
    execShadow cfg fr argTls retAddr code σ = .ok σ' → σ'.rt.table.shape = σ.rt.table.shape
  | [], _, _, _, h => by cases h; rfl
  | si :: rest, _, _, plain, h => by
    obtain ⟨σ₁, first, later⟩ := execShadow_cons_ok h
    rw [execShadow_keeps_shape (fun x mem => plain x (List.mem_cons_of_mem _ mem)) later,
      ShadowInst.exec_keeps_shape (plain si (List.mem_cons_self _ _)) first]

end Exec

@[simp] theorem DFSanFunction.getShadow_setShadow_self (st : DFSanFunction) (i : Nat) (s : Shadow) :
    (st.setShadow i s).getShadow (.inst i) = s := by
  simp [DFSanFunction.setShadow, DFSanFunction.getShadow]

theorem Shadow.value_reg_push (argTls : Nat → Nat) (regs : List Nat) (v : Nat) :
    (Shadow.reg regs.length).value argTls (regs ++ [v]) = v := by
  simp [Shadow.value]

theorem Shadow.value_reg_of_length {argTls : Nat → Nat} {regs : List Nat} {n : Nat} (length : regs.length = n) (v : Nat) :
    (Shadow.reg n).value argTls (regs ++ [v]) = v :=
  length ▸ Shadow.value_reg_push argTls regs v

theorem LabelMemory.Shadowed.of_call {m : LabelMemory} {σ : ShadowState} {rt : RuntimeState} {v : Nat}
    (held : m.Shadowed σ) (shadow : rt.shadow = σ.rt.shadow) : m.Shadowed { σ with rt := rt, regs := σ.regs ++ [v] } :=
  ⟨fun x app => shadow ▸ held.1 x app, held.2⟩

theorem passState_fresh {F : IRFunction} {opts : PassOptions} {branchId : Nat} :
    ∀ k ≤ F.body.length, ∀ j, k ≤ j → (passState F opts branchId k).valShadowMap j = none
  | 0, _, _, _ => rfl
  | k + 1, le, j, kj => by
    rw [passState_succ (by omega), (DFSanFunction.visit_step opts k _ _).vals j (by omega)]
    exact passState_fresh k (by omega) j (by omega)

structure Agrees (argTls : Nat → Nat) (k : Nat) (st : DFSanFunction) (σ : ShadowState)
    (e : Nat × LabelShape × LabelMemory) : Prop where
  label : (st.getShadow (.inst k)).value argTls σ.regs = e.1
  shape : σ.rt.table.shape = e.2.1
  mem : e.2.2.Shadowed σ

section Agree

variable {cfg : Config} {fr : Frame} {argTls retAddr : Nat → Nat} {F : IRFunction} {opts : PassOptions} {k : Nat}
  {st : DFSanFunction} {σ σ' : ShadowState} {m : LabelMemory} {seg : List ShadowInst} {lab : IRValue → Nat}

theorem combineRest_shape (off : cfg.flags.reuseLabels = false) (opcode : Nat) :
    ∀ (vs : List IRValue) (s : Shadow) (st : DFSanFunction) {seg : List ShadowInst} {σ σ' : ShadowState},
    (DFSanFunction.combineRest opcode s vs st).2.code = st.code ++ seg →
    execShadow cfg fr argTls retAddr seg σ = .ok σ' → σ.regs.length = st.code.length → st.Defined →
    s.Below st.code.length →
    ((DFSanFunction.combineRest opcode s vs st).1.value argTls σ'.regs, σ'.rt.table.shape) =
      σ.rt.table.shape.unionRest opcode (s.value argTls σ.regs) (vs.map fun v => (st.getShadow v).value argTls σ.regs)
  | [], _, _, _, _, _, code, run, _, _, _ => by
    cases segment_eq code (List.append_nil _).symm
    cases run
    rfl
  | v :: vs, s, st, seg, σ, σ', code, run, regs, defined, below => by
    let st₁ := (st.combineShadows s (st.getShadow v) opcode).2
    obtain ⟨seg', app, -, -⟩ := DFSanFunction.combineRest_appends opcode vs (.reg st.code.length) st₁
    cases segment_eq code (app.code.trans (List.append_assoc _ _ _))
    obtain ⟨σ₁, first, rest⟩ := execShadow_cons_ok run
    obtain ⟨w, rt, rfl, -, union⟩ := ShadowInst.exec_union off first
    have grown : st₁.code.length = st.code.length + 1 := by
      simp [st₁, DFSanFunction.combineShadows, DFSanFunction.emit]
    have later := combineRest_shape off opcode vs (.reg st.code.length) st₁ app.code rest
      (by simp [grown, regs]) ((DFSanFunction.appends_emit _).defined defined) (by simp [Shadow.Below, grown])
    refine later.trans ?_
    rw [List.map_cons, LabelShape.unionRest, ← union, ← regs, Shadow.value_reg_push]
    congr 1
    refine List.map_congr_left fun x _ => ?_
    have same : st₁.getShadow x = st.getShadow x := (DFSanFunction.appends_emit _).getShadow x
    rw [same]
    exact Shadow.value_of_prefix (regs ▸ defined.getShadow x) (List.prefix_append _ _)

theorem visit_keeps_mem {inst : Inst} (code : (st.visit opts k inst).code = st.code ++ seg)
    (run : execShadow cfg fr argTls retAddr seg σ = .ok σ') (held : m.Shadowed σ) (pure : inst.writesMemory = false) :
    m.Shadowed σ' := by
  obtain ⟨seg', grown, noWrites, -⟩ := (DFSanFunction.visit_step opts k inst st).code
  cases segment_eq code grown
  exact held.of_frame (noWrites pure) run

theorem visit_keeps_shape {inst : Inst} (code : (st.visit opts k inst).code = st.code ++ seg)
    (run : execShadow cfg fr argTls retAddr seg σ = .ok σ') (plain : inst.combinesLabels = false) :
    σ'.rt.table.shape = σ.rt.table.shape := by
  obtain ⟨seg', grown, -, noUnions⟩ := (DFSanFunction.visit_step opts k inst st).code
  cases segment_eq code grown
  exact execShadow_keeps_shape (noUnions plain) run

theorem noResult_label {inst : Inst} (fresh : st.valShadowMap k = none) (noResult : inst.hasResult = false)
    (regs : List Nat) : ((st.visit opts k inst).getShadow (.inst k)).value argTls regs = 0 := by
  simp only [DFSanFunction.getShadow, (DFSanFunction.visit_step opts k inst st).own noResult, fresh]
  rfl

theorem binaryOperator_agrees (off : cfg.flags.reuseLabels = false) {opcode : Nat} {x1 x2 : IRValue}
    {t1 t2 : IRType} {loc : DebugLoc} (regs : σ.regs.length = st.code.length)
    (labelled : ∀ v ∈ [x1, x2], (st.getShadow v).value argTls σ.regs = lab v)
    (code : (st.visit opts k (.binaryOperator opcode x1 x2 t1 t2 loc)).code = st.code ++ seg)
    (run : execShadow cfg fr argTls retAddr seg σ = .ok σ') (held : m.Shadowed σ) :
    Agrees argTls k (st.visit opts k (.binaryOperator opcode x1 x2 t1 t2 loc)) σ'
      ((Inst.binaryOperator opcode x1 x2 t1 t2 loc).graphEffect F opts fr lab σ.rt.table.shape m) := by
  cases segment_eq code rfl
  obtain ⟨w, rt, rfl, shadow, union⟩ := ShadowInst.exec_union off (exec_of_execShadow_singleton run)
  rw [labelled x1 (by simp), labelled x2 (by simp)] at union
  simp only [Inst.graphEffect, ← union]
  refine ⟨?_, rfl, held.of_call shadow⟩
  simp only [DFSanFunction.visit, DFSanFunction.visitBinaryOperator, DFSanFunction.emit,
    DFSanFunction.getShadow_setShadow_self]
  rw [← regs, Shadow.value_reg_push]

theorem visitOperandShadowInst_eq (st : DFSanFunction) (i opcode : Nat) (ops : List IRValue) :
    st.visitOperandShadowInst i opcode ops =
      (st.combineOperandShadows opcode ops).2.setShadow i (st.combineOperandShadows opcode ops).1 :=
  rfl

theorem operandShadow_agrees (off : cfg.flags.reuseLabels = false) {opcode : Nat} {ops : List IRValue}
    (regs : σ.regs.length = st.code.length) (defined : st.Defined)
    (labelled : ∀ v ∈ ops, (st.getShadow v).value argTls σ.regs = lab v)
    (code : (st.visitOperandShadowInst k opcode ops).code = st.code ++ seg)
    (run : execShadow cfg fr argTls retAddr seg σ = .ok σ') (held : m.Shadowed σ) :
    Agrees argTls k (st.visitOperandShadowInst k opcode ops) σ'
      ((σ.rt.table.shape.unionAll opcode (ops.map lab)).1, (σ.rt.table.shape.unionAll opcode (ops.map lab)).2, m) := by
  obtain ⟨seg', app, noWrites, -⟩ := @DFSanFunction.combineOperandShadows_appends st opcode ops
  cases segment_eq code app.code
  have held' := held.of_frame noWrites run
  rw [visitOperandShadowInst_eq]
  cases ops with
  | nil =>
    cases segment_eq app.code (List.append_nil _).symm
    cases run
    exact ⟨by rw [DFSanFunction.getShadow_setShadow_self]; rfl, rfl, held'⟩
  | cons v vs =>
    have chain := combineRest_shape off opcode vs (st.getShadow v) st app.code run regs defined
      (regs ▸ defined.getShadow v)
    rw [labelled v (List.mem_cons_self _ _), List.map_congr_left fun x mem =>
      labelled x (List.mem_cons_of_mem _ mem)] at chain
    exact ⟨by rw [DFSanFunction.getShadow_setShadow_self]; exact congrArg Prod.fst chain, congrArg Prod.snd chain,
      held'⟩

theorem load_agrees {addr : IRValue} {size : Nat} (inv : PassInv F k st) (before : addr.Before k)
    (inApp : (Inst.load addr size).InApp F fr) (regs : σ.regs.length = st.code.length)
    (code : (st.visit opts k (.load addr size)).code = st.code ++ seg)
    (run : execShadow cfg fr argTls retAddr seg σ = .ok σ') (held : m.Shadowed σ) :
    Agrees argTls k (st.visit opts k (.load addr size)) σ'
      ((Inst.load addr size).graphEffect F opts fr lab σ.rt.table.shape m) :=
  ⟨load_label inv before inApp regs code run held, visit_keeps_shape code run rfl, visit_keeps_mem code run held rfl⟩

theorem storeShadow_shadowed {addr : IRValue} {size l : Nat} {s : Shadow}
    (code : (st.storeShadow addr size s).code = st.code ++ seg) (run : execShadow cfg fr argTls retAddr seg σ = .ok σ')
    (held : m.Shadowed σ) (nonzero : size ≠ 0) (slot : st.allocaSlot addr = F.allocaCell addr)
    (inApp : F.allocaCell addr = none → AppRange (fr.ptr addr) size) (labelled : s.value argTls σ.regs = l) :
    σ'.rt.table = σ.rt.table ∧ (m.store F fr addr size l).Shadowed σ' := by
  simp only [LabelMemory.store, if_neg nonzero]
  unfold DFSanFunction.storeShadow at code
  rw [slot] at code
  cases cell : F.allocaCell addr with
  | some a =>
    rw [cell] at code
    cases segment_eq code rfl
    cases exec_of_execShadow_singleton run
    exact ⟨rfl, held.1, by simp only [labelled, held.2]⟩
  | none =>
    rw [cell] at code
    cases segment_eq code rfl
    obtain ⟨zeros, store⟩ := execShadow_storeShadowCode addr s size σ
    cases store.symm.trans run
    obtain ⟨low, high⟩ := inApp cell
    refine ⟨rfl, fun x app => ?_, held.2⟩
    simp only [getShadowAddress_eq_shadowFor, writeSlots_shadowFor _ _ low high app, labelled, held.1 x app]
    rfl

theorem store_agrees (off : cfg.flags.reuseLabels = false) {val addr : IRValue} {size : Nat} (inv : PassInv F k st)
    (fresh : st.valShadowMap k = none) (before : addr.Before k) (inApp : (Inst.store val addr size).InApp F fr)
    (regs : σ.regs.length = st.code.length) (labelled : ∀ v ∈ [val, addr], (st.getShadow v).value argTls σ.regs = lab v)
    (code : (st.visit opts k (.store val addr size)).code = st.code ++ seg)
    (run : execShadow cfg fr argTls retAddr seg σ = .ok σ') (held : m.Shadowed σ) :
    Agrees argTls k (st.visit opts k (.store val addr size)) σ'
      ((Inst.store val addr size).graphEffect F opts fr lab σ.rt.table.shape m) := by
  have label : ((st.visit opts k (.store val addr size)).getShadow (.inst k)).value argTls σ'.regs = 0 :=
    noResult_label fresh (by rfl) _
  suffices h : σ'.rt.table.shape = ((Inst.store val addr size).graphEffect F opts fr lab σ.rt.table.shape m).2.1 ∧
      ((Inst.store val addr size).graphEffect F opts fr lab σ.rt.table.shape m).2.2.Shadowed σ' from
    ⟨label.trans (by simp only [Inst.graphEffect]; split_ifs <;> rfl), h.1, h.2⟩
  simp only [DFSanFunction.visit, DFSanFunction.visitStoreInst, DFSanFunction.combineShadows, DFSanFunction.emit]
    at code
  simp only [Inst.graphEffect]
  by_cases zero : size = 0
  · rw [if_pos zero] at code ⊢
    cases segment_eq code (List.append_nil _).symm
    cases run
    exact ⟨rfl, held⟩
  rw [if_neg zero] at code ⊢
  by_cases combine : opts.combinePointerLabelsOnStore
  · rw [if_pos combine] at code ⊢
    obtain ⟨seg', app⟩ := @DFSanFunction.storeShadow_appends { st with code := st.code ++ [.union (.int .int)
      (st.getShadow val) (st.getShadow addr) (.intConst 0) (.intConst 0) STORE "UNKNOWN"] } addr size (.reg st.code.length)
    cases segment_eq code (app.code.trans (List.append_assoc _ _ _))
    obtain ⟨σ₁, first, rest⟩ := execShadow_cons_ok run
    obtain ⟨w, rt, rfl, shadow, union⟩ := ShadowInst.exec_union off first
    obtain ⟨table, held'⟩ := storeShadow_shadowed app.code rest (held.of_call shadow) zero (inv.allocaSlot before)
      inApp (l := w) (by rw [← regs]; exact Shadow.value_reg_push _ _ w)
    rw [labelled val (by simp), labelled addr (by simp)] at union
    rw [← union]
    exact ⟨by rw [table], held'⟩
  · rw [if_neg combine] at code ⊢
    obtain ⟨table, held'⟩ := storeShadow_shadowed code run held zero (inv.allocaSlot before) inApp
      (labelled val (by simp))
    exact ⟨by rw [table], held'⟩

theorem getShadow_value_push (defined : st.Defined) (regs : σ.regs.length = st.code.length) (v : IRValue) (w : Nat) :
    (st.getShadow v).value argTls (σ.regs ++ [w]) = (st.getShadow v).value argTls σ.regs :=
  Shadow.value_of_prefix (regs ▸ defined.getShadow v) (List.prefix_append _ _)

theorem select_agrees (off : cfg.flags.reuseLabels = false) {vectorCond : Bool} {cond t f : IRValue}
    (regs : σ.regs.length = st.code.length) (defined : st.Defined)
    (labelled : ∀ v ∈ [cond, t, f], (st.getShadow v).value argTls σ.regs = lab v)
    (code : (st.visit opts k (.select vectorCond cond t f)).code = st.code ++ seg)
    (run : execShadow cfg fr argTls retAddr seg σ = .ok σ') (held : m.Shadowed σ) :
    Agrees argTls k (st.visit opts k (.select vectorCond cond t f)) σ'
      ((Inst.select vectorCond cond t f).graphEffect F opts fr lab σ.rt.table.shape m) := by
  have held' := visit_keeps_mem code run held rfl
  simp only [Inst.graphEffect]
  rw [← labelled cond (by simp), ← labelled t (by simp), ← labelled f (by simp)]
  simp only [DFSanFunction.visit, DFSanFunction.visitSelectInst, DFSanFunction.combineShadows, DFSanFunction.emit]
    at code ⊢
  cases vectorCond with
  | true =>
    simp only [if_true] at code ⊢
    cases segment_eq code (List.append_assoc _ _ _)
    obtain ⟨σ₁, first, rest⟩ := execShadow_cons_ok run
    obtain ⟨w₁, rt₁, rfl, -, union₁⟩ := ShadowInst.exec_union off first
    obtain ⟨w₂, rt₂, rfl, -, union₂⟩ := ShadowInst.exec_union off (exec_of_execShadow_singleton rest)
    simp only [getShadow_value_push defined regs, Shadow.value_reg_of_length regs] at union₂
    rw [← union₁]
    dsimp only
    rw [← union₂]
    refine ⟨?_, rfl, held'⟩
    rw [DFSanFunction.getShadow_setShadow_self]
    exact Shadow.value_reg_of_length (by simp [regs]) w₂
  | false =>
    simp only [Bool.false_eq_true, if_false] at code ⊢
    by_cases same : st.getShadow t = st.getShadow f
    · simp only [same, if_true, ite_self] at code ⊢
      cases segment_eq code rfl
      obtain ⟨w, rt, rfl, -, union⟩ := ShadowInst.exec_union off (exec_of_execShadow_singleton run)
      rw [← union]
      refine ⟨?_, rfl, held'⟩
      rw [DFSanFunction.getShadow_setShadow_self]
      exact Shadow.value_reg_of_length regs w
    · simp only [same, if_false] at code ⊢
      cases segment_eq code (List.append_assoc _ _ _)
      obtain ⟨σ₁, first, rest⟩ := execShadow_cons_ok run
      cases first
      obtain ⟨w, rt, rfl, -, union⟩ := ShadowInst.exec_union off (exec_of_execShadow_singleton rest)
      simp only [getShadow_value_push defined regs, Shadow.value_reg_of_length regs] at union
      rw [← union]
      refine ⟨?_, rfl, held'⟩
      rw [DFSanFunction.getShadow_setShadow_self]
      exact Shadow.value_reg_of_length (by simp [regs]) w

theorem visit_agrees (off : cfg.flags.reuseLabels = false) {inst : Inst} (inv : PassInv F k st)
    (fresh : st.valShadowMap k = none) (regs : σ.regs.length = st.code.length) (ssa : ∀ v ∈ inst.operands, v.Before k)
    (inApp : inst.InApp F fr) (labelled : ∀ v ∈ inst.operands, (st.getShadow v).value argTls σ.regs = lab v)
    (code : (st.visit opts k inst).code = st.code ++ seg) (run : execShadow cfg fr argTls retAddr seg σ = .ok σ')
    (held : m.Shadowed σ) :
    Agrees argTls k (st.visit opts k inst) σ' (inst.graphEffect F opts fr lab σ.rt.table.shape m) := by
  have plain (noResult : inst.hasResult = false) (pure : inst.writesMemory = false)
      (combines : inst.combinesLabels = false) (effect : inst.graphEffect F opts fr lab σ.rt.table.shape m = (0, σ.rt.table.shape, m)) :
      Agrees argTls k (st.visit opts k inst) σ' (inst.graphEffect F opts fr lab σ.rt.table.shape m) := by
    rw [effect]
    exact ⟨noResult_label fresh noResult _, visit_keeps_shape code run combines, visit_keeps_mem code run held pure⟩
  cases inst with
  | binaryOperator => exact binaryOperator_agrees off regs labelled code run held
  | cmp => exact operandShadow_agrees off regs inv.defined labelled code run held
  | operandShadow => exact operandShadow_agrees off regs inv.defined labelled code run held
  | load addr size => exact load_agrees inv (ssa addr (by simp [Inst.operands])) inApp regs code run held
  | store val addr size =>
    exact store_agrees off inv fresh (ssa addr (by simp [Inst.operands])) inApp regs labelled code run held
  | alloca =>
    refine ⟨?_, visit_keeps_shape code run rfl, visit_keeps_mem code run held rfl⟩
    simp [DFSanFunction.visit, DFSanFunction.visitAllocaInst_eq, DFSanFunction.getShadow, Shadow.value, Inst.graphEffect]
  | select => exact select_agrees off regs inv.defined labelled code run held
  | br | ret | other => exact plain rfl rfl rfl rfl
  | memSet dest val len =>
    exact ⟨noResult_label fresh (by rfl) _, visit_keeps_shape code run rfl,
      memSet_shadowed inApp (labelled val (by simp [Inst.operands])) code run held⟩
  | memTransfer dest src len loc =>
    exact ⟨noResult_label fresh (by rfl) _, visit_keeps_shape code run rfl,
      (memTransfer_shadowed inApp code run held : ((Inst.memTransfer dest src len loc).labelStep F fr lab m).Shadowed σ')⟩

end Agree

structure Represents (argTls : Nat → Nat) (k : Nat) (st : DFSanFunction) (g : LabelGraph) (σ : ShadowState) : Prop where
  labels : ∀ j < k, (st.getShadow (.inst j)).value argTls σ.regs = g.labels.getD j 0
  length : g.labels.length = k
  shape : σ.rt.table.shape = g.shape
  mem : g.mem.Shadowed σ

section Run

variable {cfg : Config} {fr : Frame} {argTls retAddr : Nat → Nat} {F : IRFunction} {opts : PassOptions} {k : Nat}
  {st : DFSanFunction} {g : LabelGraph} {σ σ' : ShadowState} {seg : List ShadowInst}

theorem Represents.operand (rep : Represents argTls k st g σ) (function : st.F = F) {v : IRValue}
    (before : v.Before k) : (st.getShadow v).value argTls σ.regs = g.operand F argTls v := by
  cases v with
  | arg i =>
    simp only [DFSanFunction.getShadow, LabelGraph.operand, function]
    split <;> rfl
  | inst j => exact rep.labels j before
  | _ => rfl

theorem Represents.visit (off : cfg.flags.reuseLabels = false) {inst : Inst} (rep : Represents argTls k st g σ)
    (inv : PassInv F k st) (fresh : st.valShadowMap k = none) (regs : σ.regs.length = st.code.length)
    (ssa : ∀ v ∈ inst.operands, v.Before k) (inApp : inst.InApp F fr)
    (code : (st.visit opts k inst).code = st.code ++ seg) (run : execShadow cfg fr argTls retAddr seg σ = .ok σ') :
    Represents argTls (k + 1) (st.visit opts k inst) (g.step F opts fr argTls inst) σ' := by
  have agrees := visit_agrees off inv fresh regs ssa inApp (fun v mem => rep.operand inv.function (ssa v mem)) code run
    rep.mem
  rw [rep.shape] at agrees
  obtain ⟨vs, grown, -⟩ := execShadow_regs run
  refine ⟨fun j lt => ?_, by simp [LabelGraph.step, rep.length], agrees.shape, agrees.mem⟩
  simp only [LabelGraph.step]
  rcases Nat.lt_succ_iff_lt_or_eq.mp lt with lt | rfl
  · have same : (st.visit opts k inst).getShadow (.inst j) = st.getShadow (.inst j) := by
      simp only [DFSanFunction.getShadow, (DFSanFunction.visit_step opts k inst st).vals j (by omega)]
    rw [same, Shadow.value_of_prefix (regs ▸ inv.defined.getShadow _) (grown ▸ List.prefix_append _ _), rep.labels j lt,
      List.getD_append _ _ _ _ (rep.length ▸ lt)]
  · rw [agrees.label, List.getD_append_right _ _ _ _ (le_of_eq rep.length), rep.length, Nat.sub_self]
    rfl

theorem passState_represents (off : cfg.flags.reuseLabels = false) (branchId : Nat) (ssa : F.SSA)
    (inApp : ∀ inst ∈ F.body, inst.InApp F fr) (rt : RuntimeState) (slots : Nat → Nat) (retvalTls : Nat) :
    ∀ k ≤ F.body.length, ∀ σk,
      execShadow cfg fr argTls retAddr (passState F opts branchId k).code ⟨rt, [], slots, retvalTls⟩ = .ok σk →
      Represents argTls k (passState F opts branchId k) ((LabelGraph.initial rt slots).run F opts fr argTls (F.body.take k))
        σk
  | 0, _, _, run => by
    cases run
    exact ⟨nofun, rfl, rfl, fun _ _ => rfl, rfl⟩
  | k + 1, le, σ', run => by
    have lt : k < F.body.length := by omega
    obtain ⟨seg, σk, code, first, later, length, -⟩ := passState_succ_run lt run
    rw [passState_succ lt, LabelGraph.run_take_succ _ _ _ _ _ lt]
    exact (passState_represents off branchId ssa inApp rt slots retvalTls k (by omega) σk first).visit off
      (passInv_passState k (by omega)) (passState_fresh k (by omega) k le_rfl) length (ssa ⟨k, lt⟩)
      (inApp _ (List.get_mem _ _ _)) code later

theorem instrument_represents (off : cfg.flags.reuseLabels = false) (branchId : Nat) (ssa : F.SSA)
    (inApp : ∀ inst ∈ F.body, inst.InApp F fr) {rt : RuntimeState} {slots : Nat → Nat} {retvalTls : Nat}
    {σ : ShadowState}
    (run : execShadow cfg fr argTls retAddr (instrument F opts branchId).code ⟨rt, [], slots, retvalTls⟩ = .ok σ) :
    Represents argTls F.body.length (instrument F opts branchId)
      ((LabelGraph.initial rt slots).run F opts fr argTls F.body) σ := by
  rw [instrument_eq_passState] at run ⊢
  simpa only [List.take_length] using passState_represents off branchId ssa inApp rt slots retvalTls _ le_rfl σ run

end Run

theorem instrumented_labels_follow_graph (F : IRFunction) (opts : PassOptions) (branchId : Nat) (ssa : F.SSA)
    (callFree : F.CallFree) (cfg : Config) (off : cfg.flags.reuseLabels = false) (fr : Frame) (argTls retAddr : Nat → Nat)
    (inApp : ∀ inst ∈ F.body, inst.InApp F fr) (rt : RuntimeState) (slots : Nat → Nat) (retvalTls : Nat) :
    let st := instrument F opts branchId
    let g := (LabelGraph.initial rt slots).run F opts fr argTls F.body
    match execShadow cfg fr argTls retAddr st.code ⟨rt, [], slots, retvalTls⟩ with
    | .ok σ => (∀ j < F.body.length, (st.getShadow (.inst j)).value argTls σ.regs = g.labels.getD j 0) ∧
      σ.rt.table.shape = g.shape ∧ g.mem.Shadowed σ
    | .error _ => True := by
  intro st g
  split
  · next σ run =>
    have rep := instrument_represents off branchId ssa inApp run
    exact ⟨rep.labels, rep.shape, rep.mem⟩
  · trivial

theorem instrumented_labels_follow_graph_mixed :
    let F : IRFunction := ⟨[.binaryOperator OpCode.MUL (.arg 0) (.arg 1) (.int 32) (.int 32) none,
      .select false (.arg 0) (.inst 0) (.arg 1), .store (.inst 1) (.arg 2) 4,
      .memTransfer (.arg 3) (.arg 2) (.intConst 4) none, .load (.arg 3) 4,
      .cmp OpCode.ICMP Predicate.ICMP_SGT (.inst 4) (.intConst 7) (.int 32), .br (some (.inst 5)) none], false,
      fun _ => false⟩
    let fr : Frame := ⟨fun v => match v with
      | .arg 2 => 0x700000008000
      | .arg 3 => 0x700000010000
      | _ => 3, fun _ => 0⟩
    let st := instrument F ⟨true, 0⟩ 0
    let g := (LabelGraph.initial (createdState (some "x")) fun _ => 0).run F ⟨true, 0⟩ fr (fun _ => 1) F.body
    match execShadow ⟨⟨false, 1, false, false, false, false⟩, false⟩ fr (fun _ => 1) (fun _ => 0) st.code
        ⟨createdState (some "x"), [], fun _ => 0, 0⟩ with
    | .ok σ => (∀ j < F.body.length, (st.getShadow (.inst j)).value (fun _ => 1) σ.regs = g.labels.getD j 0) ∧
      σ.rt.table.shape = g.shape ∧ g.mem.Shadowed σ
    | .error _ => True := by
  intro F fr st g
  exact instrumented_labels_follow_graph F ⟨true, 0⟩ 0 (by decide) (by decide) ⟨⟨false, 1, false, false, false, false⟩, false⟩ rfl fr
    (fun _ => 1) (fun _ => 0) (by decide) (createdState (some "x")) (fun _ => 0) 0

def Inst.ReadsAlike (fr fr' : Frame) : Inst → Prop
  | .load addr _ | .store _ addr _ => fr.ptr addr = fr'.ptr addr
  | .memSet dest _ len => fr.ptr dest = fr'.ptr dest ∧ fr.ptr len = fr'.ptr len
  | .memTransfer dest src len _ => fr.ptr dest = fr'.ptr dest ∧ fr.ptr src = fr'.ptr src ∧ fr.ptr len = fr'.ptr len
  | .select vectorCond cond _ _ => vectorCond = false → (fr.int cond ≠ 0 ↔ fr'.int cond ≠ 0)
  | _ => True

instance (fr fr' : Frame) : DecidablePred (Inst.ReadsAlike fr fr')
  | .load addr _ | .store _ addr _ => inferInstanceAs (Decidable (fr.ptr addr = fr'.ptr addr))
  | .memSet dest _ len => inferInstanceAs (Decidable (fr.ptr dest = fr'.ptr dest ∧ fr.ptr len = fr'.ptr len))
  | .memTransfer dest src len _ =>
    inferInstanceAs (Decidable (fr.ptr dest = fr'.ptr dest ∧ fr.ptr src = fr'.ptr src ∧ fr.ptr len = fr'.ptr len))
  | .select vectorCond cond _ _ =>
    inferInstanceAs (Decidable (vectorCond = false → (fr.int cond ≠ 0 ↔ fr'.int cond ≠ 0)))
  | .binaryOperator .. | .cmp .. | .operandShadow .. | .alloca | .br .. | .ret _ | .other => isTrue trivial

section Values

variable {F : IRFunction} {opts : PassOptions} {argTls : Nat → Nat} {fr fr' : Frame}

theorem Inst.graphEffect_frame {inst : Inst} (alike : inst.ReadsAlike fr fr') (lab : IRValue → Nat) (σ : LabelShape)
    (m : LabelMemory) : inst.graphEffect F opts fr lab σ m = inst.graphEffect F opts fr' lab σ m := by
  cases inst with
  | select vectorCond cond =>
    cases vectorCond
    · simp only [Inst.graphEffect, Bool.false_eq_true, if_false, ne_eq, not_iff_not.mp (alike rfl)]
    · rfl
  | _ => simp_all [Inst.ReadsAlike, Inst.graphEffect, loadLabel, LabelMemory.store, Inst.labelStep]

theorem LabelGraph.run_frame : ∀ {body : List Inst} (g : LabelGraph), (∀ inst ∈ body, inst.ReadsAlike fr fr') →
    g.run F opts fr argTls body = g.run F opts fr' argTls body
  | [], _, _ => rfl
  | inst :: body, g, alike => by
    show (g.step F opts fr argTls inst).run F opts fr argTls body = (g.step F opts fr' argTls inst).run F opts fr' argTls body
    rw [LabelGraph.step, LabelGraph.step, Inst.graphEffect_frame (alike inst (List.mem_cons_self _ _))]
    exact LabelGraph.run_frame _ fun i mem => alike i (List.mem_cons_of_mem _ mem)

theorem Inst.InApp.of_readsAlike {inst : Inst} (app : inst.InApp F fr) (alike : inst.ReadsAlike fr fr') :
    inst.InApp F fr' := by
  cases inst <;> simp_all [Inst.InApp, Inst.ReadsAlike]

end Values

theorem instrumented_labels_ignore_values (F : IRFunction) (opts : PassOptions) (branchId : Nat) (ssa : F.SSA)
    (callFree : F.CallFree) (cfg : Config) (off : cfg.flags.reuseLabels = false) (fr fr' : Frame)
    (alike : ∀ inst ∈ F.body, inst.ReadsAlike fr fr') (argTls retAddr : Nat → Nat)
    (inApp : ∀ inst ∈ F.body, inst.InApp F fr) (rt : RuntimeState) (slots : Nat → Nat) (retvalTls : Nat) :
    let st := instrument F opts branchId
    match execShadow cfg fr argTls retAddr st.code ⟨rt, [], slots, retvalTls⟩,
      execShadow cfg fr' argTls retAddr st.code ⟨rt, [], slots, retvalTls⟩ with
    | .ok σ, .ok σ' =>
      (∀ j < F.body.length, (st.getShadow (.inst j)).value argTls σ.regs = (st.getShadow (.inst j)).value argTls σ'.regs) ∧
      σ.rt.table.shape = σ'.rt.table.shape ∧ (∀ x, AppAddr x → σ.rt.shadow (shadowFor x) = σ'.rt.shadow (shadowFor x)) ∧
      σ.slots = σ'.slots
    | _, _ => True := by
  intro st
  split
  · next σ σ' run run' =>
    have rep := instrument_represents off branchId ssa inApp run
    have rep' := instrument_represents off branchId ssa
      (fun inst mem => (inApp inst mem).of_readsAlike (alike inst mem)) run'
    rw [← LabelGraph.run_frame _ alike] at rep'
    exact ⟨fun j lt => (rep.labels j lt).trans (rep'.labels j lt).symm, rep.shape.trans rep'.shape.symm,
      fun x app => (rep.mem.1 x app).trans (rep'.mem.1 x app).symm, rep.mem.2.trans rep'.mem.2.symm⟩
  · trivial

theorem instrumented_labels_ignore_values_mixed :
    let F : IRFunction := ⟨[.binaryOperator OpCode.MUL (.arg 0) (.arg 1) (.int 32) (.int 32) none,
      .select false (.arg 0) (.inst 0) (.arg 1), .store (.inst 1) (.arg 2) 4,
      .memTransfer (.arg 3) (.arg 2) (.intConst 4) none, .load (.arg 3) 4,
      .cmp OpCode.ICMP Predicate.ICMP_SGT (.inst 4) (.intConst 7) (.int 32), .br (some (.inst 5)) none], false,
      fun _ => false⟩
    let fr : Frame := ⟨fun v => match v with
      | .arg 2 => 0x700000008000
      | .arg 3 => 0x700000010000
      | _ => 3, fun _ => 0⟩
    let fr' : Frame := ⟨fun v => match v with
      | .arg 2 => 0x700000008000
      | .arg 3 => 0x700000010000
      | _ => -5, fun _ => 0⟩
    let st := instrument F ⟨true, 0⟩ 0
    match execShadow ⟨⟨false, 1, false, false, false, false⟩, false⟩ fr (fun _ => 1) (fun _ => 0) st.code
        ⟨createdState (some "x"), [], fun _ => 0, 0⟩,
      execShadow ⟨⟨false, 1, false, false, false, false⟩, false⟩ fr' (fun _ => 1) (fun _ => 0) st.code
        ⟨createdState (some "x"), [], fun _ => 0, 0⟩ with
    | .ok σ, .ok σ' =>
      (∀ j < F.body.length, (st.getShadow (.inst j)).value (fun _ => 1) σ.regs =
        (st.getShadow (.inst j)).value (fun _ => 1) σ'.regs) ∧
      σ.rt.table.shape = σ'.rt.table.shape ∧ (∀ x, AppAddr x → σ.rt.shadow (shadowFor x) = σ'.rt.shadow (shadowFor x)) ∧
      σ.slots = σ'.slots
    | _, _ => True := by
  intro F fr fr' st
  exact instrumented_labels_ignore_values F ⟨true, 0⟩ 0 (by decide) (by decide) ⟨⟨false, 1, false, false, false, false⟩, false⟩ rfl
    fr fr' (by decide) (fun _ => 1) (fun _ => 0) (by decide) (createdState (some "x")) (fun _ => 0) 0

end Grsan
