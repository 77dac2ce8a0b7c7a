import Grsan.Pass.ShadowCode
import Grsan.Runtime.PerfMode
import Mathlib.Data.List.Nodup

set_option autoImplicit false

namespace Grsan

def ShadowInst.branchSite : ShadowInst → Option (Nat × Nat)
  | .branch _ _ _ _ _ _ _ fileId brId _ => some (fileId, brId)
  | _ => none

def DFSanFunction.branchSites (st : DFSanFunction) : List (Nat × Nat) :=
  st.code.filterMap ShadowInst.branchSite

def instrumentFrom (opts : PassOptions) : Nat → List IRFunction → List DFSanFunction
  | _, [] => []
  | branchId, F :: fns => instrument F opts branchId :: instrumentFrom opts (instrument F opts branchId).branchId fns

-- `runOnModule` after `doInitialization` has set `branch_id` to 0.
def instrumentModule (opts : PassOptions) (fns : List IRFunction) : List DFSanFunction :=
  instrumentFrom opts 0 fns

namespace DFSanFunction

structure Quiet (st st' : DFSanFunction) : Prop where
  branchId : st'.branchId = st.branchId
  sites : st'.branchSites = st.branchSites

variable {st st₁ st₂ : DFSanFunction}

theorem Quiet.refl (st : DFSanFunction) : Quiet st st := ⟨rfl, rfl⟩

theorem Quiet.trans (h₁ : Quiet st st₁) (h₂ : Quiet st₁ st₂) : Quiet st st₂ :=
  ⟨h₂.branchId.trans h₁.branchId, h₂.sites.trans h₁.sites⟩

theorem quiet_emitAll {sis : List ShadowInst} (none : sis.filterMap ShadowInst.branchSite = []) :
    Quiet st (st.emitAll sis) :=
  ⟨rfl, by simp [emitAll, branchSites, none]⟩

theorem quiet_emit {si : ShadowInst} (none : si.branchSite = none) : Quiet st (st.emit si).2 :=
  @quiet_emitAll st [si] (by simp [none])

theorem quiet_setShadow (i : Nat) (s : Shadow) : Quiet st (st.setShadow i s) := ⟨rfl, rfl⟩

theorem quiet_combineShadows (v1 v2 : Shadow) (opcode : Nat) : Quiet st (st.combineShadows v1 v2 opcode).2 :=
  quiet_emit rfl

theorem quiet_combineRest (opcode : Nat) :
    ∀ (s : Shadow) (vs : List IRValue) (st : DFSanFunction), Quiet st (combineRest opcode s vs st).2
  | _, [], st => Quiet.refl st
  | _, _ :: vs, _ => (quiet_combineShadows _ _ _).trans (quiet_combineRest opcode _ vs _)

theorem quiet_combineOperandShadows (opcode : Nat) :
    ∀ vs : List IRValue, Quiet st (st.combineOperandShadows opcode vs).2
  | [] => Quiet.refl st
  | _ :: vs => quiet_combineRest opcode _ vs st

theorem quiet_visitOperandShadowInst (i opcode : Nat) (ops : List IRValue) :
    Quiet st (st.visitOperandShadowInst i opcode ops) :=
  show Quiet st ((st.combineOperandShadows opcode ops).2.setShadow i (st.combineOperandShadows opcode ops).1) from
    (quiet_combineOperandShadows opcode ops).trans (quiet_setShadow _ _)

theorem quiet_loadShadow (addr : IRValue) (size : Nat) : Quiet st (st.loadShadow addr size).2 := by
  unfold loadShadow
  split
  · exact quiet_emit rfl
  · split
    · exact Quiet.refl st
    · split
      · exact Quiet.refl st
      · exact quiet_emit rfl

theorem storeShadowCode_branchSites (addr : IRValue) (size : Nat) (s : Shadow) :
    (storeShadowCode addr size s).filterMap ShadowInst.branchSite = [] :=
  List.filterMap_eq_nil_iff.mpr fun _ mem => by
    rcases mem_storeShadowCode mem with rfl | ⟨_, rfl⟩ | ⟨_, rfl⟩ <;> rfl

theorem quiet_storeShadow (addr : IRValue) (size : Nat) (s : Shadow) : Quiet st (st.storeShadow addr size s) := by
  unfold storeShadow
  split
  · exact quiet_emit rfl
  · exact quiet_emitAll (storeShadowCode_branchSites addr size s)

theorem visit_branch_cases (opts : PassOptions) (i : Nat) (inst : Inst) (st : DFSanFunction) :
    Quiet st (st.visit opts i inst) ∨
      ((st.visit opts i inst).branchId = (st.branchId + 1) % 2 ^ 64 ∧
        (st.visit opts i inst).branchSites = st.branchSites ++ [(opts.fileId, st.branchId)]) := by
  cases inst with
  | binaryOperator => exact .inl ((quiet_emit (by rfl)).trans (quiet_setShadow _ _))
  | cmp opcode _ lhs rhs => exact .inl (quiet_visitOperandShadowInst i opcode [lhs, rhs])
  | operandShadow opcode ops => exact .inl (quiet_visitOperandShadowInst i opcode ops)
  | load addr size =>
    simp only [visit, visitLoadInst]
    split
    · exact .inl (quiet_setShadow _ _)
    · exact .inl ((quiet_loadShadow _ _).trans (quiet_setShadow _ _))
  | store val addr size =>
    simp only [visit, visitStoreInst]
    split
    · exact .inl (Quiet.refl st)
    · split
      · exact .inl ((quiet_combineShadows _ _ _).trans (quiet_storeShadow _ _ _))
      · exact .inl (quiet_storeShadow _ _ _)
  | alloca =>
    simp only [visit, visitAllocaInst]
    split
    · exact .inl ⟨rfl, rfl⟩
    · exact .inl ⟨rfl, rfl⟩
  | select vectorCond cond t f =>
    simp only [visit, visitSelectInst]
    split
    · exact .inl (((quiet_combineShadows _ _ _).trans (quiet_combineShadows _ _ _)).trans (quiet_setShadow _ _))
    · split
      · exact .inl ((quiet_combineShadows _ _ _).trans (quiet_setShadow _ _))
      · exact .inl (((quiet_emit (by rfl)).trans (quiet_combineShadows _ _ _)).trans (quiet_setShadow _ _))
  | br cond loc =>
    simp only [visit, visitBranchInst]
    split
    · split
      · unfold recordBranchInst
        split
        · exact .inl (Quiet.refl st)
        · exact .inr ⟨rfl, by simp [branchSites, emit, ShadowInst.branchSite]⟩
      · exact .inl (Quiet.refl st)
    · exact .inl (Quiet.refl st)
  | memSet => exact .inl (quiet_emit rfl)
  | memTransfer => exact .inl (quiet_emit rfl)
  | ret v =>
    simp only [visit, visitReturnInst]
    split
    · split
      · exact .inl (Quiet.refl st)
      · exact .inl (quiet_emit rfl)
    · exact .inl (Quiet.refl st)
  | other => exact .inl (Quiet.refl st)

end DFSanFunction

section Sites

open DFSanFunction

theorem branchId_shift (b j : Nat) : ((b + 1) % 2 ^ 64 + j) % 2 ^ 64 = (b + (j + 1)) % 2 ^ 64 := by
  rw [Nat.mod_add_mod, Nat.add_right_comm, Nat.add_assoc]

theorem visitAll_branchSites (opts : PassOptions) :
    ∀ (i : Nat) (body : List Inst) (st : DFSanFunction), st.branchId < 2 ^ 64 →
      ∃ c, (visitAll opts i body st).branchId = (st.branchId + c) % 2 ^ 64 ∧
        (visitAll opts i body st).branchSites =
          st.branchSites ++ (List.range c).map fun j => (opts.fileId, (st.branchId + j) % 2 ^ 64)
  | _, [], st, lt => ⟨0, (Nat.mod_eq_of_lt lt).symm, by simp [visitAll]⟩
  | i, inst :: body, st, lt => by
    rcases visit_branch_cases opts i inst st with quiet | ⟨counter, sites⟩
    · obtain ⟨c, counter', sites'⟩ :=
        visitAll_branchSites opts (i + 1) body (st.visit opts i inst) (quiet.branchId.symm ▸ lt)
      exact ⟨c, by rw [visitAll, counter', quiet.branchId], by rw [visitAll, sites', quiet.sites, quiet.branchId]⟩
    · obtain ⟨c, counter', sites'⟩ :=
        visitAll_branchSites opts (i + 1) body _ (counter ▸ Nat.mod_lt _ (by norm_num))
      refine ⟨c + 1, ?_, ?_⟩
      · rw [visitAll, counter', counter, branchId_shift]
      · have first : (st.branchId + 0) % 2 ^ 64 = st.branchId := Nat.mod_eq_of_lt lt
        have shift : (fun j => (opts.fileId, ((st.branchId + 1) % 2 ^ 64 + j) % 2 ^ 64)) =
            (fun j => (opts.fileId, (st.branchId + j) % 2 ^ 64)) ∘ Nat.succ :=
          funext fun j => congrArg (Prod.mk opts.fileId) (branchId_shift _ j)
        rw [visitAll, sites', sites, counter, List.range_succ_eq_map, List.map_cons, List.map_map, first, shift,
          List.append_assoc, List.singleton_append]

theorem instrumentFrom_branchSites (opts : PassOptions) :
    ∀ (fns : List IRFunction) (b : Nat), b < 2 ^ 64 →
      ∃ c, (instrumentFrom opts b fns).flatMap branchSites = (List.range c).map fun j => (opts.fileId, (b + j) % 2 ^ 64)
  | [], _, _ => ⟨0, rfl⟩
  | F :: fns, b, lt => by
    obtain ⟨c₁, counter, sites⟩ := visitAll_branchSites opts 0 F.body ⟨F, fun _ => none, fun _ => none, [], b⟩ lt
    obtain ⟨c₂, rest⟩ := instrumentFrom_branchSites opts fns (instrument F opts b).branchId
      (counter ▸ Nat.mod_lt _ (by norm_num))
    refine ⟨c₁ + c₂, ?_⟩
    rw [instrumentFrom, List.flatMap_cons, rest, instrument, sites, counter, List.range_add, List.map_append,
      List.map_map]
    simp [branchSites, Function.comp_def, Nat.mod_add_mod, Nat.add_assoc]

end Sites

theorem module_branch_ids_consecutive (opts : PassOptions) (fns : List IRFunction) :
    let sites := (instrumentModule opts fns).flatMap DFSanFunction.branchSites
    sites = (List.range sites.length).map (fun j => (opts.fileId, j % 2 ^ 64)) ∧
      (sites.length ≤ 2 ^ 64 → sites.Nodup) := by
  intro sites
  obtain ⟨c, closed⟩ := instrumentFrom_branchSites opts fns 0 (by norm_num)
  simp only [Nat.zero_add] at closed
  have length : sites.length = c := by rw [show sites = _ from closed, List.length_map, List.length_range]
  refine ⟨length ▸ closed, fun le => ?_⟩
  rw [show sites = _ from closed]
  refine (List.nodup_range c).map_on fun x hx y hy same => ?_
  rw [List.mem_range] at hx hy
  rw [Prod.mk.injEq, Nat.mod_eq_of_lt (by omega), Nat.mod_eq_of_lt (by omega)] at same
  exact same.2

def ShadowInst.recordId : ShadowInst → Option (Nat × Nat)
  | .branch (.int _ _) _ _ _ _ _ _ fileId brId _ => some (fileId, brId)
  | .branch .float _ _ _ _ _ _ fileId brId _ | .branch .double _ _ _ _ _ _ fileId brId _ =>
    some (fileId, brId % 2 ^ 16)
  | _ => none

def RecordsName (R : Nat → BranchRecord) (ids : List (Nat × Nat)) (s : RuntimeState) : Prop :=
  ∀ i, s.logs.branchRecords i = R i ∨ ((s.logs.branchRecords i).fileId, (s.logs.branchRecords i).instId) ∈ ids

section Records

variable {R : Nat → BranchRecord} {ids : List (Nat × Nat)} {cfg : Config}

theorem RecordsName.write {s : RuntimeState} (h : RecordsName R ids s) (index : Nat) {r : BranchRecord}
    (named : (r.fileId, r.instId) ∈ ids) :
    RecordsName R ids { s with logs := { s.logs with branchRecords := Function.update s.logs.branchRecords index r } } := by
  intro i
  by_cases at_index : i = index
  · subst at_index
    exact .inr (by simpa using named)
  · simpa [Function.update_noteq at_index] using h i

theorem recordsName_frame : LogFrame (RecordsName R ids) fun _ => True :=
  ⟨fun _ _ h => h, fun _ _ h => h, trivial, trivial, trivial⟩

theorem recordsName_argKeeps : ArgKeeps (RecordsName R ids) (fun _ => True) cfg fun _ => True := by
  intro _ _ _ _ _ _ _
  refine keeps_ite (keeps_pure _) (keeps_bind (keeps_pure _) fun _ => keeps_get_bind fun _ _ =>
    keeps_bind (keeps_modify fun _ h => h) fun _ =>
      keeps_ite (keeps_bind (keeps_die trivial) fun _ => ?_) (keeps_bind (keeps_pure _) fun _ => ?_)) <;>
  exact keeps_modify fun _ h => h

theorem recordsName_logBranch {fileId brId lhs rhs isPtr : Nat} {lhsV rhsV : FloatVal} {cond : Bool}
    {location : Option String} (named : (fileId, brId) ∈ ids) :
    Keeps (RecordsName R ids) (fun _ => True) (logBranch cfg fileId brId lhs rhs lhsV rhsV cond isPtr location) := by
  refine keeps_ite (keeps_pure _) (keeps_get_bind fun _ _ => keeps_bind (keeps_modify fun _ h => h) fun _ =>
    keeps_ite (keeps_bind (keeps_die trivial) fun _ => ?_) (keeps_bind (keeps_pure _) fun _ => ?_)) <;>
  exact keeps_modify fun _ h => h.write _ named

theorem ShadowInst.call_recordsName {si : ShadowInst} (named : ∀ id, si.recordId = some id → id ∈ ids)
    {fr : Frame} {label : Shadow → Nat} {r : Nat} {c : Call} (call : si.call fr label r = some c) :
    Keeps (RecordsName R ids) (fun _ => True) (step cfg c) := by
  have pure0 {x : Rt Unit} (h : Keeps (RecordsName R ids) (fun _ => True) x) :
      Keeps (RecordsName R ids) (fun _ => True) (do x; pure 0) :=
    keeps_bind h fun _ => keeps_pure _
  cases si with
  | union fn =>
    cases fn <;> cases call
    · exact keeps_intUnion recordsName_frame recordsName_argKeeps _ (.inr trivial) _ _ _ _
    · exact keeps_floatUnion recordsName_frame recordsName_argKeeps (.inr trivial) _ _ _ _
    · exact keeps_floatUnion recordsName_frame recordsName_argKeeps (.inr trivial) _ _ _ _
    · exact keeps_dfsanUnionUnsupportedType recordsName_frame _ _ _ _
  | branch fn =>
    cases fn <;> cases call
    · exact pure0 (keeps_ite (keeps_pure _) <| keeps_bind (recordsName_logBranch (named _ rfl)) fun _ =>
        keeps_ite (keeps_branchBarrier recordsName_frame _ _ _ _ _ _ _ _) (keeps_pure _))
    · exact pure0 (keeps_ite (recordsName_logBranch (named _ rfl)) (keeps_pure _))
    · exact pure0 (keeps_ite (recordsName_logBranch (named _ rfl)) (keeps_pure _))
  | setLabel => cases call; exact pure0 (keeps_dfsanSetLabel recordsName_frame _ _ _)
  | memcpy =>
    cases call
    exact pure0 (keeps_memcpy recordsName_frame recordsName_argKeeps (fun _ _ => trivial) _ _ _ _ _)
  | select | load | allocaLoad | storeZero | storeVec | storeSlot | allocaStore | retval => cases call

variable {fr : Frame} {argTls : Nat → Nat}

theorem ShadowInst.exec_recordsName {si : ShadowInst} (named : ∀ id, si.recordId = some id → id ∈ ids) {r : Nat}
    {σ : ShadowState} (h : RecordsName R ids σ.rt) :
    match si.exec cfg fr argTls r σ with
    | .ok σ' => RecordsName R ids σ'.rt
    | .error e => e.Keeps (RecordsName R ids) fun _ => True := by
  cases call : si.call fr (fun s => s.value argTls σ.regs) r with
  | some c =>
    have keeps : Keeps (RecordsName R ids) (fun _ => True) (step cfg c) := ShadowInst.call_recordsName named call
    replace keeps := keeps σ.rt h
    rw [ShadowInst.exec_call call]
    cases run : (step cfg c).run σ.rt with
    | error e => rw [run] at keeps; exact keeps
    | ok p => rw [run] at keeps; exact keeps
  | none =>
    cases si with
    | union fn => cases fn <;> cases call
    | branch fn => cases fn <;> cases call
    | _ => first | exact h | cases call

theorem execShadow_recordsName {retAddr : Nat → Nat} : ∀ {code : List ShadowInst} {σ : ShadowState},
    (∀ si ∈ code, ∀ id, si.recordId = some id → id ∈ ids) → RecordsName R ids σ.rt →
    match execShadow cfg fr argTls retAddr code σ with
    | .ok σ' => RecordsName R ids σ'.rt
    | .error e => e.Keeps (RecordsName R ids) fun _ => True
  | [], _, _, h => h
  | si :: rest, σ, named, h => by
    have first := @ShadowInst.exec_recordsName _ _ cfg fr argTls _ (named si (.head _)) (retAddr σ.regs.length) _ h
    rw [execShadow]
    cases run : si.exec cfg fr argTls (retAddr σ.regs.length) σ with
    | error e => rw [run] at first; exact first
    | ok σ₁ => rw [run] at first; exact execShadow_recordsName (fun si' mem => named si' (.tail _ mem)) first

end Records

theorem branch_records_name_branch_sites (F : IRFunction) (callFree : F.CallFree) (opts : PassOptions)
    (branchId : Nat) (cfg : Config) (fr : Frame) (argTls retAddr : Nat → Nat) (rt : RuntimeState) (slots : Nat → Nat) (retvalTls : Nat) :
    let st := instrument F opts branchId
    match execShadow cfg fr argTls retAddr st.code ⟨rt, [], slots, retvalTls⟩ with
    | .ok σ => RecordsName rt.logs.branchRecords (st.code.filterMap ShadowInst.recordId) σ.rt
    | .error e => e.Keeps (RecordsName rt.logs.branchRecords (st.code.filterMap ShadowInst.recordId)) fun _ => True :=
  execShadow_recordsName (fun _ mem _ some => List.mem_filterMap.mpr ⟨_, mem, some⟩) fun _ => .inl rfl

theorem branch_records_name_branch_sites_compare :
    let F : IRFunction := ⟨[.cmp OpCode.ICMP Predicate.ICMP_SGT (.arg 0) (.intConst 7) (.int 32),
      .br (some (.inst 0)) none], false, fun _ => false⟩
    let st := instrument F ⟨false, 3⟩ 0
    match execShadow ⟨⟨false, 1, false, false, false, true⟩, false⟩ ⟨fun _ => 9, fun _ => 0⟩ (fun _ => 1) (fun _ => 0)
        st.code ⟨createdState (some "x"), [], fun _ => 0, 0⟩ with
    | .ok σ => RecordsName (createdState (some "x")).logs.branchRecords (st.code.filterMap ShadowInst.recordId) σ.rt
    | .error e =>
      e.Keeps (RecordsName (createdState (some "x")).logs.branchRecords (st.code.filterMap ShadowInst.recordId))
        fun _ => True := by
  intro F st
  exact branch_records_name_branch_sites F (by decide) ⟨false, 3⟩ 0 ⟨⟨false, 1, false, false, false, true⟩, false⟩
    ⟨fun _ => 9, fun _ => 0⟩ (fun _ => 1) (fun _ => 0) (createdState (some "x")) (fun _ => 0) 0

end Grsan
