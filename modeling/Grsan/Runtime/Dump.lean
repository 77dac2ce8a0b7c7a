import Grsan.Runtime.Frame

set_option autoImplicit false

namespace Grsan

-- One row of `dfsan_dump_labels`: label, ndx, pdx, location, f_val and the opcode
-- (printed through `opcodeNames`).
abbrev LabelRow := Nat × FloatVal × FloatVal × Option String × Int × Nat

-- `for (uptr l = 1; l <= last_label; ++l)`
def dfsanDumpLabels (t : LabelTable) : List LabelRow :=
  (List.range' 1 t.dfsanLastLabel).map fun l =>
    let i := t.dfsanLabelInfo l
    (l, i.negDydx, i.posDydx, i.loc, i.fVal, i.opcode)

def dfsanDumpBranches (g : Logs) : Option (List BranchRecord) :=
  if g.dfsanRecordIndex ≤ BRANCH_RECORDS_SIZE then some ((List.range g.dfsanRecordIndex).map g.branchRecords)
  else none

-- `last_index` is an `unsigned short`, never past the `FUNC_ARGS_SIZE` entries.
def dfsanDumpFuncArgs (g : Logs) : List FuncArgRecord :=
  (List.range g.dfsanArgIndex).map g.funcArgRecords

structure Dump where
  labels : List LabelRow
  branches : Option (List BranchRecord)
  funcArgs : List FuncArgRecord

-- The log files are taken to be set; in performance mode nothing is written.
def dfsanFini (cfg : Config) (s : RuntimeState) : Option Dump :=
  if cfg.grModePerf then none
  else some ⟨dfsanDumpLabels s.table, dfsanDumpBranches s.logs, dfsanDumpFuncArgs s.logs⟩

theorem dfsanFini_logging {cfg : Config} (logging : cfg.grModePerf = false) (s : RuntimeState) :
    dfsanFini cfg s = some ⟨dfsanDumpLabels s.table, dfsanDumpBranches s.logs, dfsanDumpFuncArgs s.logs⟩ := by
  simp [dfsanFini, logging]

section Counters

variable {s : RuntimeState}

theorem allocLabel_run_fresh (fresh : (s.table.dfsanLastLabel + 1) % kNumLabels ≠ kInitializingLabel) :
    allocLabel.run s = .ok ((s.table.dfsanLastLabel + 1) % kNumLabels,
      { s with table := { s.table with dfsanLastLabel := (s.table.dfsanLastLabel + 1) % kNumLabels } }) := by
  simp [allocLabel, dfsanCheckLabel, fresh]

theorem allocLabel_run_exhausted (full : (s.table.dfsanLastLabel + 1) % kNumLabels = kInitializingLabel) :
    allocLabel.run s = .error (.die { s with table := { s.table with dfsanLastLabel := kInitializingLabel } }
      "FATAL: DataFlowSanitizer: out of labels\n") := by
  simp [allocLabel, dfsanCheckLabel, full]

theorem recordBranch_run_die {fileId instId lhs rhs isPtr : Nat} {lhsV rhsV : FloatVal} {cond : Bool}
    {location : Option String} (full : BRANCH_RECORDS_SIZE ≤ s.logs.dfsanRecordIndex) :
    (recordBranch fileId instId lhs rhs lhsV rhsV cond isPtr location).run s =
      .error (.die { s with logs := { s.logs with
        dfsanRecordIndex := (s.logs.dfsanRecordIndex + 1) % 2 ^ 64 } } "ERROR: Out of branch record space!\n") := by
  simp [recordBranch, full]

theorem recordBranch_run_ok {fileId instId lhs rhs isPtr : Nat} {lhsV rhsV : FloatVal} {cond : Bool}
    {location : Option String} (room : s.logs.dfsanRecordIndex < BRANCH_RECORDS_SIZE) :
    ∃ s', (recordBranch fileId instId lhs rhs lhsV rhsV cond isPtr location).run s = .ok ((), s') ∧
      s'.logs.dfsanRecordIndex = s.logs.dfsanRecordIndex + 1 := by
  simp only [recordBranch, run_bind, run_get, except_ok_bind, run_modifyLogs, run_ite, run_die,
    if_neg (Nat.not_le.mpr room)]
  refine ⟨_, rfl, Nat.mod_eq_of_lt ?_⟩
  unfold BRANCH_RECORDS_SIZE at room
  omega

theorem recordArg_run_die {cfg : Config} {fileId instId argInd label : Nat} {v : FloatVal}
    {location : Option String} (logging : cfg.grModePerf = false) (full : FUNC_ARGS_SIZE ≤ s.logs.dfsanArgIndex) :
    (recordArg cfg fileId instId argInd label v location).run s =
      .error (.die { s with logs := { s.logs with
        dfsanArgIndex := (s.logs.dfsanArgIndex + 1) % 2 ^ 16 } } "ERROR: Out of func record space!\n") := by
  simp [recordArg, logging, full]

theorem recordArg_run_ok {cfg : Config} {fileId instId argInd label : Nat} {v : FloatVal}
    {location : Option String} (logging : cfg.grModePerf = false) (room : s.logs.dfsanArgIndex < FUNC_ARGS_SIZE) :
    ∃ s', (recordArg cfg fileId instId argInd label v location).run s = .ok ((), s') ∧
      s'.logs.dfsanArgIndex = s.logs.dfsanArgIndex + 1 := by
  simp only [recordArg, logging, run_bind, run_get, run_pure, except_ok_bind, run_modifyLogs, run_ite, run_die,
    if_neg (Nat.not_le.mpr room), Bool.false_eq_true, if_false]
  refine ⟨_, rfl, Nat.mod_eq_of_lt ?_⟩
  unfold FUNC_ARGS_SIZE at room
  omega

end Counters

theorem run_replicate_dies {cfg : Config} {c : Call} (κ : RuntimeState → Nat) (I : RuntimeState → Prop)
    (bound : Nat) {msg : String} {P : RuntimeState → Prop}
    (succ : ∀ s, I s → κ s < bound → ∃ r s', (step cfg c).run s = .ok (r, s') ∧ I s' ∧ κ s' = κ s + 1)
    (fail : ∀ s, I s → κ s = bound → ∃ s', (step cfg c).run s = .error (.die s' msg) ∧ P s') :
    ∀ n s, I s → κ s + n = bound →
      ∃ s', (run cfg (List.replicate (n + 1) c)).run s = .error (.die s' msg) ∧ P s' := by
  intro n
  induction n with
  | zero =>
    intro s inv at_bound
    obtain ⟨s', dies, post⟩ := fail s inv at_bound
    exact ⟨s', by simp [run, dies], post⟩
  | succ n ih =>
    intro s inv below
    obtain ⟨r, s₁, first, inv₁, next⟩ := succ s inv (by omega)
    obtain ⟨s', dies, post⟩ := ih s₁ inv₁ (by omega)
    refine ⟨s', ?_, post⟩
    rw [List.replicate_succ, run, run_bind, first, except_ok_bind]
    simp only [run_bind, dies, except_error_bind]

theorem create_labels_exhaust (cfg : Config) :
    ∃ s, (run cfg (List.replicate 65535 (.createLabel none))).run flushedState =
      .error (.die s "FATAL: DataFlowSanitizer: out of labels\n") ∧
      s.table.dfsanLastLabel = kInitializingLabel ∧ s.table.dfsanLabelInfo kInitializingLabel = default := by
  refine run_replicate_dies (fun s => s.table.dfsanLastLabel)
    (fun s => s.table.dfsanLabelInfo kInitializingLabel = default) 65534 ?_ ?_ 65534 flushedState rfl rfl
  · intro s untouched below
    dsimp only at untouched below ⊢
    have fresh : (s.table.dfsanLastLabel + 1) % kNumLabels = s.table.dfsanLastLabel + 1 :=
      Nat.mod_eq_of_lt (by unfold kNumLabels; omega)
    simp only [step, dfsanCreateLabel, run_bind, allocLabel_run_fresh (by rw [fresh]; unfold kInitializingLabel; omega),
      except_ok_bind, setLabelInfo_run, run_pure, fresh]
    refine ⟨_, _, rfl, ?_, rfl⟩
    dsimp only
    rw [Function.update_noteq (show kInitializingLabel ≠ s.table.dfsanLastLabel + 1 by
      unfold kInitializingLabel; omega)]
    exact untouched
  · intro s untouched full
    dsimp only at untouched full ⊢
    refine ⟨{ s with table := { s.table with dfsanLastLabel := kInitializingLabel } }, ?_, rfl, untouched⟩
    simp only [step, dfsanCreateLabel, run_bind, allocLabel_run_exhausted (by rw [full]; rfl),
      except_error_bind]

theorem record_branches_overflow (cfg : Config) :
    ∃ s, (run cfg (List.replicate (BRANCH_RECORDS_SIZE + 1) (.recordBranch 0 0 1 0 0 0 true 0 none))).run
        flushedState = .error (.die s "ERROR: Out of branch record space!\n") ∧
      s.logs.dfsanRecordIndex = BRANCH_RECORDS_SIZE + 1 := by
  refine run_replicate_dies (fun s => s.logs.dfsanRecordIndex) (fun _ => True) BRANCH_RECORDS_SIZE ?_ ?_
    BRANCH_RECORDS_SIZE flushedState trivial rfl
  · intro s _ room
    dsimp only at room ⊢
    obtain ⟨s', record, next⟩ := @recordBranch_run_ok s 0 0 1 0 0 0 0 true none room
    exact ⟨0, s', by simp only [step, run_bind, record, except_ok_bind, run_pure], trivial, next⟩
  · intro s _ full
    dsimp only at full ⊢
    refine ⟨_, by simp only [step, run_bind, recordBranch_run_die full.ge, except_error_bind]; rfl, ?_⟩
    show (s.logs.dfsanRecordIndex + 1) % 2 ^ 64 = _
    rw [full]
    rfl

theorem record_args_overflow (cfg : Config) (logging : cfg.grModePerf = false) :
    ∃ s, (run cfg (List.replicate (FUNC_ARGS_SIZE + 1) (.recordArg 0 0 0 1 0 none))).run flushedState =
      .error (.die s "ERROR: Out of func record space!\n") ∧ s.logs.dfsanArgIndex = 0 := by
  refine run_replicate_dies (fun s => s.logs.dfsanArgIndex) (fun _ => True) FUNC_ARGS_SIZE ?_ ?_
    FUNC_ARGS_SIZE flushedState trivial rfl
  · intro s _ room
    dsimp only at room ⊢
    obtain ⟨s', record, next⟩ := @recordArg_run_ok s cfg 0 0 0 1 0 none logging room
    exact ⟨0, s', by simp only [step, run_bind, record, except_ok_bind, run_pure], trivial, next⟩
  · intro s _ full
    dsimp only at full ⊢
    refine ⟨_, by simp only [step, run_bind, recordArg_run_die logging full.ge, except_error_bind]; rfl, ?_⟩
    show (s.logs.dfsanArgIndex + 1) % 2 ^ 16 = _
    rw [full]
    rfl

theorem capacity_failure_dumps (cfg : Config) (logging : cfg.grModePerf = false) :
    (∃ s, (run cfg (List.replicate 65535 (.createLabel none))).run flushedState =
        .error (.die s "FATAL: DataFlowSanitizer: out of labels\n") ∧
      ∃ d, dfsanFini cfg s = some d ∧ (kInitializingLabel, 0, 0, none, 0, 0) ∈ d.labels) ∧
    (∃ s, (run cfg (List.replicate (BRANCH_RECORDS_SIZE + 1) (.recordBranch 0 0 1 0 0 0 true 0 none))).run
        flushedState = .error (.die s "ERROR: Out of branch record space!\n") ∧
      ∃ d, dfsanFini cfg s = some d ∧ d.branches = none) ∧
    ∃ s, (run cfg (List.replicate (FUNC_ARGS_SIZE + 1) (.recordArg 0 0 0 1 0 none))).run flushedState =
        .error (.die s "ERROR: Out of func record space!\n") ∧
      ∃ d, dfsanFini cfg s = some d ∧ d.funcArgs = [] := by
  obtain ⟨s₁, dies₁, last, untouched⟩ := create_labels_exhaust cfg
  obtain ⟨s₂, dies₂, index₂⟩ := record_branches_overflow cfg
  obtain ⟨s₃, dies₃, index₃⟩ := record_args_overflow cfg logging
  refine ⟨⟨s₁, dies₁, _, dfsanFini_logging logging s₁, ?_⟩,
    ⟨s₂, dies₂, _, dfsanFini_logging logging s₂, ?_⟩, ⟨s₃, dies₃, _, dfsanFini_logging logging s₃, ?_⟩⟩
  · simp only [dfsanDumpLabels, List.mem_map, List.mem_range', last]
    exact ⟨kInitializingLabel, ⟨kInitializingLabel - 1, by decide, rfl⟩, by rw [untouched]; rfl⟩
  · simp [dfsanDumpBranches, index₂]
  · simp [dfsanDumpFuncArgs, index₃]

theorem capacity_failure_dumps_logging :
    let cfg : Config := ⟨⟨false, 1, false, false, false, false⟩, false⟩
    cfg.grModePerf = false ∧
    (∃ s, (run cfg (List.replicate 65535 (.createLabel none))).run flushedState =
        .error (.die s "FATAL: DataFlowSanitizer: out of labels\n") ∧
      ∃ d, dfsanFini cfg s = some d ∧ (kInitializingLabel, 0, 0, none, 0, 0) ∈ d.labels) ∧
    (∃ s, (run cfg (List.replicate (BRANCH_RECORDS_SIZE + 1) (.recordBranch 0 0 1 0 0 0 true 0 none))).run
        flushedState = .error (.die s "ERROR: Out of branch record space!\n") ∧
      ∃ d, dfsanFini cfg s = some d ∧ d.branches = none) ∧
    ∃ s, (run cfg (List.replicate (FUNC_ARGS_SIZE + 1) (.recordArg 0 0 0 1 0 none))).run flushedState =
        .error (.die s "ERROR: Out of func record space!\n") ∧
      ∃ d, dfsanFini cfg s = some d ∧ d.funcArgs = [] :=
  ⟨rfl, capacity_failure_dumps _ rfl⟩

end Grsan
