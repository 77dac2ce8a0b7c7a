import Grsan.CInt

set_option autoImplicit false

namespace Grsan

open FloatVal

-- `struct dfsan_label_info`; the zero entry is what `memset` leaves.
structure DfsanLabelInfo where
  l1 : Nat
  l2 : Nat
  loc : Option String
  negDydx : FloatVal
  posDydx : FloatVal
  opcode : Nat
  fVal : Int

instance : Inhabited DfsanLabelInfo := ⟨⟨0, 0, none, 0, 0, 0, 0⟩⟩

structure BranchRecord where
  fileId : Nat
  instId : Nat
  lhsLabel : Nat
  rhsLabel : Nat
  lhsV : FloatVal
  rhsV : FloatVal
  lhsNdx : FloatVal
  lhsPdx : FloatVal
  rhsNdx : FloatVal
  rhsPdx : FloatVal
  cond : Bool
  isPtr : Nat
  loc : Option String

instance : Inhabited BranchRecord := ⟨⟨0, 0, 0, 0, 0, 0, 0, 0, 0, 0, false, 0, none⟩⟩

structure FuncArgRecord where
  fileId : Nat
  instId : Nat
  argInd : Nat
  label : Nat
  v : FloatVal
  ndx : FloatVal
  pdx : FloatVal
  loc : Option String

instance : Inhabited FuncArgRecord := ⟨⟨0, 0, 0, 0, 0, 0, 0, none⟩⟩

-- The runtime flags of `dfsan_flags.inc` that the modelled code reads, and the
-- `gr_mode_perf` global set from `GRSAN_DISABLE_LOGGING`.
structure Flags where
  reuseLabels : Bool
  samples : Int
  gepDefault : Bool
  selectDefault : Bool
  defaultNan : Bool
  branchBarriers : Bool

structure Config where
  flags : Flags
  grModePerf : Bool

def kNumLabels : Nat := 65536
def kInitializingLabel : Nat := 65535
def BRANCH_RECORDS_SIZE : Nat := 1048576
def FUNC_ARGS_SIZE : Nat := 65535

structure LabelTable where
  dfsanLastLabel : Nat
  dfsanLabelInfo : Nat → DfsanLabelInfo

structure Logs where
  dfsanRecordIndex : Nat
  branchRecords : Nat → BranchRecord
  dfsanArgIndex : Nat
  funcArgRecords : Nat → FuncArgRecord

structure RuntimeState where
  table : LabelTable
  logs : Logs
  shadow : Nat → Nat

-- How a runtime call can end the process: `Die()` and `exit(1)` run `dfsan_fini`
-- on the state they leave; a failed `assert` or an undefined operation does not.
inductive Halt where
  | die (s : RuntimeState) (msg : String)
  | exit (s : RuntimeState) (msg : String)
  | crash (msg : String)

abbrev Rt := StateT RuntimeState (Except Halt)

def die {α : Type} (msg : String) : Rt α := do throw (.die (← get) msg)

def modifyTable (f : LabelTable → LabelTable) : Rt Unit := modify fun s => { s with table := f s.table }

def modifyLogs (f : Logs → Logs) : Rt Unit := modify fun s => { s with logs := f s.logs }

def dfsanCheckLabel (label : Nat) : Rt Unit :=
  if label = kInitializingLabel then die "FATAL: DataFlowSanitizer: out of labels\n" else pure ()

-- `atomic_fetch_add(&__dfsan_last_label, 1, memory_order_relaxed) + 1` on the
-- 16-bit counter, then `dfsan_check_label`.
def allocLabel : Rt Nat := do
  let label := ((← get).table.dfsanLastLabel + 1) % kNumLabels
  modifyTable fun t => { t with dfsanLastLabel := label }
  dfsanCheckLabel label
  pure label

def setLabelInfo (label : Nat) (f : DfsanLabelInfo → DfsanLabelInfo) : Rt Unit :=
  modifyTable fun t => { t with
    dfsanLabelInfo := Function.update t.dfsanLabelInfo label (f (t.dfsanLabelInfo label)) }

def recordBranch (fileId instId lhsLabel rhsLabel : Nat) (lhsV rhsV : FloatVal) (cond : Bool)
    (isPtr : Nat) (location : Option String) : Rt Unit := do
  let s ← get
  let index := s.logs.dfsanRecordIndex
  modifyLogs fun g => { g with dfsanRecordIndex := (index + 1) % 2 ^ 64 }
  if BRANCH_RECORDS_SIZE ≤ index then die "ERROR: Out of branch record space!\n"
  let info := s.table.dfsanLabelInfo
  let record : BranchRecord := ⟨fileId, instId, lhsLabel, rhsLabel, lhsV, rhsV,
    (info lhsLabel).negDydx, (info lhsLabel).posDydx, (info rhsLabel).negDydx,
    (info rhsLabel).posDydx, cond, isPtr, location⟩
  modifyLogs fun g => { g with branchRecords := Function.update g.branchRecords index record }

def recordArg (cfg : Config) (fileId instId argInd label : Nat) (v : FloatVal)
    (location : Option String) : Rt Unit := do
  if cfg.grModePerf then return
  let s ← get
  let index := s.logs.dfsanArgIndex
  modifyLogs fun g => { g with dfsanArgIndex := (index + 1) % 2 ^ 16 }
  if FUNC_ARGS_SIZE ≤ index then die "ERROR: Out of func record space!\n"
  let info := s.table.dfsanLabelInfo
  let record : FuncArgRecord :=
    ⟨fileId, instId, argInd, label, v, (info label).negDydx, (info label).posDydx, location⟩
  modifyLogs fun g => { g with funcArgRecords := Function.update g.funcArgRecords index record }

-- `shadow_for` on x86-64: clear bits 44-46 of the address and shift left by one.
def ShadowMask : Nat := 2 ^ 64 - 1 - 0x700000000000

def shadowFor (addr : Nat) : Nat := ((addr &&& ShadowMask) <<< 1) % 2 ^ 64

-- The loop of `__dfsan_set_label`: a slot that already holds the label is skipped.
def setLabelLoop (label : Nat) (shadow : Nat → Nat) (labelp : Nat) : Nat → Nat → Nat
  | 0 => shadow
  | size + 1 =>
    setLabelLoop label (if label = shadow labelp then shadow else Function.update shadow labelp label)
      (labelp + 2) size

def dfsanSetLabel (label addr size : Nat) : Rt Unit :=
  modify fun s => { s with shadow := setLabelLoop label s.shadow (shadowFor addr) size }

def flushedState : RuntimeState :=
  ⟨⟨0, fun _ => default⟩, ⟨0, fun _ => default, 0, fun _ => default⟩, fun _ => 0⟩

def dfsanFlush : Rt Unit := set flushedState

def operandDx (s : RuntimeState) (l : Nat) : FloatVal × FloatVal :=
  if l = 0 then (0, 0)
  else ((s.table.dfsanLabelInfo l).negDydx, (s.table.dfsanLabelInfo l).posDydx)

end Grsan
