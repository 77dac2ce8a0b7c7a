import Grsan.Runtime.PerfMode
import Grsan.Runtime.Invariant
import Grsan.Runtime.Dump

set_option autoImplicit false

namespace Grsan

structure LogsBelow (bound : Nat) (g : Logs) : Prop where
  branches : ∀ i, (g.branchRecords i).lhsLabel ≤ bound ∧ (g.branchRecords i).rhsLabel ≤ bound
  funcArgs : ∀ i, (g.funcArgRecords i).label ≤ bound

section Below

variable {bound : Nat}

theorem logsBelow_flushed : LogsBelow bound flushedState.logs :=
  ⟨fun _ => ⟨Nat.zero_le _, Nat.zero_le _⟩, fun _ => Nat.zero_le _⟩

theorem LogsBelow.mono {g : Logs} (h : LogsBelow bound g) {bound' : Nat} (le : bound ≤ bound') :
    LogsBelow bound' g :=
  ⟨fun i => ⟨(h.branches i).1.trans le, (h.branches i).2.trans le⟩, fun i => (h.funcArgs i).trans le⟩

theorem LogsBelow.writeBranch {g : Logs} (h : LogsBelow bound g) (index : Nat) {r : BranchRecord}
    (left : r.lhsLabel ≤ bound) (right : r.rhsLabel ≤ bound) :
    LogsBelow bound { g with branchRecords := Function.update g.branchRecords index r } := by
  refine ⟨fun i => ?_, h.funcArgs⟩
  by_cases at_index : i = index
  · subst at_index
    simpa using And.intro left right
  · simpa [Function.update_noteq at_index] using h.branches i

theorem LogsBelow.writeFuncArg {g : Logs} (h : LogsBelow bound g) (index : Nat) {r : FuncArgRecord}
    (le : r.label ≤ bound) :
    LogsBelow bound { g with funcArgRecords := Function.update g.funcArgRecords index r } := by
  refine ⟨h.branches, fun i => ?_⟩
  by_cases at_index : i = index
  · subst at_index
    simpa using le
  · simpa [Function.update_noteq at_index] using h.funcArgs i

theorem logFrame_below : LogFrame (fun s => LogsBelow bound s.logs) fun _ => True where
  table _ _ h := h
  shadow _ _ h := h
  outOfLabels := trivial
  unionLoad := trivial
  addLabel := trivial

theorem keeps_recordBranch {fileId instId lhs rhs isPtr : Nat} {lhsV rhsV : FloatVal} {cond : Bool}
    {location : Option String} (left : lhs ≤ bound) (right : rhs ≤ bound) :
    Keeps (fun s => LogsBelow bound s.logs) (fun _ => True)
      (recordBranch fileId instId lhs rhs lhsV rhsV cond isPtr location) := by
  refine keeps_get_bind fun _ _ =>
    keeps_bind (keeps_modify fun _ below => ⟨below.branches, below.funcArgs⟩) fun _ =>
      keeps_ite (keeps_bind (keeps_die trivial) fun _ => ?_) (keeps_bind (keeps_pure _) fun _ => ?_) <;>
  exact keeps_modify fun _ below => below.writeBranch _ left right

theorem below_argKeeps {cfg : Config} :
    ArgKeeps (fun s => LogsBelow bound s.logs) (fun _ => True) cfg (· ≤ bound) := by
  intro _ _ _ _ _ _ le
  refine keeps_ite (keeps_pure _) (keeps_bind (keeps_pure _) fun _ => keeps_get_bind fun _ _ =>
    keeps_bind (keeps_modify fun _ below => ⟨below.branches, below.funcArgs⟩) fun _ =>
      keeps_ite (keeps_bind (keeps_die trivial) fun _ => ?_) (keeps_bind (keeps_pure _) fun _ => ?_)) <;>
  exact keeps_modify fun _ below => below.writeFuncArg _ le

theorem below_branchKeeps {cfg : Config} :
    BranchKeeps (fun s => LogsBelow bound s.logs) (fun _ => True) cfg (· ≤ bound) :=
  fun _ _ _ _ _ _ _ _ _ left right => keeps_ite (keeps_pure _) (keeps_recordBranch left right)

theorem keeps_step_below {cfg : Config} {c : Call} (allowed : ∀ l ∈ c.labels, l ≤ bound) :
    Keeps (fun s => LogsBelow bound s.logs) (fun _ => True) (step cfg c) := by
  refine keeps_step logFrame_below below_argKeeps below_branchKeeps (fun record => ?_) allowed logsBelow_flushed
  cases c with
  | recordBranch =>
    exact keeps_bind (keeps_recordBranch (allowed _ (by simp [Call.labels])) (allowed _ (by simp [Call.labels])))
      fun _ => keeps_pure _
  | _ => cases record

end Below

theorem logsBelow_of_reach {cfg : Config} {s : RuntimeState} {sources : List Nat} (reach : Reach cfg s sources) :
    LogsBelow (dfsanGetLabelCount s) s.logs := by
  induction reach with
  | flushed => exact logsBelow_flushed
  | @call s _ c r s' reached bound called ih =>
    have kept := @keeps_step_below _ cfg c bound s ih
    rw [called] at kept
    rcases count_step (tableInv_of_reach reached) called with rfl | same | next
    · obtain ⟨-, rfl⟩ : r = 0 ∧ s' = flushedState := by simpa [step, dfsanFlush, eq_comm] using called
      exact logsBelow_flushed
    · exact same ▸ kept
    · exact kept.mono (by unfold dfsanGetLabelCount at next ⊢; omega)

section Grows

def Halt.Grows (last : Nat) : Halt → Prop
  | .die s _ => last ≤ s.table.dfsanLastLabel
  | .exit s _ => last ≤ s.table.dfsanLastLabel
  | .crash _ => True

theorem Halt.Grows.mono {a b : Nat} (le : a ≤ b) {h : Halt} (grows : h.Grows b) : h.Grows a := by
  cases h with
  | die => exact le.trans grows
  | exit => exact le.trans grows
  | crash => trivial

def GrowsFrom {α : Type} (s : RuntimeState) (x : Rt α) : Prop :=
  s.table.dfsanLastLabel ≤ 65534 → match x.run s with
    | .ok (_, s') => s.table.dfsanLastLabel ≤ s'.table.dfsanLastLabel ∧ s'.table.dfsanLastLabel ≤ 65534
    | .error h => h.Grows s.table.dfsanLastLabel

def Grows {α : Type} (x : Rt α) : Prop := ∀ s, GrowsFrom s x

variable {α β : Type}

theorem grows_pure (a : α) : Grows (pure a : Rt α) := fun _ bounded => ⟨le_rfl, bounded⟩

theorem grows_bind {x : Rt α} {f : α → Rt β} (hx : Grows x) (hf : ∀ a, Grows (f a)) : Grows (x >>= f) := by
  intro s bounded
  have first := hx s bounded
  rw [run_bind]
  cases hr : x.run s with
  | error e =>
    rw [hr] at first
    exact first
  | ok p =>
    rw [hr] at first
    rw [except_ok_bind]
    have second := hf p.1 p.2 first.2
    revert second
    rcases (f p.1).run p.2 with h | ⟨b, s'⟩
    · exact fun second => second.mono first.1
    · exact fun second => ⟨first.1.trans second.1, second.2⟩

theorem grows_get_bind {f : RuntimeState → Rt β} (hf : ∀ s, Grows (f s)) : Grows (get >>= f) :=
  fun s => hf s s

theorem growsFrom_get_bind {f : RuntimeState → Rt β} (hf : ∀ s, GrowsFrom s (f s)) : Grows (get >>= f) :=
  fun s => hf s

theorem grows_ite {c : Prop} [Decidable c] {x y : Rt α} (hx : Grows x) (hy : Grows y) :
    Grows (if c then x else y) := by
  split
  · exact hx
  · exact hy

theorem grows_modify {f : RuntimeState → RuntimeState}
    (hf : ∀ s, (f s).table.dfsanLastLabel = s.table.dfsanLastLabel) : Grows (modify f) :=
  fun s bounded => ⟨(hf s).symm.le, (hf s).trans_le bounded⟩

theorem grows_die {msg : String} : Grows (die msg : Rt α) := fun _ _ => le_rfl

theorem grows_crash {msg : String} : Grows (throw (.crash msg) : Rt α) := fun _ _ => trivial

theorem grows_allocLabel : Grows allocLabel := by
  intro s bounded
  by_cases full : (s.table.dfsanLastLabel + 1) % kNumLabels = kInitializingLabel
  · rw [allocLabel_run_exhausted full]
    show s.table.dfsanLastLabel ≤ kInitializingLabel
    unfold kInitializingLabel
    omega
  · rw [allocLabel_run_fresh full]
    have small : (s.table.dfsanLastLabel + 1) % kNumLabels = s.table.dfsanLastLabel + 1 :=
      Nat.mod_eq_of_lt (by unfold kNumLabels; omega)
    rw [small] at full
    dsimp only
    rw [small]
    unfold kInitializingLabel at full
    exact ⟨by omega, by omega⟩

theorem grows_setLabelInfo (label : Nat) (f : DfsanLabelInfo → DfsanLabelInfo) : Grows (setLabelInfo label f) :=
  grows_modify fun _ => rfl

theorem grows_unionLabel (fl : Flags) (l1 l2 : Nat) (dx1 dx2 : FloatVal × FloatVal) (opcode : Nat)
    (neg pos : FloatVal) (fVal : Option Int) (location : Option String) :
    Grows (unionLabel fl l1 l2 dx1 dx2 opcode neg pos fVal location) :=
  grows_ite (grows_pure _) <| grows_ite (grows_pure _) <|
    grows_bind grows_allocLabel fun _ => grows_bind (grows_setLabelInfo _ _) fun _ => grows_pure _

theorem grows_recordBranch (fileId instId lhs rhs : Nat) (lhsV rhsV : FloatVal) (cond : Bool) (isPtr : Nat)
    (location : Option String) : Grows (recordBranch fileId instId lhs rhs lhsV rhsV cond isPtr location) := by
  refine grows_get_bind fun _ => grows_bind (grows_modify fun _ => rfl) fun _ =>
    grows_ite (grows_bind grows_die fun _ => ?_) (grows_bind (grows_pure _) fun _ => ?_) <;>
  exact grows_modify fun _ => rfl

theorem grows_recordArg (cfg : Config) (fileId instId argInd label : Nat) (v : FloatVal)
    (location : Option String) : Grows (recordArg cfg fileId instId argInd label v location) := by
  refine grows_ite (grows_pure _) (grows_bind (grows_pure _) fun _ => grows_get_bind fun _ =>
    grows_bind (grows_modify fun _ => rfl) fun _ =>
      grows_ite (grows_bind grows_die fun _ => ?_) (grows_bind (grows_pure _) fun _ => ?_)) <;>
  exact grows_modify fun _ => rfl

theorem grows_divisorRecord (cfg : Config) (site : Option Nat) (l2 retAddr : Nat) (v : FloatVal)
    (location : Option String) : Grows (divisorRecord cfg site l2 retAddr v location) := by
  unfold divisorRecord
  split
  · exact grows_ite (grows_recordArg _ _ _ _ _ _ _) (grows_pure _)
  · exact grows_pure _

theorem grows_intUnion (cfg : Config) (u : IntUnion) (l1 l2 : Nat) (x1 x2 : Int) (retAddr opcode : Nat)
    (location : Option String) : Grows (intUnion cfg u l1 l2 x1 x2 retAddr opcode location) := by
  refine grows_ite (grows_pure _) <| grows_get_bind fun _ => grows_ite (grows_pure _) <|
    grows_bind (grows_divisorRecord _ _ _ _ _ _) fun _ => ?_
  unfold intUnionLabel
  split
  · exact grows_unionLabel _ _ _ _ _ _ _ _ _ _
  · exact grows_crash

theorem grows_floatUnion (cfg : Config) (l1 l2 : Nat) (x1 x2 : FloatVal) (retAddr opcode : Nat)
    (location : Option String) : Grows (floatUnion cfg l1 l2 x1 x2 retAddr opcode location) :=
  grows_ite (grows_pure _) <| grows_get_bind fun _ => grows_ite (grows_pure _) <|
    grows_bind (grows_divisorRecord _ _ _ _ _ _) fun _ => grows_unionLabel _ _ _ _ _ _ _ _ _ _

theorem grows_branchBarrier (b : IntBranch) (lhs rhs : Nat) (lhsV rhsV : Int) (cond : Bool) (pred : Nat)
    (location : Option String) : Grows (branchBarrier b lhs rhs lhsV rhsV cond pred location) := by
  refine growsFrom_get_bind fun s => ?_
  split
  · exact fun _ => le_rfl
  · exact grows_bind (grows_setLabelInfo _ _) (fun _ => grows_setLabelInfo _ _) s

theorem grows_logBranch (cfg : Config) (fileId brId lhs rhs : Nat) (lhsV rhsV : FloatVal) (cond : Bool)
    (isPtr : Nat) (location : Option String) :
    Grows (logBranch cfg fileId brId lhs rhs lhsV rhsV cond isPtr location) :=
  grows_ite (grows_pure _) (grows_recordBranch _ _ _ _ _ _ _ _ _)

theorem grows_memcpyArg (cfg : Config) (retAddr argInd label : Nat) (v : FloatVal) (location : Option String) :
    Grows (memcpyArg cfg retAddr argInd label v location) :=
  grows_ite (grows_recordArg _ _ _ _ _ _ _) (grows_pure _)

theorem grows_step (cfg : Config) {c : Call} (kept : c ≠ .flush) : Grows (step cfg c) := by
  cases c with
  | createLabel desc =>
    exact grows_bind grows_allocLabel fun _ => grows_bind (grows_setLabelInfo _ _) fun _ => grows_pure _
  | intUnion w l1 l2 x1 x2 retAddr opcode location => exact grows_intUnion _ _ _ _ _ _ _ _ _
  | floatUnion l1 l2 x1 x2 retAddr opcode location => exact grows_floatUnion _ _ _ _ _ _ _ _
  | unionUnsupportedType l1 l2 opcode location =>
    exact grows_ite (grows_pure _) <| grows_bind grows_allocLabel fun _ =>
      grows_bind (grows_setLabelInfo _ _) fun _ => grows_pure _
  | intBranch w lhs rhs lhsV rhsV cond pred fileId brId isPtr location =>
    exact grows_bind (grows_ite (grows_pure _) <| grows_bind (grows_logBranch _ _ _ _ _ _ _ _ _ _) fun _ =>
      grows_ite (grows_branchBarrier _ _ _ _ _ _ _ _) (grows_pure _)) fun _ => grows_pure _
  | floatBranch lhs rhs lhsV rhsV cond pred fileId brId isPtr location =>
    exact grows_bind (grows_ite (grows_logBranch _ _ _ _ _ _ _ _ _ _) (grows_pure _)) fun _ => grows_pure _
  | recordBranch => exact grows_bind (grows_recordBranch _ _ _ _ _ _ _ _ _) fun _ => grows_pure _
  | recordArg => exact grows_bind (grows_recordArg _ _ _ _ _ _ _) fun _ => grows_pure _
  | memcpy =>
    exact grows_bind (grows_bind (grows_memcpyArg _ _ _ _ _ _) fun _ => grows_bind (grows_memcpyArg _ _ _ _ _ _)
      fun _ => grows_bind (grows_memcpyArg _ _ _ _ _ _) fun _ => grows_modify fun _ => rfl) fun _ => grows_pure _
  | setLabel => exact grows_bind (grows_modify fun _ => rfl) fun _ => grows_pure _
  | addLabel =>
    exact grows_bind (grows_get_bind fun _ => grows_ite grows_die (grows_pure _)) fun _ => grows_pure _
  | readLabel addr size =>
    refine grows_ite (grows_pure _) (grows_get_bind fun _ => ?_)
    dsimp only
    split
    · exact grows_pure _
    · exact grows_bind (grows_intUnion _ _ _ _ _ _ _ _ _) fun _ => grows_die
  | flush => exact absurd rfl kept

end Grows

def Dump.Names (d : Dump) (l : Nat) : Prop := l = 0 ∨ ∃ row ∈ d.labels, row.1 = l

def Dump.NamesDumped (d : Dump) : Prop :=
  (∀ bs ∈ d.branches, ∀ b ∈ bs, d.Names b.lhsLabel ∧ d.Names b.rhsLabel) ∧
    ∀ a ∈ d.funcArgs, d.Names a.label

-- The state `dfsan_fini` reads when a call halts: `Die` and `exit` run it, a crash does not.
def Halt.finiState : Halt → Option RuntimeState
  | .die s _ => some s
  | .exit s _ => some s
  | .crash _ => none

theorem names_of_le {t : LabelTable} {l : Nat} (le : l ≤ t.dfsanLastLabel) :
    l = 0 ∨ ∃ row ∈ dfsanDumpLabels t, row.1 = l := by
  rcases Nat.eq_zero_or_pos l with zero | pos
  · exact .inl zero
  · exact .inr ⟨_, List.mem_map_of_mem _ (List.mem_range'_1.mpr ⟨pos, by omega⟩), rfl⟩

theorem namesDumped_of_below {cfg : Config} {s : RuntimeState} {bound : Nat} (below : LogsBelow bound s.logs)
    (le : bound ≤ s.table.dfsanLastLabel) {d : Dump} (fini : dfsanFini cfg s = some d) : d.NamesDumped := by
  unfold dfsanFini at fini
  split at fini
  · cases fini
  obtain rfl := Option.some.inj fini
  refine ⟨fun bs mem b mem' => ?_, fun a mem => ?_⟩
  · simp only [dfsanDumpBranches, Option.mem_def] at mem
    split at mem
    · obtain rfl := Option.some.inj mem
      obtain ⟨i, -, rfl⟩ := List.mem_map.mp mem'
      exact ⟨names_of_le ((below.branches i).1.trans le), names_of_le ((below.branches i).2.trans le)⟩
    · cases mem
  · obtain ⟨i, -, rfl⟩ := List.mem_map.mp mem
    exact names_of_le ((below.funcArgs i).trans le)

theorem dumped_records_name_dumped_labels {cfg : Config} {s : RuntimeState} {sources : List Nat}
    (reach : Reach cfg s sources) :
    (∀ d, dfsanFini cfg s = some d → d.NamesDumped) ∧
      ∀ c, (∀ l ∈ c.labels, l ≤ s.table.dfsanLastLabel) → ∀ h, (step cfg c).run s = .error h →
        ∀ s', h.finiState = some s' → ∀ d, dfsanFini cfg s' = some d → d.NamesDumped := by
  have below := logsBelow_of_reach reach
  refine ⟨fun d => namesDumped_of_below below le_rfl, fun c allowed h halted s' fini d => ?_⟩
  have kept := @keeps_step_below _ cfg c allowed s below
  have grows := grows_step cfg (c := c) (by rintro rfl; simp [step, dfsanFlush] at halted) s
    (tableInv_of_reach reach).bounded
  rw [halted] at kept grows
  cases h with
  | die s₁ msg =>
    cases fini
    exact namesDumped_of_below kept.1 grows
  | exit s₁ msg =>
    cases fini
    exact namesDumped_of_below kept grows
  | crash msg => cases fini

theorem dumped_records_name_dumped_labels_after_arg :
    let cfg : Config := ⟨⟨false, 1, false, false, false, false⟩, false⟩
    let s₁ := createdState none
    let s₂ : RuntimeState := { s₁ with
      logs := { s₁.logs with
        dfsanArgIndex := 1
        funcArgRecords := Function.update s₁.logs.funcArgRecords 0 ⟨0, 0, 0, 1, 0, 1, 1, none⟩ } }
    Reach cfg s₂ [1] ∧
      (∀ d, dfsanFini cfg s₂ = some d → d.NamesDumped) ∧
        ∀ c, (∀ l ∈ c.labels, l ≤ s₂.table.dfsanLastLabel) → ∀ h, (step cfg c).run s₂ = .error h →
          ∀ s', h.finiState = some s' → ∀ d, dfsanFini cfg s' = some d → d.NamesDumped := by
  intro cfg s₁ s₂
  have created : Reach cfg s₁ ((Call.createLabel none).sources 1 []) := .call .flushed (by simp [Call.labels]) rfl
  have reach : Reach cfg s₂ ((Call.recordArg 0 0 0 1 0 none).sources 0 [1]) :=
    .call created (by simp [Call.labels, s₁]) rfl
  exact ⟨reach, dumped_records_name_dumped_labels reach⟩

end Grsan
