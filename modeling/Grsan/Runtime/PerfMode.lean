import Grsan.Runtime.Frame

set_option autoImplicit false

namespace Grsan

def Halt.Keeps (P : RuntimeState → Prop) (Q : String → Prop) : Halt → Prop
  | .die s msg => P s ∧ Q msg
  | .exit s _ => P s
  | .crash _ => True

def Keeps {α : Type} (P : RuntimeState → Prop) (Q : String → Prop) (x : Rt α) : Prop :=
  ∀ s, P s → match x.run s with
    | .ok (_, s') => P s'
    | .error h => h.Keeps P Q

section Combinators

variable {α β : Type} {P : RuntimeState → Prop} {Q : String → Prop}

theorem keeps_pure (a : α) : Keeps P Q (pure a : Rt α) := fun _ hs => hs

theorem keeps_bind {x : Rt α} {f : α → Rt β} (hx : Keeps P Q x) (hf : ∀ a, Keeps P Q (f a)) :
    Keeps P Q (x >>= f) := by
  intro s hs
  have first := hx s hs
  rw [run_bind]
  cases hr : x.run s with
  | error e => rw [hr] at first; exact first
  | ok p => rw [hr] at first; exact hf p.1 p.2 first

theorem keeps_get_bind {f : RuntimeState → Rt β} (hf : ∀ s, P s → Keeps P Q (f s)) :
    Keeps P Q (get >>= f) :=
  fun s hs => hf s hs s hs

theorem keeps_ite {c : Prop} [Decidable c] {x y : Rt α} (hx : Keeps P Q x) (hy : Keeps P Q y) :
    Keeps P Q (if c then x else y) := by
  split
  · exact hx
  · exact hy

theorem keeps_modify {f : RuntimeState → RuntimeState} (hf : ∀ s, P s → P (f s)) :
    Keeps P Q (modify f) := fun s hs => hf s hs

theorem keeps_set {s' : RuntimeState} (hs' : P s') : Keeps P Q (set s') := fun _ _ => hs'

theorem keeps_die {msg : String} (hQ : Q msg) : Keeps P Q (die msg : Rt α) := fun _ hs => ⟨hs, hQ⟩

theorem keeps_crash {msg : String} : Keeps P Q (throw (.crash msg) : Rt α) := fun _ _ => trivial

theorem keeps_exit {s' : RuntimeState} {msg : String} (hs' : P s') :
    Keeps P Q (throw (.exit s' msg) : Rt α) := fun _ _ => hs'

end Combinators

structure LogFrame (P : RuntimeState → Prop) (Q : String → Prop) : Prop where
  table : ∀ s t, P s → P { s with table := t }
  shadow : ∀ s m, P s → P { s with shadow := m }
  outOfLabels : Q "FATAL: DataFlowSanitizer: out of labels\n"
  unionLoad : Q "ERROR Non-instrumented call to dfsan_union via dfsan_union_load\n"
  addLabel : Q "ERROR already labeled"

section Frame

variable {P : RuntimeState → Prop} {Q : String → Prop} (frame : LogFrame P Q)
include frame

theorem keeps_modifyTable (f : LabelTable → LabelTable) : Keeps P Q (modifyTable f) :=
  keeps_modify fun s => frame.table s (f s.table)

theorem keeps_allocLabel : Keeps P Q allocLabel :=
  keeps_get_bind fun _ _ => keeps_bind (keeps_modifyTable frame _) fun _ =>
    keeps_bind (keeps_ite (keeps_die frame.outOfLabels) (keeps_pure _)) fun _ => keeps_pure _

theorem keeps_setLabelInfo (label : Nat) (f : DfsanLabelInfo → DfsanLabelInfo) :
    Keeps P Q (setLabelInfo label f) :=
  keeps_modifyTable frame _

theorem keeps_unionLabel (fl : Flags) (l1 l2 : Nat) (dx1 dx2 : FloatVal × FloatVal) (opcode : Nat)
    (neg pos : FloatVal) (fVal : Option Int) (location : Option String) :
    Keeps P Q (unionLabel fl l1 l2 dx1 dx2 opcode neg pos fVal location) :=
  keeps_ite (keeps_pure _) <| keeps_ite (keeps_pure _) <|
    keeps_bind (keeps_allocLabel frame) fun _ =>
      keeps_bind (keeps_setLabelInfo frame _ _) fun _ => keeps_pure _

theorem keeps_dfsanCreateLabel (desc : Option String) : Keeps P Q (dfsanCreateLabel desc) :=
  keeps_bind (keeps_allocLabel frame) fun _ =>
    keeps_bind (keeps_setLabelInfo frame _ _) fun _ => keeps_pure _

theorem keeps_dfsanUnionUnsupportedType (l1 l2 opcode : Nat) (location : Option String) :
    Keeps P Q (dfsanUnionUnsupportedType l1 l2 opcode location) :=
  keeps_ite (keeps_pure _) <| keeps_bind (keeps_allocLabel frame) fun _ =>
    keeps_bind (keeps_setLabelInfo frame _ _) fun _ => keeps_pure _

theorem keeps_branchBarrier (b : IntBranch) (lhs rhs : Nat) (lhsV rhsV : Int) (cond : Bool)
    (pred : Nat) (location : Option String) :
    Keeps P Q (branchBarrier b lhs rhs lhsV rhsV cond pred location) := by
  refine keeps_get_bind fun s hs => ?_
  split
  · exact keeps_exit hs
  · exact keeps_bind (keeps_setLabelInfo frame _ _) fun _ => keeps_setLabelInfo frame _ _

theorem keeps_dfsanSetLabel (label addr size : Nat) : Keeps P Q (dfsanSetLabel label addr size) :=
  keeps_modify fun s => frame.shadow s _

theorem keeps_dfsanAddLabel (label addr size : Nat) : Keeps P Q (dfsanAddLabel label addr size) :=
  keeps_get_bind fun _ _ => keeps_ite (keeps_die frame.addLabel) (keeps_pure _)

end Frame

def ArgKeeps (P : RuntimeState → Prop) (Q : String → Prop) (cfg : Config) (Allowed : Nat → Prop) : Prop :=
  ∀ fileId instId argInd label v location, Allowed label →
    Keeps P Q (recordArg cfg fileId instId argInd label v location)

def BranchKeeps (P : RuntimeState → Prop) (Q : String → Prop) (cfg : Config) (Allowed : Nat → Prop) : Prop :=
  ∀ fileId brId lhs rhs lhsV rhsV cond isPtr location, Allowed lhs → Allowed rhs →
    Keeps P Q (logBranch cfg fileId brId lhs rhs lhsV rhsV cond isPtr location)

section Perf

variable {P : RuntimeState → Prop} {Q : String → Prop} {cfg : Config}
  (perf : cfg.grModePerf = true)
include perf

theorem perf_argKeeps : ArgKeeps P Q cfg fun _ => True := by
  intro _ _ _ _ _ _ _
  simp only [recordArg, perf, if_true]
  exact keeps_pure _

theorem perf_branchKeeps : BranchKeeps P Q cfg fun _ => True := by
  intro _ _ _ _ _ _ _ _ _ _ _
  simp only [logBranch, perf, if_true]
  exact keeps_pure _

end Perf

section Logging

variable {P : RuntimeState → Prop} {Q : String → Prop} {cfg : Config} {Allowed : Nat → Prop}

theorem keeps_divisorRecord (arg : ArgKeeps P Q cfg Allowed) {site : Option Nat} {l2 : Nat}
    (allowed : site = none ∨ Allowed l2) (retAddr : Nat) (v : FloatVal) (location : Option String) :
    Keeps P Q (divisorRecord cfg site l2 retAddr v location) := by
  unfold divisorRecord
  split
  · refine keeps_ite (arg _ _ _ _ _ _ ?_) (keeps_pure _)
    simpa using allowed
  · exact keeps_pure _

theorem keeps_floatBranchVisitor (branch : BranchKeeps P Q cfg Allowed) {lhs rhs : Nat} (left : Allowed lhs)
    (right : Allowed rhs) (lhsV rhsV : FloatVal) (cond : Bool) (fileId brId isPtr : Nat) (location : Option String) :
    Keeps P Q (floatBranchVisitor cfg lhs rhs lhsV rhsV cond fileId brId isPtr location) :=
  keeps_ite (branch _ _ _ _ _ _ _ _ _ left right) (keeps_pure _)

variable (frame : LogFrame P Q)
include frame

theorem keeps_intBranchVisitor (branch : BranchKeeps P Q cfg Allowed) (b : IntBranch) {lhs rhs : Nat}
    (left : Allowed lhs) (right : Allowed rhs) (lhsV rhsV : Int) (cond : Bool) (pred fileId brId isPtr : Nat)
    (location : Option String) :
    Keeps P Q (intBranchVisitor cfg b lhs rhs lhsV rhsV cond pred fileId brId isPtr location) :=
  keeps_ite (keeps_pure _) <| keeps_bind (branch _ _ _ _ _ _ _ _ _ left right) fun _ =>
    keeps_ite (keeps_branchBarrier frame _ _ _ _ _ _ _ _) (keeps_pure _)

variable (arg : ArgKeeps P Q cfg Allowed)
include arg

theorem keeps_intUnion (u : IntUnion) {l1 l2 opcode : Nat} (allowed : intArgSite opcode = none ∨ Allowed l2)
    (x1 x2 : Int) (retAddr : Nat) (location : Option String) :
    Keeps P Q (intUnion cfg u l1 l2 x1 x2 retAddr opcode location) := by
  refine keeps_ite (keeps_pure _) <| keeps_get_bind fun _ _ => keeps_ite (keeps_pure _) <|
    keeps_bind (keeps_divisorRecord arg allowed _ _ _) fun _ => ?_
  unfold intUnionLabel
  split
  · exact keeps_unionLabel frame _ _ _ _ _ _ _ _ _ _
  · exact keeps_crash

theorem keeps_floatUnion {l1 l2 opcode : Nat} (allowed : floatArgSite opcode = none ∨ Allowed l2)
    (x1 x2 : FloatVal) (retAddr : Nat) (location : Option String) :
    Keeps P Q (floatUnion cfg l1 l2 x1 x2 retAddr opcode location) :=
  keeps_ite (keeps_pure _) <| keeps_get_bind fun _ _ => keeps_ite (keeps_pure _) <|
    keeps_bind (keeps_divisorRecord arg allowed _ _ _) fun _ => keeps_unionLabel frame _ _ _ _ _ _ _ _ _ _

theorem keeps_memcpy {destLabel srcLabel nLabel : Nat} (allowed : ∀ l ∈ [destLabel, srcLabel, nLabel], Allowed l)
    (dest src n retAddr : Nat) (location : Option String) :
    Keeps P Q (memcpy cfg dest src n destLabel srcLabel nLabel retAddr location) := by
  have copy (argInd label : Nat) (mem : label ∈ [destLabel, srcLabel, nLabel]) (v : FloatVal) :
      Keeps P Q (memcpyArg cfg retAddr argInd label v location) :=
    keeps_ite (arg _ _ _ _ _ _ (allowed label mem)) (keeps_pure _)
  exact keeps_bind (copy _ _ (by simp) _) fun _ => keeps_bind (copy _ _ (by simp) _) fun _ =>
    keeps_bind (copy _ _ (by simp) _) fun _ => keeps_modify fun s => frame.shadow s _

theorem keeps_dfsanReadLabel (addr size : Nat) : Keeps P Q (dfsanReadLabel cfg addr size) := by
  refine keeps_ite (keeps_pure _) (keeps_get_bind fun _ _ => ?_)
  dsimp only
  split
  · exact keeps_pure _
  · exact keeps_bind (keeps_intUnion frame arg _ (show intArgSite 0 = none ∨ _ from .inl rfl) _ _ _ _) fun _ =>
      keeps_die frame.unionLoad

theorem keeps_step (branch : BranchKeeps P Q cfg Allowed) {c : Call}
    (direct : c.isRecordBranch = true → Keeps P Q (step cfg c))
    (allowed : ∀ l ∈ c.labels, Allowed l) (flushed : P flushedState) : Keeps P Q (step cfg c) := by
  cases c with
  | createLabel desc => exact keeps_dfsanCreateLabel frame _
  | intUnion w l1 l2 x1 x2 retAddr opcode location =>
    exact keeps_intUnion frame arg _ (.inr (allowed l2 (by simp [Call.labels]))) _ _ _ _
  | floatUnion l1 l2 x1 x2 retAddr opcode location =>
    exact keeps_floatUnion frame arg (.inr (allowed l2 (by simp [Call.labels]))) _ _ _ _
  | unionUnsupportedType l1 l2 opcode location => exact keeps_dfsanUnionUnsupportedType frame _ _ _ _
  | intBranch w lhs rhs lhsV rhsV cond pred fileId brId isPtr location =>
    exact keeps_bind (keeps_intBranchVisitor frame branch _ (allowed lhs (by simp [Call.labels]))
      (allowed rhs (by simp [Call.labels])) _ _ _ _ _ _ _ _) fun _ => keeps_pure _
  | floatBranch lhs rhs lhsV rhsV cond pred fileId brId isPtr location =>
    exact keeps_bind (keeps_floatBranchVisitor branch (allowed lhs (by simp [Call.labels]))
      (allowed rhs (by simp [Call.labels])) _ _ _ _ _ _ _) fun _ => keeps_pure _
  | recordBranch => exact direct rfl
  | recordArg fileId instId argInd label v location =>
    exact keeps_bind (arg _ _ _ _ _ _ (allowed label (by simp [Call.labels]))) fun _ => keeps_pure _
  | memcpy dest src n destLabel srcLabel nLabel retAddr location =>
    exact keeps_bind (keeps_memcpy frame arg (fun l mem => allowed l (by simpa [Call.labels] using mem)) _ _ _ _ _)
      fun _ => keeps_pure _
  | setLabel label addr size => exact keeps_bind (keeps_dfsanSetLabel frame _ _ _) fun _ => keeps_pure _
  | addLabel label addr size => exact keeps_bind (keeps_dfsanAddLabel frame _ _ _) fun _ => keeps_pure _
  | readLabel addr size => exact keeps_dfsanReadLabel frame arg _ _
  | flush => exact keeps_bind (keeps_set flushed) fun _ => keeps_pure _

end Logging

theorem keeps_run {P : RuntimeState → Prop} {Q : String → Prop} {cfg : Config} {calls : List Call}
    (each : ∀ c ∈ calls, Keeps P Q (step cfg c)) : Keeps P Q (run cfg calls) := by
  induction calls with
  | nil => exact keeps_pure _
  | cons c cs ih =>
    exact keeps_bind (each c (.head _)) fun _ =>
      keeps_bind (ih fun c' mem => each c' (.tail _ mem)) fun _ => keeps_pure _

theorem logFrame_logs (L : Logs) :
    LogFrame (fun s => s.logs = L)
      (fun msg => msg ≠ "ERROR: Out of branch record space!\n" ∧ msg ≠ "ERROR: Out of func record space!\n") where
  table _ _ h := h
  shadow _ _ h := h
  outOfLabels := by decide
  unionLoad := by decide
  addLabel := by decide

theorem perf_mode_never_logs {cfg : Config} (perf : cfg.grModePerf = true) (calls : List Call)
    (direct : ∀ c ∈ calls, c.isRecordBranch = false) :
    match (run cfg calls).run flushedState with
    | .ok (_, s) => s.logs = flushedState.logs
    | .error (.die s msg) => s.logs = flushedState.logs ∧
        msg ≠ "ERROR: Out of branch record space!\n" ∧ msg ≠ "ERROR: Out of func record space!\n"
    | .error (.exit s _) => s.logs = flushedState.logs
    | .error (.crash _) => True := by
  have keeps := keeps_run (fun c mem => keeps_step (logFrame_logs flushedState.logs) (perf_argKeeps perf)
    (perf_branchKeeps perf) (fun record => by rw [direct c mem] at record; cases record) (fun _ _ => trivial) rfl)
    flushedState rfl
  generalize (run cfg calls).run flushedState = result at keeps ⊢
  rcases result with (⟨s, msg⟩ | ⟨s, msg⟩ | msg) | ⟨_, s⟩ <;> exact keeps

theorem perf_mode_never_logs_divisor_branch_copy :
    let cfg : Config := ⟨⟨false, 1, false, false, false, true⟩, true⟩
    let calls := [.createLabel (some "x"), .intUnion .int 0 1 7 2 0 OpCode.SDIV none,
      .intBranch .int 1 2 7 3 true Predicate.ICMP_SLT 0 0 0 none, .memcpy 0 8 4 1 2 0 0 none,
      .recordArg 0 0 0 2 0 none]
    cfg.grModePerf = true ∧ (∀ c ∈ calls, c.isRecordBranch = false) ∧
      match (run cfg calls).run flushedState with
      | .ok (_, s) => s.logs = flushedState.logs
      | .error (.die s msg) => s.logs = flushedState.logs ∧
          msg ≠ "ERROR: Out of branch record space!\n" ∧ msg ≠ "ERROR: Out of func record space!\n"
      | .error (.exit s _) => s.logs = flushedState.logs
      | .error (.crash _) => True :=
  ⟨rfl, by decide, perf_mode_never_logs rfl _ (by decide)⟩

end Grsan
