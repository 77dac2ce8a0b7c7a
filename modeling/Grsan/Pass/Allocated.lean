import Grsan.Pass.Memory
import Grsan.Runtime.LogLabels

set_option autoImplicit false

namespace Grsan

structure LabelsBelow (n : Nat) (argTls : Nat → Nat) (σ : ShadowState) : Prop where
  args : ∀ i, argTls i ≤ n
  regs : ∀ v ∈ σ.regs, v ≤ n
  shadow : ∀ q, σ.rt.shadow q ≤ n
  slots : ∀ a, σ.slots a ≤ n
  retval : σ.retvalTls ≤ n

section Labels

variable {n m : Nat} {argTls : Nat → Nat} {σ : ShadowState}

theorem LabelsBelow.mono (h : LabelsBelow n argTls σ) (le : n ≤ m) : LabelsBelow m argTls σ :=
  ⟨fun i => (h.args i).trans le, fun v mem => (h.regs v mem).trans le, fun q => (h.shadow q).trans le,
    fun a => (h.slots a).trans le, h.retval.trans le⟩

theorem LabelsBelow.value (h : LabelsBelow n argTls σ) (s : Shadow) : s.value argTls σ.regs ≤ n := by
  cases s with
  | zero => exact Nat.zero_le _
  | arg i => exact h.args i
  | reg r =>
    rw [Shadow.value, List.getD_eq_getElem?_getD]
    cases get : σ.regs[r]? with
    | none => exact Nat.zero_le _
    | some v => exact h.regs v (List.getElem?_mem get)

end Labels

section Effects

variable {n : Nat} {fr : Frame} {label : Shadow → Nat} {shadow slots : Nat → Nat}

theorem ShadowInst.memEffect_le (si : ShadowInst) (old : ∀ q, shadow q ≤ n) (labels : ∀ s, label s ≤ n) (q : Nat) :
    si.memEffect fr label shadow q ≤ n := by
  cases si <;> simp only [ShadowInst.memEffect, writeSlots, setLabelLoop_apply, copyShadow_apply] <;>
    first | exact old _ | split <;> first | exact old _ | exact labels _ | exact Nat.zero_le _

theorem ShadowInst.slotEffect_le (si : ShadowInst) (old : ∀ a, slots a ≤ n) (labels : ∀ s, label s ≤ n) (a : Nat) :
    si.slotEffect label slots a ≤ n := by
  cases si with
  | allocaStore slot s =>
    rw [ShadowInst.slotEffect, Function.update_apply]
    split
    · exact labels s
    · exact old a
  | _ => exact old a

end Effects

section Results

variable {cfg : Config} {s s' : RuntimeState} {l1 l2 r : Nat}

theorem intUnion_result {u : IntUnion} {x1 x2 : Int} {retAddr opcode : Nat} {location : Option String}
    (h : (intUnion cfg u l1 l2 x1 x2 retAddr opcode location).run s = .ok (r, s')) :
    r = 0 ∨ r = l1 ∨ r = l2 ∨ r = s'.table.dfsanLastLabel := by
  unfold intUnion at h
  split at h
  · exact .inl (pure_ok h).1
  rw [run_bind, run_get, except_ok_bind] at h
  dsimp only at h
  split at h
  · rw [(pure_ok h).1]
    split
    · exact .inr (.inl rfl)
    · exact .inr (.inr (.inl rfl))
  obtain ⟨_, s₁, -, h⟩ := bind_ok h
  obtain ⟨_, _, _, -, h⟩ := intUnionLabel_ok h
  rcases unionLabel_ok h with ⟨-, -, ⟨rfl, -⟩ | ⟨rfl, -⟩⟩ | ⟨e, -, -, -, -, -, -, -, -, ret⟩
  · exact .inr (.inl rfl)
  · exact .inr (.inr (.inl rfl))
  · exact .inr (.inr (.inr ret))

theorem floatUnion_result {x1 x2 : FloatVal} {retAddr opcode : Nat} {location : Option String}
    (h : (floatUnion cfg l1 l2 x1 x2 retAddr opcode location).run s = .ok (r, s')) :
    r = 0 ∨ r = l1 ∨ r = l2 ∨ r = s'.table.dfsanLastLabel := by
  unfold floatUnion at h
  split at h
  · exact .inl (pure_ok h).1
  rw [run_bind, run_get, except_ok_bind] at h
  dsimp only at h
  split at h
  · rw [(pure_ok h).1]
    split
    · exact .inr (.inl rfl)
    · exact .inr (.inr (.inl rfl))
  obtain ⟨_, s₁, -, h⟩ := bind_ok h
  rcases unionLabel_ok h with ⟨-, -, ⟨rfl, -⟩ | ⟨rfl, -⟩⟩ | ⟨e, -, -, -, -, -, -, -, -, ret⟩
  · exact .inr (.inl rfl)
  · exact .inr (.inr (.inl rfl))
  · exact .inr (.inr (.inr ret))

theorem dfsanUnionUnsupportedType_result {opcode : Nat} {location : Option String}
    (h : (dfsanUnionUnsupportedType l1 l2 opcode location).run s = .ok (r, s')) :
    r = 0 ∨ r = s'.table.dfsanLastLabel := by
  rcases (dfsanUnionUnsupportedType_ok h).1 with ⟨-, -, -, rfl⟩ | ⟨⟨⟩, -⟩ | ⟨-, -, -, -, -, -, ret⟩
  · exact .inl rfl
  · exact .inr ret

theorem ShadowInst.call_result {fr : Frame} {label : Shadow → Nat} {retAddr : Nat} {si : ShadowInst} {c : Call}
    (call : si.call fr label retAddr = some c) (h : (step cfg c).run s = .ok (r, s')) :
    r = 0 ∨ r ∈ c.labels ∨ r = s'.table.dfsanLastLabel := by
  have unit {x : Rt Unit} (h : (do x; pure 0 : Rt Nat).run s = .ok (r, s')) : r = 0 := by
    obtain ⟨_, _, -, h⟩ := bind_ok h
    exact (pure_ok h).1
  have union {a b : Nat} (h : r = 0 ∨ r = a ∨ r = b ∨ r = s'.table.dfsanLastLabel) (labels : c.labels = [a, b]) :
      r = 0 ∨ r ∈ c.labels ∨ r = s'.table.dfsanLastLabel := by
    rw [labels]
    rcases h with zero | one | two | last
    · exact .inl zero
    · exact .inr (.inl (one ▸ List.mem_cons_self _ _))
    · exact .inr (.inl (two ▸ List.mem_cons_of_mem _ (List.mem_singleton_self _)))
    · exact .inr (.inr last)
  cases si with
  | union fn l1 l2 x1 x2 opcode location =>
    cases fn <;> cases call
    · exact union (intUnion_result h) rfl
    · exact union (floatUnion_result h) rfl
    · exact union (floatUnion_result h) rfl
    · exact (dfsanUnionUnsupportedType_result h).elim .inl (.inr ∘ .inr)
  | branch fn => cases fn <;> cases call <;> exact .inl (unit h)
  | setLabel | memcpy => cases call; exact .inl (unit h)
  | _ => cases call

theorem ShadowInst.call_plain {fr : Frame} {label : Shadow → Nat} {retAddr : Nat} {si : ShadowInst} {c : Call}
    (call : si.call fr label retAddr = some c) : c.Plain := by
  cases si with
  | union fn => cases fn <;> cases call <;> exact ⟨nofun, rfl⟩
  | branch fn => cases fn <;> cases call <;> exact ⟨nofun, rfl⟩
  | setLabel | memcpy => cases call; exact ⟨nofun, rfl⟩
  | _ => cases call

theorem ShadowInst.call_labels {fr : Frame} {label : Shadow → Nat} {retAddr : Nat} {si : ShadowInst} {c : Call}
    (call : si.call fr label retAddr = some c) : ∀ l ∈ c.labels, ∃ s, l = label s := by
  cases si with
  | union fn => cases fn <;> cases call <;> simp [Call.labels]
  | branch fn => cases fn <;> cases call <;> simp [Call.labels]
  | setLabel | memcpy => cases call; simp [Call.labels]
  | _ => cases call

end Results

structure RuntimeSound (sources : List Nat) (argTls : Nat → Nat) (σ : ShadowState) : Prop where
  table : TableInv σ.rt.table sources
  logs : LogsBelow σ.rt.table.dfsanLastLabel σ.rt.logs
  labels : LabelsBelow σ.rt.table.dfsanLastLabel argTls σ

section Sound

variable {cfg : Config} {fr : Frame} {argTls : Nat → Nat} {sources : List Nat}

theorem ShadowInst.call_allocated {si : ShadowInst} {r : Nat} {σ : ShadowState} {c : Call}
    (sound : RuntimeSound sources argTls σ) (call : si.call fr (fun s => s.value argTls σ.regs) r = some c) :
    ∀ l ∈ c.labels, l ≤ σ.rt.table.dfsanLastLabel := fun l mem => by
  obtain ⟨s, rfl⟩ := ShadowInst.call_labels call l mem
  exact sound.labels.value s

theorem ShadowInst.exec_sound {si : ShadowInst} {r : Nat} {σ σ' : ShadowState} (sound : RuntimeSound sources argTls σ)
    (h : si.exec cfg fr argTls r σ = .ok σ') : RuntimeSound sources argTls σ' := by
  obtain ⟨⟨v, regs⟩, shadow, slots⟩ := ShadowInst.exec_ok h
  have labels := sound.labels.value
  have below {n : Nat} (grown : σ.rt.table.dfsanLastLabel ≤ n) (pushed : v ≤ n)
      (retval : σ'.retvalTls ≤ n) : LabelsBelow n argTls σ' :=
    ⟨fun i => (sound.labels.args i).trans grown,
      fun w mem => by
        rw [regs, List.mem_append, List.mem_singleton] at mem
        rcases mem with old | rfl
        · exact (sound.labels.regs w old).trans grown
        · exact pushed,
      fun q => shadow ▸ (si.memEffect_le sound.labels.shadow labels q).trans grown,
      fun a => slots ▸ (si.slotEffect_le sound.labels.slots labels a).trans grown, retval⟩
  cases call : si.call fr (fun s => s.value argTls σ.regs) r with
  | some c =>
    rw [ShadowInst.exec_call call] at h
    cases run : (step cfg c).run σ.rt with
    | error e => rw [run] at h; cases h
    | ok p =>
      obtain ⟨w, rt'⟩ := p
      rw [run] at h
      cases h
      have bound := ShadowInst.call_allocated sound call
      have grown : σ.rt.table.dfsanLastLabel ≤ rt'.table.dfsanLastLabel := by
        rcases count_step sound.table run with flush | same | next
        · exact absurd flush (ShadowInst.call_plain call).1
        · exact same.ge
        · simp only [dfsanGetLabelCount] at next
          omega
      have logs := @keeps_step_below _ cfg c bound σ.rt sound.logs
      rw [run] at logs
      obtain rfl : w = v := List.singleton_inj.mp (List.append_cancel_left regs)
      refine ⟨?_, logs.mono grown, below grown ?_ (sound.labels.retval.trans grown)⟩
      · simpa only [Call.sources_plain (ShadowInst.call_plain call)] using tableInv_step sound.table bound run
      · rcases ShadowInst.call_result call run with zero | mem | last
        · exact zero ▸ Nat.zero_le _
        · exact (bound w mem).trans grown
        · exact last.le
  | none =>
    have keep : σ'.rt.table = σ.rt.table ∧ σ'.rt.logs = σ.rt.logs ∧ v ≤ σ.rt.table.dfsanLastLabel ∧
        σ'.retvalTls ≤ σ.rt.table.dfsanLastLabel := by
      have pushed {x : Nat} (same : σ.regs ++ [x] = σ.regs ++ [v]) : v = x :=
        (List.singleton_inj.mp (List.append_cancel_left same)).symm
      cases si with
      | select cond t f =>
        cases h
        rw [pushed regs]
        exact ⟨rfl, rfl, by split <;> exact labels _, sound.labels.retval⟩
      | load addr => cases h; exact ⟨rfl, rfl, pushed regs ▸ sound.labels.shadow _, sound.labels.retval⟩
      | allocaLoad slot => cases h; exact ⟨rfl, rfl, pushed regs ▸ sound.labels.slots _, sound.labels.retval⟩
      | retval s => cases h; exact ⟨rfl, rfl, pushed regs ▸ Nat.zero_le _, labels s⟩
      | storeZero | storeVec | storeSlot | allocaStore =>
        cases h
        exact ⟨rfl, rfl, pushed regs ▸ Nat.zero_le _, sound.labels.retval⟩
      | union fn | branch fn => cases fn <;> cases call
      | setLabel | memcpy => cases call
    obtain ⟨table, logs, pushed, retval⟩ := keep
    exact ⟨table ▸ sound.table, table ▸ logs ▸ sound.logs, table ▸ below le_rfl pushed retval⟩

theorem execShadow_sound {retAddr : Nat → Nat} : ∀ {code : List ShadowInst} {σ σ' : ShadowState},
    RuntimeSound sources argTls σ → execShadow cfg fr argTls retAddr code σ = .ok σ' → RuntimeSound sources argTls σ'
  | [], _, _, sound, h => by cases h; exact sound
  | si :: rest, σ, σ', sound, h => by
    simp only [execShadow] at h
    cases first : si.exec cfg fr argTls (retAddr σ.regs.length) σ with
    | error e => rw [first] at h; cases h
    | ok σ₁ =>
      rw [first] at h
      exact execShadow_sound (ShadowInst.exec_sound sound first) h

end Sound

theorem instrumented_code_keeps_runtime_invariants (cfg : Config) (fr : Frame) (argTls retAddr : Nat → Nat)
    (code : List ShadowInst) (s : RuntimeState) (sources : List Nat) (reach : Reach cfg s sources)
    (shadow : ∀ q, s.shadow q ≤ s.table.dfsanLastLabel) (args : ∀ i, argTls i ≤ s.table.dfsanLastLabel)
    (slots : Nat → Nat) (allocas : ∀ a, slots a ≤ s.table.dfsanLastLabel) (retvalTls : Nat)
    (retval : retvalTls ≤ s.table.dfsanLastLabel) :
    (match execShadow cfg fr argTls retAddr code ⟨s, [], slots, retvalTls⟩ with
      | .ok σ => RuntimeSound sources argTls σ
      | .error _ => True) ∧
    ∀ p (lt : p < code.length) (σ : ShadowState),
      execShadow cfg fr argTls retAddr (code.take p) ⟨s, [], slots, retvalTls⟩ = .ok σ →
      ∀ c, (code.get ⟨p, lt⟩).call fr (fun x => x.value argTls σ.regs) (retAddr σ.regs.length) = some c →
        ∀ l ∈ c.labels, l ≤ σ.rt.table.dfsanLastLabel := by
  have start : RuntimeSound sources argTls ⟨s, [], slots, retvalTls⟩ := ⟨tableInv_of_reach reach,
    logsBelow_of_reach reach, ⟨args, fun _ mem => absurd mem (List.not_mem_nil _), shadow, allocas, retval⟩⟩
  refine ⟨?_, fun p lt σ run c call => ShadowInst.call_allocated (execShadow_sound start run) call⟩
  split
  · next σ run => exact execShadow_sound start run
  · trivial

theorem instrumented_code_keeps_runtime_invariants_branch :
    let cfg : Config := ⟨⟨true, 1, false, false, false, false⟩, false⟩
    let F : IRFunction := ⟨[.binaryOperator OpCode.MUL (.arg 0) (.arg 1) (.int 32) (.int 32) none,
      .cmp OpCode.ICMP Predicate.ICMP_SGT (.inst 0) (.intConst 7) (.int 32), .br (some (.inst 1)) none,
      .store (.inst 0) (.arg 2) 4, .memTransfer (.arg 3) (.arg 2) (.intConst 4) none, .load (.arg 3) 4],
      false, fun _ => false⟩
    let fr : Frame := ⟨fun _ => 3, fun _ => 0⟩
    let code := (instrument F ⟨false, 0⟩ 0).code
    (match execShadow cfg fr (fun _ => 1) (fun _ => 0) code ⟨createdState (some "x"), [], fun _ => 0, 0⟩ with
      | .ok σ => RuntimeSound [1] (fun _ => 1) σ
      | .error _ => True) ∧
    ∀ p (lt : p < code.length) (σ : ShadowState),
      execShadow cfg fr (fun _ => 1) (fun _ => 0) (code.take p) ⟨createdState (some "x"), [], fun _ => 0, 0⟩ = .ok σ →
      ∀ c, (code.get ⟨p, lt⟩).call fr (fun x => x.value (fun _ => 1) σ.regs) 0 = some c →
        ∀ l ∈ c.labels, l ≤ σ.rt.table.dfsanLastLabel := by
  intro cfg F fr code
  have reach : Reach cfg (createdState (some "x")) ((Call.createLabel (some "x")).sources 1 []) :=
    .call .flushed (by simp [Call.labels]) rfl
  exact instrumented_code_keeps_runtime_invariants cfg fr (fun _ => 1) (fun _ => 0) code (createdState (some "x")) [1]
    reach (fun _ => Nat.zero_le _) (fun _ => le_rfl) (fun _ => 0) (fun _ => Nat.zero_le _) 0 (Nat.zero_le _)

end Grsan
