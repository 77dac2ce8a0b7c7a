import Grsan.Pass.ShadowCode
import Grsan.Runtime.Shadow
import Grsan.Runtime.Frame

set_option autoImplicit false

namespace Grsan

theorem getShadowAddress_eq_shadowFor (addr : Nat) : getShadowAddress addr = shadowFor addr := by
  rw [getShadowAddress, shadowFor, Nat.shiftLeft_eq, pow_one]

section Slots

variable (shadow : Nat → Nat) (base label : Nat)

@[simp] theorem writeSlots_zero (first : Nat) : writeSlots shadow base first 0 label = shadow := by
  funext q
  simp only [writeSlots]
  exact if_neg (by omega)

theorem writeSlots_append (first m n : Nat) :
    writeSlots (writeSlots shadow base first m label) base (first + m) n label =
      writeSlots shadow base first (m + n) label := by
  funext q
  simp only [writeSlots]
  split_ifs <;> first | rfl | omega

theorem setLabelLoop_eq_writeSlots (n : Nat) : setLabelLoop label shadow base n = writeSlots shadow base 0 n label := by
  funext q
  rw [setLabelLoop_apply, writeSlots, Nat.mul_zero, Nat.add_zero, Nat.zero_add]

theorem writeSlots_shadowFor {a n x : Nat} (low : 0x700000008000 ≤ a) (high : a + n ≤ 0x800000000000)
    (app : AppAddr x) :
    writeSlots shadow (shadowFor a) 0 n label (shadowFor x) = if a ≤ x ∧ x < a + n then label else shadow (shadowFor x) := by
  rw [← setLabelLoop_eq_writeSlots, setLabelLoop_shadowFor label shadow low high app]

end Slots

section Copy

variable (shadow : Nat → Nat) (dest src : Nat)

theorem copyShadow_apply : ∀ n q, copyShadow shadow dest src n q =
    if dest ≤ q ∧ q < dest + 2 * n ∧ (q - dest) % 2 = 0 then shadow (src + (q - dest)) else shadow q
  | 0, q => by rw [if_neg (by omega)]; rfl
  | n + 1, q => by
    rw [copyShadow, Function.update_apply, copyShadow_apply n]
    by_cases last : q = dest + 2 * n
    · rw [if_pos last, if_pos (by omega), last, Nat.add_sub_cancel_left]
    · rw [if_neg last]
      split_ifs <;> first | rfl | omega

theorem copyShadow_shadowFor {n x : Nat} (lowD : 0x700000008000 ≤ dest) (highD : dest + n ≤ 0x800000000000)
    (lowS : 0x700000008000 ≤ src) (highS : src + n ≤ 0x800000000000) (app : AppAddr x) :
    copyShadow shadow (shadowFor dest) (shadowFor src) n (shadowFor x) =
      if dest ≤ x ∧ x < dest + n then shadow (shadowFor (src + (x - dest))) else shadow (shadowFor x) := by
  rw [copyShadow_apply]
  have hx := shadowFor_app app
  have := app.1
  by_cases empty : n = 0
  · rw [if_neg (by omega), if_neg (by omega)]
  have hd := shadowFor_app ⟨lowD, show dest < 0x800000000000 by omega⟩
  by_cases inside : dest ≤ x ∧ x < dest + n
  · have hs := shadowFor_add (a := src) (i := x - dest) ⟨lowS, by omega⟩ ⟨by omega, by omega⟩
    rw [if_pos (by omega), if_pos inside, hs]
    congr 2
    omega
  · rw [if_neg (by omega), if_neg inside]

end Copy

theorem Shadow.value_append_zeros (argTls : Nat → Nat) (regs : List Nat) (n : Nat) (s : Shadow) :
    s.value argTls (regs ++ List.replicate n 0) = s.value argTls regs := by
  cases s with
  | reg r =>
    simp only [Shadow.value, List.getD_eq_getElem?_getD]
    by_cases h : r < regs.length
    · rw [List.getElem?_append_left h]
    · rw [List.getElem?_append_right (by omega), List.getElem?_eq_none (by omega : regs.length ≤ r),
        List.getElem?_replicate]
      split <;> rfl
  | _ => rfl

theorem Shadow.value_push_zero (argTls : Nat → Nat) (regs : List Nat) (s : Shadow) :
    s.value argTls (regs ++ [0]) = s.value argTls regs :=
  s.value_append_zeros argTls regs 1

def Shadow.Below (n : Nat) : Shadow → Prop
  | .reg r => r < n
  | _ => True

theorem Shadow.below_mono {s : Shadow} {m n : Nat} (below : s.Below m) (le : m ≤ n) : s.Below n := by
  cases s with
  | reg r => exact Nat.lt_of_lt_of_le below le
  | _ => trivial

theorem Shadow.value_of_prefix {argTls : Nat → Nat} {s : Shadow} {regs regs' : List Nat} (below : s.Below regs.length)
    (pre : regs <+: regs') : s.value argTls regs' = s.value argTls regs := by
  obtain ⟨rest, rfl⟩ := pre
  cases s with
  | reg r => simp only [Shadow.value, List.getD_eq_getElem?_getD, List.getElem?_append_left below]
  | _ => rfl

def ShadowInst.memEffect (fr : Frame) (label : Shadow → Nat) (shadow : Nat → Nat) : ShadowInst → Nat → Nat
  | .storeZero addr size => writeSlots shadow (getShadowAddress (fr.ptr addr)) 0 size 0
  | .storeVec addr offset s =>
    writeSlots shadow (getShadowAddress (fr.ptr addr)) (ShadowVecSize * offset) ShadowVecSize (label s)
  | .storeSlot addr offset s => writeSlots shadow (getShadowAddress (fr.ptr addr)) offset 1 (label s)
  | .setLabel l dest len => setLabelLoop (label l) shadow (shadowFor (fr.ptr dest)) (fr.ptr len)
  | .memcpy dest src len .. => copyShadow shadow (shadowFor (fr.ptr dest)) (shadowFor (fr.ptr src)) (fr.ptr len)
  | _ => shadow

def ShadowInst.slotEffect (label : Shadow → Nat) (slots : Nat → Nat) : ShadowInst → Nat → Nat
  | .allocaStore slot s => Function.update slots slot (label s)
  | _ => slots

def ShadowInst.writes : ShadowInst → Bool
  | .storeZero .. | .storeVec .. | .storeSlot .. | .allocaStore .. | .setLabel .. | .memcpy .. => true
  | _ => false

theorem ShadowInst.effects_of_writes_false {fr : Frame} {label : Shadow → Nat} {shadow slots : Nat → Nat}
    {si : ShadowInst} (h : si.writes = false) :
    si.memEffect fr label shadow = shadow ∧ si.slotEffect label slots = slots := by
  cases si <;> first | exact ⟨rfl, rfl⟩ | cases h

theorem memcpy_shadow {cfg : Config} {s s' : RuntimeState} {u : Unit} {dest src n destLabel srcLabel nLabel retAddr : Nat}
    {location : Option String}
    (h : (memcpy cfg dest src n destLabel srcLabel nLabel retAddr location).run s = .ok (u, s')) :
    s'.shadow = copyShadow s.shadow (shadowFor dest) (shadowFor src) n := by
  unfold memcpy at h
  obtain ⟨_, s₁, first, h⟩ := bind_ok h
  obtain ⟨_, s₂, second, h⟩ := bind_ok h
  obtain ⟨_, s₃, third, h⟩ := bind_ok h
  rw [run_modify, Except.ok.injEq] at h
  cases h
  rw [(memcpyArg_ok third).2.1, (memcpyArg_ok second).2.1, (memcpyArg_ok first).2.1]

section Exec

variable {cfg : Config} {fr : Frame} {argTls : Nat → Nat}

theorem ShadowInst.exec_ok {si : ShadowInst} {r : Nat} {σ σ' : ShadowState}
    (h : si.exec cfg fr argTls r σ = .ok σ') :
    (∃ v, σ'.regs = σ.regs ++ [v]) ∧
      σ'.rt.shadow = si.memEffect fr (fun s => s.value argTls σ.regs) σ.rt.shadow ∧
      σ'.slots = si.slotEffect (fun s => s.value argTls σ.regs) σ.slots := by
  have viaCall {c : Call} (call : si.call fr (fun s => s.value argTls σ.regs) r = some c)
      (shadow : ∀ v rt, (step cfg c).run σ.rt = .ok (v, rt) →
        rt.shadow = si.memEffect fr (fun s => s.value argTls σ.regs) σ.rt.shadow)
      (slots : si.slotEffect (fun s => s.value argTls σ.regs) σ.slots = σ.slots) :
      (∃ v, σ'.regs = σ.regs ++ [v]) ∧
        σ'.rt.shadow = si.memEffect fr (fun s => s.value argTls σ.regs) σ.rt.shadow ∧
        σ'.slots = si.slotEffect (fun s => s.value argTls σ.regs) σ.slots := by
    rw [ShadowInst.exec_call call] at h
    cases run : (step cfg c).run σ.rt with
    | error e => rw [run] at h; cases h
    | ok p =>
      rw [run] at h
      cases h
      exact ⟨⟨_, rfl⟩, shadow _ _ run, slots.symm⟩
  have unit {x : Rt Unit} {v : Nat} {rt : RuntimeState} (h : (do x; pure 0 : Rt Nat).run σ.rt = .ok (v, rt)) :
      ∃ u, x.run σ.rt = .ok (u, rt) := by
    obtain ⟨u, s₁, run, h⟩ := bind_ok h
    obtain ⟨-, rfl⟩ := pure_ok h
    exact ⟨u, run⟩
  cases si with
  | union fn l1 l2 x1 x2 opcode location =>
    cases fn with
    | int w => exact viaCall rfl (fun _ _ run => (intUnion_ok run).2) rfl
    | float => exact viaCall rfl (fun _ _ run => (floatUnion_ok run).2) rfl
    | double => exact viaCall rfl (fun _ _ run => (floatUnion_ok run).2) rfl
    | unsupported => exact viaCall rfl (fun _ _ run => (dfsanUnionUnsupportedType_ok run).2) rfl
  | branch fn lhsLabel rhsLabel lhs rhs cond pred fileId brId location =>
    cases fn with
    | int w zext =>
      exact viaCall rfl (fun _ _ run => by obtain ⟨_, visit⟩ := unit run; exact (intBranchVisitor_ok visit).2) rfl
    | float => exact viaCall rfl (fun _ _ run => by obtain ⟨_, visit⟩ := unit run; exact (floatBranchVisitor_ok visit).2) rfl
    | double => exact viaCall rfl (fun _ _ run => by obtain ⟨_, visit⟩ := unit run; exact (floatBranchVisitor_ok visit).2) rfl
  | setLabel l dest len =>
    exact viaCall rfl (fun _ _ run => by
      obtain ⟨_, set⟩ := unit run
      cases set
      rfl) rfl
  | memcpy dest src len destLabel srcLabel nLabel location =>
    exact viaCall rfl (fun _ _ run => by obtain ⟨_, copy⟩ := unit run; exact memcpy_shadow copy) rfl
  | _ => cases h; exact ⟨⟨_, rfl⟩, rfl, rfl⟩

variable {retAddr : Nat → Nat}

theorem execShadow_singleton (si : ShadowInst) (σ : ShadowState) :
    execShadow cfg fr argTls retAddr [si] σ = si.exec cfg fr argTls (retAddr σ.regs.length) σ := by
  simp only [execShadow]
  cases si.exec cfg fr argTls (retAddr σ.regs.length) σ <;> rfl

theorem execShadow_regs : ∀ {code : List ShadowInst} {σ σ' : ShadowState},
    execShadow cfg fr argTls retAddr code σ = .ok σ' → ∃ vs, σ'.regs = σ.regs ++ vs ∧ vs.length = code.length
  | [], _, _, h => by cases h; exact ⟨[], by simp, rfl⟩
  | si :: rest, σ, σ', h => by
    simp only [execShadow] at h
    cases first : si.exec cfg fr argTls (retAddr σ.regs.length) σ with
    | error e => rw [first] at h; cases h
    | ok σ₁ =>
      rw [first] at h
      obtain ⟨⟨v, regs₁⟩, -⟩ := ShadowInst.exec_ok first
      obtain ⟨vs, regs, length⟩ := execShadow_regs h
      exact ⟨v :: vs, by rw [regs, regs₁, List.append_assoc, List.singleton_append], by simp [length]⟩

theorem execShadow_frame : ∀ {code : List ShadowInst} {σ σ' : ShadowState}, (∀ si ∈ code, si.writes = false) →
    execShadow cfg fr argTls retAddr code σ = .ok σ' → σ'.rt.shadow = σ.rt.shadow ∧ σ'.slots = σ.slots
  | [], _, _, _, h => by cases h; exact ⟨rfl, rfl⟩
  | si :: rest, σ, σ', pure, h => by
    simp only [execShadow] at h
    cases first : si.exec cfg fr argTls (retAddr σ.regs.length) σ with
    | error e => rw [first] at h; cases h
    | ok σ₁ =>
      rw [first] at h
      obtain ⟨-, shadow₁, slots₁⟩ := ShadowInst.exec_ok first
      obtain ⟨mem, slot⟩ := @ShadowInst.effects_of_writes_false fr (fun s => s.value argTls σ.regs) σ.rt.shadow σ.slots
        si (pure si (List.mem_cons_self _ _))
      obtain ⟨shadow, slots⟩ := execShadow_frame (fun si mem => pure si (List.mem_cons_of_mem _ mem)) h
      exact ⟨shadow.trans (shadow₁.trans mem), slots.trans (slots₁.trans slot)⟩

end Exec

section Stores

variable {cfg : Config} {fr : Frame} {argTls : Nat → Nat} {retAddr : Nat → Nat} (addr : IRValue) (s : Shadow)

theorem execShadow_storeVecs : ∀ (n offset : Nat) (σ : ShadowState),
    execShadow cfg fr argTls retAddr (storeVecs addr s offset n) σ =
      .ok { σ with
        rt := { σ.rt with
          shadow := writeSlots σ.rt.shadow (getShadowAddress (fr.ptr addr)) (ShadowVecSize * offset)
            (ShadowVecSize * n) (s.value argTls σ.regs) },
        regs := σ.regs ++ List.replicate n 0 }
  | 0, _, _ => by simp [storeVecs, execShadow]
  | n + 1, offset, σ => by
    simp only [storeVecs, execShadow, ShadowInst.exec, ShadowInst.call, Except.bind]
    rw [execShadow_storeVecs n (offset + 1)]
    simp only [Shadow.value_push_zero, List.append_assoc, List.singleton_append, List.replicate_succ]
    rw [show ShadowVecSize * (offset + 1) = ShadowVecSize * offset + ShadowVecSize by ring, writeSlots_append,
      show ShadowVecSize + ShadowVecSize * n = ShadowVecSize * (n + 1) by ring]

theorem execShadow_storeSlots : ∀ (n offset : Nat) (σ : ShadowState),
    execShadow cfg fr argTls retAddr (storeSlots addr s offset n) σ =
      .ok { σ with
        rt := { σ.rt with
          shadow := writeSlots σ.rt.shadow (getShadowAddress (fr.ptr addr)) offset n (s.value argTls σ.regs) },
        regs := σ.regs ++ List.replicate n 0 }
  | 0, _, _ => by simp [storeSlots, execShadow]
  | n + 1, offset, σ => by
    simp only [storeSlots, execShadow, ShadowInst.exec, ShadowInst.call, Except.bind]
    rw [execShadow_storeSlots n (offset + 1)]
    simp only [Shadow.value_push_zero, List.append_assoc, List.singleton_append, List.replicate_succ]
    rw [writeSlots_append, Nat.add_comm 1 n]

theorem execShadow_storeShadowCode (size : Nat) (σ : ShadowState) :
    ∃ zeros, execShadow cfg fr argTls retAddr (storeShadowCode addr size s) σ = .ok { σ with
      rt := { σ.rt with
        shadow := writeSlots σ.rt.shadow (getShadowAddress (fr.ptr addr)) 0 size (s.value argTls σ.regs) },
      regs := σ.regs ++ zeros } := by
  by_cases zero : s = .zero
  · subst zero
    exact ⟨[0], rfl⟩
  · have whole : ShadowVecSize * (size / ShadowVecSize) + size % ShadowVecSize = size := Nat.div_add_mod _ _
    have vecsThenSlots := writeSlots_append σ.rt.shadow (getShadowAddress (fr.ptr addr)) (s.value argTls σ.regs) 0
      (ShadowVecSize * (size / ShadowVecSize)) (size % ShadowVecSize)
    rw [Nat.zero_add, whole] at vecsThenSlots
    refine ⟨List.replicate (size / ShadowVecSize) 0 ++ List.replicate (size % ShadowVecSize) 0, ?_⟩
    rw [storeShadowCode, if_neg zero, execShadow_append, execShadow_storeVecs, Except.bind, execShadow_storeSlots]
    simp only [Shadow.value_append_zeros, Nat.mul_zero, vecsThenSlots, List.append_assoc]

theorem storeShadow_sets_label (size : Nat) (σ : ShadowState) :
    ∃ σ', execShadow cfg fr argTls retAddr (storeShadowCode addr size s) σ = .ok σ' ∧
      (dfsanSetLabel (s.value argTls σ.regs) (fr.ptr addr) size).run σ.rt = .ok ((), σ'.rt) ∧
      σ'.slots = σ.slots ∧ σ'.retvalTls = σ.retvalTls ∧ σ.regs <+: σ'.regs := by
  obtain ⟨zeros, run⟩ := execShadow_storeShadowCode addr s size σ
  refine ⟨_, run, ?_, rfl, rfl, List.prefix_append _ _⟩
  rw [getShadowAddress_eq_shadowFor, ← setLabelLoop_eq_writeSlots]
  rfl

end Stores

end Grsan
