import Grsan.Pass.Instrument

set_option autoImplicit false

namespace Grsan

open FloatVal

structure Frame where
  ints : IRValue → Int
  floats : IRValue → FloatVal

namespace Frame

variable (fr : Frame)

def int : IRValue → Int
  | .intConst v => v
  | v => fr.ints v

def float : IRValue → FloatVal
  | .floatConst f => f
  | v => fr.floats v

def ptr (v : IRValue) : Nat := (fr.int v % 2 ^ 64).toNat

end Frame

-- `inttoptr((ptrtoint(Addr) & ShadowPtrMask) * ShadowPtrMul)` on x86-64.
def getShadowAddress (addr : Nat) : Nat := (addr &&& ShadowMask) * 2 % 2 ^ 64

def writeSlots (shadow : Nat → Nat) (base first n label : Nat) : Nat → Nat := fun q =>
  if base + 2 * first ≤ q ∧ q < base + 2 * (first + n) ∧ (q - base) % 2 = 0 then label else shadow q

structure ShadowState where
  rt : RuntimeState
  regs : List Nat
  slots : Nat → Nat
  retvalTls : Nat

def Shadow.value (argTls : Nat → Nat) (regs : List Nat) : Shadow → Nat
  | .zero => 0
  | .arg i => argTls i
  | .reg r => regs.getD r 0

def ShadowInst.call (fr : Frame) (label : Shadow → Nat) (retAddr : Nat) : ShadowInst → Option Call
  | .union (.int w) l1 l2 x1 x2 opcode location =>
    some (.intUnion w (label l1) (label l2) (fr.int x1) (fr.int x2) retAddr opcode (some location))
  | .union .float l1 l2 x1 x2 opcode location | .union .double l1 l2 x1 x2 opcode location =>
    some (.floatUnion (label l1) (label l2) (fr.float x1) (fr.float x2) retAddr opcode (some location))
  | .union .unsupported l1 l2 _ _ opcode location =>
    some (.unionUnsupportedType (label l1) (label l2) opcode (some location))
  | .branch (.int w zext) lhsLabel rhsLabel lhs rhs cond pred fileId brId location =>
    let v (x : IRValue) := match zext with
      | some bits => fr.int x % 2 ^ bits
      | none => fr.int x
    some (.intBranch w (label lhsLabel) (label rhsLabel) (v lhs) (v rhs) (fr.int cond ≠ 0) pred fileId brId 0
      (some location))
  | .branch .float lhsLabel rhsLabel lhs rhs cond pred fileId brId location
  | .branch .double lhsLabel rhsLabel lhs rhs cond pred fileId brId location =>
    some (.floatBranch (label lhsLabel) (label rhsLabel) (fr.float lhs) (fr.float rhs) (fr.int cond ≠ 0) pred fileId
      brId 0 (some location))
  | .setLabel l dest len => some (.setLabel (label l) (fr.ptr dest) (fr.ptr len))
  | .memcpy dest src len destLabel srcLabel nLabel location =>
    some (.memcpy (fr.ptr dest) (fr.ptr src) (fr.ptr len) (label destLabel) (label srcLabel) (label nLabel) retAddr
      (some location))
  | _ => none

def ShadowInst.exec (cfg : Config) (fr : Frame) (argTls : Nat → Nat) (retAddr : Nat) (si : ShadowInst)
    (σ : ShadowState) : Except Halt ShadowState :=
  let label (s : Shadow) := s.value argTls σ.regs
  let push (v : Nat) (σ' : ShadowState) : Except Halt ShadowState := .ok { σ' with regs := σ'.regs ++ [v] }
  let shadowAt (addr : IRValue) := getShadowAddress (fr.ptr addr)
  match si.call fr label retAddr with
  | some c => ((step cfg c).run σ.rt).map fun (r, rt) => { σ with rt := rt, regs := σ.regs ++ [r] }
  | none =>
    match si with
    | .select cond t f => push (if fr.int cond ≠ 0 then label t else label f) σ
    | .load addr => push (σ.rt.shadow (shadowAt addr)) σ
    | .allocaLoad slot => push (σ.slots slot) σ
    | .storeZero addr size =>
      push 0 { σ with rt := { σ.rt with shadow := writeSlots σ.rt.shadow (shadowAt addr) 0 size 0 } }
    | .storeVec addr offset s =>
      push 0 { σ with rt := { σ.rt with
        shadow := writeSlots σ.rt.shadow (shadowAt addr) (ShadowVecSize * offset) ShadowVecSize (label s) } }
    | .storeSlot addr offset s =>
      push 0 { σ with rt := { σ.rt with shadow := writeSlots σ.rt.shadow (shadowAt addr) offset 1 (label s) } }
    | .allocaStore slot s => push 0 { σ with slots := Function.update σ.slots slot (label s) }
    | .retval s => push 0 { σ with retvalTls := label s }
    | _ => push 0 σ

def execShadow (cfg : Config) (fr : Frame) (argTls : Nat → Nat) (retAddr : Nat → Nat) :
    List ShadowInst → ShadowState → Except Halt ShadowState
  | [], σ => .ok σ
  | si :: rest, σ =>
    (si.exec cfg fr argTls (retAddr σ.regs.length) σ).bind (execShadow cfg fr argTls retAddr rest)

section Run

variable {cfg : Config} {fr : Frame} {argTls : Nat → Nat} {retAddr : Nat → Nat}

theorem execShadow_append (a b : List ShadowInst) :
    ∀ σ, execShadow cfg fr argTls retAddr (a ++ b) σ =
      (execShadow cfg fr argTls retAddr a σ).bind (execShadow cfg fr argTls retAddr b) := by
  induction a with
  | nil => exact fun _ => rfl
  | cons si rest ih =>
    intro σ
    simp only [List.cons_append, execShadow]
    cases si.exec cfg fr argTls (retAddr σ.regs.length) σ with
    | error e => rfl
    | ok σ' => exact ih σ'

theorem ShadowInst.exec_call {si : ShadowInst} {σ : ShadowState} {r : Nat} {c : Call}
    (call : si.call fr (fun s => s.value argTls σ.regs) r = some c) :
    si.exec cfg fr argTls r σ =
      ((step cfg c).run σ.rt).map fun (v, rt) => { σ with rt := rt, regs := σ.regs ++ [v] } := by
  simp only [ShadowInst.exec, call]

end Run

end Grsan
