import Grsan.Pass.ShadowCode
import Grsan.Runtime.Derivative

set_option autoImplicit false

namespace Grsan

open Polynomial

def IntWidth.bits : IntWidth → Nat
  | .byte => 8
  | .short => 16
  | .int => 32
  | .long => 64

theorem unionFn_bits (w : IntWidth) : unionFn (.int w.bits) (.int w.bits) = .int w := by
  cases w <;> rfl

def Arg.toIRValue : Arg ℤ → IRValue
  | .slot 0 => .arg 0
  | .slot (j + 1) => .inst j
  | .const c => .intConst c

def ArithOp.toInst (w : IntWidth) (o : ArithOp ℤ) : Inst :=
  .binaryOperator o.op.intOpcode o.a.toIRValue o.b.toIRValue (.int w.bits) (.int w.bits) none

def arithFunction (w : IntWidth) (prog : List (ArithOp ℤ)) : IRFunction :=
  ⟨prog.map (ArithOp.toInst w), false, fun _ => false⟩

def Arg.below {K : Type} (n : Nat) : Arg K → Bool
  | .slot j => decide (j < n)
  | .const _ => true

def arithSSA {K : Type} : Nat → List (ArithOp K) → Bool
  | _, [] => true
  | n, o :: rest => o.a.below n && o.b.below n && arithSSA (n + 1) rest

section Pass

def Arg.shadowAt (k : Nat) : Arg ℤ → Shadow
  | .slot 0 => .arg 0
  | .slot (j + 1) => if j < k then .reg j else .zero
  | .const _ => .zero

def arithShadowCode (w : IntWidth) : Nat → List (ArithOp ℤ) → List ShadowInst
  | _, [] => []
  | k, o :: rest =>
    .union (.int w) (o.a.shadowAt k) (o.b.shadowAt k) o.a.toIRValue o.b.toIRValue o.op.intOpcode "UNKNOWN" ::
      arithShadowCode w (k + 1) rest

variable {w : IntWidth} {prog : List (ArithOp ℤ)} {opts : PassOptions}

def ArithVisited (w : IntWidth) (prog : List (ArithOp ℤ)) (k : Nat) (st : DFSanFunction) : Prop :=
  st.F = arithFunction w prog ∧ st.code.length = k ∧ ∀ j, st.valShadowMap j = if j < k then some (.reg j) else none

theorem ArithVisited.getShadow {k : Nat} {st : DFSanFunction} (h : ArithVisited w prog k st) (a : Arg ℤ) :
    st.getShadow a.toIRValue = a.shadowAt k := by
  match a with
  | .slot 0 => simp [DFSanFunction.getShadow, Arg.toIRValue, Arg.shadowAt, h.1, arithFunction]
  | .slot (j + 1) =>
    simp only [DFSanFunction.getShadow, Arg.toIRValue, Arg.shadowAt, h.2.2 j]
    split <;> rfl
  | .const c => rfl

theorem visitAll_arith : ∀ (rest : List (ArithOp ℤ)) (k : Nat) (st : DFSanFunction), ArithVisited w prog k st →
    (visitAll opts k (rest.map (ArithOp.toInst w)) st).code = st.code ++ arithShadowCode w k rest ∧
      ArithVisited w prog (k + rest.length) (visitAll opts k (rest.map (ArithOp.toInst w)) st)
  | [], k, st, h => ⟨(List.append_nil _).symm, h⟩
  | o :: rest, k, st, h => by
    have next : ArithVisited w prog (k + 1) (st.visit opts k (o.toInst w)) := by
      refine ⟨h.1, by simp [DFSanFunction.visit, ArithOp.toInst, DFSanFunction.visitBinaryOperator,
        DFSanFunction.emit, DFSanFunction.setShadow, h.2.1], fun j => ?_⟩
      simp only [DFSanFunction.visit, ArithOp.toInst, DFSanFunction.visitBinaryOperator, DFSanFunction.emit,
        DFSanFunction.setShadow, h.2.1, Function.update_apply, h.2.2 j]
      split_ifs <;> first | rfl | omega | (subst_vars; rfl)
    obtain ⟨code, visited⟩ := visitAll_arith rest (k + 1) (st.visit opts k (o.toInst w)) next
    refine ⟨?_, by simpa [Nat.add_assoc, Nat.add_comm 1] using visited⟩
    rw [List.map_cons, visitAll, code, arithShadowCode, ← List.singleton_append, ← List.append_assoc]
    congr 1
    simp [DFSanFunction.visit, ArithOp.toInst, DFSanFunction.visitBinaryOperator, DFSanFunction.emit,
      DFSanFunction.setShadow, h.getShadow, unionFn_bits, locationOf]

theorem instrument_arithFunction (branchId : Nat) :
    (instrument (arithFunction w prog) opts branchId).code = arithShadowCode w 0 prog ∧
      ∀ j < prog.length, (instrument (arithFunction w prog) opts branchId).valShadowMap j = some (.reg j) := by
  have start : ArithVisited w prog 0 ⟨arithFunction w prog, fun _ => none, fun _ => none, [], branchId⟩ :=
    ⟨rfl, rfl, fun _ => rfl⟩
  obtain ⟨code, visited⟩ := @visitAll_arith w prog opts prog 0 _ start
  exact ⟨code, fun j lt => (visited.2.2 j).trans (if_pos (by simpa using lt))⟩

end Pass

section Run

variable {cfg : Config} {fr : Frame} {argTls : Nat → Nat} {retAddr : Nat → Nat} {w : IntWidth} {x₀ : ℤ}

theorem Arg.shadowAt_value (a : Arg ℤ) (regs : List Nat) :
    (a.shadowAt regs.length).value argTls regs = a.ref.label (argTls 0 :: regs) := by
  match a with
  | .slot 0 => rfl
  | .slot (j + 1) =>
    simp only [Arg.shadowAt, Arg.ref, Ref.label, List.getD_cons_succ]
    split
    · rfl
    · exact (List.getD_eq_default _ _ (by omega)).symm
  | .const c => rfl

theorem Arg.frame_value {polys : List ℤ[X]} {rest : List (ArithOp ℤ)}
    (frame : ∀ j < (evalArith polys rest).length,
      fr.int (Arg.slot j : Arg ℤ).toIRValue = ((evalArith polys rest).getD j 0).eval x₀)
    (a : Arg ℤ) (below : a.below polys.length = true) : fr.int a.toIRValue = (a.value polys).eval x₀ := by
  cases a with
  | slot j =>
    have lt : j < polys.length := by simpa [Arg.below] using below
    obtain ⟨more, eq⟩ := evalArith_keeps_vals rest polys
    have within : j < (evalArith polys rest).length := by rw [← eq, List.length_append]; omega
    rw [frame j within, ← eq, List.getD_append _ _ _ _ lt]
    rfl
  | const c =>
    show c = _
    simp [Arg.value]

theorem execShadow_arith (rest : List (ArithOp ℤ)) : ∀ (polys : List ℤ[X]) (σ : ShadowState),
    ArithInv x₀ (argTls 0 :: σ.regs) polys σ.rt → polys.length = σ.regs.length + 1 →
    arithSSA polys.length rest = true →
    (∀ P ∈ evalArith polys rest, w.union.argType.conv (P.eval x₀) = P.eval x₀) →
    (∀ o ∈ rest, ∀ c ∈ o.a.consts ++ o.b.consts, w.union.argType.conv c = c) →
    (∀ j < (evalArith polys rest).length,
      fr.int (Arg.slot j : Arg ℤ).toIRValue = ((evalArith polys rest).getD j 0).eval x₀) →
    match execShadow cfg fr argTls retAddr (arithShadowCode w σ.regs.length rest) σ with
    | .ok σ' => ArithInv x₀ (argTls 0 :: σ'.regs) (evalArith polys rest) σ'.rt
    | .error e => ∃ s, e = .die s "FATAL: DataFlowSanitizer: out of labels\n" := by
  induction rest with
  | nil => exact fun _ _ inv _ _ _ _ _ => inv
  | cons o rest ih =>
    intro polys σ inv length ssa fits consts frame
    simp only [arithSSA, Bool.and_eq_true] at ssa
    obtain ⟨⟨below1, below2⟩, ssa⟩ := ssa
    have fit1 := @arg_fits ℤ _ (fun P => w.union.argType.conv (P.eval x₀) = P.eval x₀) _ _
      (by simp [CType.conv_zero]) fits o.a fun c mem => by simpa using consts o (.head _) c (List.mem_append_left _ mem)
    have fit2 := @arg_fits ℤ _ (fun P => w.union.argType.conv (P.eval x₀) = P.eval x₀) _ _
      (by simp [CType.conv_zero]) fits o.b fun c mem => by simpa using consts o (.head _) c (List.mem_append_right _ mem)
    obtain ⟨c1, le1⟩ := inv.arg o.a
    obtain ⟨c2, le2⟩ := inv.arg o.b
    have union := @intUnion_carries cfg _ _ _ (retAddr σ.regs.length) (some "UNKNOWN") o.op w _ _ x₀
      inv.bounded le1 le2 c1 c2 fit1 fit2
    have call : (ShadowInst.union (.int w) (o.a.shadowAt σ.regs.length) (o.b.shadowAt σ.regs.length) o.a.toIRValue
        o.b.toIRValue o.op.intOpcode "UNKNOWN").call fr (fun s => s.value argTls σ.regs) (retAddr σ.regs.length) =
        some (.intUnion w (o.a.ref.label (argTls 0 :: σ.regs)) (o.b.ref.label (argTls 0 :: σ.regs))
          ((o.a.value polys).eval x₀) ((o.b.value polys).eval x₀) (retAddr σ.regs.length) o.op.intOpcode
          (some "UNKNOWN")) := by
      rw [ShadowInst.call, Arg.shadowAt_value, Arg.shadowAt_value, Arg.frame_value frame o.a below1,
        Arg.frame_value frame o.b below2]
    rw [arithShadowCode, execShadow, ShadowInst.exec_call call, step]
    revert union
    cases (intUnion cfg w.union (o.a.ref.label (argTls 0 :: σ.regs)) (o.b.ref.label (argTls 0 :: σ.regs))
      ((o.a.value polys).eval x₀) ((o.b.value polys).eval x₀) (retAddr σ.regs.length) o.op.intOpcode
      (some "UNKNOWN")).run σ.rt with
    | error e => exact id
    | ok p =>
      intro ⟨c, le, ext⟩
      have next := ih (polys ++ [o.op.apply (o.a.value polys) (o.b.value polys)])
        { σ with rt := p.2, regs := σ.regs ++ [p.1] } ((inv.extend ext).push c le)
        (by simp [length]) (by simpa [length] using ssa) fits (fun o' mem => consts o' (.tail _ mem)) frame
      simpa using next

end Run

theorem IntWidth.conv_of_small {w : IntWidth} (signed : w = .int ∨ w = .long) {v : ℤ} (small : |v| ≤ 2 ^ 11) :
    w.union.argType.conv v = v := by
  rw [abs_le] at small
  rcases signed with rfl | rfl <;>
    simp only [IntWidth.union, dfsanUnion, dfsanUnionLong, CType.conv, CType.int, CType.long, if_true, Int.bmod_def] <;>
    split <;> omega

theorem instrumented_arith_carries_derivatives (cfg : Config) (opts : PassOptions) (branchId : Nat) (w : IntWidth)
    (signed : w = .int ∨ w = .long) (x₀ : ℤ) (prog : List (ArithOp ℤ)) (ssa : arithSSA 1 prog = true)
    (consts : ∀ o ∈ prog, ∀ c ∈ o.a.consts ++ o.b.consts, w.union.argType.conv c = c) (exact : FloatExact x₀ prog)
    (fr : Frame) (argument : fr.int (.arg 0) = x₀)
    (execution : ∀ j < prog.length, fr.int (.inst j) = (evalArith [x₀] prog).getD (j + 1) 0)
    (argTls retAddr : Nat → Nat) (rt : RuntimeState) (slots : Nat → Nat) (retvalTls : Nat)
    (bounded : rt.table.dfsanLastLabel ≤ 65534) (allocated : argTls 0 ≤ rt.table.dfsanLastLabel)
    (source : Carries rt (argTls 0) (X : ℤ[X]) x₀) :
    let st := instrument (arithFunction w prog) opts branchId
    match execShadow cfg fr argTls retAddr st.code ⟨rt, [], slots, retvalTls⟩ with
    | .ok σ => ∀ j < prog.length,
      Carries σ.rt (((st.valShadowMap j).getD .zero).value argTls σ.regs)
        ((evalArith [(X : ℤ[X])] prog).getD (j + 1) 0) x₀
    | .error e => ∃ s, e = .die s "FATAL: DataFlowSanitizer: out of labels\n" := by
  intro st
  obtain ⟨code, shadows⟩ := @instrument_arithFunction w prog opts branchId
  have values : evalArith [x₀] prog = (evalArith [(X : ℤ[X])] prog).map (eval x₀) := by
    rw [← coe_aeval_eq_eval, ← evalArith_map, List.map_singleton, aeval_X]
  have length : (evalArith [(X : ℤ[X])] prog).length = prog.length + 1 := by
    rw [evalArith_length, List.length_singleton, Nat.add_comm]
  have frame (j : Nat) (lt : j < (evalArith [(X : ℤ[X])] prog).length) :
      fr.int (Arg.slot j : Arg ℤ).toIRValue = ((evalArith [(X : ℤ[X])] prog).getD j 0).eval x₀ := by
    rw [← List.getD_map _ 0 (eval x₀), eval_zero, ← values]
    match j with
    | 0 =>
      obtain ⟨more, eq⟩ := evalArith_keeps_vals prog [x₀]
      rw [← eq]
      exact argument
    | j + 1 => exact execution j (by omega)
  have inv : ArithInv x₀ [argTls 0] [(X : ℤ[X])] rt := by
    simpa using (ArithInv.empty bounded).push source allocated
  have run := @execShadow_arith cfg fr argTls retAddr w x₀ prog [(X : ℤ[X])] ⟨rt, [], slots, retvalTls⟩ inv rfl
    ssa (fun P mem => IntWidth.conv_of_small signed (exact P mem).1) consts frame
  simp only [List.length_nil] at run
  rw [code]
  revert run
  cases execShadow cfg fr argTls retAddr (arithShadowCode w 0 prog) ⟨rt, [], slots, retvalTls⟩ with
  | error e => exact id
  | ok σ =>
    intro inv j lt
    rw [shadows j lt]
    exact inv.carries (j + 1)

theorem instrumented_arith_carries_derivatives_cubic :
    let prog : List (ArithOp ℤ) := [⟨.mul, .slot 0, .slot 0⟩, ⟨.sub, .slot 1, .const 2⟩, ⟨.mul, .slot 2, .slot 0⟩]
    let fr : Frame := ⟨fun v => match v with
      | .inst j => (evalArith [3] prog).getD (j + 1) 0
      | _ => 3, fun _ => 0⟩
    let st := instrument (arithFunction .int prog) ⟨false, 0⟩ 0
    match execShadow ⟨⟨true, 1, false, false, false, false⟩, false⟩ fr (fun _ => 1) (fun _ => 0) st.code
        ⟨createdState (some "x"), [], fun _ => 0, 0⟩ with
    | .ok σ => ∀ j < prog.length,
      Carries σ.rt (((st.valShadowMap j).getD .zero).value (fun _ => 1) σ.regs)
        ((evalArith [(X : ℤ[X])] prog).getD (j + 1) 0) 3
    | .error e => ∃ s, e = .die s "FATAL: DataFlowSanitizer: out of labels\n" := by
  intro prog fr st
  have exact : FloatExact 3 prog := by simp [prog, FloatExact, evalArith, Arith.apply, Arg.value, derivative_mul]
  exact instrumented_arith_carries_derivatives _ _ _ _ (.inl rfl) 3 prog (by decide) (by decide) exact fr rfl (fun _ _ => rfl) _ _ _ _ _ (by decide) (by decide) (by simp [Carries])

end Grsan
