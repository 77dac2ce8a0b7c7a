import Grsan.Runtime.Dataflow

set_option autoImplicit false

namespace Grsan

open FloatVal Polynomial

inductive Arith where
  | add | sub | mul
  deriving DecidableEq, Repr

def Arith.apply {R : Type} [CommRing R] : Arith → R → R → R
  | .add, a, b => a + b
  | .sub, a, b => a - b
  | .mul, a, b => a * b

def Arith.chain {R : Type} [CommRing R] : Arith → R → R → R → R → R
  | .add, _, _, da, db => da + db
  | .sub, _, _, da, db => da - db
  | .mul, a, b, da, db => a * db + b * da

def Arith.intOpcode : Arith → Nat
  | .add => OpCode.ADD
  | .sub => OpCode.SUB
  | .mul => OpCode.MUL

inductive Arg (K : Type) where
  | slot (j : Nat)
  | const (c : K)
  deriving DecidableEq, Repr

structure ArithOp (K : Type) where
  op : Arith
  a : Arg K
  b : Arg K

def Arg.value {K R : Type} [CommRing K] [CommRing R] [Algebra K R] (vals : List R) : Arg K → R
  | .slot j => vals.getD j 0
  | .const c => algebraMap K R c

def Arg.ref {K : Type} : Arg K → Ref
  | .slot j => .result j
  | .const _ => .zero

def Arg.consts {K : Type} : Arg K → List K
  | .slot _ => []
  | .const c => [c]

def evalArith {K R : Type} [CommRing K] [CommRing R] [Algebra K R] (vals : List R) :
    List (ArithOp K) → List R
  | [] => vals
  | o :: rest => evalArith (vals ++ [o.op.apply (o.a.value vals) (o.b.value vals)]) rest

def unionCalls {K : Type} [CommRing K] (flow : ArithOp K → Flow) (values : ArithOp K → List K → Values)
    (vals : List K) : List (ArithOp K) → List (Flow × Values)
  | [] => []
  | o :: rest =>
    (flow o, values o vals) :: unionCalls flow values (vals ++ [o.op.apply (o.a.value vals) (o.b.value vals)]) rest

def ArithOp.intFlow (w : IntWidth) (o : ArithOp ℤ) : Flow := .intUnion w o.a.ref o.b.ref o.op.intOpcode

def ArithOp.intValues (o : ArithOp ℤ) (vals : List ℤ) : Values :=
  ⟨o.a.value vals, o.b.value vals, 0, 0, false, 0, 0, 0, 0, none⟩

def arithCalls (w : IntWidth) : List ℤ → List (ArithOp ℤ) → List (Flow × Values) :=
  unionCalls (ArithOp.intFlow w) ArithOp.intValues

-- The label table keeps derivatives in `float`: they are exact while every value and
-- derivative has at most 11 bits, so that every product of the rules has at most 22 and
-- every sum at most 23, under `float`'s 24.
def FloatExact (x₀ : ℤ) (prog : List (ArithOp ℤ)) : Prop :=
  ∀ P ∈ evalArith [(X : ℤ[X])] prog, |P.eval x₀| ≤ 2 ^ 11 ∧ |(derivative P).eval x₀| ≤ 2 ^ 11

section Meaning

variable {K R S : Type} [CommRing K] [CommRing R] [CommRing S] [Algebra K R] [Algebra K S]

theorem Arith.apply_map {F : Type} [FunLike F R S] [RingHomClass F R S] (f : F) (op : Arith) (a b : R) :
    f (op.apply a b) = op.apply (f a) (f b) := by
  cases op <;> simp [Arith.apply]

theorem Arith.chain_map {F : Type} [FunLike F R S] [RingHomClass F R S] (f : F) (op : Arith) (a b da db : R) :
    f (op.chain a b da db) = op.chain (f a) (f b) (f da) (f db) := by
  cases op <;> simp [Arith.chain]

theorem Arith.chain_zero (op : Arith) (a b : R) : op.chain a b 0 0 = 0 := by
  cases op <;> simp [Arith.chain]

theorem Arith.derivative_apply (op : Arith) (A B : R[X]) :
    derivative (op.apply A B) = op.chain A B (derivative A) (derivative B) := by
  cases op <;> simp [Arith.apply, Arith.chain, derivative_mul, add_comm, mul_comm]

theorem Arg.value_map (f : R →ₐ[K] S) (vals : List R) (a : Arg K) :
    a.value (vals.map f) = f (a.value vals) := by
  cases a with
  | slot j => rw [Arg.value, Arg.value, ← map_zero f, List.getD_map]
  | const c => exact (f.commutes c).symm

theorem evalArith_map (f : R →ₐ[K] S) (prog : List (ArithOp K)) :
    ∀ vals : List R, evalArith (vals.map f) prog = (evalArith vals prog).map f := by
  induction prog with
  | nil => exact fun _ => rfl
  | cons o rest ih =>
    intro vals
    simp only [evalArith, Arg.value_map, ← Arith.apply_map, ← ih, List.map_append, List.map_cons, List.map_nil]

theorem evalArith_keeps_vals (prog : List (ArithOp K)) : ∀ vals : List R, vals <+: evalArith vals prog := by
  induction prog with
  | nil => exact fun _ => List.prefix_refl _
  | cons o rest ih => exact fun vals => (List.prefix_append _ _).trans (ih _)

theorem evalArith_length (prog : List (ArithOp K)) :
    ∀ vals : List R, (evalArith vals prog).length = vals.length + prog.length := by
  induction prog with
  | nil => exact fun _ => rfl
  | cons o rest ih =>
    intro vals
    rw [evalArith, ih, List.length_append, List.length_singleton, List.length_cons]
    omega

theorem Arg.value_eval {x₀ : K} (polys : List K[X]) (a : Arg K) :
    a.value (polys.map (eval x₀)) = (a.value polys).eval x₀ := by
  simpa using a.value_map (aeval x₀) polys

theorem arg_fits {Fit : K[X] → Prop} {polys : List K[X]} {prog : List (ArithOp K)} (zero : Fit 0)
    (fits : ∀ P ∈ evalArith polys prog, Fit P)
    {a : Arg K} (const : ∀ c ∈ a.consts, Fit (algebraMap K K[X] c)) : Fit (a.value polys) := by
  cases a with
  | slot j =>
    by_cases lt : j < polys.length
    · have mem : polys.getD j 0 ∈ polys := by
        rw [List.getD_eq_getElem _ _ lt]
        exact List.getElem_mem lt
      exact fits _ ((evalArith_keeps_vals prog polys).subset mem)
    · rw [Arg.value, List.getD_eq_default _ _ (by omega)]
      exact zero
  | const c => exact const c (List.mem_singleton_self c)

end Meaning

def Carries {K : Type} [CommRing K] [Algebra K ℚ] (s : RuntimeState) (l : Nat) (P : K[X]) (x₀ : K) : Prop :=
  operandDx s l = (num (algebraMap K ℚ ((derivative P).eval x₀)), num (algebraMap K ℚ ((derivative P).eval x₀)))

def Extends (s s' : RuntimeState) : Prop :=
  s.table.dfsanLastLabel ≤ s'.table.dfsanLastLabel ∧ s'.table.dfsanLastLabel ≤ 65534 ∧
    ∀ l ≤ s.table.dfsanLastLabel, s'.table.dfsanLabelInfo l = s.table.dfsanLabelInfo l

section Step

variable {s s' : RuntimeState} {r : Nat}

theorem Extends.refl (bounded : s.table.dfsanLastLabel ≤ 65534) : Extends s s :=
  ⟨le_rfl, bounded, fun _ _ => rfl⟩

theorem Extends.operandDx (h : Extends s s') {l : Nat} (low : l ≤ s.table.dfsanLastLabel) :
    operandDx s' l = operandDx s l := by
  simp only [Grsan.operandDx, h.2.2 l low]

theorem Extends.of_allocates {e : DfsanLabelInfo} (bounded : s.table.dfsanLastLabel ≤ 65534)
    (alloc : s.table.Allocates s'.table e) :
    Extends s s' ∧ Grsan.operandDx s' s'.table.dfsanLastLabel = (e.negDydx, e.posDydx) := by
  obtain ⟨room, table⟩ := alloc.next bounded
  have last : s'.table.dfsanLastLabel = s.table.dfsanLastLabel + 1 := by rw [table]
  refine ⟨⟨by omega, by omega, fun l low => ?_⟩, ?_⟩
  · rw [table]
    exact Function.update_noteq (by omega) _ _
  · simp only [Grsan.operandDx, last, table, Function.update_same]
    simp

theorem allocLabel_bind_error {α : Type} {f : Nat → Rt α} {e : Halt}
    (total : ∀ l s₁, ∃ p, (f l).run s₁ = .ok p) (h : (allocLabel >>= f).run s = .error e) :
    ∃ s₁, e = .die s₁ "FATAL: DataFlowSanitizer: out of labels\n" := by
  rw [run_bind] at h
  cases alloc : allocLabel.run s with
  | ok p =>
    obtain ⟨q, ok⟩ := total p.1 p.2
    rw [alloc, except_ok_bind, ok] at h
    cases h
  | error e' =>
    rw [alloc, except_error_bind, Except.error.injEq] at h
    subst h
    simp only [allocLabel, dfsanCheckLabel, run_bind, run_get, except_ok_bind, run_modifyTable, run_ite,
      run_die, run_pure] at alloc
    split at alloc
    · simp only [except_error_bind, Except.error.injEq] at alloc
      exact ⟨_, alloc.symm⟩
    · simp at alloc

theorem unionLabel_carries {fl : Flags} {l1 l2 opcode : Nat} {fVal : Option Int}
    {location : Option String} {q q1 q2 : ℚ} (bounded : s.table.dfsanLastLabel ≤ 65534)
    (le1 : l1 ≤ s.table.dfsanLastLabel) (le2 : l2 ≤ s.table.dfsanLastLabel)
    (c1 : operandDx s l1 = (num q1, num q1)) (c2 : operandDx s l2 = (num q2, num q2)) :
    match (unionLabel fl l1 l2 (operandDx s l1) (operandDx s l2) opcode (num q) (num q) fVal location).run s with
    | .ok (r, s') => operandDx s' r = (num q, num q) ∧ r ≤ s'.table.dfsanLastLabel ∧ Extends s s'
    | .error e => ∃ s', e = .die s' "FATAL: DataFlowSanitizer: out of labels\n" := by
  cases h : (unionLabel fl l1 l2 (operandDx s l1) (operandDx s l2) opcode (num q) (num q) fVal location).run s with
  | error e =>
    unfold unionLabel at h
    split at h
    · simp at h
    split at h
    · simp at h
    exact allocLabel_bind_error (fun _ _ => ⟨_, rfl⟩) h
  | ok p =>
    obtain ⟨r, s'⟩ := p
    dsimp only
    rcases unionLabel_ok h with
      ⟨-, rfl, ⟨rfl, same, -⟩ | ⟨rfl, same, -⟩⟩ | ⟨e, -, -, -, neg, pos, alloc, -, -, rfl⟩
    · rw [c1] at same ⊢
      simp only [cmpEq_num, decide_eq_true_eq] at same
      exact ⟨by rw [same], le1, .refl bounded⟩
    · rw [c2] at same ⊢
      simp only [cmpEq_num, decide_eq_true_eq] at same
      exact ⟨by rw [same], le2, .refl bounded⟩
    · obtain ⟨ext, dx⟩ := Extends.of_allocates bounded alloc
      exact ⟨by rw [dx, neg, pos], le_rfl, ext⟩

end Step

section Carries

variable {K : Type} [CommRing K] [Algebra K ℚ] {s : RuntimeState} {P A B : K[X]} {x₀ : K}

theorem derivative_apply_eval (op : Arith) :
    algebraMap K ℚ ((derivative (op.apply A B)).eval x₀) =
      op.chain (algebraMap K ℚ (A.eval x₀)) (algebraMap K ℚ (B.eval x₀))
        (algebraMap K ℚ ((derivative A).eval x₀)) (algebraMap K ℚ ((derivative B).eval x₀)) := by
  rw [Arith.derivative_apply, ← coe_evalRingHom, Arith.chain_map, Arith.chain_map]

theorem carries_zero : Carries s 0 P x₀ ↔ algebraMap K ℚ ((derivative P).eval x₀) = 0 := by
  simp only [Carries, operandDx_zero, Prod.mk.injEq, and_self, ofNat_eq, Nat.cast_zero, num.injEq, eq_comm]

theorem carries_allZero {l1 l2 : Nat} (c1 : Carries s l1 A x₀) (c2 : Carries s l2 B x₀)
    (zero : allZero (operandDx s l1) (operandDx s l2) = true) :
    algebraMap K ℚ ((derivative A).eval x₀) = 0 ∧ algebraMap K ℚ ((derivative B).eval x₀) = 0 := by
  rw [c1, c2] at zero
  simpa [allZero] using zero

theorem derivative_apply_zero (op : Arith) (hA : algebraMap K ℚ ((derivative A).eval x₀) = 0)
    (hB : algebraMap K ℚ ((derivative B).eval x₀) = 0) :
    algebraMap K ℚ ((derivative (op.apply A B)).eval x₀) = 0 := by
  rw [derivative_apply_eval, hA, hB, Arith.chain_zero]

theorem carries_early_exit {l1 l2 : Nat} (op : Arith) (c1 : Carries s l1 A x₀) (c2 : Carries s l2 B x₀) :
    (l1 = 0 ∧ l2 = 0 → Carries s 0 (op.apply A B) x₀) ∧
      (allZero (operandDx s l1) (operandDx s l2) = true →
        Carries s (if l1 ≠ 0 then l1 else l2) (op.apply A B) x₀) := by
  constructor
  · rintro ⟨rfl, rfl⟩
    exact carries_zero.mpr (derivative_apply_zero op (carries_zero.mp c1) (carries_zero.mp c2))
  · intro zero
    obtain ⟨hA, hB⟩ := carries_allZero c1 c2 zero
    have result := derivative_apply_zero op hA hB
    split
    · rw [Carries, c1, hA, result]
    · rw [Carries, c2, hB, result]

end Carries

theorem intRule_arith (fl : Flags) (u : IntUnion) (op : Arith) (a b : ℤ) (da db : ℚ) :
    ∃ fVal, intRule fl u op.intOpcode a b (num da, num da) (num db, num db) =
      .ok (num (op.chain (algebraMap ℤ ℚ a) (algebraMap ℤ ℚ b) da db),
        num (op.chain (algebraMap ℤ ℚ a) (algebraMap ℤ ℚ b) da db), fVal) := by
  cases op <;> simp [intRule, Arith.intOpcode, Arith.chain, OpCode.ADD, OpCode.SUB, OpCode.MUL]

section Union

variable {cfg : Config} {s : RuntimeState} {l1 l2 retAddr : Nat} {location : Option String} {op : Arith}

theorem intUnion_carries {w : IntWidth} {A B : ℤ[X]} {x₀ : ℤ} (bounded : s.table.dfsanLastLabel ≤ 65534)
    (le1 : l1 ≤ s.table.dfsanLastLabel) (le2 : l2 ≤ s.table.dfsanLastLabel)
    (c1 : Carries s l1 A x₀) (c2 : Carries s l2 B x₀)
    (fit1 : w.union.argType.conv (A.eval x₀) = A.eval x₀)
    (fit2 : w.union.argType.conv (B.eval x₀) = B.eval x₀) :
    match (intUnion cfg w.union l1 l2 (A.eval x₀) (B.eval x₀) retAddr op.intOpcode location).run s with
    | .ok (r, s') => Carries s' r (op.apply A B) x₀ ∧ r ≤ s'.table.dfsanLastLabel ∧ Extends s s'
    | .error e => ∃ s', e = .die s' "FATAL: DataFlowSanitizer: out of labels\n" := by
  obtain ⟨zero, reuse⟩ := carries_early_exit op c1 c2
  obtain ⟨fVal, rule⟩ := intRule_arith cfg.flags w.union op (A.eval x₀) (B.eval x₀)
    (algebraMap ℤ ℚ ((derivative A).eval x₀)) (algebraMap ℤ ℚ ((derivative B).eval x₀))
  rw [← derivative_apply_eval, ← c1, ← c2] at rule
  have site : intArgSite op.intOpcode = none := by cases op <;> rfl
  unfold intUnion
  by_cases labeled : l1 = 0 ∧ l2 = 0
  · rw [if_pos labeled, run_pure]
    exact ⟨zero labeled, Nat.zero_le _, .refl bounded⟩
  rw [if_neg labeled, run_bind, run_get, except_ok_bind]
  dsimp only
  by_cases zeroes : cfg.flags.reuseLabels = true ∧ allZero (operandDx s l1) (operandDx s l2) = true
  · rw [if_pos zeroes, run_pure]
    exact ⟨reuse zeroes.2, by split <;> assumption, .refl bounded⟩
  rw [if_neg zeroes, run_bind, site, divisorRecord, run_pure, except_ok_bind, intUnionLabel, fit1, fit2, rule]
  exact unionLabel_carries bounded le1 le2 c1 c2

end Union

section Run

variable {K : Type} [CommRing K] [Algebra K ℚ] {x₀ : K} {s s' : RuntimeState} {r : Nat}

theorem carries_zero_zero : Carries s 0 (0 : K[X]) x₀ := carries_zero.mpr (by simp)

theorem dfsanCreateLabel_carries {desc : Option String} (bounded : s.table.dfsanLastLabel ≤ 65534)
    (h : (dfsanCreateLabel desc).run s = .ok (r, s')) :
    Carries s' r X x₀ ∧ r ≤ s'.table.dfsanLastLabel ∧ Extends s s' := by
  obtain ⟨⟨e, -, -, neg, pos, -, alloc⟩, rfl, -⟩ := dfsanCreateLabel_ok h
  obtain ⟨ext, dx⟩ := Extends.of_allocates bounded alloc
  refine ⟨?_, le_rfl, ext⟩
  rw [Carries, dx, neg, pos, derivative_X, eval_one, map_one]
  rfl

theorem dfsanCreateLabel_error {desc : Option String} {e : Halt} (h : (dfsanCreateLabel desc).run s = .error e) :
    ∃ s', e = .die s' "FATAL: DataFlowSanitizer: out of labels\n" :=
  allocLabel_bind_error (fun _ _ => ⟨_, rfl⟩) h

structure ArithInv (x₀ : K) (results : List Nat) (polys : List K[X]) (s : RuntimeState) : Prop where
  bounded : s.table.dfsanLastLabel ≤ 65534
  length : results.length = polys.length
  carries : ∀ j, Carries s (results.getD j 0) (polys.getD j 0) x₀
  allocated : ∀ j, results.getD j 0 ≤ s.table.dfsanLastLabel

variable {results : List Nat} {polys : List K[X]}

theorem ArithInv.empty (bounded : s.table.dfsanLastLabel ≤ 65534) : ArithInv x₀ [] [] s :=
  ⟨bounded, rfl, fun _ => carries_zero_zero, fun _ => Nat.zero_le _⟩

theorem ArithInv.extend (inv : ArithInv x₀ results polys s) (ext : Extends s s') :
    ArithInv x₀ results polys s' where
  bounded := ext.2.1
  length := inv.length
  carries j := (ext.operandDx (inv.allocated j)).trans (inv.carries j)
  allocated j := (inv.allocated j).trans ext.1

theorem getD_push {α : Type} (l : List α) (a d : α) (j : Nat) :
    (l ++ [a]).getD j d = if j < l.length then l.getD j d else if j = l.length then a else d := by
  split_ifs with lt eq
  · exact List.getD_append _ _ _ _ lt
  · rw [List.getD_append_right _ _ _ _ (by omega), eq, Nat.sub_self]
    rfl
  · exact List.getD_eq_default _ _ (by simp; omega)

theorem ArithInv.push {P : K[X]} (inv : ArithInv x₀ results polys s) (c : Carries s r P x₀)
    (le : r ≤ s.table.dfsanLastLabel) : ArithInv x₀ (results ++ [r]) (polys ++ [P]) s where
  bounded := inv.bounded
  length := by simp [inv.length]
  carries j := by
    rw [getD_push, getD_push, inv.length]
    split_ifs
    · exact inv.carries j
    · exact c
    · exact carries_zero_zero
  allocated j := by
    rw [getD_push]
    split_ifs
    · exact inv.allocated j
    · exact le
    · exact Nat.zero_le _

theorem ArithInv.arg (inv : ArithInv x₀ results polys s) (a : Arg K) :
    Carries s (a.ref.label results) (a.value polys) x₀ ∧ a.ref.label results ≤ s.table.dfsanLastLabel := by
  cases a with
  | slot j => exact ⟨inv.carries j, inv.allocated j⟩
  | const c => exact ⟨carries_zero.mpr (by simp [Arg.value]), Nat.zero_le _⟩

def UnionCarries (cfg : Config) (x₀ : K) (Fit : K[X] → Prop) (flow : ArithOp K → Flow)
    (values : ArithOp K → List K → Values) : Prop :=
  ∀ (o : ArithOp K) (results : List Nat) (polys : List K[X]) (s : RuntimeState),
    ArithInv x₀ results polys s → Fit (o.a.value polys) → Fit (o.b.value polys) →
    match (step cfg ((flow o).call results (values o (polys.map (eval x₀))))).run s with
    | .ok (r, s') => Carries s' r (o.op.apply (o.a.value polys) (o.b.value polys)) x₀ ∧
        r ≤ s'.table.dfsanLastLabel ∧ Extends s s'
    | .error e => ∃ s', e = .die s' "FATAL: DataFlowSanitizer: out of labels\n"

variable {cfg : Config}

theorem intUnion_unionCarries (w : IntWidth) {x₀ : ℤ} :
    UnionCarries cfg x₀ (fun P => w.union.argType.conv (P.eval x₀) = P.eval x₀) (ArithOp.intFlow w)
      ArithOp.intValues := by
  intro o results polys s inv fit1 fit2
  obtain ⟨c1, le1⟩ := inv.arg o.a
  obtain ⟨c2, le2⟩ := inv.arg o.b
  dsimp only [ArithOp.intFlow, ArithOp.intValues, Flow.call, step]
  rw [Arg.value_eval, Arg.value_eval]
  exact intUnion_carries inv.bounded le1 le2 c1 c2 fit1 fit2

theorem runFlow_unionCalls {Fit : K[X] → Prop} {flow : ArithOp K → Flow} {values : ArithOp K → List K → Values}
    (unions : UnionCarries cfg x₀ Fit flow values) (zero : Fit 0) (prog : List (ArithOp K)) :
    ∀ {results : List Nat} {polys : List K[X]} {s : RuntimeState}, ArithInv x₀ results polys s →
    (∀ P ∈ evalArith polys prog, Fit P) →
      (∀ o ∈ prog, ∀ c ∈ o.a.consts ++ o.b.consts, Fit (algebraMap K K[X] c)) →
    match (runFlow cfg results (unionCalls flow values (polys.map (eval x₀)) prog)).run s with
    | .ok (rs, s') => ArithInv x₀ rs (evalArith polys prog) s'
    | .error e => ∃ s', e = .die s' "FATAL: DataFlowSanitizer: out of labels\n" := by
  induction prog with
  | nil => exact fun inv _ _ => inv
  | cons o rest ih =>
    intro results polys s inv fits consts
    have fit1 := arg_fits zero fits fun c mem => consts o (.head _) c (List.mem_append_left _ mem)
    have fit2 := arg_fits zero fits fun c mem => consts o (.head _) c (List.mem_append_right _ mem)
    have vals : polys.map (eval x₀) ++
        [o.op.apply (o.a.value (polys.map (eval x₀))) (o.b.value (polys.map (eval x₀)))] =
        (polys ++ [o.op.apply (o.a.value polys) (o.b.value polys)]).map (eval x₀) := by
      rw [List.map_append, List.map_singleton, Arg.value_eval, Arg.value_eval, ← coe_evalRingHom, Arith.apply_map]
    have union := unions o results polys s inv fit1 fit2
    rw [unionCalls, vals, runFlow, run_bind]
    revert union
    cases (step cfg ((flow o).call results (values o (polys.map (eval x₀))))).run s with
    | error e => exact id
    | ok p => exact fun ⟨c, le, ext⟩ => ih ((inv.extend ext).push c le) fits fun o' mem => consts o' (.tail _ mem)

theorem runFlow_create_unionCalls {Fit : K[X] → Prop} {flow : ArithOp K → Flow}
    {values : ArithOp K → List K → Values} (unions : UnionCarries cfg x₀ Fit flow values) (zero : Fit 0)
    (prog : List (ArithOp K)) (fits : ∀ P ∈ evalArith [(X : K[X])] prog, Fit P)
    (consts : ∀ o ∈ prog, ∀ c ∈ o.a.consts ++ o.b.consts, Fit (algebraMap K K[X] c)) :
    match (runFlow cfg [] ((.create, ⟨0, 0, 0, 0, false, 0, 0, 0, 0, none⟩) :: unionCalls flow values [x₀] prog)).run
        flushedState with
    | .ok (rs, s) =>
      rs.length = prog.length + 1 ∧ ∀ j, Carries s (rs.getD j 0) ((evalArith [(X : K[X])] prog).getD j 0) x₀
    | .error e => ∃ s, e = .die s "FATAL: DataFlowSanitizer: out of labels\n" := by
  have source : [x₀] = [(X : K[X])].map (eval x₀) := by simp
  rw [runFlow, run_bind, source]
  dsimp only [Flow.call, step]
  cases create : (dfsanCreateLabel none).run flushedState with
  | error e => exact dfsanCreateLabel_error create
  | ok p =>
    obtain ⟨r, s₁⟩ := p
    have created : Carries s₁ r X x₀ ∧ r ≤ s₁.table.dfsanLastLabel ∧ Extends flushedState s₁ :=
      dfsanCreateLabel_carries (by decide) create
    obtain ⟨c, le, -, bounded, -⟩ := created
    have run := runFlow_unionCalls unions zero prog ((ArithInv.empty bounded).push c le) fits consts
    simp only [except_ok_bind, List.nil_append] at run ⊢
    revert run
    cases (runFlow cfg [r] (unionCalls flow values ([(X : K[X])].map (eval x₀)) prog)).run s₁ with
    | error e => exact id
    | ok q =>
      exact fun inv => ⟨by rw [inv.length, evalArith_length, List.length_singleton, Nat.add_comm], inv.carries⟩

end Run

theorem arith_derivatives_exact (cfg : Config) (w : IntWidth) (x₀ : ℤ) (prog : List (ArithOp ℤ))
    (fits : ∀ v ∈ evalArith [x₀] prog, w.union.argType.conv v = v)
    (consts : ∀ o ∈ prog, ∀ c ∈ o.a.consts ++ o.b.consts, w.union.argType.conv c = c)
    (exact : FloatExact x₀ prog) :
    match (runFlow cfg [] ((.create, ⟨0, 0, 0, 0, false, 0, 0, 0, 0, none⟩) :: arithCalls w [x₀] prog)).run
        flushedState with
    | .ok (rs, s) =>
      rs.length = prog.length + 1 ∧ ∀ j, Carries s (rs.getD j 0) ((evalArith [(X : ℤ[X])] prog).getD j 0) x₀
    | .error e => ∃ s, e = .die s "FATAL: DataFlowSanitizer: out of labels\n" := by
  have values : evalArith [x₀] prog = (evalArith [(X : ℤ[X])] prog).map (eval x₀) := by
    rw [← coe_aeval_eq_eval, ← evalArith_map, List.map_singleton, aeval_X]
  refine runFlow_create_unionCalls (intUnion_unionCarries w) (by simp [CType.conv_zero]) prog
    (fun P mem => fits _ (values ▸ List.mem_map_of_mem _ mem)) fun o mem c const => ?_
  simpa using consts o mem c const

theorem arith_derivatives_exact_cubic :
    let cfg : Config := ⟨⟨true, 1, false, false, false, false⟩, false⟩
    let prog : List (ArithOp ℤ) :=
      [⟨.mul, .slot 0, .slot 0⟩, ⟨.sub, .slot 1, .const 2⟩, ⟨.mul, .slot 2, .slot 0⟩]
    (∀ v ∈ evalArith [3] prog, IntWidth.int.union.argType.conv v = v) ∧
    (∀ o ∈ prog, ∀ c ∈ o.a.consts ++ o.b.consts, IntWidth.int.union.argType.conv c = c) ∧ FloatExact 3 prog ∧
    match (runFlow cfg [] ((.create, ⟨0, 0, 0, 0, false, 0, 0, 0, 0, none⟩) :: arithCalls .int [3] prog)).run
        flushedState with
    | .ok (rs, s) =>
      rs.length = prog.length + 1 ∧ ∀ j, Carries s (rs.getD j 0) ((evalArith [(X : ℤ[X])] prog).getD j 0) 3
    | .error e => ∃ s, e = .die s "FATAL: DataFlowSanitizer: out of labels\n" :=
  have exact : FloatExact 3 [⟨.mul, .slot 0, .slot 0⟩, ⟨.sub, .slot 1, .const 2⟩, ⟨.mul, .slot 2, .slot 0⟩] := by
    simp [FloatExact, evalArith, Arith.apply, Arg.value, derivative_mul]
  ⟨by decide, by decide, exact, arith_derivatives_exact _ _ _ _ (by decide) (by decide) exact⟩

end Grsan
