import Grsan.Runtime.Effects

set_option autoImplicit false

namespace Grsan

-- The application region of the x86-64 layout: `[0x700000008000, 0x800000000000)`.
def AppAddr (a : Nat) : Prop := 0x700000008000 ≤ a ∧ a < 0x800000000000

instance : DecidablePred AppAddr := fun _ => inferInstanceAs (Decidable (_ ∧ _))

section Mask

theorem land_shadowMask {a : Nat} (high : a < 2 ^ 47) : a &&& ShadowMask = a % 2 ^ 44 :=
  calc a &&& ShadowMask = (a &&& (2 ^ 47 - 1)) &&& ShadowMask := by
        rw [Nat.and_pow_two_sub_one_eq_mod, Nat.mod_eq_of_lt high]
    _ = a &&& (2 ^ 44 - 1) := by
        rw [Nat.land_assoc, show (2 ^ 47 - 1) &&& ShadowMask = 2 ^ 44 - 1 by decide]
    _ = a % 2 ^ 44 := Nat.and_pow_two_sub_one_eq_mod a 44

theorem shadowFor_app {a : Nat} (app : AppAddr a) : shadowFor a = 2 * a - 0xE00000000000 := by
  obtain ⟨low, high⟩ := app
  rw [shadowFor, land_shadowMask (by omega), Nat.shiftLeft_eq]
  omega

theorem shadowFor_add {a i : Nat} (app : AppAddr a) (app' : AppAddr (a + i)) :
    shadowFor (a + i) = shadowFor a + 2 * i := by
  rw [shadowFor_app app, shadowFor_app app']
  have := app.1
  omega

end Mask

section Loops

variable (label : Nat)

def plainSetLabelLoop (shadow : Nat → Nat) (labelp : Nat) : Nat → Nat → Nat
  | 0 => shadow
  | size + 1 => plainSetLabelLoop (Function.update shadow labelp label) (labelp + 2) size

theorem setLabelLoop_eq_plain : ∀ (shadow : Nat → Nat) (labelp size : Nat),
    setLabelLoop label shadow labelp size = plainSetLabelLoop label shadow labelp size
  | _, _, 0 => rfl
  | shadow, labelp, size + 1 => by
    rw [setLabelLoop, plainSetLabelLoop, ← setLabelLoop_eq_plain]
    split
    · rw [‹label = _›, Function.update_eq_self]
    · rfl

theorem setLabelLoop_apply : ∀ (shadow : Nat → Nat) (labelp size q : Nat),
    setLabelLoop label shadow labelp size q =
      if labelp ≤ q ∧ q < labelp + 2 * size ∧ (q - labelp) % 2 = 0 then label else shadow q
  | shadow, labelp, 0, q => by rw [if_neg (by omega)]; rfl
  | shadow, labelp, size + 1, q => by
    rw [setLabelLoop, setLabelLoop_apply]
    by_cases later : labelp + 2 ≤ q ∧ q < labelp + 2 + 2 * size ∧ (q - (labelp + 2)) % 2 = 0
    · rw [if_pos later, if_pos (show labelp ≤ q ∧ q < labelp + 2 * (size + 1) ∧ (q - labelp) % 2 = 0 by omega)]
    rw [if_neg later]
    by_cases first : q = labelp
    · subst first
      rw [if_pos (show q ≤ q ∧ q < q + 2 * (size + 1) ∧ (q - q) % 2 = 0 by omega)]
      split
      · exact ‹label = _›.symm
      · exact Function.update_same _ _ _
    · rw [if_neg (show ¬(labelp ≤ q ∧ q < labelp + 2 * (size + 1) ∧ (q - labelp) % 2 = 0) by omega)]
      split
      · rfl
      · exact Function.update_noteq first _ _

theorem setLabelLoop_shadowFor (shadow : Nat → Nat) {a n c : Nat} (low : 0x700000008000 ≤ a)
    (high : a + n ≤ 0x800000000000) (appC : AppAddr c) :
    setLabelLoop label shadow (shadowFor a) n (shadowFor c) = if a ≤ c ∧ c < a + n then label else shadow (shadowFor c) := by
  rw [setLabelLoop_apply]
  have hc := shadowFor_app appC
  have := appC.1
  by_cases empty : n = 0
  · rw [if_neg (by omega), if_neg (by omega)]
  have ha := shadowFor_app ⟨low, show a < 0x800000000000 by omega⟩
  by_cases inside : a ≤ c ∧ c < a + n
  · rw [if_pos (by omega), if_pos inside]
  · rw [if_neg (by omega), if_neg inside]

end Loops

section Load

variable {cfg : Config} {s : RuntimeState}

theorem dfsanUnionLoad_uniform {ls n : Nat} (uniform : ∀ i < n, s.shadow (ls + 2 * i) = s.shadow ls) :
    (dfsanUnionLoad cfg ls n).run s = .ok (s.shadow ls, s) := by
  have none : (List.range n).find? (fun i => i ≠ 0 ∧ s.shadow (ls + 2 * i) ≠ s.shadow ls) = none := by
    rw [List.find?_eq_none]
    intro i mem
    simp [uniform i (List.mem_range.mp mem)]
  simp only [dfsanUnionLoad, run_bind, run_get, except_ok_bind, none]
  rfl

end Load

theorem set_label_round_trips {cfg : Config} (s : RuntimeState) {label a n : Nat}
    (low : 0x700000008000 ≤ a) (high : a + n ≤ 0x800000000000) :
    let s' : RuntimeState := { s with shadow := setLabelLoop label s.shadow (shadowFor a) n }
    (dfsanSetLabel label a n).run s = .ok ((), s') ∧
      (∀ b m, a ≤ b → b + m ≤ a + n → 1 ≤ m → (dfsanReadLabel cfg b m).run s' = .ok (label, s')) ∧
      (∀ c, AppAddr c → c < a ∨ a + n ≤ c → s'.shadow (shadowFor c) = s.shadow (shadowFor c)) ∧
      s'.shadow = plainSetLabelLoop label s.shadow (shadowFor a) n := by
  intro s'
  have slot (c : Nat) (appC : AppAddr c) := setLabelLoop_shadowFor label s.shadow low high appC
  refine ⟨rfl, fun b m lowB highB nonempty => ?_, fun c appC outside => (slot c appC).trans (if_neg (by omega)),
    setLabelLoop_eq_plain label s.shadow (shadowFor a) n⟩
  have written (i : Nat) (lt : i < m) : s'.shadow (shadowFor b + 2 * i) = label := by
    rw [← shadowFor_add (show AppAddr b from ⟨by omega, by omega⟩) (show AppAddr (b + i) from ⟨by omega, by omega⟩)]
    exact (slot (b + i) ⟨by omega, by omega⟩).trans (if_pos ⟨by omega, by omega⟩)
  have first : s'.shadow (shadowFor b) = label := written 0 (by omega)
  rw [dfsanReadLabel, if_neg (by omega), dfsanUnionLoad_uniform fun i lt => by rw [written i lt, first], first]

theorem set_label_round_trips_int :
    let a := 0x700000008000
    0x700000008000 ≤ a ∧ a + 4 ≤ 0x800000000000 ∧
      let s' : RuntimeState :=
        { flushedState with shadow := setLabelLoop 1 flushedState.shadow (shadowFor a) 4 }
      (dfsanSetLabel 1 a 4).run flushedState = .ok ((), s') ∧
        (∀ b m, a ≤ b → b + m ≤ a + 4 → 1 ≤ m →
          (dfsanReadLabel ⟨⟨false, 1, false, false, false, false⟩, false⟩ b m).run s' = .ok (1, s')) ∧
        (∀ c, AppAddr c → c < a ∨ a + 4 ≤ c → s'.shadow (shadowFor c) = flushedState.shadow (shadowFor c)) ∧
        s'.shadow = plainSetLabelLoop 1 flushedState.shadow (shadowFor a) 4 :=
  ⟨le_refl _, by decide, set_label_round_trips flushedState (le_refl _) (by decide)⟩

end Grsan
