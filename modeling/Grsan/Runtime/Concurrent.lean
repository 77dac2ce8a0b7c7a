import Grsan.Runtime.Dump

set_option autoImplicit false

namespace Grsan

inductive Thread where
  | idle
  | allocating (label : Nat)
  | appending (index : Nat)
  | dying
  deriving DecidableEq, Repr

structure Shared where
  lastLabel : Nat
  argIndex : Nat
  returned : List Nat
  slots : List Nat
  threads : Nat → Thread

def Shared.flushed : Shared := ⟨0, 0, [], [], fun _ => .idle⟩

def Shared.setThread (σ : Shared) (t : Nat) (th : Thread) : Shared :=
  { σ with threads := Function.update σ.threads t th }

inductive Shared.Step : Shared → Shared → Prop
  | fetchLabel {σ : Shared} (t : Nat) : σ.threads t = .idle →
      Step σ ({ σ with lastLabel := (σ.lastLabel + 1) % kNumLabels }.setThread t
        (.allocating ((σ.lastLabel + 1) % kNumLabels)))
  | labelPasses {σ : Shared} (t label : Nat) : σ.threads t = .allocating label →
      label ≠ kInitializingLabel → Step σ ({ σ with returned := label :: σ.returned }.setThread t .idle)
  | labelFails {σ : Shared} (t label : Nat) : σ.threads t = .allocating label →
      label = kInitializingLabel → Step σ (σ.setThread t .dying)
  | fetchSlot {σ : Shared} (t : Nat) : σ.threads t = .idle →
      Step σ ({ σ with argIndex := (σ.argIndex + 1) % 2 ^ 16 }.setThread t (.appending σ.argIndex))
  | slotPasses {σ : Shared} (t index : Nat) : σ.threads t = .appending index → index < FUNC_ARGS_SIZE →
      Step σ ({ σ with slots := index :: σ.slots }.setThread t .idle)
  | slotFails {σ : Shared} (t index : Nat) : σ.threads t = .appending index → FUNC_ARGS_SIZE ≤ index →
      Step σ (σ.setThread t .dying)

def Shared.Reachable (σ : Shared) : Prop := Relation.ReflTransGen Shared.Step Shared.flushed σ

def Shared.handOut (σ : Shared) (label : Nat) : Shared :=
  { σ with lastLabel := label, returned := label :: σ.returned }

@[simp] theorem Shared.setThread_threads (σ : Shared) (t : Nat) (th : Thread) :
    (σ.setThread t th).threads = Function.update σ.threads t th := rfl

namespace Shared

open Relation

variable {σ : Shared} {t : Nat}

theorem Step.handed_out_mono {σ σ' : Shared} (h : Step σ σ') :
    σ.returned ⊆ σ'.returned ∧ σ.slots ⊆ σ'.slots := by
  cases h <;> exact ⟨fun _ mem => by simp_all [setThread], fun _ mem => by simp_all [setThread]⟩

theorem handed_out_mono {σ σ' : Shared} (h : ReflTransGen Step σ σ') :
    σ.returned ⊆ σ'.returned ∧ σ.slots ⊆ σ'.slots := by
  induction h with
  | refl => exact ⟨fun _ => id, fun _ => id⟩
  | tail _ step ih => exact ⟨ih.1.trans step.handed_out_mono.1, ih.2.trans step.handed_out_mono.2⟩

theorem allocate_alone (idle : σ.threads t = .idle)
    (fresh : (σ.lastLabel + 1) % kNumLabels ≠ kInitializingLabel) :
    ReflTransGen Step σ (σ.handOut ((σ.lastLabel + 1) % kNumLabels)) := by
  have pass := @Step.labelPasses ({ σ with lastLabel := (σ.lastLabel + 1) % kNumLabels }.setThread t
    (.allocating ((σ.lastLabel + 1) % kNumLabels))) t _ (by simp) fresh
  have keep : Function.update σ.threads t .idle = σ.threads := by rw [← idle, Function.update_eq_self]
  refine (ReflTransGen.single (Step.fetchLabel t idle)).tail ?_
  convert pass using 1
  simp [setThread, handOut, keep]

theorem allocLabel_as_steps {s s' : RuntimeState} {label : Nat} (idle : σ.threads t = .idle)
    (same : σ.lastLabel = s.table.dfsanLastLabel) (h : allocLabel.run s = .ok (label, s')) :
    ReflTransGen Step σ (σ.handOut label) ∧
      s'.table.dfsanLastLabel = label := by
  obtain ⟨rfl, fresh, rfl⟩ := allocLabel_ok h
  rw [← same] at fresh ⊢
  exact ⟨allocate_alone idle fresh, rfl⟩

theorem allocate_many (n : Nat) :
    ∀ σ : Shared, σ.threads t = .idle → σ.lastLabel + n ≤ 65534 →
      ∃ σ', ReflTransGen Step σ σ' ∧ σ'.lastLabel = σ.lastLabel + n ∧ σ'.threads = σ.threads ∧
        ∀ l, σ.lastLabel < l → l ≤ σ.lastLabel + n → l ∈ σ'.returned := by
  induction n with
  | zero => exact fun σ _ _ => ⟨σ, .refl, rfl, rfl, fun l low high => by omega⟩
  | succ n ih =>
    intro σ idle room
    obtain ⟨σ', steps, last, threads, mem⟩ :=
      ih (σ.handOut (σ.lastLabel + 1)) idle (by simp [handOut]; omega)
    have next : (σ.lastLabel + 1) % kNumLabels = σ.lastLabel + 1 :=
      Nat.mod_eq_of_lt (by unfold kNumLabels; omega)
    have alone := allocate_alone idle (by rw [next]; unfold kInitializingLabel; omega)
    rw [next] at alone
    refine ⟨σ', alone.trans steps, by simp [handOut] at last; omega, threads, fun l low high => ?_⟩
    by_cases first : l = σ.lastLabel + 1
    · exact (handed_out_mono steps).1 (by simp [handOut, first])
    · exact mem l (by simp [handOut]; omega) (by simp [handOut]; omega)

theorem append_alone (idle : σ.threads t = .idle) (room : σ.argIndex < FUNC_ARGS_SIZE) :
    ReflTransGen Step σ { σ with argIndex := σ.argIndex + 1, slots := σ.argIndex :: σ.slots } := by
  have next : (σ.argIndex + 1) % 2 ^ 16 = σ.argIndex + 1 := Nat.mod_eq_of_lt (by unfold FUNC_ARGS_SIZE at room; omega)
  have fetch := Step.fetchSlot t idle
  rw [next] at fetch
  have pass := @Step.slotPasses ({ σ with argIndex := σ.argIndex + 1 }.setThread t (.appending σ.argIndex)) t
    σ.argIndex (by simp) room
  have keep : Function.update σ.threads t .idle = σ.threads := by rw [← idle, Function.update_eq_self]
  refine (ReflTransGen.single fetch).tail ?_
  convert pass using 1
  simp [setThread, keep]

theorem append_many (n : Nat) :
    ∀ σ : Shared, σ.threads t = .idle → σ.argIndex + n ≤ FUNC_ARGS_SIZE →
      ∃ σ', ReflTransGen Step σ σ' ∧ σ'.argIndex = σ.argIndex + n ∧ σ'.threads = σ.threads ∧
        σ'.lastLabel = σ.lastLabel ∧ σ'.returned = σ.returned ∧
        ∀ i, σ.argIndex ≤ i → i < σ.argIndex + n → i ∈ σ'.slots := by
  induction n with
  | zero => exact fun σ _ _ => ⟨σ, .refl, rfl, rfl, rfl, rfl, fun i low high => by omega⟩
  | succ n ih =>
    intro σ idle room
    obtain ⟨σ', steps, index, threads, last, returned, mem⟩ :=
      ih { σ with argIndex := σ.argIndex + 1, slots := σ.argIndex :: σ.slots } idle (by simp; omega)
    refine ⟨σ', (append_alone idle (by omega)).trans steps, by simp at index; omega, threads, last, returned,
      fun i low high => ?_⟩
    by_cases first : i = σ.argIndex
    · exact (handed_out_mono steps).2 (by simp [first])
    · exact mem i (by simp; omega) (by simp; omega)

end Shared

open Relation Shared in
theorem interleaved_fetch_add_collides :
    (∃ σ : Shared, σ.Reachable ∧ 0 ∈ σ.returned ∧ ¬σ.returned.Nodup) ∧
      ∃ σ : Shared, σ.Reachable ∧ ¬σ.slots.Nodup := by
  constructor
  · obtain ⟨σ₁, steps₁, last₁, threads₁, mem₁⟩ := @allocate_many 0 65534 flushed rfl (by decide)
    have one : 1 ∈ σ₁.returned := mem₁ 1 (by decide) (by decide)
    refine ⟨_, (((((steps₁.tail (Step.fetchLabel 0 ?_)).tail (Step.fetchLabel 1 ?_)).tail
      (Step.labelFails 0 65535 ?_ ?_)).tail (Step.labelPasses 1 0 ?_ ?_)).tail (Step.fetchLabel 1 ?_)).tail
      (Step.labelPasses 1 1 ?_ ?_), ?_, ?_⟩
    all_goals simp [setThread, threads₁, last₁, flushed, kNumLabels, kInitializingLabel, one]
  · obtain ⟨σ₁, steps₁, index₁, threads₁, -, -, mem₁⟩ := @append_many 0 65535 flushed rfl (by decide)
    have zero : 0 ∈ σ₁.slots := mem₁ 0 (by decide) (by decide)
    refine ⟨_, (((steps₁.tail (Step.fetchSlot 0 ?_)).tail (Step.fetchSlot 1 ?_)).tail
      (Step.slotFails 0 65535 ?_ ?_)).tail (Step.slotPasses 1 0 ?_ ?_), ?_⟩
    all_goals simp [setThread, threads₁, index₁, flushed, FUNC_ARGS_SIZE, zero]

@[simp] def Thread.heldLabel : Thread → Option Nat
  | .allocating label => some label
  | _ => none

@[simp] def Thread.heldSlot : Thread → Option Nat
  | .appending index => some index
  | _ => none

structure Tickets (counter offset : Nat) (handed : List Nat) (held : Nat → Option Nat) : Prop where
  nodup : handed.Nodup
  handed_range : ∀ l ∈ handed, offset ≤ l ∧ l < counter + offset
  held_range : ∀ t l, held t = some l → offset ≤ l ∧ l < counter + offset
  held_fresh : ∀ t l, held t = some l → l ∉ handed
  held_unique : ∀ t t' l, held t = some l → held t' = some l → t = t'

namespace Tickets

variable {counter offset : Nat} {handed : List Nat} {held : Nat → Option Nat}

theorem empty : Tickets 0 offset [] fun _ => none :=
  ⟨List.nodup_nil, by simp, by simp, by simp, by simp⟩

theorem drop (h : Tickets counter offset handed held) (t : Nat) :
    Tickets counter offset handed (Function.update held t none) := by
  have old : ∀ t' l, Function.update held t none t' = some l → held t' = some l := by
    intro t' l held'
    by_cases same : t' = t
    · subst same; simp at held'
    · rwa [Function.update_noteq same] at held'
  exact ⟨h.nodup, h.handed_range, fun t' l held' => h.held_range t' l (old t' l held'),
    fun t' l held' => h.held_fresh t' l (old t' l held'),
    fun t₁ t₂ l held₁ held₂ => h.held_unique t₁ t₂ l (old t₁ l held₁) (old t₂ l held₂)⟩

theorem fetch (h : Tickets counter offset handed held) (t : Nat) :
    Tickets (counter + 1) offset handed (Function.update held t (some (counter + offset))) := by
  have below : ∀ t' l, Function.update held t (some (counter + offset)) t' = some l →
      t' = t ∧ l = counter + offset ∨ t' ≠ t ∧ held t' = some l := by
    intro t' l held'
    by_cases same : t' = t
    · subst same; simp at held'; exact .inl ⟨rfl, held'.symm⟩
    · rw [Function.update_noteq same] at held'; exact .inr ⟨same, held'⟩
  refine ⟨h.nodup, fun l mem => ?_, fun t' l held' => ?_, fun t' l held' mem => ?_,
    fun t₁ t₂ l held₁ held₂ => ?_⟩
  · have := h.handed_range l mem; omega
  · rcases below t' l held' with ⟨-, rfl⟩ | ⟨-, old⟩
    · omega
    · have := h.held_range t' l old; omega
  · rcases below t' l held' with ⟨-, rfl⟩ | ⟨-, old⟩
    · have := h.handed_range _ mem; omega
    · exact h.held_fresh t' l old mem
  · rcases below t₁ l held₁ with ⟨rfl, rfl⟩ | ⟨ne₁, old₁⟩ <;>
      rcases below t₂ _ held₂ with ⟨rfl, eq⟩ | ⟨ne₂, old₂⟩
    · rfl
    · have := h.held_range t₂ _ old₂; omega
    · have := h.held_range t₁ _ old₁; omega
    · exact h.held_unique t₁ t₂ l old₁ old₂

theorem pass (h : Tickets counter offset handed held) {t l : Nat} (ht : held t = some l) :
    Tickets counter offset (l :: handed) (Function.update held t none) := by
  have dropped := h.drop t
  refine ⟨List.nodup_cons.mpr ⟨h.held_fresh t l ht, h.nodup⟩, ?_, dropped.held_range, fun t' l' held' mem => ?_,
    dropped.held_unique⟩
  · simpa [h.held_range t l ht] using h.handed_range
  · rcases List.mem_cons.mp mem with rfl | old
    · have ne : t' ≠ t := fun same => by subst same; simp at held'
      rw [Function.update_noteq ne] at held'
      exact ne (h.held_unique t' t _ held' ht)
    · exact dropped.held_fresh t' l' held' old

end Tickets

namespace Shared

open Relation

structure Sound (σ : Shared) : Prop where
  labels : Tickets σ.lastLabel 1 σ.returned (Thread.heldLabel ∘ σ.threads)
  slots : Tickets σ.argIndex 0 σ.slots (Thread.heldSlot ∘ σ.threads)
  label_lt : σ.lastLabel < kNumLabels
  index_lt : σ.argIndex < 2 ^ 16

def NoWrap (σ σ' : Shared) : Prop :=
  Step σ σ' ∧ σ.lastLabel ≤ σ'.lastLabel ∧ σ.argIndex ≤ σ'.argIndex

theorem sound_flushed : flushed.Sound :=
  ⟨Tickets.empty, Tickets.empty, by decide, by decide⟩

theorem Sound.noWrap {σ σ' : Shared} (inv : σ.Sound) (h : NoWrap σ σ') : σ'.Sound := by
  obtain ⟨step, labels, slots⟩ := h
  have label_lt := inv.label_lt
  have index_lt := inv.index_lt
  cases step with
  | fetchLabel t _ =>
    simp only [setThread] at labels ⊢
    have next : (σ.lastLabel + 1) % kNumLabels = σ.lastLabel + 1 := by unfold kNumLabels at *; omega
    rw [next]
    exact ⟨by simpa [Function.comp_update, Nat.add_comm 1] using inv.labels.fetch t,
      by simpa [Function.comp_update] using inv.slots.drop t, by dsimp only; unfold kNumLabels at *; omega, index_lt⟩
  | labelPasses t label held _ =>
    have passed := inv.labels.pass (show (Thread.heldLabel ∘ σ.threads) t = some label by simp [held])
    exact ⟨by simpa [setThread, Function.comp_update] using passed,
      by simpa [setThread, Function.comp_update, held] using inv.slots.drop t, label_lt, index_lt⟩
  | labelFails t label held _ =>
    exact ⟨by simpa [setThread, Function.comp_update] using inv.labels.drop t,
      by simpa [setThread, Function.comp_update] using inv.slots.drop t, label_lt, index_lt⟩
  | fetchSlot t _ =>
    simp only [setThread, Nat.reducePow] at slots index_lt ⊢
    have next : (σ.argIndex + 1) % 65536 = σ.argIndex + 1 := by omega
    rw [next]
    exact ⟨by simpa [Function.comp_update] using inv.labels.drop t,
      by simpa [Function.comp_update] using inv.slots.fetch t, label_lt, by dsimp only; omega⟩
  | slotPasses t index held _ =>
    have passed := inv.slots.pass (show (Thread.heldSlot ∘ σ.threads) t = some index by simp [held])
    exact ⟨by simpa [setThread, Function.comp_update, held] using inv.labels.drop t,
      by simpa [setThread, Function.comp_update] using passed, label_lt, index_lt⟩
  | slotFails t index held _ =>
    exact ⟨by simpa [setThread, Function.comp_update] using inv.labels.drop t,
      by simpa [setThread, Function.comp_update] using inv.slots.drop t, label_lt, index_lt⟩

theorem sound_of_noWrap {σ : Shared} (h : ReflTransGen NoWrap flushed σ) : σ.Sound := by
  induction h with
  | refl => exact sound_flushed
  | tail _ step ih => exact ih.noWrap step

end Shared

open Relation Shared in
theorem handouts_unique_until_wrap {σ : Shared} (h : ReflTransGen NoWrap flushed σ) :
    0 ∉ σ.returned ∧ σ.returned.Nodup ∧ σ.slots.Nodup := by
  have inv := sound_of_noWrap h
  exact ⟨fun mem => absurd (inv.labels.handed_range 0 mem).1 (by decide), inv.labels.nodup, inv.slots.nodup⟩

open Relation Shared in
theorem handouts_unique_until_wrap_two_threads :
    let σ : Shared := ⟨2, 1, [1, 2], [0], fun _ => .idle⟩
    ReflTransGen NoWrap flushed σ ∧ 0 ∉ σ.returned ∧ σ.returned.Nodup ∧ σ.slots.Nodup := by
  intro σ
  have run : ReflTransGen NoWrap flushed σ := by
    have chain := ((((((@ReflTransGen.refl _ NoWrap flushed).tail ⟨Step.fetchLabel 0 rfl, ?_, ?_⟩).tail
      ⟨Step.fetchLabel 1 ?_, ?_, ?_⟩).tail ⟨Step.labelPasses 1 2 ?_ ?_, ?_, ?_⟩).tail
      ⟨Step.labelPasses 0 1 ?_ ?_, ?_, ?_⟩).tail ⟨Step.fetchSlot 0 ?_, ?_, ?_⟩).tail
      ⟨Step.slotPasses 0 0 ?_ ?_, ?_, ?_⟩
    convert chain using 1
    all_goals simp [σ, setThread, flushed, kNumLabels, kInitializingLabel, FUNC_ARGS_SIZE]
    funext x
    simp only [Function.update_apply]
    split_ifs <;> rfl
  exact ⟨run, handouts_unique_until_wrap run⟩

end Grsan
