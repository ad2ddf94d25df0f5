import Mathlib.Data.List.Basic
import Mathlib.Tactic.Common

/-!
# Event-driven machines and their runs

A machine is a function `step` that takes an event and a state to the next
state.  A run is a list of events.  `Along` states that a property of events
and the states they meet holds at every step of a run; it is the form in which
assumptions on an environment are made.

The rules at the end are the ones a safety proof needs: an invariant kept by
every step that meets the assumptions is kept by the whole run, and two
properties that agree on every step agree along every run.
-/

namespace AvensysEsp32
namespace Foundation

universe u v

variable {State : Type u} {Event : Type v}
variable (step : Event → State → State)

/-- The state after the events of a run. -/
def run : List Event → State → State
  | [], s => s
  | e :: es, s => run es (step e s)

/-- `property` holds of every event of the run and the state it meets. -/
def Along (property : Event → State → Prop) : List Event → State → Prop
  | [], _ => True
  | e :: es, s => property e s ∧ Along property es (step e s)

/-- The states that a run from `s₀` with the given assumption leads to. -/
def Reachable
    (assumption : Event → State → Prop) (s₀ s : State) : Prop :=
  ∃ es : List Event, Along step assumption es s₀ ∧ s = run step es s₀

instance decidableAlong
    (property : Event → State → Prop) [∀ e s, Decidable (property e s)] :
    (es : List Event) → (s : State) → Decidable (Along step property es s)
  | [], _ => isTrue trivial
  | e :: es, s =>
      @instDecidableAnd (property e s) (Along step property es (step e s)) _
        (decidableAlong property es (step e s))

@[simp] theorem run_nil (s : State) :
    run step [] s = s := by
  rfl

@[simp] theorem run_cons (e : Event) (es : List Event) (s : State) :
    run step (e :: es) s = run step es (step e s) := by
  rfl

@[simp] theorem run_append (es fs : List Event) (s : State) :
    run step (es ++ fs) s = run step fs (run step es s) := by
  induction es generalizing s with
  | nil =>
      rfl
  | cons e es ih =>
      simpa using ih (step e s)

@[simp] theorem along_nil
    (property : Event → State → Prop) (s : State) :
    Along step property [] s := by
  trivial

@[simp] theorem along_cons
    (property : Event → State → Prop)
    (e : Event) (es : List Event) (s : State) :
    Along step property (e :: es) s ↔
      property e s ∧ Along step property es (step e s) := by
  rfl

@[simp] theorem along_append
    (property : Event → State → Prop)
    (es fs : List Event) (s : State) :
    Along step property (es ++ fs) s ↔
      Along step property es s ∧
        Along step property fs (run step es s) := by
  induction es generalizing s with
  | nil =>
      simp
  | cons e es ih =>
      simp [ih, and_assoc]

variable {step}

/-- A step-wise stronger property holds along more. -/
theorem Along.mono
    {p q : Event → State → Prop}
    (h : ∀ e s, p e s → q e s)
    {es : List Event} {s : State}
    (hp : Along step p es s) :
    Along step q es s := by
  induction es generalizing s with
  | nil =>
      trivial
  | cons e es ih =>
      exact ⟨h e s hp.1, ih hp.2⟩

/-- What holds of every event and state holds along every run. -/
theorem Along.of_forall
    {p : Event → State → Prop}
    (h : ∀ e s, p e s)
    {es : List Event} {s : State} :
    Along step p es s := by
  induction es generalizing s with
  | nil =>
      trivial
  | cons e es ih =>
      exact ⟨h e s, ih⟩

/-- What holds of the events of a run holds along it. -/
theorem Along.of_mem
    {p : Event → Prop}
    {es : List Event} {s : State}
    (h : ∀ e ∈ es, p e) :
    Along step (fun e _ => p e) es s := by
  induction es generalizing s with
  | nil =>
      trivial
  | cons e es ih =>
      exact ⟨h e List.mem_cons_self, ih fun f hf => h f (List.mem_cons_of_mem e hf)⟩

/-- Two properties along a run hold together along it. -/
theorem Along.and
    {p q : Event → State → Prop}
    {es : List Event} {s : State}
    (hp : Along step p es s) (hq : Along step q es s) :
    Along step (fun e s => p e s ∧ q e s) es s := by
  induction es generalizing s with
  | nil =>
      trivial
  | cons e es ih =>
      exact ⟨⟨hp.1, hq.1⟩, ih hp.2 hq.2⟩

/-- An invariant kept by every step that meets the assumption is kept by a
run whose steps all meet it. -/
theorem Along.invariant
    {assumption : Event → State → Prop}
    {inv : State → Prop}
    (hstep : ∀ e s, assumption e s → inv s → inv (step e s))
    {es : List Event} {s : State}
    (hes : Along step assumption es s)
    (hs : inv s) :
    inv (run step es s) := by
  induction es generalizing s with
  | nil =>
      exact hs
  | cons e es ih =>
      exact ih hes.2 (hstep e s hes.1 hs)

/-- What follows at each step from the invariant and the assumption holds
along the whole run. -/
theorem Along.of_invariant
    {assumption property : Event → State → Prop}
    {inv : State → Prop}
    (hstep : ∀ e s, assumption e s → inv s → inv (step e s))
    (hprop : ∀ e s, assumption e s → inv s → property e s)
    {es : List Event} {s : State}
    (hes : Along step assumption es s)
    (hs : inv s) :
    Along step property es s := by
  induction es generalizing s with
  | nil =>
      trivial
  | cons e es ih =>
      exact ⟨hprop e s hes.1 hs, ih hes.2 (hstep e s hes.1 hs)⟩

/-- Properties that agree in every state with the invariant agree along the
runs from such a state, if the invariant is kept where they hold. -/
theorem along_congr_of_invariant
    {p q : Event → State → Prop}
    {inv : State → Prop}
    (hstep : ∀ e s, inv s → p e s → inv (step e s))
    (h : ∀ e s, inv s → (p e s ↔ q e s))
    (es : List Event) {s : State}
    (hs : inv s) :
    Along step p es s ↔ Along step q es s := by
  induction es generalizing s with
  | nil =>
      rfl
  | cons e es ih =>
      rw [along_cons, along_cons, ← h e s hs]
      exact and_congr_right fun hp => ih (hstep e s hs hp)

/-- A machine that carries a record along runs as it does without. -/
theorem along_snd
    {Record : Type*} {recorded : Event → Record × State → Record × State}
    (h : ∀ e s, (recorded e s).2 = step e s.2)
    (p : Event → State → Prop) (es : List Event) (s : Record × State) :
    Along recorded (fun e s => p e s.2) es s ↔ Along step p es s.2 := by
  induction es generalizing s with
  | nil =>
      rfl
  | cons e es ih =>
      rw [along_cons, along_cons, ih, h]

theorem Reachable.refl
    (assumption : Event → State → Prop) (s₀ : State) :
    Reachable step assumption s₀ s₀ :=
  ⟨[], trivial, rfl⟩

theorem Reachable.tail
    {assumption : Event → State → Prop} {s₀ s : State}
    (h : Reachable step assumption s₀ s)
    {e : Event} (he : assumption e s) :
    Reachable step assumption s₀ (step e s) := by
  obtain ⟨es, hes, rfl⟩ := h
  refine ⟨es ++ [e], ?_, by simp⟩
  simp [hes, he]

theorem Reachable.head
    {assumption : Event → State → Prop} {s₀ s : State}
    {e : Event} (he : assumption e s₀)
    (h : Reachable step assumption (step e s₀) s) :
    Reachable step assumption s₀ s := by
  obtain ⟨es, hes, rfl⟩ := h
  exact ⟨e :: es, ⟨he, hes⟩, rfl⟩

theorem Reachable.run
    {assumption : Event → State → Prop} {s₀ s : State}
    (h : Reachable step assumption s₀ s)
    {es : List Event} (hes : Along step assumption es s) :
    Reachable step assumption s₀ (Foundation.run step es s) := by
  obtain ⟨es₀, hes₀, rfl⟩ := h
  exact ⟨es₀ ++ es, by simp [hes₀, hes], by simp⟩

theorem Reachable.invariant
    {assumption : Event → State → Prop}
    {inv : State → Prop} {s₀ s : State}
    (h : Reachable step assumption s₀ s)
    (hstep : ∀ e s, assumption e s → inv s → inv (step e s))
    (h₀ : inv s₀) :
    inv s := by
  obtain ⟨es, hes, rfl⟩ := h
  exact Along.invariant hstep hes h₀

theorem Reachable.trans
    {assumption : Event → State → Prop} {s₀ s₁ s₂ : State}
    (h₁ : Reachable step assumption s₀ s₁) (h₂ : Reachable step assumption s₁ s₂) :
    Reachable step assumption s₀ s₂ := by
  obtain ⟨es, hes, rfl⟩ := h₂
  exact h₁.run hes

/-- Where every state of a rank leads to the goal, or to a state of lower rank,
it leads to the goal. -/
theorem exists_reachable_of_rank
    {assumption : Event → State → Prop} {goal : State → Prop}
    (ranked : Nat → State → Prop)
    (h : ∀ k s, ranked k s → ∃ s', Reachable step assumption s s' ∧
      (goal s' ∨ ∃ m < k, ranked m s'))
    {k : Nat} {s : State} (hs : ranked k s) :
    ∃ s', Reachable step assumption s s' ∧ goal s' := by
  induction k using Nat.strongRecOn generalizing s with
  | ind k ih =>
      obtain ⟨s₁, h₁, hgoal | ⟨m, hlt, hranked⟩⟩ := h k s hs
      · exact ⟨s₁, h₁, hgoal⟩
      · obtain ⟨s₂, h₂, hgoal⟩ := ih m hlt hranked
        exact ⟨s₂, h₁.trans h₂, hgoal⟩

end Foundation
end AvensysEsp32
