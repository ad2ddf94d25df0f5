import Mathlib.Logic.Function.Iterate
import Mathlib.Tactic.Common

/-!
# Blinking lights

A light is switched by a counter: on every tick the counter goes up and the light
is as the pattern has it there; past the end of the pattern the counter starts
again, and the light stays as it was for that tick.

A pattern is recognised by its mark, the length of its streaks of light.  Whatever
the counter and the light were before, two ticks settle them, and patterns with
different marks look different within a period and a streak.
-/

namespace AvensysEsp32
namespace Foundation

/-- What a pattern shows at the counts from one, as far as it goes. -/
abbrev Pattern := Nat → Option Bool

/-- A counter and its light. -/
structure Light where
  count : Nat
  level : Bool
deriving DecidableEq, Repr

/-- One tick -/
def Pattern.tick (pattern : Pattern) (light : Light) : Light :=
  match pattern (light.count + 1) with
  | some lit => ⟨light.count + 1, lit⟩
  | none => ⟨0, light.level⟩

/-- A pattern that ends dark and whose streaks of light are all `mark` long. -/
structure Marked (pattern : Pattern) (period mark : Nat) : Prop where
  first : pattern 1 = some true
  last : ∀ x lit, pattern x = some lit → pattern (x + 1) = none → lit = false
  ends : ∀ x, period < x → pattern x = none
  streak : ∀ x, x = 0 ∨ pattern x = some false → pattern (x + 1) = some true →
    (∀ j < mark, pattern (x + 1 + j) = some true) ∧ pattern (x + 1 + mark) = some false

/-- The light is as the pattern has it. -/
def InStep (pattern : Pattern) (light : Light) : Prop :=
  light.count = 0 ∧ light.level = false ∨ pattern light.count = some light.level

section Ticks

variable {pattern : Pattern} {period mark : Nat} {light : Light}

theorem iterate_tick_succ (n : Nat) (light : Light) :
    pattern.tick^[n + 1] light = pattern.tick (pattern.tick^[n] light) :=
  Function.iterate_succ_apply' pattern.tick n light

theorem tick_some
    {lit : Bool} (h : pattern (light.count + 1) = some lit) :
    pattern.tick light = ⟨light.count + 1, lit⟩ := by
  unfold Pattern.tick
  rw [h]

theorem tick_none
    (h : pattern (light.count + 1) = none) :
    pattern.tick light = ⟨0, light.level⟩ := by
  unfold Pattern.tick
  rw [h]

/-- The tick after the counter has started again. -/
theorem tick_first
    (h : Marked pattern period mark) (level : Bool) :
    pattern.tick ⟨0, level⟩ = ⟨1, true⟩ :=
  tick_some h.first

theorem InStep.tick
    (h : Marked pattern period mark) (hlight : InStep pattern light) :
    InStep pattern (pattern.tick light) := by
  cases hnext : pattern (light.count + 1) with
  | some lit =>
      rw [tick_some hnext]
      exact Or.inr hnext
  | none =>
      rw [tick_none hnext]
      refine Or.inl ⟨rfl, ?_⟩
      rcases hlight with ⟨-, hdark⟩ | hshown
      · exact hdark
      · exact h.last light.count light.level hshown hnext

theorem InStep.iterate
    (h : Marked pattern period mark) (hlight : InStep pattern light) (n : Nat) :
    InStep pattern (pattern.tick^[n] light) := by
  induction n with
  | zero => exact hlight
  | succ n ih =>
      rw [iterate_tick_succ]
      exact ih.tick h

/-- Two ticks settle any light. -/
theorem inStep_two
    (h : Marked pattern period mark) (light : Light) :
    InStep pattern (pattern.tick^[2] light) := by
  show InStep pattern (pattern.tick (pattern.tick light))
  cases hnext : pattern (light.count + 1) with
  | some lit =>
      have hinStep : InStep pattern (pattern.tick light) := by
        rw [tick_some hnext]
        exact Or.inr hnext
      exact hinStep.tick h
  | none =>
      -- The counter has started again, and the next tick shows the first count.
      rw [tick_none hnext, tick_first h]
      exact Or.inr h.first

/-- As long as the pattern goes on, the counter goes with it. -/
theorem iterate_tick
    {n : Nat} (hinside : ∀ j < n, ∃ lit, pattern (light.count + 1 + j) = some lit) (j : Nat)
    (hj : j < n) :
    (pattern.tick^[j + 1] light).count = light.count + 1 + j ∧
      pattern (light.count + 1 + j) = some (pattern.tick^[j + 1] light).level := by
  induction j with
  | zero =>
      obtain ⟨lit, hlit⟩ := hinside 0 hj
      have htick : pattern.tick light = ⟨light.count + 1, lit⟩ := tick_some hlit
      exact ⟨congrArg Light.count htick, hlit.trans (congrArg (some ∘ Light.level) htick).symm⟩
  | succ j ih =>
      obtain ⟨hcount, -⟩ := ih (by omega)
      obtain ⟨lit, hlit⟩ := hinside (j + 1) hj
      have hnext : pattern ((pattern.tick^[j + 1] light).count + 1) = some lit := by
        rw [hcount]
        exact hlit
      rw [iterate_tick_succ, tick_some hnext, hcount]
      exact ⟨rfl, hlit⟩

/-- A settled light begins a streak within a period. -/
theorem InStep.edge
    (h : Marked pattern period mark) (hlight : InStep pattern light)
    (hcount : light.count ≤ period) :
    ∃ k ≤ period + 1 - light.count,
      (pattern.tick^[k] light).level = false ∧ (pattern.tick^[k + 1] light).level = true := by
  generalize hleft : period + 1 - light.count = left
  induction left generalizing light with
  | zero => omega
  | succ left ih =>
      by_cases hzero : light.count = 0 ∧ light.level = false
      · refine ⟨0, Nat.zero_le _, hzero.2, ?_⟩
        have hnext : pattern (light.count + 1) = some true := by
          rw [hzero.1]
          exact h.first
        exact congrArg Light.level (tick_some hnext)
      · cases hnext : pattern (light.count + 1) with
        | some lit =>
            have htick := tick_some hnext
            have hinside : light.count + 1 ≤ period := by
              by_contra hpast
              rw [h.ends _ (by omega)] at hnext
              cases hnext
            obtain ⟨k, hk, hdark, hlit⟩ := ih (hlight.tick h)
              (by rw [htick]; exact hinside) (by rw [htick]; dsimp only; omega)
            exact ⟨k + 1, by omega, hdark, hlit⟩
        | none =>
            have htick := tick_none hnext
            have hdark : light.level = false :=
              h.last light.count light.level (hlight.resolve_left hzero) hnext
            refine ⟨1, by omega, ?_, ?_⟩
            · exact (congrArg Light.level htick).trans hdark
            · show (pattern.tick (pattern.tick light)).level = true
              rw [htick, tick_first h]

/-- A streak that begins is as long as the mark. -/
theorem InStep.streak
    (h : Marked pattern period mark) (hlight : InStep pattern light)
    (hdark : light.level = false) (hlit : (pattern.tick light).level = true) :
    (∀ j < mark, (pattern.tick^[j + 1] light).level = true) ∧
      (pattern.tick^[mark + 1] light).level = false := by
  have hbefore : light.count = 0 ∨ pattern light.count = some false := by
    rcases hlight with ⟨hzero, -⟩ | hshown
    · exact Or.inl hzero
    · rw [hdark] at hshown
      exact Or.inr hshown
  have hfirst : pattern (light.count + 1) = some true := by
    cases hnext : pattern (light.count + 1) with
    | some lit =>
        rw [tick_some hnext] at hlit
        exact congrArg some hlit
    | none =>
        rw [tick_none hnext, hdark] at hlit
        cases hlit
  obtain ⟨hstreak, hend⟩ := h.streak light.count hbefore hfirst
  have hinside : ∀ j < mark + 1, ∃ lit, pattern (light.count + 1 + j) = some lit := by
    intro j hj
    rcases Nat.lt_succ_iff_lt_or_eq.mp hj with hj | rfl
    · exact ⟨true, hstreak j hj⟩
    · exact ⟨false, hend⟩
  refine ⟨fun j hj => ?_, ?_⟩
  · have hshown := (iterate_tick hinside j (by omega)).2
    exact Option.some.inj (hshown.symm.trans (hstreak j hj))
  · have hshown := (iterate_tick hinside mark (by omega)).2
    exact Option.some.inj (hshown.symm.trans hend)

theorem InStep.count_le
    (h : Marked pattern period mark) (hlight : InStep pattern light) :
    light.count ≤ period := by
  rcases hlight with ⟨hzero, -⟩ | hshown
  · omega
  · by_contra hpast
    rw [h.ends _ (by omega)] at hshown
    cases hshown

/-- Patterns that look the same for a period and a streak have the same mark. -/
theorem Marked.unique
    {pattern' : Pattern} {period' mark' : Nat} {light' : Light}
    (h : Marked pattern period mark) (h' : Marked pattern' period' mark')
    (hlight : InStep pattern light) (hlight' : InStep pattern' light')
    (hsame : ∀ k ≤ period + mark + 2,
      (pattern.tick^[k] light).level = (pattern'.tick^[k] light').level) :
    mark = mark' := by
  obtain ⟨k, hk, hdark, hlit⟩ := hlight.edge h (hlight.count_le h)
  rw [iterate_tick_succ] at hlit
  obtain ⟨hstreak, hend⟩ := (hlight.iterate h k).streak h hdark hlit
  have hdark' : (pattern'.tick^[k] light').level = false := by
    rw [← hsame k (by omega)]
    exact hdark
  have hlit' : (pattern'.tick (pattern'.tick^[k] light')).level = true := by
    rw [← iterate_tick_succ, ← hsame (k + 1) (by omega), iterate_tick_succ]
    exact hlit
  obtain ⟨hstreak', hend'⟩ := (hlight'.iterate h' k).streak h' hdark' hlit'
  have hafter : ∀ j ≤ mark,
      (pattern.tick^[j + 1] (pattern.tick^[k] light)).level =
        (pattern'.tick^[j + 1] (pattern'.tick^[k] light')).level := by
    intro j hj
    rw [← Function.iterate_add_apply, ← Function.iterate_add_apply]
    exact hsame (j + 1 + k) (by omega)
  rcases Nat.lt_trichotomy mark mark' with hless | heq | hmore
  · have hcontra := (hafter mark (Nat.le_refl mark)).symm.trans hend
    rw [hstreak' mark hless] at hcontra
    cases hcontra
  · exact heq
  · have hcontra := (hafter mark' (Nat.le_of_lt hmore)).trans hend'
    rw [hstreak mark' hmore] at hcontra
    cases hcontra

end Ticks

end Foundation
end AvensysEsp32
