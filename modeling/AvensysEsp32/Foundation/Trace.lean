import Mathlib.Algebra.GroupWithZero.Nat
import Mathlib.Order.Monotone.Basic
import AvensysEsp32.Foundation.Machine

/-!
# Infinite runs

A machine that never stops runs through a sequence of states.  Two rules say
what such a sequence does in the end: what every step pays for out of a budget
happens finitely often, and what a ranking function brings closer at the events
that help happens at last, if those events keep coming.
-/

namespace AvensysEsp32
namespace Foundation

section Trace

variable {State Event : Type*} (step : Event → State → State)

/-- The states of an infinite run. -/
def trace (events : Nat → Event) (s₀ : State) : Nat → State
  | 0 => s₀
  | n + 1 => step (events n) (trace events s₀ n)

variable {step} {events : Nat → Event} {s₀ : State}

/-- What every step keeps holds throughout. -/
theorem trace_invariant
    {assumption : Event → State → Prop} {inv : State → Prop}
    (hstep : ∀ e s, assumption e s → inv s → inv (step e s))
    (hes : ∀ n, assumption (events n) (trace step events s₀ n))
    (h₀ : inv s₀) (n : Nat) :
    inv (trace step events s₀ n) := by
  induction n with
  | zero => exact h₀
  | succ n ih => exact hstep _ _ (hes n) ih

end Trace

/-! ## Budgets -/

/-- What the first `n` steps cost. -/
def totalCost (cost : Nat → Nat) (n : Nat) : Nat :=
  ((List.range n).map cost).sum

section Budget

variable {cost : Nat → Nat}

@[simp] theorem totalCost_zero :
    totalCost cost 0 = 0 := by
  rfl

theorem totalCost_succ (n : Nat) :
    totalCost cost (n + 1) = totalCost cost n + cost n := by
  unfold totalCost
  rw [List.range_succ, List.map_append, List.sum_append]
  simp

theorem totalCost_mono :
    Monotone (totalCost cost) := by
  apply monotone_nat_of_le_succ
  intro n
  rw [totalCost_succ]
  exact Nat.le_add_right _ _

/-- When every step pays its cost out of the budget, no more than the budget is
spent. -/
theorem totalCost_le_of_budget
    {within : Nat → Nat → Prop}
    (hstep : ∀ n budget, within n budget →
      ∃ rest, rest + cost n ≤ budget ∧ within (n + 1) rest)
    {budget : Nat} (h₀ : within 0 budget) (n : Nat) :
    totalCost cost n ≤ budget := by
  have hspent : ∃ rest, within n rest ∧ rest + totalCost cost n ≤ budget := by
    induction n with
    | zero => exact ⟨budget, h₀, le_rfl⟩
    | succ n ih =>
        obtain ⟨rest, hwithin, hrest⟩ := ih
        obtain ⟨rest', hpaid, hwithin'⟩ := hstep n rest hwithin
        refine ⟨rest', hwithin', ?_⟩
        rw [totalCost_succ]
        omega
  obtain ⟨rest, -, hrest⟩ := hspent
  omega

/-- What costs something and is paid out of a budget stops. -/
theorem eventually_free
    {budget : Nat} (h : ∀ n, totalCost cost n ≤ budget) :
    ∃ N, ∀ n, N ≤ n → cost n = 0 := by
  have hfrom : ∀ left N, (∀ n, N ≤ n → totalCost cost n ≤ totalCost cost N + left) →
      ∃ M, ∀ n, M ≤ n → cost n = 0 := by
    intro left
    induction left with
    | zero =>
        intro N hN
        refine ⟨N, fun n hn => ?_⟩
        have hnext := hN (n + 1) (Nat.le_succ_of_le hn)
        have hmono : totalCost cost N ≤ totalCost cost n := totalCost_mono hn
        rw [totalCost_succ] at hnext
        omega
    | succ left ih =>
        intro N hN
        by_cases hfree : ∀ n, N ≤ n → cost n = 0
        · exact ⟨N, hfree⟩
        · obtain ⟨n, hn⟩ := not_forall.mp hfree
          obtain ⟨hle, hcost⟩ := Classical.not_imp.mp hn
          apply ih (n + 1)
          intro m hm
          have hbound := hN m (by omega)
          have hmono : totalCost cost N ≤ totalCost cost n := totalCost_mono hle
          rw [totalCost_succ]
          omega
  apply hfrom budget 0
  intro n _
  have hbound := h n
  omega

end Budget

/-! ## Ranks -/

/-- Until the goal is reached the rank does not rise, and from every rank a
moment comes that reaches the goal or lowers the rank, if it has not changed
before. -/
theorem exists_goal_of_rank
    {ranked : Nat → Nat → Prop} {goal : Nat → Prop}
    (hkeep : ∀ n rank, ranked n rank → goal n ∨ ∃ rank' ≤ rank, ranked (n + 1) rank')
    (hhelp : ∀ n rank, ranked n rank →
      ∃ m, n ≤ m ∧ (ranked m rank → goal m ∨ ∃ rank' < rank, ranked (m + 1) rank'))
    {n rank : Nat} (h : ranked n rank) :
    ∃ m, n ≤ m ∧ goal m := by
  induction rank using Nat.strong_induction_on generalizing n with
  | _ rank ih =>
      obtain ⟨m, hnm, hlower⟩ := hhelp n rank h
      have huntil : ∀ k, (∃ m, n ≤ m ∧ goal m) ∨ ∃ rank' ≤ rank, ranked (n + k) rank' := by
        intro k
        induction k with
        | zero => exact Or.inr ⟨rank, le_rfl, h⟩
        | succ k ihk =>
            rcases ihk with hgoal | ⟨rank', hle, hranked⟩
            · exact Or.inl hgoal
            · rcases hkeep (n + k) rank' hranked with hgoal | ⟨rank'', hle', hranked'⟩
              · exact Or.inl ⟨n + k, Nat.le_add_right n k, hgoal⟩
              · exact Or.inr ⟨rank'', hle'.trans hle, hranked'⟩
      rcases huntil (m - n) with hgoal | ⟨rank', hle, hranked⟩
      · exact hgoal
      · rw [Nat.add_sub_cancel' hnm] at hranked
        rcases hle.lt_or_eq with hlt | rfl
        · obtain ⟨k, hk, hgoal⟩ := ih rank' hlt hranked
          exact ⟨k, hnm.trans hk, hgoal⟩
        · rcases hlower hranked with hgoal | ⟨rank'', hlt, hranked'⟩
          · exact ⟨m, hnm, hgoal⟩
          · obtain ⟨k, hk, hgoal⟩ := ih rank'' hlt hranked'
            exact ⟨k, by omega, hgoal⟩

/-- What leads to a cost again and again ends with the budget. -/
theorem eventually_not_of_budget
    {cost : Nat → Nat} {p : Nat → Prop} {budget : Nat}
    (hbudget : ∀ n, totalCost cost n ≤ budget)
    (hleads : ∀ n, p n → ∃ m, n ≤ m ∧ 0 < cost m) :
    ∃ N, ∀ n, N ≤ n → cost n = 0 ∧ ¬ p n := by
  obtain ⟨N, hN⟩ := eventually_free hbudget
  refine ⟨N, fun n hn => ⟨hN n hn, fun hp => ?_⟩⟩
  obtain ⟨m, hm, hcost⟩ := hleads n hp
  have hfree := hN m (hn.trans hm)
  omega

/-! ## Counting -/

section Counting

variable {α : Type*} {p q r : α → Bool} {l : List α}

/-- What has one of two properties is counted by one of two counts. -/
theorem countP_le_add
    (h : ∀ x ∈ l, p x = true → q x = true ∨ r x = true) :
    l.countP p ≤ l.countP q + l.countP r := by
  induction l with
  | nil => exact Nat.zero_le _
  | cons x l ih =>
      have hl := ih fun y hy => h y (List.mem_cons_of_mem x hy)
      by_cases hp : p x = true
      · rw [List.countP_cons_of_pos hp]
        rcases h x List.mem_cons_self hp with hq | hr
        · have hmono := List.countP_cons (p := r) (a := x) (l := l)
          rw [List.countP_cons_of_pos hq]
          omega
        · have hmono := List.countP_cons (p := q) (a := x) (l := l)
          rw [List.countP_cons_of_pos hr]
          omega
      · have hq := List.countP_cons (p := q) (a := x) (l := l)
        have hr := List.countP_cons (p := r) (a := x) (l := l)
        rw [List.countP_cons_of_neg hp]
        omega

/-- A property that excludes one more element counts less. -/
theorem countP_lt
    (h : ∀ x ∈ l, p x = true → q x = true) {a : α} (ha : a ∈ l)
    (hq : q a = true) (hp : p a = false) :
    l.countP p + 1 ≤ l.countP q := by
  induction l with
  | nil => cases ha
  | cons x l ih =>
      have htail : ∀ y ∈ l, p y = true → q y = true :=
        fun y hy => h y (List.mem_cons_of_mem x hy)
      rcases List.mem_cons.mp ha with rfl | hmem
      · rw [List.countP_cons_of_pos hq, List.countP_cons_of_neg (by rw [hp]; simp)]
        exact Nat.succ_le_succ (List.countP_mono_left htail)
      · have hlt := ih htail hmem
        by_cases hpx : p x = true
        · rw [List.countP_cons_of_pos hpx,
            List.countP_cons_of_pos (h x List.mem_cons_self hpx)]
          omega
        · have hmono := List.countP_cons (p := q) (a := x) (l := l)
          rw [List.countP_cons_of_neg hpx]
          omega

end Counting

end Foundation
end AvensysEsp32
