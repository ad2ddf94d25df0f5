import AvensysEsp32.Foundation.Machine

/-!
# What a run costs

Each step of a run may cost something.  If a potential of the state pays for
what a step costs beyond what the step brings in, then a whole run costs no more
than the potential it began with and what its steps brought in.
-/

namespace AvensysEsp32
namespace Foundation

section Accounting

variable {State Event : Type*}

/-- The sum of the costs of the steps of a run. -/
def total (step : Event → State → State) (cost : Event → State → Nat) :
    List Event → State → Nat
  | [], _ => 0
  | e :: es, s => cost e s + total step cost es (step e s)

variable {step : Event → State → State} {cost income : Event → State → Nat}

/-- A cost that depends on the events alone is counted. -/
theorem total_countP (p : Event → Bool) (k : Nat) (es : List Event) (s : State) :
    total step (fun e _ => if p e then k else 0) es s = k * es.countP p := by
  induction es generalizing s with
  | nil =>
      rfl
  | cons e es ih =>
      rw [total, ih, List.countP_cons, Nat.mul_add, Nat.add_comm]
      cases p e with
      | true => simp
      | false => simp

/-- The potential pays along a run what it pays at each step. -/
theorem total_add_potential_le
    {assumption : Event → State → Prop} {inv : State → Prop} (potential : State → Nat)
    (hstep : ∀ e s, assumption e s → inv s → inv (step e s))
    (hpays : ∀ e s, assumption e s → inv s →
      cost e s + potential (step e s) ≤ potential s + income e s)
    {es : List Event} {s : State} (hes : Along step assumption es s) (hs : inv s) :
    total step cost es s + potential (run step es s) ≤
      potential s + total step income es s := by
  induction es generalizing s with
  | nil =>
      exact Nat.le_of_eq (Nat.add_comm 0 (potential s))
  | cons e es ih =>
      have hfirst := hpays e s hes.1 hs
      have hrest := ih hes.2 (hstep e s hes.1 hs)
      rw [total, total, run_cons]
      omega

end Accounting

end Foundation
end AvensysEsp32
