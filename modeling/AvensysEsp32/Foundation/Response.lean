import AvensysEsp32.Foundation.Machine

/-!
# Bounded response

Something is under way, and the steps of one party bring its answer nearer; what
the others do in between does not set it back.  Then the answer comes within as
many of that party's steps as the rank says.
-/

namespace AvensysEsp32
namespace Foundation

section Response

variable {State Event : Type*}

/-- Where an answer is under way, a step is the answer, or what is under way goes
on: nearer to the answer after a step that counts, and no farther after others. -/
structure Responds (step : Event → State → State) (counts : Event → Prop)
    (underWay : State → Prop) (answers : Event → State → Prop) (rank : State → Nat) : Prop where
  nearer : ∀ e s, counts e → underWay s →
    answers e s ∨ underWay (step e s) ∧ rank (step e s) < rank s
  noFarther : ∀ e s, ¬ counts e → underWay s →
    answers e s ∨ underWay (step e s) ∧ rank (step e s) ≤ rank s

variable {step : Event → State → State} {counts : Event → Prop} [DecidablePred counts]
variable {underWay : State → Prop} {answers : Event → State → Prop} {rank : State → Nat}

/-- A run with enough steps that count holds the answer. -/
theorem Responds.answered
    (h : Responds step counts underWay answers rank)
    {es : List Event} {s : State} (hs : underWay s)
    (hmany : rank s < es.countP fun e => decide (counts e)) :
    ∃ before e after, es = before ++ e :: after ∧ answers e (run step before s) := by
  induction es generalizing s with
  | nil =>
      exact absurd hmany (Nat.not_lt_zero (rank s))
  | cons e es ih =>
      have hlater : underWay (step e s) →
          rank (step e s) < es.countP (fun e => decide (counts e)) →
          ∃ before e' after, e :: es = before ++ e' :: after ∧
            answers e' (run step before s) := by
        intro hunder hrank
        obtain ⟨before, e', after, rfl, hanswers⟩ := ih hunder hrank
        exact ⟨e :: before, e', after, rfl, hanswers⟩
      rw [List.countP_cons] at hmany
      by_cases hcounts : counts e
      · rw [if_pos (decide_eq_true hcounts)] at hmany
        rcases h.nearer e s hcounts hs with hanswers | ⟨hunder, hrank⟩
        · exact ⟨[], e, es, rfl, hanswers⟩
        · exact hlater hunder (by omega)
      · rw [if_neg (fun hyes => hcounts (of_decide_eq_true hyes))] at hmany
        rcases h.noFarther e s hcounts hs with hanswers | ⟨hunder, hrank⟩
        · exact ⟨[], e, es, rfl, hanswers⟩
        · exact hlater hunder (by omega)

end Response

end Foundation
end AvensysEsp32
