import Mathlib.Data.List.Basic
import Mathlib.Tactic.Common

/-!
# Messages passed on from a mailbox that may be overwritten

A reader puts one message aside before it takes it, and another may come in
meanwhile.  The new message is then found in the place of the one put aside, and
once more in its own.  So what is passed on is some of what came in, in order,
where a message may also be passed on in the place of the one before it.
-/

namespace AvensysEsp32
namespace Foundation

section Relay

variable {Message : Type*}

/-- `shown` has been passed on of the messages `arrived`. -/
inductive Relayed : List Message → List Message → Prop
  | nil : Relayed [] []
  | lost (m : Message) {shown arrived : List Message} (h : Relayed shown arrived) :
      Relayed shown (m :: arrived)
  | kept (m : Message) {shown arrived : List Message} (h : Relayed shown arrived) :
      Relayed (m :: shown) (m :: arrived)
  | replaced (m m' : Message) {shown arrived : List Message} (h : Relayed shown (m' :: arrived)) :
      Relayed (m' :: shown) (m :: m' :: arrived)

theorem relayed_nil (arrived : List Message) :
    Relayed [] arrived := by
  induction arrived with
  | nil =>
      exact .nil
  | cons m arrived ih =>
      exact .lost m ih

variable {shown arrived : List Message}

/-- Nothing is passed on more often than something came in. -/
theorem Relayed.length_le
    (h : Relayed shown arrived) :
    shown.length ≤ arrived.length := by
  induction h with
  | nil => exact Nat.le_refl _
  | lost m h ih => exact Nat.le_succ_of_le ih
  | kept m h ih => exact Nat.succ_le_succ ih
  | replaced m m' h ih => exact Nat.succ_le_succ ih

/-- Nothing is passed on but what came in. -/
theorem Relayed.subset
    (h : Relayed shown arrived) :
    shown ⊆ arrived := by
  induction h with
  | nil => exact List.Subset.refl _
  | lost m h ih => exact List.subset_cons_of_subset m ih
  | kept m h ih => exact List.cons_subset_cons m ih
  | replaced m m' h ih =>
      exact List.subset_cons_of_subset m
        (List.cons_subset.mpr ⟨List.mem_cons_self, ih⟩)

/-- A message that is not passed on may have been any other. -/
theorem Relayed.relabel
    {b : Message} (h : Relayed shown (b :: arrived)) (hb : b ∉ shown) (m : Message) :
    Relayed shown (m :: arrived) := by
  cases h with
  | lost _ h => exact .lost m h
  | kept _ h => exact absurd List.mem_cons_self hb
  | replaced _ m' h => exact .replaced m m' h

/-- The same of the second message. -/
theorem Relayed.relabel_second
    {b b' : Message} (h : Relayed shown (b :: b' :: arrived)) (hb' : b' ∉ shown) (m : Message) :
    Relayed shown (b :: m :: arrived) := by
  cases h with
  | lost _ h => exact .lost b (h.relabel hb' m)
  | kept _ h =>
      have hrest : b' ∉ _ := fun hmem => hb' (List.mem_cons_of_mem b hmem)
      exact .kept b (h.relabel hrest m)
  | replaced _ _ h => exact absurd List.mem_cons_self hb'

/-- What is found in the place of a message put aside is the next message, or is
not passed on. -/
theorem Relayed.overwrite
    {b m' : Message} (h : Relayed shown (b :: m' :: arrived)) (hb : b = m' ∨ b ∉ shown)
    (m : Message) :
    Relayed shown (m :: m' :: arrived) := by
  rcases hb with rfl | hb
  · cases h with
    | lost _ h => exact .lost m h
    | kept _ h => exact .replaced m b h
    | replaced _ _ h => exact .replaced m b h
  · exact h.relabel hb m

/-- Another message may have been lost after the first. -/
theorem Relayed.insert
    {m : Message} (h : Relayed shown (m :: arrived)) (x : Message) :
    Relayed shown (m :: x :: arrived) := by
  cases h with
  | lost _ h => exact .lost m (.lost x h)
  | kept _ h => exact .kept m (.lost x h)
  | replaced _ m' h => exact .lost m (.replaced x m' h)

/-- A message comes in.  It may be found in the place of the one put aside, if
there is one, and in its own, unless it is empty; a message that was waiting is
lost. -/
theorem Relayed.arrive
    {aside found waiting own : Option Message} {m : Message}
    (h : Relayed shown (found.toList ++ (own.toList ++ arrived)))
    (haside : found = none ↔ aside = none)
    (hfound : ∀ b ∈ found, b = m ∨ b ∉ shown) (hown : ∀ b ∈ own, b = m ∨ b ∉ shown) :
    Relayed shown (aside.toList ++ (waiting.toList ++ m :: arrived)) := by
  have hlost : ∀ {a : Message} {rest : List Message}, Relayed shown (a :: rest) →
      Relayed shown (a :: (waiting.toList ++ rest)) := by
    intro a rest hrest
    cases waiting with
    | none => exact hrest
    | some x => exact hrest.insert x
  cases aside with
  | none =>
      rw [haside.mpr rfl] at h
      have hfirst : Relayed shown (m :: arrived) := by
        cases own with
        | none => exact .lost m h
        | some b =>
            rcases hown b rfl with rfl | hb
            · exact h
            · exact h.relabel hb m
      cases waiting with
      | none => exact hfirst
      | some x => exact .lost x hfirst
  | some a =>
      obtain ⟨b, rfl⟩ : ∃ b, found = some b :=
        Option.ne_none_iff_exists'.mp fun hnone => nomatch haside.mp hnone
      apply hlost
      cases own with
      | none =>
          rcases hfound b rfl with rfl | hb
          · exact h.insert b |>.overwrite (Or.inl rfl) a
          · exact (h.relabel hb a).insert m
      | some b' =>
          have hsecond : Relayed shown (b :: m :: arrived) := by
            rcases hown b' rfl with rfl | hb'
            · exact h
            · exact h.relabel_second hb' m
          exact hsecond.overwrite (hfound b rfl) a

end Relay

end Foundation
end AvensysEsp32
