import Mathlib.Algebra.GroupWithZero.Nat
import Mathlib.Data.Fintype.Basic
import Mathlib.Order.Fin.Basic
import Mathlib.Data.Fintype.Order
import Mathlib.Tactic.Common

/-!
# Records overwritten field by field

A record whose fields are stored separately is overwritten by storing one field
after another.  If that ends early, the first fields are those of the new
record and the rest are those of the old one.

A field that is not there, or cannot be read, is `none`; a record is read when
all its fields are.  `overwritten_reads_iff` says for which old contents every
interruption leaves the old record, the new record or none.
-/

namespace AvensysEsp32
namespace Foundation

universe u

variable {n : Nat} {α : Fin n → Type u}

/-- The stored fields show the record. -/
def Reads (fields : ∀ i, Option (α i)) (record : ∀ i, α i) : Prop :=
  ∀ i, fields i = some (record i)

/-- The stored fields after the first `k` have been overwritten. -/
def overwritten (k : Nat) (old : ∀ i, Option (α i)) (new : ∀ i, α i) : ∀ i, Option (α i) :=
  fun i => if i.val < k then some (new i) else old i

section Overwritten

variable {k : Nat} {old : ∀ i, Option (α i)} {new : ∀ i, α i} {i : Fin n}

theorem overwritten_of_lt
    (hi : i.val < k) :
    overwritten k old new i = some (new i) :=
  if_pos hi

theorem overwritten_of_le
    (hi : k ≤ i.val) :
    overwritten k old new i = old i :=
  if_neg (Nat.not_lt.mpr hi)

theorem overwritten_zero :
    overwritten 0 old new = old := by
  funext i
  exact overwritten_of_le (Nat.zero_le _)

/-- One more field is overwritten. -/
theorem overwritten_succ
    (hk : k < n) :
    overwritten (k + 1) old new =
      Function.update (overwritten k old new) ⟨k, hk⟩ (some (new ⟨k, hk⟩)) := by
  funext i
  rcases lt_trichotomy i.val k with hi | rfl | hi
  · rw [Function.update_of_ne (by simp [Fin.ext_iff]; omega), overwritten_of_lt hi,
      overwritten_of_lt (by omega)]
  · rw [Function.update_self, overwritten_of_lt (Nat.lt_succ_self _)]
  · rw [Function.update_of_ne (by simp [Fin.ext_iff]; omega), overwritten_of_le (by omega),
      overwritten_of_le (by omega)]

/-- One record at most is read. -/
theorem Reads.unique
    {fields : ∀ i, Option (α i)} {record record' : ∀ i, α i}
    (h : Reads fields record) (h' : Reads fields record') :
    record = record' := by
  funext i
  have hi := h i
  rw [h' i] at hi
  exact (Option.some.inj hi).symm

/-- Every field but `i` is stored as it is in the new record. -/
theorem reads_overwritten_of_differs_once
    {record : ∀ i, α i}
    (hbefore : ∀ j, j < i → old j = some (new j))
    (hread : Reads (overwritten k old new) record)
    (hk : k ≤ i.val) :
    Reads old record := by
  intro j
  by_cases hj : j.val < k
  · have hji : j < i := by
      rw [Fin.lt_def]
      omega
    rw [hbefore j hji, ← hread j, overwritten_of_lt hj]
  · rw [← hread j, overwritten_of_le (Nat.le_of_not_lt hj)]

/-- The last of the fields that are not stored as in the new record. -/
theorem exists_last_difference
    (h : ∃ i, old i ≠ some (new i)) :
    ∃ i, old i ≠ some (new i) ∧ ∀ j, i < j → old j = some (new j) := by
  obtain ⟨i, hi, hlast⟩ :=
    (wellFounded_gt : WellFounded fun i j : Fin n => i > j).has_min {i | old i ≠ some (new i)} h
  refine ⟨i, hi, ?_⟩
  intro j hj
  by_contra hdiffers
  exact hlast j hdiffers hj

/-- A store is written field by field, each write changing what is read of one
field.  After `k` writes the first `k` fields read as the new ones. -/
theorem read_writes
    {σ : Type*} {read : σ → ∀ i, Option (α i)} {write : Fin n → σ → σ}
    (hwrite : ∀ i s, read (write i s) = Function.update (read s) i (some (new i)))
    (k : Nat) (s : σ) :
    read (((List.finRange n).take k).foldl (fun s i => write i s) s) =
      overwritten k (read s) new := by
  induction k with
  | zero =>
      rw [overwritten_zero]
      rfl
  | succ k ih =>
      by_cases hk : k < n
      · rw [List.take_add_one, List.getElem?_eq_getElem (by simpa using hk), Option.toList_some,
          List.foldl_append, List.foldl_cons, List.foldl_nil, hwrite, ih, overwritten_succ hk,
          List.getElem_finRange]
        rfl
      · have hall : (List.finRange n).take (k + 1) = (List.finRange n).take k := by
          rw [List.take_of_length_le (by simp; omega), List.take_of_length_le (by simp; omega)]
        rw [hall, ih]
        funext i
        rw [overwritten_of_lt (by omega), overwritten_of_lt (by omega)]

end Overwritten

/-- `accepted` is whether the old fields, if they can be read, count as a
record.  Every interruption leaves that record, the new one or none exactly
when there is a field such that all later ones are stored as in the new record,
and it cannot be read, or all earlier ones are stored so too. -/
theorem overwritten_reads_iff
    [NeZero n] (accepted : Prop) (old : ∀ i, Option (α i)) (new : ∀ i, α i) :
    (∀ k record, Reads (overwritten k old new) record →
        accepted ∧ Reads old record ∨ record = new) ↔
      ∃ i, (∀ j, i < j → old j = some (new j)) ∧
        (old i = none ∨
          (∀ j, j < i → old j = some (new j)) ∧ (accepted ∨ old i = some (new i))) := by
  constructor
  · intro h
    by_cases hdiffers : ∃ i, old i ≠ some (new i)
    · obtain ⟨i, hi, hafter⟩ := exists_last_difference hdiffers
      refine ⟨i, hafter, ?_⟩
      cases hold : old i with
      | none => exact Or.inl rfl
      | some value =>
          -- The save is interrupted before this field.
          have hread : Reads (overwritten i.val old new) (Function.update new i value) := by
            intro j
            rcases lt_trichotomy j i with hj | rfl | hj
            · rw [overwritten_of_lt (Fin.lt_def.mp hj), Function.update_of_ne (ne_of_lt hj)]
            · rw [overwritten_of_le (le_refl _), Function.update_self, hold]
            · rw [overwritten_of_le (Nat.le_of_lt (Fin.lt_def.mp hj)),
                Function.update_of_ne (ne_of_gt hj), hafter j hj]
          rcases h i.val _ hread with ⟨haccepted, hkept⟩ | hnew
          · refine Or.inr ⟨?_, Or.inl haccepted⟩
            intro j hj
            rw [hkept j, Function.update_of_ne (ne_of_lt hj)]
          · have hvalue : value = new i := by
              simpa using congrFun hnew i
            exact absurd (hold.trans (congrArg some hvalue)) hi
    · have hsame : ∀ i, old i = some (new i) := by
        intro i
        by_contra hi
        exact hdiffers ⟨i, hi⟩
      exact ⟨0, fun j _ => hsame j, Or.inr ⟨fun j _ => hsame j, Or.inr (hsame 0)⟩⟩
  · rintro ⟨i, hafter, hi⟩ k record hread
    by_cases hk : k ≤ i.val
    · rcases hi with hnone | ⟨hbefore, hi⟩
      · have hrecord := hread i
        rw [overwritten_of_le hk, hnone] at hrecord
        cases hrecord
      · have hold := reads_overwritten_of_differs_once hbefore hread hk
        rcases hi with haccepted | hsame
        · exact Or.inl ⟨haccepted, hold⟩
        · right
          refine hold.unique ?_
          intro j
          rcases lt_trichotomy j i with hj | rfl | hj
          · exact hbefore j hj
          · exact hsame
          · exact hafter j hj
    · right
      refine hread.unique ?_
      intro j
      by_cases hj : j.val < k
      · exact overwritten_of_lt hj
      · have hij : i < j := by
          rw [Fin.lt_def]
          omega
        rw [overwritten_of_le (Nat.le_of_not_lt hj), hafter j hij]

end Foundation
end AvensysEsp32
