import Mathlib.Algebra.GroupWithZero.Nat
import Mathlib.Data.Finset.Card
import Mathlib.Order.Interval.Finset.Nat
import Mathlib.Order.Lattice.Nat
import AvensysEsp32.Foundation.Memory

/-!
# Reassembly of a block from chunks

A block of bytes is sent in chunks, each with its offset, and every chunk is
stored where its offset says.  When the chunks are those of one payload, the
memory shows the payload wherever a chunk has been stored, in whatever order.
When no two of them overlap, the sum of their lengths says how much that is.
-/

namespace AvensysEsp32
namespace Foundation

/-- Some bytes and the offset they are sent with. -/
structure Chunk where
  offset : Nat
  bytes : List UInt8
deriving DecidableEq, Repr

namespace Chunk

/-- The addresses a chunk is stored at. -/
def addresses (c : Chunk) : Finset Nat :=
  Finset.Ico c.offset (c.offset + c.bytes.length)

/-- The chunk is the part of the payload at its offset. -/
def PartOf (payload : List UInt8) (c : Chunk) : Prop :=
  ∀ i < c.bytes.length, ofBytes c.bytes i = ofBytes payload (c.offset + i)

instance (payload : List UInt8) (c : Chunk) : Decidable (c.PartOf payload) :=
  inferInstanceAs (Decidable (∀ i < c.bytes.length, _))

/-- Store a chunk at its offset. -/
def storeIn (c : Chunk) (m : Memory) : Memory :=
  store m c.offset c.bytes

variable (c : Chunk) (m : Memory)

@[simp] theorem card_addresses :
    c.addresses.card = c.bytes.length := by
  simp [addresses]

theorem mem_addresses {i : Nat} :
    i ∈ c.addresses ↔ i ∈ block c.offset c.bytes.length := by
  simp [addresses]

theorem storeIn_outside
    {i : Nat} (hi : i ∉ c.addresses) :
    c.storeIn m i = m i :=
  memcpy_outside _ _ _ _ _ (mt c.mem_addresses.mpr hi)

theorem storeIn_inside
    {i : Nat} (hi : i ∈ c.addresses) :
    c.storeIn m i = ofBytes c.bytes (i - c.offset) := by
  unfold storeIn store
  rw [memcpy_inside _ _ _ _ _ (c.mem_addresses.mp hi), Nat.zero_add]

@[simp] theorem storeIn_nil
    (hempty : c.bytes = []) :
    c.storeIn m = m := by
  unfold storeIn store
  rw [hempty]
  exact memcpy_zero _ _ _ _

variable {c} in
theorem PartOf.storeIn_eqOn
    {payload : List UInt8} (h : c.PartOf payload) :
    Set.EqOn (c.storeIn m) (ofBytes payload) c.addresses := by
  intro i hi
  have hblock := c.mem_addresses.mp hi
  rw [c.storeIn_inside m hi, h (i - c.offset) (by have := hblock.1; have := hblock.2; omega)]
  congr 1
  have := hblock.1
  omega

end Chunk

/-- Store chunks one after the other. -/
def storeAll (chunks : List Chunk) (m : Memory) : Memory :=
  chunks.foldl (fun m c => c.storeIn m) m

/-- The addresses at which some chunk is stored. -/
def covered (chunks : List Chunk) : Finset Nat :=
  chunks.foldr (fun c addresses => c.addresses ∪ addresses) ∅

/-- The sum of the lengths of the chunks. -/
def totalLength (chunks : List Chunk) : Nat :=
  (chunks.map fun c => c.bytes.length).sum

section Chunks

variable (c : Chunk) (chunks : List Chunk) (m : Memory)

@[simp] theorem storeAll_nil :
    storeAll [] m = m := by
  rfl

@[simp] theorem storeAll_cons :
    storeAll (c :: chunks) m = storeAll chunks (c.storeIn m) := by
  rfl

@[simp] theorem covered_nil :
    covered [] = ∅ := by
  rfl

@[simp] theorem covered_cons :
    covered (c :: chunks) = c.addresses ∪ covered chunks := by
  rfl

@[simp] theorem totalLength_nil :
    totalLength [] = 0 := by
  rfl

@[simp] theorem totalLength_cons :
    totalLength (c :: chunks) = c.bytes.length + totalLength chunks := by
  rfl

theorem storeAll_append (more : List Chunk) :
    storeAll (chunks ++ more) m = storeAll more (storeAll chunks m) :=
  List.foldl_append

theorem totalLength_append (more : List Chunk) :
    totalLength (chunks ++ more) = totalLength chunks + totalLength more := by
  simp [totalLength]

theorem mem_covered {i : Nat} :
    i ∈ covered chunks ↔ ∃ c ∈ chunks, i ∈ c.addresses := by
  induction chunks with
  | nil => simp
  | cons c chunks ih =>
      rw [covered_cons, Finset.mem_union, ih]
      simp

/-- Chunks that hold nothing change nothing. -/
theorem storeAll_of_totalLength_zero
    (hnone : totalLength chunks = 0) :
    storeAll chunks m = m := by
  induction chunks with
  | nil => rfl
  | cons c chunks ih =>
      rw [totalLength_cons, Nat.add_eq_zero_iff, List.length_eq_zero_iff] at hnone
      rw [storeAll_cons, c.storeIn_nil m hnone.1]
      exact ih hnone.2

/-- The same chunks give two regions the same bytes wherever the regions
agreed. -/
theorem storeAll_eqOn
    {m m' : Memory} {addresses : Set Nat}
    (h : Set.EqOn m m' addresses) :
    Set.EqOn (storeAll chunks m) (storeAll chunks m') addresses := by
  induction chunks generalizing m m' with
  | nil => exact h
  | cons c chunks ih =>
      rw [storeAll_cons, storeAll_cons]
      apply ih
      intro i hi
      by_cases hstored : i ∈ c.addresses
      · rw [c.storeIn_inside m hstored, c.storeIn_inside m' hstored]
      · rw [c.storeIn_outside m hstored, c.storeIn_outside m' hstored]
        exact h hi

variable {chunks}

/-- Chunks that hold nothing may be left out. -/
theorem storeAll_filter
    {keep : Chunk → Bool} (hempty : ∀ c ∈ chunks, keep c = false → c.bytes = []) :
    storeAll (chunks.filter keep) m = storeAll chunks m ∧
      totalLength (chunks.filter keep) = totalLength chunks := by
  induction chunks generalizing m with
  | nil => exact ⟨rfl, rfl⟩
  | cons c chunks ih =>
      have hrest := fun m => ih m fun d hd => hempty d (List.mem_cons_of_mem c hd)
      cases hkeep : keep c with
      | true =>
          rw [List.filter_cons_of_pos hkeep, storeAll_cons, totalLength_cons]
          exact ⟨(hrest _).1, congrArg (c.bytes.length + ·) (hrest m).2⟩
      | false =>
          have hc : c.bytes = [] := hempty c List.mem_cons_self hkeep
          rw [List.filter_cons_of_neg (by simp [hkeep]), storeAll_cons, totalLength_cons,
            c.storeIn_nil m hc, hc, List.length_nil, Nat.zero_add]
          exact hrest m

/-- Where a part of the payload has been stored, the payload is read,
whatever part was stored there last. -/
theorem storeAll_eqOn_payload
    {payload : List UInt8} (hparts : ∀ c ∈ chunks, c.PartOf payload) :
    Set.EqOn (storeAll chunks m) (ofBytes payload) (covered chunks) := by
  have hfrom : ∀ (chunks : List Chunk) (m : Memory) (addresses : Set Nat),
      (∀ c ∈ chunks, c.PartOf payload) → Set.EqOn m (ofBytes payload) addresses →
        Set.EqOn (storeAll chunks m) (ofBytes payload) (addresses ∪ covered chunks) := by
    intro chunks
    induction chunks with
    | nil =>
        intro m addresses _ hm
        simpa using hm
    | cons c chunks ih =>
        intro m addresses hparts hm
        have hstored : Set.EqOn (c.storeIn m) (ofBytes payload) (addresses ∪ c.addresses) := by
          intro i hi
          by_cases hc : i ∈ c.addresses
          · exact (hparts c List.mem_cons_self).storeIn_eqOn m hc
          · rw [c.storeIn_outside m hc]
            exact hm (hi.resolve_right hc)
        have hrest := ih (c.storeIn m) _
          (fun d hd => hparts d (List.mem_cons_of_mem c hd)) hstored
        rw [covered_cons, Finset.coe_union, ← Set.union_assoc]
        exact hrest
  have hall := hfrom chunks m ∅ hparts (Set.eqOn_empty _ _)
  rwa [Set.empty_union] at hall

/-- Chunks that do not overlap cover as much as they hold. -/
theorem card_covered
    (hdisjoint : chunks.Pairwise fun c d => Disjoint c.addresses d.addresses) :
    (covered chunks).card = totalLength chunks := by
  induction chunks with
  | nil => rfl
  | cons c chunks ih =>
      obtain ⟨hfirst, hrest⟩ := List.pairwise_cons.mp hdisjoint
      have hseparate : Disjoint c.addresses (covered chunks) := by
        rw [Finset.disjoint_left]
        intro i hi hcovered
        obtain ⟨d, hd, hid⟩ := (mem_covered chunks).mp hcovered
        exact Finset.disjoint_left.mp (hfirst d hd) hi hid
      rw [covered_cons, Finset.card_union_of_disjoint hseparate, ih hrest, c.card_addresses,
        totalLength_cons]

/-- Chunks cover at most as much as they hold. -/
theorem card_covered_le
    (chunks : List Chunk) :
    (covered chunks).card ≤ totalLength chunks := by
  induction chunks with
  | nil => exact le_refl _
  | cons c chunks ih =>
      calc (covered (c :: chunks)).card
          ≤ c.addresses.card + (covered chunks).card := Finset.card_union_le _ _
        _ ≤ c.bytes.length + totalLength chunks := by
            rw [c.card_addresses]
            exact Nat.add_le_add_left ih _

end Chunks

/-! ## How far the chunks reach -/

/-- The end of the furthest byte stored. -/
def furthestEnd (chunks : List Chunk) : Nat :=
  (covered chunks).sup Nat.succ

/-- The number of bytes stored where a byte had been stored. -/
def rewritten (chunks : List Chunk) : Nat :=
  totalLength chunks - (covered chunks).card

/-- The number of bytes before the furthest one where none was stored. -/
def skipped (chunks : List Chunk) : Nat :=
  (Finset.range (furthestEnd chunks) \ covered chunks).card

section Reach

variable (chunks : List Chunk)

@[simp] theorem furthestEnd_nil :
    furthestEnd [] = 0 := by
  rfl

theorem furthestEnd_le_iff (n : Nat) :
    furthestEnd chunks ≤ n ↔ covered chunks ⊆ Finset.range n := by
  unfold furthestEnd
  rw [Finset.sup_le_iff]
  constructor
  · intro h i hi
    exact Finset.mem_range.mpr (h i hi)
  · intro h i hi
    exact Finset.mem_range.mp (h hi)

theorem covered_subset_range_furthestEnd :
    covered chunks ⊆ Finset.range (furthestEnd chunks) :=
  (furthestEnd_le_iff chunks _).mp (le_refl _)

/-- The lengths of the chunks add up to the end of the furthest byte exactly
when as many bytes are stored again as are left out. -/
theorem totalLength_eq_furthestEnd_iff :
    totalLength chunks = furthestEnd chunks ↔ rewritten chunks = skipped chunks := by
  have hle := card_covered_le chunks
  have hsub := Finset.card_le_card (covered_subset_range_furthestEnd chunks)
  have hskipped := Finset.card_sdiff_of_subset (covered_subset_range_furthestEnd chunks)
  rw [Finset.card_range] at hsub hskipped
  unfold rewritten skipped
  rw [hskipped]
  omega

end Reach

/-! ## Partitions -/

/-- The chunks are the pieces of the payload, in some order: none overlaps
another, and together they are all of it. -/
structure Partitions (payload : List UInt8) (chunks : List Chunk) : Prop where
  partOf : ∀ c ∈ chunks, c.PartOf payload
  disjoint : chunks.Pairwise fun c d => Disjoint c.addresses d.addresses
  covered : covered chunks = Finset.range payload.length

namespace Partitions

variable {payload : List UInt8} {chunks : List Chunk}

theorem totalLength (h : Partitions payload chunks) :
    totalLength chunks = payload.length := by
  rw [← card_covered h.disjoint, h.covered, Finset.card_range]

theorem fits
    (h : Partitions payload chunks) {c : Chunk} (hc : c ∈ chunks) (hbytes : c.bytes ≠ []) :
    c.offset + c.bytes.length ≤ payload.length := by
  have hpos : 0 < c.bytes.length := List.length_pos_iff.mpr hbytes
  have hlast : c.offset + c.bytes.length - 1 ∈ Foundation.covered chunks :=
    (mem_covered chunks).mpr ⟨c, hc, c.mem_addresses.mpr ⟨by omega, by omega⟩⟩
  rw [h.covered, Finset.mem_range] at hlast
  omega

/-- However the pieces are ordered, they reassemble to the payload. -/
theorem storeAll
    (h : Partitions payload chunks) (m : Memory) :
    readBytes (storeAll chunks m) 0 (Foundation.totalLength chunks) = payload := by
  have hbytes : readBytes (Foundation.storeAll chunks m) 0 payload.length =
      readBytes (ofBytes payload) 0 payload.length := by
    apply readBytes_congr
    intro i hi
    apply storeAll_eqOn_payload m h.partOf
    rw [h.covered]
    simpa using hi
  rw [h.totalLength, hbytes, readBytes_ofBytes]

end Partitions

end Foundation
end AvensysEsp32
