import AvensysEsp32.Foundation.Memory

/-!
# What a piece of code reads and stores

A piece of code that fills a target region from a source region has a
footprint: the bytes of the source it reads and the bytes of the target it
stores to.  Both may depend on the source, as when a length is one of its
bytes.  A footprint lies within two regions when the code touches nothing
outside them.
-/

namespace AvensysEsp32
namespace Foundation

/-- The bytes read and the bytes stored to. -/
structure Footprint where
  reads : Set Nat
  stores : Set Nat

/-- The reads lie in `source`, the stores in `target`. -/
def Footprint.Within (fp : Footprint) (source target : Set Nat) : Prop :=
  fp.reads ⊆ source ∧ fp.stores ⊆ target

/-- The footprint of `f`, which makes the target from the source and from what
the target held. -/
structure HasFootprint
    (f : Memory → Memory → Memory) (fp : Memory → Footprint) : Prop where
  /-- The bytes read decide what is done and where. -/
  read : ∀ {src src' : Memory}, Set.EqOn src src' (fp src).reads →
    fp src' = fp src ∧ ∀ dst, Set.EqOn (f src dst) (f src' dst) (fp src).stores
  /-- The other bytes of the target stay. -/
  kept : ∀ (src dst : Memory) {i : Nat}, i ∉ (fp src).stores → f src dst i = dst i
  /-- What is stored does not depend on what was there. -/
  stored : ∀ (src dst dst' : Memory), Set.EqOn (f src dst) (f src dst') (fp src).stores

namespace HasFootprint

variable {f : Memory → Memory → Memory} {fp fp' : Memory → Footprint}

/-- A source that shows the bytes read leads to the same target. -/
theorem eq_of_reads
    (h : HasFootprint f fp)
    {src src' : Memory} (heq : Set.EqOn src src' (fp src).reads) (dst : Memory) :
    f src dst = f src' dst := by
  obtain ⟨hfp, hstored⟩ := h.read heq
  funext i
  by_cases hi : i ∈ (fp src).stores
  · exact hstored dst hi
  · have hi' : i ∉ (fp src').stores := by
      rwa [hfp]
    rw [h.kept src dst hi, h.kept src' dst hi']

/-- Code that goes on with the target, reading there what it stored itself. -/
theorem andThen
    (h : HasFootprint f fp)
    (g : Memory → Memory) (more : Memory → Set Nat)
    (hmore : ∀ {src src'}, fp src' = fp src → more src' = more src)
    (hkept : ∀ (src dst : Memory) {i : Nat}, i ∉ more src → g (f src dst) i = f src dst i)
    (hstored : ∀ src dst dst' : Memory, Set.EqOn (f src dst) (f src dst') (fp src).stores →
      Set.EqOn (g (f src dst)) (g (f src dst')) (more src)) :
    HasFootprint (fun src dst => g (f src dst))
      (fun src => ⟨(fp src).reads, (fp src).stores ∪ more src⟩) where
  read := by
    intro src src' heq
    obtain ⟨hfp, -⟩ := h.read heq
    refine ⟨by simp only [hfp, hmore hfp], ?_⟩
    intro dst i _
    rw [h.eq_of_reads heq dst]
  kept := by
    intro src dst i hi
    have hi' := not_or.1 hi
    rw [hkept src dst hi'.2, h.kept src dst hi'.1]
  stored := by
    intro src dst dst' i hi
    by_cases hnew : i ∈ more src
    · exact hstored src dst dst' (h.stored src dst dst') hnew
    · have hold : i ∈ (fp src).stores := hi.resolve_right hnew
      rw [hkept src dst hnew, hkept src dst' hnew]
      exact h.stored src dst dst' hold

end HasFootprint

section Copies

/-- A copy whose place and length are read from the source. -/
theorem hasFootprint_memcpy
    (params : Set Nat) (start from_ count : Memory → Nat)
    (hparams : ∀ {src src' : Memory}, Set.EqOn src src' params →
      start src' = start src ∧ from_ src' = from_ src ∧ count src' = count src) :
    HasFootprint (fun src dst => memcpy dst (start src) src (from_ src) (count src))
      (fun src => ⟨params ∪ block (from_ src) (count src), block (start src) (count src)⟩) where
  read := by
    intro src src' heq
    obtain ⟨hstart, hfrom, hcount⟩ := hparams (heq.mono Set.subset_union_left)
    refine ⟨by rw [hstart, hfrom, hcount], ?_⟩
    intro dst i hi
    have hi' : i ∈ block (start src') (count src') := by
      rwa [hstart, hcount]
    rw [memcpy_inside _ _ _ _ _ hi, memcpy_inside _ _ _ _ _ hi', hstart, hfrom]
    have hlo := hi.1
    have hhi := hi.2
    exact heq (Or.inr ⟨by omega, by omega⟩)
  kept := by
    intro src dst i hi
    exact memcpy_outside dst src (start src) (from_ src) (count src) hi
  stored := by
    intro src dst dst' i hi
    rw [memcpy_inside _ _ _ _ _ hi, memcpy_inside _ _ _ _ _ hi]

/-- A block from `start` lies below a bound exactly when it is empty or ends
there. -/
theorem block_subset_block_iff
    (start count low size : Nat) :
    block start count ⊆ block low size ↔
      count = 0 ∨ (low ≤ start ∧ start + count ≤ low + size) := by
  constructor
  · intro h
    by_cases hcount : count = 0
    · exact Or.inl hcount
    · have hfirst := (h ⟨le_refl start, by omega⟩).1
      have hlast : start + (count - 1) < low + size := (h ⟨by omega, by omega⟩).2
      exact Or.inr ⟨hfirst, by omega⟩
  · rintro (hcount | ⟨hlow, hend⟩) i hi
    · have hlo := hi.1
      have hhi := hi.2
      omega
    · have hlo := hi.1
      have hhi := hi.2
      exact ⟨by omega, by omega⟩

end Copies

end Foundation
end AvensysEsp32
