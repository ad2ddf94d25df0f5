import Mathlib.Data.Set.BooleanAlgebra
import Mathlib.Data.Set.Function
import Mathlib.Data.List.GetD
import Mathlib.Logic.Function.Basic
import Mathlib.Order.CompletePartialOrder
import Mathlib.Order.Interval.Set.Basic
import Mathlib.Tactic.Common

/-!
# Byte memory and block copies

A region of memory is the function that gives the byte at each distance from
its first byte.  Nothing bounds the region: a store past the end of a C array
is a store at a larger distance, and a read past the end reads what lies there.

The operations are the ones of `string.h` on such regions.  What two regions
have in common is stated with `Set.EqOn`.
-/

namespace AvensysEsp32
namespace Foundation

/-- A region of byte memory, addressed from its first byte. -/
abbrev Memory := Nat → UInt8

/-- The addresses of a block. -/
abbrev block (start count : Nat) : Set Nat :=
  Set.Ico start (start + count)

/-- `memset`: fill `count` bytes from `start`. -/
def memset (dst : Memory) (start : Nat) (value : UInt8) (count : Nat) : Memory :=
  fun i => if start ≤ i ∧ i < start + count then value else dst i

/-- `memcpy`: copy `count` bytes of `src` from `from_` over `dst` from `start`. -/
def memcpy (dst : Memory) (start : Nat) (src : Memory) (from_ count : Nat) : Memory :=
  fun i => if start ≤ i ∧ i < start + count then src (from_ + (i - start)) else dst i

/-- The bytes of a block, in order. -/
def readBytes (m : Memory) (start count : Nat) : List UInt8 :=
  (List.range count).map (fun i => m (start + i))

/-- The region that begins with the given bytes and is zero after them. -/
def ofBytes (bytes : List UInt8) : Memory :=
  fun i => bytes.getD i 0

/-- Store the given bytes from `start`. -/
def store (dst : Memory) (start : Nat) (bytes : List UInt8) : Memory :=
  memcpy dst start (ofBytes bytes) 0 bytes.length

section Copies

variable (dst src : Memory) (start from_ count : Nat)

theorem memset_inside
    {value : UInt8} {i : Nat}
    (hi : i ∈ block start count) :
    memset dst start value count i = value := by
  simp [memset, hi.1, hi.2]

theorem memset_outside
    {value : UInt8} {i : Nat}
    (hi : i ∉ block start count) :
    memset dst start value count i = dst i := by
  have h : ¬ (start ≤ i ∧ i < start + count) := hi
  simp [memset, h]

theorem memcpy_inside
    {i : Nat}
    (hi : i ∈ block start count) :
    memcpy dst start src from_ count i = src (from_ + (i - start)) := by
  simp [memcpy, hi.1, hi.2]

theorem memcpy_outside
    {i : Nat}
    (hi : i ∉ block start count) :
    memcpy dst start src from_ count i = dst i := by
  have h : ¬ (start ≤ i ∧ i < start + count) := hi
  simp [memcpy, h]

@[simp] theorem memcpy_zero :
    memcpy dst start src from_ 0 = dst := by
  funext i
  exact memcpy_outside dst src start from_ 0 (by simp)

/-- A copy is made byte by byte, from the first. -/
theorem memcpy_succ :
    memcpy dst start src from_ (count + 1) =
      memcpy (Function.update dst start (src from_)) (start + 1) src (from_ + 1) count := by
  funext i
  by_cases hi : i ∈ block start (count + 1)
  · rw [memcpy_inside _ _ _ _ _ hi]
    by_cases hfirst : i = start
    · rw [memcpy_outside _ _ _ _ _ (by simp [hfirst]), hfirst]
      simp
    · have hrest : i ∈ block (start + 1) count := by
        have := hi.1
        have := hi.2
        exact ⟨by omega, by omega⟩
      rw [memcpy_inside _ _ _ _ _ hrest]
      congr 1
      have := hrest.1
      omega
  · have hfirst : i ≠ start := by
      rintro rfl
      exact hi ⟨le_refl _, by omega⟩
    have hrest : i ∉ block (start + 1) count := by
      intro h
      have := h.1
      have := h.2
      exact hi ⟨by omega, by omega⟩
    rw [memcpy_outside _ _ _ _ _ hi, memcpy_outside _ _ _ _ _ hrest]
    rw [Function.update_of_ne hfirst]

/-- A copy leaves every block it does not meet as it was. -/
theorem memcpy_eqOn_of_disjoint
    {s : Set Nat}
    (hdisj : Disjoint s (block start count)) :
    Set.EqOn (memcpy dst start src from_ count) dst s := by
  intro i hi
  exact memcpy_outside dst src start from_ count
    (Set.disjoint_left.mp hdisj hi)

/-- A block copied from a region that shows `m` there shows `m` afterwards. -/
theorem memcpy_eqOn_of_source
    {m : Memory}
    (hsrc : ∀ i < count, src (from_ + i) = m (start + i)) :
    Set.EqOn (memcpy dst start src from_ count) m (block start count) := by
  intro i hi
  rw [memcpy_inside dst src start from_ count hi]
  have hlt : i - start < count := by
    have := hi.1
    have := hi.2
    omega
  rw [hsrc (i - start) hlt]
  congr 1
  have := hi.1
  omega

end Copies

section Blocks

@[simp] theorem length_readBytes
    (m : Memory) (start count : Nat) :
    (readBytes m start count).length = count := by
  simp [readBytes]

@[simp] theorem readBytes_zero
    (m : Memory) (start : Nat) :
    readBytes m start 0 = [] := by
  rfl

theorem getElem_readBytes
    (m : Memory) (start count i : Nat)
    (hi : i < (readBytes m start count).length) :
    (readBytes m start count)[i] = m (start + i) := by
  simp [readBytes]

theorem readBytes_succ
    (m : Memory) (start count : Nat) :
    readBytes m start (count + 1) =
      readBytes m start count ++ [m (start + count)] := by
  simp [readBytes, List.range_succ]

theorem readBytes_add
    (m : Memory) (start c d : Nat) :
    readBytes m start (c + d) =
      readBytes m start c ++ readBytes m (start + c) d := by
  induction d with
  | zero =>
      simp
  | succ d ih =>
      rw [← Nat.add_assoc, readBytes_succ, readBytes_succ, ih]
      simp [Nat.add_assoc]

/-- Blocks of two regions that show the same bytes, wherever they begin. -/
theorem readBytes_congr_shift
    {m m' : Memory} {start start' count : Nat}
    (h : ∀ i < count, m (start + i) = m' (start' + i)) :
    readBytes m start count = readBytes m' start' count := by
  unfold readBytes
  apply List.map_congr_left
  intro i hi
  exact h i (List.mem_range.mp hi)

theorem readBytes_congr
    {m m' : Memory} {start count : Nat}
    (h : ∀ i < count, m (start + i) = m' (start + i)) :
    readBytes m start count = readBytes m' start count :=
  readBytes_congr_shift h

/-- A shorter block begins the longer one. -/
theorem take_readBytes
    (m : Memory) (start : Nat) {count more : Nat} (h : count ≤ more) :
    (readBytes m start more).take count = readBytes m start count := by
  obtain ⟨d, rfl⟩ := Nat.exists_eq_add_of_le h
  rw [readBytes_add, List.take_left' (length_readBytes m start count)]

theorem ofBytes_of_lt
    {bytes : List UInt8} {i : Nat}
    (hi : i < bytes.length) :
    ofBytes bytes i = bytes[i] :=
  List.getD_eq_getElem _ _ hi

theorem ofBytes_of_le
    {bytes : List UInt8} {i : Nat}
    (hi : bytes.length ≤ i) :
    ofBytes bytes i = 0 :=
  List.getD_eq_default _ _ hi

@[simp] theorem readBytes_ofBytes
    (bytes : List UInt8) :
    readBytes (ofBytes bytes) 0 bytes.length = bytes := by
  apply List.ext_getElem
  · simp
  · intro i h₁ h₂
    rw [getElem_readBytes, Nat.zero_add]
    exact ofBytes_of_lt h₂

theorem ofBytes_readBytes
    (m : Memory) (count i : Nat) :
    ofBytes (readBytes m 0 count) i = if i < count then m i else 0 := by
  split
  · rename_i hi
    rw [ofBytes_of_lt (by simpa using hi), getElem_readBytes, Nat.zero_add]
  · rename_i hi
    exact ofBytes_of_le (by simpa using hi)

end Blocks

end Foundation
end AvensysEsp32
