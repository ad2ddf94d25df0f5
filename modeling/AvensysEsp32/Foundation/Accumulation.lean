import AvensysEsp32.Foundation.Printing

/-!
# Text that grows in memory

A buffer to which data is appended behind what it holds, with or without a NUL
that ends it.  The data comes in pieces of any length, and may itself contain
NULs: what the buffer holds is then more than the string it begins with.
-/

namespace AvensysEsp32
namespace Foundation

/-- The memory begins with the text and a NUL. -/
structure HoldsText (m : Memory) (text : List UInt8) : Prop where
  bytes : readBytes m 0 text.length = text
  nul : m text.length = 0

/-- Put `data` behind the first `len` bytes, and a NUL behind it. -/
def appendText (m : Memory) (len : Nat) (data : List UInt8) : Memory :=
  store (store m len data) (len + data.length) [0]

section Growth

variable {m old fresh : Memory} {data text : List UInt8} {len : Nat}

/-- What is stored behind the first bytes goes on after them. -/
theorem readBytes_store_behind (m : Memory) (len : Nat) (data : List UInt8) :
    readBytes (store m len data) 0 (len + data.length) = readBytes m 0 len ++ data := by
  have hstored : readBytes (store m len data) len data.length = data := by
    have hhead : readBytes (store m len (data ++ [])) len data.length = data :=
      readBytes_store_head
    rwa [List.append_nil] at hhead
  rw [readBytes_add, readBytes_store_before (by omega), Nat.zero_add, hstored]

/-- What is stored at the beginning is what the memory begins with. -/
theorem readBytes_store_first :
    readBytes (store m 0 data) 0 data.length = data := by
  simpa using readBytes_store_behind m 0 data

/-- What has been copied reads as where it comes from. -/
theorem readBytes_memcpy :
    readBytes (memcpy fresh 0 old 0 len) 0 len = readBytes old 0 len := by
  apply readBytes_congr
  intro i hi
  rw [memcpy_inside _ _ _ _ _ ⟨by omega, by omega⟩]
  simp

/-- The bytes stored to are those of the data and the NUL. -/
theorem appendText_outside
    {i : Nat} (hi : i ∉ block len (data.length + 1)) :
    appendText m len data i = m i := by
  have hout : ¬ (len ≤ i ∧ i < len + (data.length + 1)) := hi
  unfold appendText store
  rw [memcpy_outside, memcpy_outside]
  · rintro ⟨hlow, hhigh⟩
    omega
  · rintro ⟨hlow, hhigh⟩
    rw [List.length_singleton] at hhigh
    omega

/-- What the memory begins with after data has been appended. -/
theorem readBytes_appendText :
    readBytes (appendText m len data) 0 (len + data.length) = readBytes m 0 len ++ data := by
  unfold appendText
  rw [readBytes_store_before (by omega), readBytes_store_behind]

theorem appendText_nul :
    appendText m len data (len + data.length) = 0 := by
  unfold appendText store
  rw [memcpy_inside _ _ _ _ _ ⟨Nat.le_refl _, by simp⟩]
  simp [ofBytes]

/-- A text grows by what is appended behind it. -/
theorem HoldsText.append
    (h : readBytes m 0 text.length = text) (data : List UInt8) :
    HoldsText (appendText m text.length data) (text ++ data) where
  bytes := by
    rw [List.length_append, readBytes_appendText, h]
  nul := by
    rw [List.length_append]
    exact appendText_nul

end Growth

end Foundation
end AvensysEsp32
