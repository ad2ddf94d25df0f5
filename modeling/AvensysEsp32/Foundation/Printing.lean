import Mathlib.Algebra.Group.Int.Defs
import AvensysEsp32.Foundation.Memory

/-!
# Printing to a buffer

`snprintf` stores what fits and returns the length of all of it.  A program that
prints piece by piece adds the results up, and passes the rest of its buffer to
the next call: a difference of unsigned numbers, which is the room that is left
only as long as everything has fitted.
-/

namespace AvensysEsp32
namespace Foundation

/-- `INT_MAX` -/
abbrev intMax : Nat := 2147483647

/-- `snprintf(m + start, size, ...)` of the text: what the memory holds
afterwards, and the result. -/
def snprintf (m : Memory) (start size : Nat) (text : List UInt8) : Memory × Int :=
  if intMax < size then (m, -1)
  else if size = 0 then (m, text.length)
  else (store m start (text.take (size - 1) ++ [0]), text.length)

/-- A buffer printed to: its memory, the results added up, and the room that was
left for each text, before the subtraction is made unsigned. -/
structure PrintBuffer where
  memory : Memory
  len : Int
  rooms : List Int

/-- `len += snprintf(buffer + len, sizeof(buffer) - len, ...)` -/
def PrintBuffer.print (capacity : Nat) (text : List UInt8) (b : PrintBuffer) : PrintBuffer :=
  let room : Int := capacity - b.len
  let printed := snprintf b.memory b.len.toNat (room % 2 ^ 32).toNat text
  { memory := printed.1
    len := b.len + printed.2
    rooms := b.rooms ++ [room] }

/-- The text has been printed, and is in the buffer if it fits. -/
structure Printed (capacity : Nat) (text : List UInt8) (b : PrintBuffer) : Prop where
  len : b.len = text.length
  memory : text.length < capacity → readBytes b.memory 0 text.length = text

section Print

variable {m : Memory} {start : Nat} {bytes : List UInt8}

theorem readBytes_store_before
    {first count : Nat} (h : first + count ≤ start) :
    readBytes (store m start bytes) first count = readBytes m first count := by
  apply readBytes_congr
  intro i hi
  unfold store
  rw [memcpy_outside]
  rintro ⟨hlow, _⟩
  omega

theorem readBytes_store_head
    {more : List UInt8} :
    readBytes (store m start (bytes ++ more)) start bytes.length = bytes := by
  apply List.ext_getElem
  · simp
  · intro i h₁ h₂
    rw [getElem_readBytes]
    unfold store
    rw [memcpy_inside _ _ _ _ _ ⟨by omega, by simp; omega⟩, Nat.zero_add,
      Nat.add_sub_cancel_left, ofBytes_of_lt (by simp; omega), List.getElem_append_left h₂]

variable {capacity : Nat} {text : List UInt8} {b : PrintBuffer}

/-- What a call returns while there is room for the rest of the buffer. -/
theorem snprintf_result
    {size : Nat} (hsize : size ≤ intMax) :
    (snprintf m start size text).2 = text.length := by
  unfold snprintf
  rw [if_neg (Nat.not_lt.mpr hsize)]
  split
  · rfl
  · rfl

theorem snprintf_memory
    {size : Nat} (hsize : size ≤ intMax) (hfits : text.length < size) :
    (snprintf m start size text).1 = store m start (text ++ [0]) := by
  unfold snprintf
  rw [if_neg (Nat.not_lt.mpr hsize), if_neg (by omega), List.take_of_length_le (by omega)]

/-- The room is what is left, if everything has fitted. -/
theorem unsigned_room
    (hcapacity : capacity ≤ intMax) (h : text.length ≤ capacity) :
    (((capacity : Int) - text.length) % 2 ^ 32).toNat = capacity - text.length := by
  unfold intMax at hcapacity
  omega

/-- One more text is printed behind those that have fitted. -/
theorem Printed.print
    (hb : Printed capacity text b)
    (hcapacity : capacity ≤ intMax) (h : text.length ≤ capacity) (more : List UInt8) :
    Printed capacity (text ++ more) (b.print capacity more) ∧
      (b.print capacity more).rooms = b.rooms ++ [(capacity : Int) - text.length] := by
  have hroom := unsigned_room hcapacity h
  have hsize : capacity - text.length ≤ intMax := le_trans (Nat.sub_le _ _) hcapacity
  unfold PrintBuffer.print
  dsimp only
  rw [hb.len, hroom]
  refine ⟨⟨?_, ?_⟩, rfl⟩
  · show (text.length : Int) + (snprintf _ _ _ _).2 = _
    rw [snprintf_result hsize]
    simp
  · intro hfits
    rw [List.length_append] at hfits ⊢
    show readBytes (snprintf _ _ _ _).1 0 _ = _
    rw [snprintf_memory hsize (by omega), readBytes_add, Int.toNat_natCast, Nat.zero_add,
      readBytes_store_before (by omega), readBytes_store_head, hb.memory (by omega)]

end Print

end Foundation
end AvensysEsp32
