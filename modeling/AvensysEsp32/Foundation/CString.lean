import AvensysEsp32.Foundation.Memory
import Mathlib.Data.List.Infix
import Mathlib.Data.List.TakeWhile
import Mathlib.Tactic.Common

/-!
# NUL-terminated strings

A C string is what stands before the first NUL of a byte array.  The functions
of `string.h` used on strings read no further.
-/

namespace AvensysEsp32
namespace Foundation

/-- The string a byte array begins with. -/
def cString (bytes : List UInt8) : List UInt8 :=
  bytes.takeWhile (· ≠ 0)

/-- `strstr(hay, needle) != NULL`. -/
def strstr (hay needle : List UInt8) : Bool :=
  decide (needle <:+: cString hay)

/-- `strlcpy(dst, src, size)`: the string `dst` holds afterwards. -/
def strlcpy (src : List UInt8) (size : Nat) : List UInt8 :=
  (cString src).take (size - 1)

@[simp] theorem cString_nil :
    cString [] = [] := by
  rfl

/-- What follows a NUL does not belong to the string. -/
@[simp] theorem cString_append_zeros
    (bytes : List UInt8) (n : Nat) :
    cString (bytes ++ List.replicate n 0) = cString bytes := by
  induction bytes with
  | nil =>
      cases n <;> simp [cString, List.replicate_succ]
  | cons b bytes ih =>
      by_cases hb : b = 0
      · simp [cString, hb]
      · simpa [cString, hb] using ih

@[simp] theorem cString_append_nul
    (bytes rest : List UInt8) :
    cString (bytes ++ 0 :: rest) = cString bytes := by
  induction bytes with
  | nil => simp [cString]
  | cons b bytes ih =>
      by_cases hb : b = 0
      · simp [cString, hb]
      · simpa [cString, hb] using ih

theorem cString_of_no_nul
    {bytes : List UInt8}
    (h : ∀ b ∈ bytes, b ≠ 0) :
    cString bytes = bytes := by
  unfold cString
  rw [List.takeWhile_eq_self_iff]
  intro b hb
  simpa using h b hb

@[simp] theorem cString_idem
    (bytes : List UInt8) :
    cString (cString bytes) = cString bytes := by
  apply cString_of_no_nul
  intro b hb
  simpa using List.mem_takeWhile_imp hb

/-- The string of an array is no longer than the array. -/
theorem length_cString_le
    (bytes : List UInt8) :
    (cString bytes).length ≤ bytes.length :=
  (List.takeWhile_prefix _).length_le

/-- A shortened array holds the shortened string. -/
theorem cString_take
    (bytes : List UInt8) (n : Nat) :
    cString (bytes.take n) = (cString bytes).take n :=
  List.take_takeWhile.symm

theorem strstr_iff
    (hay needle : List UInt8) :
    strstr hay needle = true ↔ needle <:+: cString hay := by
  simp [strstr]

/-- An array that contains the string is at least as long. -/
theorem length_le_of_strstr
    {hay needle : List UInt8}
    (h : strstr hay needle = true) :
    needle.length ≤ hay.length :=
  ((strstr_iff hay needle).1 h).length_le.trans (length_cString_le hay)

theorem strlcpy_of_fits
    {src : List UInt8} {size : Nat}
    (h : (cString src).length < size) :
    strlcpy src size = cString src := by
  unfold strlcpy
  rw [List.take_of_length_le]
  omega

theorem cString_no_nul (bytes : List UInt8) :
    0 ∉ cString bytes := by
  intro h
  simpa using List.mem_takeWhile_imp h

/-- A copy is the array itself when that is a string with room for its NUL. -/
theorem strlcpy_eq_self_iff
    {src : List UInt8} {size : Nat} (hsize : 0 < size) :
    strlcpy src size = src ↔ 0 ∉ src ∧ src.length < size := by
  constructor
  · intro h
    have hlen : (strlcpy src size).length < size := by
      unfold strlcpy
      rw [List.length_take]
      omega
    refine ⟨?_, by rwa [h] at hlen⟩
    rw [← h]
    exact fun hmem => cString_no_nul src (List.mem_of_mem_take hmem)
  · rintro ⟨hnul, hlen⟩
    have hstring : cString src = src := cString_of_no_nul fun b hb h => hnul (h ▸ hb)
    rw [strlcpy_of_fits (by rwa [hstring]), hstring]

/-! ## Strings in memory -/

/-- The memory shows the text and its NUL from `start`. -/
def ShowsString (m : Memory) (start : Nat) (text : List UInt8) : Prop :=
  readBytes m start text.length = text ∧ 0 ∉ text ∧ m (start + text.length) = 0

instance (m : Memory) (start : Nat) (text : List UInt8) :
    Decidable (ShowsString m start text) :=
  inferInstanceAs (Decidable (_ ∧ _ ∧ _))

section Shows

variable {m : Memory} {start : Nat} {text text' : List UInt8}

theorem ShowsString.byte
    (h : ShowsString m start text)
    {i : Nat} (hi : i < text.length) :
    m (start + i) = text[i] := by
  have hread : (readBytes m start text.length)[i]? = text[i]? := by
    rw [h.1]
  rw [List.getElem?_eq_getElem (by simpa using hi), List.getElem?_eq_getElem hi,
    getElem_readBytes] at hread
  exact Option.some.inj hread

/-- A part of the memory as long as the string is the string, and a longer one
goes on with its NUL. -/
theorem ShowsString.readBytes
    (h : ShowsString m start text)
    {n : Nat} (hn : text.length ≤ n) :
    ∃ rest, Foundation.readBytes m start n = text ++ rest ∧ (rest = [] ∨ rest.head? = some 0) := by
  obtain ⟨d, rfl⟩ := Nat.exists_eq_add_of_le hn
  refine ⟨Foundation.readBytes m (start + text.length) d, ?_, ?_⟩
  · rw [readBytes_add, h.1]
  · cases d with
    | zero => exact Or.inl rfl
    | succ d =>
        right
        rw [Nat.add_comm d 1, readBytes_add]
        simp [Foundation.readBytes, h.2.2]

end Shows

end Foundation
end AvensysEsp32
