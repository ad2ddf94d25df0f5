import AvensysEsp32.Foundation.Memory
import Mathlib.Tactic.IntervalCases

/-!
# Nibbles as characters

A nibble travels as the character `'0'` plus its value, sixteen characters in
all.  Numbers are read digit by digit, bytes as pairs of nibbles, and words as
groups of four bytes that travel last byte first.
-/

namespace AvensysEsp32
namespace Foundation

/-- The value of a nibble's character. -/
def decodeNibble (c : UInt8) : Option Nat :=
  if 48 ≤ c.toNat ∧ c.toNat < 64 then some (c.toNat - 48) else none

/-- The number whose digits follow those of `acc`. -/
def decodeNumberFrom (acc : Nat) : List UInt8 → Option Nat
  | [] => some acc
  | c :: chars => (decodeNibble c).bind fun d => decodeNumberFrom (16 * acc + d) chars

/-- The number with the given digits, the most significant first. -/
def decodeNumber (chars : List UInt8) : Option Nat :=
  decodeNumberFrom 0 chars

/-- The bytes with the given pairs of nibbles. -/
def decodeBytes : List UInt8 → Option (List UInt8)
  | [] => some []
  | [_] => none
  | hi :: lo :: chars =>
      (decodeNibble hi).bind fun h =>
        (decodeNibble lo).bind fun l =>
          (decodeBytes chars).map fun bytes => UInt8.ofNat (16 * h + l) :: bytes

/-- The bytes of words of eight characters, each sent last byte first; the
word at the end may be shorter. -/
def decodeWords : List UInt8 → Option (List UInt8)
  | c₀ :: c₁ :: c₂ :: c₃ :: c₄ :: c₅ :: c₆ :: c₇ :: chars =>
      (decodeBytes [c₀, c₁, c₂, c₃, c₄, c₅, c₆, c₇]).bind fun word =>
        (decodeWords chars).map fun bytes => word.reverse ++ bytes
  | chars => (decodeBytes chars).map List.reverse

theorem decodeNibble_ofNat
    {value : Nat} (h : value < 16) :
    decodeNibble (UInt8.ofNat (value + 48)) = some value := by
  have hnat : (UInt8.ofNat (value + 48)).toNat = value + 48 := by
    rw [UInt8.toNat_ofNat']
    omega
  unfold decodeNibble
  rw [hnat, if_pos (by omega), Nat.add_sub_cancel]

@[simp] theorem decodeNumberFrom_nil (acc : Nat) :
    decodeNumberFrom acc [] = some acc := by
  rfl

theorem decodeNumberFrom_cons
    {c : UInt8} {d : Nat} (h : decodeNibble c = some d) (acc : Nat) (chars : List UInt8) :
    decodeNumberFrom acc (c :: chars) = decodeNumberFrom (16 * acc + d) chars := by
  simp [decodeNumberFrom, h]

theorem decodeBytes_cons
    {hi lo b : UInt8}
    (hhi : decodeNibble hi = some (b.toNat / 16))
    (hlo : decodeNibble lo = some (b.toNat % 16)) (chars : List UInt8) :
    decodeBytes (hi :: lo :: chars) = (decodeBytes chars).map fun bytes => b :: bytes := by
  have hbyte : UInt8.ofNat (16 * (b.toNat / 16) + b.toNat % 16) = b := by
    rw [Nat.div_add_mod]
    exact UInt8.ofNat_toNat
  simp only [decodeBytes, hhi, hlo, Option.bind_some, hbyte]

/-- Zero characters at the end are no word. -/
theorem decodeWords_zeros
    {count : Nat} (hpos : 0 < count) (hlt : count < 4) :
    decodeWords (List.replicate (2 * count) 0) = none := by
  interval_cases count
  · rfl
  · rfl
  · rfl

end Foundation
end AvensysEsp32
