import Mathlib.Data.List.Basic
import Mathlib.Tactic.Common
import Mathlib.Tactic.IntervalCases

/-!
# Decimal numbers

Numbers as characters: the conversion `%d` of `sscanf`, which skips blanks and
takes a sign and digits, and the decimal notation of a natural number, as `%u`
prints it.
-/

namespace AvensysEsp32
namespace Foundation

def isdigit (c : UInt8) : Bool :=
  48 ≤ c && c ≤ 57

/-- The blanks that a conversion skips. -/
def isBlank (c : UInt8) : Bool :=
  c = 32 || (9 ≤ c && c ≤ 13)

/-! ## Reading -/

/-- The value of a sequence of digits. -/
def digitsValue (digits : List UInt8) : Nat :=
  digits.foldl (fun value c => 10 * value + (c.toNat - 48)) 0

/-- A sign, if there is one, and what follows. -/
def scanSign : List UInt8 → Bool × List UInt8
  | 45 :: rest => (true, rest)
  | 43 :: rest => (false, rest)
  | text => (false, text)

/-- The conversion `%d`: the number, and what follows it. -/
def scanInt (text : List UInt8) : Option (Int × List UInt8) :=
  let signed := scanSign (text.dropWhile isBlank)
  let digits := signed.2.takeWhile isdigit
  if digits = [] then none
  else
    let value : Int := digitsValue digits
    some (if signed.1 then -value else value, signed.2.dropWhile isdigit)

/-! ## Printing -/

/-- A digit of a number as a character. -/
def digitByte (c : Char) : UInt8 :=
  UInt8.ofNat c.toNat

/-- The decimal notation of a number. -/
def decimal (n : Nat) : List UInt8 :=
  (Nat.toDigits 10 n).map digitByte

section Decimal

variable (n : Nat)

theorem decimal_ne_nil :
    decimal n ≠ [] := by
  unfold decimal
  rw [Ne, List.map_eq_nil_iff]
  exact Nat.toDigits_ne_nil

/-- A number below a power of ten has no more digits than the exponent. -/
theorem length_decimal_le
    {n k : Nat} (hk : 0 < k) (hn : n < 10 ^ k) :
    (decimal n).length ≤ k := by
  unfold decimal
  rw [List.length_map]
  exact (Nat.length_toDigits_le_iff (by decide) hk).mpr hn

theorem isdigit_digitByte
    {c : Char} (hc : c.isDigit = true) :
    isdigit (digitByte c) = true := by
  have hrange := Char.isDigit_iff_toNat.mp hc
  have hlow : 48 ≤ c.toNat := hrange.1
  have hhigh : c.toNat ≤ 57 := hrange.2
  have hbyte : (digitByte c).toNat = c.toNat := by
    unfold digitByte
    rw [UInt8.toNat_ofNat_of_lt' (lt_of_le_of_lt hhigh (by decide))]
  unfold isdigit
  rw [Bool.and_eq_true, decide_eq_true_eq, decide_eq_true_eq, UInt8.le_iff_toNat_le,
    UInt8.le_iff_toNat_le, hbyte]
  exact ⟨hlow, hhigh⟩

/-- The notation consists of digits. -/
theorem isdigit_of_mem_decimal
    {c : UInt8} (hc : c ∈ decimal n) :
    isdigit c = true := by
  obtain ⟨digit, hdigit, rfl⟩ := List.mem_map.mp hc
  exact isdigit_digitByte (Nat.isDigit_of_mem_toDigits (by decide) (by decide) hdigit)

/-- Only the notation of zero begins with a zero. -/
theorem head_decimal_of_pos
    {n : Nat} (hn : 0 < n) :
    (decimal n).head? ≠ some 48 := by
  induction n using Nat.strongRecOn with
  | ind n ih =>
      unfold decimal at ih ⊢
      by_cases hlt : n < 10
      · rw [Nat.toDigits_of_lt_base hlt]
        interval_cases n <;> decide
      · rw [Nat.toDigits_of_base_le (by decide) (Nat.le_of_not_lt hlt), List.map_append,
          List.head?_append_of_ne_nil]
        · exact ih (n / 10) (by omega) (by omega)
        · rw [Ne, List.map_eq_nil_iff]
          exact Nat.toDigits_ne_nil

/-- A zero at the head is the only digit. -/
theorem decimal_canonical :
    (decimal n).head? ≠ some 48 ∨ decimal n = [48] := by
  rcases Nat.eq_zero_or_pos n with rfl | hn
  · exact Or.inr (by decide)
  · exact Or.inl (head_decimal_of_pos hn)

/-- A digit is the character of its byte. -/
theorem digitByte_inj
    {c d : Char} (hc : c.isDigit = true) (hd : d.isDigit = true)
    (h : digitByte c = digitByte d) :
    c = d := by
  have hc' := (Char.isDigit_iff_toNat.mp hc).2
  have hd' := (Char.isDigit_iff_toNat.mp hd).2
  have hbyte := congrArg UInt8.toNat h
  unfold digitByte at hbyte
  rw [UInt8.toNat_ofNat_of_lt' (lt_of_le_of_lt hc' (by decide)),
    UInt8.toNat_ofNat_of_lt' (lt_of_le_of_lt hd' (by decide))] at hbyte
  exact Char.toNat_inj.mp hbyte

/-- A number is read off its digits. -/
theorem decimal_injective {m n : Nat} (h : decimal m = decimal n) :
    m = n := by
  have hdigits : ∀ (cs ds : List Char), (∀ c ∈ cs, c.isDigit = true) →
      (∀ d ∈ ds, d.isDigit = true) → cs.map digitByte = ds.map digitByte → cs = ds := by
    intro cs
    induction cs with
    | nil =>
        intro ds _ _ hmap
        exact (List.map_eq_nil_iff.mp hmap.symm).symm
    | cons c cs ih =>
        intro ds hcs hds hmap
        cases ds with
        | nil => exact absurd hmap (by simp)
        | cons d ds =>
            obtain ⟨hhead, htail⟩ := List.cons.inj hmap
            rw [digitByte_inj (hcs c List.mem_cons_self) (hds d List.mem_cons_self) hhead,
              ih ds (fun c' h' => hcs c' (List.mem_cons_of_mem c h'))
                (fun d' h' => hds d' (List.mem_cons_of_mem d h')) htail]
  have hsame := hdigits (Nat.toDigits 10 m) (Nat.toDigits 10 n)
    (fun _ => Nat.isDigit_of_mem_toDigits (by decide) (by decide))
    (fun _ => Nat.isDigit_of_mem_toDigits (by decide) (by decide)) h
  rw [← Nat.ofDigitChars_ten_toDigits (n := m), hsame, Nat.ofDigitChars_ten_toDigits]

end Decimal

end Foundation
end AvensysEsp32
