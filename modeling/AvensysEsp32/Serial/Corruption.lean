import AvensysEsp32.Serial.RoundTrip
import Mathlib.Algebra.BigOperators.Group.List.Basic

/-!
# What the tests of a received message detect

Complete frames are far apart.  None begins another one, since the third byte
fixes the length, and no two of them differ in one byte, since the checksum adds
the bytes up and a single byte decides such a sum.  `Read_Message` therefore
refuses a frame that was altered in one byte, cut short or prolonged, unless
the substring searches that stand before its tests take the message away.
-/

namespace AvensysEsp32
namespace Serial

open Foundation

/-! ## Alterations of a message -/

/-- The message on the line and the one that is received instead. -/
inductive Altered (w : List UInt8) : List UInt8 → Prop
  /-- One byte is another one. -/
  | replaced (i : Nat) (b : UInt8) (hi : i < w.length) (hb : b ≠ w[i]) :
      Altered w (w.set i b)
  /-- Only the first `n` bytes arrive. -/
  | cut (n : Nat) (hpos : 0 < n) (hn : n < w.length) :
      Altered w (w.take n)
  /-- Bytes follow the message. -/
  | prolonged (extra : List UInt8) (hextra : extra ≠ []) :
      Altered w (w ++ extra)

theorem Altered.length_pos
    {w w' : List UInt8}
    (h : Altered w w') :
    0 < w'.length := by
  cases h with
  | replaced i b hi hb =>
      rw [List.length_set]
      omega
  | cut n hpos hn =>
      rw [List.length_take]
      omega
  | prolonged extra hextra =>
      have := List.length_pos_of_ne_nil hextra
      rw [List.length_append]
      omega

section Checksum

/-- The checksum complements the sum of the bytes. -/
theorem calcCksum16_eq_sum
    (b : Memory) (n : Nat) :
    calcCksum16 b n = ~~~((readBytes b 0 n).map UInt8.toUInt16).sum := by
  unfold calcCksum16
  rw [List.sum_eq_foldl, List.foldl_map]

/-- A byte of a sum is decided by the sum and the other bytes. -/
theorem sum_set_inj
    {M : Type*} [AddCancelMonoid M]
    (l : List M) {i : Nat} (hi : i < l.length) (a : M)
    (h : (l.set i a).sum = l.sum) :
    a = l[i] := by
  have hself : (l.set i l[i]).sum = l.sum := by
    rw [List.set_getElem_self]
  rw [← hself, List.sum_set, List.sum_set, if_pos hi, if_pos hi] at h
  exact add_left_cancel (add_right_cancel h)

theorem readBytes_ofBytes_take
    (w : List UInt8) {n : Nat}
    (hn : n ≤ w.length) :
    readBytes (ofBytes w) 0 n = w.take n := by
  apply List.ext_getElem
  · simp [hn]
  · intro i h₁ h₂
    have hi : i < n := by simpa using h₁
    rw [getElem_readBytes, Nat.zero_add, ofBytes_of_lt (by omega), List.getElem_take]

/-- Another byte under the sum gives another checksum. -/
theorem calcCksum16_set_inj
    {w : List UInt8} {n i : Nat} {b : UInt8}
    (hn : n ≤ w.length)
    (hi : i < n)
    (h : calcCksum16 (ofBytes (w.set i b)) n = calcCksum16 (ofBytes w) n) :
    b = w[i] := by
  rw [calcCksum16_eq_sum, calcCksum16_eq_sum, UInt16.not_inj,
    readBytes_ofBytes_take _ (by simpa using hn), readBytes_ofBytes_take _ hn,
    List.take_set, List.map_set] at h
  have hlt : i < ((w.take n).map UInt8.toUInt16).length := by
    simp only [List.length_map, List.length_take]
    omega
  have hbyte := sum_set_inj _ hlt _ h
  rw [List.getElem_map, List.getElem_take] at hbyte
  exact UInt8.toUInt16_inj.1 hbyte

/-- The number that two checksum bytes make. -/
theorem toNat_checksumBytes
    (hi lo : UInt8) :
    (hi.toUInt16 <<< 8 ||| lo.toUInt16).toNat = hi.toNat * 256 + lo.toNat := by
  have hhi : hi.toNat < 256 := hi.toNat_lt
  have hlo : lo.toNat < 2 ^ 8 := lo.toNat_lt
  have hshift : hi.toNat <<< 8 = hi.toNat * 256 := Nat.shiftLeft_eq _ _
  have hhigh : (hi.toUInt16 <<< 8).toNat = hi.toNat <<< 8 := by
    rw [UInt16.toNat_shiftLeft, hshift]
    simp [Nat.shiftLeft_eq]
    omega
  rw [UInt16.toNat_or, hhigh, UInt8.toNat_toUInt16, ← Nat.shiftLeft_add_eq_or_of_lt hlo,
    hshift]

/-- The two checksum bytes of a message can be read back from the number they
make. -/
theorem checksumBytes_inj
    {hi lo hi' lo' : UInt8}
    (h : hi.toUInt16 <<< 8 ||| lo.toUInt16 = hi'.toUInt16 <<< 8 ||| lo'.toUInt16) :
    hi = hi' ∧ lo = lo' := by
  have hnat := congrArg UInt16.toNat h
  rw [toNat_checksumBytes, toNat_checksumBytes] at hnat
  have hlo : lo.toNat < 256 := lo.toNat_lt
  have hlo' : lo'.toNat < 256 := lo'.toNat_lt
  exact ⟨UInt8.toNat_inj.1 (by omega), UInt8.toNat_inj.1 (by omega)⟩

end Checksum

section Distance

variable {w w' : List UInt8}

theorem ofBytes_set_of_ne
    (w : List UInt8) {i j : Nat} (b : UInt8)
    (h : i ≠ j) :
    ofBytes (w.set i b) j = ofBytes w j := by
  unfold ofBytes
  rw [List.getD_eq_getElem?_getD, List.getD_eq_getElem?_getD, List.getElem?_set_ne h]

theorem ofBytes_set_self
    {w : List UInt8} {i : Nat} (b : UInt8)
    (hi : i < w.length) :
    ofBytes (w.set i b) i = b := by
  rw [ofBytes_of_lt (by simpa using hi), List.getElem_set_self]

/-- No complete frame begins another one. -/
theorem WellFormed.eq_of_isPrefix
    (h : WellFormed w)
    (h' : WellFormed w')
    (hpre : w <+: w') :
    w = w' := by
  obtain ⟨extra, rfl⟩ := hpre
  have hlong := h.long
  have hlen := h.length
  have hlen' := h'.length
  have hbyte : ofBytes (w ++ extra) ihm1PosCrcLo = ofBytes w ihm1PosCrcLo := by
    simp only [ihm1StartData, ihm1PosCrcLo] at hlong ⊢
    rw [ofBytes_of_lt (by simp; omega), ofBytes_of_lt (by omega),
      List.getElem_append_left (by omega)]
  rw [hbyte, hlen, List.length_append] at hlen'
  have hnil : extra = [] := List.eq_nil_of_length_eq_zero (by omega)
  rw [hnil, List.append_nil]

/-- No two complete frames differ in one byte. -/
theorem WellFormed.eq_of_set
    {i : Nat} {b : UInt8}
    (h : WellFormed w)
    (hi : i < w.length)
    (h' : WellFormed (w.set i b)) :
    b = w[i] := by
  have hck := h.cksum
  have hck' := h'.cksum
  have hlong := h.long
  simp only [ihm1StartData] at hlong
  rw [List.length_set] at hck'
  by_cases hbody : i < w.length - 2
  · -- The byte is summed, and the checksum bytes are those of `w`.
    rw [ofBytes_set_of_ne w b (by omega), ofBytes_set_of_ne w b (by omega), hck] at hck'
    exact calcCksum16_set_inj (Nat.sub_le _ _) hbody hck'.symm
  · -- The byte is one of the checksum bytes, and the sum is that of `w`.
    have hsum : calcCksum16 (ofBytes (w.set i b)) (w.length - 2) =
        calcCksum16 (ofBytes w) (w.length - 2) :=
      calcCksum16_congr fun j hj => ofBytes_set_of_ne w b (by omega)
    rw [hsum, ← hck] at hck'
    obtain ⟨hhigh, hlow⟩ := checksumBytes_inj hck'
    rw [← ofBytes_of_lt hi]
    by_cases hlast : i = w.length - 1
    · subst hlast
      rwa [ofBytes_set_self b hi] at hhigh
    · have hfirst : i = w.length - 2 := by omega
      subst hfirst
      rwa [ofBytes_set_self b hi] at hlow

/-- An altered frame is no frame. -/
theorem Altered.not_wellFormed
    (h : WellFormed w)
    (halt : Altered w w') :
    ¬ WellFormed w' := by
  intro h'
  cases halt with
  | replaced i b hi hb =>
      exact hb (h.eq_of_set hi h')
  | cut n hpos hn =>
      have heq := h'.eq_of_isPrefix h (List.take_prefix n w)
      have hlen := congrArg List.length heq
      rw [List.length_take] at hlen
      omega
  | prolonged extra hextra =>
      have heq := h.eq_of_isPrefix h' (List.prefix_append w extra)
      exact hextra (List.append_right_eq_self.1 heq.symm)

end Distance

section Detection

/-- The error codes of the tests of `Read_Message`. -/
def messageErrors : Set Int :=
  {errorHeadMessage, errorLenMessage, errorCksum16}

/-- The tests return the length of the message or one of their errors. -/
theorem checkMessage_cases
    (buff : Memory) (len : Nat) :
    checkMessage buff len = len ∨ checkMessage buff len ∈ messageErrors := by
  unfold checkMessage messageErrors
  split
  · exact Or.inr (Or.inl rfl)
  split
  · exact Or.inr (Or.inr (Or.inl rfl))
  simp only
  split
  · exact Or.inr (Or.inr (Or.inr rfl))
  · exact Or.inl rfl

/-- What is no frame is an error. -/
theorem checkMessage_mem_messageErrors
    {w : List UInt8}
    (hpos : 0 < w.length)
    (h : ¬ WellFormed w) :
    checkMessage (ofBytes w) w.length ∈ messageErrors := by
  rcases checkMessage_cases (ofBytes w) w.length with hlen | herr
  · rw [← checkMessage_pos_iff, hlen] at h
    omega
  · exact herr

theorem verdict_of_no_text
    {w : List UInt8}
    (hboot : strstr w bootloaderText = false)
    (hack : strstr w ackText = false) :
    verdict w = checkMessage (ofBytes w) w.length := by
  simp [verdict, hboot, hack]

/-- A message with neither text leaves the two flags alone. -/
theorem received_flags_of_no_text
    {w : List UInt8} (p : SerialPort)
    (hboot : strstr w bootloaderText = false)
    (hack : strstr w ackText = false) :
    (p.received w).bootloaderMode = p.bootloaderMode ∧
      (p.received w).ackReceived = p.ackReceived := by
  simp [SerialPort.received, hboot, hack]

/-- `Read_Message` detects every frame that is altered in one byte, cut short or
prolonged, and then touches neither flag. -/
theorem readMessage_altered
    {w w' : List UInt8} {p : SerialPort}
    (h : WellFormed w)
    (halt : Altered w w')
    (hlen : w'.length < rxBufferSize)
    (hack : strstr w' ackText = false)
    (hboot : strstr w' bootloaderText = false)
    (hclaim : Claimed w' p) :
    (readMessage p).1 ∈ messageErrors ∧
      (readMessage p).2.bootloaderMode = p.bootloaderMode ∧
      (readMessage p).2.ackReceived = p.ackReceived := by
  rw [readMessage_claimed hclaim halt.length_pos hlen, verdict_of_no_text hboot hack]
  exact ⟨checkMessage_mem_messageErrors halt.length_pos (halt.not_wellFormed h),
    received_flags_of_no_text p hboot hack⟩

/-- A polling reply without payload, its command changed on the line. -/
theorem readMessage_altered_command :
    (readMessage
      ((uartEventTask [115, 109, 4, 82, 203, 254] SerialPort.boot).noticed 6)).1 ∈
        messageErrors ∧
      (readMessage
        ((uartEventTask [115, 109, 4, 82, 203, 254] SerialPort.boot).noticed 6)).2.bootloaderMode =
          SerialPort.boot.bootloaderMode ∧
      (readMessage
        ((uartEventTask [115, 109, 4, 82, 203, 254] SerialPort.boot).noticed 6)).2.ackReceived =
          SerialPort.boot.ackReceived :=
  readMessage_altered
    (w := [115, 109, 4, 80, 203, 254])
    (by decide)
    (Altered.replaced 3 82 (by decide) (by decide))
    (by decide) (by decide) (by decide)
    (idle_boot.uartEventTask (w := [115, 109, 4, 82, 203, 254]) (by decide)).noticed.isClaimed

end Detection

end Serial
end AvensysEsp32
