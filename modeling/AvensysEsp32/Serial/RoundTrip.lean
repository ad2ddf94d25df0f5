import AvensysEsp32.Serial.WbmSerial
import Mathlib.Tactic.IntervalCases

/-!
# Frames, and what the receiver makes of the frames the encoder sends

A frame is a body, whose third byte is its own length, and the checksum of
that body.  `Write_Message` sends frames, and `Read_Message` accepts every
frame; but the substring searches that stand before its tests also set
`Ack_Received` or `Bootloader_Mode` on a frame whose bytes happen to spell one
of the two texts.
-/

namespace AvensysEsp32
namespace Serial

open Foundation

/-! ## Frames -/

/-- The frame with the given body. -/
def frameOf (body : List UInt8) : List UInt8 :=
  let cksum16 := calcCksum16 (ofBytes body) body.length
  body ++ [lowByte cksum16, highByte cksum16]

/-- The two checksum bytes of a message carry the checksum. -/
theorem highByte_or_lowByte
    (c : UInt16) :
    (highByte c).toUInt16 <<< 8 ||| (lowByte c).toUInt16 = c := by
  apply UInt16.toNat.inj
  have hc : c.toNat < 65536 := c.toNat_lt
  have hlow : c.toNat % 256 < 2 ^ 8 := by omega
  have hand : c.toNat % 256 &&& 255 = c.toNat % 256 % 256 :=
    Nat.and_two_pow_sub_one_eq_mod (c.toNat % 256) 8
  have hshift : (c.toNat / 256) <<< 8 = c.toNat / 256 * 256 :=
    Nat.shiftLeft_eq _ _
  have hhigh : (highByte c).toUInt16.toNat = c.toNat / 256 := by
    simp [highByte, Nat.shiftRight_eq_div_pow]
    omega
  have hlow' : (lowByte c).toUInt16.toNat = c.toNat % 256 := by
    simp [lowByte, hand]
  have hhigh' : ((highByte c).toUInt16 <<< 8).toNat = (c.toNat / 256) <<< 8 := by
    rw [UInt16.toNat_shiftLeft, hhigh, hshift]
    simp [Nat.shiftLeft_eq]
    omega
  rw [UInt16.toNat_or, hhigh', hlow']
  rw [← Nat.shiftLeft_add_eq_or_of_lt hlow, hshift]
  omega

@[simp] theorem length_frameOf
    (body : List UInt8) :
    (frameOf body).length = body.length + 2 := by
  simp [frameOf]

theorem ofBytes_frameOf
    {body : List UInt8} {i : Nat}
    (hi : i < body.length) :
    ofBytes (frameOf body) i = ofBytes body i := by
  rw [ofBytes_of_lt (by simp; omega), ofBytes_of_lt hi]
  simp [frameOf, hi]

/-- A body that announces its own length makes a complete frame. -/
theorem wellFormed_frameOf
    {body : List UInt8}
    (hhead0 : ofBytes body ihm1StartMsg0 = protoStartMsg0)
    (hhead1 : ofBytes body ihm1StartMsg1 = protoStartMsg1)
    (hlen : (ofBytes body ihm1PosCrcLo).toNat = body.length)
    (hlong : ihm1StartData ≤ body.length) :
    WellFormed (frameOf body) where
  head0 := by
    rw [ofBytes_frameOf (by simp at hlong ⊢; omega), hhead0]
  head1 := by
    rw [ofBytes_frameOf (by simp at hlong ⊢; omega), hhead1]
  length := by
    rw [ofBytes_frameOf (by simp at hlong ⊢; omega), hlen, length_frameOf]
  long := by
    rw [length_frameOf]
    omega
  cksum := by
    have hlo : ofBytes (frameOf body) body.length =
        lowByte (calcCksum16 (ofBytes body) body.length) := by
      rw [ofBytes_of_lt (by simp)]
      simp [frameOf]
    have hhi : ofBytes (frameOf body) (body.length + 1) =
        highByte (calcCksum16 (ofBytes body) body.length) := by
      rw [ofBytes_of_lt (by simp)]
      simp [frameOf]
    have hbody : (frameOf body).length - 2 = body.length := by simp
    have hlast : (frameOf body).length - 1 = body.length + 1 := by simp
    rw [hbody, hlast, hlo, hhi, highByte_or_lowByte]
    exact calcCksum16_congr fun i hi => (ofBytes_frameOf hi).symm

/-! ## The encoder -/

section Encoder

variable (buff : Memory)

/-- `Write_Message` sends the frame whose body is the buffer under its head. -/
theorem writeMessage_eq
    (hhi : (buff ihm1PosCrcLo).toNat ≤ 125) :
    writeMessage buff =
      frameOf (readBytes (withHead buff) 0 (buff ihm1PosCrcLo).toNat) := by
  have hpos : withHead buff ihm1PosCrcLo = buff ihm1PosCrcLo := by
    simp [withHead]
  generalize hn : (buff ihm1PosCrcLo).toNat = n at hhi
  have hmask : (n + 2) &&& 127 = n + 2 := by
    rw [Nat.and_two_pow_sub_one_eq_mod (n + 2) 7]
    omega
  have hck : calcCksum16 (ofBytes (readBytes (withHead buff) 0 n)) n =
      calcCksum16 (withHead buff) n := by
    apply calcCksum16_congr
    intro i hi
    rw [ofBytes_of_lt (by simpa using hi), getElem_readBytes, Nat.zero_add]
  unfold writeMessage messageLength frameOf
  rw [hpos, hn, hmask, length_readBytes, hck]
  unfold sealMessage
  simp only [hpos, hn]
  rw [readBytes_succ, readBytes_succ]
  simp only [Nat.zero_add, Function.update_self]
  rw [Function.update_of_ne (by omega), Function.update_self]
  have hbody : ∀ lo hi : UInt8,
      readBytes (Function.update (Function.update (withHead buff) n lo) (n + 1) hi) 0 n =
        readBytes (withHead buff) 0 n := by
    intro lo hi
    apply readBytes_congr
    intro i hi
    rw [Function.update_of_ne (by omega), Function.update_of_ne (by omega)]
  rw [hbody]
  simp

/-- `Write_Message` sends complete frames. -/
theorem wellFormed_writeMessage
    (hlo : ihm1StartData ≤ (buff ihm1PosCrcLo).toNat)
    (hhi : (buff ihm1PosCrcLo).toNat ≤ 125) :
    WellFormed (writeMessage buff) := by
  rw [writeMessage_eq buff hhi]
  simp only [ihm1StartData] at hlo
  have hget : ∀ i < (buff ihm1PosCrcLo).toNat,
      ofBytes (readBytes (withHead buff) 0 (buff ihm1PosCrcLo).toNat) i =
        withHead buff i := by
    intro i hi
    rw [ofBytes_of_lt (by simpa using hi), getElem_readBytes, Nat.zero_add]
  apply wellFormed_frameOf
  · rw [hget _ (by simp only [ihm1StartMsg0]; omega)]
    simp [withHead]
  · rw [hget _ (by simp only [ihm1StartMsg1]; omega)]
    simp [withHead]
  · rw [hget _ (by simp only [ihm1PosCrcLo] at hlo ⊢; omega), length_readBytes]
    simp [withHead]
  · simpa using hlo

theorem length_writeMessage
    (hhi : (buff ihm1PosCrcLo).toNat ≤ 125) :
    (writeMessage buff).length = (buff ihm1PosCrcLo).toNat + 2 := by
  rw [writeMessage_eq buff hhi]
  simp

end Encoder

/-! ## The requests as frames -/

section Requests

variable (stack : Memory)

theorem comSendRequestReadEeprom_eq
    (startAddress count : UInt8) :
    comSendRequestReadEeprom startAddress count stack =
      frameOf [protoStartMsg0, protoStartMsg1, 6, commandReadEeprom, startAddress, count] := by
  unfold comSendRequestReadEeprom
  rw [writeMessage_eq _ (by simp [requestBuffer])]
  congr 1

theorem comSendRequestDataDebug_eq :
    comSendRequestDataDebug stack =
      frameOf [protoStartMsg0, protoStartMsg1, 6, commandDataDebug, stack 4, stack 5] := by
  unfold comSendRequestDataDebug
  rw [writeMessage_eq _ (by simp [requestBuffer])]
  congr 1

/-- A request is its head, whose third byte announces the length, and the data
copied behind it. -/
theorem writeMessage_copy
    (head : List UInt8) (buff src : Memory) (from_ n : Nat)
    (hhead0 : ofBytes head ihm1StartMsg0 = protoStartMsg0)
    (hhead1 : ofBytes head ihm1StartMsg1 = protoStartMsg1)
    (hrest : ∀ i < head.length, 2 ≤ i → buff i = ofBytes head i)
    (hpos : (ofBytes head ihm1PosCrcLo).toNat = head.length + n)
    (hlong : 2 < head.length) (hhi : head.length + n ≤ 125) :
    writeMessage (memcpy buff head.length src from_ n) =
      frameOf (head ++ readBytes src from_ n) := by
  have hpos' : memcpy buff head.length src from_ n ihm1PosCrcLo = ofBytes head ihm1PosCrcLo := by
    rw [memcpy_outside _ _ _ _ _ (by simp; omega)]
    exact hrest 2 hlong (le_refl 2)
  have hbody : readBytes (withHead (memcpy buff head.length src from_ n)) 0 head.length =
      head := by
    apply List.ext_getElem
    · simp
    · intro i h₁ h₂
      rw [getElem_readBytes, Nat.zero_add, ← ofBytes_of_lt h₂]
      unfold withHead
      by_cases hi1 : i = ihm1StartMsg1
      · rw [hi1, Function.update_self, hhead1]
      · by_cases hi0 : i = ihm1StartMsg0
        · rw [Function.update_of_ne hi1, hi0, Function.update_self, hhead0]
        · rw [Function.update_of_ne hi1, Function.update_of_ne hi0,
            memcpy_outside _ _ _ _ _ (by simp; omega)]
          exact hrest i h₂ (by simp only [ihm1StartMsg0, ihm1StartMsg1] at hi0 hi1; omega)
  have hdata : readBytes (withHead (memcpy buff head.length src from_ n)) head.length n =
      readBytes src from_ n := by
    apply readBytes_congr_shift
    intro i hi
    unfold withHead
    rw [Function.update_of_ne (by simp only [ihm1StartMsg1]; omega),
      Function.update_of_ne (by simp only [ihm1StartMsg0]; omega),
      memcpy_inside _ _ _ _ _ ⟨by omega, by omega⟩]
    congr 1
    omega
  rw [writeMessage_eq _ (by rw [hpos', hpos]; exact hhi), hpos', hpos, readBytes_add,
    Nat.zero_add, hbody, hdata]

theorem comSendRequestPollingBase_eq
    (device : DeviceIdentity) :
    comSendRequestPollingBase device stack =
      frameOf ([protoStartMsg0, protoStartMsg1, UInt8.ofNat (device.serialNumberSize + 5),
        commandPollingBase, device.error] ++ device.serialNumber) := by
  have hfits : device.serialNumberSize ≤ 21 := device.fits
  have hserial : readBytes (ofBytes device.serialNumber) 0 device.serialNumberSize =
      device.serialNumber :=
    readBytes_ofBytes device.serialNumber
  have hlen : (UInt8.ofNat (device.serialNumberSize + 5)).toNat = device.serialNumberSize + 5 :=
    UInt8.toNat_ofNat_of_lt' (by simp only [UInt8.size]; omega)
  have hsend := writeMessage_copy
    [protoStartMsg0, protoStartMsg1, UInt8.ofNat (device.serialNumberSize + 5),
      commandPollingBase, device.error]
    (Function.update
      (requestBuffer stack (UInt8.ofNat (device.serialNumberSize + ihm1StartData + 1))
        commandPollingBase) ihm1StartData device.error)
    (ofBytes device.serialNumber) 0 device.serialNumberSize rfl rfl
    (by
      intro i hi h2
      simp only [List.length_cons, List.length_nil] at hi
      interval_cases i <;> rfl)
    (hlen.trans (Nat.add_comm _ _)) (by simp) (by simp; omega)
  rw [hserial] at hsend
  exact hsend

theorem comSendRequestWriteEeprom_eq
    {startAddress count : UInt8} (gRDEeprom : Memory)
    (hfits : startAddress.toNat + count.toNat ≤ sizeofEeprom)
    (hcount : count.toNat ≤ 119) :
    comSendRequestWriteEeprom startAddress count gRDEeprom stack =
      some (frameOf ([protoStartMsg0, protoStartMsg1, 6 + count, commandWriteEeprom,
        startAddress, count] ++ readBytes gRDEeprom startAddress.toNat count.toNat)) := by
  have hlen : (6 + count).toNat = 6 + count.toNat := by
    rw [UInt8.toNat_add]
    simp
    omega
  unfold comSendRequestWriteEeprom
  rw [if_pos hfits]
  exact congrArg some (writeMessage_copy
    [protoStartMsg0, protoStartMsg1, 6 + count, commandWriteEeprom, startAddress, count]
    (Function.update
      (Function.update (requestBuffer stack (UInt8.ofNat irqrCrcLo + count) commandWriteEeprom)
        irqwAddrByteStartEep startAddress) irqwAddrNumByteEep count)
    gRDEeprom startAddress.toNat count.toNat rfl rfl
    (by
      intro i hi h2
      simp only [List.length_cons, List.length_nil] at hi
      interval_cases i <;> rfl)
    hlen (by simp) (by simp; omega))

end Requests

/-! ## The round trip -/

/-- The receiver with the two flags as given. -/
def SerialPort.withFlags (p : SerialPort) (bootloaderMode ackReceived : Bool) : SerialPort :=
  { p with bootloaderMode := bootloaderMode, ackReceived := ackReceived }

/-- The frame sent for `buff`, received by `p`: announced by the first call of
`Read_Message`, returned whole by the second, the flags left alone. -/
def RoundTrip (buff : Memory) (p : SerialPort) : Prop :=
  let w := writeMessage buff
  let first := readMessage (uartEventTask w p)
  let second := readMessage first.2
  first.1 = runDownload ∧
    second.1 = (buff ihm1PosCrcLo).toNat + 2 ∧
    readBytes second.2.buffSer1 0 rxBufferSize =
      w ++ List.replicate (rxBufferSize - w.length) 0 ∧
    (first.2.bootloaderMode = p.bootloaderMode ∧ first.2.ackReceived = p.ackReceived) ∧
    (second.2.bootloaderMode = p.bootloaderMode ∧ second.2.ackReceived = p.ackReceived)

instance (buff : Memory) (p : SerialPort) : Decidable (RoundTrip buff p) := by
  unfold RoundTrip
  infer_instance

/-- What the two calls do to the flags when the frame of `buff` is received. -/
theorem roundTrip_iff_flags
    (buff : Memory) (p : SerialPort)
    (hlo : ihm1StartData ≤ (buff ihm1PosCrcLo).toNat)
    (hhi : (buff ihm1PosCrcLo).toNat ≤ 125)
    (hidle : Idle p) :
    RoundTrip buff p ↔
      (p.received (writeMessage buff)).bootloaderMode = p.bootloaderMode ∧
        (p.received (writeMessage buff)).ackReceived = p.ackReceived := by
  have hlength := length_writeMessage buff hhi
  have hwf := wellFormed_writeMessage buff hlo hhi
  unfold RoundTrip
  generalize writeMessage buff = w at hlength hwf
  have hw : w.length < rxBufferSize := by
    simp only [rxBufferSize]
    omega
  have harr : Arrived w (uartEventTask w p) :=
    hidle.uartEventTask (Nat.le_of_lt hw)
  have hfirst := readMessage_arrived harr (by omega) (Nat.le_of_lt hw)
  have hsecond := readMessage_holding harr.noticed (by omega) hw
  simp only [hfirst, hsecond]
  rw [verdict_of_wellFormed hwf]
  constructor
  · intro h
    exact h.2.2.2.2
  · intro h
    refine ⟨trivial, by omega, ?_, ⟨rfl, rfl⟩, h⟩
    exact readBytes_downloaded _ (Nat.le_of_lt hw)

/-- For every command and payload and every idle receiver, the frame makes the
round trip without setting a flag exactly when it spells neither text before
its first NUL. -/
theorem roundTrip_iff
    (buff : Memory) (p : SerialPort)
    (hlo : ihm1StartData ≤ (buff ihm1PosCrcLo).toNat)
    (hhi : (buff ihm1PosCrcLo).toNat ≤ 125)
    (hidle : Idle p) :
    (∀ bootloaderMode ackReceived : Bool,
        RoundTrip buff (p.withFlags bootloaderMode ackReceived)) ↔
      let frame := frameOf (readBytes (withHead buff) 0 (buff ihm1PosCrcLo).toNat)
      strstr frame bootloaderText = false ∧ strstr frame ackText = false := by
  have hidle' : ∀ b a, Idle (p.withFlags b a) := fun _ _ =>
    ⟨hidle.nothingReceived, hidle.nothingClaimed, hidle.nothingAnnounced⟩
  simp only [roundTrip_iff_flags buff _ hlo hhi (hidle' _ _),
    ← writeMessage_eq buff hhi]
  generalize writeMessage buff = w
  simp only [SerialPort.received, SerialPort.withFlags]
  constructor
  · intro h
    have := h false false
    simp at this
    cases hb : strstr w bootloaderText <;> simp_all
  · rintro ⟨hb, ha⟩ b a
    simp [hb, ha]

/-- The read request for the first section makes the round trip. -/
theorem roundTrip_readRequest :
    RoundTrip (ofBytes [0, 0, 6, 82, 0, 59]) (SerialPort.boot.withFlags true false) :=
  (roundTrip_iff (ofBytes [0, 0, 6, 82, 0, 59]) SerialPort.boot
    (by decide) (by decide) idle_boot).2 (by decide) true false

/-- A frame with the payload `ACK` is taken for an acknowledgement of the
bootloader: its reception sets `Ack_Received`. -/
theorem ackPayload_not_roundTrip :
    Idle SerialPort.boot ∧
      ¬ RoundTrip (ofBytes [0, 0, 7, 87, 65, 67, 75]) SerialPort.boot := by
  refine ⟨idle_boot, ?_⟩
  rw [roundTrip_iff_flags _ _ (by decide) (by decide) idle_boot]
  decide

end Serial
end AvensysEsp32
