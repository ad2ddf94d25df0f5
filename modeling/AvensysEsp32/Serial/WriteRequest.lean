import AvensysEsp32.Foundation.Footprint
import AvensysEsp32.Serial.RoundTrip

/-!
# The write request and its buffer

`Com_SendRequest_WriteEeprom` fills a buffer of 128 bytes on the stack, and its
guard compares the block only with the size of the EEPROM image.  Here every
byte the request stores is named, so that the buffer and the frame can be
compared: the request is a complete frame, stored inside the buffer, for blocks
of up to 119 bytes and for no larger one.
-/

namespace AvensysEsp32
namespace Serial

open Foundation

/-- `MAX_SERIAL_BUFFER_LENGHT` -/
@[simp] abbrev maxSerialBufferLenght : Nat := 128

/-! ## The buffer of the request -/

/-- `txBuffer` as `Com_SendRequest_WriteEeprom` hands it to `Write_Message`. -/
def writeRequestBuffer (startAddress count : UInt8) (gRDEeprom stack : Memory) : Memory :=
  let txBuffer := requestBuffer stack (UInt8.ofNat irqrCrcLo + count) commandWriteEeprom
  let txBuffer := Function.update txBuffer irqwAddrByteStartEep startAddress
  let txBuffer := Function.update txBuffer irqwAddrNumByteEep count
  memcpy txBuffer irqwStartDataEeprom gRDEeprom startAddress.toNat count.toNat

/-- The six bytes before the data. -/
def writeRequestHead (startAddress count : UInt8) : List UInt8 :=
  [protoStartMsg0, protoStartMsg1, 6 + count, commandWriteEeprom, startAddress, count]

/-- The last lines of `Write_Message`, on the buffer with its head in place. -/
def placeChecksum (buff : Memory) : Memory :=
  let cksum16 := calcCksum16 buff (buff ihm1PosCrcLo).toNat
  let i := (buff ihm1PosCrcLo).toNat
  Function.update (Function.update buff i (lowByte cksum16)) (i + 1) (highByte cksum16)

section Stores

variable (startAddress count : UInt8)

theorem comSendRequestWriteEeprom_of_fits
    (gRDEeprom stack : Memory)
    (hfits : startAddress.toNat + count.toNat ≤ sizeofEeprom) :
    comSendRequestWriteEeprom startAddress count gRDEeprom stack =
      some (writeMessage (writeRequestBuffer startAddress count gRDEeprom stack)) := by
  unfold comSendRequestWriteEeprom writeRequestBuffer
  rw [if_pos hfits]

/-- The buffer shows its head. -/
theorem withHead_writeRequestBuffer_head
    (gRDEeprom stack : Memory) {i : Nat} (hi : i < 6) :
    withHead (writeRequestBuffer startAddress count gRDEeprom stack) i =
      ofBytes (writeRequestHead startAddress count) i := by
  have hout : i ∉ block irqwStartDataEeprom count.toNat := by
    simp only [irqwStartDataEeprom, Set.mem_Ico]
    omega
  unfold withHead writeRequestBuffer
  by_cases h1 : i = ihm1StartMsg1
  · rw [h1, Function.update_self]
    rfl
  by_cases h0 : i = ihm1StartMsg0
  · rw [Function.update_of_ne h1, h0, Function.update_self]
    rfl
  rw [Function.update_of_ne h1, Function.update_of_ne h0, memcpy_outside _ _ _ _ _ hout]
  simp only [ihm1StartMsg0, ihm1StartMsg1] at h0 h1
  interval_cases i <;> first | rfl | exact absurd rfl h0 | exact absurd rfl h1

/-- Behind the head it shows the block of the mirror. -/
theorem withHead_writeRequestBuffer_data
    (gRDEeprom stack : Memory) {i : Nat} (hi : i ∈ block 6 count.toNat) :
    withHead (writeRequestBuffer startAddress count gRDEeprom stack) i =
      gRDEeprom (startAddress.toNat + (i - 6)) := by
  have hlo := hi.1
  unfold withHead writeRequestBuffer
  rw [Function.update_of_ne (by simp only [ihm1StartMsg1]; omega),
    Function.update_of_ne (by simp only [ihm1StartMsg0]; omega),
    memcpy_inside _ _ _ _ _ hi]

/-- Behind the block it shows what the stack held. -/
theorem withHead_writeRequestBuffer_rest
    (gRDEeprom stack : Memory) {i : Nat} (hi : 6 + count.toNat ≤ i) :
    withHead (writeRequestBuffer startAddress count gRDEeprom stack) i = stack i := by
  have hout : i ∉ block irqwStartDataEeprom count.toNat := by
    simp only [irqwStartDataEeprom, Set.mem_Ico]
    omega
  unfold withHead writeRequestBuffer requestBuffer
  rw [Function.update_of_ne (by simp only [ihm1StartMsg1]; omega),
    Function.update_of_ne (by simp only [ihm1StartMsg0]; omega),
    memcpy_outside _ _ _ _ _ hout,
    Function.update_of_ne (by simp only [irqwAddrNumByteEep]; omega),
    Function.update_of_ne (by simp only [irqwAddrByteStartEep]; omega),
    Function.update_of_ne (by simp only [ihm1TypeComand]; omega),
    Function.update_of_ne (by simp only [ihm1PosCrcLo]; omega)]

/-- Head and data are all that is stored before the checksum. -/
theorem hasFootprint_withHead :
    HasFootprint
      (fun gRDEeprom stack => withHead (writeRequestBuffer startAddress count gRDEeprom stack))
      (fun _ => ⟨block startAddress.toNat count.toNat, block 0 (6 + count.toNat)⟩) where
  read := by
    intro src src' heq
    refine ⟨rfl, ?_⟩
    intro dst i hi
    by_cases hhead : i < 6
    · rw [withHead_writeRequestBuffer_head _ _ _ _ hhead,
        withHead_writeRequestBuffer_head _ _ _ _ hhead]
    · have hend := hi.2
      have hdata : i ∈ block 6 count.toNat := ⟨by omega, by omega⟩
      rw [withHead_writeRequestBuffer_data _ _ _ _ hdata,
        withHead_writeRequestBuffer_data _ _ _ _ hdata]
      exact heq ⟨by omega, by omega⟩
  kept := by
    intro src dst i hi
    apply withHead_writeRequestBuffer_rest
    have : ¬ i < 0 + (6 + count.toNat) := fun h => hi ⟨Nat.zero_le i, h⟩
    omega
  stored := by
    intro src dst dst' i hi
    by_cases hhead : i < 6
    · rw [withHead_writeRequestBuffer_head _ _ _ _ hhead,
        withHead_writeRequestBuffer_head _ _ _ _ hhead]
    · have hend := hi.2
      have hdata : i ∈ block 6 count.toNat := ⟨by omega, by omega⟩
      rw [withHead_writeRequestBuffer_data _ _ _ _ hdata,
        withHead_writeRequestBuffer_data _ _ _ _ hdata]

/-- Where `Write_Message` puts the checksum of the request. -/
def writeRequestCrcLo (count : UInt8) : Nat :=
  (6 + count).toNat

theorem writeRequestCrcLo_le :
    writeRequestCrcLo count ≤ 6 + count.toNat := by
  unfold writeRequestCrcLo
  rw [UInt8.toNat_add]
  exact Nat.mod_le _ _

/-- What the request reads of the mirror and stores to its buffer. -/
def writeRequestFootprint (startAddress count : UInt8) : Footprint where
  reads := block startAddress.toNat count.toNat
  stores := block 0 (6 + count.toNat) ∪ block (writeRequestCrcLo count) 2

theorem placeChecksum_outside
    (buff : Memory) {i : Nat} (hi : i ∉ block (buff ihm1PosCrcLo).toNat 2) :
    placeChecksum buff i = buff i := by
  simp only [Set.mem_Ico, not_and, not_lt] at hi
  unfold placeChecksum
  rw [Function.update_of_ne (by rintro rfl; omega), Function.update_of_ne (by rintro rfl; omega)]

/-- The checksum bytes are those of the bytes before them. -/
theorem placeChecksum_congr
    {buff buff' : Memory}
    (hpos : buff ihm1PosCrcLo = buff' ihm1PosCrcLo)
    (h : ∀ i < (buff ihm1PosCrcLo).toNat, buff i = buff' i) :
    Set.EqOn (placeChecksum buff) (placeChecksum buff') (block (buff ihm1PosCrcLo).toNat 2) := by
  intro i hi
  have hck : calcCksum16 buff (buff ihm1PosCrcLo).toNat =
      calcCksum16 buff' (buff ihm1PosCrcLo).toNat :=
    calcCksum16_congr h
  unfold placeChecksum
  rw [← hpos, hck]
  by_cases hlast : i = (buff ihm1PosCrcLo).toNat + 1
  · rw [hlast, Function.update_self, Function.update_self]
  · have hfirst : i = (buff ihm1PosCrcLo).toNat := by
      have hlo := hi.1
      have hhi := hi.2
      omega
    rw [Function.update_of_ne hlast, Function.update_of_ne hlast, hfirst,
      Function.update_self, Function.update_self]

/-- The stores of the whole request, as `Write_Message` leaves the buffer. -/
theorem hasFootprint_writeRequest :
    HasFootprint
      (fun gRDEeprom stack => sealMessage (writeRequestBuffer startAddress count gRDEeprom stack))
      (fun _ => writeRequestFootprint startAddress count) := by
  have hpos : ∀ gRDEeprom stack : Memory,
      withHead (writeRequestBuffer startAddress count gRDEeprom stack) ihm1PosCrcLo = 6 + count :=
    fun gRDEeprom stack =>
      withHead_writeRequestBuffer_head startAddress count gRDEeprom stack (by decide : 2 < 6)
  have hle := writeRequestCrcLo_le count
  refine (hasFootprint_withHead startAddress count).andThen placeChecksum
    (fun _ => block (writeRequestCrcLo count) 2) (fun _ => rfl) ?_ ?_
  · intro gRDEeprom stack i hi
    apply placeChecksum_outside
    rw [hpos]
    exact hi
  · intro gRDEeprom stack stack' heq
    have hbytes := placeChecksum_congr
      ((hpos gRDEeprom stack).trans (hpos gRDEeprom stack').symm)
      (fun i hi => heq ⟨Nat.zero_le i, by
        rw [hpos] at hi
        unfold writeRequestCrcLo at hle
        omega⟩)
    rw [hpos] at hbytes
    exact hbytes

end Stores

/-! ## Requests that are correct frames -/

section Correct

variable {startAddress count : UInt8} {gRDEeprom stack : Memory}

/-- The request is stored inside `txBuffer`, and what is sent is the frame that
carries the block. -/
structure CorrectWriteRequest
    (startAddress count : UInt8) (gRDEeprom stack : Memory) : Prop where
  inside : (writeRequestFootprint startAddress count).stores ⊆ block 0 maxSerialBufferLenght
  sent : comSendRequestWriteEeprom startAddress count gRDEeprom stack =
    some (frameOf ([protoStartMsg0, protoStartMsg1, UInt8.ofNat (6 + count.toNat),
      commandWriteEeprom, startAddress, count] ++
        readBytes gRDEeprom startAddress.toNat count.toNat))
  length : ∀ w, comSendRequestWriteEeprom startAddress count gRDEeprom stack = some w →
    w.length = count.toNat + 8

/-- `Write_Message` never sends more than 127 bytes. -/
theorem length_writeMessage_le
    (buff : Memory) :
    (writeMessage buff).length ≤ 127 := by
  unfold writeMessage messageLength
  rw [length_readBytes]
  exact Nat.and_le_right

/-- An admitted request is what `Write_Message` makes of the buffer, the bytes it
stores there are those of its footprint, and it is a correct frame exactly when
its block leaves room for the head and the checksum in the buffer. -/
theorem correctWriteRequest_iff
    (startAddress count : UInt8) (gRDEeprom stack : Memory)
    (hfits : startAddress.toNat + count.toNat ≤ sizeofEeprom) :
    comSendRequestWriteEeprom startAddress count gRDEeprom stack =
        some (writeMessage (writeRequestBuffer startAddress count gRDEeprom stack)) ∧
      HasFootprint
        (fun gRDEeprom stack =>
          sealMessage (writeRequestBuffer startAddress count gRDEeprom stack))
        (fun _ => writeRequestFootprint startAddress count) ∧
      (CorrectWriteRequest startAddress count gRDEeprom stack ↔ count.toNat ≤ 119) := by
  refine ⟨comSendRequestWriteEeprom_of_fits startAddress count gRDEeprom stack hfits,
    hasFootprint_writeRequest startAddress count, ?_⟩
  constructor
  · intro h
    have hlen := h.length _
      (comSendRequestWriteEeprom_of_fits startAddress count gRDEeprom stack hfits)
    have hmax := length_writeMessage_le
      (writeRequestBuffer startAddress count gRDEeprom stack)
    omega
  · intro hcount
    have hbyte : UInt8.ofNat (6 + count.toNat) = 6 + count := by
      rw [UInt8.ofNat_add, UInt8.ofNat_toNat]
      rfl
    have hsent := comSendRequestWriteEeprom_eq stack gRDEeprom hfits hcount
    rw [← hbyte] at hsent
    refine ⟨?_, hsent, ?_⟩
    · have hle := writeRequestCrcLo_le count
      apply Set.union_subset
      · rw [block_subset_block_iff]
        exact Or.inr ⟨le_refl _, by simp only [maxSerialBufferLenght]; omega⟩
      · rw [block_subset_block_iff]
        exact Or.inr ⟨Nat.zero_le _, by simp only [maxSerialBufferLenght]; omega⟩
    · intro w hw
      rw [hsent] at hw
      cases hw
      simp

/-- The day programme, the longest section, fits. -/
theorem correctWriteRequest_sDayProg :
    CorrectWriteRequest 155 85 (fun _ => 0) (fun _ => 0) :=
  (correctWriteRequest_iff 155 85 (fun _ => 0) (fun _ => 0) (by decide)).2.2.2 (by decide)

/-- A block of 121 bytes passes the guard, and its checksum lies partly behind
the buffer. -/
theorem checksum_behind_txBuffer :
    (0 : UInt8).toNat + (121 : UInt8).toNat ≤ sizeofEeprom ∧
      ¬ CorrectWriteRequest 0 121 (fun _ => 0) (fun _ => 0) := by
  refine ⟨by decide, ?_⟩
  intro h
  have hlast : 128 ∈ (writeRequestFootprint 0 121).stores :=
    Or.inr ⟨by decide, by decide⟩
  have hend := (h.inside hlast).2
  simp at hend

end Correct

end Serial
end AvensysEsp32
