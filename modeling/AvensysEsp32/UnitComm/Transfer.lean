import AvensysEsp32.Foundation.Nibble
import AvensysEsp32.UnitComm.Image

/-!
# The firmware that the bootloader receives

For each acknowledgement sixteen bytes of the file are sent, four words of four
bytes.  The last block is sent in whole words too, so that a file is received as
it is exactly when its length is a multiple of four and not zero: the bytes
after the last whole word are replaced by zero characters, which are no nibbles,
and the transfer of an empty file never ends.
-/

namespace AvensysEsp32
namespace UnitComm

open Foundation Serial

/-! ## Characters -/

theorem decodeNibble_nibbleChar
    (value shift : Nat) :
    decodeNibble (nibbleChar value shift) = some (value / 2 ^ shift % 16) := by
  unfold nibbleChar
  have hand : value >>> shift &&& 0xF = value / 2 ^ shift % 16 := by
    rw [Nat.shiftRight_eq_div_pow]
    exact Nat.and_two_pow_sub_one_eq_mod _ 4
  rw [hand]
  exact decodeNibble_ofNat (Nat.mod_lt _ (by decide))

theorem decodeNibble_lowNibbleChar
    (value : Nat) :
    decodeNibble (lowNibbleChar value) = some (value % 16) := by
  unfold lowNibbleChar
  have hand : value &&& 0xF = value % 16 := Nat.and_two_pow_sub_one_eq_mod _ 4
  rw [hand]
  exact decodeNibble_ofNat (Nat.mod_lt _ (by decide))

theorem decodeNibble_highNibbleChar
    (value : Nat) :
    decodeNibble (highNibbleChar value) = some (value / 16 % 16) := by
  unfold highNibbleChar
  have hand : (value &&& 0xF0) >>> 4 = value / 16 % 16 := by
    rw [Nat.shiftRight_and_distrib, Nat.shiftRight_eq_div_pow]
    exact Nat.and_two_pow_sub_one_eq_mod _ 4
  rw [hand]
  exact decodeNibble_ofNat (Nat.mod_lt _ (by decide))

/-- The six characters of a size below 2²⁴ are its digits. -/
theorem decodeNumber_filesizeChars
    {filesize : Nat} (h : filesize < 2 ^ 24) :
    decodeNumber (filesizeChars filesize) = some filesize := by
  unfold decodeNumber filesizeChars
  rw [decodeNumberFrom_cons (decodeNibble_nibbleChar _ _),
    decodeNumberFrom_cons (decodeNibble_nibbleChar _ _),
    decodeNumberFrom_cons (decodeNibble_nibbleChar _ _),
    decodeNumberFrom_cons (decodeNibble_nibbleChar _ _),
    decodeNumberFrom_cons (decodeNibble_highNibbleChar _),
    decodeNumberFrom_cons (decodeNibble_lowNibbleChar _), decodeNumberFrom_nil]
  congr 1
  omega

/-- The eight characters of a word are its digits. -/
theorem decodeNumber_fileStartChars
    {fileStart : Nat} (h : fileStart < 2 ^ 32) :
    decodeNumber (fileStartChars fileStart) = some fileStart := by
  unfold decodeNumber fileStartChars
  rw [decodeNumberFrom_cons (decodeNibble_nibbleChar _ _),
    decodeNumberFrom_cons (decodeNibble_nibbleChar _ _),
    decodeNumberFrom_cons (decodeNibble_nibbleChar _ _),
    decodeNumberFrom_cons (decodeNibble_nibbleChar _ _),
    decodeNumberFrom_cons (decodeNibble_nibbleChar _ _),
    decodeNumberFrom_cons (decodeNibble_nibbleChar _ _),
    decodeNumberFrom_cons (decodeNibble_highNibbleChar _),
    decodeNumberFrom_cons (decodeNibble_lowNibbleChar _), decodeNumberFrom_nil]
  congr 1
  omega

theorem littleEndianWord_lt (m : Memory) :
    littleEndianWord m < 2 ^ 32 := by
  have h₀ := (m 0).toNat_lt
  have h₁ := (m 1).toNat_lt
  have h₂ := (m 2).toNat_lt
  have h₃ := (m 3).toNat_lt
  unfold littleEndianWord
  omega

/-- The characters of a word are those of its four bytes, last byte first. -/
theorem decodeWords_wordChars
    (tempBuffer : Memory) (index1 : Nat) (chars : List UInt8) :
    decodeWords (wordChars tempBuffer index1 ++ chars) =
      (decodeWords chars).map fun bytes => readBytes tempBuffer (index1 * 4) 4 ++ bytes := by
  have hhigh : ∀ b : UInt8, decodeNibble (highNibbleChar b.toNat) = some (b.toNat / 16) := by
    intro b
    have := b.toNat_lt
    rw [decodeNibble_highNibbleChar]
    congr 1
    omega
  have hlow : ∀ b : UInt8, decodeNibble (lowNibbleChar b.toNat) = some (b.toNat % 16) :=
    fun b => decodeNibble_lowNibbleChar _
  have hword : decodeBytes (wordChars tempBuffer index1) =
      some [tempBuffer (index1 * 4 + 3), tempBuffer (index1 * 4 + 2),
        tempBuffer (index1 * 4 + 1), tempBuffer (index1 * 4)] := by
    unfold wordChars
    rw [decodeBytes_cons (hhigh _) (hlow _), decodeBytes_cons (hhigh _) (hlow _),
      decodeBytes_cons (hhigh _) (hlow _), decodeBytes_cons (hhigh _) (hlow _)]
    rfl
  have hsplit : decodeWords (wordChars tempBuffer index1 ++ chars) =
      (decodeBytes (wordChars tempBuffer index1)).bind fun word =>
        (decodeWords chars).map fun bytes => word.reverse ++ bytes := by
    rfl
  rw [hsplit, hword]
  rfl

/-! ## Blocks -/

/-- The characters of the first words of a buffer. -/
def wordsChars (tempBuffer : Memory) (words : Nat) : List UInt8 :=
  (List.range words).flatMap (wordChars tempBuffer)

theorem wordsChars_succ (tempBuffer : Memory) (words : Nat) :
    wordsChars tempBuffer (words + 1) =
      wordsChars tempBuffer words ++ wordChars tempBuffer words := by
  simp [wordsChars, List.range_succ]

theorem decodeWords_wordsChars
    (tempBuffer : Memory) (words : Nat) (chars : List UInt8) :
    decodeWords (wordsChars tempBuffer words ++ chars) =
      (decodeWords chars).map fun bytes => readBytes tempBuffer 0 (words * 4) ++ bytes := by
  induction words generalizing chars with
  | zero => simp [wordsChars]
  | succ words ih =>
      rw [wordsChars_succ, List.append_assoc, ih, decodeWords_wordChars, Option.map_map,
        Nat.succ_mul, readBytes_add, Nat.zero_add]
      congr 1
      funext bytes
      simp [Function.comp]

/-- What is in `Send_Buffer` after the words: the characters of the words, and
zeros. -/
theorem readBytes_encodeWords
    (tempBuffer sendBuffer : Memory) (words rest : Nat)
    (h : words * 8 + rest ≤ sendBufferSize) :
    readBytes (encodeWords tempBuffer words (memset sendBuffer 0 0 sendBufferSize)) 0
        (words * 8 + rest) =
      wordsChars tempBuffer words ++ List.replicate rest 0 := by
  have hwords : ∀ k ≤ words,
      readBytes (encodeWords tempBuffer words (memset sendBuffer 0 0 sendBufferSize)) 0
        (k * 8) = wordsChars tempBuffer k := by
    intro k
    induction k with
    | zero => exact fun _ => rfl
    | succ k ih =>
        intro hk
        rw [Nat.succ_mul, readBytes_add, ih (by omega), wordsChars_succ, Nat.zero_add]
        congr 1
        apply List.ext_getElem
        · simp
        · intro j h₁ h₂
          rw [getElem_readBytes, encodeWords_inside _ _ hk (by simpa using h₁),
            ofBytes_of_lt h₂]
  have hrest : readBytes
      (encodeWords tempBuffer words (memset sendBuffer 0 0 sendBufferSize)) (words * 8) rest =
        List.replicate rest 0 := by
    apply List.ext_getElem
    · simp
    · intro j h₁ h₂
      have hj : j < rest := by simpa using h₁
      rw [getElem_readBytes, encodeWords_beyond _ _ (by omega),
        memset_inside _ _ _ ⟨Nat.zero_le _, by omega⟩, List.getElem_replicate]
  rw [readBytes_add, hwords words le_rfl, Nat.zero_add, hrest]

/-- The characters that are sent for a block: its whole words, and two zeros
for each byte after them. -/
def blockChars (block : List UInt8) : List UInt8 :=
  wordsChars (ofBytes block) (block.length / 4) ++ List.replicate (2 * (block.length % 4)) 0

/-- The block of the file that is sent for an acknowledgement. -/
def blockOf (content : List UInt8) (k : Nat) : List UInt8 :=
  (content.drop (16 * k)).take 16

theorem length_blockOf (content : List UInt8) (k : Nat) :
    (blockOf content k).length = min 16 (content.length - 16 * k) := by
  simp [blockOf]

/-- The characters of a block depend on its own bytes only. -/
theorem wordsChars_store
    (tempBuffer : Memory) {block : List UInt8} {words : Nat}
    (h : words * 4 ≤ block.length) :
    wordsChars (store tempBuffer 0 block) words = wordsChars (ofBytes block) words := by
  have hbyte : ∀ i < block.length, store tempBuffer 0 block i = ofBytes block i := by
    intro i hi
    unfold store
    rw [memcpy_inside _ _ _ _ _ ⟨Nat.zero_le _, by omega⟩]
    simp
  unfold wordsChars
  apply List.flatMap_congr
  intro k hk
  have hk' := List.mem_range.mp hk
  unfold wordChars
  rw [hbyte (k * 4 + 3) (by omega), hbyte (k * 4 + 2) (by omega), hbyte (k * 4 + 1) (by omega),
    hbyte (k * 4) (by omega)]

/-- Whole words are received as they are. -/
theorem decodeWords_blockChars
    {block : List UInt8} (h : 4 ∣ block.length) (chars : List UInt8) :
    decodeWords (blockChars block ++ chars) =
      (decodeWords chars).map fun bytes => block ++ bytes := by
  unfold blockChars
  rw [Nat.mod_eq_zero_of_dvd h, Nat.mul_zero, List.replicate_zero, List.append_nil,
    decodeWords_wordsChars, Nat.div_mul_cancel h, readBytes_ofBytes]

/-- Bytes after the last whole word are not received. -/
theorem decodeWords_blockChars_of_not_dvd
    {block : List UInt8} (h : ¬ 4 ∣ block.length) :
    decodeWords (blockChars block) = none := by
  unfold blockChars
  have hrest : 0 < block.length % 4 := by omega
  rw [decodeWords_wordsChars, decodeWords_zeros hrest (Nat.mod_lt _ (by decide))]
  rfl

/-- What has been sent after `k` acknowledgements. -/
def dataWrites (content : List UInt8) (k : Nat) : List (List UInt8) :=
  (List.range k).map fun i => blockChars (blockOf content i)

theorem dataWrites_succ (content : List UInt8) (k : Nat) :
    dataWrites content (k + 1) = dataWrites content k ++ [blockChars (blockOf content k)] := by
  simp [dataWrites, List.range_succ]

/-- The blocks before the last are received as they are. -/
theorem decodeWords_dataWrites
    (content : List UInt8) {k : Nat} (h : 16 * k ≤ content.length) (chars : List UInt8) :
    decodeWords ((dataWrites content k).flatten ++ chars) =
      (decodeWords chars).map fun bytes => content.take (16 * k) ++ bytes := by
  induction k generalizing chars with
  | zero => simp [dataWrites]
  | succ k ih =>
      have hlength : (blockOf content k).length = 16 := by
        rw [length_blockOf]
        omega
      have htake : content.take (16 * (k + 1)) =
          content.take (16 * k) ++ blockOf content k := by
        unfold blockOf
        rw [Nat.mul_succ, List.take_add]
      rw [dataWrites_succ, List.flatten_append, List.append_assoc, ih (by omega)]
      rw [List.flatten_singleton, decodeWords_blockChars (by rw [hlength]; decide),
        Option.map_map, htake]
      congr 1
      funext bytes
      simp [Function.comp]

/-- The file is received as it is exactly when its length is a multiple of four. -/
theorem decodeWords_dataWrites_iff
    {content : List UInt8} (hpos : 0 < content.length) :
    decodeWords (dataWrites content ((content.length + 15) / 16)).flatten = some content ↔
      4 ∣ content.length := by
  obtain ⟨k, hk⟩ : ∃ k, (content.length + 15) / 16 = k + 1 :=
    Nat.exists_eq_succ_of_ne_zero (by omega)
  have hlast : (blockOf content k).length = content.length - 16 * k := by
    rw [length_blockOf]
    omega
  rw [hk, dataWrites_succ, List.flatten_append, List.flatten_singleton,
    decodeWords_dataWrites content (by omega)]
  by_cases hdvd : 4 ∣ content.length
  · have hblock : 4 ∣ (blockOf content k).length := by
      rw [hlast]
      omega
    have hnil := decodeWords_blockChars hblock []
    rw [List.append_nil] at hnil
    have hall : blockOf content k = content.drop (16 * k) := by
      apply List.take_of_length_le
      rw [List.length_drop]
      omega
    have hwhole : content.take (16 * k) ++ blockOf content k = content := by
      rw [hall, List.take_append_drop]
    rw [hnil]
    have hempty : decodeWords [] = some [] := rfl
    rw [hempty]
    simp [hwhole, hdvd]
  · have hblock : ¬ 4 ∣ (blockOf content k).length := by
      rw [hlast]
      omega
    rw [decodeWords_blockChars_of_not_dvd hblock]
    simp [hdvd]

/-! ## The header -/

/-- The size and the first word that a header announces. -/
def decodeHeader (header : List UInt8) : Option (Nat × Nat) :=
  (decodeNumber (header.take 6)).bind fun size =>
    (decodeNumber (header.drop 6)).map fun word => (size, word)

/-- The first little-endian word of a file. -/
def firstWord (content : List UInt8) : Nat :=
  littleEndianWord (ofBytes content)

/-- A message that announces the file, if it has a first word. -/
def Announces (content header : List UInt8) : Prop :=
  4 ≤ content.length → decodeHeader header = some (content.length, firstWord content)

/-- The word that is read from the beginning of a file. -/
theorem littleEndianWord_store
    {content : List UInt8} (fileStart : Memory) (hlong : 4 ≤ content.length) :
    littleEndianWord (store fileStart 0 (content.take 4)) = firstWord content := by
  have hbyte : ∀ i < 4, store fileStart 0 (content.take 4) i = ofBytes content i := by
    intro i hi
    have htake : i < (content.take 4).length := by
      rw [List.length_take]
      omega
    unfold store
    rw [memcpy_inside _ _ _ _ _ ⟨Nat.zero_le _, by omega⟩, Nat.sub_zero, Nat.zero_add,
      ofBytes_of_lt htake, ofBytes_of_lt (by omega), List.getElem_take]
  unfold firstWord littleEndianWord
  rw [hbyte 0 (by decide), hbyte 1 (by decide), hbyte 2 (by decide), hbyte 3 (by decide)]

/-- The header that `Bootloader_State` sends. -/
theorem announces_header
    {content : List UInt8} (hlen : content.length < 2 ^ 24) (sendBuffer fileStart : Memory) :
    Announces content
      (readBytes
        (store (store sendBuffer 0 (filesizeChars content.length)) 6
          (fileStartChars (littleEndianWord (store fileStart 0 (content.take 4))))) 0 14) := by
  intro hlong
  have hword := littleEndianWord_store fileStart hlong
  rw [hword]
  have hchars : readBytes (store (store sendBuffer 0 (filesizeChars content.length)) 6
      (fileStartChars (firstWord content))) 0 14 =
        filesizeChars content.length ++ fileStartChars (firstWord content) := by
    rfl
  have hheader : decodeHeader (filesizeChars content.length ++ fileStartChars (firstWord content)) =
      (decodeNumber (filesizeChars content.length)).bind fun size =>
        (decodeNumber (fileStartChars (firstWord content))).map fun word => (size, word) := by
    rfl
  have hstart : decodeNumber (fileStartChars (firstWord content)) = some (firstWord content) :=
    decodeNumber_fileStartChars (littleEndianWord_lt _)
  rw [hchars, hheader, decodeNumber_filesizeChars hlen, hstart]
  rfl

/-! ## Runs of the transfer -/

/-- `fseek` finds the end of the open file, and the file stays as it is. -/
def FirmwareKept (e : Event) (_ : UnitState) : Prop :=
  match e with
  | .iterate inp => inp.fseekOk = true
  | .firmwareStored _ => False
  | _ => True

/-- The event answers an acknowledgement of the bootloader with a block. -/
def acknowledged (e : Event) (s : UnitState) : Bool :=
  match e with
  | .iterate _ =>
      s.wbmComState = .wbmCommunicating ∧ s.currentState = .bootloaderState1 ∧
        (readMessage s.port).2.ackReceived = true
  | _ => false

/-- How many acknowledgements are answered in a run. -/
def acks : List Event → UnitState → Nat
  | [], _ => 0
  | e :: es, s => (acknowledged e s).toNat + acks es (step e s)

/-- How far a transfer has come. -/
inductive Stage (content : List UInt8) (base : List (List UInt8)) (k : Nat) (s : UnitState) : Prop
  | waiting
      (state : s.currentState = .bootloaderState)
      (transfered : s.transfer.bytesTransfered = 0)
      (writes : uartWrites s.outputs = base)
      (acks : k = 0)
  | empty
      (state : s.currentState = .bootloaderState1)
      (transfered : s.transfer.bytesTransfered = 0)
      (filesize : s.transfer.filesize = 0)
      (length : content.length = 0)
  | sending (header : List UInt8)
      (state : s.currentState = .bootloaderState1)
      (transfered : s.transfer.bytesTransfered = (16 * k : Nat))
      (filesize : s.transfer.filesize = content.length)
      (position : s.transfer.f = some (16 * k))
      (more : 16 * k < content.length)
      (announced : Announces content header)
      (writes : uartWrites s.outputs = base ++ header :: dataWrites content k)
  | ended (header : List UInt8)
      (state : s.currentState = .bootloaderStateEnd)
      (closed : s.transfer.f = none)
      (pos : 0 < content.length)
      (acks : k = (content.length + 15) / 16)
      (announced : Announces content header)
      (writes : uartWrites s.outputs = base ++ header :: dataWrites content k)

/-- A transfer of the stored file in progress. -/
structure Transferring
    (content : List UInt8) (base : List (List UInt8)) (k : Nat) (s : UnitState) : Prop where
  communicating : s.wbmComState = .wbmCommunicating
  stored : s.firmwareBin = some content
  stage : Stage content base k s

section Runs

variable {content : List UInt8} {base : List (List UInt8)} {k : Nat} {s s' : UnitState}

/-- What a step has to leave alone when it is not one of the transfer's. -/
theorem Transferring.of_same
    (h : Transferring content base k s)
    (hwbm : s'.wbmComState = s.wbmComState) (hstate : s'.currentState = s.currentState)
    (hstored : s'.firmwareBin = s.firmwareBin) (htransfer : s'.transfer = s.transfer)
    (hwrites : uartWrites s'.outputs = uartWrites s.outputs) :
    Transferring content base k s' := by
  refine ⟨hwbm.trans h.communicating, hstored.trans h.stored, ?_⟩
  cases h.stage with
  | waiting state transfered writes acks =>
      exact .waiting (hstate.trans state) (htransfer ▸ transfered) (hwrites.trans writes) acks
  | empty state transfered filesize length =>
      exact .empty (hstate.trans state) (htransfer ▸ transfered) (htransfer ▸ filesize) length
  | sending header state transfered filesize position more announced writes =>
      exact .sending header (hstate.trans state) (htransfer ▸ transfered) (htransfer ▸ filesize)
        (htransfer ▸ position) more announced (hwrites.trans writes)
  | ended header state closed pos acks announced writes =>
      exact .ended header (hstate.trans state) (htransfer ▸ closed) pos acks announced
        (hwrites.trans writes)

/-- A client's write has nothing to do with the firmware. -/
theorem clientWrite_firmware
    (w : ClientWrite) (s : UnitState) :
    (clientWrite w s).firmwareBin = s.firmwareBin ∧
      (clientWrite w s).transfer = s.transfer := by
  unfold clientWrite
  split
  · split
    · exact ⟨rfl, rfl⟩
    · exact ⟨rfl, rfl⟩
  · split
    · exact ⟨rfl, rfl⟩
    · exact ⟨rfl, rfl⟩

/-- A block that is not the last. -/
theorem sendBlock_more
    (hfile : s.firmwareBin = some content) (hsize : s.transfer.filesize = content.length)
    (hbytes : s.transfer.bytesTransfered = (16 * k : Nat))
    (hposition : s.transfer.f = some (16 * k))
    (hmore : 16 * (k + 1) < content.length) :
    (sendBlock s).transfer.f = some (16 * (k + 1)) ∧
      (sendBlock s).transfer.bytesTransfered = (16 * (k + 1) : Nat) ∧
      (sendBlock s).transfer.filesize = content.length ∧
      (sendBlock s).currentState = s.currentState ∧
      (sendBlock s).wbmComState = s.wbmComState ∧
      (sendBlock s).firmwareBin = s.firmwareBin ∧
      Sends [blockChars (blockOf content k)] s (sendBlock s) := by
  have hremaining : s.transfer.filesize - s.transfer.bytesTransfered > 16 := by
    rw [hsize, hbytes]
    omega
  have hlength : (blockOf content k).length = 16 := by
    rw [length_blockOf]
    omega
  have hread : fread 16 s = (blockOf content k, some (16 * (k + 1))) := by
    unfold fread
    rw [hposition, hfile]
    show (blockOf content k, some (16 * k + (blockOf content k).length)) = _
    rw [hlength]
    rfl
  have hchars : ∀ m m' : Memory,
      readBytes (encodeWords (store m 0 (blockOf content k)) 4 (memset m' 0 0 sendBufferSize)) 0
        32 = blockChars (blockOf content k) := by
    intro m m'
    have hsent := readBytes_encodeWords (store m 0 (blockOf content k)) m' 4 0 (by decide)
    rw [wordsChars_store m (by rw [hlength])] at hsent
    unfold blockChars
    rw [hlength]
    exact hsent
  unfold sendBlock
  dsimp only
  rw [if_pos hremaining, hread]
  refine ⟨rfl, ?_, hsize, rfl, rfl, rfl, ?_⟩
  · dsimp only [UnitState.emit]
    rw [hbytes]
    omega
  · rw [hchars]
    exact sends_emit_uartWrite _ _

/-- The last block. -/
theorem sendBlock_last
    (hfile : s.firmwareBin = some content) (hsize : s.transfer.filesize = content.length)
    (hbytes : s.transfer.bytesTransfered = (16 * k : Nat))
    (hposition : s.transfer.f = some (16 * k))
    (hmore : 16 * k < content.length) (hlast : content.length ≤ 16 * (k + 1)) :
    (sendBlock s).transfer.f = none ∧
      (sendBlock s).currentState = .bootloaderStateEnd ∧
      (sendBlock s).wbmComState = s.wbmComState ∧
      (sendBlock s).firmwareBin = s.firmwareBin ∧
      Sends [blockChars (blockOf content k)] s (sendBlock s) := by
  have hremaining : s.transfer.filesize - s.transfer.bytesTransfered =
      ((content.length - 16 * k : Nat) : Int) := by
    rw [hsize, hbytes]
    omega
  have hlength : (blockOf content k).length = content.length - 16 * k := by
    rw [length_blockOf]
    omega
  obtain ⟨r, hr⟩ : ∃ r, content.length - 16 * k = r := ⟨_, rfl⟩
  rw [hr] at hremaining hlength
  have hread : (fread r s).1 = blockOf content k := by
    unfold fread
    rw [hposition, hfile]
    dsimp only
    unfold blockOf
    rw [List.take_of_length_le (by rw [List.length_drop]; omega),
      List.take_of_length_le (by rw [List.length_drop]; omega)]
  have hchars : ∀ m m' : Memory,
      readBytes (encodeWords (store m 0 (blockOf content k)) (r / 4)
        (memset m' 0 0 sendBufferSize)) 0 (r * 2) = blockChars (blockOf content k) := by
    intro m m'
    have hsent := readBytes_encodeWords (store m 0 (blockOf content k)) m' (r / 4) (2 * (r % 4))
      (by simp only [sendBufferSize]; omega)
    rw [wordsChars_store m (by rw [hlength]; omega)] at hsent
    unfold blockChars
    rw [hlength, ← hsent]
    congr 1
    omega
  unfold sendBlock
  dsimp only
  rw [hremaining, if_neg (by omega), if_pos (by omega), Int.toNat_natCast, hread]
  refine ⟨rfl, rfl, rfl, rfl, ?_⟩
  rw [hchars]
  exact Sends.of_silent (sends_of_outputs_eq rfl) (sends_emitAll _ [.uartWrite _, _])

/-- `Bootloader_State` waits for the update task, or announces the file. -/
theorem transferring_bootloaderState
    {inp : IterationInput} (hseek : inp.fseekOk = true) (hlen : content.length < 2 ^ 24)
    (h : Transferring content base 0 s)
    (hbytes : s.transfer.bytesTransfered = 0) (hbase : uartWrites s.outputs = base) :
    Transferring content base 0 (bootloaderState inp s) := by
  unfold bootloaderState
  split
  · exact h
  · dsimp only
    rw [h.stored]
    dsimp only
    refine ⟨h.communicating, rfl, ?_⟩
    obtain ⟨header, hheader⟩ : ∃ header, header =
        readBytes (store (store (memset s.transfer.sendBuffer 0 0 sendBufferSize) 0
          (filesizeChars content.length)) 6 (fileStartChars (littleEndianWord
            (store s.transfer.fileStart 0 (content.take 4))))) 0 14 := ⟨_, rfl⟩
    have hannounced : Announces content header :=
      hheader ▸ announces_header hlen _ s.transfer.fileStart
    by_cases hempty : content.length = 0
    · exact .empty rfl hbytes (by dsimp only [UnitState.emit]; rw [hempty]; rfl) hempty
    · refine .sending header rfl hbytes rfl rfl (by omega) hannounced ?_
      rw [← hheader]
      have hsend := sends_emit_uartWrite
        { s with
          bootloaderStateFlag := true
          firmwareBin := some content
          transfer :=
            { s.transfer with
              f := some 0
              filesize := content.length
              fileStart := store s.transfer.fileStart 0 (content.take 4)
              sendBuffer := store (store (memset s.transfer.sendBuffer 0 0 sendBufferSize) 0
                (filesizeChars content.length)) 6 (fileStartChars (littleEndianWord
                  (store s.transfer.fileStart 0 (content.take 4)))) }
          currentState := .bootloaderState1 } header
      rw [← hbase]
      exact hsend

/-- A call of `Read_Message` in `Bootloader_State1` is answered with a block
when it leaves an acknowledgement. -/
theorem transferring_bootloaderState1
    (h : Transferring content base k s) (hstate : s.currentState = .bootloaderState1) :
    Transferring content base (k + ((readMessage s.port).2.ackReceived).toNat)
      (bootloaderState1 s) := by
  have hread : Transferring content base k
      { s with valRet := (readMessage s.port).1, port := (readMessage s.port).2 } :=
    h.of_same rfl rfl rfl rfl rfl
  unfold bootloaderState1
  dsimp only
  cases hack : (readMessage s.port).2.ackReceived with
  | false => exact hread
  | true =>
      rw [if_pos rfl]
      have hcleared : Transferring content base k
          { s with
            valRet := (readMessage s.port).1
            port := { (readMessage s.port).2 with ackReceived := false } } :=
        h.of_same rfl rfl rfl rfl rfl
      generalize hs : { s with
        valRet := (readMessage s.port).1
        port := { (readMessage s.port).2 with ackReceived := false } } = s' at hcleared ⊢
      have hstate' : s'.currentState = .bootloaderState1 := by
        rw [← hs]
        exact hstate
      cases hcleared.stage with
      | waiting state => rw [hstate'] at state; cases state
      | ended _ state => rw [hstate'] at state; cases state
      | empty state transfered filesize length =>
          have hzero : s'.transfer.filesize - s'.transfer.bytesTransfered = 0 := by
            rw [filesize, transfered]
            rfl
          have hsend : sendBlock s' =
              { s' with
                transfer :=
                  { s'.transfer with
                    sendBuffer := memset s'.transfer.sendBuffer 0 0 sendBufferSize } } := by
            unfold sendBlock
            dsimp only
            rw [hzero, if_neg (by decide), if_neg (by decide)]
          rw [hsend]
          exact ⟨hcleared.communicating, hcleared.stored, .empty state transfered filesize length⟩
      | sending header state transfered filesize position more announced writes =>
          by_cases hmore : 16 * (k + 1) < content.length
          · obtain ⟨hf, hb, hsize, hsame, hwbm, hfile, hsend⟩ :=
              sendBlock_more hcleared.stored filesize transfered position hmore
            refine ⟨hwbm.trans hcleared.communicating, hfile.trans hcleared.stored,
              .sending header (hsame.trans state) hb hsize hf hmore announced ?_⟩
            rw [hsend, writes, Bool.toNat_true, dataWrites_succ, List.append_assoc]
            rfl
          · obtain ⟨hf, hend, hwbm, hfile, hsend⟩ :=
              sendBlock_last hcleared.stored filesize transfered position more (by omega)
            refine ⟨hwbm.trans hcleared.communicating, hfile.trans hcleared.stored,
              .ended header hend hf (by omega) ?_ announced ?_⟩
            · rw [Bool.toNat_true]
              omega
            · rw [hsend, writes, Bool.toNat_true, dataWrites_succ, List.append_assoc]
              rfl

/-- One step of a transfer. -/
theorem transferring_step
    (hlen : content.length < 2 ^ 24)
    (e : Event) (h : Transferring content base k s) (he : FirmwareKept e s) :
    Transferring content base (k + (acknowledged e s).toNat) (step e s) := by
  cases e with
  | uartData data => exact h.of_same rfl rfl rfl rfl rfl
  | mqttReady ready => exact h.of_same rfl rfl rfl rfl rfl
  | unitUpdateTask running => exact h.of_same rfl rfl rfl rfl rfl
  | firmwareStored content' => exact he.elim
  | clientWrite w =>
      have hsame := sameButImage_clientWrite w s
      have haside := clientWrite_firmware w s
      have hwrites : uartWrites (clientWrite w s).outputs = uartWrites s.outputs := by
        have hsend := sends_clientWrite s w
        rwa [Sends, List.append_nil] at hsend
      exact h.of_same hsame.wbmComState hsame.currentState haside.1 haside.2 hwrites
  | iterate inp =>
      have hstep : step (.iterate inp) s = connectToUnit inp s := by
        simp only [step, unitEventTask, h.communicating]
      have hwaits : s.currentState ≠ .bootloaderState1 →
          acknowledged (.iterate inp) s = false := by
        intro hne
        simp [acknowledged, hne]
      have hsending : s.currentState = .bootloaderState1 →
          Transferring content base (k + (acknowledged (.iterate inp) s).toNat)
            (step (.iterate inp) s) := by
        intro hstate
        have hacked : acknowledged (.iterate inp) s = (readMessage s.port).2.ackReceived := by
          simp [acknowledged, h.communicating, hstate]
        have hconnect : connectToUnit inp s = bootloaderState1 s := by
          simp only [connectToUnit, hstate]
        rw [hstep, hconnect, hacked]
        exact transferring_bootloaderState1 h hstate
      cases h.stage with
      | waiting state transfered writes acks =>
          subst acks
          rw [hwaits (by rw [state]; decide), hstep]
          have hconnect : connectToUnit inp s = bootloaderState inp s := by
            simp only [connectToUnit, state]
          rw [hconnect]
          exact transferring_bootloaderState he hlen h transfered writes
      | empty state => exact hsending state
      | sending _ state => exact hsending state
      | ended header state closed pos acks announced writes =>
          have hconnect : connectToUnit inp s = s := by
            simp only [connectToUnit, state]
          rw [hwaits (by rw [state]; decide), hstep, hconnect]
          exact h

/-- A run of a transfer. -/
theorem transferring_run
    (hlen : content.length < 2 ^ 24)
    {es : List Event} (hes : Along step FirmwareKept es s)
    (h : Transferring content base k s) :
    Transferring content base (k + acks es s) (run step es s) := by
  induction es generalizing s k with
  | nil => exact h
  | cons e es ih =>
      have hnext := ih hes.2 (transferring_step hlen e h hes.1)
      rw [acks, ← Nat.add_assoc]
      exact hnext

end Runs

/-! ## Before the transfer -/

/-- Nothing has been sent of a file before the transfer begins. -/
structure Untransfered (s : UnitState) : Prop where
  starting : s.wbmComState = .wbmInitialize → s.transfer.bytesTransfered = 0
  connecting :
    s.wbmComState = .wbmCommunicating →
      s.currentState ≠ .bootloaderState1 → s.currentState ≠ .bootloaderStateEnd →
        s.transfer.bytesTransfered = 0

theorem bootloaderState_bytesTransfered
    (inp : IterationInput) (s : UnitState) :
    (bootloaderState inp s).transfer.bytesTransfered = s.transfer.bytesTransfered := by
  unfold bootloaderState
  split
  · rfl
  · dsimp only
    split
    · rfl
    · split
      · rfl
      · rfl

/-- `Bootloader_State1` is left for the end only. -/
theorem bootloaderState1_currentState
    {s : UnitState} (h : s.currentState = .bootloaderState1) :
    (bootloaderState1 s).currentState = .bootloaderState1 ∨
      (bootloaderState1 s).currentState = .bootloaderStateEnd := by
  have hcase := bootloaderState1_case s
  generalize bootloaderState1 s = s' at hcase ⊢
  cases hcase with
  | waiting _ => exact Or.inl h
  | acknowledged _ transfer next hnext outputs _ => exact hnext.imp_left fun hsame => hsame.trans h

/-- An iteration of the handshake, or of the transfer, in which nothing has been
sent before it begins. -/
theorem connectToUnit_untransfered
    (inp : IterationInput) {s : UnitState}
    (h : s.currentState ≠ .bootloaderState1 → s.currentState ≠ .bootloaderStateEnd →
      s.transfer.bytesTransfered = 0)
    (h₁ : (connectToUnit inp s).currentState ≠ .bootloaderState1)
    (h₂ : (connectToUnit inp s).currentState ≠ .bootloaderStateEnd) :
    (connectToUnit inp s).transfer.bytesTransfered = 0 := by
  by_cases hstate1 : s.currentState = .bootloaderState1
  · have hconnect : connectToUnit inp s = bootloaderState1 s := by
      simp only [connectToUnit, hstate1]
    rw [hconnect] at h₁ h₂
    rcases bootloaderState1_currentState hstate1 with hafter | hafter
    · exact absurd hafter h₁
    · exact absurd hafter h₂
  by_cases hend : s.currentState = .bootloaderStateEnd
  · have hconnect : connectToUnit inp s = s := by
      simp only [connectToUnit, hend]
    rw [hconnect] at h₂
    exact absurd hend h₂
  have hzero := h hstate1 hend
  by_cases hstate : s.currentState = .bootloaderState
  · simp only [connectToUnit, hstate]
    rw [bootloaderState_bytesTransfered]
    exact hzero
  by_cases hconnected : s.currentState = .connected
  · simp only [connectToUnit, hconnected]
    rw [connected_transfer]
    exact hzero
  rw [(sameAside_connectToUnit inp s hconnected hstate hstate1).transfer]
  exact hzero

theorem untransfered_step
    (e : Event) (s : UnitState) (h : Untransfered s) :
    Untransfered (step e s) := by
  have hsame : ∀ s', s'.wbmComState = s.wbmComState → s'.currentState = s.currentState →
      s'.transfer = s.transfer → Untransfered s' := by
    intro s' hwbm hstate htransfer
    refine ⟨fun hinit => ?_, fun hcomm h₁ h₂ => ?_⟩
    · rw [htransfer]
      exact h.starting (hwbm ▸ hinit)
    · rw [htransfer]
      exact h.connecting (hwbm ▸ hcomm) (hstate ▸ h₁) (hstate ▸ h₂)
  cases e with
  | uartData data => exact hsame _ rfl rfl rfl
  | mqttReady ready => exact hsame _ rfl rfl rfl
  | unitUpdateTask running => exact hsame _ rfl rfl rfl
  | firmwareStored content => exact hsame _ rfl rfl rfl
  | clientWrite w =>
      have hbut := sameButImage_clientWrite w s
      exact hsame _ hbut.wbmComState hbut.currentState (clientWrite_firmware w s).2
  | iterate inp =>
      have hstep : step (.iterate inp) s = unitEventTask inp s := rfl
      rw [hstep]
      refine ⟨fun hinit => absurd hinit (unitEventTask_ne_initial inp s),
        fun hcomm h₁ h₂ => ?_⟩
      rcases wbmComState_before inp (Or.inr hcomm) with hwbm | hwbm
      · have hzero := h.starting hwbm
        simp only [unitEventTask, hwbm]
        exact hzero
      · simp only [unitEventTask, hwbm] at h₁ h₂ ⊢
        exact connectToUnit_untransfered inp (h.connecting hwbm) h₁ h₂

/-! ## The transfer of a file -/

/-- Between the two states the file is announced and sent as it is, and closed. -/
structure Reproduces (content : List UInt8) (s s' : UnitState) : Prop where
  sent :
    ∃ header data, Sends (header :: data) s s' ∧
      decodeHeader header = some (content.length, firstWord content) ∧
      decodeWords data.flatten = some content
  ended : s'.currentState = .bootloaderStateEnd
  closed : s'.transfer.f = none

/-- Announced and acknowledged often enough, a file is received as it is exactly
when its length is a multiple of four and not zero. -/
theorem Transferring.reproduces_iff
    {content : List UInt8} {s : UnitState} {during : List Event}
    (hlen : content.length < 2 ^ 24)
    (h : Transferring content (uartWrites s.outputs) 0 s)
    (hkept : Along step FirmwareKept during s)
    (hannounced : (run step during s).currentState ≠ .bootloaderState)
    (hacks : (content.length + 15) / 16 ≤ acks during s) :
    Reproduces content s (run step during s) ↔ 0 < content.length ∧ 4 ∣ content.length := by
  have hrun := transferring_run hlen hkept h
  rw [Nat.zero_add] at hrun
  cases hrun.stage with
  | waiting state => exact absurd state hannounced
  | empty state _ _ length =>
      constructor
      · intro h
        have hend := h.ended
        rw [state] at hend
        cases hend
      · rintro ⟨hpos, -⟩
        omega
  | sending header state _ _ _ more =>
      exfalso
      omega
  | ended header state closed pos hcount announced writes =>
      have hsends : Sends (header :: dataWrites content (acks during s)) s (run step during s) :=
        writes
      rw [hcount] at hsends
      have hiff := decodeWords_dataWrites_iff pos
      constructor
      · rintro ⟨⟨header', data, hsends', -, hdata⟩, -, -⟩
        have hsame : header :: dataWrites content ((content.length + 15) / 16) =
            header' :: data := by
          have hboth := hsends.symm.trans hsends'
          exact List.append_cancel_left hboth
        have htail : dataWrites content ((content.length + 15) / 16) = data :=
          (List.cons.inj hsame).2
        rw [← htail] at hdata
        exact ⟨pos, hiff.mp hdata⟩
      · rintro ⟨-, hdvd⟩
        have hlong : 4 ≤ content.length := Nat.le_of_dvd pos hdvd
        exact ⟨⟨header, _, hsends, announced hlong, hiff.mpr hdvd⟩, state, closed⟩

section Boot

variable (device : DeviceIdentity) (firmwareBin : Option (List UInt8)) (partitionState : Bool)
variable (millis : UInt32)

/-- A state of the gateway after any events. -/
def ReachedFromBoot (s : UnitState) : Prop :=
  Reachable step (fun _ _ => True)
    (UnitState.boot device firmwareBin partitionState millis) s

/-- The gateway is about to transfer the stored file. -/
def AboutToTransfer (content : List UInt8) (s : UnitState) : Prop :=
  s.wbmComState = .wbmCommunicating ∧ s.currentState = .bootloaderState ∧
    s.firmwareBin = some content

instance (content : List UInt8) (s : UnitState) : Decidable (AboutToTransfer content s) :=
  inferInstanceAs (Decidable (_ ∧ _ ∧ _))

theorem transferring_of_reached
    {content : List UInt8} {s : UnitState}
    (hreached : ReachedFromBoot device firmwareBin partitionState millis s)
    (hs : AboutToTransfer content s) :
    Transferring content (uartWrites s.outputs) 0 s := by
  obtain ⟨hcomm, hstate, hstored⟩ := hs
  have huntransfered : Untransfered s :=
    hreached.invariant (fun e s _ => untransfered_step e s)
      ⟨fun _ => rfl, fun hcomm => by cases hcomm⟩
  have hbytes := huntransfered.connecting hcomm (by rw [hstate]; decide) (by rw [hstate]; decide)
  exact ⟨hcomm, hstored, .waiting hstate hbytes rfl rfl⟩

/-- Whenever a gateway comes to transfer a stored file, the bootloader that
acknowledges often enough receives the file as it is exactly when its length is
a multiple of four and not zero. -/
theorem transfer_reproduces_iff
    (content : List UInt8) (hlen : content.length < 2 ^ 24)
    (s : UnitState) (hreached : ReachedFromBoot device firmwareBin partitionState millis s)
    (hs : AboutToTransfer content s)
    (during : List Event) (hkept : Along step FirmwareKept during s)
    (hannounced : (run step during s).currentState ≠ .bootloaderState)
    (hacks : (content.length + 15) / 16 ≤ acks during s) :
    Reproduces content s (run step during s) ↔ 0 < content.length ∧ 4 ∣ content.length :=
  (transferring_of_reached device firmwareBin partitionState millis hreached hs).reproduces_iff
    hlen hkept hannounced hacks

end Boot

section Example

/-- The events that take a fresh board to the transfer: the bootloader names
itself when it is polled. -/
def untilBootloader : List Event :=
  [iterateAt 0, iterateAt 0, iterateAt 0] ++ exchangeAt 0 bootloaderText

/-- The file is announced, and one acknowledgement arrives and is answered. -/
def oneAcknowledgement : List Event :=
  iterateAt 0 :: exchangeAt 0 ackText

/-- A board that stores `content` and is about to transfer it. -/
def beforeTransfer (content : List UInt8) : UnitState :=
  run step untilBootloader (UnitState.boot .zeroMac (some content) false 0)

theorem reached_beforeTransfer (content : List UInt8) :
    ReachedFromBoot .zeroMac (some content) false 0 (beforeTransfer content) :=
  ⟨untilBootloader, Along.of_forall fun _ _ => trivial, rfl⟩

theorem firmwareKept_oneAcknowledgement (s : UnitState) :
    Along step FirmwareKept oneAcknowledgement s :=
  ⟨rfl, trivial, rfl, rfl, trivial⟩

/-- A file of one word is received. -/
theorem oneWord_reproduced :
    Reproduces [1, 2, 3, 4] (beforeTransfer [1, 2, 3, 4])
      (run step oneAcknowledgement (beforeTransfer [1, 2, 3, 4])) :=
  (transfer_reproduces_iff .zeroMac (some [1, 2, 3, 4]) false 0 [1, 2, 3, 4] (by decide)
    (beforeTransfer [1, 2, 3, 4]) (reached_beforeTransfer _) (by decide +kernel)
    oneAcknowledgement (firmwareKept_oneAcknowledgement _) (by decide +kernel)
    (by decide +kernel)).mpr (by decide)

/-- Of a file of five bytes the last is not received, and the transfer of an
empty file does not end. -/
theorem fiveBytes_not_reproduced :
    (AboutToTransfer [1, 2, 3, 4, 5] (beforeTransfer [1, 2, 3, 4, 5]) ∧
        acks oneAcknowledgement (beforeTransfer [1, 2, 3, 4, 5]) = 1 ∧
        ¬ Reproduces [1, 2, 3, 4, 5] (beforeTransfer [1, 2, 3, 4, 5])
          (run step oneAcknowledgement (beforeTransfer [1, 2, 3, 4, 5]))) ∧
      AboutToTransfer [] (beforeTransfer []) ∧
      acks oneAcknowledgement (beforeTransfer []) = 1 ∧
      ¬ Reproduces [] (beforeTransfer []) (run step oneAcknowledgement (beforeTransfer [])) := by
  have hfive : AboutToTransfer [1, 2, 3, 4, 5] (beforeTransfer [1, 2, 3, 4, 5]) := by
    decide +kernel
  have hacks : acks oneAcknowledgement (beforeTransfer [1, 2, 3, 4, 5]) = 1 := by
    decide +kernel
  have hstart := transferring_of_reached .zeroMac (some [1, 2, 3, 4, 5]) false 0
    (reached_beforeTransfer _) hfive
  have hiff := hstart.reproduces_iff (by decide) (firmwareKept_oneAcknowledgement _)
    (by decide +kernel) (by rw [hacks]; decide)
  refine ⟨⟨hfive, hacks, fun h => absurd (hiff.mp h) (by decide)⟩, by decide +kernel,
    by decide +kernel, fun h => ?_⟩
  have hopen : (run step oneAcknowledgement (beforeTransfer [])).currentState ≠
      .bootloaderStateEnd := by
    decide +kernel
  exact hopen h.ended

end Example

end UnitComm
end AvensysEsp32
