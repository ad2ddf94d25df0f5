import AvensysEsp32.Foundation.Memory
import AvensysEsp32.Foundation.CString
import AvensysEsp32.Serial.Protocol
import Mathlib.Logic.Function.Basic
import Mathlib.Data.UInt

/-!
# The serial driver

`Uart1.c` and `WBM_Serial.c`: the one-message receive cache filled by the UART
event task, the two-call reception of `Read_Message`, the checksum, and the
requests sent to the unit board.

`Read_Message` is called again and again.  The first call that sees the bytes
of a message only notes how many there are; the next call downloads and
classifies them.  The predicates `Idle`, `Arrived` and `Holding` name the
states of the receiver around these two calls.
-/

namespace AvensysEsp32
namespace Serial

open Foundation

/-! ## State -/

/-- The receive side of the driver: the cache of `Uart1.c` and the variables
of `WBM_Serial.c`. -/
structure SerialPort where
  /-- `s_rx_available` -/
  rxAvailable : Nat
  /-- `s_rx_cache` -/
  rxCache : Memory
  /-- `s_rx_ptr` is set; it then points to `s_rx_cache`. -/
  rxPtr : Bool
  /-- `s_rx_claim_len` -/
  rxClaimLen : Nat
  /-- `s_rx_claim_pos` -/
  rxClaimPos : Nat
  /-- `rx_buf_tail` -/
  rxBufTail : Nat
  /-- `buff_ser1` and the memory after it -/
  buffSer1 : Memory
  /-- `Numbytes_Received` -/
  numbytesReceived : Nat
  /-- `Bootloader_Mode` -/
  bootloaderMode : Bool
  /-- `Ack_Received` -/
  ackReceived : Bool

/-- The variables as the program starts. -/
def SerialPort.boot : SerialPort where
  rxAvailable := 0
  rxCache := fun _ => 0
  rxPtr := false
  rxClaimLen := 0
  rxClaimPos := 0
  rxBufTail := 0
  buffSer1 := fun _ => 0
  numbytesReceived := 0
  bootloaderMode := false
  ackReceived := false

/-- What the gateway tells the unit board about itself in a polling request. -/
structure DeviceIdentity where
  /-- `Serial_Number`, up to its NUL -/
  serialNumber : List UInt8
  /-- `app_main` makes it of nine characters and twelve digits. -/
  fits : serialNumber.length ≤ 21
  /-- `error` -/
  error : UInt8

/-- `Serial_Number_Size` -/
def DeviceIdentity.serialNumberSize (device : DeviceIdentity) : Nat :=
  device.serialNumber.length

/-- The identity of a board whose MAC address is zero. -/
def DeviceIdentity.zeroMac : DeviceIdentity where
  serialNumber := [87, 73, 70, 73, 45, 87, 66, 77, 45] ++ List.replicate 12 48
  fits := by decide
  error := 0

/-! ## Uart1.c -/

/-- `sizeof(s_rx_cache)` -/
@[simp] abbrev uart1RxCacheSize : Nat := 128

/-- The `UART_DATA` case of `uart_event_task`. -/
def uartEventTask (data : List UInt8) (p : SerialPort) : SerialPort :=
  let copyLen := min data.length uart1RxCacheSize
  { p with
    rxAvailable := copyLen
    rxCache := memcpy (memset p.rxCache 0 0 uart1RxCacheSize) 0 (ofBytes data) 0 copyLen }

/-- `Uart1_RxClaim(&s_rx_ptr)` -/
def uart1RxClaim (p : SerialPort) : Nat × SerialPort :=
  if p.rxAvailable = 0 then (0, p)
  else (p.rxAvailable, { p with rxPtr := true, rxAvailable := 0 })

/-! ## WBM_Serial.c: reception -/

/-- `RX_BUFFER_SIZE` -/
@[simp] abbrev rxBufferSize : Nat := 128

def serialAvailable (p : SerialPort) : Nat × SerialPort :=
  if p.rxClaimPos < p.rxClaimLen then (p.rxClaimLen - p.rxClaimPos, p)
  else
    let claim := uart1RxClaim p
    (claim.1, { claim.2 with rxClaimLen := claim.1, rxClaimPos := 0 })

def serialRead (p : SerialPort) : UInt8 × SerialPort :=
  if p.rxPtr ∧ p.rxClaimPos < p.rxClaimLen then
    let data := p.rxCache p.rxClaimPos
    if p.rxClaimPos + 1 ≥ p.rxClaimLen then
      (data, { p with rxPtr := false, rxClaimLen := 0, rxClaimPos := 0 })
    else
      (data, { p with rxClaimPos := p.rxClaimPos + 1 })
  else (0, p)

/-- The loop `buff_ser1[i] = Serial_read()` for `count` bytes from `i`. -/
def downloadMessage : Nat → Nat → SerialPort → SerialPort
  | 0, _, p => p
  | count + 1, i, p =>
      let read := serialRead p
      downloadMessage count (i + 1)
        { read.2 with buffSer1 := Function.update read.2.buffSer1 i read.1 }

def calcCksum16 (buffer : Memory) (length : Nat) : UInt16 :=
  ~~~((readBytes buffer 0 length).foldl (fun sum b => sum + b.toUInt16) 0)

/-- `"Bootloader"` -/
def bootloaderText : List UInt8 :=
  [66, 111, 111, 116, 108, 111, 97, 100, 101, 114]

/-- `"ACK"` -/
def ackText : List UInt8 :=
  [65, 67, 75]

/-- The header, length and checksum tests of `Read_Message`. -/
def checkMessage (buff : Memory) (len : Nat) : Int :=
  if buff ihm1StartMsg0 ≠ protoStartMsg0 ∨ buff ihm1StartMsg1 ≠ protoStartMsg1 then
    errorHeadMessage
  else if (buff ihm1PosCrcLo).toNat + 2 ≠ len ∨ len ≤ ihm1StartData then
    errorLenMessage
  else
    let i := (buff ihm1PosCrcLo).toNat
    let cksum16 := (buff (i + 1)).toUInt16 <<< 8 ||| (buff i).toUInt16
    if cksum16 ≠ calcCksum16 buff i then errorCksum16 else len

/-- What `Read_Message` does with the message of `len` bytes in `buff_ser1`. -/
def classifyMessage (len : Nat) (p : SerialPort) : Int × SerialPort :=
  let p := { p with numbytesReceived := len }
  let text := readBytes p.buffSer1 0 rxBufferSize
  if strstr text bootloaderText then (len, { p with bootloaderMode := true })
  else if strstr text ackText then (len, { p with ackReceived := true })
  else (checkMessage p.buffSer1 len, p)

def readMessage (p : SerialPort) : Int × SerialPort :=
  let available := serialAvailable p
  let byteAval := available.1
  let p := available.2
  if byteAval ≠ 0 ∧ byteAval ≠ p.rxBufTail then
    (runDownload, { p with rxBufTail := byteAval % 256 })
  else if byteAval = 0 ∧ p.rxBufTail = 0 then (bufferRxEmpy, p)
  else
    let len := p.rxBufTail % rxBufferSize
    let p := { p with rxBufTail := 0, buffSer1 := memset p.buffSer1 0 0 rxBufferSize }
    classifyMessage len (downloadMessage len 0 p)

/-! ## WBM_Serial.c: transmission -/

def lowByte (w : UInt16) : UInt8 :=
  (w &&& 255).toUInt8

def highByte (w : UInt16) : UInt8 :=
  (w >>> 8).toUInt8

/-- The number of bytes `Write_Message` sends. -/
def messageLength (buff : Memory) : Nat :=
  ((buff ihm1PosCrcLo).toNat + 2) &&& 127

/-- The buffer of `Write_Message` with its head in place. -/
def withHead (buff : Memory) : Memory :=
  Function.update (Function.update buff ihm1StartMsg0 protoStartMsg0) ihm1StartMsg1 protoStartMsg1

/-- The buffer of `Write_Message` as it is sent, the checksum in place. -/
def sealMessage (buff : Memory) : Memory :=
  let buff := withHead buff
  let cksum16 := calcCksum16 buff (buff ihm1PosCrcLo).toNat
  let i := (buff ihm1PosCrcLo).toNat
  Function.update (Function.update buff i (lowByte cksum16)) (i + 1) (highByte cksum16)

/-- `Write_Message`: the bytes handed to `Uart_Write`. -/
def writeMessage (buff : Memory) : List UInt8 :=
  readBytes (sealMessage buff) 0 (messageLength (withHead buff))

/-- `txBuffer` before the request is filled in: its length and its command,
over what the stack held. -/
def requestBuffer (stack : Memory) (posCrcLo command : UInt8) : Memory :=
  Function.update (Function.update stack ihm1PosCrcLo posCrcLo) ihm1TypeComand command

def comSendRequestPollingBase (device : DeviceIdentity) (stack : Memory) : List UInt8 :=
  let txBuffer :=
    requestBuffer stack (UInt8.ofNat (device.serialNumberSize + ihm1StartData + 1))
      commandPollingBase
  let txBuffer := Function.update txBuffer ihm1StartData device.error
  writeMessage
    (memcpy txBuffer (ihm1StartData + 1) (ofBytes device.serialNumber) 0 device.serialNumberSize)

def comSendRequestReadEeprom (startAddress count : UInt8) (stack : Memory) : List UInt8 :=
  let txBuffer := requestBuffer stack (UInt8.ofNat irqrCrcLo) commandReadEeprom
  let txBuffer := Function.update txBuffer irqrAddrByteStartEep startAddress
  writeMessage (Function.update txBuffer irqrAddrNumByteEep count)

/-- `Com_SendRequest_ReadEeprom1` -/
def comSendRequestReadEeprom1 (sec : EepromSection) (stack : Memory) : List UInt8 :=
  comSendRequestReadEeprom (UInt8.ofNat sec.startAddress) (UInt8.ofNat sec.count) stack

def comSendRequestDataDebug (stack : Memory) : List UInt8 :=
  writeMessage (requestBuffer stack (UInt8.ofNat irqdCrcLo) commandDataDebug)

/-- `Com_SendRequest_WriteEeprom`: nothing is sent when the block does not fit
the image. -/
def comSendRequestWriteEeprom
    (startAddress count : UInt8) (gRDEeprom stack : Memory) : Option (List UInt8) :=
  if startAddress.toNat + count.toNat ≤ sizeofEeprom then
    let txBuffer := requestBuffer stack (UInt8.ofNat irqrCrcLo + count) commandWriteEeprom
    let txBuffer := Function.update txBuffer irqwAddrByteStartEep startAddress
    let txBuffer := Function.update txBuffer irqwAddrNumByteEep count
    some (writeMessage
      (memcpy txBuffer irqwStartDataEeprom gRDEeprom startAddress.toNat count.toNat))
  else none

/-- `Com_SendRequest_WriteEeprom1`: the configuration section is not written. -/
def comSendRequestWriteEeprom1
    (sec : EepromSection) (gRDEeprom stack : Memory) : Option (List UInt8) :=
  match sec with
  | .configuration => none
  | sec =>
      comSendRequestWriteEeprom (UInt8.ofNat sec.startAddress) (UInt8.ofNat sec.count)
        gRDEeprom stack

/-! ## States of the receiver -/

/-- Nothing received, nothing claimed, nothing announced. -/
structure Idle (p : SerialPort) : Prop where
  nothingReceived : p.rxAvailable = 0
  nothingClaimed : p.rxClaimLen ≤ p.rxClaimPos
  nothingAnnounced : p.rxBufTail = 0

instance (p : SerialPort) : Decidable (Idle p) :=
  decidable_of_iff
    (p.rxAvailable = 0 ∧ p.rxClaimLen ≤ p.rxClaimPos ∧ p.rxBufTail = 0)
    ⟨fun h => ⟨h.1, h.2.1, h.2.2⟩, fun h => ⟨h.1, h.2, h.3⟩⟩

/-- The message `w` lies in the cache and has not been noticed. -/
structure Arrived (w : List UInt8) (p : SerialPort) : Prop where
  received : p.rxAvailable = w.length
  nothingClaimed : p.rxClaimLen ≤ p.rxClaimPos
  nothingAnnounced : p.rxBufTail = 0
  cached : ∀ i < w.length, p.rxCache i = ofBytes w i

/-- The message `w` has been noticed; the next call of `Read_Message` downloads it. -/
structure Holding (w : List UInt8) (p : SerialPort) : Prop where
  nothingReceived : p.rxAvailable = 0
  claimed : p.rxClaimLen = w.length
  unread : p.rxClaimPos = 0
  pointer : p.rxPtr = true
  announced : p.rxBufTail = w.length
  cached : ∀ i < w.length, p.rxCache i = ofBytes w i

/-- The message `w` has been noticed, whatever has been received since. -/
structure Claimed (w : List UInt8) (p : SerialPort) : Prop where
  claimed : p.rxClaimLen = w.length
  unread : p.rxClaimPos = 0
  pointer : p.rxPtr = true
  announced : p.rxBufTail = w.length
  cached : ∀ i < w.length, p.rxCache i = ofBytes w i

theorem Holding.isClaimed
    {w : List UInt8} {p : SerialPort} (h : Holding w p) :
    Claimed w p :=
  ⟨h.claimed, h.unread, h.pointer, h.announced, h.cached⟩

/-- The receiver after the call that notices a message of `n` bytes. -/
def SerialPort.noticed (p : SerialPort) (n : Nat) : SerialPort :=
  { p with
    rxAvailable := 0
    rxPtr := true
    rxClaimLen := n
    rxClaimPos := 0
    rxBufTail := n }

/-- `buff_ser1` once the message `w` is downloaded. -/
def downloaded (w : List UInt8) (buff : Memory) : Memory :=
  memcpy (memset buff 0 0 rxBufferSize) 0 (ofBytes w) 0 w.length

/-- The receiver after the call that downloads the message `w`. -/
def SerialPort.received (w : List UInt8) (p : SerialPort) : SerialPort :=
  { p with
    rxPtr := false
    rxClaimLen := 0
    rxClaimPos := 0
    rxBufTail := 0
    buffSer1 := downloaded w p.buffSer1
    numbytesReceived := w.length
    bootloaderMode := p.bootloaderMode || strstr w bootloaderText
    ackReceived := p.ackReceived || (!strstr w bootloaderText && strstr w ackText) }

/-- The value `Read_Message` returns for the message `w`. -/
def verdict (w : List UInt8) : Int :=
  if strstr w bootloaderText ∨ strstr w ackText then w.length
  else checkMessage (ofBytes w) w.length

/-- A complete frame, as `Write_Message` sends it. -/
structure WellFormed (w : List UInt8) : Prop where
  head0 : ofBytes w ihm1StartMsg0 = protoStartMsg0
  head1 : ofBytes w ihm1StartMsg1 = protoStartMsg1
  length : (ofBytes w ihm1PosCrcLo).toNat + 2 = w.length
  long : ihm1StartData < w.length
  cksum :
    (ofBytes w (w.length - 1)).toUInt16 <<< 8 ||| (ofBytes w (w.length - 2)).toUInt16 =
      calcCksum16 (ofBytes w) (w.length - 2)

section Download

/-- `buff_ser1` shows a downloaded message and zeros after it. -/
theorem downloaded_apply
    (w : List UInt8) (buff : Memory) {i : Nat}
    (hi : i < rxBufferSize) :
    downloaded w buff i = ofBytes w i := by
  unfold downloaded
  by_cases hw : i < w.length
  · rw [memcpy_inside _ _ _ _ _ ⟨Nat.zero_le _, by omega⟩]
    simp
  · rw [memcpy_outside _ _ _ _ _ (by simpa using hw)]
    rw [memset_inside _ _ _ ⟨Nat.zero_le _, by omega⟩]
    rw [ofBytes_of_le (by omega)]

theorem serialRead_last
    (p : SerialPort)
    (hptr : p.rxPtr = true)
    (hpos : p.rxClaimPos + 1 = p.rxClaimLen) :
    serialRead p =
      (p.rxCache p.rxClaimPos,
        { p with rxPtr := false, rxClaimLen := 0, rxClaimPos := 0 }) := by
  have hlt : p.rxClaimPos < p.rxClaimLen := by omega
  have hge : p.rxClaimPos + 1 ≥ p.rxClaimLen := by omega
  simp [serialRead, hptr, hlt, hge]

theorem serialRead_more
    (p : SerialPort)
    (hptr : p.rxPtr = true)
    (hpos : p.rxClaimPos + 1 < p.rxClaimLen) :
    serialRead p =
      (p.rxCache p.rxClaimPos, { p with rxClaimPos := p.rxClaimPos + 1 }) := by
  have hlt : p.rxClaimPos < p.rxClaimLen := by omega
  have hge : ¬ p.rxClaimPos + 1 ≥ p.rxClaimLen := by omega
  simp [serialRead, hptr, hlt, hge]

/-- Downloading the rest of a claimed message copies it out of the cache and
releases the claim. -/
theorem downloadMessage_claimed
    (n i : Nat) (p : SerialPort)
    (hptr : p.rxPtr = true)
    (hlen : p.rxClaimLen = p.rxClaimPos + (n + 1)) :
    downloadMessage (n + 1) i p =
      { p with
        rxPtr := false
        rxClaimLen := 0
        rxClaimPos := 0
        buffSer1 := memcpy p.buffSer1 i p.rxCache p.rxClaimPos (n + 1) } := by
  induction n generalizing i p with
  | zero =>
      rw [downloadMessage, serialRead_last p hptr (by omega), memcpy_succ, memcpy_zero]
      rfl
  | succ n ih =>
      rw [downloadMessage, serialRead_more p hptr (by omega), memcpy_succ]
      exact ih (i + 1)
        { p with
          rxClaimPos := p.rxClaimPos + 1
          buffSer1 := Function.update p.buffSer1 i (p.rxCache p.rxClaimPos) }
        hptr (by simp only; omega)

/-- `buff_ser1` holds a downloaded message and zeros after it. -/
theorem readBytes_downloaded
    {w : List UInt8} (buff : Memory)
    (hw : w.length ≤ rxBufferSize) :
    readBytes (downloaded w buff) 0 rxBufferSize =
      w ++ List.replicate (rxBufferSize - w.length) 0 := by
  apply List.ext_getElem
  · simp only [length_readBytes, List.length_append, List.length_replicate]
    omega
  · intro i h₁ h₂
    have hi : i < rxBufferSize := by simpa using h₁
    rw [getElem_readBytes, Nat.zero_add, downloaded_apply w buff hi]
    by_cases hiw : i < w.length
    · rw [ofBytes_of_lt hiw, List.getElem_append_left hiw]
    · rw [ofBytes_of_le (by omega), List.getElem_append_right (by omega)]
      simp

/-- The text that the substring searches of `Read_Message` see is the message. -/
theorem strstr_downloaded
    {w : List UInt8} (buff : Memory) (needle : List UInt8)
    (hw : w.length ≤ rxBufferSize) :
    strstr (readBytes (downloaded w buff) 0 rxBufferSize) needle = strstr w needle := by
  unfold strstr
  rw [readBytes_downloaded buff hw, cString_append_zeros]

end Download

section Checks

theorem calcCksum16_congr
    {b b' : Memory} {n : Nat}
    (h : ∀ i < n, b i = b' i) :
    calcCksum16 b n = calcCksum16 b' n := by
  have hbytes : readBytes b 0 n = readBytes b' 0 n :=
    readBytes_congr (by simpa using h)
  unfold calcCksum16
  rw [hbytes]

/-- The tests of a message read no byte past the buffer. -/
theorem checkMessage_congr
    {b b' : Memory} {len : Nat}
    (hlen : len < rxBufferSize)
    (h : ∀ i < rxBufferSize, b i = b' i) :
    checkMessage b len = checkMessage b' len := by
  simp only [rxBufferSize] at hlen h
  unfold checkMessage
  simp only [ihm1StartMsg0, ihm1StartMsg1, ihm1PosCrcLo]
  rw [h 0 (by omega), h 1 (by omega), h 2 (by omega)]
  by_cases hl : (b' 2).toNat + 2 = len
  · have hck : calcCksum16 b (b' 2).toNat = calcCksum16 b' (b' 2).toNat :=
      calcCksum16_congr fun i hi => h i (by omega)
    rw [h (b' 2).toNat (by omega), h ((b' 2).toNat + 1) (by omega), hck]
  · simp [hl]

/-- The tests pass exactly on complete frames. -/
theorem checkMessage_pos_iff
    (w : List UInt8) :
    0 < checkMessage (ofBytes w) w.length ↔ WellFormed w := by
  unfold checkMessage
  constructor
  · intro h
    split at h
    · simp at h
    rename_i hhead
    split at h
    · simp at h
    rename_i hlength
    simp only [not_or, not_not, not_le] at hhead hlength
    obtain ⟨hlen, hlong⟩ := hlength
    simp only at h
    split at h
    · simp at h
    rename_i hck
    have h₁ : w.length - 1 = (ofBytes w ihm1PosCrcLo).toNat + 1 := by omega
    have h₂ : w.length - 2 = (ofBytes w ihm1PosCrcLo).toNat := by omega
    refine ⟨hhead.1, hhead.2, hlen, hlong, ?_⟩
    rw [h₁, h₂]
    exact not_not.mp hck
  · intro h
    have hck := h.cksum
    have h₁ : w.length - 1 = (ofBytes w ihm1PosCrcLo).toNat + 1 := by
      have := h.length
      omega
    have h₂ : w.length - 2 = (ofBytes w ihm1PosCrcLo).toNat := by
      have := h.length
      omega
    rw [h₁, h₂] at hck
    have hlong := h.long
    have hhead :
        ¬ (ofBytes w ihm1StartMsg0 ≠ protoStartMsg0 ∨
          ofBytes w ihm1StartMsg1 ≠ protoStartMsg1) := by
      rw [h.head0, h.head1]
      decide
    rw [if_neg hhead, if_neg (by simp only [h.length]; omega)]
    simp only [hck, ne_eq, not_true_eq_false, if_false]
    omega

instance (w : List UInt8) : Decidable (WellFormed w) :=
  decidable_of_iff _ (checkMessage_pos_iff w)

theorem checkMessage_of_wellFormed
    {w : List UInt8}
    (h : WellFormed w) :
    checkMessage (ofBytes w) w.length = w.length := by
  have hpos := (checkMessage_pos_iff w).2 h
  unfold checkMessage at hpos ⊢
  split at hpos
  · simp at hpos
  rename_i hhead
  rw [if_neg hhead]
  split at hpos
  · simp at hpos
  rename_i hlen
  rw [if_neg hlen]
  simp only at hpos ⊢
  split at hpos
  · simp at hpos
  rename_i hck
  rw [if_neg hck]

/-- An error is no message. -/
theorem le_runDownload_of_neg
    {n : Int} (h : n < 0) :
    n ≤ runDownload :=
  h.le.trans (by decide)

/-- `Read_Message` reports a message, rather than an error, exactly when it is
a complete frame or contains one of the two texts. -/
theorem runDownload_lt_verdict_iff
    (w : List UInt8) :
    runDownload < verdict w ↔
      strstr w bootloaderText = true ∨ strstr w ackText = true ∨ WellFormed w := by
  unfold verdict
  by_cases hb : strstr w bootloaderText = true
  · have hlen : 10 ≤ w.length := length_le_of_strstr hb
    simp only [hb, true_or, if_true, iff_true]
    simp only [runDownload]
    omega
  by_cases ha : strstr w ackText = true
  · have hlen : 3 ≤ w.length := length_le_of_strstr ha
    simp only [ha, true_or, or_true, if_true, iff_true]
    simp only [runDownload]
    omega
  simp only [hb, ha, or_self, if_false, Bool.false_eq_true, false_or]
  constructor
  · intro h
    exact (checkMessage_pos_iff w).1 (by simp only [runDownload] at h; omega)
  · intro h
    have hlong := h.long
    rw [checkMessage_of_wellFormed h]
    simp only [ihm1StartData, runDownload] at hlong ⊢
    omega

theorem verdict_of_wellFormed
    {w : List UInt8}
    (h : WellFormed w) :
    verdict w = w.length := by
  unfold verdict
  split
  · rfl
  · exact checkMessage_of_wellFormed h

theorem WellFormed.runDownload_lt
    {w : List UInt8} (h : WellFormed w) :
    runDownload < (w.length : Int) := by
  have hlong := h.long
  simp only [ihm1StartData] at hlong
  simp only [runDownload]
  omega

end Checks

section Reception

theorem idle_boot :
    Idle SerialPort.boot :=
  ⟨rfl, le_refl _, rfl⟩

variable {w : List UInt8} {p : SerialPort}

theorem Idle.uartEventTask
    (h : Idle p)
    (hw : w.length ≤ uart1RxCacheSize) :
    Arrived w (uartEventTask w p) where
  received := by
    simpa [Serial.uartEventTask] using hw
  nothingClaimed := h.nothingClaimed
  nothingAnnounced := h.nothingAnnounced
  cached := by
    intro i hi
    have hmin : min w.length uart1RxCacheSize = w.length := by omega
    simp only [Serial.uartEventTask, hmin]
    rw [memcpy_inside _ _ _ _ _ ⟨Nat.zero_le _, by omega⟩]
    simp

theorem readMessage_idle
    (h : Idle p) :
    readMessage p = (bufferRxEmpy, { p with rxClaimLen := 0, rxClaimPos := 0 }) := by
  have hclaim : ¬ p.rxClaimPos < p.rxClaimLen := by
    have := h.nothingClaimed
    omega
  simp [readMessage, serialAvailable, uart1RxClaim, hclaim, h.nothingReceived,
    h.nothingAnnounced]

theorem Idle.readMessage
    (h : Idle p) :
    Idle (Serial.readMessage p).2 := by
  rw [readMessage_idle h]
  exact ⟨h.nothingReceived, le_refl _, h.nothingAnnounced⟩

/-- The first call of `Read_Message` on a message only notes its length. -/
theorem readMessage_arrived
    (h : Arrived w p)
    (hpos : 0 < w.length)
    (hw : w.length ≤ uart1RxCacheSize) :
    readMessage p = (runDownload, p.noticed w.length) := by
  have hclaim : ¬ p.rxClaimPos < p.rxClaimLen := by
    have := h.nothingClaimed
    omega
  have hne : w.length ≠ 0 := by omega
  have hmod : w.length % 256 = w.length := by
    simp only [uart1RxCacheSize] at hw
    omega
  simp [readMessage, serialAvailable, uart1RxClaim, hclaim, h.received,
    h.nothingAnnounced, hne, hmod, SerialPort.noticed]

theorem Arrived.noticed
    (h : Arrived w p) :
    Holding w (p.noticed w.length) :=
  ⟨rfl, rfl, rfl, rfl, rfl, h.cached⟩

/-- The second call of `Read_Message` downloads the message and judges it. -/
theorem readMessage_claimed
    (h : Claimed w p)
    (hpos : 0 < w.length)
    (hw : w.length < rxBufferSize) :
    readMessage p = (verdict w, p.received w) := by
  have hw' : w.length < 128 := hw
  have hne : w.length ≠ 0 := by omega
  have hmod : w.length % 128 = w.length := Nat.mod_eq_of_lt hw'
  obtain ⟨n, hn⟩ : ∃ n, w.length = n + 1 := ⟨w.length - 1, by omega⟩
  have havail : serialAvailable p = (w.length, p) := by
    simp [serialAvailable, h.unread, h.claimed, hpos]
  have hcopy :
      memcpy (memset p.buffSer1 0 0 rxBufferSize) 0 p.rxCache p.rxClaimPos (n + 1) =
        downloaded w p.buffSer1 := by
    funext i
    unfold downloaded
    rw [← hn, h.unread]
    by_cases hi : i ∈ block 0 w.length
    · rw [memcpy_inside _ _ _ _ _ hi, memcpy_inside _ _ _ _ _ hi]
      exact h.cached _ (by have := hi.2; omega)
    · rw [memcpy_outside _ _ _ _ _ hi, memcpy_outside _ _ _ _ _ hi]
  have hdown := downloadMessage_claimed n 0
    { p with rxBufTail := 0, buffSer1 := memset p.buffSer1 0 0 rxBufferSize }
    h.pointer (by simp [h.unread, h.claimed, hn])
  rw [hcopy] at hdown
  unfold readMessage
  simp only [havail, h.announced, ne_eq, hne, not_true_eq_false, and_false,
    if_false, hmod]
  rw [hn, hdown]
  unfold classifyMessage verdict SerialPort.received
  simp only [strstr_downloaded p.buffSer1 _ (Nat.le_of_lt hw)]
  rw [← hn]
  by_cases hb : strstr w bootloaderText = true
  · simp [hb]
  by_cases ha : strstr w ackText = true
  · simp [hb, ha]
  · simp only [hb, ha, or_self, Bool.or_false, Bool.not_false, Bool.and_false]
    rw [checkMessage_congr hw fun i hi => downloaded_apply w p.buffSer1 hi]
    simp

theorem readMessage_holding
    (h : Holding w p)
    (hpos : 0 < w.length)
    (hw : w.length < rxBufferSize) :
    readMessage p = (verdict w, p.received w) :=
  readMessage_claimed h.isClaimed hpos hw

theorem idle_received
    (h : Holding w p) :
    Idle (p.received w) :=
  ⟨h.nothingReceived, le_refl _, rfl⟩

end Reception

end Serial
end AvensysEsp32
