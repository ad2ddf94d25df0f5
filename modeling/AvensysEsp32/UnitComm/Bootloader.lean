import AvensysEsp32.UnitComm.State

/-!
# Firmware transfer to the unit's bootloader

The states `Bootloader_State` and `Bootloader_State1` of `Connect_To_Unit`.
The first opens the stored firmware and sends its length and first word; the
second sends sixteen bytes for each acknowledgement of the bootloader.  Every
byte travels as two characters, one for each nibble.
-/

namespace AvensysEsp32
namespace UnitComm

open Foundation Serial

/-- `((value >> shift) & 0xF) + 48` -/
def nibbleChar (value shift : Nat) : UInt8 :=
  UInt8.ofNat (((value >>> shift) &&& 0xF) + 48)

/-- `((value & 0xF0) >> 4) + 48` -/
def highNibbleChar (value : Nat) : UInt8 :=
  UInt8.ofNat (((value &&& 0xF0) >>> 4) + 48)

/-- `(value & 0xF) + 48` -/
def lowNibbleChar (value : Nat) : UInt8 :=
  UInt8.ofNat ((value &&& 0xF) + 48)

/-- The six characters of the file size. -/
def filesizeChars (filesize : Nat) : List UInt8 :=
  [nibbleChar filesize 20, nibbleChar filesize 16, nibbleChar filesize 12,
    nibbleChar filesize 8, highNibbleChar filesize, lowNibbleChar filesize]

/-- The eight characters of the first word. -/
def fileStartChars (fileStart : Nat) : List UInt8 :=
  [nibbleChar fileStart 28, nibbleChar fileStart 24, nibbleChar fileStart 20,
    nibbleChar fileStart 16, nibbleChar fileStart 12, nibbleChar fileStart 8,
    highNibbleChar fileStart, lowNibbleChar fileStart]

/-- The little-endian word at the start of a region. -/
def littleEndianWord (m : Memory) : Nat :=
  (m 0).toNat + (m 1).toNat * 2 ^ 8 + (m 2).toNat * 2 ^ 16 + (m 3).toNat * 2 ^ 24

/-- The eight characters of word `index1` of `Temp_Buffer`, its last byte first. -/
def wordChars (tempBuffer : Memory) (index1 : Nat) : List UInt8 :=
  [highNibbleChar (tempBuffer (index1 * 4 + 3)).toNat,
    lowNibbleChar (tempBuffer (index1 * 4 + 3)).toNat,
    highNibbleChar (tempBuffer (index1 * 4 + 2)).toNat,
    lowNibbleChar (tempBuffer (index1 * 4 + 2)).toNat,
    highNibbleChar (tempBuffer (index1 * 4 + 1)).toNat,
    lowNibbleChar (tempBuffer (index1 * 4 + 1)).toNat,
    highNibbleChar (tempBuffer (index1 * 4)).toNat,
    lowNibbleChar (tempBuffer (index1 * 4)).toNat]

/-- The loop over `index1` that fills `Send_Buffer` with `words` words. -/
def encodeWords (tempBuffer : Memory) (words : Nat) (sendBuffer : Memory) : Memory :=
  (List.range words).foldl
    (fun m index1 => store m (index1 * 8) (wordChars tempBuffer index1)) sendBuffer

@[simp] theorem length_wordChars (tempBuffer : Memory) (index1 : Nat) :
    (wordChars tempBuffer index1).length = 8 := by
  rfl

@[simp] theorem encodeWords_zero (tempBuffer sendBuffer : Memory) :
    encodeWords tempBuffer 0 sendBuffer = sendBuffer := by
  rfl

theorem encodeWords_succ (tempBuffer sendBuffer : Memory) (words : Nat) :
    encodeWords tempBuffer (words + 1) sendBuffer =
      store (encodeWords tempBuffer words sendBuffer) (words * 8)
        (wordChars tempBuffer words) := by
  simp [encodeWords, List.range_succ]

/-- Each word's characters stand in eight bytes of their own. -/
theorem encodeWords_inside
    (tempBuffer sendBuffer : Memory) {words k j : Nat}
    (hk : k < words) (hj : j < 8) :
    encodeWords tempBuffer words sendBuffer (k * 8 + j) =
      ofBytes (wordChars tempBuffer k) j := by
  induction words with
  | zero =>
      omega
  | succ words ih =>
      rw [encodeWords_succ]
      unfold store
      by_cases hlast : k = words
      · subst hlast
        rw [memcpy_inside _ _ _ _ _ ⟨by omega, by simp; omega⟩]
        congr 1
        omega
      · rw [memcpy_outside _ _ _ _ _ (by simp; omega)]
        exact ih (by omega)

theorem encodeWords_beyond
    (tempBuffer sendBuffer : Memory) {words i : Nat}
    (hi : words * 8 ≤ i) :
    encodeWords tempBuffer words sendBuffer i = sendBuffer i := by
  induction words with
  | zero =>
      rfl
  | succ words ih =>
      rw [encodeWords_succ]
      unfold store
      rw [memcpy_outside _ _ _ _ _ (by simp; omega)]
      exact ih (by omega)

/-- `sizeof(Send_Buffer)` -/
@[simp] abbrev sendBufferSize : Nat := 100

/-- `sizeof(Temp_Buffer)` -/
@[simp] abbrev tempBufferSize : Nat := 20

/-- `fread(.., 1, count, f)`: the bytes read, and the new position. -/
def fread (count : Nat) (s : UnitState) : List UInt8 × Option Nat :=
  match s.transfer.f, s.firmwareBin with
  | some pos, some content =>
      let bytes := (content.drop pos).take count
      (bytes, some (pos + bytes.length))
  | f, _ => ([], f)

/-- The case `Bootloader_State`. -/
def bootloaderState (inp : IterationInput) (s : UnitState) : UnitState :=
  if s.unitUpdateTaskFlag then s
  else
    let s := { s with bootloaderStateFlag := true }
    match s.firmwareBin with
    | none =>
        -- The size 0 is sent as fourteen characters `'0'`.
        let sendBuffer := memset s.transfer.sendBuffer 0 48 sendBufferSize
        { s with
          transfer := { s.transfer with f := none, filesize := 0, sendBuffer := sendBuffer }
          currentState := .bootloaderStateEnd
        }.emit (.uartWrite (readBytes sendBuffer 0 14))
    | some content =>
        if inp.fseekOk then
          let sendBuffer := memset s.transfer.sendBuffer 0 0 sendBufferSize
          let sendBuffer := store sendBuffer 0 (filesizeChars content.length)
          let fileStart := store s.transfer.fileStart 0 (content.take 4)
          let sendBuffer := store sendBuffer 6 (fileStartChars (littleEndianWord fileStart))
          { s with
            transfer :=
              { s.transfer with
                f := some 0
                filesize := content.length
                fileStart := fileStart
                sendBuffer := sendBuffer }
            currentState := .bootloaderState1
          }.emit (.uartWrite (readBytes sendBuffer 0 14))
        else
          let sendBuffer := memset s.transfer.sendBuffer 0 48 sendBufferSize
          { s with
            transfer := { s.transfer with f := none, filesize := 0, sendBuffer := sendBuffer }
            currentState := .bootloaderStateEnd
          }.emit (.uartWrite (readBytes sendBuffer 0 14))

/-- One block of the file, sent for an acknowledgement. -/
def sendBlock (s : UnitState) : UnitState :=
  let sendBuffer := memset s.transfer.sendBuffer 0 0 sendBufferSize
  let remaining := s.transfer.filesize - s.transfer.bytesTransfered
  if remaining > 16 then
    let tempBuffer := memset s.transfer.tempBuffer 0 0 tempBufferSize
    let read := fread 16 s
    let tempBuffer := store tempBuffer 0 read.1
    let sendBuffer := encodeWords tempBuffer 4 sendBuffer
    { s with
      transfer :=
        { s.transfer with
          f := read.2
          bytesTransfered := s.transfer.bytesTransfered + 16
          sendBuffer := sendBuffer
          tempBuffer := tempBuffer }
    }.emit (.uartWrite (readBytes sendBuffer 0 32))
  else if remaining ≠ 0 then
    let tempBuffer := memset s.transfer.tempBuffer 0 0 tempBufferSize
    let read := fread remaining.toNat s
    let tempBuffer := store tempBuffer 0 read.1
    let sendBuffer := encodeWords tempBuffer (remaining.toNat / 4) sendBuffer
    { s with
      transfer :=
        { s.transfer with
          f := none
          sendBuffer := sendBuffer
          tempBuffer := tempBuffer }
      currentState := .bootloaderStateEnd
    }.emitAll
      [.uartWrite (readBytes sendBuffer 0 (remaining.toNat * 2)), .gpioSetWifiReady false]
  else { s with transfer := { s.transfer with sendBuffer := sendBuffer } }

/-- The case `Bootloader_State1`. -/
def bootloaderState1 (s : UnitState) : UnitState :=
  let message := readMessage s.port
  let s := { s with valRet := message.1, port := message.2 }
  if s.port.ackReceived then
    sendBlock { s with port := { s.port with ackReceived := false } }
  else s

/-! ## What the transfer does -/

section Cases

variable (inp : IterationInput) (s : UnitState)

/-- What comes of `Bootloader_State`: nothing while an update task runs, and
else a header is sent. -/
inductive BootloaderStateCase : UnitState → Prop
  | held (hrunning : s.unitUpdateTaskFlag = true) : BootloaderStateCase s
  | header (hrunning : s.unitUpdateTaskFlag = false) (transfer : Transfer) (next : ConnectState)
      (hnext : next = .bootloaderState1 ∨ next = .bootloaderStateEnd) :
      BootloaderStateCase
        { s with
          bootloaderStateFlag := true
          transfer := transfer
          currentState := next
          outputs := s.outputs ++ [.uartWrite (readBytes transfer.sendBuffer 0 14)] }

theorem bootloaderState_case :
    BootloaderStateCase s (bootloaderState inp s) := by
  unfold bootloaderState
  split
  · rename_i hrunning
    exact .held hrunning
  · rename_i hrunning
    have hidle : s.unitUpdateTaskFlag = false := Bool.eq_false_iff.mpr hrunning
    dsimp only
    split
    · exact .header hidle _ _ (Or.inr rfl)
    · split
      · exact .header hidle _ _ (Or.inl rfl)
      · exact .header hidle _ _ (Or.inr rfl)

/-- What comes of `Bootloader_State1`: without an acknowledgement only the
message is read, and with one the transfer goes on. -/
inductive BootloaderState1Case : UnitState → Prop
  | waiting (hack : (readMessage s.port).2.ackReceived = false) :
      BootloaderState1Case
        { s with valRet := (readMessage s.port).1, port := (readMessage s.port).2 }
  | acknowledged (hack : (readMessage s.port).2.ackReceived = true) (transfer : Transfer)
      (next : ConnectState) (hnext : next = s.currentState ∨ next = .bootloaderStateEnd)
      (outputs : List Output)
      (houtputs : uartWrites outputs = [] ∨ ∃ bytes, uartWrites outputs = [bytes]) :
      BootloaderState1Case
        { s with
          valRet := (readMessage s.port).1
          port := { (readMessage s.port).2 with ackReceived := false }
          transfer := transfer
          currentState := next
          outputs := s.outputs ++ outputs }

theorem bootloaderState1_case :
    BootloaderState1Case s (bootloaderState1 s) := by
  unfold bootloaderState1
  dsimp only
  split
  · rename_i hack
    unfold sendBlock
    dsimp only
    split
    · exact .acknowledged hack _ _ (Or.inl rfl) [.uartWrite _] (Or.inr ⟨_, rfl⟩)
    · split
      · exact .acknowledged hack _ _ (Or.inr rfl) [.uartWrite _, .gpioSetWifiReady false]
          (Or.inr ⟨_, rfl⟩)
      · have hcase := BootloaderState1Case.acknowledged hack
          { s.transfer with sendBuffer := memset s.transfer.sendBuffer 0 0 sendBufferSize }
          s.currentState (Or.inl rfl) [] (Or.inl rfl)
        rwa [List.append_nil] at hcase
  · rename_i hack
    exact .waiting (Bool.eq_false_iff.mpr hack)

end Cases

end UnitComm
end AvensysEsp32
