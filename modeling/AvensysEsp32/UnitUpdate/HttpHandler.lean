import AvensysEsp32.Foundation.Memory
import AvensysEsp32.Foundation.Machine

/-!
# The download of the unit's firmware

`_http1_event_handler`, which `Unit_Update_task` passes to the HTTP client.  A
stored file is kept while its version equals the server's; otherwise the file
is replaced by what the client delivers.  The first three chunks are collected
in `Buffer_Test` to compare the versions.

`Buffer_Test` is taken with the memory behind it, since the code may read past
its end.  `f` is open, for writing at the end of the file, exactly while
`File_opened` is set, and what is written is in the file at once.
-/

namespace AvensysEsp32
namespace UnitUpdate

open Foundation

/-- `sizeof(Buffer_Test)` -/
@[simp] abbrev bufferTestSize : Nat := 1536

structure UpdateState where
  /-- `File_opened` -/
  fileOpened : Bool
  /-- `Buffer_Test` and what lies behind it -/
  bufferTest : Memory
  /-- `Firmware_version` -/
  firmwareVersion : Nat
  /-- `Firmware_version_server` -/
  firmwareVersionServer : Nat
  /-- `Load_Counter` -/
  loadCounter : Nat
  /-- `Pointer`, as an index of `Buffer_Test` -/
  pointer : Nat
  /-- `Data_Counter` -/
  dataCounter : UInt16
  /-- `No_Update` -/
  noUpdate : Bool
  /-- `/spiffs/firmware.bin` -/
  firmwareBin : Option (List UInt8)
  /-- The levels given to the pin `Wifi_Ready`, in order. -/
  wifiReady : List Bool

/-- The events of the HTTP client; `fopenOk` is whether the file can be opened
for writing. -/
inductive HttpEvent
  | error
  | onConnected (fopenOk : Bool)
  | headerSent
  | onHeader
  | onData (data : List UInt8) (fopenOk : Bool)
  | onFinish
  | disconnected
  | redirect

/-- The version that two bytes of an image give, in decimal digits. -/
def versionOf (m : Memory) : Nat :=
  (m 1173).toNat * 100 + (m 1172).toNat / 16 * 10 + (m 1172).toNat % 16

/-- `fread(Buffer_Test, 1, sizeof(Buffer_Test), f)`: a short file leaves the
rest of the buffer as it is. -/
def freadBufferTest (content : List UInt8) (bufferTest : Memory) : Memory :=
  memcpy bufferTest 0 (ofBytes content) 0 (min content.length bufferTestSize)

/-- `fwrite` to the open file. -/
def fwrite (bytes : List UInt8) (s : UpdateState) : UpdateState :=
  { s with firmwareBin := s.firmwareBin.map (· ++ bytes) }

/-- The case `HTTP_EVENT_ON_CONNECTED`. -/
def onConnected (fopenOk : Bool) (s : UpdateState) : UpdateState :=
  match s.firmwareBin with
  | none =>
      if fopenOk then
        { s with firmwareBin := some [], fileOpened := true, firmwareVersion := 0 }
      else { s with fileOpened := false, firmwareVersion := 0 }
  | some content =>
      let bufferTest := freadBufferTest content s.bufferTest
      { s with
        fileOpened := false
        firmwareVersion := versionOf bufferTest
        bufferTest := memset bufferTest 0 0 bufferTestSize
        pointer := 0 }

/-- A chunk is added to `Buffer_Test`. -/
def loadChunk (data : List UInt8) (s : UpdateState) : UpdateState :=
  { s with
    bufferTest := memcpy s.bufferTest s.pointer (ofBytes data) 0 data.length
    pointer := s.pointer + data.length
    loadCounter := s.loadCounter + 1
    dataCounter := s.dataCounter + UInt16.ofNat data.length }

/-- The comparison of the versions, once three chunks have been collected. -/
def compareVersions (fopenOk : Bool) (s : UpdateState) : UpdateState :=
  let s := { s with firmwareVersionServer := versionOf s.bufferTest }
  if s.firmwareVersionServer = s.firmwareVersion then
    { s with
      loadCounter := 0
      firmwareVersion := 0
      firmwareVersionServer := 0
      noUpdate := true }
  else if fopenOk then
    -- The file is removed, opened anew and written.
    let s := fwrite (readBytes s.bufferTest 0 s.dataCounter.toNat)
      { s with firmwareBin := some [], fileOpened := true }
    { s with loadCounter := 0, firmwareVersion := 0, firmwareVersionServer := 0 }
  else
    { s with
      firmwareBin := none
      fileOpened := false
      loadCounter := 0
      firmwareVersion := 0
      firmwareVersionServer := 0 }

/-- The case `HTTP_EVENT_ON_DATA`. -/
def onData (data : List UInt8) (fopenOk : Bool) (s : UpdateState) : UpdateState :=
  if s.firmwareVersion ≠ 0 then
    let s := if s.loadCounter < 3 then loadChunk data s else s
    if s.loadCounter = 3 then compareVersions fopenOk s else s
  else if s.fileOpened then fwrite data s
  else s

/-- The case `HTTP_EVENT_ON_FINISH`. -/
def onFinish (s : UpdateState) : UpdateState :=
  let s := { s with noUpdate := false }
  if s.fileOpened then
    { s with
      fileOpened := false
      firmwareVersion := 0
      firmwareVersionServer := 0
      wifiReady := s.wifiReady ++ [false, true, false, true, false, true] }
  else s

/-- The case `HTTP_EVENT_ERROR`. -/
def onError (s : UpdateState) : UpdateState :=
  let s := { s with noUpdate := false }
  if s.fileOpened then
    { s with
      fileOpened := false
      loadCounter := 0
      firmwareVersion := 0
      firmwareVersionServer := 0
      firmwareBin := none }
  else s

/-- `_http1_event_handler` -/
def http1EventHandler (evt : HttpEvent) (s : UpdateState) : UpdateState :=
  match evt with
  | .error => onError s
  | .onConnected fopenOk => onConnected fopenOk s
  | .headerSent => s
  | .onHeader => s
  | .onData data fopenOk => onData data fopenOk s
  | .onFinish => onFinish s
  | .disconnected => s
  | .redirect => s

/-- The variables as the program starts, with a stored file. -/
def UpdateState.boot (firmwareBin : Option (List UInt8)) (behindBuffer : Memory) :
    UpdateState where
  fileOpened := false
  bufferTest := memset behindBuffer 0 0 bufferTestSize
  firmwareVersion := 0
  firmwareVersionServer := 0
  loadCounter := 0
  pointer := 0
  dataCounter := 0
  noUpdate := false
  firmwareBin := firmwareBin
  wifiReady := []

/-- `HTTP_EVENT_ON_FINISH` does not change the file. -/
theorem onFinish_kept (s : UpdateState) :
    (onFinish s).firmwareBin = s.firmwareBin ∧ (onFinish s).loadCounter = s.loadCounter := by
  unfold onFinish
  dsimp only
  split
  · exact ⟨rfl, rfl⟩
  · exact ⟨rfl, rfl⟩

/-! ## Chunks -/

/-- The data of one event: the client's buffer holds 512 bytes. -/
structure Chunk where
  data : List UInt8
  length_le : data.length ≤ 512

/-- The bytes of a sequence of chunks. -/
def bytesOf (chunks : List Chunk) : List UInt8 :=
  chunks.flatMap Chunk.data

@[simp] theorem bytesOf_nil :
    bytesOf [] = [] := by
  rfl

@[simp] theorem bytesOf_cons (chunk : Chunk) (chunks : List Chunk) :
    bytesOf (chunk :: chunks) = chunk.data ++ bytesOf chunks := by
  rfl

theorem length_bytesOf_le (chunks : List Chunk) :
    (bytesOf chunks).length ≤ 512 * chunks.length := by
  induction chunks with
  | nil => simp
  | cons chunk chunks ih =>
      have := chunk.length_le
      simp only [bytesOf_cons, List.length_append, List.length_cons]
      omega

/-- The events that deliver chunks. -/
def dataEvents (fopenOk : Bool) (chunks : List Chunk) : List HttpEvent :=
  chunks.map fun chunk => .onData chunk.data fopenOk

section Delivery

variable (fopenOk : Bool) {s : UpdateState}

/-- When no file is open and no version is known, data is ignored. -/
theorem run_dataEvents_ignored
    (hversion : s.firmwareVersion = 0) (hopened : s.fileOpened = false) (chunks : List Chunk) :
    run http1EventHandler (dataEvents fopenOk chunks) s = s := by
  induction chunks with
  | nil => rfl
  | cons chunk chunks ih =>
      have hstep : http1EventHandler (.onData chunk.data fopenOk) s = s := by
        simp [http1EventHandler, onData, hversion, hopened]
      show run http1EventHandler (dataEvents fopenOk chunks)
        (http1EventHandler (.onData chunk.data fopenOk) s) = s
      rw [hstep]
      exact ih

/-- When the file is open and no version is to be compared, data is appended. -/
theorem run_dataEvents_stored
    (hversion : s.firmwareVersion = 0) (hopened : s.fileOpened = true)
    {content : List UInt8} (hfile : s.firmwareBin = some content) (chunks : List Chunk) :
    run http1EventHandler (dataEvents fopenOk chunks) s =
      { s with firmwareBin := some (content ++ bytesOf chunks) } := by
  induction chunks generalizing s content with
  | nil =>
      rw [bytesOf_nil, List.append_nil, ← hfile]
      rfl
  | cons chunk chunks ih =>
      have hstep : http1EventHandler (.onData chunk.data fopenOk) s =
          { s with firmwareBin := some (content ++ chunk.data) } := by
        simp [http1EventHandler, onData, hversion, hopened, fwrite, hfile]
      show run http1EventHandler (dataEvents fopenOk chunks)
        (http1EventHandler (.onData chunk.data fopenOk) s) = _
      have hrest := ih (s := { s with firmwareBin := some (content ++ chunk.data) })
        hversion hopened rfl
      rw [hstep, hrest, bytesOf_cons, List.append_assoc]

/-! ## The comparison -/

/-- `Buffer_Test` holds the bytes and zeros after them; `behind` is what lies
behind it. -/
def bufferOf (behind : Memory) (bytes : List UInt8) : Memory :=
  memcpy behind 0 (ofBytes bytes) 0 bufferTestSize

theorem bufferOf_inside
    (behind : Memory) (bytes : List UInt8) {i : Nat} (hi : i < bufferTestSize) :
    bufferOf behind bytes i = ofBytes bytes i := by
  unfold bufferOf
  rw [memcpy_inside _ _ _ _ _ ⟨Nat.zero_le _, by omega⟩, Nat.zero_add, Nat.sub_zero]

theorem bufferOf_outside
    (behind : Memory) (bytes : List UInt8) {i : Nat} (hi : bufferTestSize ≤ i) :
    bufferOf behind bytes i = behind i := by
  unfold bufferOf
  exact memcpy_outside _ _ _ _ _ fun h => by
    have := h.2
    omega

theorem readBytes_bufferOf
    (behind : Memory) {bytes : List UInt8} (hlength : bytes.length ≤ bufferTestSize) :
    readBytes (bufferOf behind bytes) 0 bytes.length = bytes := by
  have hsame : readBytes (bufferOf behind bytes) 0 bytes.length =
      readBytes (ofBytes bytes) 0 bytes.length :=
    readBytes_congr fun i hi => bufferOf_inside _ _ (by omega)
  rw [hsame, readBytes_ofBytes]

/-- The chunks collected so far are in `Buffer_Test`. -/
structure Collected (behind : Memory) (chunks : List Chunk) (s : UpdateState) : Prop where
  buffer : s.bufferTest = bufferOf behind (bytesOf chunks)
  pointer : s.pointer = (bytesOf chunks).length

theorem collected_loadChunk
    {behind : Memory} {chunks : List Chunk} (h : Collected behind chunks s)
    {chunk : Chunk} (hroom : (bytesOf (chunks ++ [chunk])).length ≤ bufferTestSize) :
    Collected behind (chunks ++ [chunk]) (loadChunk chunk.data s) := by
  have hbytes : bytesOf (chunks ++ [chunk]) = bytesOf chunks ++ chunk.data := by
    simp [bytesOf]
  rw [hbytes, List.length_append] at hroom
  refine ⟨?_, ?_⟩
  · unfold loadChunk
    dsimp only
    rw [h.pointer, h.buffer, hbytes]
    funext i
    by_cases hinside : i ∈ block (bytesOf chunks).length chunk.data.length
    · obtain ⟨h₁, h₂⟩ := hinside
      rw [memcpy_inside _ _ _ _ _ ⟨h₁, h₂⟩, bufferOf_inside _ _ (by omega), Nat.zero_add,
        ofBytes_of_lt (by omega), ofBytes_of_lt (by simp; omega), List.getElem_append_right h₁]
    · rw [memcpy_outside _ _ _ _ _ hinside]
      by_cases hbuffer : i < bufferTestSize
      · rw [bufferOf_inside _ _ hbuffer, bufferOf_inside _ _ hbuffer]
        by_cases hbefore : i < (bytesOf chunks).length
        · rw [ofBytes_of_lt hbefore, ofBytes_of_lt (by simp; omega),
            List.getElem_append_left hbefore]
        · have hafter : (bytesOf chunks).length + chunk.data.length ≤ i := by
            by_contra hlt
            exact hinside ⟨by omega, by omega⟩
          rw [ofBytes_of_le (by omega), ofBytes_of_le (by simp; omega)]
      · rw [bufferOf_outside _ _ (by omega), bufferOf_outside _ _ (by omega)]
  · unfold loadChunk
    dsimp only
    rw [h.pointer, hbytes, List.length_append]

/-- The state after some chunks have been collected. -/
def loadChunks (chunks : List Chunk) (s : UpdateState) : UpdateState :=
  chunks.foldl (fun s chunk => loadChunk chunk.data s) s

@[simp] theorem loadChunks_nil (s : UpdateState) :
    loadChunks [] s = s := by
  rfl

@[simp] theorem loadChunks_cons (chunk : Chunk) (chunks : List Chunk) (s : UpdateState) :
    loadChunks (chunk :: chunks) s = loadChunks chunks (loadChunk chunk.data s) := by
  rfl

/-- What is collected in `Buffer_Test` and counted in `Data_Counter`. -/
theorem collected_loadChunks
    {behind : Memory} {before : List Chunk} (h : Collected behind before s)
    (chunks : List Chunk) (hthree : before.length + chunks.length ≤ 3) :
    Collected behind (before ++ chunks) (loadChunks chunks s) ∧
      (loadChunks chunks s).dataCounter =
        s.dataCounter + UInt16.ofNat (bytesOf chunks).length := by
  induction chunks generalizing s before with
  | nil =>
      rw [List.append_nil]
      refine ⟨h, ?_⟩
      show s.dataCounter = s.dataCounter + 0
      rw [UInt16.add_zero]
  | cons chunk chunks ih =>
      rw [List.length_cons] at hthree
      have hroom : (bytesOf (before ++ [chunk])).length ≤ bufferTestSize := by
        have := length_bytesOf_le (before ++ [chunk])
        rw [List.length_append, List.length_singleton] at this
        simp only [bufferTestSize]
        omega
      obtain ⟨hcollected, hcount⟩ := ih (collected_loadChunk h hroom)
        (by rw [List.length_append, List.length_singleton]; omega)
      rw [List.append_assoc] at hcollected
      refine ⟨hcollected, ?_⟩
      rw [loadChunks_cons, hcount, bytesOf_cons, List.length_append, UInt16.ofNat_add,
        ← UInt16.add_assoc]
      rfl

/-- Collecting changes neither the file nor the version it is compared with. -/
theorem loadChunks_kept (chunks : List Chunk) (s : UpdateState) :
    (loadChunks chunks s).firmwareVersion = s.firmwareVersion ∧
      (loadChunks chunks s).fileOpened = s.fileOpened ∧
      (loadChunks chunks s).firmwareBin = s.firmwareBin := by
  induction chunks generalizing s with
  | nil => exact ⟨rfl, rfl, rfl⟩
  | cons chunk chunks ih => exact ih (loadChunk chunk.data s)

/-- A chunk that does not complete the three is collected. -/
theorem onData_collected
    (hversion : s.firmwareVersion ≠ 0) (hcounter : s.loadCounter < 2) (data : List UInt8) :
    http1EventHandler (.onData data fopenOk) s = loadChunk data s := by
  have hmore : (loadChunk data s).loadCounter ≠ 3 := by
    show s.loadCounter + 1 ≠ 3
    omega
  have hload : (if s.loadCounter < 3 then loadChunk data s else s) = loadChunk data s :=
    if_pos (by omega)
  show onData data fopenOk s = _
  unfold onData
  dsimp only
  rw [if_pos hversion, hload, if_neg hmore]

/-- The third chunk leads to the comparison. -/
theorem onData_compared
    (hversion : s.firmwareVersion ≠ 0) (hcounter : s.loadCounter = 2) (data : List UInt8) :
    http1EventHandler (.onData data fopenOk) s = compareVersions fopenOk (loadChunk data s) := by
  have hthree : (loadChunk data s).loadCounter = 3 := by
    show s.loadCounter + 1 = 3
    omega
  have hload : (if s.loadCounter < 3 then loadChunk data s else s) = loadChunk data s :=
    if_pos (by omega)
  show onData data fopenOk s = _
  unfold onData
  dsimp only
  rw [if_pos hversion, hload, if_pos hthree]

/-- Fewer chunks than are missing to three are only collected. -/
theorem run_dataEvents_few
    (hversion : s.firmwareVersion ≠ 0) (chunks : List Chunk)
    (hcounter : s.loadCounter + chunks.length < 3) :
    run http1EventHandler (dataEvents fopenOk chunks) s = loadChunks chunks s := by
  induction chunks generalizing s with
  | nil => rfl
  | cons chunk chunks ih =>
      rw [List.length_cons] at hcounter
      simp only [dataEvents, List.map_cons, run_cons]
      rw [onData_collected fopenOk hversion (by omega)]
      have hcounter' : (loadChunk chunk.data s).loadCounter + chunks.length < 3 := by
        show s.loadCounter + 1 + chunks.length < 3
        omega
      exact ih (s := loadChunk chunk.data s) hversion hcounter'

/-- The chunks that complete three are compared. -/
theorem run_dataEvents_compared
    (hversion : s.firmwareVersion ≠ 0) (chunks : List Chunk) (hchunks : chunks ≠ [])
    (hcounter : s.loadCounter + chunks.length = 3) (rest : List Chunk) :
    run http1EventHandler (dataEvents fopenOk (chunks ++ rest)) s =
      run http1EventHandler (dataEvents fopenOk rest)
        (compareVersions fopenOk (loadChunks chunks s)) := by
  induction chunks generalizing s with
  | nil => exact absurd rfl hchunks
  | cons chunk chunks ih =>
      rw [List.length_cons] at hcounter
      simp only [dataEvents, List.cons_append, List.map_cons, run_cons]
      cases chunks with
      | nil =>
          rw [onData_compared fopenOk hversion (by simpa using hcounter)]
          rfl
      | cons second chunks =>
          rw [List.length_cons] at hcounter
          rw [onData_collected fopenOk hversion (by omega)]
          have hcounter' :
              (loadChunk chunk.data s).loadCounter + (second :: chunks).length = 3 := by
            show s.loadCounter + 1 + (chunks.length + 1) = 3
            omega
          exact ih (s := loadChunk chunk.data s) hversion (List.cons_ne_nil _ _) hcounter'

theorem compareVersions_same
    (h : versionOf s.bufferTest = s.firmwareVersion) :
    compareVersions fopenOk s =
      { s with
        loadCounter := 0
        firmwareVersion := 0
        firmwareVersionServer := 0
        noUpdate := true } := by
  unfold compareVersions
  dsimp only
  rw [if_pos h]

/-- When the versions differ, `Data_Counter` bytes of `Buffer_Test` begin the
new file. -/
theorem compareVersions_replaced
    (h : versionOf s.bufferTest ≠ s.firmwareVersion) :
    compareVersions true s =
      { s with
        firmwareBin := some (readBytes s.bufferTest 0 s.dataCounter.toNat)
        fileOpened := true
        loadCounter := 0
        firmwareVersion := 0
        firmwareVersionServer := 0 } := by
  unfold compareVersions fwrite
  dsimp only
  rw [if_neg h, if_pos rfl]
  rfl

theorem compareVersions_unopened
    (h : versionOf s.bufferTest ≠ s.firmwareVersion) :
    compareVersions false s =
      { s with
        firmwareBin := none
        fileOpened := false
        loadCounter := 0
        firmwareVersion := 0
        firmwareVersionServer := 0 } := by
  unfold compareVersions
  dsimp only
  rw [if_neg h]
  rfl

/-- The version of an image in `Buffer_Test`. -/
theorem versionOf_congr
    {m m' : Memory} (h : ∀ i < bufferTestSize, m i = m' i) :
    versionOf m = versionOf m' := by
  unfold versionOf
  rw [h 1172 (by decide), h 1173 (by decide)]

end Delivery

/-! ## The beginning of a session -/

/-- The version that `HTTP_EVENT_ON_CONNECTED` finds in the stored file. -/
def storedVersion (content : List UInt8) (s : UpdateState) : Nat :=
  versionOf (freadBufferTest content s.bufferTest)

/-- The version of an image, zero bytes standing for those it does not reach. -/
def imageVersion (bytes : List UInt8) : Nat :=
  versionOf (ofBytes bytes)

section Connected

variable {s : UpdateState} {content : List UInt8}

theorem onConnected_stored
    (fopenOk : Bool) (hfile : s.firmwareBin = some content) :
    (onConnected fopenOk s).firmwareVersion = storedVersion content s ∧
      (onConnected fopenOk s).fileOpened = false ∧
      (onConnected fopenOk s).firmwareBin = some content ∧
      (onConnected fopenOk s).loadCounter = s.loadCounter ∧
      (onConnected fopenOk s).dataCounter = s.dataCounter ∧
      Collected s.bufferTest [] (onConnected fopenOk s) := by
  have hconnected : onConnected fopenOk s =
      { s with
        fileOpened := false
        firmwareVersion := storedVersion content s
        bufferTest := memset (freadBufferTest content s.bufferTest) 0 0 bufferTestSize
        pointer := 0 } := by
    unfold onConnected
    rw [hfile]
    rfl
  rw [hconnected]
  refine ⟨rfl, rfl, hfile, rfl, rfl, ?_, rfl⟩
  dsimp only
  funext i
  by_cases hi : i < bufferTestSize
  · rw [memset_inside _ _ _ ⟨Nat.zero_le _, by omega⟩, bufferOf_inside _ _ hi,
      ofBytes_of_le (by simp)]
  · have houtside : ∀ n ≤ bufferTestSize, i ∉ block 0 n := fun n hn h => by
      have := h.2
      omega
    rw [memset_outside _ _ _ (houtside _ le_rfl), bufferOf_outside _ _ (by omega)]
    exact memcpy_outside _ _ _ _ _ (houtside _ (min_le_right _ _))

theorem onConnected_absent
    (hfile : s.firmwareBin = none) :
    onConnected true s =
      { s with firmwareBin := some [], fileOpened := true, firmwareVersion := 0 } := by
  unfold onConnected
  rw [hfile]
  rfl

end Connected

end UnitUpdate
end AvensysEsp32
