import AvensysEsp32.UnitComm.ConnectToUnit

/-!
# The connected state

One iteration of `Unit_event_task` in `WBM_Connected`, as the stages of its
source in their order: the daily firmware check, the debug and polling
requests, the timeout, the reception of at most one reply, and the scheduler
that sends at most one request for the bits of `Read_Eeprom_Request_Index`.
-/

namespace AvensysEsp32
namespace UnitComm

open Foundation Serial

/-! ## Timers and requests -/

/-- The check for new unit firmware, once in 24 hours. -/
def unitUpdateTrigger (inp : IterationInput) (s : UnitState) : UnitState :=
  let s :=
    { s with unitUpdateCounter := s.unitUpdateCounter + tickReading inp.updateTicks }
  if s.unitUpdateCounter ≥ 86400000 then
    let s := { s with unitUpdateCounter := 0 }
    if s.unitPartitionState ∧ ¬ s.unitUpdateTaskFlag ∧ ¬ s.bootloaderStateFlag then
      s.emit .createUnitUpdateTask
    else s
  else s

/-- The correction of `LastReceivedPollingBase_TimerMilliseconds`. -/
def clampLastReceived (inp : IterationInput) (s : UnitState) : UnitState :=
  if inp.millis 0 < s.gKTSGlobal.lastReceivedPollingBaseTimer then
    { s with
      gKTSGlobal := { s.gKTSGlobal with lastReceivedPollingBaseTimer := inp.millis 1 } }
  else s

/-- The debug request: the timers restart whether or not it is sent. -/
def debugRequest (inp : IterationInput) (s : UnitState) : UnitState :=
  if s.gKTSGlobal.runningMode = .running then
    if expired inp 2 s.gKTSGlobal.pollingDebugDataTimer pollingDebugDataMilliseconds then
      let s :=
        if s.eepromDataReceived then s
        else
          { s with eepromDataReceived := true }.emit
            (.uartWrite (comSendRequestDataDebug inp.stack))
      { s with
        gKTSGlobal :=
          { s.gKTSGlobal with
            pollingDebugDataTimer := inp.millis 4
            pollingBaseTimer := inp.millis 5 }
        globalTimeoutMilliseconds := inp.millis 6 }
    else s
  else s

/-- How often the unit is polled. -/
def pollingBaseMilliseconds (mode : RunningMode) : UInt32 :=
  if mode = .powerOff then pollingBasePowerOffMilliseconds
  else pollingBasePowerOnSerialMilliseconds

/-- The polling request: the timers restart whether or not it is sent. -/
def pollingRequest (inp : IterationInput) (s : UnitState) : UnitState :=
  if s.gKTSGlobal.runningMode = .powerOff ∨ s.gKTSGlobal.runningMode = .running then
    if expired inp 7 s.gKTSGlobal.pollingBaseTimer
        (pollingBaseMilliseconds s.gKTSGlobal.runningMode) then
      let s :=
        if s.eepromDataReceived then s
        else sendPollingBase inp { s with eepromDataReceived := true }
      { s with
        gKTSGlobal := { s.gKTSGlobal with pollingBaseTimer := inp.millis 9 }
        globalTimeoutMilliseconds := inp.millis 10 }
    else s
  else s

/-- The loss of the unit. -/
def globalTimeout (inp : IterationInput) (s : UnitState) : UnitState :=
  if expired inp 11 s.globalTimeoutMilliseconds timeoutMilliseconds then
    { s with
      wbmComState := .wbmError
      retriesCounter := 0
      eepromDataReceived := false
      readEepromRequestIndex := 0
      extCnt := { s.extCnt with initialized := false } }
  else s

/-- The stages before the reception. -/
def beforeReceive (inp : IterationInput) (s : UnitState) : UnitState :=
  let s := unitUpdateTrigger inp s
  let s := clampLastReceived inp s
  let s := debugRequest inp s
  let s := pollingRequest inp s
  globalTimeout inp s

/-! ## Reception -/

/-- The replies that are handled once connected. -/
inductive Reply
  | pollingBase
  | dataDebug
  | readEeprom
  | writeEeprom
deriving DecidableEq, Repr

/-- The reply that a command byte names. -/
def replyOf (command : UInt8) : Option Reply :=
  if command = commandPollingBase then some .pollingBase
  else if command = commandDataDebug then some .dataDebug
  else if command = commandReadEeprom then some .readEeprom
  else if command = commandWriteEeprom then some .writeEeprom
  else none

/-- `(buff_ser1[IHM1_POS_CRC_LO] - 4) * sizeof(uint8_t)` as a `size_t`. -/
def dataLength (buffer : Memory) : UInt32 :=
  (buffer ihm1PosCrcLo).toUInt32 - 4

/-- The data copied out of a polling or debug reply. -/
def replyData (buffer : Memory) : List UInt8 :=
  readBytes buffer ihm1StartData ((buffer ihm1PosCrcLo).toNat - 4)

/-- The data of a reply given to MQTT and, padded to `minLength`, to BLE. -/
def publishReply (characteristic : BleAttribute) (minLength : Nat) (s : UnitState) :
    UnitState :=
  let data := replyData s.port.buffSer1
  let length := (dataLength s.port.buffSer1).toNat
  let s :=
    if s.isMqttReady then s.emit (.mqttPublish characteristic s.address data) else s
  if length < minLength then
    s.emit (.setAttrValue characteristic minLength
      (data ++ List.replicate (minLength - length) 0))
  else s.emit (.setAttrValue characteristic (length % 65536) data)

/-- The image given to MQTT and BLE after a section has been read. -/
def publishEeprom (s : UnitState) : UnitState :=
  let s :=
    if s.isMqttReady then
      s.emit (.mqttPublish .eepromData s.address (eepromBytes s.gRDEeprom))
    else s
  s.emit (.setAttrValue .eepromData sizeofEeprom (eepromBytes s.gRDEeprom))

/-- The handling of a reply in `buff_ser1`. -/
def handleReply (inp : IterationInput) (reply : Reply) (s : UnitState) : UnitState :=
  match reply with
  | .pollingBase =>
      let s := publishReply .polling 40 s
      let s := pollingBaseDataParse (inp.millis 14) s.port.buffSer1 s
      { s with eepromDataReceived := false }
  | .dataDebug =>
      let s := publishReply .debugData 48 s
      let s := debugDataParse s.port.buffSer1 s
      { s with eepromDataReceived := false }
  | .readEeprom =>
      let s := publishEeprom (readEepromDataParse s.port.buffSer1 s)
      { s with eepromDataReceived := false }
  | .writeEeprom =>
      let s := writeEepromDataParse s.port.buffSer1 s
      { s with eepromDataReceived := false }

/-- A negative result clears the flag and `buff_ser1`. -/
def receiveError (s : UnitState) : UnitState :=
  { s with
    eepromDataReceived := false
    port := { s.port with buffSer1 := memset s.port.buffSer1 0 0 rxBufferSize } }

/-- `Read_Message` and what its result leads to. -/
def receive (inp : IterationInput) (s : UnitState) : UnitState :=
  let message := readMessage s.port
  let s := { s with valRet := message.1, port := message.2 }
  if s.valRet > runDownload then
    let s := { s with globalTimeoutMilliseconds := inp.millis 13 }
    match replyOf (s.port.buffSer1 ihm1TypeComand) with
    | some reply => handleReply inp reply s
    | none => s
  else if s.valRet < 0 then receiveError s
  else s

/-! ## The scheduler -/

/-- What a bit of `Read_Eeprom_Request_Index` asks for.  The requests of the
buttons, boost, filter and stepless bits are commented out. -/
inductive Service
  | read (sec : EepromSection)
  | write (sec : EepromSection)
  | nothing
deriving DecidableEq, Repr

/-- The bits in the order the scheduler tests them: the bit, the mask that
clears it, and the request. -/
def schedule : List (BitVec 16 × BitVec 16 × Service) :=
  [(0x1, 0xFFFE, .read .info),
    (0x2, 0xFFFD, .read .settingPar),
    (0x4, 0xFFFB, .read .setTemp),
    (0x8, 0xFFF7, .read .dayProg),
    (0x10, 0xFFEF, .nothing),
    (0x20, 0xFFDF, .nothing),
    (0x40, 0xFFBF, .nothing),
    (0x80, 0xFF7F, .nothing),
    (0x100, 0xFEFF, .nothing),
    (0x200, 0xFDFF, .nothing),
    (0x800, 0xF7FF, .write .info),
    (0x1000, 0xEFFF, .write .settingPar),
    (0x2000, 0xDFFF, .write .setTemp),
    (0x4000, 0xBFFF, .write .dayProg),
    (0x8000, 0x7FFF, .write .hwSetting)]

/-- The first bit of the schedule that is set. -/
def nextService (index : BitVec 16) : Option (BitVec 16 × BitVec 16 × Service) :=
  schedule.find? fun entry => index &&& entry.1 = entry.1

/-- `Com_SendRequest_WriteEeprom1` -/
def sendWriteEeprom (inp : IterationInput) (sec : EepromSection) (s : UnitState) : UnitState :=
  match comSendRequestWriteEeprom1 sec s.gRDEeprom inp.stack with
  | some bytes => s.emit (.uartWrite bytes)
  | none => s

def sendService (inp : IterationInput) (service : Service) (s : UnitState) : UnitState :=
  match service with
  | .read sec => sendReadEeprom inp sec s
  | .write sec => sendWriteEeprom inp sec s
  | .nothing => s

/-! ## Client writes -/

/-- The write bits a client's image sets. -/
def fullEepromWrite : BitVec 16 :=
  0x800 ||| 0x1000 ||| 0x2000 ||| 0x4000 ||| 0x8000

/-- `ble_apply_legacy242_eeprom`: for an image of 241 bytes only. -/
def bleApplyLegacy242Eeprom (legacy : List UInt8) (gRDEeprom : Memory) : Option Memory :=
  if sizeofEeprom ≠ 241 ∨ legacy.length ≠ 242 then none
  else
    let src := ofBytes legacy
    let dst := memset gRDEeprom 0 0 sizeofEeprom
    let dst := memcpy dst 0 src 0 126
    let dst := Function.update dst 126 (src 128)
    let dst := memcpy dst 127 src 129 6
    let dst := memcpy dst 133 src 135 19
    let dst := Function.update dst 152 (src 154)
    let dst := memcpy dst 153 src 155 84
    let dst := Function.update dst 237 (src 239)
    let dst := Function.update dst 238 (src 241)
    let dst := Function.update dst 239 (src 240)
    some (Function.update dst 240 0)

/-- The copy both apply functions make of a payload. -/
def copyEepromPayload (payload : List UInt8) (gRDEeprom : Memory) : Memory :=
  memcpy (memset gRDEeprom 0 0 sizeofEeprom) 0 (ofBytes payload) 0
    (min payload.length sizeofEeprom)

/-- `ble_apply_eeprom_payload` -/
def bleApplyEepromPayload (payload : List UInt8) (gRDEeprom : Memory) : Option Memory :=
  if payload.length < 241 then none
  else
    match bleApplyLegacy242Eeprom payload gRDEeprom with
    | some m => some m
    | none => some (copyEepromPayload payload gRDEeprom)

/-- `mqtt_apply_eeprom_payload` -/
def mqttApplyEepromPayload (payload : List UInt8) (gRDEeprom : Memory) : Option Memory :=
  if payload.length < 241 then none
  else some (copyEepromPayload payload gRDEeprom)

/-- A client's write of the image: by `handle_write_event` of the BLE server,
or by the event handler of the MQTT client. -/
def clientWrite (w : ClientWrite) (s : UnitState) : UnitState :=
  if w.overBle then
    match bleApplyEepromPayload w.payload s.gRDEeprom with
    | some m =>
        { s with
          gRDEeprom := m
          readEepromRequestIndex := s.readEepromRequestIndex ||| fullEepromWrite
        }.emit (.setAttrValue .eepromData sizeofEeprom (eepromBytes m))
    | none => s
  else
    match mqttApplyEepromPayload w.payload s.gRDEeprom with
    | some m =>
        { s with
          gRDEeprom := m
          readEepromRequestIndex := s.readEepromRequestIndex ||| fullEepromWrite }
    | none => s

/-- The scheduler.  The bit is cleared after the request has been sent, and a
client may write while it is being sent. -/
def scheduler (inp : IterationInput) (s : UnitState) : UnitState :=
  if s.readEepromRequestIndex ≠ 0 ∧ ¬ s.eepromDataReceived then
    match nextService s.readEepromRequestIndex with
    | some (_, mask, service) =>
        let s := sendService inp service s
        let s := inp.duringTx.foldl (fun s w => clientWrite w s) s
        { s with
          eepromDataReceived := true
          readEepromRequestIndex := s.readEepromRequestIndex &&& mask }
    | none => s
  else s

/-- The case `WBM_Connected`. -/
def connectedIteration (inp : IterationInput) (s : UnitState) : UnitState :=
  scheduler inp (receive inp (beforeReceive inp s))

/-! ## What the stages before the reception leave alone -/

/-- Two states that differ at most in timers, outputs, the outstanding request,
and what the loss of the unit resets. -/
structure SameData (s s' : UnitState) : Prop where
  port : s'.port = s.port
  device : s'.device = s.device
  firmwareBin : s'.firmwareBin = s.firmwareBin
  currentState : s'.currentState = s.currentState
  gKTSData : s'.gKTSData = s.gKTSData
  gKTSDebugData : s'.gKTSDebugData = s.gKTSDebugData
  runningMode : s'.gKTSGlobal.runningMode = s.gKTSGlobal.runningMode
  gRDEeprom : s'.gRDEeprom = s.gRDEeprom
  cnt : s'.extCnt.cnt = s.extCnt.cnt
  address : s'.address = s.address
  isMqttReady : s'.isMqttReady = s.isMqttReady

theorem SameData.refl (s : UnitState) :
    SameData s s :=
  ⟨rfl, rfl, rfl, rfl, rfl, rfl, rfl, rfl, rfl, rfl, rfl⟩

theorem SameData.trans
    {s₁ s₂ s₃ : UnitState}
    (h₁ : SameData s₁ s₂) (h₂ : SameData s₂ s₃) :
    SameData s₁ s₃ where
  port := h₂.port.trans h₁.port
  device := h₂.device.trans h₁.device
  firmwareBin := h₂.firmwareBin.trans h₁.firmwareBin
  currentState := h₂.currentState.trans h₁.currentState
  gKTSData := h₂.gKTSData.trans h₁.gKTSData
  gKTSDebugData := h₂.gKTSDebugData.trans h₁.gKTSDebugData
  runningMode := h₂.runningMode.trans h₁.runningMode
  gRDEeprom := h₂.gRDEeprom.trans h₁.gRDEeprom
  cnt := h₂.cnt.trans h₁.cnt
  address := h₂.address.trans h₁.address
  isMqttReady := h₂.isMqttReady.trans h₁.isMqttReady

/-- What one of the stages that send requests can have done to the outstanding
request: nothing, or sent one when none was outstanding. -/
structure Requested (frames : List (List UInt8)) (s s' : UnitState) : Prop where
  wbmComState : s'.wbmComState = s.wbmComState
  index : s'.readEepromRequestIndex = s.readEepromRequestIndex
  extCnt : s'.extCnt = s.extCnt
  sent :
    (s'.outputs = s.outputs ∧ s'.eepromDataReceived = s.eepromDataReceived) ∨
      ∃ w ∈ frames,
        s.eepromDataReceived = false ∧ s'.eepromDataReceived = true ∧
          s'.outputs = s.outputs ++ [.uartWrite w]

section BeforeReceive

variable (inp : IterationInput) (s : UnitState)

theorem sameData_unitUpdateTrigger :
    SameData s (unitUpdateTrigger inp s) := by
  unfold unitUpdateTrigger
  dsimp only
  split
  · split
    · constructor <;> rfl
    · constructor <;> rfl
  · constructor <;> rfl

theorem unitUpdateTrigger_link :
    (unitUpdateTrigger inp s).wbmComState = s.wbmComState ∧
      (unitUpdateTrigger inp s).readEepromRequestIndex = s.readEepromRequestIndex ∧
      (unitUpdateTrigger inp s).extCnt = s.extCnt ∧
      (unitUpdateTrigger inp s).eepromDataReceived = s.eepromDataReceived ∧
      (unitUpdateTrigger inp s).globalTimeoutMilliseconds = s.globalTimeoutMilliseconds ∧
      (unitUpdateTrigger inp s).gKTSGlobal = s.gKTSGlobal ∧
      ((unitUpdateTrigger inp s).outputs = s.outputs ∨
        (unitUpdateTrigger inp s).outputs = s.outputs ++ [.createUnitUpdateTask]) := by
  unfold unitUpdateTrigger
  dsimp only
  split
  · split
    · exact ⟨rfl, rfl, rfl, rfl, rfl, rfl, Or.inr rfl⟩
    · exact ⟨rfl, rfl, rfl, rfl, rfl, rfl, Or.inl rfl⟩
  · exact ⟨rfl, rfl, rfl, rfl, rfl, rfl, Or.inl rfl⟩

theorem sameData_clampLastReceived :
    SameData s (clampLastReceived inp s) := by
  unfold clampLastReceived
  split
  · constructor <;> rfl
  · exact SameData.refl s

theorem requested_clampLastReceived :
    Requested [] s (clampLastReceived inp s) := by
  unfold clampLastReceived
  split
  · exact ⟨rfl, rfl, rfl, Or.inl ⟨rfl, rfl⟩⟩
  · exact ⟨rfl, rfl, rfl, Or.inl ⟨rfl, rfl⟩⟩

theorem sameData_debugRequest :
    SameData s (debugRequest inp s) := by
  unfold debugRequest
  dsimp only
  split
  · split
    · split
      · constructor <;> rfl
      · constructor <;> rfl
    · exact SameData.refl s
  · exact SameData.refl s

theorem requested_debugRequest :
    Requested [comSendRequestDataDebug inp.stack] s (debugRequest inp s) := by
  unfold debugRequest
  dsimp only
  split
  · split
    · split
      · exact ⟨rfl, rfl, rfl, Or.inl ⟨rfl, rfl⟩⟩
      · rename_i hflag
        exact ⟨rfl, rfl, rfl,
          Or.inr ⟨_, List.mem_singleton_self _, Bool.eq_false_iff.mpr hflag, rfl, rfl⟩⟩
    · exact ⟨rfl, rfl, rfl, Or.inl ⟨rfl, rfl⟩⟩
  · exact ⟨rfl, rfl, rfl, Or.inl ⟨rfl, rfl⟩⟩

theorem sameData_pollingRequest :
    SameData s (pollingRequest inp s) := by
  unfold pollingRequest
  dsimp only
  split
  · split
    · split
      · constructor <;> rfl
      · constructor <;> rfl
    · exact SameData.refl s
  · exact SameData.refl s

theorem requested_pollingRequest :
    Requested [comSendRequestPollingBase s.device inp.stack] s (pollingRequest inp s) := by
  unfold pollingRequest
  dsimp only
  split
  · split
    · split
      · exact ⟨rfl, rfl, rfl, Or.inl ⟨rfl, rfl⟩⟩
      · rename_i hflag
        exact ⟨rfl, rfl, rfl,
          Or.inr ⟨_, List.mem_singleton_self _, Bool.eq_false_iff.mpr hflag, rfl, rfl⟩⟩
    · exact ⟨rfl, rfl, rfl, Or.inl ⟨rfl, rfl⟩⟩
  · exact ⟨rfl, rfl, rfl, Or.inl ⟨rfl, rfl⟩⟩

theorem sameData_globalTimeout :
    SameData s (globalTimeout inp s) := by
  unfold globalTimeout
  split
  · constructor <;> rfl
  · exact SameData.refl s

/-- The state after the requests, before the timeout is tested. -/
def afterRequests : UnitState :=
  pollingRequest inp (debugRequest inp (clampLastReceived inp (unitUpdateTrigger inp s)))

theorem beforeReceive_eq :
    beforeReceive inp s = globalTimeout inp (afterRequests inp s) := by
  rfl

theorem sameData_afterRequests :
    SameData s (afterRequests inp s) :=
  (((sameData_unitUpdateTrigger inp s).trans (sameData_clampLastReceived inp _)).trans
    (sameData_debugRequest inp _)).trans (sameData_pollingRequest inp _)

theorem sameData_beforeReceive :
    SameData s (beforeReceive inp s) :=
  (sameData_afterRequests inp s).trans (sameData_globalTimeout inp _)

/-- The two requests a timer can cause. -/
def timerRequests : List (List UInt8) :=
  [comSendRequestDataDebug inp.stack, comSendRequestPollingBase s.device inp.stack]

theorem Requested.trans
    {frames : List (List UInt8)} {s₁ s₂ s₃ : UnitState}
    (h₁ : Requested frames s₁ s₂) (h₂ : Requested frames s₂ s₃) :
    Requested frames s₁ s₃ := by
  refine ⟨h₂.wbmComState.trans h₁.wbmComState, h₂.index.trans h₁.index,
    h₂.extCnt.trans h₁.extCnt, ?_⟩
  rcases h₁.sent with ⟨hout₁, hflag₁⟩ | ⟨w₁, hw₁, hfalse₁, htrue₁, hout₁⟩
  · rcases h₂.sent with ⟨hout₂, hflag₂⟩ | ⟨w₂, hw₂, hfalse₂, htrue₂, hout₂⟩
    · exact Or.inl ⟨hout₂.trans hout₁, hflag₂.trans hflag₁⟩
    · exact Or.inr ⟨w₂, hw₂, hflag₁ ▸ hfalse₂, htrue₂, by rw [hout₂, hout₁]⟩
  · rcases h₂.sent with ⟨hout₂, hflag₂⟩ | ⟨w₂, hw₂, hfalse₂, htrue₂, hout₂⟩
    · exact Or.inr ⟨w₁, hw₁, hfalse₁, hflag₂.trans htrue₁, by rw [hout₂, hout₁]⟩
    · rw [htrue₁] at hfalse₂
      cases hfalse₂

theorem Requested.mono
    {frames frames' : List (List UInt8)} {s s' : UnitState}
    (h : Requested frames s s') (hsub : frames ⊆ frames') :
    Requested frames' s s' := by
  refine ⟨h.wbmComState, h.index, h.extCnt, ?_⟩
  rcases h.sent with hsame | ⟨w, hw, hrest⟩
  · exact Or.inl hsame
  · exact Or.inr ⟨w, hsub hw, hrest⟩

/-- Once the daily check is over, the stages send at most one request, and
only when none was outstanding. -/
theorem requested_afterRequests :
    Requested (timerRequests inp s) (unitUpdateTrigger inp s) (afterRequests inp s) := by
  have hdevice :
      (debugRequest inp (clampLastReceived inp (unitUpdateTrigger inp s))).device =
        s.device :=
    (((sameData_unitUpdateTrigger inp s).trans (sameData_clampLastReceived inp _)).trans
      (sameData_debugRequest inp _)).device
  have hclamp := requested_clampLastReceived inp (unitUpdateTrigger inp s)
  have hdebug := requested_debugRequest inp (clampLastReceived inp (unitUpdateTrigger inp s))
  have hpolling := requested_pollingRequest inp
    (debugRequest inp (clampLastReceived inp (unitUpdateTrigger inp s)))
  rw [hdevice] at hpolling
  exact ((hclamp.mono (by simp)).trans (hdebug.mono (by simp [timerRequests]))).trans
    (hpolling.mono (by simp [timerRequests]))

/-- The requests leave alone what the timeout clears. -/
theorem afterRequests_link :
    (afterRequests inp s).wbmComState = s.wbmComState ∧
      (afterRequests inp s).readEepromRequestIndex = s.readEepromRequestIndex ∧
      (afterRequests inp s).extCnt = s.extCnt := by
  obtain ⟨hstate, hindex, hext, -⟩ := unitUpdateTrigger_link inp s
  have hrequested := requested_afterRequests inp s
  exact ⟨hrequested.wbmComState.trans hstate, hrequested.index.trans hindex,
    hrequested.extCnt.trans hext⟩

/-- The timeout does nothing, or ends the connection and what was pending. -/
theorem beforeReceive_cases :
    beforeReceive inp s = afterRequests inp s ∨
      (beforeReceive inp s).wbmComState = .wbmError ∧
        (beforeReceive inp s).readEepromRequestIndex = 0 := by
  rw [beforeReceive_eq]
  unfold globalTimeout
  split
  · exact Or.inr ⟨rfl, rfl⟩
  · exact Or.inl rfl

theorem beforeReceive_of_connected
    (hstill : (beforeReceive inp s).wbmComState = .wbmConnected) :
    beforeReceive inp s = afterRequests inp s := by
  rcases beforeReceive_cases inp s with hafter | ⟨hlost, -⟩
  · exact hafter
  · rw [hlost] at hstill
    cases hstill

/-- The stages before the reception end connected, or with the unit lost. -/
theorem beforeReceive_wbmComState :
    (beforeReceive inp s).wbmComState = s.wbmComState ∨
      (beforeReceive inp s).wbmComState = .wbmError := by
  rcases beforeReceive_cases inp s with hafter | ⟨hlost, -⟩
  · rw [hafter]
    exact Or.inl (afterRequests_link inp s).1
  · exact Or.inr hlost

/-- The timeout is measured from the last request timer, or from before. -/
theorem afterRequests_globalTimeoutMilliseconds :
    (afterRequests inp s).globalTimeoutMilliseconds = s.globalTimeoutMilliseconds ∨
      (afterRequests inp s).globalTimeoutMilliseconds = inp.millis 6 ∨
      (afterRequests inp s).globalTimeoutMilliseconds = inp.millis 10 := by
  have hclamp : ∀ s, (clampLastReceived inp s).globalTimeoutMilliseconds =
      s.globalTimeoutMilliseconds := by
    intro s
    unfold clampLastReceived
    split <;> rfl
  have hdebug : ∀ s, (debugRequest inp s).globalTimeoutMilliseconds =
        s.globalTimeoutMilliseconds ∨
      (debugRequest inp s).globalTimeoutMilliseconds = inp.millis 6 := by
    intro s
    unfold debugRequest
    dsimp only
    split
    · split
      · exact Or.inr rfl
      · exact Or.inl rfl
    · exact Or.inl rfl
  have hpolling : ∀ s, (pollingRequest inp s).globalTimeoutMilliseconds =
        s.globalTimeoutMilliseconds ∨
      (pollingRequest inp s).globalTimeoutMilliseconds = inp.millis 10 := by
    intro s
    unfold pollingRequest
    dsimp only
    split
    · split
      · exact Or.inr rfl
      · exact Or.inl rfl
    · exact Or.inl rfl
  have htrigger := (unitUpdateTrigger_link inp s).2.2.2.2.1
  unfold afterRequests
  rcases hpolling (debugRequest inp (clampLastReceived inp (unitUpdateTrigger inp s)))
    with hp | hp
  · rcases hdebug (clampLastReceived inp (unitUpdateTrigger inp s)) with hd | hd
    · exact Or.inl (by rw [hp, hd, hclamp, htrigger])
    · exact Or.inr (Or.inl (by rw [hp, hd]))
  · exact Or.inr (Or.inr hp)

/-- While the clock stands still at the last restart of the timeout, the unit
is not lost. -/
theorem beforeReceive_still :
    (beforeReceive (.still s.globalTimeoutMilliseconds) s).wbmComState = s.wbmComState := by
  have htimer := afterRequests_globalTimeoutMilliseconds (.still s.globalTimeoutMilliseconds) s
  simp only [IterationInput.millis_still, or_self] at htimer
  have hexp := expired_still s.globalTimeoutMilliseconds timeoutMilliseconds 11 (by decide)
  rw [beforeReceive_eq]
  unfold globalTimeout
  rw [htimer, hexp]
  exact (afterRequests_link _ s).1

end BeforeReceive

/-! ## What the reception does -/

section Receive

variable (inp : IterationInput) (s : UnitState)

/-- What is given to MQTT and BLE is no message to the unit. -/
theorem publishReply_eq
    (characteristic : BleAttribute) (minLength : Nat) :
    ∃ published, uartWrites published = [] ∧
      publishReply characteristic minLength s = { s with outputs := s.outputs ++ published } := by
  unfold publishReply UnitState.emit
  dsimp only
  split
  · split
    · refine ⟨_, ?_, congrArg (fun outputs => { s with outputs }) (List.append_assoc ..)⟩
      rfl
    · exact ⟨[.setAttrValue _ _ _], rfl, rfl⟩
  · split
    · refine ⟨_, ?_, congrArg (fun outputs => { s with outputs }) (List.append_assoc ..)⟩
      rfl
    · exact ⟨[.setAttrValue _ _ _], rfl, rfl⟩

theorem publishEeprom_eq :
    ∃ published, uartWrites published = [] ∧
      publishEeprom s = { s with outputs := s.outputs ++ published } := by
  unfold publishEeprom UnitState.emit
  dsimp only
  split
  · refine ⟨_, ?_, congrArg (fun outputs => { s with outputs }) (List.append_assoc ..)⟩
    rfl
  · exact ⟨[.setAttrValue _ _ _], rfl, rfl⟩

/-- What a reply does to the state when it is parsed. -/
def parseReply (reply : Reply) : UnitState :=
  match reply with
  | .pollingBase => pollingBaseDataParse (inp.millis 14) s.port.buffSer1 s
  | .dataDebug => debugDataParse s.port.buffSer1 s
  | .readEeprom => readEepromDataParse s.port.buffSer1 s
  | .writeEeprom => writeEepromDataParse s.port.buffSer1 s

/-- A reply is parsed and published, and the flag is taken down. -/
theorem handleReply_eq (reply : Reply) :
    ∃ published, uartWrites published = [] ∧
      handleReply inp reply s =
        { parseReply inp s reply with
          outputs := s.outputs ++ published
          eepromDataReceived := false } := by
  cases reply with
  | pollingBase =>
      obtain ⟨published, hnone, heq⟩ := publishReply_eq s .polling 40
      refine ⟨published, hnone, ?_⟩
      unfold handleReply parseReply
      dsimp only
      rw [heq, pollingBaseDataParse_eq, pollingBaseDataParse_eq]
      rfl
  | dataDebug =>
      obtain ⟨published, hnone, heq⟩ := publishReply_eq s .debugData 48
      refine ⟨published, hnone, ?_⟩
      unfold handleReply
      dsimp only
      rw [heq]
      rfl
  | readEeprom =>
      obtain ⟨published, hnone, heq⟩ := publishEeprom_eq (readEepromDataParse s.port.buffSer1 s)
      refine ⟨published, hnone, ?_⟩
      unfold handleReply
      dsimp only
      rw [heq]
      rfl
  | writeEeprom =>
      refine ⟨[], rfl, ?_⟩
      unfold handleReply parseReply
      dsimp only
      rw [writeEepromDataParse_eq, List.append_nil]

/-- What comes of a call of `Read_Message`. -/
inductive ReceiveCase : UnitState → Prop
  | reply {reply : Reply} (hgt : runDownload < (readMessage s.port).1)
      (hreply : replyOf ((readMessage s.port).2.buffSer1 ihm1TypeComand) = some reply) :
      ReceiveCase
        (handleReply inp reply
          { s with
            valRet := (readMessage s.port).1
            port := (readMessage s.port).2
            globalTimeoutMilliseconds := inp.millis 13 })
  | unknown (hgt : runDownload < (readMessage s.port).1)
      (hnone : replyOf ((readMessage s.port).2.buffSer1 ihm1TypeComand) = none) :
      ReceiveCase
        { s with
          valRet := (readMessage s.port).1
          port := (readMessage s.port).2
          globalTimeoutMilliseconds := inp.millis 13 }
  | rejected (hneg : (readMessage s.port).1 < 0) :
      ReceiveCase
        (receiveError
          { s with valRet := (readMessage s.port).1, port := (readMessage s.port).2 })
  | nothing (hle : (readMessage s.port).1 ≤ runDownload) (hnonneg : 0 ≤ (readMessage s.port).1) :
      ReceiveCase { s with valRet := (readMessage s.port).1, port := (readMessage s.port).2 }

theorem receive_case :
    ReceiveCase inp s (receive inp s) := by
  unfold receive
  dsimp only
  split
  · rename_i hgt
    cases hreply : replyOf ((readMessage s.port).2.buffSer1 ihm1TypeComand) with
    | some reply => exact .reply hgt hreply
    | none => exact .unknown hgt hreply
  · rename_i hle
    split
    · rename_i hneg
      exact .rejected hneg
    · rename_i hnonneg
      exact .nothing (not_lt.mp hle) (not_lt.mp hnonneg)

variable {s}

theorem receive_nothing
    (hle : (readMessage s.port).1 ≤ runDownload) (hnonneg : 0 ≤ (readMessage s.port).1) :
    receive inp s =
      { s with valRet := (readMessage s.port).1, port := (readMessage s.port).2 } := by
  unfold receive
  dsimp only
  rw [if_neg (not_lt.mpr hle), if_neg (not_lt.mpr hnonneg)]

theorem receive_rejected
    (hneg : (readMessage s.port).1 < 0) :
    receive inp s =
      receiveError
        { s with valRet := (readMessage s.port).1, port := (readMessage s.port).2 } := by
  have hle := not_lt.mpr (le_runDownload_of_neg hneg)
  unfold receive
  dsimp only
  rw [if_neg hle, if_pos hneg]

theorem receive_reply
    {reply : Reply} (hgt : runDownload < (readMessage s.port).1)
    (hreply : replyOf ((readMessage s.port).2.buffSer1 ihm1TypeComand) = some reply) :
    receive inp s =
      handleReply inp reply
        { s with
          valRet := (readMessage s.port).1
          port := (readMessage s.port).2
          globalTimeoutMilliseconds := inp.millis 13 } := by
  unfold receive
  dsimp only
  rw [if_pos hgt, hreply]

end Receive

/-! ## What the reception leaves alone -/

/-- Two states with the same control: the same states, mode and request timers. -/
structure SameControl (s s' : UnitState) : Prop where
  device : s'.device = s.device
  firmwareBin : s'.firmwareBin = s.firmwareBin
  wbmComState : s'.wbmComState = s.wbmComState
  currentState : s'.currentState = s.currentState
  pollingBaseTimer : s'.gKTSGlobal.pollingBaseTimer = s.gKTSGlobal.pollingBaseTimer
  pollingDebugDataTimer :
    s'.gKTSGlobal.pollingDebugDataTimer = s.gKTSGlobal.pollingDebugDataTimer
  runningMode : s'.gKTSGlobal.runningMode = s.gKTSGlobal.runningMode

theorem SameControl.trans
    {s₁ s₂ s₃ : UnitState}
    (h₁ : SameControl s₁ s₂) (h₂ : SameControl s₂ s₃) :
    SameControl s₁ s₃ where
  device := h₂.device.trans h₁.device
  firmwareBin := h₂.firmwareBin.trans h₁.firmwareBin
  wbmComState := h₂.wbmComState.trans h₁.wbmComState
  currentState := h₂.currentState.trans h₁.currentState
  pollingBaseTimer := h₂.pollingBaseTimer.trans h₁.pollingBaseTimer
  pollingDebugDataTimer := h₂.pollingDebugDataTimer.trans h₁.pollingDebugDataTimer
  runningMode := h₂.runningMode.trans h₁.runningMode

/-- The events of a polling reply change nothing but the alarm flags. -/
theorem noteEvents_control
    (events : Memory) (g : ClktsGlobal) :
    (noteEvents events g).runningMode = g.runningMode ∧
      (noteEvents events g).pollingBaseTimer = g.pollingBaseTimer ∧
      (noteEvents events g).pollingDebugDataTimer = g.pollingDebugDataTimer := by
  have hone : ∀ (g : ClktsGlobal) (i : Nat),
      (noteEvent events g i).runningMode = g.runningMode ∧
        (noteEvent events g i).pollingBaseTimer = g.pollingBaseTimer ∧
        (noteEvent events g i).pollingDebugDataTimer = g.pollingDebugDataTimer := by
    intro g i
    unfold noteEvent
    split
    · exact ⟨rfl, rfl, rfl⟩
    · split
      · exact ⟨rfl, rfl, rfl⟩
      · exact ⟨rfl, rfl, rfl⟩
  have hall : ∀ (l : List Nat) (g : ClktsGlobal),
      (l.foldl (noteEvent events) g).runningMode = g.runningMode ∧
        (l.foldl (noteEvent events) g).pollingBaseTimer = g.pollingBaseTimer ∧
        (l.foldl (noteEvent events) g).pollingDebugDataTimer = g.pollingDebugDataTimer := by
    intro l
    induction l with
    | nil =>
        intro g
        exact ⟨rfl, rfl, rfl⟩
    | cons i l ih =>
        intro g
        obtain ⟨h₁, h₂, h₃⟩ := ih (noteEvent events g i)
        obtain ⟨k₁, k₂, k₃⟩ := hone g i
        exact ⟨h₁.trans k₁, h₂.trans k₂, h₃.trans k₃⟩
  exact hall _ _

section Reception

variable (inp : IterationInput) (s : UnitState)

theorem sameControl_pollingBaseDataParse
    (millis : UInt32) (rxBuffer : Memory) :
    SameControl s (pollingBaseDataParse millis rxBuffer s) := by
  rw [pollingBaseDataParse_eq]
  obtain ⟨hmode, hbase, hdebug⟩ :=
    noteEvents_control (pollingBaseData rxBuffer).events s.gKTSGlobal
  exact ⟨rfl, rfl, rfl, rfl, hbase, hdebug, hmode⟩

theorem sameControl_debugDataParse
    (rxBuffer : Memory) :
    SameControl s (debugDataParse rxBuffer s) := by
  constructor <;> rfl

theorem sameControl_readEepromDataParse
    (rxBuffer : Memory) :
    SameControl s (readEepromDataParse rxBuffer s) := by
  constructor <;> rfl

theorem sameControl_writeEepromDataParse
    (rxBuffer : Memory) :
    SameControl s (writeEepromDataParse rxBuffer s) := by
  rw [writeEepromDataParse_eq]
  constructor <;> rfl

theorem sameControl_parseReply (reply : Reply) :
    SameControl s (parseReply inp s reply) := by
  cases reply with
  | pollingBase => exact sameControl_pollingBaseDataParse s _ _
  | dataDebug => exact sameControl_debugDataParse s _
  | readEeprom => exact sameControl_readEepromDataParse s _
  | writeEeprom => exact sameControl_writeEepromDataParse s _

theorem sameControl_handleReply (reply : Reply) :
    SameControl s (handleReply inp reply s) := by
  obtain ⟨published, -, heq⟩ := handleReply_eq inp s reply
  have h := sameControl_parseReply inp s reply
  rw [heq]
  exact ⟨h.device, h.firmwareBin, h.wbmComState, h.currentState, h.pollingBaseTimer,
    h.pollingDebugDataTimer, h.runningMode⟩

theorem handleReply_globalTimeoutMilliseconds (reply : Reply) :
    (handleReply inp reply s).globalTimeoutMilliseconds = s.globalTimeoutMilliseconds := by
  obtain ⟨published, -, heq⟩ := handleReply_eq inp s reply
  rw [heq]
  unfold parseReply
  cases reply with
  | pollingBase => simp only [pollingBaseDataParse_eq]
  | dataDebug => rfl
  | readEeprom => rfl
  | writeEeprom => simp only [writeEepromDataParse_eq]

/-- The reception changes nothing in the task's control. -/
theorem sameControl_receive :
    SameControl s (receive inp s) := by
  have hcase := receive_case inp s
  generalize receive inp s = s' at hcase
  cases hcase with
  | @reply reply hgt hreply =>
      have h := sameControl_handleReply inp
        { s with
          valRet := (readMessage s.port).1
          port := (readMessage s.port).2
          globalTimeoutMilliseconds := inp.millis 13 } reply
      exact ⟨h.device, h.firmwareBin, h.wbmComState, h.currentState, h.pollingBaseTimer,
        h.pollingDebugDataTimer, h.runningMode⟩
  | unknown hgt hnone => constructor <;> rfl
  | rejected hneg => constructor <;> rfl
  | nothing hle hnonneg => constructor <;> rfl

/-- The timeout is restarted by an accepted message only. -/
theorem receive_globalTimeoutMilliseconds :
    (receive inp s).globalTimeoutMilliseconds = s.globalTimeoutMilliseconds ∨
      (receive inp s).globalTimeoutMilliseconds = inp.millis 13 := by
  have hcase := receive_case inp s
  generalize receive inp s = s' at hcase
  cases hcase with
  | reply hgt hreply => exact Or.inr (handleReply_globalTimeoutMilliseconds inp _ _)
  | unknown hgt hnone => exact Or.inr rfl
  | rejected hneg => exact Or.inl rfl
  | nothing hle hnonneg => exact Or.inl rfl

end Reception

/-! ## What the scheduler and the clients leave alone -/

/-- Two states that differ at most in the mirror, the request bits and the outputs. -/
structure SameButImage (s s' : UnitState) : Prop where
  port : s'.port = s.port
  device : s'.device = s.device
  firmwareBin : s'.firmwareBin = s.firmwareBin
  wbmComState : s'.wbmComState = s.wbmComState
  currentState : s'.currentState = s.currentState
  globalTimeoutMilliseconds : s'.globalTimeoutMilliseconds = s.globalTimeoutMilliseconds
  gKTSData : s'.gKTSData = s.gKTSData
  gKTSGlobal : s'.gKTSGlobal = s.gKTSGlobal
  eepromDataReceived : s'.eepromDataReceived = s.eepromDataReceived
  extCnt : s'.extCnt = s.extCnt

theorem SameButImage.refl (s : UnitState) :
    SameButImage s s :=
  ⟨rfl, rfl, rfl, rfl, rfl, rfl, rfl, rfl, rfl, rfl⟩

theorem SameButImage.trans
    {s₁ s₂ s₃ : UnitState}
    (h₁ : SameButImage s₁ s₂) (h₂ : SameButImage s₂ s₃) :
    SameButImage s₁ s₃ where
  port := h₂.port.trans h₁.port
  device := h₂.device.trans h₁.device
  firmwareBin := h₂.firmwareBin.trans h₁.firmwareBin
  wbmComState := h₂.wbmComState.trans h₁.wbmComState
  currentState := h₂.currentState.trans h₁.currentState
  globalTimeoutMilliseconds :=
    h₂.globalTimeoutMilliseconds.trans h₁.globalTimeoutMilliseconds
  gKTSData := h₂.gKTSData.trans h₁.gKTSData
  gKTSGlobal := h₂.gKTSGlobal.trans h₁.gKTSGlobal
  eepromDataReceived := h₂.eepromDataReceived.trans h₁.eepromDataReceived
  extCnt := h₂.extCnt.trans h₁.extCnt

theorem sameButImage_clientWrite
    (w : ClientWrite) (s : UnitState) :
    SameButImage s (clientWrite w s) := by
  unfold clientWrite
  split
  · split
    · constructor <;> rfl
    · exact SameButImage.refl s
  · split
    · constructor <;> rfl
    · exact SameButImage.refl s

theorem sameButImage_clientWrites
    (ws : List ClientWrite) (s : UnitState) :
    SameButImage s (ws.foldl (fun s w => clientWrite w s) s) := by
  induction ws generalizing s with
  | nil =>
      exact SameButImage.refl s
  | cons w ws ih =>
      exact (sameButImage_clientWrite w s).trans (ih (clientWrite w s))

theorem sameButImage_sendService
    (inp : IterationInput) (service : Service) (s : UnitState) :
    SameButImage s (sendService inp service s) := by
  cases service with
  | read sec =>
      constructor <;> rfl
  | write sec =>
      simp only [sendService, sendWriteEeprom]
      split
      · constructor <;> rfl
      · exact SameButImage.refl s
  | nothing =>
      exact SameButImage.refl s

/-- What the scheduler leaves alone: everything but the mirror, which clients
may write, the request bits, the outputs and the outstanding request. -/
theorem sameButImage_scheduler
    (inp : IterationInput) (s : UnitState) :
    SameButImage { s with eepromDataReceived := (scheduler inp s).eepromDataReceived }
      (scheduler inp s) := by
  unfold scheduler
  split
  · split
    · rename_i mask service _
      have h := (sameButImage_sendService inp service s).trans
        (sameButImage_clientWrites inp.duringTx _)
      exact ⟨h.port, h.device, h.firmwareBin, h.wbmComState, h.currentState,
        h.globalTimeoutMilliseconds, h.gKTSData, h.gKTSGlobal, rfl, h.extCnt⟩
    · exact SameButImage.refl s
  · exact SameButImage.refl s

/-- An iteration ends connected, unless the timeout has ended the connection. -/
theorem connectedIteration_wbmComState
    (inp : IterationInput) (s : UnitState) :
    (connectedIteration inp s).wbmComState = (beforeReceive inp s).wbmComState :=
  (sameButImage_scheduler inp (receive inp (beforeReceive inp s))).wbmComState.trans
    (sameControl_receive inp (beforeReceive inp s)).wbmComState

end UnitComm
end AvensysEsp32
