import AvensysEsp32.UnitComm.Parse
import AvensysEsp32.UnitComm.Bootloader

/-!
# Connecting to the unit

`Connect_To_Unit`: a polling request to find the unit, one read request for
each section of its EEPROM, a second polling request, and the state that hands
over to `WBM_Connected`.  A message that names the bootloader leads to the
firmware transfer instead.
-/

namespace AvensysEsp32
namespace UnitComm

open Foundation Serial

/-- The image as it is published. -/
def eepromBytes (gRDEeprom : Memory) : List UInt8 :=
  readBytes gRDEeprom 0 sizeofEeprom

/-- `Com_SendRequest_PollingBase` -/
def sendPollingBase (inp : IterationInput) (s : UnitState) : UnitState :=
  s.emit (.uartWrite (comSendRequestPollingBase s.device inp.stack))

/-- `Com_SendRequest_ReadEeprom1` -/
def sendReadEeprom (inp : IterationInput) (sec : EepromSection) (s : UnitState) : UnitState :=
  s.emit (.uartWrite (comSendRequestReadEeprom1 sec inp.stack))

/-- The case `CLKTSConnectState_LinkConnecting`. -/
def linkConnecting (inp : IterationInput) (s : UnitState) : UnitState :=
  let s :=
    if s.retriesCounter < 2 ∧ ¬ s.foundComLink then
      let s := sendPollingBase inp s
      { s with
        retriesCounter := s.retriesCounter + 1
        globalTimeoutMilliseconds := inp.millis 0 }
    else s
  { s with currentState := .trySerialLink }

/-- The case `CLKTSConnectState_TrySerialLink`. -/
def trySerialLink (inp : IterationInput) (s : UnitState) : UnitState :=
  if expired inp 0 s.globalTimeoutMilliseconds timeoutMilliseconds then
    if s.retriesCounter = 2 then
      { s with
        retriesCounter := 0
        currentState := .init
        wbmComState := .wbmCommunicating }.emit .uart1Initialize1
    else
      { s with
        globalTimeoutMilliseconds := inp.millis 2
        currentState := .linkConnecting }
  else
    let message := readMessage s.port
    let s := { s with valRet := message.1, port := message.2 }
    let s := if s.valRet > runDownload then { s with currentState := .linkConnected } else s
    if s.port.bootloaderMode then { s with currentState := .bootloaderState } else s

/-- The case `CLKTSConnectState_LinkConnected`. -/
def linkConnected (inp : IterationInput) (s : UnitState) : UnitState :=
  let s := sendReadEeprom inp .info { s with foundComLink := true }
  { s with
    currentState := .readEepromInfo
    globalTimeoutMilliseconds := inp.millis 0 }

/-- A state that waits for a reply: on a timeout it gives up, on a message it
goes on with `reply`. -/
def awaitReply (inp : IterationInput) (reply : UnitState → UnitState) (s : UnitState) :
    UnitState :=
  if expired inp 0 s.globalTimeoutMilliseconds timeoutMilliseconds then
    { s with wbmComState := .wbmError, retriesCounter := 0 }
  else
    let message := readMessage s.port
    let s := { s with valRet := message.1, port := message.2 }
    if s.valRet > runDownload then reply s else s

/-- Copy the data of the message in `buff_ser1` to a field of the mirror and
those after it, as many bytes as the message says. -/
def storeSection (field : EepromField) (s : UnitState) : UnitState :=
  { s with
    gRDEeprom :=
      memcpy s.gRDEeprom field.offsetof
        s.port.buffSer1 irsrStartDataEeprom (s.port.buffSer1 irsrAddrNumByteEep).toNat }

/-- What a section's reply leads to: it is stored, the next request is sent. -/
def sectionReply (inp : IterationInput) (field : EepromField)
    (request : UnitState → UnitState) (next : ConnectState) (s : UnitState) : UnitState :=
  let s := request (storeSection field s)
  { s with currentState := next, globalTimeoutMilliseconds := inp.millis 2 }

/-- A case `CLKTSConnectState_ReadEeprom_*`. -/
def readEeprom (inp : IterationInput) (field : EepromField)
    (request : UnitState → UnitState) (next : ConnectState) (s : UnitState) : UnitState :=
  awaitReply inp (sectionReply inp field request next) s

/-- What the second polling reply leads to. -/
def pollingReply (inp : IterationInput) (s : UnitState) : UnitState :=
  { s with currentState := .connected, globalTimeoutMilliseconds := inp.millis 2 }

/-- The mode that the power setting of the image asks for. -/
def powerMode (gRDEeprom : Memory) : RunningMode :=
  if gRDEeprom EepromField.setPowerOn.offsetof = 0 then .powerOff else .running

/-- The beginning of the case `CLKTSConnectState_Connected`: the mode and the
timers of the connected state. -/
def enterConnected (inp : IterationInput) (s : UnitState) : UnitState :=
  { s with
    gKTSGlobal :=
      { s.gKTSGlobal with
        runningMode := powerMode s.gRDEeprom
        lastReceivedPollingBaseTimer := inp.millis 0
        pollingBaseTimer := inp.millis 1
        pollingDebugDataTimer := inp.millis 1 }
    wbmComState := .wbmConnected }.emit (.bleSetRuntimeReady true)

/-- The end of the case `CLKTSConnectState_Connected`: the image is given to
the clients, and its counters become the shadow counters. -/
def announceConnected (s : UnitState) : UnitState :=
  let s := s.emit (.setAttrValue .eepromData sizeofEeprom (eepromBytes s.gRDEeprom))
  let s := { s with address := .serialString }.emit (.mqttSubscribeAppTopics .serialString)
  let s := seedExternalCounters s
  if s.isMqttReady then
    s.emit (.mqttPublish .eepromData s.address (eepromBytes s.gRDEeprom))
  else s

/-- The case `CLKTSConnectState_Connected`. -/
def connected (inp : IterationInput) (s : UnitState) : UnitState :=
  announceConnected
    (pollingBaseDataParse (inp.millis 2) s.port.buffSer1 (enterConnected inp s))

/-- The field from which a state of the handshake stores a reply. -/
def sectionField : ConnectState → Option EepromField
  | .readEepromInfo => some .addrUnit
  | .readEepromConfiguration => some .numMotors
  | .readEepromSettingPar => some .setPowerOn
  | .readEepromSetTemp => some .bypassMinTempExt
  | .readEepromDayProg => some .sDayProg
  | .readEepromHwSetting => some .numMotors
  | _ => none

/-- `Connect_To_Unit` -/
def connectToUnit (inp : IterationInput) (s : UnitState) : UnitState :=
  match s.currentState with
  | .init =>
      { s with
        globalTimeoutMilliseconds := inp.millis 0
        currentState := .linkConnecting
        retriesCounter := 0 }
  | .linkConnecting => linkConnecting inp s
  | .trySerialLink => trySerialLink inp s
  | .linkConnected => linkConnected inp s
  | .readEepromInfo =>
      readEeprom inp .addrUnit (sendReadEeprom inp .configuration) .readEepromConfiguration s
  | .readEepromConfiguration =>
      readEeprom inp .numMotors (sendReadEeprom inp .settingPar) .readEepromSettingPar s
  | .readEepromSettingPar =>
      readEeprom inp .setPowerOn (sendReadEeprom inp .setTemp) .readEepromSetTemp s
  | .readEepromSetTemp =>
      readEeprom inp .bypassMinTempExt (sendReadEeprom inp .dayProg) .readEepromDayProg s
  | .readEepromDayProg =>
      readEeprom inp .sDayProg (sendReadEeprom inp .hwSetting) .readEepromHwSetting s
  | .readEepromHwSetting =>
      readEeprom inp .numMotors (sendPollingBase inp) .pollingBase s
  | .pollingBase => awaitReply inp (pollingReply inp) s
  | .connected => connected inp s
  | .bootloaderState => bootloaderState inp s
  | .bootloaderState1 => bootloaderState1 s
  | .bootloaderStateEnd => s

/-! ## What the states do -/

section Cases

variable (inp : IterationInput) (s : UnitState)

/-- What comes of `CLKTSConnectState_LinkConnecting`. -/
inductive LinkConnectingCase : UnitState → Prop
  | sent (hretries : s.retriesCounter < 2 ∧ ¬ s.foundComLink) :
      LinkConnectingCase
        { s with
          retriesCounter := s.retriesCounter + 1
          globalTimeoutMilliseconds := inp.millis 0
          currentState := .trySerialLink
          outputs := s.outputs ++ [.uartWrite (comSendRequestPollingBase s.device inp.stack)] }
  | silent (hretries : ¬ (s.retriesCounter < 2 ∧ ¬ s.foundComLink)) :
      LinkConnectingCase { s with currentState := .trySerialLink }

theorem linkConnecting_case :
    LinkConnectingCase inp s (linkConnecting inp s) := by
  unfold linkConnecting
  dsimp only
  split
  · rename_i hretries
    exact .sent hretries
  · rename_i hretries
    exact .silent hretries

/-- What comes of `CLKTSConnectState_TrySerialLink`. -/
inductive TrySerialLinkCase : UnitState → Prop
  | anew (hexp : expired inp 0 s.globalTimeoutMilliseconds timeoutMilliseconds = true)
      (hretries : s.retriesCounter = 2) :
      TrySerialLinkCase
        { s with
          retriesCounter := 0
          currentState := .init
          wbmComState := .wbmCommunicating
          outputs := s.outputs ++ [.uart1Initialize1] }
  | again (hexp : expired inp 0 s.globalTimeoutMilliseconds timeoutMilliseconds = true)
      (hretries : s.retriesCounter ≠ 2) :
      TrySerialLinkCase
        { s with globalTimeoutMilliseconds := inp.millis 2, currentState := .linkConnecting }
  | read (hexp : expired inp 0 s.globalTimeoutMilliseconds timeoutMilliseconds = false)
      (next : ConnectState)
      (hnext : next =
        if (readMessage s.port).2.bootloaderMode then .bootloaderState
        else if runDownload < (readMessage s.port).1 then .linkConnected
        else s.currentState) :
      TrySerialLinkCase
        { s with
          valRet := (readMessage s.port).1
          port := (readMessage s.port).2
          currentState := next }

theorem trySerialLink_case :
    TrySerialLinkCase inp s (trySerialLink inp s) := by
  unfold trySerialLink
  dsimp only
  split
  · rename_i hexp
    split
    · rename_i hretries
      exact .anew hexp hretries
    · rename_i hretries
      exact .again hexp hretries
  · rename_i hexp
    have hopen := Bool.eq_false_iff.mpr hexp
    split
    · rename_i hgt
      split
      · rename_i hboot
        exact .read hopen _ (if_pos hboot).symm
      · rename_i hboot
        exact .read hopen _ ((if_neg hboot).trans (if_pos hgt)).symm
    · rename_i hle
      split
      · rename_i hboot
        exact .read hopen _ (if_pos hboot).symm
      · rename_i hboot
        exact .read hopen s.currentState ((if_neg hboot).trans (if_neg hle)).symm

/-- What comes of waiting for a reply. -/
inductive AwaitReplyCase (reply : UnitState → UnitState) : UnitState → Prop
  | lost (hexp : expired inp 0 s.globalTimeoutMilliseconds timeoutMilliseconds = true) :
      AwaitReplyCase reply { s with wbmComState := .wbmError, retriesCounter := 0 }
  | replied (hexp : expired inp 0 s.globalTimeoutMilliseconds timeoutMilliseconds = false)
      (hgt : runDownload < (readMessage s.port).1) :
      AwaitReplyCase reply
        (reply { s with valRet := (readMessage s.port).1, port := (readMessage s.port).2 })
  | waiting (hexp : expired inp 0 s.globalTimeoutMilliseconds timeoutMilliseconds = false)
      (hle : (readMessage s.port).1 ≤ runDownload) :
      AwaitReplyCase reply
        { s with valRet := (readMessage s.port).1, port := (readMessage s.port).2 }

theorem awaitReply_case (reply : UnitState → UnitState) :
    AwaitReplyCase inp s reply (awaitReply inp reply s) := by
  unfold awaitReply
  dsimp only
  split
  · rename_i hexp
    exact .lost hexp
  · rename_i hexp
    split
    · rename_i hgt
      exact .replied (Bool.eq_false_iff.mpr hexp) hgt
    · rename_i hle
      exact .waiting (Bool.eq_false_iff.mpr hexp) (not_lt.mp hle)

end Cases

/-! ## What the states leave alone -/

/-- Two states with the same shadow counters and the same firmware transfer. -/
structure SameAside (s s' : UnitState) : Prop where
  extCnt : s'.extCnt = s.extCnt
  transfer : s'.transfer = s.transfer

section Aside

variable (inp : IterationInput) (s : UnitState)

theorem sameAside_awaitReply
    (reply : UnitState → UnitState) (hreply : ∀ s, SameAside s (reply s)) :
    SameAside s (awaitReply inp reply s) := by
  have hcase := awaitReply_case inp s reply
  generalize awaitReply inp reply s = s' at hcase ⊢
  cases hcase with
  | lost _ => exact ⟨rfl, rfl⟩
  | replied _ _ =>
      have h := hreply
        { s with valRet := (readMessage s.port).1, port := (readMessage s.port).2 }
      exact ⟨h.extCnt, h.transfer⟩
  | waiting _ _ => exact ⟨rfl, rfl⟩

theorem sameAside_readEeprom
    (field : EepromField) (request : UnitState → UnitState) (next : ConnectState)
    (hrequest : ∀ s, SameAside s (request s)) :
    SameAside s (readEeprom inp field request next s) := by
  apply sameAside_awaitReply
  intro s
  have h := hrequest (storeSection field s)
  exact ⟨h.extCnt, h.transfer⟩

theorem sameAside_link :
    SameAside s (linkConnecting inp s) ∧ SameAside s (trySerialLink inp s) := by
  constructor
  · have hcase := linkConnecting_case inp s
    generalize linkConnecting inp s = s' at hcase ⊢
    cases hcase with
    | sent _ => exact ⟨rfl, rfl⟩
    | silent _ => exact ⟨rfl, rfl⟩
  · have hcase := trySerialLink_case inp s
    generalize trySerialLink inp s = s' at hcase ⊢
    cases hcase with
    | anew _ _ => exact ⟨rfl, rfl⟩
    | again _ _ => exact ⟨rfl, rfl⟩
    | read _ _ _ => exact ⟨rfl, rfl⟩

/-- The states that neither connect nor transfer firmware. -/
theorem sameAside_connectToUnit
    (hconnected : s.currentState ≠ .connected)
    (htransfer : s.currentState ≠ .bootloaderState)
    (htransfer1 : s.currentState ≠ .bootloaderState1) :
    SameAside s (connectToUnit inp s) := by
  unfold connectToUnit
  cases hc : s.currentState with
  | init => exact ⟨rfl, rfl⟩
  | linkConnecting => exact (sameAside_link inp s).1
  | trySerialLink => exact (sameAside_link inp s).2
  | linkConnected => exact ⟨rfl, rfl⟩
  | readEepromInfo => exact sameAside_readEeprom inp s _ _ _ fun _ => ⟨rfl, rfl⟩
  | readEepromConfiguration => exact sameAside_readEeprom inp s _ _ _ fun _ => ⟨rfl, rfl⟩
  | readEepromSettingPar => exact sameAside_readEeprom inp s _ _ _ fun _ => ⟨rfl, rfl⟩
  | readEepromSetTemp => exact sameAside_readEeprom inp s _ _ _ fun _ => ⟨rfl, rfl⟩
  | readEepromDayProg => exact sameAside_readEeprom inp s _ _ _ fun _ => ⟨rfl, rfl⟩
  | readEepromHwSetting => exact sameAside_readEeprom inp s _ _ _ fun _ => ⟨rfl, rfl⟩
  | pollingBase => exact sameAside_awaitReply inp s _ fun _ => ⟨rfl, rfl⟩
  | connected => exact absurd hc hconnected
  | bootloaderState => exact absurd hc htransfer
  | bootloaderState1 => exact absurd hc htransfer1
  | bootloaderStateEnd => exact ⟨rfl, rfl⟩

theorem bootloader_extCnt :
    (bootloaderState inp s).extCnt = s.extCnt ∧ (bootloaderState1 s).extCnt = s.extCnt := by
  constructor
  · have hcase := bootloaderState_case inp s
    generalize bootloaderState inp s = s' at hcase ⊢
    cases hcase with
    | held _ => rfl
    | header _ _ _ _ => rfl
  · have hcase := bootloaderState1_case s
    generalize bootloaderState1 s = s' at hcase ⊢
    cases hcase with
    | waiting _ => rfl
    | acknowledged _ _ _ _ _ _ => rfl

/-- What the end of the handshake sets: the shadow counters, the address, and what
is given to the clients. -/
theorem announceConnected_eq (s : UnitState) :
    ∃ outputs, uartWrites outputs = [] ∧
      announceConnected s =
        { s with
          address := .serialString
          extCnt :=
            { initialized := true
              cnt := fun sec => s.gRDEeprom sec.cntUpdateAddress }
          outputs := s.outputs ++ outputs } := by
  unfold announceConnected seedExternalCounters UnitState.emit
  dsimp only
  split
  · refine ⟨[.setAttrValue .eepromData sizeofEeprom (eepromBytes s.gRDEeprom),
      .mqttSubscribeAppTopics .serialString,
      .mqttPublish .eepromData .serialString (eepromBytes s.gRDEeprom)], rfl, ?_⟩
    simp only [List.append_assoc, List.cons_append, List.nil_append]
  · refine ⟨[.setAttrValue .eepromData sizeofEeprom (eepromBytes s.gRDEeprom),
      .mqttSubscribeAppTopics .serialString], rfl, ?_⟩
    simp only [List.append_assoc, List.cons_append, List.nil_append]

/-- What the last state of the handshake sets. -/
theorem connected_eq :
    ∃ outputs, uartWrites outputs = [] ∧
      connected inp s =
        { s with
          gKTSData := pollingBaseData s.port.buffSer1
          gKTSGlobal :=
            { noteEvents (pollingBaseData s.port.buffSer1).events
                (enterConnected inp s).gKTSGlobal with
              lastReceivedPollingBaseTimer := inp.millis 2 }
          wbmComState := .wbmConnected
          readEepromRequestIndex := s.readEepromRequestIndex |||
            changeRequests (pollingBaseData s.port.buffSer1).cntUpdate s.knownCounters
          address := .serialString
          extCnt :=
            { initialized := true
              cnt := fun sec => s.gRDEeprom sec.cntUpdateAddress }
          outputs := s.outputs ++ outputs } := by
  obtain ⟨outputs, hsilent, heq⟩ := announceConnected_eq
    (pollingBaseDataParse (inp.millis 2) s.port.buffSer1 (enterConnected inp s))
  refine ⟨.bleSetRuntimeReady true :: outputs, hsilent, ?_⟩
  unfold connected
  rw [heq, pollingBaseDataParse_eq]
  unfold enterConnected UnitState.emit
  dsimp only
  rw [List.append_assoc]
  rfl

theorem connected_transfer :
    (connected inp s).transfer = s.transfer := by
  obtain ⟨outputs, -, heq⟩ := connected_eq inp s
  rw [heq]

/-- Waiting for a reply, the task is not started anew. -/
theorem awaitReply_ne_initial
    (reply : UnitState → UnitState) (hreply : ∀ s, (reply s).wbmComState = s.wbmComState)
    (hs : s.wbmComState ≠ .wbmInitialize) :
    (awaitReply inp reply s).wbmComState ≠ .wbmInitialize := by
  have hcase := awaitReply_case inp s reply
  generalize awaitReply inp reply s = s' at hcase ⊢
  cases hcase with
  | lost _ => exact fun h => by cases h
  | replied _ _ =>
      rw [hreply]
      exact hs
  | waiting _ _ => exact hs

/-- `WBM_initialize` is not entered again. -/
theorem connectToUnit_ne_initial
    (hs : s.wbmComState ≠ .wbmInitialize) :
    (connectToUnit inp s).wbmComState ≠ .wbmInitialize := by
  unfold connectToUnit
  cases hc : s.currentState with
  | init => exact hs
  | linkConnecting =>
      have hcase := linkConnecting_case inp s
      dsimp only
      generalize linkConnecting inp s = s' at hcase ⊢
      cases hcase with
      | sent _ => exact hs
      | silent _ => exact hs
  | trySerialLink =>
      have hcase := trySerialLink_case inp s
      dsimp only
      generalize trySerialLink inp s = s' at hcase ⊢
      cases hcase with
      | anew _ _ => exact fun h => by cases h
      | again _ _ => exact hs
      | read _ _ _ => exact hs
  | linkConnected => exact hs
  | readEepromInfo => exact awaitReply_ne_initial inp s _ (fun _ => rfl) hs
  | readEepromConfiguration => exact awaitReply_ne_initial inp s _ (fun _ => rfl) hs
  | readEepromSettingPar => exact awaitReply_ne_initial inp s _ (fun _ => rfl) hs
  | readEepromSetTemp => exact awaitReply_ne_initial inp s _ (fun _ => rfl) hs
  | readEepromDayProg => exact awaitReply_ne_initial inp s _ (fun _ => rfl) hs
  | readEepromHwSetting => exact awaitReply_ne_initial inp s _ (fun _ => rfl) hs
  | pollingBase => exact awaitReply_ne_initial inp s _ (fun _ => rfl) hs
  | connected =>
      dsimp only
      obtain ⟨outputs, -, heq⟩ := connected_eq inp s
      rw [heq]
      exact fun h => by cases h
  | bootloaderState =>
      have hcase := bootloaderState_case inp s
      dsimp only
      generalize bootloaderState inp s = s' at hcase ⊢
      cases hcase with
      | held _ => exact hs
      | header _ _ _ _ => exact hs
  | bootloaderState1 =>
      have hcase := bootloaderState1_case s
      dsimp only
      generalize bootloaderState1 s = s' at hcase ⊢
      cases hcase with
      | waiting _ => exact hs
      | acknowledged _ _ _ _ _ _ => exact hs
  | bootloaderStateEnd => exact hs

end Aside

end UnitComm
end AvensysEsp32
