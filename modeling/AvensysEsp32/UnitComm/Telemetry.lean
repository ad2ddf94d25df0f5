import AvensysEsp32.Foundation.Relay
import AvensysEsp32.Foundation.Simulation
import AvensysEsp32.Serial.Outstanding
import AvensysEsp32.UnitComm.LastRequest
import AvensysEsp32.UnitComm.Outputs
import AvensysEsp32.UnitComm.ReplyBounds
import AvensysEsp32.UnitComm.ShortPolling

/-!
# What the clients are told of the unit's measures

Once connected, the payload of every polling and debug reply is published on
MQTT, if that is ready, and set on BLE, filled up with zeros to the length that
clients expect.  Between the unit and the clients lie the line, the cache of the
UART and the two calls of `Read_Message`; what comes through is, in order, what
the unit has answered.
-/

namespace AvensysEsp32
namespace UnitComm

open Foundation Serial

/-! ## Telemetry -/

/-- The replies that measure something. -/
inductive Telemetry
  | polling
  | debugData
deriving DecidableEq, Repr

def Telemetry.characteristic : Telemetry → BleAttribute
  | polling => .polling
  | debugData => .debugData

/-- How long the value set on BLE is at least. -/
def Telemetry.minLength : Telemetry → Nat
  | polling => 40
  | debugData => 48

def Reply.telemetry : Reply → Option Telemetry
  | pollingBase => some .polling
  | dataDebug => some .debugData
  | readEeprom | writeEeprom => none

/-- What a message measures, by its command byte. -/
def telemetryOf (w : List UInt8) : Option Telemetry :=
  (replyOf (ofBytes w ihm1TypeComand)).bind Reply.telemetry

/-- `Read_Message` reports the message, and its command byte names telemetry. -/
def Telling (w : List UInt8) : Prop :=
  runDownload < verdict w ∧ telemetryOf w ≠ none

instance (w : List UInt8) : Decidable (Telling w) :=
  inferInstanceAs (Decidable (_ ∧ _))

/-- The data between the head of a frame and its checksum. -/
def payload (w : List UInt8) : List UInt8 :=
  (w.drop ihm1StartData).take (w.length - 6)

/-- A reply that is passed on to the clients. -/
structure Relay where
  telemetry : Telemetry
  frame : List UInt8
  address : DeviceAddress
  overMqtt : Bool
deriving DecidableEq, Repr

/-- What the clients are told. -/
def Relay.outputs (r : Relay) : List Output :=
  (if r.overMqtt then
    [.mqttPublish r.telemetry.characteristic r.address (payload r.frame)] else []) ++
    [.setAttrValue r.telemetry.characteristic
      (max (payload r.frame).length r.telemetry.minLength)
      (payload r.frame ++ List.replicate (r.telemetry.minLength - (payload r.frame).length) 0)]

/-- What carries measures among the outputs. -/
def measured (outputs : List Output) : List Output :=
  outputs.filter carriesMeasures

/-- The message as it is passed on, if it is telemetry. -/
def relaysOf (w : List UInt8) (s : UnitState) : List Relay :=
  (telemetryOf w).toList.map fun telemetry =>
    { telemetry := telemetry, frame := w, address := s.address, overMqtt := s.isMqttReady }

/-- The telemetry that the next call of `Read_Message` downloads. -/
def receivedTelemetry (s : UnitState) : List Relay :=
  if runDownload < (readMessage s.port).1 then relaysOf (downloadedBytes s.port) s else []

/-! ## The payload of a frame -/

section Payload

variable {w : List UInt8}

theorem readBytes_ofBytes_drop
    (w : List UInt8) {start count : Nat} (h : start + count ≤ w.length) :
    readBytes (ofBytes w) start count = (w.drop start).take count := by
  apply List.ext_getElem
  · simp
    omega
  · intro i h₁ h₂
    have hi : i < count := by simpa using h₁
    rw [getElem_readBytes, ofBytes_of_lt (by omega), List.getElem_take, List.getElem_drop]

/-- A frame with telemetry has room for a payload. -/
theorem six_le_length_of_telemetry
    (hwf : WellFormed w) (hkind : telemetryOf w ≠ none) :
    6 ≤ w.length := by
  have hlong := hwf.long
  simp only [ihm1StartData] at hlong
  by_contra hshort
  have hnone := replyOf_shortest hwf (by omega)
  unfold telemetryOf at hkind
  rw [hnone] at hkind
  exact hkind rfl

/-- The data copied out of a frame is its payload. -/
theorem replyData_of_frame
    (hwf : WellFormed w) (hsix : 6 ≤ w.length)
    {buff : Memory} (hlen : w.length ≤ rxBufferSize)
    (hbuff : ∀ i < rxBufferSize, buff i = ofBytes w i) :
    4 ≤ (buff ihm1PosCrcLo).toNat ∧ replyData buff = payload w := by
  have hcrc : (buff ihm1PosCrcLo).toNat = w.length - 2 := by
    have := hwf.length
    rw [hbuff _ (by decide)]
    omega
  have hcount : w.length - 2 - 4 = w.length - 6 := by omega
  refine ⟨by omega, ?_⟩
  unfold replyData payload
  rw [hcrc, hcount, ← readBytes_ofBytes_drop w (by simp only [ihm1StartData]; omega)]
  refine readBytes_congr fun i hi => hbuff _ ?_
  simp only [ihm1StartData]
  omega

/-- A reply is passed on as its payload. -/
theorem publishReply_frame
    (telemetry : Telemetry) (s : UnitState)
    (hwf : WellFormed w) (hsix : 6 ≤ w.length) (hlen : w.length ≤ rxBufferSize)
    (hbuff : ∀ i < rxBufferSize, s.port.buffSer1 i = ofBytes w i) :
    (publishReply telemetry.characteristic telemetry.minLength s).outputs =
      s.outputs ++ Relay.outputs
        { telemetry := telemetry
          frame := w
          address := s.address
          overMqtt := s.isMqttReady } := by
  obtain ⟨hpos, hdata⟩ := replyData_of_frame hwf hsix hlen hbuff
  have hlength := dataLength_eq hpos
  rw [hdata] at hlength
  have hshort : (payload w).length < 65536 := by
    have hle := List.length_take_le (w.length - 6) (w.drop ihm1StartData)
    simp only [rxBufferSize] at hlen
    unfold payload
    omega
  unfold publishReply Relay.outputs
  simp only [hlength, hdata]
  split
  · rename_i hless
    rw [max_eq_right hless.le]
    cases s.isMqttReady with
    | true => exact List.append_assoc _ _ _
    | false => rfl
  · rename_i hfull
    have hle : telemetry.minLength ≤ (payload w).length := not_lt.mp hfull
    rw [max_eq_left hle, Nat.sub_eq_zero_of_le hle, List.replicate_zero, List.append_nil,
      Nat.mod_eq_of_lt hshort]
    cases s.isMqttReady with
    | true => exact List.append_assoc _ _ _
    | false => rfl

end Payload

/-! ## One iteration -/

theorem measured_append (os os' : List Output) :
    measured (os ++ os') = measured os ++ measured os' :=
  List.filter_append _ _

/-- All that is told of a reply carries measures. -/
theorem measured_relay (r : Relay) :
    measured r.outputs = r.outputs := by
  have hcharacteristic : (r.telemetry.characteristic != .eepromData) = true := by
    cases r.telemetry <;> rfl
  unfold measured Relay.outputs
  rw [List.filter_eq_self]
  intro o ho
  cases hmqtt : r.overMqtt with
  | true =>
      rw [hmqtt] at ho
      rcases List.mem_cons.mp ho with rfl | ho
      · exact hcharacteristic
      · rw [List.mem_singleton.mp ho]
        exact hcharacteristic
  | false =>
      rw [hmqtt] at ho
      rw [List.mem_singleton.mp ho]
      exact hcharacteristic

theorem EmitsOnly.measured
    {s s' : UnitState} (h : EmitsOnly Plain s s') :
    measured s'.outputs = measured s.outputs := by
  obtain ⟨os, hos, hplain⟩ := h
  have hnone : UnitComm.measured os = [] := by
    unfold UnitComm.measured
    rw [List.filter_eq_nil_iff]
    intro o ho hmeasures
    exact absurd hmeasures (by rw [(hplain o ho).2]; exact Bool.false_ne_true)
  rw [hos, measured_append, hnone, List.append_nil]

section Iteration

variable (inp : IterationInput) {s : UnitState} {w : List UInt8}

/-- What a call that downloads a message leaves in `buff_ser1`. -/
theorem downloadedBytes_of_received
    {p : SerialPort} (hlen : w.length < rxBufferSize)
    (hread : readMessage p = (verdict w, p.received w)) :
    downloadedBytes p = w := by
  unfold downloadedBytes
  rw [hread]
  show readBytes (downloaded w p.buffSer1) 0 w.length = w
  have hsame : readBytes (downloaded w p.buffSer1) 0 w.length =
      readBytes (ofBytes w) 0 w.length :=
    readBytes_congr fun i hi => by
      rw [Nat.zero_add, downloaded_apply w p.buffSer1 (lt_trans hi hlen)]
  rw [hsame, readBytes_ofBytes]

/-- The handling of a frame passes on its payload if it is telemetry. -/
theorem measured_handleReply
    {reply : Reply} (hreply : replyOf (ofBytes w ihm1TypeComand) = some reply)
    (hframe : telemetryOf w ≠ none → WellFormed w) (hlen : w.length < rxBufferSize)
    (hbuff : ∀ i < rxBufferSize, s.port.buffSer1 i = ofBytes w i) :
    measured (handleReply inp reply s).outputs =
      measured s.outputs ++ (relaysOf w s).flatMap Relay.outputs := by
  have hkind : telemetryOf w = reply.telemetry := by
    unfold telemetryOf
    rw [hreply]
    rfl
  have hpublished : ∀ telemetry, telemetryOf w = some telemetry →
      measured (publishReply telemetry.characteristic telemetry.minLength s).outputs =
        measured s.outputs ++ (relaysOf w s).flatMap Relay.outputs := by
    intro telemetry hsome
    have hne : telemetryOf w ≠ none := by
      rw [hsome]
      exact Option.some_ne_none _
    have hwf := hframe hne
    rw [publishReply_frame telemetry s hwf (six_le_length_of_telemetry hwf hne) hlen.le hbuff,
      measured_append, measured_relay]
    unfold relaysOf
    rw [hsome]
    exact congrArg _ (List.append_nil _).symm
  have hplain : telemetryOf w = none → EmitsOnly Plain s (handleReply inp reply s) →
      measured (handleReply inp reply s).outputs =
        measured s.outputs ++ (relaysOf w s).flatMap Relay.outputs := by
    intro hnone hemits
    unfold relaysOf
    rw [hnone, hemits.measured]
    exact (List.append_nil _).symm
  cases reply with
  | pollingBase =>
      have hout : (handleReply inp .pollingBase s).outputs =
          (publishReply .polling 40 s).outputs := by
        unfold handleReply
        dsimp only
        rw [pollingBaseDataParse_eq]
      rw [hout]
      exact hpublished .polling hkind
  | dataDebug => exact hpublished .debugData hkind
  | readEeprom => exact hplain hkind (emits_handleReply_eeprom inp s (Or.inl rfl))
  | writeEeprom => exact hplain hkind (emits_handleReply_eeprom inp s (Or.inr rfl))

/-- The reception passes on the telemetry it downloads. -/
theorem measured_receive
    (hsettled : Settled s.port)
    (hframes : ∀ w ∈ outstanding s.port, Telling w → WellFormed w) :
    measured (receive inp s).outputs =
      measured s.outputs ++ (receivedTelemetry s).flatMap Relay.outputs := by
  have hcase := receive_case inp s
  unfold receivedTelemetry
  generalize receive inp s = s' at hcase ⊢
  rcases readMessage_outstanding hsettled with ⟨hle, -⟩ | ⟨w, hlen, hread, hout⟩
  · rw [if_neg (not_lt.mpr hle)]
    cases hcase with
    | reply hgt _ => exact absurd hgt (not_lt.mpr hle)
    | unknown hgt _ => exact absurd hgt (not_lt.mpr hle)
    | rejected _ => exact (List.append_nil _).symm
    | nothing _ _ => exact (List.append_nil _).symm
  · have hbuff : ∀ i < rxBufferSize, (readMessage s.port).2.buffSer1 i = ofBytes w i := by
      intro i hi
      rw [hread]
      exact downloaded_apply w s.port.buffSer1 hi
    have hverdict : (readMessage s.port).1 = verdict w := by rw [hread]
    rw [downloadedBytes_of_received hlen hread]
    cases hcase with
    | reply hgt hreply =>
        rw [hbuff _ (by decide)] at hreply
        rw [if_pos hgt]
        refine measured_handleReply inp hreply ?_ hlen hbuff
        intro hkind
        exact hframes w (by rw [hout]; exact List.mem_cons_self) ⟨hverdict ▸ hgt, hkind⟩
    | unknown hgt hnone =>
        rw [hbuff _ (by decide)] at hnone
        have hkind : telemetryOf w = none := by
          unfold telemetryOf
          rw [hnone]
          rfl
        unfold relaysOf
        rw [if_pos hgt, hkind]
        exact (List.append_nil _).symm
    | rejected hneg =>
        rw [if_neg (not_lt.mpr (le_runDownload_of_neg hneg))]
        exact (List.append_nil _).symm
    | nothing hle _ =>
        rw [if_neg (not_lt.mpr hle)]
        exact (List.append_nil _).symm

/-- What the task passes on is told as the reply is handled, and nothing else. -/
theorem measured_connectedIteration
    (hsettled : Settled s.port)
    (hframes : ∀ w ∈ outstanding s.port, Telling w → WellFormed w) :
    measured (connectedIteration inp s).outputs =
      measured s.outputs ++ (receivedTelemetry s).flatMap Relay.outputs := by
  have hdata := sameData_beforeReceive inp s
  have hreceived : receivedTelemetry (beforeReceive inp s) = receivedTelemetry s := by
    unfold receivedTelemetry relaysOf
    rw [hdata.port, hdata.address, hdata.isMqttReady]
  rw [← hdata.port] at hsettled hframes
  have hreceive := measured_receive inp hsettled hframes
  rw [hreceived, (emits_beforeReceive inp s).measured] at hreceive
  exact (emits_scheduler inp (receive inp (beforeReceive inp s))).measured.trans hreceive

/-- Before it is connected, and once it is lost, the unit's measures are not told. -/
theorem measured_connectToUnit
    (s : UnitState) :
    measured (connectToUnit inp s).outputs = measured s.outputs := by
  by_cases hc : s.currentState = .connected
  · have hconnects : connectToUnit inp s = connected inp s := by
      unfold connectToUnit
      rw [hc]
    obtain ⟨announced, hout, hplain⟩ := connected_outputs inp s
    have hlast : EmitsOnly Plain (s.emit (.bleSetRuntimeReady true)) (connected inp s) :=
      ⟨announced, hout.trans (List.append_cons _ _ _), hplain⟩
    rw [hconnects, hlast.measured]
    exact (measured_append _ _).trans (List.append_nil _)
  · exact (emits_connectToUnit inp hc).measured

end Iteration

/-- What an event makes the task pass on. -/
def relayedBy (e : Event) (s : UnitState) : List Relay :=
  match e with
  | .iterate _ => if s.wbmComState = .wbmConnected then receivedTelemetry s else []
  | _ => []

/-- The measures told are those of the telemetry that is passed on. -/
theorem measured_step
    (e : Event) {s : UnitState} (hsettled : Settled s.port)
    (hframes : ∀ w ∈ outstanding s.port, Telling w → WellFormed w) :
    measured (step e s).outputs =
      measured s.outputs ++ (relayedBy e s).flatMap Relay.outputs := by
  have haside : measured (step e s).outputs = measured s.outputs → relayedBy e s = [] →
      measured (step e s).outputs =
        measured s.outputs ++ (relayedBy e s).flatMap Relay.outputs := by
    intro hsame hnone
    rw [hsame, hnone]
    exact (List.append_nil _).symm
  cases e with
  | iterate inp =>
      cases hwbm : s.wbmComState with
      | wbmInitialize =>
          apply haside
          · simp only [step, unitEventTask, hwbm]
            exact (measured_append _ _).trans (List.append_nil _)
          · simp [relayedBy, hwbm]
      | wbmCommunicating =>
          apply haside
          · simp only [step, unitEventTask, hwbm]
            exact measured_connectToUnit inp s
          · simp [relayedBy, hwbm]
      | wbmConnected =>
          simp only [step, unitEventTask, hwbm, relayedBy, if_true]
          exact measured_connectedIteration inp hsettled hframes
      | wbmError =>
          apply haside
          · simp only [step, unitEventTask, hwbm]
            exact (measured_append _ _).trans (List.append_nil _)
          · simp [relayedBy, hwbm]
  | uartData data => exact haside rfl rfl
  | clientWrite w => exact haside (emits_clientWrite s w).measured rfl
  | mqttReady ready => exact haside rfl rfl
  | unitUpdateTask running => exact haside rfl rfl
  | firmwareStored content => exact haside rfl rfl

/-! ## What is taken from the receiver -/

/-- Of the messages outstanding, the oldest may be taken; it is passed on or
dropped. -/
inductive Takes : List Relay → List (List UInt8) → List (List UInt8) → Prop
  | nothing (waiting : List (List UInt8)) : Takes [] waiting waiting
  | dropped (w : List UInt8) (waiting : List (List UInt8)) : Takes [] (w :: waiting) waiting
  | passed (r : Relay) (waiting : List (List UInt8)) (h : Telling r.frame) :
      Takes [r] (r.frame :: waiting) waiting

theorem Takes.relayed
    {rs : List Relay} {before after : List (List UInt8)} (h : Takes rs before after)
    {shown rest : List (List UInt8)} (hrelayed : Relayed shown (after ++ rest)) :
    Relayed (rs.map Relay.frame ++ shown) (before ++ rest) := by
  cases h with
  | nothing => exact hrelayed
  | dropped w => exact .lost w hrelayed
  | passed r => exact .kept r.frame hrelayed

theorem Takes.subset
    {rs : List Relay} {before after : List (List UInt8)} (h : Takes rs before after) :
    after ⊆ before := by
  cases h with
  | nothing => exact List.Subset.refl _
  | dropped w => exact List.subset_cons_self w after
  | passed r => exact List.subset_cons_self r.frame after

section Receiver

variable {s : UnitState}

/-- A call of `Read_Message` takes the oldest message, or none. -/
theorem takes_readMessage
    (hsettled : Settled s.port) :
    Takes (receivedTelemetry s) (outstanding s.port) (outstanding (readMessage s.port).2) ∧
      Takes [] (outstanding s.port) (outstanding (readMessage s.port).2) := by
  unfold receivedTelemetry
  rcases readMessage_outstanding hsettled with ⟨hle, hsame⟩ | ⟨w, hlen, hread, hout⟩
  · rw [if_neg (not_lt.mpr hle), hsame]
    exact ⟨.nothing _, .nothing _⟩
  · have hverdict : (readMessage s.port).1 = verdict w := by rw [hread]
    rw [downloadedBytes_of_received hlen hread, hout, hverdict]
    refine ⟨?_, .dropped w _⟩
    split
    · rename_i hgt
      unfold relaysOf
      cases hkind : telemetryOf w with
      | none => exact .dropped w _
      | some telemetry =>
          have hne : telemetryOf w ≠ none := by
            rw [hkind]
            exact Option.some_ne_none _
          exact .passed
            { telemetry := telemetry, frame := w, address := s.address, overMqtt := s.isMqttReady }
            _ ⟨hgt, hne⟩
    · exact .dropped w _

/-- Two receivers that differ at most in `buff_ser1` and the flag of the
acknowledgement. -/
structure SameWaiting (p p' : SerialPort) : Prop where
  settled : Settled p → Settled p'
  outstanding : outstanding p' = outstanding p

theorem sameWaiting_with
    (p : SerialPort) (buff : Memory) (ack : Bool) :
    SameWaiting p { p with buffSer1 := buff, ackReceived := ack } :=
  ⟨fun h => ⟨h.unread, h.availableFits, h.claimFits, h.pointer, h.tail, h.announced⟩, rfl⟩

/-- The reception calls `Read_Message` once. -/
theorem sameWaiting_receive
    (inp : IterationInput) (s : UnitState) :
    SameWaiting (readMessage s.port).2 (receive inp s).port := by
  have hcase := receive_case inp s
  generalize receive inp s = s' at hcase
  cases hcase with
  | @reply reply hgt hreply =>
      rw [(handleReply_line inp _ reply).2]
      exact ⟨id, rfl⟩
  | unknown hgt hnone => exact ⟨id, rfl⟩
  | rejected hneg => exact sameWaiting_with _ _ _
  | nothing hle hnonneg => exact ⟨id, rfl⟩

/-- An iteration takes at most one message, and passes it on only when connected. -/
theorem takes_iterate
    (inp : IterationInput) (hsettled : Settled s.port) :
    Settled (unitEventTask inp s).port ∧
      Takes (relayedBy (.iterate inp) s) (outstanding s.port)
        (outstanding (unitEventTask inp s).port) := by
  obtain ⟨htelling, htaken⟩ := takes_readMessage hsettled
  cases hwbm : s.wbmComState with
  | wbmInitialize =>
      simp only [unitEventTask, hwbm, relayedBy, reduceCtorEq, if_false]
      exact ⟨hsettled, .nothing _⟩
  | wbmCommunicating =>
      simp only [unitEventTask, hwbm, relayedBy, reduceCtorEq, if_false]
      refine ⟨settled_connectToUnit inp hsettled, ?_⟩
      rcases readOnce_connectToUnit inp s with hsame | ⟨ack, hread⟩
      · rw [hsame]
        exact .nothing _
      · rw [hread]
        exact htaken
  | wbmConnected =>
      simp only [unitEventTask, hwbm, relayedBy, if_true]
      have hport : (connectedIteration inp s).port = (receive inp (beforeReceive inp s)).port :=
        (sameButImage_scheduler inp (receive inp (beforeReceive inp s))).port
      have hsame := sameWaiting_receive inp (beforeReceive inp s)
      rw [(sameData_beforeReceive inp s).port] at hsame
      rw [hport, hsame.outstanding]
      exact ⟨hsame.settled hsettled.readMessage, htelling⟩
  | wbmError =>
      simp only [unitEventTask, hwbm, relayedBy, reduceCtorEq, if_false]
      exact ⟨hsettled, .nothing _⟩

end Receiver

end UnitComm
end AvensysEsp32
