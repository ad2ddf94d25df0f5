import AvensysEsp32.Mqtt.Reports
import AvensysEsp32.Mqtt.Telemetry

/-!
# What the client publishes and what it acts upon

Everything the MQTT client publishes while it handles an event or makes a pass
of its maintenance, as a list of topics and payloads, and the messages that it
acts upon: an image of the EEPROM, and the request to publish the image.  It
acts upon the topics of the app only, under its hardware id and the serial that
the mirror has at that moment, and publishes on none of these.
-/

namespace AvensysEsp32
namespace Mqtt

open Foundation Serial UnitComm

/-- The topic and the payload of a call of `esp_mqtt_client_publish`. -/
abbrev TopicMessage : Type := List UInt8 × List UInt8

/-- What the messages of a step depend on beside the state: the tick counter
where a report says how long the program has run, and what the stack holds. -/
structure MessageInput where
  logTick : UInt32
  statusTick : UInt32
  saveLogTick : UInt32
  stack : Memory

/-! ## Messages -/

/-- `mqtt_publish_log_event` and `mqtt_publish_status(true)` after it -/
def eventReports (env : MessageInput) (event : LogEvent) (tick : UInt32) (s : MqttState) :
    List TopicMessage :=
  logMessages event env.logTick s ++
    statusMessages true tick env.statusTick (mqttPublishLogEvent s)

/-- The topic is one on which the app asks for the image. -/
def isRequestTopic (topic : List UInt8) (s : MqttState) : Prop :=
  topic = mqttBuildTopic 64 s.deviceHwId appRequest ∨
    (s.activeSerial ≠ [] ∧ topic = mqttBuildTopic 64 s.activeSerial appRequest)

instance (topic : List UInt8) (s : MqttState) : Decidable (isRequestTopic topic s) :=
  inferInstanceAs (Decidable (_ ∨ _))

/-- `serial_valid ? serial_address : s_device_hw_id` -/
def publishAddress (s : MqttState) : List UInt8 :=
  if s.activeSerial ≠ [] then s.activeSerial else s.deviceHwId

/-- The answer to a request: the image under the address, if the client is ready. -/
def requestedImage (env : MessageInput) (address : List UInt8) (s : MqttState) :
    List TopicMessage :=
  (mqttPublishEeprom s.isMqttReady env.stack address (eepromBytes s.gRDEeprom)).2.toList.map
    fun p => (p.topic, p.payload)

/-- What is published about an image that came. -/
def writeMessages (env : MessageInput) (tick : UInt32) (payload : List UInt8) (s : MqttState) :
    List TopicMessage :=
  match mqttApplyEepromPayload payload s.gRDEeprom with
  | none => eventReports env .eepromWriteLenInvalid tick { s with lastError := .eepromWriteInvalid }
  | some gRDEeprom =>
      eventReports env .eepromWriteOk tick
        { s with
          gRDEeprom := gRDEeprom
          readEepromRequestIndex := s.readEepromRequestIndex ||| fullEepromWrite
          lastError := .none }

/-- `MQTT_EVENT_DATA`.  The topics are compared with those that the event met,
even when the image has changed the serial; an image that is not taken ends the
case. -/
def dataMessages (env : MessageInput) (tick : UInt32) (topic payload : List UInt8)
    (s : MqttState) : List TopicMessage :=
  if isEepromTopic topic s then
    writeMessages env tick payload s ++
      if (mqttApplyEepromPayload payload s.gRDEeprom).isSome ∧ isRequestTopic topic s then
        requestedImage env (publishAddress s) (writeEeprom tick payload s)
      else []
  else if isRequestTopic topic s then requestedImage env (publishAddress s) s
  else []

/-- What `mqtt_event_handler` publishes. -/
def eventMessages (env : MessageInput) (tick : UInt32) (event : ClientEvent) (s : MqttState) :
    List TopicMessage :=
  let s := (mqttUpdateActiveSerialFromEeprom (mqttInitHwIdOnce s)).1
  match event with
  | .connected =>
      let s :=
        { s with
          mqttConnected := true
          mqttConsecutiveFailures := 0
          mqttReconnectAttempts := 0
          nextMqttRetryTick := 0
          lastError := .none
          hwIdSubscribed := false
          lastSerialSubscribed := [] }
      eventReports env .mqttConnected tick (mqttRefreshAppSubscriptions true s)
  | .disconnected =>
      eventReports env .mqttDisconnected tick
        { s with
          isMqttReady := false
          subscribeCounter := 0
          mqttConnected := false
          lastError := .mqttDisconnected }
  | .error =>
      eventReports env .mqttTransportError tick
        { s with
          isMqttReady := false
          subscribeCounter := 0
          mqttConnected := false
          lastError := .mqttTransportError }
  | .data topic payload => dataMessages env tick topic payload s
  | .subscribed | .unsubscribed | .published | .other => []

/-- `mqtt_try_endpoint_discovery` after a successful fetch -/
def fetchedMessages (env : MessageInput) (inp : PassInput) (fetched : MqttEndpoint)
    (s : MqttState) : List TopicMessage :=
  let s :=
    { s with
      selectedEndpoint := withCredentialsOf s.selectedEndpoint fetched
      lastError := .none }
  let (nvs, saved) := saveMqttEndpointToNvs inp.writes s.selectedEndpoint s.nvs
  eventReports env .discoveryOk inp.statusTick s ++
    if saved then []
    else
      logMessages .discoverySaveNvsFail env.saveLogTick
        { mqttPublishStatus true inp.statusTick (mqttPublishLogEvent s) with
          nvs := nvs
          lastError := .discoveryNvsSaveFailed }

/-- `mqtt_try_endpoint_discovery` after a fetch that failed -/
def fallbackMessages (env : MessageInput) (inp : PassInput) (s : MqttState) :
    List TopicMessage :=
  match loadMqttEndpointFromNvs inp.reads s.nvs with
  | some endpoint =>
      eventReports env .discoveryFallbackNvs inp.statusTick
        { s with selectedEndpoint := endpoint, lastError := .discoveryFallbackNvs }
  | none =>
      eventReports env .discoveryFallbackDefault inp.statusTick
        { s with selectedEndpoint := mqttEndpointDefault, lastError := .discoveryFallbackDefault }

/-- What `mqtt_try_endpoint_discovery` publishes. -/
def discoveryMessages (env : MessageInput) (inp : PassInput) (force : Bool) (s : MqttState) :
    List TopicMessage :=
  let periodicDue := inp.tick - s.lastDiscoveryTick ≥ mqttDiscoveryInterval
  if force ∨ periodicDue ∨ s.mqttConsecutiveFailures ≥ mqttDiscoveryFailThreshold then
    if s.wifiConnectedFlag then
      let s := { s with lastDiscoveryTick := inp.tick }
      match inp.fetched with
      | some fetched => fetchedMessages env inp fetched.1 s
      | none => fallbackMessages env inp s
    else []
  else []

/-- The hourly discovery -/
def refreshMessages (env : MessageInput) (inp : PassInput) (s : MqttState) : List TopicMessage :=
  if inp.tick - s.lastDiscoveryTick ≥ mqttDiscoveryInterval then discoveryMessages env inp true s
  else []

/-- `mqtt_connection_maintenance` while the client is ready or connected -/
def keptMessages (env : MessageInput) (inp : PassInput) (serialChanged : Bool) (s : MqttState) :
    List TopicMessage :=
  let kept := mqttPublishStatus false inp.tick s
  statusMessages false inp.tick env.statusTick s ++
    refreshMessages env inp (if serialChanged then mqttRefreshAppSubscriptions false kept else kept)

/-- What `mqtt_connection_maintenance` publishes. -/
def passMessages (env : MessageInput) (inp : PassInput) (s : MqttState) : List TopicMessage :=
  let (s, serialChanged) := preparePass inp s
  if s.wifiConnectedFlag = false then []
  else if s.mqttStarted = false then discoveryMessages env inp true s
  else if s.isMqttReady ∨ s.mqttConnected then keptMessages env inp serialChanged s
  else if s.nextMqttRetryTick ≠ 0 ∧ inp.tick < s.nextMqttRetryTick then []
  else discoveryMessages env inp false s

/-- What is published in a step. -/
def mqttMessages (env : MessageInput) (e : MqttEvent) (s : MqttState) : List TopicMessage :=
  match e with
  | .pass inp => passMessages env inp s
  | .client tick event =>
      match s.client with
      | none => []
      | some client =>
          eventMessages env tick event { s with client := some (client.after event) }
  | .taskStarted _ | .subscribeAppTopics | .eeprom _ | .wifi _ => []

/-! ## Topics -/

/-- The suffixes of the topics that the gateway publishes on. -/
def espSuffixes : List (List UInt8) :=
  [espStatus, espLog, espEeprom, espPolling, espDebug]

/-- A topic that a gateway may publish on, whatever its address. -/
def EspTopic (topic : List UInt8) : Prop :=
  ∃ size address suffix, (size = 64 ∨ size = 96) ∧ suffix ∈ espSuffixes ∧
    topic = mqttBuildTopic size address suffix

/-- Topics that end differently after their last slash are different, provided
that one of them is short. -/
theorem builtTopic_ne
    {identity suffix address suffix' : List UInt8} {size : Nat}
    (hidentity : identity.length ≤ eepromSerialMaxLen) (hsuffix : suffix.length ≤ 11)
    (hsize : size = 64 ∨ size = 96)
    (hends : ¬ (47 :: suffix) <:+ (47 :: suffix') ∧ ¬ (47 :: suffix') <:+ (47 :: suffix)) :
    mqttBuildTopic 64 identity suffix ≠ mqttBuildTopic size address suffix' := by
  intro heq
  rw [mqttBuildTopic_of_fits hidentity hsuffix] at heq
  unfold mqttBuildTopic at heq
  by_cases hlong : (47 :: address ++ 47 :: suffix').length ≤ size - 1
  · rw [List.take_of_length_le hlong] at heq
    have hself : (47 :: suffix) <:+ (47 :: identity ++ 47 :: suffix) := List.suffix_append _ _
    have hother : (47 :: suffix') <:+ (47 :: identity ++ 47 :: suffix) := by
      rw [heq]
      exact List.suffix_append _ _
    rcases List.suffix_or_suffix_of_suffix hself hother with h | h
    · exact hends.1 h
    · exact hends.2 h
  · have hlength := congrArg List.length heq
    simp only [eepromSerialMaxLen] at hidentity
    rw [List.length_take, Nat.min_eq_left (by omega)] at hlength
    simp only [List.cons_append, List.length_cons, List.length_append] at hlength
    rcases hsize with rfl | rfl
    · omega
    · omega

/-- A topic of the app is none that a gateway publishes on. -/
theorem appTopic_ne_espTopic
    {identity app : List UInt8} (hidentity : identity.length ≤ eepromSerialMaxLen)
    (happ : app ∈ [appEeprom, appRequest]) :
    ¬ EspTopic (mqttBuildTopic 64 identity app) := by
  have hshort : ∀ app ∈ [appEeprom, appRequest], app.length ≤ 11 := by
    decide
  have hends : ∀ suffix ∈ espSuffixes, ∀ app ∈ [appEeprom, appRequest],
      ¬ (47 :: app) <:+ (47 :: suffix) ∧ ¬ (47 :: suffix) <:+ (47 :: app) := by
    decide
  rintro ⟨size, address, suffix, hsize, hsuffix, heq⟩
  exact builtTopic_ne hidentity (hshort app happ) hsize (hends suffix hsuffix app happ) heq

/-- The topic of a status or of a log message. -/
def ReportTopic (topic : List UInt8) : Prop :=
  ∃ address suffix, suffix ∈ [espStatus, espLog] ∧ topic = mqttBuildTopic 96 address suffix

section Published

variable {env : MessageInput} {message : TopicMessage}

theorem ReportTopic.espTopic
    {topic : List UInt8} (h : ReportTopic topic) :
    EspTopic topic := by
  obtain ⟨address, suffix, hsuffix, rfl⟩ := h
  exact ⟨96, address, suffix, Or.inr rfl, List.mem_append_left [espEeprom, espPolling, espDebug]
    hsuffix, rfl⟩

theorem reportTopic_of_mem_dualChannel
    {suffix payload : List UInt8} {s : MqttState} (hsuffix : suffix ∈ [espStatus, espLog])
    (hmem : message ∈ mqttPublishJsonDualChannel suffix payload s) :
    ReportTopic message.1 := by
  have hidentity : ∀ identity, message ∈ mqttPublishJsonIdentity identity suffix payload s →
      ReportTopic message.1 := by
    intro identity h
    unfold mqttPublishJsonIdentity at h
    split at h
    · cases h
    · rw [List.mem_singleton.mp h]
      exact ⟨identity, suffix, hsuffix, rfl⟩
  rcases List.mem_append.mp hmem with h | h
  · exact hidentity _ h
  · split at h
    · exact hidentity _ h
    · cases h

theorem reportTopic_of_mem_logMessages
    {event : LogEvent} {tick : UInt32} {s : MqttState} (hmem : message ∈ logMessages event tick s) :
    ReportTopic message.1 := by
  unfold logMessages at hmem
  split at hmem
  · exact reportTopic_of_mem_dualChannel (by decide) hmem
  · cases hmem

theorem reportTopic_of_mem_statusMessages
    {force : Bool} {now tick : UInt32} {s : MqttState}
    (hmem : message ∈ statusMessages force now tick s) :
    ReportTopic message.1 := by
  unfold statusMessages at hmem
  split at hmem
  · exact reportTopic_of_mem_dualChannel (by decide) hmem
  · cases hmem

theorem reportTopic_of_mem_eventReports
    {event : LogEvent} {tick : UInt32} {s : MqttState}
    (hmem : message ∈ eventReports env event tick s) :
    ReportTopic message.1 := by
  rcases List.mem_append.mp hmem with h | h
  · exact reportTopic_of_mem_logMessages h
  · exact reportTopic_of_mem_statusMessages h

theorem reportTopic_of_mem_writeMessages
    {tick : UInt32} {payload : List UInt8} {s : MqttState}
    (hmem : message ∈ writeMessages env tick payload s) :
    ReportTopic message.1 := by
  unfold writeMessages at hmem
  split at hmem
  · exact reportTopic_of_mem_eventReports hmem
  · exact reportTopic_of_mem_eventReports hmem

theorem reportTopic_of_mem_fetchedMessages
    {inp : PassInput} {fetched : MqttEndpoint} {s : MqttState}
    (hmem : message ∈ fetchedMessages env inp fetched s) :
    ReportTopic message.1 := by
  unfold fetchedMessages at hmem
  dsimp only at hmem
  rcases List.mem_append.mp hmem with h | h
  · exact reportTopic_of_mem_eventReports h
  · split at h
    · cases h
    · exact reportTopic_of_mem_logMessages h

theorem reportTopic_of_mem_discoveryMessages
    {inp : PassInput} {force : Bool} {s : MqttState}
    (hmem : message ∈ discoveryMessages env inp force s) :
    ReportTopic message.1 := by
  unfold discoveryMessages at hmem
  dsimp only at hmem
  split at hmem
  · split at hmem
    · split at hmem
      · exact reportTopic_of_mem_fetchedMessages hmem
      · unfold fallbackMessages at hmem
        split at hmem
        · exact reportTopic_of_mem_eventReports hmem
        · exact reportTopic_of_mem_eventReports hmem
    · cases hmem
  · cases hmem

theorem reportTopic_of_mem_refreshMessages
    {inp : PassInput} {s : MqttState} (hmem : message ∈ refreshMessages env inp s) :
    ReportTopic message.1 := by
  unfold refreshMessages at hmem
  split at hmem
  · exact reportTopic_of_mem_discoveryMessages hmem
  · cases hmem

theorem reportTopic_of_mem_passMessages
    {inp : PassInput} {s : MqttState} (hmem : message ∈ passMessages env inp s) :
    ReportTopic message.1 := by
  unfold passMessages at hmem
  dsimp only at hmem
  split at hmem
  · cases hmem
  · split at hmem
    · exact reportTopic_of_mem_discoveryMessages hmem
    · split at hmem
      · rcases List.mem_append.mp hmem with h | h
        · exact reportTopic_of_mem_statusMessages h
        · exact reportTopic_of_mem_refreshMessages h
      · split at hmem
        · cases hmem
        · exact reportTopic_of_mem_discoveryMessages hmem

end Published

/-! ## What is acted upon -/

/-- What the handler begins with. -/
theorem noticed_eq (s : MqttState) :
    (mqttUpdateActiveSerialFromEeprom (mqttInitHwIdOnce s)).1 = noticed s := by
  rw [mqttUpdateActiveSerialFromEeprom_eq]
  rfl

/-- What an event makes the client publish are reports, and the answer to a request. -/
theorem eventMessages_case
    {env : MessageInput} {tick : UInt32} {event : ClientEvent} {s : MqttState}
    {message : TopicMessage} (hmem : message ∈ eventMessages env tick event s) :
    ReportTopic message.1 ∨
      ∃ topic payload s', event = .data topic payload ∧ isRequestTopic topic (noticed s) ∧
        message ∈ requestedImage env (publishAddress (noticed s)) s' := by
  unfold eventMessages at hmem
  rw [noticed_eq] at hmem
  cases event with
  | connected => exact Or.inl (reportTopic_of_mem_eventReports hmem)
  | disconnected => exact Or.inl (reportTopic_of_mem_eventReports hmem)
  | error => exact Or.inl (reportTopic_of_mem_eventReports hmem)
  | data topic payload =>
      unfold dataMessages at hmem
      dsimp only at hmem
      split at hmem
      · rcases List.mem_append.mp hmem with h | h
        · exact Or.inl (reportTopic_of_mem_writeMessages h)
        · split at h
          · rename_i hboth
            exact Or.inr ⟨topic, payload, _, rfl, hboth.2, h⟩
          · cases h
      · split at hmem
        · rename_i hrequest
          exact Or.inr ⟨topic, payload, _, rfl, hrequest, hmem⟩
        · cases hmem
  | subscribed => cases hmem
  | unsubscribed => cases hmem
  | published => cases hmem
  | other => cases hmem

theorem espTopic_of_mem_requestedImage
    {env : MessageInput} {address : List UInt8} {s : MqttState} {message : TopicMessage}
    (hmem : message ∈ requestedImage env address s) :
    EspTopic message.1 := by
  obtain ⟨p, hp, rfl⟩ := List.mem_map.mp hmem
  rw [Option.mem_toList] at hp
  unfold mqttPublishEeprom mqttPublishWithSuffix publishDebugMessage at hp
  dsimp only at hp
  split at hp
  · rw [← Option.some.inj hp]
    exact ⟨64, address, espEeprom, Or.inl rfl, by decide, rfl⟩
  · cases hp

/-- The client publishes on the topics of the gateway only. -/
theorem espTopic_of_mem_mqttMessages
    {env : MessageInput} {e : MqttEvent} {s : MqttState} {message : TopicMessage}
    (hmem : message ∈ mqttMessages env e s) :
    EspTopic message.1 := by
  unfold mqttMessages at hmem
  cases e with
  | taskStarted reads => cases hmem
  | pass inp => exact (reportTopic_of_mem_passMessages hmem).espTopic
  | client tick event =>
      dsimp only at hmem
      split at hmem
      · cases hmem
      · rcases eventMessages_case hmem with hreport | ⟨_, _, _, -, -, hanswer⟩
        · exact hreport.espTopic
        · exact espTopic_of_mem_requestedImage hanswer
  | subscribeAppTopics => cases hmem
  | eeprom gRDEeprom => cases hmem
  | wifi connected => cases hmem

/-- A message on the topic makes the client take an image or publish its own. -/
def ActsOn (topic : List UInt8) (s : MqttState) : Prop :=
  isEepromTopic topic (noticed s) ∨ isRequestTopic topic (noticed s)

section Acting

variable {topic : List UInt8} {s : MqttState}

theorem Identified.noticed_hwId
    (h : Identified s) :
    (noticed s).deviceHwId = hwIdOf s.efuseMac := by
  show (if s.deviceHwId = [] then hwIdOf s.efuseMac else s.deviceHwId) = _
  rcases h.hwId with hnone | hown
  · rw [if_pos hnone]
  · split
    · rfl
    · exact hown

/-- The client acts upon the topics of the app for the hardware id of the board and
for the serial that the mirror shows at that moment. -/
theorem actsOn_iff
    (h : Identified s) :
    ActsOn topic s ↔ topic ∈ channels (hwIdOf s.efuseMac) (serialIn s.gRDEeprom) := by
  have hserial : (noticed s).activeSerial = serialIn s.gRDEeprom := rfl
  unfold ActsOn isEepromTopic isRequestTopic
  rw [h.noticed_hwId, hserial]
  unfold channels appTopicSet appTopics
  by_cases hnone : serialIn s.gRDEeprom = []
  · simp [hnone]
  · simp only [hnone, if_false, Set.mem_union, Set.mem_ofPred_eq, List.mem_cons, List.not_mem_nil,
      or_false, ne_eq, not_false_eq_true, true_and]
    constructor
    · rintro ((hw | hs) | (hw | hs))
      · exact Or.inl (Or.inl hw)
      · exact Or.inr (Or.inl hs)
      · exact Or.inl (Or.inr hw)
      · exact Or.inr (Or.inr hs)
    · rintro ((hw | hs) | (hw | hs))
      · exact Or.inl (Or.inl hw)
      · exact Or.inr (Or.inl hs)
      · exact Or.inl (Or.inr hw)
      · exact Or.inr (Or.inr hs)

/-- Nothing that a gateway publishes is acted upon. -/
theorem not_actsOn_espTopic
    (h : Identified s) (htopic : EspTopic topic) :
    ¬ ActsOn topic s := by
  have happ : ∀ identity : List UInt8, identity.length ≤ eepromSerialMaxLen →
      topic ∉ appTopics identity := by
    intro identity hidentity hmem
    rcases List.mem_cons.mp hmem with rfl | hmem
    · exact appTopic_ne_espTopic hidentity List.mem_cons_self htopic
    · rw [List.mem_singleton.mp hmem] at htopic
      exact appTopic_ne_espTopic hidentity (by decide) htopic
  rw [actsOn_iff h]
  rintro (hw | hs)
  · exact happ _ (length_hwIdOf_le _) hw
  · split at hs
    · exact hs
    · exact happ _ (length_serialIn_le _) hs

/-- On any other topic a message does no more than to have the identities noticed. -/
theorem handled_of_not_actsOn
    (h : ¬ ActsOn topic s) (env : MessageInput) (tick : UInt32) (payload : List UInt8) :
    mqttEventHandler tick (.data topic payload) s = noticed s ∧
      eventMessages env tick (.data topic payload) s = [] := by
  obtain ⟨heeprom, hrequest⟩ := not_or.mp h
  constructor
  · rw [mqttEventHandler_eq]
    exact if_neg heeprom
  · unfold eventMessages
    rw [noticed_eq]
    dsimp only
    unfold dataMessages
    rw [if_neg heeprom, if_neg hrequest]

/-- A topic on which an image may come is none on which it may be asked for. -/
theorem not_isRequestTopic_of_isEepromTopic
    (hhwId : s.deviceHwId.length ≤ eepromSerialMaxLen)
    (hserial : s.activeSerial.length ≤ eepromSerialMaxLen) (h : isEepromTopic topic s) :
    ¬ isRequestTopic topic s := by
  have hends : ∀ a b : List UInt8, a.length ≤ eepromSerialMaxLen →
      mqttBuildTopic 64 a appEeprom ≠ mqttBuildTopic 64 b appRequest :=
    fun a b ha => builtTopic_ne ha (by decide) (Or.inl rfl) (by decide)
  rintro (hw | ⟨-, hs⟩)
  · rcases h with rfl | ⟨-, rfl⟩
    · exact hends _ _ hhwId hw
    · exact hends _ _ hserial hw
  · rcases h with rfl | ⟨-, rfl⟩
    · exact hends _ _ hhwId hs
    · exact hends _ _ hserial hs

/-- A request is answered once, with the image in the mirror, under the identity
that the board has in the cloud; it changes nothing. -/
theorem handled_of_request
    (hidentified : Identified s) (h : isRequestTopic topic (noticed s)) (env : MessageInput)
    (tick : UInt32) (payload : List UInt8) :
    mqttEventHandler tick (.data topic payload) s = noticed s ∧
      eventMessages env tick (.data topic payload) s =
        requestedImage env (cloudIdentity s.gRDEeprom s.efuseMac) s := by
  have hhwId := hidentified.noticed_hwId
  have hnot : ¬ isEepromTopic topic (noticed s) := fun heeprom =>
    not_isRequestTopic_of_isEepromTopic (hhwId ▸ length_hwIdOf_le _) (length_serialIn_le _)
      heeprom h
  have haddress : publishAddress (noticed s) = cloudIdentity s.gRDEeprom s.efuseMac := by
    unfold publishAddress cloudIdentity
    rw [hhwId]
    show (if serialIn s.gRDEeprom ≠ [] then _ else _) = _
    by_cases hnone : serialIn s.gRDEeprom = []
    · rw [if_neg (not_not_intro hnone), if_pos hnone]
    · rw [if_pos hnone, if_neg hnone]
      rfl
  constructor
  · rw [mqttEventHandler_eq]
    exact if_neg hnot
  · unfold eventMessages
    rw [noticed_eq]
    dsimp only
    unfold dataMessages
    rw [if_neg hnot, if_pos h, haddress]
    rfl

end Acting

/-! ## Asking for the image -/

/-- The topics on which a board answers, under its hardware id and its serial. -/
def imageTopics (mac : Option (Vector UInt8 6)) (gRDEeprom : Memory) : List (List UInt8) :=
  [mqttBuildTopic 64 (hwIdOf mac) espEeprom, mqttBuildTopic 64 (serialIn gRDEeprom) espEeprom]

/-- The event is a request for the image. -/
def AsksForImage (e : MqttEvent) (s : MqttState) : Prop :=
  ∃ tick topic payload, e = .client tick (.data topic payload) ∧ s.client ≠ none ∧
    isRequestTopic topic (noticed s)

/-- The image as it is published under the name that the board has in the cloud. -/
def imageMessage (env : MessageInput) (s : MqttState) : TopicMessage :=
  let address := cloudIdentity s.gRDEeprom s.efuseMac
  let topic := mqttBuildTopic 64 address espEeprom
  (topic,
    (Publication.ofBuffer topic
      (messageBuffer env.stack (eepromBytes s.gRDEeprom) topic address)).payload)

/-- The image is published exactly when it is asked for and the client is ready,
and then once.  Everything else that is published is a report, on a topic that
is no board's for the image. -/
structure ImageOnRequest (env : MessageInput) (e : MqttEvent) (s : MqttState) : Prop where
  asked : AsksForImage e s → mqttMessages env e s =
    if s.isMqttReady then [imageMessage env s] else []
  unasked : ¬ AsksForImage e s → ∀ message ∈ mqttMessages env e s,
    ReportTopic message.1 ∧ ∀ mac gRDEeprom, message.1 ∉ imageTopics mac gRDEeprom
  own : (imageMessage env s).1 ∈ imageTopics s.efuseMac s.gRDEeprom

section Requests

variable {s : MqttState}

theorem reportTopic_not_image
    {topic : List UInt8} (h : ReportTopic topic) (mac : Option (Vector UInt8 6))
    (gRDEeprom : Memory) :
    topic ∉ imageTopics mac gRDEeprom := by
  have hends : ∀ suffix ∈ [espStatus, espLog],
      ¬ (47 :: espEeprom) <:+ (47 :: suffix) ∧ ¬ (47 :: suffix) <:+ (47 :: espEeprom) := by
    decide
  obtain ⟨address, suffix, hsuffix, rfl⟩ := h
  have hne : ∀ identity : List UInt8, identity.length ≤ eepromSerialMaxLen →
      mqttBuildTopic 96 address suffix ≠ mqttBuildTopic 64 identity espEeprom := by
    intro identity hidentity
    exact (builtTopic_ne hidentity (by decide) (Or.inr rfl) (hends suffix hsuffix)).symm
  intro hmem
  rcases List.mem_cons.mp hmem with h | h
  · exact hne _ (length_hwIdOf_le mac) h
  · exact hne _ (length_serialIn_le gRDEeprom) (List.mem_singleton.mp h)

theorem imageMessage_own (env : MessageInput) (s : MqttState) :
    (imageMessage env s).1 ∈ imageTopics s.efuseMac s.gRDEeprom := by
  unfold imageMessage cloudIdentity imageTopics
  dsimp only
  split
  · exact List.mem_cons_self
  · exact List.mem_cons_of_mem _ List.mem_cons_self

theorem requestedImage_eq (env : MessageInput) (s : MqttState) :
    requestedImage env (cloudIdentity s.gRDEeprom s.efuseMac) s =
      if s.isMqttReady then [imageMessage env s] else [] := by
  unfold requestedImage mqttPublishEeprom mqttPublishWithSuffix publishDebugMessage
  dsimp only
  cases s.isMqttReady with
  | false => rfl
  | true => rfl

theorem imageOnRequest
    (h : Identified s) (env : MessageInput) (e : MqttEvent) :
    ImageOnRequest env e s where
  own := imageMessage_own env s
  asked := by
    rintro ⟨tick, topic, payload, rfl, hclient, hrequest⟩
    obtain ⟨client, hsome⟩ := Option.ne_none_iff_exists'.mp hclient
    unfold mqttMessages
    rw [hsome]
    dsimp only
    rw [← requestedImage_eq]
    -- what the event says of its client is not looked at
    have hafter : Identified { s with client := some (client.after (.data topic payload)) } :=
      ⟨h.hwId, h.serial⟩
    exact (handled_of_request hafter hrequest env tick payload).2
  unasked := by
    intro hnot message hmem
    suffices hreport : ReportTopic message.1 from ⟨hreport, reportTopic_not_image hreport⟩
    unfold mqttMessages at hmem
    cases e with
    | taskStarted reads => cases hmem
    | pass inp => exact reportTopic_of_mem_passMessages hmem
    | client tick event =>
        dsimp only at hmem
        split at hmem
        · cases hmem
        · rename_i client hclient
          rcases eventMessages_case hmem with hreport | ⟨topic, payload, _, rfl, hrequest, -⟩
          · exact hreport
          · refine absurd ⟨tick, topic, payload, rfl, ?_, hrequest⟩ hnot
            rw [hclient]
            exact Option.some_ne_none client
    | subscribeAppTopics => cases hmem
    | eeprom gRDEeprom => cases hmem
    | wifi connected => cases hmem

/-- In every run the client publishes the image when the app asks for it, once and
under the board's own name, and at no other time. -/
theorem image_on_request
    (efuseMac : Option (Vector UInt8 6)) (nvs : EndpointNvs) (es : List MqttEvent)
    (env : MessageInput) :
    Along mqttStep (ImageOnRequest env) es (MqttState.initial efuseMac nvs) := by
  have hall : Along mqttStep (fun _ _ => True) es (MqttState.initial efuseMac nvs) :=
    Along.of_forall fun _ _ => trivial
  exact hall.of_invariant (fun e _ _ h => identified_mqttStep e h)
    (fun e _ _ h => imageOnRequest h env e) (identified_initial efuseMac nvs)

end Requests

/-! ## The board -/

section Board

variable {s : MqttState}

theorem efuseMac_refresh (force : Bool) :
    (mqttRefreshAppSubscriptions force s).efuseMac = s.efuseMac := by
  obtain ⟨_, _, _, heq, -⟩ := mqttRefreshAppSubscriptions_frame force s
  rw [heq]
  rfl

theorem efuseMac_startSelected (inp : PassInput) :
    (startSelected inp s).1.efuseMac = s.efuseMac := by
  cases hvalid : mqttEndpointIsValid s.selectedEndpoint with
  | false =>
      rw [startSelected_invalid inp hvalid]
      rfl
  | true =>
      rw [startSelected_valid inp hvalid]
      split
      · rfl
      · rfl

theorem efuseMac_keptUp {s₁ : MqttState} :
    (keptUp s s₁).efuseMac = s₁.efuseMac := by
  unfold keptUp
  split
  · exact efuseMac_refresh false
  · rfl

theorem efuseMac_maintenance (inp : PassInput) :
    (mqttConnectionMaintenance inp s).1.efuseMac = s.efuseMac := by
  have hcase := mqttConnectionMaintenance_case inp s
  generalize mqttConnectionMaintenance inp s = result at hcase
  cases hcase with
  | idle hsame hidle => exact hsame.efuseMac
  | kept hwifi hstarted hkept hsame₁ hsame hkeeps =>
      exact hsame.efuseMac.trans (efuseMac_keptUp.trans hsame₁.efuseMac)
  | restarted hsame₁ hsame hrestarts hvalid =>
      exact (efuseMac_startSelected inp).trans
        (hsame.efuseMac.trans (efuseMac_keptUp.trans hsame₁.efuseMac))
  | started hwifi hstopped hsame => exact (efuseMac_startSelected inp).trans hsame.efuseMac
  | recreated hwifi hstarted hready hconnected hheld hsame =>
      exact (efuseMac_startSelected inp).trans hsame.efuseMac
  | reconnected hwifi hstarted hready hconnected hheld hsame hclient =>
      split
      · exact hsame.efuseMac
      · exact hsame.efuseMac

theorem efuseMac_writeEeprom (tick : UInt32) (payload : List UInt8) :
    (writeEeprom tick payload s).efuseMac = s.efuseMac := by
  unfold writeEeprom
  split
  · rfl
  · dsimp only
    unfold refreshIfChanged
    rw [mqttUpdateActiveSerialFromEeprom_eq]
    dsimp only
    split
    · exact efuseMac_refresh false
    · rfl

theorem efuseMac_connectionLost (error : MqttError) (tick : UInt32) :
    (connectionLost error tick (noticed s)).efuseMac = s.efuseMac :=
  (sameConnection_publish true tick
    { noticed s with
      isMqttReady := false
      subscribeCounter := 0
      mqttConnected := false
      lastError := error }).efuseMac

theorem efuseMac_mqttEventHandler (tick : UInt32) (event : ClientEvent) :
    (mqttEventHandler tick event s).efuseMac = s.efuseMac := by
  rw [mqttEventHandler_eq]
  cases event with
  | connected => exact (sameConnection_publish true tick _).efuseMac.trans (efuseMac_refresh true)
  | disconnected => exact efuseMac_connectionLost .mqttDisconnected tick
  | subscribed =>
      dsimp only
      split
      · rfl
      · rfl
  | data topic payload =>
      dsimp only
      split
      · exact efuseMac_writeEeprom tick payload
      · rfl
  | error => exact efuseMac_connectionLost .mqttTransportError tick
  | unsubscribed => rfl
  | published => rfl
  | other => rfl

/-- No step changes the MAC address of the board. -/
theorem efuseMac_mqttStep (e : MqttEvent) :
    (mqttStep e s).efuseMac = s.efuseMac := by
  cases e with
  | taskStarted reads =>
      unfold mqttStep
      rw [mqttUpdateActiveSerialFromEeprom_eq]
      exact (sameConnection_endpointInitOnce reads _).efuseMac
  | pass inp => exact efuseMac_maintenance inp
  | client tick event =>
      cases hclient : s.client with
      | none => simp only [mqttStep, hclient]
      | some client =>
          simp only [mqttStep, hclient]
          exact efuseMac_mqttEventHandler tick event
  | subscribeAppTopics => exact efuseMac_refresh false
  | eeprom gRDEeprom => rfl
  | wifi connected => rfl

theorem efuseMac_run (es : List MqttEvent) :
    (run mqttStep es s).efuseMac = s.efuseMac := by
  induction es generalizing s with
  | nil => rfl
  | cons e es ih => exact ih.trans (efuseMac_mqttStep e)

end Board

end Mqtt
end AvensysEsp32
