import AvensysEsp32.Foundation.Decimal
import AvensysEsp32.Mqtt.Endpoint
import AvensysEsp32.UnitComm.Connected
import Mathlib.Data.List.DropRight

/-!
# The MQTT manager

The variables of `mqtt_app.c`, the handler of the client's events, and
`mqtt_connection_maintenance`, which `mqtt_task` calls again and again.  A pass
of the maintenance and the handling of an event are steps; between them the
contents of the EEPROM mirror and the state of Wi-Fi may change.

The client is what the library and the broker make of it: the configuration it
was given, and the topics it is subscribed to.
-/

namespace AvensysEsp32
namespace Mqtt

open Foundation UnitComm

/-! ## Constants, in ticks of a millisecond -/

/-- `MQTT_DISCOVERY_INTERVAL_MS` -/
@[simp] abbrev mqttDiscoveryInterval : UInt32 := 3600000
/-- `MQTT_DISCOVERY_FAIL_THRESHOLD` -/
@[simp] abbrev mqttDiscoveryFailThreshold : UInt32 := 3
/-- `MQTT_RECONNECT_BASE_MS` -/
@[simp] abbrev mqttReconnectBase : UInt32 := 1000
/-- `MQTT_RECONNECT_MAX_MS` -/
@[simp] abbrev mqttReconnectMax : UInt32 := 60000
/-- `MQTT_STATUS_INTERVAL_MS` -/
@[simp] abbrev mqttStatusInterval : UInt32 := 60000
/-- `EEPROM_SERIAL_MAX_LEN` -/
@[simp] abbrev eepromSerialMaxLen : Nat := 18
/-- `offsetof(S_EEPROM, SerialString)` -/
@[simp] abbrev serialStringOffset : Nat := 11

/-! ## State -/

/-- `esp_mqtt_client_handle_t` -/
structure MqttClient where
  uri : List UInt8
  username : Option (List UInt8)
  password : Option (List UInt8)
  /-- The topics the broker has it subscribed to. -/
  subscriptions : List (List UInt8)
  /-- The `MQTT_EVENT_SUBSCRIBED` since it last connected, if it has. -/
  acknowledged : Option Nat
deriving DecidableEq, Repr

/-- The texts `s_last_error` is set to. -/
inductive MqttError
  | none
  | discoverySkipped
  | discoveryNvsSaveFailed
  | discoveryFallbackNvs
  | discoveryFallbackDefault
  | mqttDisconnected
  | eepromWriteInvalid
  | mqttTransportError
deriving DecidableEq, Repr

structure MqttState where
  /-- The MAC address in eFuse, if it can be read. -/
  efuseMac : Option (Vector UInt8 6)
  nvs : EndpointNvs
  wifiConnectedFlag : Bool
  gRDEeprom : Memory
  readEepromRequestIndex : BitVec 16
  client : Option MqttClient
  isMqttReady : Bool
  subscribeCounter : UInt8
  mqttConnected : Bool
  mqttStarted : Bool
  mqttConsecutiveFailures : UInt32
  mqttReconnectAttempts : UInt32
  nextMqttRetryTick : UInt32
  lastDiscoveryTick : UInt32
  endpointInitialized : Bool
  selectedEndpoint : MqttEndpoint
  activeEndpoint : MqttEndpoint
  deviceHwId : List UInt8
  activeSerial : List UInt8
  lastSerialSubscribed : List UInt8
  hwIdSubscribed : Bool
  lastStatusPublishTick : UInt32
  logSeq : UInt32
  lastError : MqttError

/-- The variables as the program starts. -/
def MqttState.initial (efuseMac : Option (Vector UInt8 6)) (nvs : EndpointNvs) : MqttState where
  efuseMac := efuseMac
  nvs := nvs
  wifiConnectedFlag := false
  gRDEeprom := fun _ => 0
  readEepromRequestIndex := 0
  client := none
  isMqttReady := false
  subscribeCounter := 0
  mqttConnected := false
  mqttStarted := false
  mqttConsecutiveFailures := 0
  mqttReconnectAttempts := 0
  nextMqttRetryTick := 0
  lastDiscoveryTick := 0
  endpointInitialized := false
  selectedEndpoint := .zero
  activeEndpoint := .zero
  deviceHwId := []
  activeSerial := []
  lastSerialSubscribed := []
  hwIdSubscribed := false
  lastStatusPublishTick := 0
  logSeq := 0
  lastError := .none

/-- What a pass of the maintenance finds: the tick counter when the pass
begins, when it publishes a discovered endpoint, when it makes its attempt and
when it records a failure; and how its calls end. -/
structure PassInput where
  tick : UInt32
  statusTick : UInt32
  attemptTick : UInt32
  retryTick : UInt32
  initReads : NvsReads
  reads : NvsReads
  writes : NvsWrites
  fetched : Option ValidEndpoint
  clientInit : Bool
  clientStart : Bool
  clientReconnect : Bool

/-- A call of `mqtt_app_start_with_endpoint` or `esp_mqtt_client_reconnect`;
`accepted` is whether the result is `true`, or `ESP_OK`. -/
structure Attempt where
  tick : UInt32
  accepted : Bool
deriving DecidableEq, Repr

/-! ## Identities -/

/-- `isprint` -/
def isprint (c : UInt8) : Bool := 32 ≤ c && c ≤ 126

/-- `isspace` -/
def isspace (c : UInt8) : Bool := c = 32 || (9 ≤ c && c ≤ 13)

/-- `mqtt_extract_serial_from_eeprom` -/
def mqttExtractSerialFromEeprom (gRDEeprom : Memory) : List UInt8 :=
  ((readBytes gRDEeprom serialStringOffset eepromSerialMaxLen).takeWhile fun c =>
    c ≠ 0 && isprint c).rdropWhile isspace

/-- `mqtt_is_serial_valid` -/
def mqttIsSerialValid (serial : List UInt8) : Bool :=
  serial.any fun c => !isspace c && c ≠ 48

/-- `mqtt_update_active_serial_from_eeprom` -/
def mqttUpdateActiveSerialFromEeprom (s : MqttState) : MqttState × Bool :=
  let newSerial := mqttExtractSerialFromEeprom s.gRDEeprom
  let valid := newSerial ≠ [] ∧ mqttIsSerialValid newSerial
  if ¬ valid then
    if s.activeSerial ≠ [] then ({ s with activeSerial := [] }, true) else (s, false)
  else if s.activeSerial ≠ newSerial then ({ s with activeSerial := newSerial }, true)
  else (s, false)

/-- A digit of `%02X` -/
def hexDigit (value : Nat) : UInt8 :=
  UInt8.ofNat (if value < 10 then 48 + value else 55 + value)

/-- `"UNKNOWNHWID"` -/
def unknownHwId : List UInt8 :=
  [85, 78, 75, 78, 79, 87, 78, 72, 87, 73, 68]

/-- The text `mqtt_init_hw_id_once` makes of the MAC address. -/
def hwIdOf (mac : Option (Vector UInt8 6)) : List UInt8 :=
  match mac with
  | some mac => mac.toList.flatMap fun b => [hexDigit (b.toNat / 16), hexDigit (b.toNat % 16)]
  | none => unknownHwId

/-- `mqtt_init_hw_id_once` -/
def mqttInitHwIdOnce (s : MqttState) : MqttState :=
  { s with deviceHwId := if s.deviceHwId = [] then hwIdOf s.efuseMac else s.deviceHwId }

/-! ## Topics -/

/-- `"app/eeprom"` -/
def appEeprom : List UInt8 :=
  [97, 112, 112, 47, 101, 101, 112, 114, 111, 109]

/-- `"app/request"` -/
def appRequest : List UInt8 :=
  [97, 112, 112, 47, 114, 101, 113, 117, 101, 115, 116]

/-- `mqtt_build_topic` -/
def mqttBuildTopic (bufferSize : Nat) (address suffix : List UInt8) : List UInt8 :=
  (47 :: address ++ 47 :: suffix).take (bufferSize - 1)

/-- The topics of an identity that the app writes to. -/
def appTopics (identity : List UInt8) : List (List UInt8) :=
  [mqttBuildTopic 64 identity appEeprom, mqttBuildTopic 64 identity appRequest]

/-- `mqtt_subscribe_identity_topics` -/
def mqttSubscribeIdentityTopics (identity : List UInt8) (s : MqttState) : MqttState :=
  { s with
    client :=
      if identity = [] then s.client
      else
        s.client.map fun client =>
          { client with
            subscriptions := (appTopics identity).foldl (fun ts t => ts.insert t)
              client.subscriptions } }

/-- `mqtt_unsubscribe_identity_topics` -/
def mqttUnsubscribeIdentityTopics (identity : List UInt8) (s : MqttState) : MqttState :=
  { s with
    client :=
      if identity = [] then s.client
      else
        s.client.map fun client =>
          { client with
            subscriptions := (appTopics identity).foldl (fun ts t => ts.filter (· ≠ t))
              client.subscriptions } }

/-- `mqtt_refresh_app_subscriptions`, the channel of the hardware id -/
def refreshHwIdChannel (force : Bool) (s : MqttState) : MqttState :=
  if force ∨ s.hwIdSubscribed = false then
    { mqttSubscribeIdentityTopics s.deviceHwId s with hwIdSubscribed := true }
  else s

/-- `mqtt_refresh_app_subscriptions`, the channel of the serial.  The arrays
have one size, so that copies between them lose nothing. -/
def refreshSerialChannel (force : Bool) (s : MqttState) : MqttState :=
  if s.activeSerial = [] then
    if s.lastSerialSubscribed ≠ [] then
      { mqttUnsubscribeIdentityTopics s.lastSerialSubscribed s with lastSerialSubscribed := [] }
    else s
  else if force ∨ s.activeSerial ≠ s.lastSerialSubscribed then
    let s :=
      if s.lastSerialSubscribed ≠ [] then
        mqttUnsubscribeIdentityTopics s.lastSerialSubscribed s
      else s
    { mqttSubscribeIdentityTopics s.activeSerial s with
      lastSerialSubscribed := s.activeSerial }
  else s

/-- `mqtt_refresh_app_subscriptions` -/
def mqttRefreshAppSubscriptions (force : Bool) (s : MqttState) : MqttState :=
  let s := (mqttUpdateActiveSerialFromEeprom (mqttInitHwIdOnce s)).1
  if s.client = none then s
  else refreshSerialChannel force (refreshHwIdChannel force s)

/-! ## Publishing -/

/-- `mqtt_publish_status`: when the status was published last. -/
def mqttPublishStatus (force : Bool) (now : UInt32) (s : MqttState) : MqttState :=
  { s with
    lastStatusPublishTick :=
      if s.client = none ∨ s.mqttConnected = false ∨
          (force = false ∧ s.lastStatusPublishTick ≠ 0 ∧
            now - s.lastStatusPublishTick < mqttStatusInterval) then
        s.lastStatusPublishTick
      else now }

/-- `mqtt_publish_log_event`: the number of the next message. -/
def mqttPublishLogEvent (s : MqttState) : MqttState :=
  { s with
    logSeq := if s.client = none ∨ s.mqttConnected = false then s.logSeq else s.logSeq + 1 }

/-! ## Endpoints -/

/-- `mqtt_endpoint_init_once` -/
def mqttEndpointInitOnce (reads : NvsReads) (s : MqttState) : MqttState :=
  if s.endpointInitialized then s
  else
    { s with
      selectedEndpoint := (loadMqttEndpointFromNvs reads s.nvs).getD mqttEndpointDefault
      endpointInitialized := true }

/-- A discovered endpoint without credentials keeps those selected before. -/
def withCredentialsOf (selected fetched : MqttEndpoint) : MqttEndpoint :=
  { fetched with
    username := if fetched.username = [] then selected.username else fetched.username
    password := if fetched.password = [] then selected.password else fetched.password }

/-- `mqtt_try_endpoint_discovery` after a successful fetch -/
def selectFetched (inp : PassInput) (fetched : MqttEndpoint) (s : MqttState) : MqttState :=
  let s :=
    { s with
      selectedEndpoint := withCredentialsOf s.selectedEndpoint fetched
      lastError := .none }
  let s := mqttPublishStatus true inp.statusTick (mqttPublishLogEvent s)
  let (nvs, saved) := saveMqttEndpointToNvs inp.writes s.selectedEndpoint s.nvs
  let s := { s with nvs := nvs }
  if saved then s else mqttPublishLogEvent { s with lastError := .discoveryNvsSaveFailed }

/-- `mqtt_try_endpoint_discovery` after a fetch that failed -/
def selectFallback (inp : PassInput) (s : MqttState) : MqttState :=
  let s :=
    match loadMqttEndpointFromNvs inp.reads s.nvs with
    | some endpoint => { s with selectedEndpoint := endpoint, lastError := .discoveryFallbackNvs }
    | none =>
        { s with
          selectedEndpoint := mqttEndpointDefault
          lastError := .discoveryFallbackDefault }
  mqttPublishStatus true inp.statusTick (mqttPublishLogEvent s)

/-- `mqtt_try_endpoint_discovery` -/
def mqttTryEndpointDiscovery (inp : PassInput) (force : Bool) (s : MqttState) :
    MqttState × Bool :=
  let periodicDue := inp.tick - s.lastDiscoveryTick ≥ mqttDiscoveryInterval
  if force ∨ periodicDue ∨ s.mqttConsecutiveFailures ≥ mqttDiscoveryFailThreshold then
    if s.wifiConnectedFlag then
      let s := { s with lastDiscoveryTick := inp.tick }
      match inp.fetched with
      | some fetched => (selectFetched inp fetched.1 s, true)
      | none => (selectFallback inp s, false)
    else ({ s with lastError := .discoverySkipped }, false)
  else (s, false)

/-! ## Starting and keeping the connection -/

/-- The delay `mqtt_compute_next_retry` computes. -/
def retryDelay (failures : UInt32) : UInt32 :=
  let shift := if failures > 0 then failures - 1 else 0
  let shift := if shift > 6 then 6 else shift
  let delay := mqttReconnectBase <<< shift
  if delay > mqttReconnectMax then mqttReconnectMax else delay

/-- `s_mqtt_consecutive_failures++` and `mqtt_compute_next_retry` -/
def recordFailure (now : UInt32) (s : MqttState) : MqttState :=
  let failures := s.mqttConsecutiveFailures + 1
  { s with
    mqttConsecutiveFailures := failures
    nextMqttRetryTick := now + retryDelay failures }

/-- `s_mqtt_uri`: `"mqtts://host:port"`, or `"mqtt://host:port"` -/
def mqttUri (endpoint : MqttEndpoint) : List UInt8 :=
  (109 :: 113 :: 116 :: 116 :: ((if endpoint.tls then [115] else []) ++ [58, 47, 47] ++
    endpoint.host ++ 58 :: decimal endpoint.port.toNat)).take 191

/-- `esp_mqtt_client_init` with the configuration of
`mqtt_app_start_with_endpoint` -/
def MqttClient.init (endpoint : MqttEndpoint) : MqttClient where
  uri := mqttUri endpoint
  username := if endpoint.username = [] then none else some endpoint.username
  password := if endpoint.password = [] then none else some endpoint.password
  subscriptions := []
  acknowledged := none

/-- `mqtt_app_start_with_endpoint` -/
def mqttAppStartWithEndpoint (inp : PassInput) (endpoint : MqttEndpoint) (s : MqttState) :
    MqttState × Bool :=
  if mqttEndpointIsValid endpoint then
    -- Whatever client there was is stopped and destroyed.
    let s := { s with client := none }
    if inp.clientInit ∧ inp.clientStart then
      ({ s with
          client := some (.init endpoint)
          mqttStarted := true
          mqttConnected := false
          activeEndpoint := endpoint },
        true)
    else ({ s with mqttStarted := false }, false)
  else (s, false)

/-- A start with the selected endpoint, and the record of its failure. -/
def startSelected (inp : PassInput) (s : MqttState) : MqttState × Option Attempt :=
  let (s, started) := mqttAppStartWithEndpoint inp s.selectedEndpoint s
  if started then (s, some ⟨inp.attemptTick, true⟩)
  else (recordFailure inp.retryTick s, some ⟨inp.attemptTick, false⟩)

/-- The hourly discovery: a new endpoint is used at once. -/
def periodicRefresh (inp : PassInput) (s : MqttState) : MqttState × Option Attempt :=
  if inp.tick - s.lastDiscoveryTick ≥ mqttDiscoveryInterval then
    let (s, updated) := mqttTryEndpointDiscovery inp true s
    if updated ∧ mqttEndpointEquals s.selectedEndpoint s.activeEndpoint = false then
      startSelected inp s
    else (s, none)
  else (s, none)

/-- `mqtt_connection_maintenance` while the client is ready or connected -/
def keepConnection (inp : PassInput) (serialChanged : Bool) (s : MqttState) :
    MqttState × Option Attempt :=
  let s := mqttPublishStatus false inp.tick s
  periodicRefresh inp (if serialChanged then mqttRefreshAppSubscriptions false s else s)

/-- `mqtt_connection_maintenance` once the time to retry has come -/
def reconnect (inp : PassInput) (s : MqttState) : MqttState × Option Attempt :=
  let (s, updated) := mqttTryEndpointDiscovery inp false s
  let s := { s with mqttReconnectAttempts := s.mqttReconnectAttempts + 1 }
  if updated ∧ mqttEndpointEquals s.selectedEndpoint s.activeEndpoint = false then
    startSelected inp s
  else if s.client ≠ none then
    if inp.clientReconnect then (s, some ⟨inp.attemptTick, true⟩)
    else (recordFailure inp.retryTick s, some ⟨inp.attemptTick, false⟩)
  else startSelected inp s

/-- What every pass begins with. -/
def preparePass (inp : PassInput) (s : MqttState) : MqttState × Bool :=
  mqttUpdateActiveSerialFromEeprom (mqttInitHwIdOnce (mqttEndpointInitOnce inp.initReads s))

/-- `mqtt_connection_maintenance`, and the attempt it makes -/
def mqttConnectionMaintenance (inp : PassInput) (s : MqttState) : MqttState × Option Attempt :=
  let (s, serialChanged) := preparePass inp s
  if s.wifiConnectedFlag = false then (s, none)
  else if s.mqttStarted = false then startSelected inp (mqttTryEndpointDiscovery inp true s).1
  else if s.isMqttReady ∨ s.mqttConnected then keepConnection inp serialChanged s
  else if s.nextMqttRetryTick ≠ 0 ∧ inp.tick < s.nextMqttRetryTick then (s, none)
  else reconnect inp s

/-! ## The client's events -/

/-- `esp_mqtt_event_id_t`, with the data of the event that are read. -/
inductive ClientEvent
  | connected
  | disconnected
  | subscribed
  | unsubscribed
  | published
  | data (topic payload : List UInt8)
  | error
  | other
deriving DecidableEq, Repr

/-- `MQTT_EVENT_DISCONNECTED` and `MQTT_EVENT_ERROR` -/
def connectionLost (error : MqttError) (tick : UInt32) (s : MqttState) : MqttState :=
  let s :=
    { s with
      isMqttReady := false
      subscribeCounter := 0
      mqttConnected := false
      lastError := error }
  recordFailure tick (mqttPublishStatus true tick (mqttPublishLogEvent s))

/-- `if (mqtt_update_active_serial_from_eeprom()) mqtt_refresh_app_subscriptions(false)` -/
def refreshIfChanged (s : MqttState) : MqttState :=
  let updated := mqttUpdateActiveSerialFromEeprom s
  if updated.2 then mqttRefreshAppSubscriptions false updated.1 else updated.1

/-- The data of `MQTT_EVENT_DATA` are an image of the EEPROM. -/
def writeEeprom (tick : UInt32) (payload : List UInt8) (s : MqttState) : MqttState :=
  match mqttApplyEepromPayload payload s.gRDEeprom with
  | none =>
      mqttPublishStatus true tick (mqttPublishLogEvent { s with lastError := .eepromWriteInvalid })
  | some gRDEeprom =>
      let s :=
        { s with
          gRDEeprom := gRDEeprom
          readEepromRequestIndex := s.readEepromRequestIndex ||| fullEepromWrite
          lastError := .none }
      refreshIfChanged (mqttPublishStatus true tick (mqttPublishLogEvent s))

/-- The topic is one on which the app sends an image of the EEPROM. -/
def isEepromTopic (topic : List UInt8) (s : MqttState) : Prop :=
  topic = mqttBuildTopic 64 s.deviceHwId appEeprom ∨
    (s.activeSerial ≠ [] ∧ topic = mqttBuildTopic 64 s.activeSerial appEeprom)

instance (topic : List UInt8) (s : MqttState) : Decidable (isEepromTopic topic s) :=
  inferInstanceAs (Decidable (_ ∨ _))

/-- `mqtt_event_handler` -/
def mqttEventHandler (tick : UInt32) (event : ClientEvent) (s : MqttState) : MqttState :=
  let s := (mqttUpdateActiveSerialFromEeprom (mqttInitHwIdOnce s)).1
  match event with
  | .connected =>
      let s :=
        { s with
          mqttConnected := true
          mqttConsecutiveFailures := 0
          mqttReconnectAttempts := 0
          nextMqttRetryTick := 0
          lastError := .none
          hwIdSubscribed := false
          lastSerialSubscribed := [] }
      mqttPublishStatus true tick (mqttPublishLogEvent (mqttRefreshAppSubscriptions true s))
  | .disconnected => connectionLost .mqttDisconnected tick s
  | .subscribed =>
      if s.subscribeCounter = 1 then { s with isMqttReady := true, subscribeCounter := 0 }
      else { s with subscribeCounter := s.subscribeCounter + 1 }
  | .data topic payload =>
      if isEepromTopic topic s then writeEeprom tick payload s else s
  | .error => connectionLost .mqttTransportError tick s
  | .unsubscribed | .published | .other => s

/-! ## Runs -/

inductive MqttEvent
  /-- What `mqtt_task` does before its loop. -/
  | taskStarted (reads : NvsReads)
  | pass (inp : PassInput)
  | client (tick : UInt32) (event : ClientEvent)
  /-- `mqtt_subscribe_app_topics` -/
  | subscribeAppTopics
  /-- The unit's replies and BLE writes change the mirror. -/
  | eeprom (gRDEeprom : Memory)
  | wifi (connected : Bool)

/-- What an event says of its client.  With one that connects the broker
begins a clean session. -/
def MqttClient.after (event : ClientEvent) (client : MqttClient) : MqttClient :=
  match event with
  | .connected => { client with subscriptions := [], acknowledged := some 0 }
  | .subscribed => { client with acknowledged := client.acknowledged.map (· + 1) }
  | _ => client

/-- The effect of an event.  A client that has been destroyed raises none. -/
def mqttStep (e : MqttEvent) (s : MqttState) : MqttState :=
  match e with
  | .taskStarted reads =>
      mqttEndpointInitOnce reads (mqttUpdateActiveSerialFromEeprom (mqttInitHwIdOnce s)).1
  | .pass inp => (mqttConnectionMaintenance inp s).1
  | .client tick event =>
      match s.client with
      | none => s
      | some client =>
          mqttEventHandler tick event { s with client := some (client.after event) }
  | .subscribeAppTopics => mqttRefreshAppSubscriptions false s
  | .eeprom gRDEeprom => { s with gRDEeprom := gRDEeprom }
  | .wifi connected => { s with wifiConnectedFlag := connected }

/-- What a pass at a tick finds if only the fetch may fail. -/
def clearPass (tick : UInt32) (fetched : Option ValidEndpoint) : PassInput where
  tick := tick
  statusTick := tick
  attemptTick := tick
  retryTick := tick
  initReads := .ok
  reads := .ok
  writes := .ok
  fetched := fetched
  clientInit := true
  clientStart := true
  clientReconnect := true

def passAt (tick : UInt32) (fetched : Option ValidEndpoint) : MqttEvent :=
  .pass (clearPass tick fetched)

/-- The endpoint `mqtt://b:1883` may be fetched. -/
theorem brokerEndpoint_isValid :
    mqttEndpointIsValid
      { host := [98], port := 1883, tls := false, username := [], password := [] } = true := by
  decide

end Mqtt
end AvensysEsp32
