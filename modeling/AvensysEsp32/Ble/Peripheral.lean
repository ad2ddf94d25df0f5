import AvensysEsp32.Ble.ProvTimer
import AvensysEsp32.Foundation.Watching

/-!
# The BLE peripheral

Around the server stand the callbacks of the stack: an interface is registered,
advertising starts when both of its data are set, a client connects and
disconnects, and each provisioning status that is set is indicated to the
connection that was stored, if the client has asked for it.

The stack is taken at its word: a client connects only while the device
advertises, and writes and leaves only while it is connected.  Then the device
always advertises or is connected, and what it indicates is what a watched value
tells its subscriber: no indication goes to a client that is gone or has not
asked, and none is missed by one that has.
-/

namespace AvensysEsp32
namespace Ble

open Foundation Serial UnitComm Wifi

/-- `ADV_CONFIG_FLAG` -/
@[simp] abbrev advConfigFlag : UInt8 := 1
/-- `SCAN_RSP_CONFIG_FLAG` -/
@[simp] abbrev scanRspConfigFlag : UInt8 := 2
/-- `ESP_GATT_IF_NONE` -/
@[simp] abbrev espGattIfNone : UInt8 := 0xff

/-- Whom an indication is sent to. -/
structure Link where
  gattsIf : UInt8
  connId : UInt16
deriving DecidableEq, Repr

structure Peripheral where
  ble : BleState
  /-- `data_profile_tab[PROFILE_APP_IDX].gatts_if` -/
  profileIf : UInt8
  /-- `adv_config_done` -/
  advConfigDone : UInt8
  /-- `s_conn_id` -/
  connId : UInt16
  /-- `s_gatts_if` -/
  gattsIf : UInt8
  /-- Whether the stack has been told to advertise since a client connected. -/
  advertising : Bool
  /-- The client that is connected, as the stack knows it. -/
  connection : Option Link
  /-- What `esp_ble_gatts_send_indicate` has been given, in order. -/
  indications : List (Link × ProvState)

/-- The peripheral before `esp_ble_gatts_app_register`. -/
def Peripheral.initial (nvsSsid nvsPass : Option (List UInt8)) : Peripheral where
  ble := { BleState.initial nvsSsid nvsPass with wifi := .boot true nvsSsid nvsPass }
  profileIf := espGattIfNone
  advConfigDone := 0
  connId := 0
  gattsIf := espGattIfNone
  advertising := false
  connection := none
  indications := []

/-- `esp_ble_gap_start_advertising` -/
def startAdvertising (s : Peripheral) : Peripheral :=
  { s with advertising := true }

/-- `gap_event_handler` when one of the two data has been set. -/
def dataSet (flag : UInt8) (s : Peripheral) : Peripheral :=
  let s := { s with advConfigDone := s.advConfigDone &&& ~~~flag }
  if s.advConfigDone = 0 then startAdvertising s else s

/-- Whom `ble_set_prov_status` indicates the status to. -/
def Peripheral.indicatesTo (s : Peripheral) : Option Link :=
  if s.ble.provStatusNotify ∧ s.gattsIf ≠ espGattIfNone then some ⟨s.gattsIf, s.connId⟩ else none

/-- The indications that the calls of `ble_set_prov_status` send. -/
def indicate (statuses : List ProvState) (s : Peripheral) : Peripheral :=
  { s with
    indications := s.indications ++
      statuses.flatMap fun status => s.indicatesTo.toList.map fun link => (link, status) }

/-! ## The statuses that are set -/

/-- What `handle_write_event` sets for `WIFI_SSID`. -/
def ssidStatuses (value : List UInt8) (allocated : Bool) (s : WifiState) : List ProvState :=
  if (s.ssidPacket.append value maxSsidLength allocated).2 then
    if 0 < s.passwordPacket.len then [.ready] else [.waitPassword]
  else [.error]

/-- What `handle_write_event` sets for `WIFI_PASSWORD`. -/
def passwordStatuses (value : List UInt8) (allocated : Bool) (s : WifiState) : List ProvState :=
  if (s.passwordPacket.append value maxPasswordLength allocated).2 then
    if s.ssidPacket.len = 0 then [.waitSsid] else [.ready]
  else [.error]

/-- What `handle_write_event` sets for `CONNECT_TO_CLOUD`. -/
def cloudStatuses (inp : EnqueueInput) (s : WifiState) : List ProvState :=
  if s.ssidPacket.len = 0 ∨ s.passwordPacket.len = 0 then [.error]
  else if (mqttEnqueueWifiCredentials inp s.wifiSsid s.wifiPassword true .ble
      (bleSetProvStatus .applying s)).2 then [.applying, .done]
  else [.applying, .error]

section Handles

variable (handles : HandleTable)

/-- What `handle_write_event` sets. -/
def writeStatuses (inp : EnqueueInput) (allocated : Bool) (param : WriteParam) (s : WifiState) :
    List ProvState :=
  if param.handle = handles.eepromData then []
  else if param.handle = handles.wifiSsid then ssidStatuses param.value allocated s
  else if param.handle = handles.wifiPassword then passwordStatuses param.value allocated s
  else if param.handle = handles.connectToCloud then cloudStatuses inp s
  else []

/-- The write is one of the descriptor of the status. -/
def WriteParam.SetsNotify (param : WriteParam) : Prop :=
  param.handle = handles.provStatusCfg ∧ param.value.length = 2

instance (param : WriteParam) : Decidable (param.SetsNotify handles) :=
  inferInstanceAs (Decidable (_ ∧ _))

/-- The statuses that an event of the server sets, in order. -/
def statuses (e : BleEvent) (s : BleState) : List ProvState :=
  match e with
  | .gatts .disconnect => [.waitSsid]
  | .gatts (.write inp allocated param) =>
      if param.SetsNotify handles then [] else writeStatuses handles inp allocated param s.wifi
  | .gatts _ => []
  | .provTimeout => if s.wifi.provTimer then [.error] else []
  | .setRuntimeReady ready => [if ready then .runtimeReady else .booting]
  | .task _ | .gotIp | .staDisconnected => []

/-! ## The callbacks -/

/-- The events of `gatts_event_handler`; `connId` is the field `conn_id` of the
parameter, and `ok` whether its status is `ESP_GATT_OK`. -/
inductive GattsCallback
  | reg (ok : Bool)
  | creatAttrTab (ok : Bool)
  | profile (connId : UInt16) (event : GattsEvent)

/-- `ble_init_runtime_placeholders` -/
def bleInitRuntimePlaceholders (s : BleState) : BleState :=
  { s with gRDEeprom := fun _ => 0, eepromAttr := eepromBytes fun _ => 0 }

/-- `gatts_profile_event_handler`, with the connection and the advertising. -/
def profileEvent (gattsIf : UInt8) (event : GattsCallback) (s : Peripheral) : Peripheral :=
  match event with
  | .reg _ => { s with advConfigDone := s.advConfigDone ||| advConfigFlag ||| scanRspConfigFlag }
  | .creatAttrTab true =>
      indicate [.booting]
        { s with ble := bleSetRuntimeReady false (bleInitRuntimePlaceholders s.ble) }
  | .creatAttrTab false => s
  | .profile connId .connect =>
      { s with
        ble := gattsProfileEventHandler handles .connect s.ble
        connId := connId
        gattsIf := gattsIf
        connection := some ⟨gattsIf, connId⟩
        advertising := false }
  | .profile _ .disconnect =>
      startAdvertising (indicate [.waitSsid]
        { s with ble := gattsProfileEventHandler handles .disconnect s.ble, connection := none })
  | .profile _ event =>
      indicate (statuses handles (.gatts event) s.ble)
        { s with ble := gattsProfileEventHandler handles event s.ble }

/-- `gatts_event_handler` -/
def gattsEventHandler (gattsIf : UInt8) (event : GattsCallback) (s : Peripheral) : Peripheral :=
  let dispatch (s : Peripheral) : Peripheral :=
    if gattsIf = espGattIfNone ∨ gattsIf = s.profileIf then profileEvent handles gattsIf event s
    else s
  match event with
  | .reg false => s
  | .reg true => dispatch { s with profileIf := gattsIf }
  | _ => dispatch s

inductive PeripheralEvent
  /-- `ESP_GAP_BLE_ADV_DATA_SET_COMPLETE_EVT` -/
  | advDataSet
  /-- `ESP_GAP_BLE_SCAN_RSP_DATA_SET_COMPLETE_EVT` -/
  | scanRspDataSet
  | gatts (gattsIf : UInt8) (event : GattsCallback)
  /-- What the timer and the other tasks do. -/
  | other (e : BleEvent)

/-- The effect of an event. -/
def peripheralStep (e : PeripheralEvent) (s : Peripheral) : Peripheral :=
  match e with
  | .advDataSet => dataSet advConfigFlag s
  | .scanRspDataSet => dataSet scanRspConfigFlag s
  | .gatts gattsIf event => gattsEventHandler handles gattsIf event s
  | .other e => indicate (statuses handles e s.ble) { s with ble := bleStep handles e s.ble }

/-- What the stack promises: data are set once they have been asked for, an
interface is registered once, a client connects to a device that advertises, and
the other events come from the client that is connected. -/
def Proper (e : PeripheralEvent) (s : Peripheral) : Prop :=
  match e with
  | .advDataSet => s.advConfigDone &&& advConfigFlag ≠ 0
  | .scanRspDataSet => s.advConfigDone &&& scanRspConfigFlag ≠ 0
  | .gatts _ (.reg false) => True
  | .gatts gattsIf (.reg true) => s.profileIf = espGattIfNone ∧ gattsIf ≠ espGattIfNone
  | .gatts gattsIf (.creatAttrTab _) => gattsIf = s.profileIf ∧ gattsIf ≠ espGattIfNone
  | .gatts gattsIf (.profile _ .connect) =>
      gattsIf = s.profileIf ∧ gattsIf ≠ espGattIfNone ∧ s.advertising = true ∧ s.connection = none
  | .gatts gattsIf (.profile connId _) => s.connection = some ⟨gattsIf, connId⟩
  | .other (.gatts _) => False
  | .other _ => True

instance (e : PeripheralEvent) (s : Peripheral) : Decidable (Proper e s) := by
  unfold Proper
  split <;> infer_instance

end Handles

/-! ## The last status that is set -/

section LastStatus

variable (inp : EnqueueInput) (s : WifiState)

/-- A request leaves the status alone. -/
@[simp] theorem provState_mqttEnqueue
    (ssid password : List UInt8) (persistToNvs : Bool) (source : Source) :
    (mqttEnqueueWifiCredentials inp ssid password persistToNvs source s).1.provState =
      s.provState := by
  unfold mqttEnqueueWifiCredentials
  dsimp only
  split
  · rfl
  · split
    · rfl
    · split
      · rfl
      · rfl

theorem provState_writeWifiSsid
    (value : List UInt8) (allocated : Bool) :
    (writeWifiSsid inp value allocated s).provState =
      (ssidStatuses value allocated s).getLastD s.provState := by
  unfold writeWifiSsid ssidStatuses
  dsimp only
  split
  · split
    · exact provState_mqttEnqueue ..
    · rfl
  · rfl

theorem provState_writeWifiPassword
    (value : List UInt8) (allocated : Bool) :
    (writeWifiPassword inp value allocated s).provState =
      (passwordStatuses value allocated s).getLastD s.provState := by
  unfold writeWifiPassword passwordStatuses
  dsimp only
  split
  · split
    · rfl
    · exact provState_mqttEnqueue ..
  · rfl

theorem provState_writeConnectToCloud :
    (writeConnectToCloud inp s).provState = (cloudStatuses inp s).getLastD s.provState := by
  unfold writeConnectToCloud cloudStatuses
  split
  · rfl
  · dsimp only
    have hsame : (bleSetProvStatus .applying s).wifiSsid = s.wifiSsid := rfl
    have hsame' : (bleSetProvStatus .applying s).wifiPassword = s.wifiPassword := rfl
    rw [hsame, hsame']
    split
    · rfl
    · rfl

/-- The manager's task leaves the status alone. -/
theorem provState_mqttTaskStep (inp : TaskInput) :
    (mqttTaskStep inp s).1.provState = s.provState := by
  unfold mqttTaskStep
  split
  · dsimp only
    split
    · exact provState_mqttEnqueue ..
    · exact provState_mqttEnqueue ..
  · split
    · rfl
    · unfold beginApply
      split
      · rfl
      · split
        · rfl
        · rfl
  · rfl
  · exact (sameBle_persistAndStore inp _ s).provState
  · exact (sameBle_attempt inp _ s _).provState
  · exact (sameBle_awaitIp inp _ s _).provState

end LastStatus

section Statuses

variable (handles : HandleTable)

theorem provState_handleWriteEvent
    (inp : EnqueueInput) (allocated : Bool) (param : WriteParam) (s : BleState) :
    (handleWriteEvent handles inp allocated param s).wifi.provState =
      (writeStatuses handles inp allocated param s.wifi).getLastD s.wifi.provState := by
  unfold handleWriteEvent writeStatuses
  dsimp only
  split
  · unfold applyEepromPayload
    split
    · rfl
    · rfl
  · split
    · exact provState_writeWifiSsid inp _ param.value allocated
    · split
      · exact provState_writeWifiPassword inp _ param.value allocated
      · split
        · exact provState_writeConnectToCloud inp _
        · rfl

/-- After an event the status is the last one that it set. -/
theorem provState_bleStep (e : BleEvent) (s : BleState) :
    (bleStep handles e s).wifi.provState =
      (statuses handles e s).getLastD s.wifi.provState := by
  cases e with
  | gatts event =>
      cases event with
      | connect => rfl
      | disconnect => rfl
      | prepareWrite allocated param => rfl
      | execWrite exec => exact congrArg WifiState.provState (execWriteEventEnv_wifi exec)
      | write inp allocated param =>
          unfold statuses
          dsimp only
          rcases gattsWrite_cases inp allocated param with ⟨hsets, hwifi⟩ | ⟨hsets, hwrite⟩
          · rw [if_pos (show param.SetsNotify handles from hsets)]
            exact congrArg WifiState.provState hwifi
          · rw [if_neg (show ¬ param.SetsNotify handles from hsets)]
            exact (congrArg (·.wifi.provState) hwrite).trans
              (provState_handleWriteEvent handles inp allocated param s)
  | provTimeout =>
      unfold bleStep statuses
      dsimp only
      split
      · rfl
      · rfl
  | setRuntimeReady ready => rfl
  | task inp => exact provState_mqttTaskStep s.wifi inp
  | gotIp => exact (sameBle_onGotIp s.wifi).provState
  | staDisconnected => exact (sameBle_onWifiDisconnect s.wifi).provState

end Statuses

/-! ## The connection -/

/-- The device advertises or is connected, and the connection is the one that was
stored; only a client that is connected can have subscribed. -/
structure Served (s : Peripheral) : Prop where
  unregistered : s.profileIf = espGattIfNone →
    s.advConfigDone = 0 ∧ s.advertising = false ∧ s.connection = none
  advertised : s.profileIf ≠ espGattIfNone →
    (s.advertising = true ↔ s.advConfigDone = 0 ∧ s.connection = none)
  linked : ∀ link, s.connection = some link →
    link = ⟨s.gattsIf, s.connId⟩ ∧ s.gattsIf = s.profileIf ∧ s.advConfigDone = 0
  unsubscribed : s.connection = none → s.ble.provStatusNotify = false

theorem served_initial (nvsSsid nvsPass : Option (List UInt8)) :
    Served (.initial nvsSsid nvsPass) where
  unregistered := fun _ => ⟨rfl, rfl, rfl⟩
  advertised := fun h => absurd rfl h
  linked := fun _ h => nomatch h
  unsubscribed := fun _ => rfl

section Served

variable {handles : HandleTable} {s : Peripheral}

/-- A client is connected through the interface that was registered. -/
theorem Served.registered (h : Served s) {link : Link} (hlink : s.connection = some link) :
    s.profileIf ≠ espGattIfNone := by
  intro hnone
  have hconnection := (h.unregistered hnone).2.2
  rw [hlink] at hconnection
  cases hconnection

/-- An indication goes to the client that is connected, if it has subscribed. -/
theorem Served.indicatesTo (h : Served s) :
    s.indicatesTo = if s.ble.provStatusNotify then s.connection else none := by
  unfold Peripheral.indicatesTo
  cases hnotify : s.ble.provStatusNotify with
  | false => rfl
  | true =>
      cases hlink : s.connection with
      | none =>
          have hno := h.unsubscribed hlink
          rw [hnotify] at hno
          cases hno
      | some link =>
          obtain ⟨rfl, hgatts, -⟩ := h.linked link hlink
          rw [if_pos ⟨rfl, hgatts ▸ h.registered hlink⟩]
          rfl

/-- What the server does keeps the connection. -/
theorem Served.indicate (h : Served s) {ble : BleState} (statuses : List ProvState)
    (hnotify : s.connection = none → ble.provStatusNotify = false) :
    Served (indicate statuses { s with ble := ble }) :=
  ⟨h.unregistered, h.advertised, h.linked, hnotify⟩

theorem served_dataSet (h : Served s) {flag : UInt8} (hflag : s.advConfigDone &&& flag ≠ 0) :
    Served (dataSet flag s) := by
  have hbusy : s.advConfigDone ≠ 0 := by
    rintro hzero
    rw [hzero] at hflag
    exact hflag UInt8.zero_and
  have hregistered : s.profileIf ≠ espGattIfNone := fun hnone => hbusy (h.unregistered hnone).1
  have hfree : s.connection = none := by
    cases hlink : s.connection with
    | none => rfl
    | some link => exact absurd (h.linked link hlink).2.2 hbusy
  have hsilent : s.advertising ≠ true := fun hadvertising =>
    hbusy ((h.advertised hregistered).mp hadvertising).1
  unfold dataSet
  dsimp only
  split
  · rename_i hdone
    exact
      { unregistered := fun hnone => absurd hnone hregistered
        advertised := fun _ => iff_of_true rfl ⟨hdone, hfree⟩
        linked := fun link hlink => nomatch hfree.symm.trans hlink
        unsubscribed := h.unsubscribed }
  · rename_i hdone
    exact
      { unregistered := fun hnone => absurd hnone hregistered
        advertised := fun _ => iff_of_false hsilent fun hidle => hdone hidle.1
        linked := fun link hlink => nomatch hfree.symm.trans hlink
        unsubscribed := h.unsubscribed }

/-- The other tasks leave the subscription alone. -/
theorem notify_bleStep (e : BleEvent) (ble : BleState) (he : ∀ event, e ≠ .gatts event) :
    (bleStep handles e ble).provStatusNotify = ble.provStatusNotify := by
  cases e with
  | gatts event => exact absurd rfl (he event)
  | provTimeout =>
      unfold bleStep
      dsimp only
      split
      · rfl
      · rfl
  | setRuntimeReady ready => rfl
  | task inp => rfl
  | gotIp => rfl
  | staDisconnected => rfl

/-- An event of the registered interface reaches the profile. -/
theorem gattsEventHandler_profile {gattsIf : UInt8} (hregistered : gattsIf = s.profileIf)
    (connId : UInt16) (event : GattsEvent) :
    gattsEventHandler handles gattsIf (.profile connId event) s =
      profileEvent handles gattsIf (.profile connId event) s := by
  unfold gattsEventHandler
  dsimp only
  rw [if_pos (Or.inr hregistered)]

end Served

/-! ## What the client is told -/

section Watch

variable (handles : HandleTable)

/-- The statuses that an event sets, in order. -/
def statusesOf (e : PeripheralEvent) (s : Peripheral) : List ProvState :=
  match e with
  | .advDataSet | .scanRspDataSet => []
  | .gatts _ (.reg _) => []
  | .gatts _ (.creatAttrTab ok) => if ok then [.booting] else []
  | .gatts _ (.profile _ event) => statuses handles (.gatts event) s.ble
  | .other e => statuses handles e s.ble

/-- What an event is to the client: it comes, goes, or subscribes. -/
def comings (e : PeripheralEvent) : List (WatchEvent Link ProvState) :=
  match e with
  | .gatts gattsIf (.profile connId .connect) => [.arrives ⟨gattsIf, connId⟩]
  | .gatts _ (.profile _ .disconnect) => [.leaves]
  | .gatts _ (.profile _ (.write _ _ param)) =>
      if param.SetsNotify handles then [.subscribes (decide (param.value = [1, 0]))] else []
  | _ => []

/-- The events of the watched status. -/
def watchEvents (e : PeripheralEvent) (s : Peripheral) : List (WatchEvent Link ProvState) :=
  comings handles e ++ (statusesOf handles e s).map .sets

/-- The peripheral shows the watched status. -/
structure Shows (s : Peripheral) (w : WatchedValue Link ProvState) : Prop extends Served s where
  client : w.client = s.connection
  subscribed : w.subscribed = s.ble.provStatusNotify
  value : w.value = s.ble.wifi.provState
  told : w.told = s.indications

variable {handles} {s : Peripheral} {w : WatchedValue Link ProvState}

/-- The peripheral indicates to the listener. -/
theorem Shows.listener (h : Shows s w) :
    w.listener = s.indicatesTo := by
  rw [h.toServed.indicatesTo]
  unfold WatchedValue.listener
  rw [h.client, h.subscribed]

/-- The server sets statuses while the client and its subscription stay. -/
theorem Shows.sets (h : Shows s w) {ble : BleState} {statuses : List ProvState}
    (hnotify : ble.provStatusNotify = s.ble.provStatusNotify)
    (hstate : ble.wifi.provState = statuses.getLastD s.ble.wifi.provState) :
    Shows (indicate statuses { s with ble := ble }) (run watchStep (statuses.map .sets) w) := by
  have hto : ({ s with ble := ble } : Peripheral).indicatesTo = w.listener := by
    rw [h.listener]
    unfold Peripheral.indicatesTo
    rw [← hnotify]
  rw [run_sets]
  exact
    { toServed := h.toServed.indicate statuses fun hnone => hnotify.trans (h.unsubscribed hnone)
      client := h.client
      subscribed := h.subscribed.trans hnotify.symm
      value := by
        show statuses.getLastD w.value = ble.wifi.provState
        rw [h.value, hstate]
      told := by
        show w.told ++ _ = s.indications ++ _
        rw [h.told, hto] }

/-- A write of the descriptor decides about the subscription. -/
theorem gattsWrite_notify
    (inp : EnqueueInput) (allocated : Bool) {param : WriteParam}
    (hsets : param.SetsNotify handles) (ble : BleState) :
    gattsWrite handles inp allocated param ble =
      { ble with provStatusNotify := decide (param.value = [1, 0]) } := by
  obtain ⟨low, high, hvalue⟩ := List.length_eq_two.mp hsets.2
  unfold gattsWrite
  rw [hvalue]
  dsimp only
  rw [if_pos hsets.1]
  simp

/-- No other write touches the subscription. -/
theorem notify_handleWriteEvent
    (inp : EnqueueInput) (allocated : Bool) (param : WriteParam) (ble : BleState) :
    (handleWriteEvent handles inp allocated param ble).provStatusNotify =
      ble.provStatusNotify := by
  unfold handleWriteEvent applyEepromPayload
  dsimp only
  split
  · split
    · rfl
    · rfl
  · split
    · rfl
    · split
      · rfl
      · split
        · rfl
        · rfl

theorem notify_execWriteEventEnv (exec : Bool) (ble : BleState) :
    (execWriteEventEnv handles exec ble).provStatusNotify = ble.provStatusNotify := by
  unfold execWriteEventEnv applyEepromPayload
  dsimp only
  split
  · split
    · split
      · rfl
      · rfl
    · rfl
  · rfl

/-- What an event of the client does that stays. -/
theorem shows_profile
    (h : Shows s w) {link : Link} (hlink : s.connection = some link)
    {event : GattsEvent} (hstays : event ≠ .connect ∧ event ≠ .disconnect) :
    Shows (peripheralStep handles (.gatts link.gattsIf (.profile link.connId event)) s)
      (run watchStep
        (watchEvents handles (.gatts link.gattsIf (.profile link.connId event)) s) w) := by
  obtain ⟨hstored, hregistered, -⟩ := h.linked link hlink
  have hif : link.gattsIf = s.profileIf := hstored ▸ hregistered
  have hstate := provState_bleStep handles (.gatts event) s.ble
  unfold peripheralStep
  dsimp only
  rw [gattsEventHandler_profile hif]
  cases event with
  | connect => exact absurd rfl hstays.1
  | disconnect => exact absurd rfl hstays.2
  | prepareWrite allocated param => exact h.sets rfl hstate
  | execWrite exec => exact h.sets (notify_execWriteEventEnv exec s.ble) hstate
  | write inp allocated param =>
      by_cases hsets : param.SetsNotify handles
      · have hwrite := gattsWrite_notify inp allocated hsets s.ble
        have hwatch : watchEvents handles
            (.gatts link.gattsIf (.profile link.connId (.write inp allocated param))) s =
              [.subscribes (decide (param.value = [1, 0]))] := by
          unfold watchEvents comings statusesOf statuses
          dsimp only
          rw [if_pos hsets, if_pos hsets]
          rfl
        have hstatuses : statuses handles (.gatts (.write inp allocated param)) s.ble = [] :=
          if_pos hsets
        have hstep : profileEvent handles link.gattsIf
            (.profile link.connId (.write inp allocated param)) s =
              { s with ble :=
                  { s.ble with provStatusNotify := decide (param.value = [1, 0]) } } := by
          unfold profileEvent
          dsimp only
          rw [hstatuses]
          unfold gattsProfileEventHandler indicate
          dsimp only
          rw [hwrite, List.flatMap_nil, List.append_nil]
        rw [hwatch, hstep]
        exact
          { toServed :=
              { unregistered := h.unregistered
                advertised := h.advertised
                linked := h.linked
                unsubscribed := fun hnone => nomatch hnone.symm.trans hlink }
            client := h.client
            subscribed := rfl
            value := h.value
            told := h.told }
      · have hwatch : watchEvents handles
            (.gatts link.gattsIf (.profile link.connId (.write inp allocated param))) s =
              (statuses handles (.gatts (.write inp allocated param)) s.ble).map .sets := by
          unfold watchEvents comings
          dsimp only
          rw [if_neg hsets]
          rfl
        have hnotify : (gattsWrite handles inp allocated param s.ble).provStatusNotify =
            s.ble.provStatusNotify := by
          rcases gattsWrite_cases inp allocated param with ⟨hyes, -⟩ | ⟨-, hwrite⟩
          · exact absurd hyes hsets
          · rw [hwrite, notify_handleWriteEvent]
        rw [hwatch]
        exact h.sets hnotify hstate

/-- A client comes while the device advertises. -/
theorem shows_connect
    (h : Shows s w) {gattsIf : UInt8} (connId : UInt16)
    (hproper : Proper (.gatts gattsIf (.profile connId .connect)) s) :
    Shows (peripheralStep handles (.gatts gattsIf (.profile connId .connect)) s)
      (run watchStep (watchEvents handles (.gatts gattsIf (.profile connId .connect)) s) w) := by
  obtain ⟨hif, hsome, hadvertising, hfree⟩ := hproper
  have hregistered : s.profileIf ≠ espGattIfNone := hif ▸ hsome
  unfold peripheralStep
  dsimp only
  rw [gattsEventHandler_profile hif]
  exact
    { unregistered := fun hnone => absurd hnone hregistered
      advertised := fun _ => iff_of_false Bool.false_ne_true fun hidle => nomatch hidle.2
      linked := by
        rintro link ⟨⟩
        exact ⟨rfl, hif, ((h.advertised hregistered).mp hadvertising).1⟩
      unsubscribed := fun hnone => nomatch hnone
      client := rfl
      subscribed := (h.unsubscribed hfree).symm
      value := h.value
      told := h.told }

/-- When the client goes, nothing of it is left, and the device advertises. -/
theorem shows_disconnect
    (h : Shows s w) {link : Link} (hlink : s.connection = some link) :
    Shows (peripheralStep handles (.gatts link.gattsIf (.profile link.connId .disconnect)) s)
      (run watchStep
        (watchEvents handles (.gatts link.gattsIf (.profile link.connId .disconnect)) s) w) := by
  obtain ⟨hstored, hregistered, hdone⟩ := h.linked link hlink
  have hif : link.gattsIf = s.profileIf := hstored ▸ hregistered
  unfold peripheralStep
  dsimp only
  rw [gattsEventHandler_profile hif]
  exact
    { unregistered := fun hnone => absurd hnone (h.registered hlink)
      advertised := fun _ => iff_of_true rfl ⟨hdone, rfl⟩
      linked := fun _ hsome => nomatch hsome
      unsubscribed := fun _ => rfl
      client := rfl
      subscribed := rfl
      value := rfl
      told := (List.append_nil _).trans (h.told.trans (List.append_nil _).symm) }

/-- Data that have been set change nothing for the client. -/
theorem shows_dataSet
    (h : Shows s w) {flag : UInt8} (hflag : s.advConfigDone &&& flag ≠ 0) :
    Shows (dataSet flag s) w := by
  have hserved := served_dataSet h.toServed hflag
  unfold dataSet at hserved ⊢
  dsimp only at hserved ⊢
  split
  · rename_i hdone
    rw [if_pos hdone] at hserved
    exact ⟨hserved, h.client, h.subscribed, h.value, h.told⟩
  · rename_i hdone
    rw [if_neg hdone] at hserved
    exact ⟨hserved, h.client, h.subscribed, h.value, h.told⟩

/-- An interface is registered, and the data are asked for. -/
theorem shows_reg
    (h : Shows s w) {gattsIf : UInt8} (hproper : Proper (.gatts gattsIf (.reg true)) s) :
    Shows (peripheralStep handles (.gatts gattsIf (.reg true)) s) w := by
  obtain ⟨hunregistered, hsome⟩ := hproper
  obtain ⟨hzero, hsilent, hfree⟩ := h.unregistered hunregistered
  have hstep : peripheralStep handles (.gatts gattsIf (.reg true)) s =
      { s with profileIf := gattsIf, advConfigDone := 3 } := by
    unfold peripheralStep gattsEventHandler
    dsimp only
    rw [if_pos (Or.inr rfl)]
    unfold profileEvent
    dsimp only
    rw [hzero]
    rfl
  rw [hstep]
  exact
    { unregistered := fun hnone => absurd hnone hsome
      advertised := fun _ =>
        iff_of_false (fun hadvertising => nomatch hsilent.symm.trans hadvertising)
          fun hidle => nomatch hidle.1
      linked := fun _ hlink => nomatch hfree.symm.trans hlink
      unsubscribed := h.unsubscribed
      client := h.client
      subscribed := h.subscribed
      value := h.value
      told := h.told }

/-- The attribute table is created, and the status says so. -/
theorem shows_creatAttrTab
    (h : Shows s w) {gattsIf : UInt8} (ok : Bool)
    (hproper : Proper (.gatts gattsIf (.creatAttrTab ok)) s) :
    Shows (peripheralStep handles (.gatts gattsIf (.creatAttrTab ok)) s)
      (run watchStep (watchEvents handles (.gatts gattsIf (.creatAttrTab ok)) s) w) := by
  unfold peripheralStep gattsEventHandler
  dsimp only
  rw [if_pos (Or.inr hproper.1)]
  cases ok with
  | false => exact h
  | true => exact h.sets rfl rfl

/-- The peripheral refines the watched status: an event of the stack is what it
is to the client, and then the statuses that it sets. -/
theorem peripheral_simulation :
    Simulation (peripheralStep handles) watchStep Proper Shows
      (watchEvents handles) where
  step := by
    intro e s w hproper h
    cases e with
    | advDataSet => exact shows_dataSet h hproper
    | scanRspDataSet => exact shows_dataSet h hproper
    | gatts gattsIf event =>
        cases event with
        | reg ok =>
            cases ok with
            | false => exact h
            | true => exact shows_reg h hproper
        | creatAttrTab ok => exact shows_creatAttrTab h ok hproper
        | profile connId event =>
            cases event with
            | connect => exact shows_connect h connId hproper
            | disconnect => exact shows_disconnect h hproper
            | write inp allocated param =>
                exact shows_profile h hproper ⟨nofun, nofun⟩
            | prepareWrite allocated param =>
                exact shows_profile h hproper ⟨nofun, nofun⟩
            | execWrite exec =>
                exact shows_profile h hproper ⟨nofun, nofun⟩
    | other e =>
        have he : ∀ event, e ≠ .gatts event := by
          rintro event rfl
          exact hproper
        have hcomings : comings handles (.other e) = [] := rfl
        unfold watchEvents
        rw [hcomings, List.nil_append]
        exact h.sets (notify_bleStep e s.ble he) (provState_bleStep handles e s.ble)

/-- The watched status when nothing has been registered. -/
def initialStatus : WatchedValue Link ProvState :=
  ⟨none, false, .idle, []⟩

theorem shows_initial (nvsSsid nvsPass : Option (List UInt8)) :
    Shows (.initial nvsSsid nvsPass) initialStatus where
  toServed := served_initial nvsSsid nvsPass
  client := rfl
  subscribed := rfl
  value := by
    show ProvState.idle = (WifiState.boot true nvsSsid nvsPass).provState
    unfold WifiState.boot readWifiCredentialsFromNvs
    rfl
  told := rfl

/-- From power-on, whatever the stack, the client and the other tasks do, the
peripheral shows the watched status, and once its data are set it advertises
exactly while no client is connected. -/
theorem peripheral_run
    (nvsSsid nvsPass : Option (List UInt8)) (es : List PeripheralEvent)
    (hproper : Along (peripheralStep handles) Proper es (.initial nvsSsid nvsPass)) :
    Shows (run (peripheralStep handles) es (.initial nvsSsid nvsPass))
      (run watchStep
        (images (peripheralStep handles) (watchEvents handles) es (.initial nvsSsid nvsPass))
        initialStatus) :=
  peripheral_simulation.run hproper (shows_initial nvsSsid nvsPass)

/-- The handles of a table of attributes. -/
def someHandles : HandleTable :=
  ⟨42, 51, 54, 66, 70⟩

/-- A client connects once the device advertises, and subscribes. -/
def subscription : List PeripheralEvent :=
  [.gatts 3 (.reg true), .gatts 3 (.creatAttrTab true), .scanRspDataSet, .advDataSet,
    .gatts 3 (.profile 7 .connect), .gatts 3 (.profile 7 (.write ⟨0, true⟩ true ⟨70, 0, [1, 0]⟩))]

theorem subscription_shows :
    Shows (run (peripheralStep someHandles) subscription (.initial none none))
      (run watchStep
        (images (peripheralStep someHandles) (watchEvents someHandles) subscription
          (.initial none none)) initialStatus) :=
  peripheral_run none none subscription (by decide)

/-- While the client stays and keeps its subscription, an event is the statuses
that it sets. -/
theorem images_stays
    {es : List PeripheralEvent} (hstays : ∀ e ∈ es, comings handles e = []) (s : Peripheral) :
    images (peripheralStep handles) (watchEvents handles) es s =
      (images (peripheralStep handles) (statusesOf handles) es s).map .sets := by
  induction es generalizing s with
  | nil =>
      rfl
  | cons e es ih =>
      have hhead : watchEvents handles e s = (statusesOf handles e s).map .sets := by
        unfold watchEvents
        rw [hstays e List.mem_cons_self, List.nil_append]
      rw [images, images, List.map_append, hhead,
        ih (fun f hf => hstays f (List.mem_cons_of_mem e hf))]

/-- A client that has subscribed and stays is told every status that is set, in
order and only these, and the last of them is the present one. -/
theorem subscriber_told
    (nvsSsid nvsPass : Option (List UInt8)) (es fs : List PeripheralEvent)
    (hproper : Along (peripheralStep handles) Proper (es ++ fs) (.initial nvsSsid nvsPass))
    (hsubscribed :
      (run (peripheralStep handles) es (.initial nvsSsid nvsPass)).ble.provStatusNotify = true)
    (hstays : ∀ e ∈ fs, comings handles e = []) :
    let s := run (peripheralStep handles) es (.initial nvsSsid nvsPass)
    let s' := run (peripheralStep handles) fs s
    let set := images (peripheralStep handles) (statusesOf handles) fs s
    ∃ link, s.connection = some link ∧ s'.connection = some link ∧
      s'.indications = s.indications ++ set.map (fun status => (link, status)) ∧
      s'.ble.wifi.provState = set.getLastD s.ble.wifi.provState := by
  intro s s' set
  rw [along_append] at hproper
  have hshows := peripheral_run nvsSsid nvsPass es hproper.1
  have hafter := peripheral_simulation.run hproper.2 hshows
  rw [images_stays hstays] at hafter
  cases hlink : s.connection with
  | none =>
      have hno := hshows.unsubscribed hlink
      rw [hsubscribed] at hno
      cases hno
  | some link =>
      have hlistener : WatchedValue.listener (run watchStep
          (images (peripheralStep handles) (watchEvents handles) es (.initial nvsSsid nvsPass))
          initialStatus) = some link := by
        rw [hshows.listener, hshows.toServed.indicatesTo, hsubscribed]
        exact hlink
      refine ⟨link, rfl, ?_, ?_, ?_⟩
      · rw [← hafter.client, run_sets]
        exact hshows.client.trans hlink
      · rw [← hafter.told, run_sets_told hlistener, hshows.told]
      · rw [← hafter.value, run_sets]
        exact congrArg set.getLastD hshows.value

/-- The client writes the two credentials. -/
def twoWrites : List PeripheralEvent :=
  [.gatts 3 (.profile 7 (.write ⟨0, true⟩ true ⟨51, 0, [104]⟩)),
    .gatts 3 (.profile 7 (.write ⟨0, true⟩ true ⟨54, 0, [112]⟩))]

/-- It is told that the password is awaited, and then that both are there. -/
theorem twoWrites_told :
    (run (peripheralStep someHandles) twoWrites
      (run (peripheralStep someHandles) subscription (.initial none none))).indications =
        [(⟨3, 7⟩, .waitPassword), (⟨3, 7⟩, .ready)] := by
  obtain ⟨link, hlink, -, htold, -⟩ := @subscriber_told someHandles none none subscription
    twoWrites (by decide) rfl (by decide)
  have hseven : link = ⟨3, 7⟩ := (Option.some.inj hlink).symm
  rw [htold, hseven]
  decide

end Watch

end Ble
end AvensysEsp32
