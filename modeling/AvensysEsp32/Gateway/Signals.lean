import AvensysEsp32.Gateway.Refinement
import AvensysEsp32.Led.CommLed

/-!
# What the communication LED says

The BLE stack, the Wi-Fi driver, `mqtt_task` and the MQTT client tell the
communication LED of activity and of faults, beside all else they do.  However
their steps interleave, a steady light is never shown while both Wi-Fi and MQTT
are connected.
-/

namespace AvensysEsp32
namespace Gateway

open Foundation Serial UnitComm Ble Wifi Mqtt Led

/-- The gateway and its communication LED. -/
structure SignalState where
  gateway : GatewayState
  led : CommLed

/-! ## Calls -/

/-- The calls of `gatts_profile_event_handler` -/
def gattsCalls : GattsEvent → List LedAction
  | .connect | .disconnect | .write _ _ _ | .prepareWrite _ _ => [.markActivity]
  | .execWrite _ => []

/-- The calls of `mqtt_event_handler` -/
def clientCalls : ClientEvent → List LedAction
  | .connected => [.setFault false, .markActivity]
  | .disconnected | .error => [.setFault true]
  | .subscribed | .published | .data _ _ => [.markActivity]
  | .unsubscribed | .other => []

/-- `wifi_connect` gives up waiting for the address. -/
def givesUp (inp : TaskInput) (s : WifiState) : Bool :=
  match s.phase with
  | .awaitingIp _ _ => s.connectEventGroup ≠ some true && inp.timedOut
  | _ => false

/-- The calls that a step of another task makes. -/
def ledCalls (e : TaskEvent) (g : GatewayState) : List LedAction :=
  match e with
  | .gatts event => gattsCalls event
  | .mqttTask inp => if givesUp inp g.ble.wifi then [.setFault true] else []
  | .gotIp => if g.ble.wifi.station = none then [] else [.setFault false, .markActivity]
  | .staDisconnected => if g.ble.wifi.station = none then [] else [.setFault true]
  | .mqttClient _ event => if g.mqtt.client = none then [] else clientCalls event
  | .provTimeout | .mqttStarted _ | .maintenance _ => []

/-- Calls, one after the other; `readings` are what the tick counter reads in each. -/
def applyCalls (readings : Nat → UInt32) : List LedAction → CommLed → CommLed
  | [], led => led
  | action :: calls, led =>
      applyCalls (fun i => readings (i + 1)) calls (ledStep action (readings 0) led)

/-! ## Steps -/

section Steps

variable (handles : HandleTable)

/-- The calls that are made in a step of the gateway. -/
def gatewayCalls (e : GatewayEvent) (g : GatewayState) : List LedAction :=
  match e with
  | .unitTask inp during =>
      if g.unit.wbmComState = .wbmConnected then
        images (taskStep handles) ledCalls (meanwhile handles inp during g)
          (beforeScheduler handles inp g)
      else []
  | .task e => ledCalls e g
  | .uartData _ | .unitUpdateTask _ | .firmwareStored _ => []

inductive SignalEvent
  | gateway (readings : Nat → UInt32) (e : GatewayEvent)
  /-- `ESP_GATTS_READ_EVT` -/
  | gattsRead (now : UInt32)
  /-- A pass of `comm_led_task` -/
  | commLed (now : UInt32)

/-- The effect of an event. -/
def signalStep (e : SignalEvent) (s : SignalState) : SignalState :=
  match e with
  | .gateway readings e =>
      { gateway := gatewayStep handles e s.gateway
        led := applyCalls readings (gatewayCalls handles e s.gateway) s.led }
  | .gattsRead now => { s with led := ledStep .markActivity now s.led }
  | .commLed now => { s with led := ledStep .task now s.led }

end Steps

/-! ## Faults -/

/-- What the calls make of the fault. -/
def faultAfter (calls : List LedAction) (fault : Bool) : Bool :=
  calls.foldl (fun fault action =>
    match action with
    | .setFault active => active
    | .markActivity | .task => fault) fault

theorem fault_ledStep (action : LedAction) (now : UInt32) (led : CommLed) :
    (ledStep action now led).fault = faultAfter [action] led.fault := by
  cases action with
  | task =>
      show (commLedTask now led).fault = led.fault
      unfold commLedTask
      split
      · rfl
      · dsimp only
        split
        · split
          · rfl
          · rfl
        · rfl
  | markActivity =>
      show (commLedMarkActivity now led).fault = led.fault
      unfold commLedMarkActivity
      split
      · rfl
      · rfl
  | setFault active =>
      show (commLedSetFault active now led).fault = active
      unfold commLedSetFault
      cases active with
      | true => rfl
      | false => rfl

theorem fault_applyCalls (readings : Nat → UInt32) (calls : List LedAction) (led : CommLed) :
    (applyCalls readings calls led).fault = faultAfter calls led.fault := by
  induction calls generalizing readings led with
  | nil => rfl
  | cons action calls ih =>
      show (applyCalls _ calls _).fault = _
      rw [ih, fault_ledStep]
      rfl

/-! ## Connections -/

/-- Wi-Fi or MQTT is not connected. -/
def Down (g : GatewayState) : Prop :=
  g.ble.wifi.wifiConnectedFlag = false ∨ g.mqtt.mqttConnected = false

/-- A step after which neither is connected that was not before. -/
structure NoRise (g g' : GatewayState) : Prop where
  wifi : g'.ble.wifi.wifiConnectedFlag = true → g.ble.wifi.wifiConnectedFlag = true
  mqtt : g'.mqtt.mqttConnected = true → g.mqtt.mqttConnected = true

theorem NoRise.down
    {g g' : GatewayState} (h : NoRise g g') (hdown : Down g) :
    Down g' := by
  rcases hdown with hwifi | hmqtt
  · left
    rw [Bool.eq_false_iff] at hwifi ⊢
    exact fun hup => hwifi (h.wifi hup)
  · right
    rw [Bool.eq_false_iff] at hmqtt ⊢
    exact fun hup => hmqtt (h.mqtt hup)

/-- A step and its calls: a fault that is shown after them is due. -/
def FaultDue (calls : List LedAction) (g g' : GatewayState) : Prop :=
  ∀ fault, (fault = true → Down g) → faultAfter calls fault = true → Down g'

theorem faultDue_silent
    {g g' : GatewayState} (h : NoRise g g') :
    FaultDue [] g g' :=
  fun _ hbefore hfault => h.down (hbefore hfault)

theorem faultDue_mark
    {g g' : GatewayState} (h : NoRise g g') :
    FaultDue [.markActivity] g g' :=
  fun _ hbefore hfault => h.down (hbefore hfault)

theorem faultDue_raised
    {g g' : GatewayState} (h : Down g') :
    FaultDue [.setFault true] g g' :=
  fun _ _ _ => h

theorem faultDue_cleared (g g' : GatewayState) :
    FaultDue [.setFault false, .markActivity] g g' := by
  intro _ _ hfault
  cases hfault

/-! ## Wi-Fi -/

section Wifi

variable (handles : HandleTable)

/-- A client leaves the connection alone. -/
theorem gatts_wifiConnectedFlag (event : GattsEvent) (s : BleState) :
    (gattsProfileEventHandler handles event s).wifi.wifiConnectedFlag =
      s.wifi.wifiConnectedFlag := by
  have happlied : ∀ payload s, (applyEepromPayload payload s).wifi = s.wifi :=
    fun payload s => (sameServer_applyEepromPayload payload s).wifi
  have hwrite : ∀ inp allocated param,
      (Ble.handleWriteEvent handles inp allocated param s).wifi.wifiConnectedFlag =
        s.wifi.wifiConnectedFlag := by
    intro inp allocated param
    unfold Ble.handleWriteEvent
    dsimp only
    split
    · rw [happlied]
      rfl
    · split
      · exact (sameManager_writeWifiSsid inp param.value allocated _).wifiConnectedFlag
      · split
        · exact (sameManager_writeWifiPassword inp param.value allocated _).wifiConnectedFlag
        · split
          · exact (sameManager_writeConnectToCloud inp _).wifiConnectedFlag
          · rfl
  cases event with
  | connect => rfl
  | disconnect => rfl
  | write inp allocated param =>
      show (gattsWrite handles inp allocated param s).wifi.wifiConnectedFlag = _
      unfold gattsWrite
      split
      · split
        · rfl
        · exact hwrite inp allocated param
      · exact hwrite inp allocated param
  | prepareWrite allocated param => rfl
  | execWrite exec => exact congrArg WifiState.wifiConnectedFlag (sameServer_execWrite exec s).wifi

variable (inp : TaskInput)

/-- A state with no connection that was not there before. -/
def Falls (s s' : WifiState) : Prop :=
  s'.wifiConnectedFlag = true → s.wifiConnectedFlag = true

theorem falls_stop (s s' : WifiState) :
    Falls s (stop s') :=
  fun hup => absurd hup Bool.false_ne_true

theorem falls_wifiDisconnect (s : WifiState) :
    Falls s (wifiDisconnect s) := by
  unfold wifiDisconnect
  split
  · exact id
  · exact falls_stop s _

theorem falls_persistAndStore (request : WifiRequest) (s : WifiState) :
    Falls s (persistAndStore inp request s).1 := by
  have hstored : ∀ s', s'.wifiConnectedFlag = s.wifiConnectedFlag →
      Falls s (storeCredentials request s').1 := by
    intro s' hsame hup
    rw [← hsame]
    exact falls_wifiDisconnect
      { s' with
        wifiSsid := strlcpy request.ssid (maxSsidLength + 1)
        wifiPassword := strlcpy request.password (maxPasswordLength + 1)
        wifiManagerState := .applying
        phase := .connecting request 0 } hup
  unfold persistAndStore
  dsimp only
  split
  · split
    · split
      · exact hstored _ rfl
      · exact id
    · exact id
  · exact hstored s rfl

theorem falls_attemptFailed (request : WifiRequest) (retry : Nat) (s : WifiState) :
    Falls s (attemptFailed request s retry).1 := by
  unfold attemptFailed
  dsimp only
  split
  · exact id
  · exact id

theorem falls_attempt (request : WifiRequest) (retry : Nat) (s : WifiState) :
    Falls s (attempt inp request s retry).1 := by
  have hconnect : Falls s
      (wifiConnect inp.groupCreated inp.start s.wifiSsid s.wifiPassword s).1 := by
    unfold wifiConnect
    split
    · exact id
    · split
      · split
        · exact id
        · exact falls_stop s _
        · exact falls_stop s _
        · exact id
      · exact id
  unfold attempt
  dsimp only
  split
  · exact hconnect
  · exact fun hup => hconnect (falls_attemptFailed request retry _ hup)

/-- Only the address connects: no step of `mqtt_task` does. -/
theorem falls_mqttTaskStep (s : WifiState) :
    Falls s (mqttTaskStep inp s).1 := by
  unfold mqttTaskStep
  split
  · have hsame := sameManager_mqttEnqueue ⟨inp.tick, inp.queueCreated⟩ s.wifiSsid s.wifiPassword
      false .boot s
    dsimp only
    split
    · exact fun hup => hsame.wifiConnectedFlag ▸ hup
    · exact fun hup => hsame.wifiConnectedFlag ▸ hup
  · split
    · exact id
    · unfold beginApply
      split
      · exact id
      · split
        · exact id
        · exact id
  · exact id
  · exact falls_persistAndStore inp _ s
  · exact falls_attempt inp _ _ s
  · unfold awaitIp
    split
    · exact id
    · split
      · exact fun hup => absurd
          (falls_attemptFailed _ _ { stop s with connectEventGroup := none } hup)
          Bool.false_ne_true
      · exact id

/-- Where the wait for the address is given up, Wi-Fi is not connected. -/
theorem givesUp_down
    {s : WifiState} (h : givesUp inp s = true) :
    (mqttTaskStep inp s).1.wifiConnectedFlag = false := by
  unfold givesUp at h
  split at h
  · rename_i request retry hphase
    rw [Bool.and_eq_true, decide_eq_true_eq] at h
    simp only [mqttTaskStep, hphase]
    unfold awaitIp
    rw [if_neg h.1, if_pos h.2, Bool.eq_false_iff]
    exact fun hup => Bool.false_ne_true
      (falls_attemptFailed request retry { stop s with connectEventGroup := none } hup)
  · cases h

end Wifi

/-! ## MQTT -/

/-- A start connects nothing. -/
theorem startSelected_mqttConnected
    (inp : PassInput) {s : MqttState} (hup : (startSelected inp s).1.mqttConnected = true) :
    s.mqttConnected = true := by
  cases hvalid : mqttEndpointIsValid s.selectedEndpoint with
  | false =>
      rw [startSelected_invalid inp hvalid] at hup
      exact hup
  | true =>
      rw [startSelected_valid inp hvalid] at hup
      split at hup
      · cases hup
      · exact hup

/-- Only `MQTT_EVENT_CONNECTED` connects: no pass does. -/
theorem maintenance_mqttConnected
    (inp : PassInput) {s : MqttState}
    (hup : (mqttConnectionMaintenance inp s).1.mqttConnected = true) :
    s.mqttConnected = true := by
  have hcase := mqttConnectionMaintenance_case inp s
  generalize mqttConnectionMaintenance inp s = passed at hcase hup
  cases hcase with
  | idle hsame _ => exact hsame.sameSession.mqttConnected ▸ hup
  | kept _ _ _ hsame₁ hsame _ => exact (sameSession_keptUp hsame₁ hsame).mqttConnected ▸ hup
  | restarted hsame₁ hsame _ _ =>
      exact (sameSession_keptUp hsame₁ hsame).mqttConnected ▸ startSelected_mqttConnected inp hup
  | started _ _ hsame =>
      exact hsame.sameSession.mqttConnected ▸ startSelected_mqttConnected inp hup
  | recreated _ _ _ _ _ hsame =>
      exact hsame.sameSession.mqttConnected ▸ startSelected_mqttConnected inp hup
  | reconnected _ _ _ _ _ hsame _ =>
      have hsession := hsame.sameSession
      split at hup
      · exact hsession.mqttConnected ▸ hup
      · exact hsession.mqttConnected ▸ hup

/-- The calls of the client's events agree with what they make of the connection. -/
theorem faultDue_client
    {g g' : GatewayState} (tick : UInt32) (event : ClientEvent) {client : MqttClient}
    (hclient : g.mqtt.client = some client) (hwifi : g'.ble.wifi = g.ble.wifi)
    (hmqtt : g'.mqtt = mqttStep (.client tick event) g.mqtt) :
    FaultDue (clientCalls event) g g' := by
  have hsame : g'.mqtt.mqttConnected =
      (sessionAfter tick event
        { g.mqtt with client := some (client.after event) }).mqttConnected := by
    rw [hmqtt]
    simp only [mqttStep, hclient]
    exact (sameSession_mqttEventHandler tick event _).mqttConnected
  have hwifi' : g'.ble.wifi.wifiConnectedFlag = true → g.ble.wifi.wifiConnectedFlag = true :=
    fun hup => hwifi ▸ hup
  cases event with
  | connected => exact faultDue_cleared g g'
  | disconnected => exact faultDue_raised (Or.inr hsame)
  | error => exact faultDue_raised (Or.inr hsame)
  | subscribed =>
      refine faultDue_mark ⟨hwifi', fun hup => ?_⟩
      rw [hsame] at hup
      unfold sessionAfter at hup
      dsimp only at hup
      split at hup
      · exact hup
      · exact hup
  | published => exact faultDue_mark ⟨hwifi', fun hup => hsame ▸ hup⟩
  | data topic payload => exact faultDue_mark ⟨hwifi', fun hup => hsame ▸ hup⟩
  | unsubscribed => exact faultDue_silent ⟨hwifi', fun hup => hsame ▸ hup⟩
  | other => exact faultDue_silent ⟨hwifi', fun hup => hsame ▸ hup⟩

/-! ## Every step -/

section Every

variable (handles : HandleTable)

/-- What the BLE stack, the driver and `mqtt_task` at its queue leave of MQTT. -/
theorem noRise_bleTaskStep
    {ws : List ClientWrite} {e : BleEvent} {g : GatewayState}
    (h : Falls g.ble.wifi (bleStep handles e g.ble).wifi) :
    NoRise g (bleTaskStep handles ws e g) :=
  ⟨h, id⟩

/-- A step of another task: the calls it makes are due. -/
theorem faultDue_taskStep (e : TaskEvent) (g : GatewayState) :
    FaultDue (ledCalls e g) g (taskStep handles e g) := by
  cases e with
  | gatts event =>
      have hrise : NoRise g (taskStep handles (.gatts event) g) := by
        refine noRise_bleTaskStep handles fun hup => ?_
        rwa [show bleStep handles (.gatts event) g.ble =
          gattsProfileEventHandler handles event g.ble from rfl, gatts_wifiConnectedFlag] at hup
      cases event with
      | execWrite exec => exact faultDue_silent hrise
      | _ => exact faultDue_mark hrise
  | provTimeout =>
      refine faultDue_silent (noRise_bleTaskStep handles ?_)
      unfold Falls bleStep
      dsimp only
      split
      · exact id
      · exact id
  | mqttTask inp =>
      show FaultDue (if givesUp inp g.ble.wifi then [.setFault true] else []) g _
      split
      · rename_i hgiven
        exact faultDue_raised (Or.inl (givesUp_down inp hgiven))
      · exact faultDue_silent (noRise_bleTaskStep handles (falls_mqttTaskStep inp g.ble.wifi))
  | gotIp =>
      show FaultDue (if g.ble.wifi.station = none then [] else [.setFault false, .markActivity]) g _
      split
      · rename_i hstation
        refine faultDue_silent (noRise_bleTaskStep handles ?_)
        show Falls g.ble.wifi (onGotIp g.ble.wifi)
        unfold onGotIp
        rw [hstation]
        exact id
      · exact faultDue_cleared _ _
  | staDisconnected =>
      show FaultDue (if g.ble.wifi.station = none then [] else [.setFault true]) g _
      split
      · rename_i hstation
        refine faultDue_silent (noRise_bleTaskStep handles ?_)
        show Falls g.ble.wifi (onWifiDisconnect g.ble.wifi)
        unfold onWifiDisconnect
        rw [hstation]
        exact id
      · rename_i hstation
        obtain ⟨station, hstation⟩ := Option.ne_none_iff_exists'.mp hstation
        refine faultDue_raised (Or.inl ?_)
        show (onWifiDisconnect g.ble.wifi).wifiConnectedFlag = false
        unfold onWifiDisconnect
        rw [hstation]
  | mqttStarted reads =>
      exact faultDue_silent ⟨id, fun hup =>
        (sameSession_mqttStep (e := .taskStarted reads) g.mqtt (by simp) (by simp)).mqttConnected ▸
          hup⟩
  | maintenance inp => exact faultDue_silent ⟨id, maintenance_mqttConnected inp⟩
  | mqttClient tick event =>
      show FaultDue (if g.mqtt.client = none then [] else clientCalls event) g _
      split
      · rename_i hclient
        refine faultDue_silent ⟨id, fun hup => ?_⟩
        change (mqttStep (.client tick event) g.mqtt).mqttConnected = true at hup
        simp only [mqttStep, hclient] at hup
        exact hup
      · rename_i hclient
        obtain ⟨client, hclient⟩ := Option.ne_none_iff_exists'.mp hclient
        exact faultDue_client tick event hclient rfl rfl

/-- The unit task connects nothing. -/
theorem noRise_unitAt (unit : UnitState) (g : GatewayState) :
    NoRise g (unitAt handles unit g) := by
  have hdelivered : ∀ (os : List Output) (g : GatewayState),
      (os.foldl (deliver handles) g).ble.wifi.wifiConnectedFlag =
          g.ble.wifi.wifiConnectedFlag ∧
        (os.foldl (deliver handles) g).mqtt.mqttConnected = g.mqtt.mqttConnected := by
    intro os
    induction os with
    | nil => exact fun _ => ⟨rfl, rfl⟩
    | cons o os ih =>
        intro g
        have hone : (deliver handles g o).ble.wifi.wifiConnectedFlag =
            g.ble.wifi.wifiConnectedFlag ∧
            (deliver handles g o).mqtt.mqttConnected = g.mqtt.mqttConnected := by
          unfold deliver
          split
          · exact ⟨rfl, rfl⟩
          · exact ⟨rfl, rfl⟩
          · exact ⟨rfl, (sameSession_refresh false g.mqtt).mqttConnected⟩
          · exact ⟨rfl, rfl⟩
        rw [List.foldl_cons]
        exact ⟨(ih _).1.trans hone.1, (ih _).2.trans hone.2⟩
  obtain ⟨hwifi, hmqtt⟩ := hdelivered (newOutputs g.unit unit)
    { unit := unit
      ble :=
        { g.ble with
          gRDEeprom := unit.gRDEeprom
          readEepromRequestIndex := unit.readEepromRequestIndex }
      mqtt := mqttStep (.eeprom unit.gRDEeprom) g.mqtt }
  exact ⟨fun hup => hwifi ▸ hup, fun hup => hmqtt ▸ hup⟩

theorem FaultDue.append
    {calls calls' : List LedAction} {g g' g'' : GatewayState}
    (h : FaultDue calls g g') (h' : FaultDue calls' g' g'') :
    FaultDue (calls ++ calls') g g'' := by
  intro fault hbefore hfault
  unfold faultAfter at hfault
  rw [List.foldl_append] at hfault
  exact h' _ (h fault hbefore) hfault

/-- While a request goes out. -/
theorem faultDue_tasks (es : List TaskEvent) (g : GatewayState) :
    FaultDue (images (taskStep handles) ledCalls es g) g (run (taskStep handles) es g) := by
  induction es generalizing g with
  | nil => exact faultDue_silent ⟨id, id⟩
  | cons e es ih => exact (faultDue_taskStep handles e g).append (ih (taskStep handles e g))

theorem faultDue_gatewayStep (e : GatewayEvent) (g : GatewayState) :
    FaultDue (gatewayCalls handles e g) g (gatewayStep handles e g) := by
  cases e with
  | unitTask inp during =>
      by_cases hwbm : g.unit.wbmComState = .wbmConnected
      · have hcalls : gatewayCalls handles (.unitTask inp during) g =
            images (taskStep handles) ledCalls (meanwhile handles inp during g)
              (beforeScheduler handles inp g) := if_pos hwbm
        have hstep : gatewayStep handles (.unitTask inp during) g =
            connectedTask handles inp during g := if_pos hwbm
        rw [hcalls, hstep]
        have hbefore : FaultDue [] g (beforeScheduler handles inp g) :=
          faultDue_silent (noRise_unitAt handles _ g)
        exact hbefore.append
          (faultDue_tasks handles (meanwhile handles inp during g) (beforeScheduler handles inp g))
      · have hcalls : gatewayCalls handles (.unitTask inp during) g = [] := if_neg hwbm
        have hstep : gatewayStep handles (.unitTask inp during) g =
            unitAt handles (unitEventTask inp g.unit) g := if_neg hwbm
        rw [hcalls, hstep]
        exact faultDue_silent (noRise_unitAt handles _ g)
  | uartData data => exact faultDue_silent ⟨id, id⟩
  | task e => exact faultDue_taskStep handles e g
  | unitUpdateTask running => exact faultDue_silent ⟨id, id⟩
  | firmwareStored content => exact faultDue_silent ⟨id, id⟩

/-- A fault is shown only while Wi-Fi or MQTT is not connected. -/
def FaultMeansDown (s : SignalState) : Prop :=
  s.led.fault = true → Down s.gateway

theorem faultMeansDown_signalStep
    (e : SignalEvent) {s : SignalState} (h : FaultMeansDown s) :
    FaultMeansDown (signalStep handles e s) := by
  cases e with
  | gateway readings e =>
      intro hfault
      change (applyCalls readings (gatewayCalls handles e s.gateway) s.led).fault = true at hfault
      rw [fault_applyCalls] at hfault
      exact faultDue_gatewayStep handles e s.gateway s.led.fault h hfault
  | gattsRead now =>
      intro hfault
      change (ledStep .markActivity now s.led).fault = true at hfault
      rw [fault_ledStep] at hfault
      exact h hfault
  | commLed now =>
      intro hfault
      change (ledStep .task now s.led).fault = true at hfault
      rw [fault_ledStep] at hfault
      exact h hfault

end Every

/-- Whatever the order of the steps of the gateway and of `comm_led_task`: a pass
that lights the LED shows a flash for activity that is fresh, unless Wi-Fi or
MQTT is not connected. -/
theorem steadyLight_means_down
    (handles : HandleTable) (device : DeviceIdentity) (firmwareBin : Option (List UInt8))
    (unitPartitionState : Bool) (millis : UInt32) (nvsSsid nvsPass : Option (List UInt8))
    (efuseMac : Option (Vector UInt8 6)) (nvs : EndpointNvs) (es : List SignalEvent) :
    let s := run (signalStep handles) es
      ⟨GatewayState.boot device firmwareBin unitPartitionState millis nvsSsid nvsPass efuseMac nvs,
        .initial⟩
    FaultMeansDown s ∧
      ∀ now, (signalStep handles (.commLed now) s).led.level = true →
        Down s.gateway ∨
          (activityFresh now s.led ∧
            now < (signalStep handles (.commLed now) s).led.pulseUntil) := by
  intro s
  have hany : Along (signalStep handles) (fun _ _ => True) es
      ⟨GatewayState.boot device firmwareBin unitPartitionState millis nvsSsid nvsPass efuseMac nvs,
        .initial⟩ :=
    Along.of_forall fun _ _ => trivial
  have hmeans : FaultMeansDown s :=
    hany.invariant (fun e _ _ h => faultMeansDown_signalStep handles e h) nofun
  refine ⟨hmeans, fun now hlit => ?_⟩
  change (commLedTask now s.led).level = true at hlit
  show Down s.gateway ∨ (activityFresh now s.led ∧ now < (commLedTask now s.led).pulseUntil)
  cases hfault : s.led.fault with
  | true => exact Or.inl (hmeans hfault)
  | false =>
      right
      by_cases hfresh : activityFresh now s.led
      · refine ⟨hfresh, ?_⟩
        unfold commLedTask at hlit ⊢
        rw [if_neg (by simp [hfault])] at hlit ⊢
        exact (of_decide_eq_true hlit).2
      · rw [level_of_not_fresh hfault hfresh] at hlit
        cases hlit

end Gateway
end AvensysEsp32
