import AvensysEsp32.Gateway.Coherence

/-!
# A run of the gateway is a run of each of its parts

What the unit task, the MQTT manager and the BLE server do in a run of the
gateway is a run of their own machines, in which the events of the environment
are what the other parts do.  What holds in all states these machines reach
holds of the parts of the gateway.
-/

namespace AvensysEsp32
namespace Gateway

open Foundation Serial UnitComm Ble Wifi Mqtt

section Parts

variable (handles : HandleTable)

/-! ## The unit task -/

/-- What a step of another task is to the unit task. -/
def taskUnitEvents (e : TaskEvent) (g : GatewayState) : List Event :=
  (clientWrites handles e g).map Event.clientWrite ++
    [.mqttReady (taskStep handles e g).unit.isMqttReady]

/-- What an event of the gateway is to the unit task. -/
def unitEvents (e : GatewayEvent) (g : GatewayState) : List Event :=
  match e with
  | .unitTask inp during =>
      if g.unit.wbmComState = .wbmConnected then
        [.iterate { inp with duringTx := duringTx handles inp during g },
          .mqttReady (connectedTask handles inp during g).unit.isMqttReady]
      else [.iterate inp]
  | .uartData data => [.uartData data]
  | .task e => taskUnitEvents handles e g
  | .unitUpdateTask running => [.unitUpdateTask running]
  | .firmwareStored content => [.firmwareStored content]

theorem run_clientWrites (ws : List ClientWrite) (s : UnitState) :
    run step (ws.map Event.clientWrite) s = ws.foldl (fun s w => clientWrite w s) s := by
  induction ws generalizing s with
  | nil => rfl
  | cons w ws ih => exact ih (clientWrite w s)

theorem taskStep_unit (e : TaskEvent) (g : GatewayState) :
    (taskStep handles e g).unit = run step (taskUnitEvents handles e g) g.unit := by
  unfold taskUnitEvents
  rw [run_append, run_clientWrites]
  cases e <;> rfl

/-- Before the scheduler the task does not look at what comes during the
transmission. -/
theorem receive_duringTx (inp : IterationInput) (ws : List ClientWrite) (s : UnitState) :
    receive { inp with duringTx := ws } (beforeReceive { inp with duringTx := ws } s) =
      receive inp (beforeReceive inp s) := by
  have htrigger : unitUpdateTrigger { inp with duringTx := ws } = unitUpdateTrigger inp := by rfl
  have hclamp : clampLastReceived { inp with duringTx := ws } = clampLastReceived inp := by rfl
  have hdebug : debugRequest { inp with duringTx := ws } = debugRequest inp := by rfl
  have hpolling : pollingRequest { inp with duringTx := ws } = pollingRequest inp := by rfl
  have htimeout : globalTimeout { inp with duringTx := ws } = globalTimeout inp := by rfl
  have hreply : handleReply { inp with duringTx := ws } = handleReply inp := by rfl
  unfold beforeReceive receive
  rw [htrigger, hclamp, hdebug, hpolling, htimeout, hreply]
  rfl

/-- The unit task iterates as it does by itself, with the images that come from
the other tasks while its request goes out. -/
theorem connectedTask_unit
    (inp : IterationInput) (during : List TaskEvent) {g : GatewayState}
    (hwbm : g.unit.wbmComState = .wbmConnected) :
    (connectedTask handles inp during g).unit =
      run step (unitEvents handles (.unitTask inp during) g) g.unit := by
  have hiterated : step (.iterate { inp with duringTx := duringTx handles inp during g }) g.unit =
      scheduler { inp with duringTx := duringTx handles inp during g }
        (beforeScheduler handles inp g).unit := by
    show unitEventTask _ g.unit = _
    rw [unitEventTask_connected _ hwbm]
    unfold connectedIteration beforeScheduler
    rw [receive_duringTx, unitAt_unit]
  unfold unitEvents
  dsimp only
  rw [if_pos hwbm, run_cons, hiterated]
  rfl

theorem unit_simulation :
    Simulation (gatewayStep handles) step (fun _ _ => True)
      (fun g s => g.unit = s) (unitEvents handles) where
  step := by
    rintro e g _ - rfl
    cases e with
    | unitTask inp during =>
        by_cases hwbm : g.unit.wbmComState = .wbmConnected
        · have hstep : gatewayStep handles (.unitTask inp during) g =
              connectedTask handles inp during g := if_pos hwbm
          rw [hstep]
          exact connectedTask_unit handles inp during hwbm
        · have hstep : gatewayStep handles (.unitTask inp during) g =
              unitAt handles (unitEventTask inp g.unit) g := if_neg hwbm
          have hevents : unitEvents handles (.unitTask inp during) g = [.iterate inp] :=
            if_neg hwbm
          rw [hstep, hevents, unitAt_unit]
          rfl
    | uartData data => rfl
    | task e => exact taskStep_unit handles e g
    | unitUpdateTask running => rfl
    | firmwareStored content => rfl

/-! ## The MQTT manager -/

/-- What a step of a task beside the unit task is to the MQTT manager. -/
def taskMqttEvents (e : TaskEvent) (g : GatewayState) : List MqttEvent :=
  match e with
  | .mqttStarted reads => [.taskStarted reads]
  | .maintenance inp => [.pass inp]
  | .mqttClient tick event => [.client tick event]
  | _ =>
      [.eeprom (taskStep handles e g).ble.gRDEeprom,
        .wifi (taskStep handles e g).ble.wifi.wifiConnectedFlag]

/-- A call of the unit task into the MQTT manager. -/
def mqttCall : Output → Option MqttEvent
  | .mqttSubscribeAppTopics _ => some .subscribeAppTopics
  | _ => none

/-- What a new state of the unit task is to the MQTT manager. -/
def unitAtMqttEvents (unit : UnitState) (g : GatewayState) : List MqttEvent :=
  .eeprom unit.gRDEeprom :: (newOutputs g.unit unit).filterMap mqttCall

/-- What an event of the gateway is to the MQTT manager. -/
def mqttEvents (e : GatewayEvent) (g : GatewayState) : List MqttEvent :=
  match e with
  | .unitTask inp during =>
      if g.unit.wbmComState = .wbmConnected then
        unitAtMqttEvents (receive inp (beforeReceive inp g.unit)) g ++
          images (taskStep handles) (taskMqttEvents handles)
            (meanwhile handles inp during g) (beforeScheduler handles inp g)
      else unitAtMqttEvents (unitEventTask inp g.unit) g
  | .task e => taskMqttEvents handles e g
  | _ => []

theorem mqtt_task_simulation :
    Simulation (taskStep handles) mqttStep (fun _ _ => True)
      (fun g s => g.mqtt = s) (taskMqttEvents handles) where
  step := by
    rintro e g _ - rfl
    cases e <;> rfl

theorem delivered_mqtt (os : List Output) (g : GatewayState) :
    (os.foldl (deliver handles) g).mqtt = run mqttStep (os.filterMap mqttCall) g.mqtt := by
  induction os generalizing g with
  | nil => rfl
  | cons o os ih =>
      rw [List.foldl_cons, ih]
      cases o with
      | mqttSubscribeAppTopics address => rfl
      | setAttrValue characteristic length value => cases characteristic <;> rfl
      | uartWrite bytes => rfl
      | uart1Initialize1 => rfl
      | bleSetRuntimeReady ready => rfl
      | gpioSetWifiReady level => rfl
      | mqttPublish characteristic address value => rfl
      | createUnitUpdateTask => rfl

theorem unitAt_mqtt (unit : UnitState) (g : GatewayState) :
    (unitAt handles unit g).mqtt = run mqttStep (unitAtMqttEvents unit g) g.mqtt :=
  delivered_mqtt handles _ _

theorem mqtt_simulation :
    Simulation (gatewayStep handles) mqttStep (fun _ _ => True)
      (fun g s => g.mqtt = s) (mqttEvents handles) where
  step := by
    rintro e g _ - rfl
    cases e with
    | unitTask inp during =>
        by_cases hwbm : g.unit.wbmComState = .wbmConnected
        · have hstep : gatewayStep handles (.unitTask inp during) g =
              connectedTask handles inp during g := if_pos hwbm
          have hevents : mqttEvents handles (.unitTask inp during) g =
              unitAtMqttEvents (receive inp (beforeReceive inp g.unit)) g ++
                images (taskStep handles) (taskMqttEvents handles)
                  (meanwhile handles inp during g) (beforeScheduler handles inp g) :=
            if_pos hwbm
          rw [hstep, hevents, run_append, ← unitAt_mqtt handles]
          exact (mqtt_task_simulation handles).run (Along.of_forall fun _ _ => trivial) rfl
        · have hstep : gatewayStep handles (.unitTask inp during) g =
              unitAt handles (unitEventTask inp g.unit) g := if_neg hwbm
          have hevents : mqttEvents handles (.unitTask inp during) g =
              unitAtMqttEvents (unitEventTask inp g.unit) g := if_neg hwbm
          rw [hstep, hevents]
          exact unitAt_mqtt handles _ g
    | uartData data => rfl
    | task e => exact (mqtt_task_simulation handles).step e g _ trivial rfl
    | unitUpdateTask running => rfl
    | firmwareStored content => rfl

/-! ## The BLE server -/

/-- Two states of the BLE server that differ at most in the image. -/
structure SameServer (s s' : BleState) : Prop where
  wifi : s'.wifi = s.wifi
  prepareWriteEnv : s'.prepareWriteEnv = s.prepareWriteEnv
  provStatusNotify : s'.provStatusNotify = s.provStatusNotify
  runtimeReady : s'.runtimeReady = s.runtimeReady

theorem SameServer.refl (s : BleState) :
    SameServer s s :=
  ⟨rfl, rfl, rfl, rfl⟩

theorem SameServer.trans
    {s s' s'' : BleState} (h : SameServer s s') (h' : SameServer s' s'') :
    SameServer s s'' where
  wifi := h'.wifi.trans h.wifi
  prepareWriteEnv := h'.prepareWriteEnv.trans h.prepareWriteEnv
  provStatusNotify := h'.provStatusNotify.trans h.provStatusNotify
  runtimeReady := h'.runtimeReady.trans h.runtimeReady

theorem SameServer.symm
    {s s' : BleState} (h : SameServer s s') :
    SameServer s' s :=
  ⟨h.wifi.symm, h.prepareWriteEnv.symm, h.provStatusNotify.symm, h.runtimeReady.symm⟩

theorem sameServer_applyEepromPayload (payload : List UInt8) (s : BleState) :
    SameServer s (applyEepromPayload payload s) := by
  unfold applyEepromPayload
  split
  · exact ⟨rfl, rfl, rfl, rfl⟩
  · exact SameServer.refl s

variable {handles}

theorem SameServer.handleWriteEvent
    {s s' : BleState} (h : SameServer s s') (inp : EnqueueInput) (allocated : Bool)
    (param : WriteParam) :
    SameServer (handleWriteEvent handles inp allocated param s)
      (handleWriteEvent handles inp allocated param s') := by
  have hreset : SameServer (bleProvTimerReset s) (bleProvTimerReset s') := by
    unfold bleProvTimerReset
    exact ⟨by rw [h.wifi], h.prepareWriteEnv, h.provStatusNotify, h.runtimeReady⟩
  have hwifi : ∀ f : WifiState → WifiState,
      SameServer { bleProvTimerReset s with wifi := f (bleProvTimerReset s).wifi }
        { bleProvTimerReset s' with wifi := f (bleProvTimerReset s').wifi } := by
    intro f
    exact ⟨congrArg f hreset.wifi, hreset.prepareWriteEnv, hreset.provStatusNotify,
      hreset.runtimeReady⟩
  unfold Ble.handleWriteEvent
  dsimp only
  split
  · exact ((sameServer_applyEepromPayload _ _).symm.trans hreset).trans
      (sameServer_applyEepromPayload _ _)
  · split
    · exact hwifi (writeWifiSsid inp param.value allocated)
    · split
      · exact hwifi (writeWifiPassword inp param.value allocated)
      · split
        · exact hwifi (writeConnectToCloud inp)
        · exact hreset

theorem SameServer.gattsWrite
    {s s' : BleState} (h : SameServer s s') (inp : EnqueueInput) (allocated : Bool)
    (param : WriteParam) :
    SameServer (gattsWrite handles inp allocated param s)
      (gattsWrite handles inp allocated param s') := by
  unfold Ble.gattsWrite
  split
  · split
    · exact ⟨h.wifi, h.prepareWriteEnv, rfl, h.runtimeReady⟩
    · exact h.handleWriteEvent inp allocated param
  · exact h.handleWriteEvent inp allocated param

theorem sameServer_execWrite (exec : Bool) (s : BleState) :
    SameServer { s with prepareWriteEnv := .cleared } (execWriteEventEnv handles exec s) := by
  have hcleared : ∀ s', SameServer s s' →
      SameServer { s with prepareWriteEnv := .cleared } { s' with prepareWriteEnv := .cleared } :=
    fun s' h => ⟨h.wifi, rfl, h.provStatusNotify, h.runtimeReady⟩
  unfold execWriteEventEnv
  dsimp only
  split
  · split
    · exact hcleared _ (sameServer_applyEepromPayload _ s)
    · exact hcleared s (SameServer.refl s)
  · exact hcleared s (SameServer.refl s)

/-- The server does the same whatever the image is. -/
theorem SameServer.step
    {s s' : BleState} (h : SameServer s s') (e : BleEvent) :
    SameServer (bleStep handles e s) (bleStep handles e s') := by
  have hwifi : ∀ f : WifiState → WifiState,
      SameServer { s with wifi := f s.wifi } { s' with wifi := f s'.wifi } :=
    fun f => ⟨congrArg f h.wifi, h.prepareWriteEnv, h.provStatusNotify, h.runtimeReady⟩
  cases e with
  | gatts event =>
      cases event with
      | connect => exact hwifi fun s => { s with provTimer := true }
      | disconnect =>
          exact ⟨congrArg (fun s : WifiState => bleProvReset { s with provTimer := false }) h.wifi,
            h.prepareWriteEnv, rfl, h.runtimeReady⟩
      | write inp allocated param => exact h.gattsWrite inp allocated param
      | prepareWrite allocated param =>
          exact ⟨h.wifi,
            congrArg (fun env => (prepareWriteEventEnv allocated param env).1) h.prepareWriteEnv,
            h.provStatusNotify, h.runtimeReady⟩
      | execWrite exec =>
          refine ((sameServer_execWrite exec s).symm.trans ?_).trans (sameServer_execWrite exec s')
          exact ⟨h.wifi, rfl, h.provStatusNotify, h.runtimeReady⟩
  | provTimeout =>
      unfold bleStep
      dsimp only
      rw [h.wifi]
      split
      · exact ⟨rfl, h.prepareWriteEnv, h.provStatusNotify, h.runtimeReady⟩
      · exact h
  | setRuntimeReady ready =>
      exact ⟨congrArg (bleSetProvStatus (if ready then .runtimeReady else .booting)) h.wifi,
        h.prepareWriteEnv, h.provStatusNotify, rfl⟩
  | task inp => exact hwifi fun s => (mqttTaskStep inp s).1
  | gotIp => exact hwifi onGotIp
  | staDisconnected => exact hwifi onWifiDisconnect

variable (handles)

/-- What a step of a task beside the unit task is to the BLE server. -/
def taskBleEvents (e : TaskEvent) (_ : GatewayState) : List BleEvent :=
  match e with
  | .gatts event => [.gatts event]
  | .provTimeout => [.provTimeout]
  | .mqttTask inp => [.task inp]
  | .gotIp => [.gotIp]
  | .staDisconnected => [.staDisconnected]
  | _ => []

/-- A call of the unit task into the BLE server. -/
def bleCall : Output → Option BleEvent
  | .bleSetRuntimeReady ready => some (.setRuntimeReady ready)
  | _ => none

/-- What an event of the gateway is to the BLE server. -/
def bleEvents (e : GatewayEvent) (g : GatewayState) : List BleEvent :=
  match e with
  | .unitTask inp during =>
      if g.unit.wbmComState = .wbmConnected then
        (newOutputs g.unit (receive inp (beforeReceive inp g.unit))).filterMap bleCall ++
          images (taskStep handles) taskBleEvents
            (meanwhile handles inp during g) (beforeScheduler handles inp g)
      else (newOutputs g.unit (unitEventTask inp g.unit)).filterMap bleCall
  | .task e => taskBleEvents e g
  | _ => []

theorem ble_task_simulation :
    Simulation (taskStep handles) (bleStep handles) (fun _ _ => True)
      (fun g s => SameServer s g.ble) taskBleEvents where
  step := by
    intro e g s _ h
    have hstep : ∀ b, SameServer (bleStep handles b s) (bleStep handles b g.ble) :=
      fun b => h.step b
    cases e with
    | gatts event => exact hstep (.gatts event)
    | provTimeout => exact hstep .provTimeout
    | mqttTask inp => exact hstep (.task inp)
    | gotIp => exact hstep .gotIp
    | staDisconnected => exact hstep .staDisconnected
    | mqttStarted reads => exact ⟨h.wifi, h.prepareWriteEnv, h.provStatusNotify, h.runtimeReady⟩
    | maintenance inp => exact ⟨h.wifi, h.prepareWriteEnv, h.provStatusNotify, h.runtimeReady⟩
    | mqttClient tick event =>
        exact ⟨h.wifi, h.prepareWriteEnv, h.provStatusNotify, h.runtimeReady⟩

theorem sameServer_delivered
    (os : List Output) {g : GatewayState} {s : BleState} (h : SameServer s g.ble) :
    SameServer (run (bleStep handles) (os.filterMap bleCall) s)
      (os.foldl (deliver handles) g).ble := by
  induction os generalizing g s with
  | nil => exact h
  | cons o os ih =>
      cases o with
      | bleSetRuntimeReady ready => exact ih (h.step (.setRuntimeReady ready))
      | setAttrValue characteristic length value =>
          cases characteristic with
          | eepromData =>
              exact ih ⟨h.wifi, h.prepareWriteEnv, h.provStatusNotify, h.runtimeReady⟩
          | polling => exact ih h
          | debugData => exact ih h
      | mqttSubscribeAppTopics address => exact ih h
      | uartWrite bytes => exact ih h
      | uart1Initialize1 => exact ih h
      | gpioSetWifiReady level => exact ih h
      | mqttPublish characteristic address value => exact ih h
      | createUnitUpdateTask => exact ih h

theorem sameServer_unitAt
    (unit : UnitState) {g : GatewayState} {s : BleState} (h : SameServer s g.ble) :
    SameServer (run (bleStep handles) ((newOutputs g.unit unit).filterMap bleCall) s)
      (unitAt handles unit g).ble :=
  sameServer_delivered handles _ ⟨h.wifi, h.prepareWriteEnv, h.provStatusNotify, h.runtimeReady⟩

theorem ble_simulation :
    Simulation (gatewayStep handles) (bleStep handles) (fun _ _ => True)
      (fun g s => SameServer s g.ble) (bleEvents handles) where
  step := by
    intro e g s _ h
    cases e with
    | unitTask inp during =>
        by_cases hwbm : g.unit.wbmComState = .wbmConnected
        · have hstep : gatewayStep handles (.unitTask inp during) g =
              connectedTask handles inp during g := if_pos hwbm
          have hevents : bleEvents handles (.unitTask inp during) g =
              (newOutputs g.unit (receive inp (beforeReceive inp g.unit))).filterMap bleCall ++
                images (taskStep handles) taskBleEvents
                  (meanwhile handles inp during g) (beforeScheduler handles inp g) :=
            if_pos hwbm
          rw [hstep, hevents, run_append]
          have hduring : Along (taskStep handles) (fun _ _ => True) (meanwhile handles inp during g)
              (beforeScheduler handles inp g) :=
            Along.of_forall fun _ _ => trivial
          have hothers := (ble_task_simulation handles).run hduring
            (sameServer_unitAt handles (receive inp (beforeReceive inp g.unit)) h)
          exact ⟨hothers.wifi, hothers.prepareWriteEnv, hothers.provStatusNotify,
            hothers.runtimeReady⟩
        · have hstep : gatewayStep handles (.unitTask inp during) g =
              unitAt handles (unitEventTask inp g.unit) g := if_neg hwbm
          have hevents : bleEvents handles (.unitTask inp during) g =
              (newOutputs g.unit (unitEventTask inp g.unit)).filterMap bleCall := if_neg hwbm
          rw [hstep, hevents]
          exact sameServer_unitAt handles _ h
    | uartData data => exact h
    | task e => exact (ble_task_simulation handles).step e g s trivial h
    | unitUpdateTask running => exact h
    | firmwareStored content => exact h

end Parts

/-! ## Runs -/

/-- In every run of the gateway its parts run as they do by themselves, and
agree on what they share. -/
theorem parts_run
    (handles : HandleTable) (device : DeviceIdentity) (firmwareBin : Option (List UInt8))
    (unitPartitionState : Bool) (millis : UInt32) (nvsSsid nvsPass : Option (List UInt8))
    (efuseMac : Option (Vector UInt8 6)) (nvs : EndpointNvs) (es : List GatewayEvent) :
    let g₀ := GatewayState.boot device firmwareBin unitPartitionState millis nvsSsid nvsPass
      efuseMac nvs
    let g := run (gatewayStep handles) es g₀
    g.unit = run step (images (gatewayStep handles) (unitEvents handles) es g₀)
        (UnitState.boot device firmwareBin unitPartitionState millis) ∧
      g.mqtt = run mqttStep (images (gatewayStep handles) (mqttEvents handles) es g₀)
        (MqttState.initial efuseMac nvs) ∧
      SameServer
        (run (bleStep handles) (images (gatewayStep handles) (bleEvents handles) es g₀)
          (BleState.initial nvsSsid nvsPass)) g.ble ∧
      Coherent g := by
  intro g₀ g
  have hall : Along (gatewayStep handles) (fun _ _ => True) es g₀ :=
    Along.of_forall fun _ _ => trivial
  refine ⟨(unit_simulation handles).run hall rfl, (mqtt_simulation handles).run hall rfl,
    (ble_simulation handles).run hall (SameServer.refl _), ?_⟩
  exact Along.invariant (fun e _ _ h => coherent_gatewayStep handles e h) hall
    (coherent_boot device firmwareBin unitPartitionState millis nvsSsid nvsPass efuseMac nvs)

end Gateway
end AvensysEsp32
