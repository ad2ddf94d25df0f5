import AvensysEsp32.Ble.EepromPaths
import AvensysEsp32.Foundation.Simulation
import AvensysEsp32.Mqtt.Manager
import AvensysEsp32.UnitComm.Outputs

/-!
# The gateway

The unit task, the BLE stack, the Wi-Fi driver and `mqtt_task` run beside each
other and share variables: the mirror `gRDEeprom`, the bits of
`Read_Eeprom_Request_Index`, `Wifi_Connected_Flag` and `is_mqtt_ready`.  The
unit task calls into the others, and while its request goes out on the UART the
others go on.

The machine of the gateway is made of the machines of its parts.  Each keeps
its own copy of what is shared, and hears of a change by the event its machine
has for it.
-/

namespace AvensysEsp32
namespace Gateway

open Foundation Serial UnitComm Ble Wifi Mqtt

structure GatewayState where
  unit : UnitState
  ble : BleState
  mqtt : MqttState

/-- The variables when `app_main` has started the tasks. -/
def GatewayState.boot (device : DeviceIdentity) (firmwareBin : Option (List UInt8))
    (unitPartitionState : Bool) (millis : UInt32) (nvsSsid nvsPass : Option (List UInt8))
    (efuseMac : Option (Vector UInt8 6)) (nvs : EndpointNvs) : GatewayState where
  unit := UnitState.boot device firmwareBin unitPartitionState millis
  ble := BleState.initial nvsSsid nvsPass
  mqtt := MqttState.initial efuseMac nvs

/-- What the tasks beside the unit task do. -/
inductive TaskEvent
  | gatts (event : GattsEvent)
  | provTimeout
  /-- A step of `mqtt_task` at the queue of Wi-Fi requests. -/
  | mqttTask (inp : TaskInput)
  | gotIp
  | staDisconnected
  /-- What `mqtt_task` does before its loop. -/
  | mqttStarted (reads : NvsReads)
  /-- `mqtt_connection_maintenance` -/
  | maintenance (inp : PassInput)
  | mqttClient (tick : UInt32) (event : ClientEvent)

section Gateway

variable (handles : HandleTable)

/-! ## Images from clients -/

/-- The payload that comes to `ble_apply_eeprom_payload`. -/
def blePayload (event : GattsEvent) (s : BleState) : Option (List UInt8) :=
  match event with
  | .write _ _ param => if param.handle = handles.eepromData then some param.value else none
  | .execWrite true =>
      if s.prepareWriteEnv.prepareHandle = handles.eepromData then
        s.prepareWriteEnv.prepareBuf.map fun buf => readBytes buf 0 s.prepareWriteEnv.prepareLen
      else none
  | _ => none

/-- The payload that comes to `mqtt_apply_eeprom_payload`. -/
def mqttPayload (event : ClientEvent) (s : MqttState) : Option (List UInt8) :=
  match event with
  | .data topic payload =>
      if isEepromTopic topic (mqttUpdateActiveSerialFromEeprom (mqttInitHwIdOnce s)).1 then
        some payload
      else none
  | _ => none

/-- The image that an event brings from a client. -/
def clientWrites (e : TaskEvent) (g : GatewayState) : List ClientWrite :=
  match e with
  | .gatts event => ((blePayload handles event g.ble).map (⟨true, ·⟩)).toList
  | .mqttClient _ event =>
      if g.mqtt.client = none then [] else ((mqttPayload event g.mqtt).map (⟨false, ·⟩)).toList
  | _ => []

/-! ## The other tasks -/

/-- A step of the BLE stack, of the Wi-Fi driver, or of `mqtt_task` at its queue. -/
def bleTaskStep (writes : List ClientWrite) (e : BleEvent) (g : GatewayState) : GatewayState :=
  let ble := bleStep handles e g.ble
  { unit := writes.foldl (fun s w => clientWrite w s) g.unit
    ble := ble
    mqtt := mqttStep (.wifi ble.wifi.wifiConnectedFlag) (mqttStep (.eeprom ble.gRDEeprom) g.mqtt) }

/-- A step of the MQTT manager or of its client. -/
def mqttManagerStep (writes : List ClientWrite) (e : MqttEvent) (g : GatewayState) :
    GatewayState :=
  let unit := writes.foldl (fun s w => clientWrite w s) g.unit
  let mqtt := mqttStep e g.mqtt
  { unit := step (.mqttReady mqtt.isMqttReady) unit
    ble :=
      { g.ble with
        gRDEeprom := mqtt.gRDEeprom
        readEepromRequestIndex := unit.readEepromRequestIndex }
    mqtt := mqtt }

def taskStep (e : TaskEvent) (g : GatewayState) : GatewayState :=
  let writes := clientWrites handles e g
  match e with
  | .gatts event => bleTaskStep handles writes (.gatts event) g
  | .provTimeout => bleTaskStep handles writes .provTimeout g
  | .mqttTask inp => bleTaskStep handles writes (.task inp) g
  | .gotIp => bleTaskStep handles writes .gotIp g
  | .staDisconnected => bleTaskStep handles writes .staDisconnected g
  | .mqttStarted reads => mqttManagerStep writes (.taskStarted reads) g
  | .maintenance inp => mqttManagerStep writes (.pass inp) g
  | .mqttClient tick event => mqttManagerStep writes (.client tick event) g

/-! ## The unit task -/

/-- An output of the unit task that is a call into another part. -/
def deliver (g : GatewayState) (o : Output) : GatewayState :=
  match o with
  | .bleSetRuntimeReady ready => { g with ble := bleStep handles (.setRuntimeReady ready) g.ble }
  | .setAttrValue .eepromData _ value => { g with ble := { g.ble with eepromAttr := value } }
  | .mqttSubscribeAppTopics _ => { g with mqtt := mqttStep .subscribeAppTopics g.mqtt }
  | _ => g

/-- The unit task has come to the state `unit`. -/
def unitAt (unit : UnitState) (g : GatewayState) : GatewayState :=
  (newOutputs g.unit unit).foldl (deliver handles)
    { unit := unit
      ble :=
        { g.ble with
          gRDEeprom := unit.gRDEeprom
          readEepromRequestIndex := unit.readEepromRequestIndex }
      mqtt := mqttStep (.eeprom unit.gRDEeprom) g.mqtt }

/-- The scheduler has a request to send. -/
def requestDue (s : UnitState) : Bool :=
  s.readEepromRequestIndex ≠ 0 ∧ s.eepromDataReceived = false ∧
    (nextService s.readEepromRequestIndex).isSome

/-- The gateway when the scheduler is called. -/
def beforeScheduler (inp : IterationInput) (g : GatewayState) : GatewayState :=
  unitAt handles (receive inp (beforeReceive inp g.unit)) g

/-- What the other tasks do while the scheduler's request goes out. -/
def meanwhile (inp : IterationInput) (during : List TaskEvent) (g : GatewayState) :
    List TaskEvent :=
  if requestDue (beforeScheduler handles inp g).unit then during else []

/-- The images that come while the scheduler's request goes out. -/
def duringTx (inp : IterationInput) (during : List TaskEvent) (g : GatewayState) :
    List ClientWrite :=
  images (taskStep handles) (clientWrites handles) (meanwhile handles inp during g)
    (beforeScheduler handles inp g)

/-- One iteration of `Unit_event_task` in `WBM_Connected`: the other tasks go
on while the scheduler's request goes out. -/
def connectedTask (inp : IterationInput) (during : List TaskEvent) (g : GatewayState) :
    GatewayState :=
  let others :=
    run (taskStep handles) (meanwhile handles inp during g) (beforeScheduler handles inp g)
  let unit := scheduler { inp with duringTx := duringTx handles inp during g }
    (beforeScheduler handles inp g).unit
  { unit := step (.mqttReady others.mqtt.isMqttReady) unit
    ble := { others.ble with readEepromRequestIndex := unit.readEepromRequestIndex }
    mqtt := others.mqtt }

/-- One iteration of `Unit_event_task`. -/
def unitTask (inp : IterationInput) (during : List TaskEvent) (g : GatewayState) :
    GatewayState :=
  if g.unit.wbmComState = .wbmConnected then connectedTask handles inp during g
  else unitAt handles (unitEventTask inp g.unit) g

/-! ## Runs -/

inductive GatewayEvent
  | unitTask (inp : IterationInput) (during : List TaskEvent)
  | uartData (data : List UInt8)
  | task (e : TaskEvent)
  | unitUpdateTask (running : Bool)
  | firmwareStored (content : Option (List UInt8))

/-- The effect of an event. -/
def gatewayStep (e : GatewayEvent) (g : GatewayState) : GatewayState :=
  match e with
  | .unitTask inp during => unitTask handles inp during g
  | .uartData data => { g with unit := step (.uartData data) g.unit }
  | .task e => taskStep handles e g
  | .unitUpdateTask running => { g with unit := step (.unitUpdateTask running) g.unit }
  | .firmwareStored content => { g with unit := step (.firmwareStored content) g.unit }

end Gateway

end Gateway
end AvensysEsp32
