import AvensysEsp32.Foundation.Reassembly
import AvensysEsp32.UnitComm.Connected
import AvensysEsp32.Wifi.Manager

/-!
# The BLE server

The writes a client makes over BLE: those of the provisioning characteristics,
those of the EEPROM image, which come at once or as prepared writes that an
execute completes, and those of the configuration descriptor of the status.
Beside them stand the connection, the provisioning timer, and the other tasks
that set the status or take from the queue of requests.
-/

namespace AvensysEsp32
namespace Ble

open Foundation Serial UnitComm Wifi

/-- `PREPARE_BUF_MAX_SIZE` -/
@[simp] abbrev prepareBufMaxSize : Nat := 1024

/-- The entries of `ble_handle_table` that a handle is compared with. -/
structure HandleTable where
  eepromData : UInt16
  wifiSsid : UInt16
  wifiPassword : UInt16
  connectToCloud : UInt16
  provStatusCfg : UInt16
deriving DecidableEq, Repr

/-- The fields of `param->write`. -/
structure WriteParam where
  handle : UInt16
  offset : Nat
  value : List UInt8
deriving DecidableEq, Repr

/-- What a write stores and where. -/
def WriteParam.chunk (param : WriteParam) : Chunk :=
  ⟨param.offset, param.value⟩

@[simp] theorem WriteParam.chunk_bytes (param : WriteParam) :
    param.chunk.bytes = param.value := by
  rfl

/-- The values of `esp_gatt_status_t` that a prepared write is answered with. -/
inductive GattStatus
  | ok
  | noResources
  | invalidOffset
  | invalidAttrLen
deriving DecidableEq, Repr

/-- `prepare_type_env_t` -/
structure PrepareTypeEnv where
  prepareBuf : Option Memory
  prepareLen : Nat
  prepareHandle : UInt16

/-- `{0}`, and what an execute leaves. -/
def PrepareTypeEnv.cleared : PrepareTypeEnv :=
  ⟨none, 0, 0⟩

/-! ## Prepared writes -/

/-- The value of a prepared write is put into the buffer. -/
def storePrepared (param : WriteParam) (buf : Memory) (env : PrepareTypeEnv) : PrepareTypeEnv :=
  { env with
    prepareBuf := some (param.chunk.storeIn buf)
    prepareLen := env.prepareLen + param.value.length }

/-- `prepare_write_event_env`; `allocated` is what the memory holds that
`malloc` provides.  The first write of a buffer is stored wherever its offset
says. -/
def prepareWriteEventEnv (allocated : Option Memory) (param : WriteParam) (env : PrepareTypeEnv) :
    PrepareTypeEnv × GattStatus :=
  match env.prepareBuf with
  | none =>
      let env := ⟨allocated, 0, param.handle⟩
      match allocated with
      | none => (env, .noResources)
      | some buf => (storePrepared param buf env, .ok)
  | some buf =>
      if prepareBufMaxSize < param.offset then (env, .invalidOffset)
      else if prepareBufMaxSize < param.offset + param.value.length then (env, .invalidAttrLen)
      else (storePrepared param buf env, .ok)

structure BleState where
  /-- The packets, the status, its timer and the queue. -/
  wifi : WifiState
  /-- `prepare_write_env` -/
  prepareWriteEnv : PrepareTypeEnv
  /-- `s_prov_status_notify` -/
  provStatusNotify : Bool
  /-- `s_runtime_ready` -/
  runtimeReady : Bool
  gRDEeprom : Memory
  readEepromRequestIndex : BitVec 16
  /-- The value of the EEPROM characteristic that a client reads. -/
  eepromAttr : List UInt8

/-- The variables when the attribute table has been created. -/
def BleState.initial (nvsSsid nvsPass : Option (List UInt8)) : BleState where
  wifi := bleSetProvStatus .booting (WifiState.boot true nvsSsid nvsPass)
  prepareWriteEnv := .cleared
  provStatusNotify := false
  runtimeReady := false
  gRDEeprom := fun _ => 0
  readEepromRequestIndex := 0
  eepromAttr := eepromBytes fun _ => 0

/-! ## The handlers -/

/-- `ble_apply_eeprom_payload`, and what both its callers do when it accepts
the payload: `ble_schedule_full_eeprom_write` and the new attribute value. -/
def applyEepromPayload (payload : List UInt8) (s : BleState) : BleState :=
  match bleApplyEepromPayload payload s.gRDEeprom with
  | some gRDEeprom =>
      { s with
        gRDEeprom := gRDEeprom
        readEepromRequestIndex := s.readEepromRequestIndex ||| fullEepromWrite
        eepromAttr := eepromBytes gRDEeprom }
  | none => s

/-- `ble_prov_timer_reset`, the timer being there. -/
def bleProvTimerReset (s : BleState) : BleState :=
  { s with wifi := { s.wifi with provTimer := true } }

section Handlers

variable (handles : HandleTable)

/-- `handle_write_event`; `allocated` is whether a packet gets its memory. -/
def handleWriteEvent (inp : EnqueueInput) (allocated : Bool) (param : WriteParam) (s : BleState) :
    BleState :=
  let s := bleProvTimerReset s
  if param.handle = handles.eepromData then applyEepromPayload param.value s
  else if param.handle = handles.wifiSsid then
    { s with wifi := writeWifiSsid inp param.value allocated s.wifi }
  else if param.handle = handles.wifiPassword then
    { s with wifi := writeWifiPassword inp param.value allocated s.wifi }
  else if param.handle = handles.connectToCloud then
    { s with wifi := writeConnectToCloud inp s.wifi }
  else s

/-- `exec_write_event_env`; `exec` is whether the flag is
`ESP_GATT_PREP_WRITE_EXEC`. -/
def execWriteEventEnv (exec : Bool) (s : BleState) : BleState :=
  let s :=
    match exec, s.prepareWriteEnv.prepareBuf with
    | true, some buf =>
        if s.prepareWriteEnv.prepareHandle = handles.eepromData then
          applyEepromPayload (readBytes buf 0 s.prepareWriteEnv.prepareLen) s
        else s
    | _, _ => s
  { s with prepareWriteEnv := .cleared }

/-- The events of `gatts_profile_event_handler` that change a variable. -/
inductive GattsEvent
  | connect
  | disconnect
  | write (inp : EnqueueInput) (allocated : Bool) (param : WriteParam)
  /-- A write with `is_prep`. -/
  | prepareWrite (allocated : Option Memory) (param : WriteParam)
  | execWrite (exec : Bool)

/-- `ESP_GATTS_WRITE_EVT` without `is_prep` -/
def gattsWrite (inp : EnqueueInput) (allocated : Bool) (param : WriteParam) (s : BleState) :
    BleState :=
  match param.value with
  | [low, high] =>
      if param.handle = handles.provStatusCfg then
        { s with provStatusNotify := decide (low = 1 ∧ high = 0) }
      else handleWriteEvent handles inp allocated param s
  | _ => handleWriteEvent handles inp allocated param s

/-- `gatts_profile_event_handler` -/
def gattsProfileEventHandler (event : GattsEvent) (s : BleState) : BleState :=
  match event with
  | .connect => bleProvTimerReset s
  | .disconnect =>
      { s with
        provStatusNotify := false
        wifi := bleProvReset { s.wifi with provTimer := false } }
  | .write inp allocated param => gattsWrite handles inp allocated param s
  | .prepareWrite allocated param =>
      { s with prepareWriteEnv := (prepareWriteEventEnv allocated param s.prepareWriteEnv).1 }
  | .execWrite exec => execWriteEventEnv handles exec s

end Handlers

/-- `ble_set_runtime_ready`, called from the unit task. -/
def bleSetRuntimeReady (ready : Bool) (s : BleState) : BleState :=
  { s with
    runtimeReady := ready
    wifi := bleSetProvStatus (if ready then .runtimeReady else .booting) s.wifi }

/-! ## Runs -/

inductive BleEvent
  | gatts (event : GattsEvent)
  /-- The provisioning timer expires, if it is running. -/
  | provTimeout
  | setRuntimeReady (ready : Bool)
  /-- `mqtt_task` -/
  | task (inp : TaskInput)
  | gotIp
  | staDisconnected

/-- The effect of an event. -/
def bleStep (handles : HandleTable) (e : BleEvent) (s : BleState) : BleState :=
  match e with
  | .gatts event => gattsProfileEventHandler handles event s
  | .provTimeout =>
      if s.wifi.provTimer then { s with wifi := bleProvTimeoutCallback s.wifi } else s
  | .setRuntimeReady ready => bleSetRuntimeReady ready s
  | .task inp => { s with wifi := (mqttTaskStep inp s.wifi).1 }
  | .gotIp => { s with wifi := onGotIp s.wifi }
  | .staDisconnected => { s with wifi := onWifiDisconnect s.wifi }

end Ble
end AvensysEsp32
