import AvensysEsp32.Foundation.Machine
import AvensysEsp32.Foundation.Clock
import AvensysEsp32.Serial.WbmSerial

/-!
# The state of the unit task

The variables of `unit_comm.c`, and the parts of other tasks it shares: the
flags of the unit update, the firmware file, the MQTT flag.  Everything the
task does outside its own memory is appended to a list of outputs.

The task runs one iteration after another.  The clock moves on during an
iteration, so each call of `Millis()` in it has a reading of its own: the
inputs of an iteration give the tick count at each call site, numbered in the
order of the source.
-/

namespace AvensysEsp32
namespace UnitComm

open Foundation Serial

/-! ## Enumerations -/

/-- `_WBM_Com_State` -/
inductive WbmComState
  | wbmInitialize
  | wbmCommunicating
  | wbmConnected
  | wbmError
deriving DecidableEq, Repr

/-- `CLKTSConnectState` -/
inductive ConnectState
  | init
  | linkConnecting
  | trySerialLink
  | linkConnected
  | readEepromInfo
  | readEepromConfiguration
  | readEepromSettingPar
  | readEepromSetTemp
  | readEepromDayProg
  | readEepromHwSetting
  | pollingBase
  | connected
  | bootloaderState
  | bootloaderState1
  | bootloaderStateEnd
deriving DecidableEq, Repr

/-- `CLKTSRunningMode`, the modes the unit task sets. -/
inductive RunningMode
  | initializing
  | powerOff
  | running
deriving DecidableEq, Repr

/-- The characteristics whose value the unit task sets. -/
inductive BleAttribute
  | polling
  | debugData
  | eepromData
deriving DecidableEq, Repr

/-- What `address` points to: its initial text, or the mirror's serial string. -/
inductive DeviceAddress
  | default
  | serialString
deriving DecidableEq, Repr

/-! ## Data received from the unit -/

/-- `CLKTSData`; temperatures are kept in tenths of a degree, as received. -/
structure ClktsData where
  measureTemp : Fin 4 → Int
  measureCo2Max : Nat
  measureRhMax : Nat
  measureVocMax : Nat
  measureTempAwp : Int
  statusUnit : Nat
  statusWeekly : UInt8
  events : Memory
  /-- `CntUpdate_info`, `CntUpdate_SettingPar`, `CntUpdate_SetTemp`, `CntUpdate_dayProg` -/
  cntUpdate : CountedSection → UInt8
  inputMeasure1 : UInt8
  inputMeasure2 : UInt8
  increaseSpeedRhCo2 : UInt8

/-- `CLKTSDebugData` -/
structure ClktsDebugData where
  preHeaterStatus : UInt8
  heaterStatus : UInt8
  coolerStatus : UInt8
  dscStatus : UInt8
  measuresPressureCaps : Nat
  measuresPressureCapr : Nat
  measureAirflowCaps : Nat
  measureAirflowCapr : Nat
  capsLinkLevel : UInt8
  caprLinkLevel : UInt8
  capsStatus : UInt8
  caprStatus : UInt8

/-- `CLKTSGlobal`, the fields the unit task uses; timers are `Millis()` readings. -/
structure ClktsGlobal where
  inAlarm : Bool
  filterInAlarm : Bool
  runningMode : RunningMode
  pollingBaseTimer : UInt32
  pollingDebugDataTimer : UInt32
  lastReceivedPollingBaseTimer : UInt32

/-- The shadow counters `s_ext_cnt_*`. -/
structure ExternalCounters where
  /-- `s_ext_cnt_initialized` -/
  initialized : Bool
  /-- `s_ext_cnt_info`, `s_ext_cnt_setting`, `s_ext_cnt_settemp`, `s_ext_cnt_weekly` -/
  cnt : CountedSection → UInt8

/-- The variables of the firmware transfer to the unit's bootloader. -/
structure Transfer where
  /-- `f`: the read position of the open file -/
  f : Option Nat
  /-- `Filesize` -/
  filesize : Int
  /-- `File_Start` -/
  fileStart : Memory
  /-- `Bytes_Transfered` -/
  bytesTransfered : Int
  /-- `Send_Buffer` -/
  sendBuffer : Memory
  /-- `Temp_Buffer` -/
  tempBuffer : Memory

/-! ## Outputs -/

inductive Output
  | uartWrite (bytes : List UInt8)
  | uart1Initialize1
  | bleSetRuntimeReady (ready : Bool)
  | setAttrValue (characteristic : BleAttribute) (length : Nat) (value : List UInt8)
  | gpioSetWifiReady (level : Bool)
  | mqttPublish (characteristic : BleAttribute) (address : DeviceAddress) (value : List UInt8)
  | mqttSubscribeAppTopics (address : DeviceAddress)
  | createUnitUpdateTask
deriving DecidableEq, Repr

/-- The messages among the outputs. -/
def uartWrites (outputs : List Output) : List (List UInt8) :=
  outputs.filterMap fun o =>
    match o with
    | .uartWrite bytes => some bytes
    | _ => none

@[simp] theorem uartWrites_append (os os' : List Output) :
    uartWrites (os ++ os') = uartWrites os ++ uartWrites os' :=
  List.filterMap_append

/-! ## State -/

structure UnitState where
  port : SerialPort
  device : DeviceIdentity
  wbmComState : WbmComState
  currentState : ConnectState
  globalTimeoutMilliseconds : UInt32
  foundComLink : Bool
  retriesCounter : Nat
  valRet : Int
  gKTSData : ClktsData
  gKTSDebugData : ClktsDebugData
  gKTSGlobal : ClktsGlobal
  gRDEeprom : Memory
  readEepromRequestIndex : BitVec 16
  eepromDataReceived : Bool
  extCnt : ExternalCounters
  address : DeviceAddress
  isMqttReady : Bool
  transfer : Transfer
  /-- `/spiffs/firmware.bin` -/
  firmwareBin : Option (List UInt8)
  unitPartitionState : Bool
  unitUpdateTaskFlag : Bool
  bootloaderStateFlag : Bool
  unitUpdateCounter : UInt32
  /-- What the task has done so far, in order. -/
  outputs : List Output

/-- A client's image, as it arrives in a BLE or MQTT write. -/
structure ClientWrite where
  /-- The write came over BLE. -/
  overBle : Bool
  payload : List UInt8

/-- What an iteration of the task meets from outside. -/
structure IterationInput where
  /-- The tick count at each call of `Millis()`. -/
  ticks : Nat → Nat
  /-- What `txBuffer` holds before it is filled in. -/
  stack : Memory
  /-- The client writes that other tasks carry out while the scheduler's
  request is being transmitted. -/
  duringTx : List ClientWrite
  /-- `fseek` finds the end of the file. -/
  fseekOk : Bool
  /-- Ticks since the last iteration, as `Unit_Update_Counter` counts them. -/
  updateTicks : Nat

/-- `Millis()` at a call site. -/
def IterationInput.millis (inp : IterationInput) (site : Nat) : UInt32 :=
  tickReading (inp.ticks site)

/-- The input of an iteration during which the clock stands still and no client
writes. -/
def IterationInput.still (reading : UInt32) : IterationInput where
  ticks := fun _ => reading.toNat
  stack := fun _ => 0
  duringTx := []
  fseekOk := true
  updateTicks := 0

@[simp] theorem IterationInput.millis_still (reading : UInt32) (site : Nat) :
    (IterationInput.still reading).millis site = reading :=
  tickReading_toNat reading

/-- `PollingBase_PowerOn_Serial_Milliseconds` -/
@[simp] abbrev pollingBasePowerOnSerialMilliseconds : UInt32 := 1000
/-- `PollingBase_PowerOff_Milliseconds` -/
@[simp] abbrev pollingBasePowerOffMilliseconds : UInt32 := 5000
/-- `PollingDebugData_Milliseconds` -/
@[simp] abbrev pollingDebugDataMilliseconds : UInt32 := 4000
/-- `TimeoutMilliseconds` -/
@[simp] abbrev timeoutMilliseconds : UInt32 := 15000

/-- `Millis() - timer >= limit || Millis() < timer`, the two readings at call
sites `site` and `site + 1`. -/
def expired (inp : IterationInput) (site : Nat) (timer limit : UInt32) : Bool :=
  limit ≤ inp.millis site - timer ∨ inp.millis (site + 1) < timer

/-- A timer restarted at the present reading has not expired. -/
theorem expired_still
    (reading limit : UInt32) (site : Nat)
    (h : limit ≠ 0) :
    expired (IterationInput.still reading) site reading limit = false := by
  have hlimit : ¬ limit ≤ 0 := by
    intro hle
    apply h
    have := UInt32.le_iff_toNat_le.mp hle
    apply UInt32.toNat.inj
    simpa using this
  simp [expired, hlimit]

namespace UnitState

/-- Append an output. -/
def emit (o : Output) (s : UnitState) : UnitState :=
  { s with outputs := s.outputs ++ [o] }

/-- Append the outputs of a sequence of calls. -/
def emitAll (os : List Output) (s : UnitState) : UnitState :=
  { s with outputs := s.outputs ++ os }

/-- The variables as the program starts; the tests of the connection are
the first to give most of them a value. -/
def boot (device : DeviceIdentity) (firmwareBin : Option (List UInt8))
    (unitPartitionState : Bool) (millis : UInt32) : UnitState where
  port := SerialPort.boot
  device := device
  wbmComState := .wbmInitialize
  currentState := .init
  globalTimeoutMilliseconds := 0
  foundComLink := false
  retriesCounter := 0
  valRet := 0
  gKTSData :=
    { measureTemp := fun _ => 0, measureCo2Max := 0, measureRhMax := 0
      measureVocMax := 0, measureTempAwp := 0, statusUnit := 0, statusWeekly := 0
      events := fun _ => 0, cntUpdate := fun _ => 0, inputMeasure1 := 0
      inputMeasure2 := 0, increaseSpeedRhCo2 := 0 }
  gKTSDebugData :=
    { preHeaterStatus := 0, heaterStatus := 0, coolerStatus := 0, dscStatus := 0
      measuresPressureCaps := 0, measuresPressureCapr := 0
      measureAirflowCaps := 0, measureAirflowCapr := 0, capsLinkLevel := 0
      caprLinkLevel := 0, capsStatus := 0, caprStatus := 0 }
  gKTSGlobal :=
    { inAlarm := false, filterInAlarm := false, runningMode := .initializing
      pollingBaseTimer := millis, pollingDebugDataTimer := millis
      lastReceivedPollingBaseTimer := 0 }
  gRDEeprom := fun _ => 0
  readEepromRequestIndex := 0
  eepromDataReceived := false
  extCnt := { initialized := false, cnt := fun _ => 0 }
  address := .default
  isMqttReady := false
  transfer :=
    { f := none, filesize := 0, fileStart := fun _ => 0, bytesTransfered := 0
      sendBuffer := fun _ => 0, tempBuffer := fun _ => 0 }
  firmwareBin := firmwareBin
  unitPartitionState := unitPartitionState
  unitUpdateTaskFlag := false
  bootloaderStateFlag := false
  unitUpdateCounter := 0
  outputs := []

end UnitState

end UnitComm
end AvensysEsp32
