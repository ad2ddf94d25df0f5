import AvensysEsp32.Serial.UnitBoard
import AvensysEsp32.UnitComm.Connected

/-!
# The unit task and its environment

The task alternates with what happens around it: bytes arrive from the unit,
clients write the image, the MQTT connection comes and goes, the update task
runs and changes the stored firmware.  A run of the gateway is a list of these
events.
-/

namespace AvensysEsp32
namespace UnitComm

open Foundation Serial

/-- One iteration of `Unit_event_task`. -/
def unitEventTask (inp : IterationInput) (s : UnitState) : UnitState :=
  match s.wbmComState with
  | .wbmInitialize =>
      { s with
        wbmComState := .wbmCommunicating
        currentState := .init
      }.emitAll [.bleSetRuntimeReady false, .gpioSetWifiReady true]
  | .wbmCommunicating => connectToUnit inp s
  | .wbmConnected => connectedIteration inp s
  | .wbmError =>
      { s with extCnt := { s.extCnt with initialized := false } }.emitAll
        [.bleSetRuntimeReady false, .gpioSetWifiReady false]

inductive Event
  | iterate (inp : IterationInput)
  | uartData (data : List UInt8)
  | clientWrite (w : ClientWrite)
  | mqttReady (ready : Bool)
  | unitUpdateTask (running : Bool)
  | firmwareStored (content : Option (List UInt8))

/-- The effect of an event. -/
def step (e : Event) (s : UnitState) : UnitState :=
  match e with
  | .iterate inp => unitEventTask inp s
  | .uartData data => { s with port := uartEventTask data s.port }
  | .clientWrite w => clientWrite w s
  | .mqttReady ready => { s with isMqttReady := ready }
  | .unitUpdateTask running => { s with unitUpdateTaskFlag := running }
  | .firmwareStored content => { s with firmwareBin := content }

theorem unitEventTask_connected
    (inp : IterationInput) {s : UnitState} (h : s.wbmComState = .wbmConnected) :
    unitEventTask inp s = connectedIteration inp s := by
  simp only [unitEventTask, h]

/-- An iteration that leaves the task unconnected found it so. -/
theorem wbmComState_before
    (inp : IterationInput) {s : UnitState}
    (h : (unitEventTask inp s).wbmComState = .wbmInitialize ∨
      (unitEventTask inp s).wbmComState = .wbmCommunicating) :
    s.wbmComState = .wbmInitialize ∨ s.wbmComState = .wbmCommunicating := by
  cases hwbm : s.wbmComState with
  | wbmInitialize => exact Or.inl rfl
  | wbmCommunicating => exact Or.inr rfl
  | wbmConnected =>
      rw [unitEventTask_connected inp hwbm, connectedIteration_wbmComState] at h
      rcases beforeReceive_wbmComState inp s with hsame | hlost
      · rw [hsame, hwbm] at h
        simp at h
      · rw [hlost] at h
        simp at h
  | wbmError =>
      simp [unitEventTask, hwbm, UnitState.emitAll] at h

/-- The task starts once. -/
theorem unitEventTask_ne_initial
    (inp : IterationInput) (s : UnitState) :
    (unitEventTask inp s).wbmComState ≠ .wbmInitialize := by
  intro h
  rcases wbmComState_before inp (Or.inl h) with hwbm | hwbm
  · simp [unitEventTask, hwbm, UnitState.emitAll] at h
  · have hcomm : s.wbmComState ≠ .wbmInitialize := by
      rw [hwbm]
      decide
    simp only [unitEventTask, hwbm] at h
    exact connectToUnit_ne_initial inp s hcomm h

/-! ## Runs of a fresh gateway -/

/-- A board that has just been started, its clock at zero. -/
def freshBoard : UnitState :=
  UnitState.boot .zeroMac none false 0

/-- An iteration while the clock stands still. -/
def iterateAt (reading : UInt32) : Event :=
  .iterate (.still reading)

/-- A message arrives, is noticed and is read. -/
def exchangeAt (reading : UInt32) (w : List UInt8) : List Event :=
  [.uartData w, iterateAt reading, iterateAt reading]

/-- The shortest polling reply. -/
def shortPollingReply : List UInt8 :=
  frameOf [protoStartMsg0, protoStartMsg1, 4, commandPollingBase]

/-- The events that take a fresh board to the first section of the handshake. -/
def untilReadEepromInfo : List Event :=
  [iterateAt 0, iterateAt 0, iterateAt 0] ++ exchangeAt 0 shortPollingReply ++ [iterateAt 0]

/-- The sections in the order of the handshake. -/
def handshakeSections : List EepromSection :=
  [.info, .configuration, .settingPar, .setTemp, .dayProg, .hwSetting]

/-- The events that connect a fresh board to a unit with the given EEPROM. -/
def untilConnected (eeprom : Memory) : List Event :=
  untilReadEepromInfo ++
    (handshakeSections.flatMap fun sec =>
      exchangeAt 0 (readEepromReply eeprom (UInt8.ofNat sec.startAddress)
        (UInt8.ofNat sec.count))) ++
    exchangeAt 0 (pollingBaseReply eeprom .zero) ++ [iterateAt 0]

end UnitComm
end AvensysEsp32
