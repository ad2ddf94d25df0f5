import AvensysEsp32.Wifi.Provisioning

/-!
# The Wi-Fi manager

`mqtt_task` takes requests from the queue and applies the latest, while the BLE
handler and the events of the driver go on.  A step of the task is what it does
between two such events: `apply_wifi_request` is cut where it waits, and where
it reads what the BLE handler may have written since.
-/

namespace AvensysEsp32
namespace Wifi

open Foundation

/-- `WIFI_MAX_RETRY` -/
@[simp] abbrev wifiMaxRetry : Nat := 3

/-- `WIFI_APPLY_COOLDOWN_MS`, in ticks of a millisecond -/
@[simp] abbrev wifiApplyCooldown : UInt32 := 800

/-! ## NVS -/

/-- How a write to NVS ends. -/
inductive NvsResult
  | failed
  | uncommitted
  | committed
deriving DecidableEq, Repr

/-- `nvs_write_string`: what the key holds afterwards, and whether the result is
`ESP_OK`. -/
def nvsWriteString (result : NvsResult) (value : List UInt8) (stored : Option (List UInt8)) :
    Option (List UInt8) × Bool :=
  match result with
  | .failed => (stored, false)
  | .uncommitted => (some value, false)
  | .committed => (some value, true)

/-- `nvs_read_string`: what `value` holds afterwards.  A string that does not
fit is not read, though the result is `ESP_OK`. -/
def nvsReadString (opened : Bool) (stored : Option (List UInt8)) (value : List UInt8)
    (maxLen : Nat) : List UInt8 :=
  match opened, stored with
  | true, some string => if string.length + 1 ≤ maxLen then string else value
  | _, _ => value

/-- `read_wifi_credentials_from_nvs` -/
def readWifiCredentialsFromNvs (opened : Bool) (s : WifiState) : WifiState :=
  { s with
    wifiSsid := nvsReadString opened s.nvsSsid s.wifiSsid (maxSsidLength + 1)
    wifiPassword := nvsReadString opened s.nvsPass s.wifiPassword (maxPasswordLength + 1) }

/-- The initial value of `WIFI_SSID`, `"FASTWEB-DA0E83"` -/
def defaultSsid : List UInt8 :=
  [70, 65, 83, 84, 87, 69, 66, 45, 68, 65, 48, 69, 56, 51]

/-- The initial value of `WIFI_PASSWORD`, `"TGRRFEZGZR"` -/
def defaultPassword : List UInt8 :=
  [84, 71, 82, 82, 70, 69, 90, 71, 90, 82]

/-- The variables as the program starts. -/
def WifiState.initial (nvsSsid nvsPass : Option (List UInt8)) : WifiState where
  ssidPacket := ⟨none⟩
  passwordPacket := ⟨none⟩
  provState := .idle
  provTimer := false
  wifiSsid := defaultSsid
  wifiPassword := defaultPassword
  wifiReqQueue := none
  wifiRequestCounter := 0
  wifiManagerState := .idle
  lastApplyTick := 0
  wifiConnectedFlag := false
  connectEventGroup := none
  station := none
  nvsSsid := nvsSsid
  nvsPass := nvsPass
  phase := .starting
  configs := []
  enqueued := []

/-- The state in which the tasks and the BLE stack are started. -/
def WifiState.boot (opened : Bool) (nvsSsid nvsPass : Option (List UInt8)) : WifiState :=
  readWifiCredentialsFromNvs opened (.initial nvsSsid nvsPass)

/-! ## The station -/

/-- `strlcpy` to an array that has been set to zero. -/
def strlcpyZeroed (src : List UInt8) (size : Nat) : List UInt8 :=
  strlcpy src size ++ List.replicate (size - (strlcpy src size).length) 0

/-- The `wifi_config` of `start`. -/
def wifiConfigOf (ssid passwd : List UInt8) : WifiConfig where
  ssid := strlcpyZeroed ssid 32
  password := strlcpyZeroed passwd 64

/-- How `start` ends: in an error before its event handlers are registered, in
an error that leads to `stop`, before or after `esp_wifi_set_config` is called,
or with the station started. -/
inductive StartResult
  | unattached
  | stopped (configGiven : Bool)
  | started
deriving DecidableEq, Repr

/-- `stop` -/
def stop (s : WifiState) : WifiState :=
  { s with station := none, wifiConnectedFlag := false }

/-- `wifi_connect` until it waits; the result is whether it does. -/
def wifiConnect (groupCreated : Bool) (result : StartResult) (ssid passwd : List UInt8)
    (s : WifiState) : WifiState × Bool :=
  match s.connectEventGroup with
  | some _ => (s, false)
  | none =>
      if groupCreated then
        match result with
        | .unattached => (s, false)
        | .stopped false => (stop s, false)
        | .stopped true =>
            (stop { s with configs := s.configs ++ [wifiConfigOf ssid passwd] }, false)
        | .started =>
            ({ s with
                connectEventGroup := some false
                station := some ⟨ssid, passwd⟩
                configs := s.configs ++ [wifiConfigOf ssid passwd] },
              true)
      else (s, false)

/-- `wifi_disconnect` -/
def wifiDisconnect (s : WifiState) : WifiState :=
  match s.connectEventGroup with
  | none => s
  | some _ => stop { s with connectEventGroup := none }

/-- `on_got_ip`, registered while the station is started -/
def onGotIp (s : WifiState) : WifiState :=
  match s.station with
  | none => s
  | some _ =>
      { s with
        connectEventGroup := s.connectEventGroup.map fun _ => true
        wifiConnectedFlag := true }

/-- `on_wifi_disconnect`, registered while the station is started; the driver
connects again by itself. -/
def onWifiDisconnect (s : WifiState) : WifiState :=
  match s.station with
  | none => s
  | some _ => { s with wifiConnectedFlag := false }

/-! ## The task -/

/-- What a step of the task finds. -/
structure TaskInput where
  tick : UInt32
  queueCreated : Bool
  nvsSsid : NvsResult
  nvsPass : NvsResult
  groupCreated : Bool
  start : StartResult
  timedOut : Bool

/-- A return of `apply_wifi_request`; `ok` is whether the result is `ESP_OK`. -/
structure Returned where
  request : WifiRequest
  ok : Bool
deriving DecidableEq, Repr

section Apply

variable (inp : TaskInput) (request : WifiRequest) (s : WifiState)

/-- The beginning of `apply_wifi_request`: a request with the credentials of
the two arrays is skipped while Wi-Fi is connected. -/
def beginApply : WifiState × Option Returned :=
  if s.wifiConnectedFlag = true ∧ s.wifiSsid = request.ssid ∧ s.wifiPassword = request.password then
    ({ s with wifiManagerState := .connected, phase := .receiving }, some ⟨request, true⟩)
  else if inp.tick - s.lastApplyTick < wifiApplyCooldown then
    ({ s with phase := .cooling request }, none)
  else ({ s with phase := .applying request }, none)

/-- `WIFI_SSID` and `WIFI_PASSWORD` take the credentials of the request. -/
def storeCredentials : WifiState × Option Returned :=
  (wifiDisconnect
    { s with
      wifiSsid := strlcpy request.ssid (maxSsidLength + 1)
      wifiPassword := strlcpy request.password (maxPasswordLength + 1)
      wifiManagerState := .applying
      phase := .connecting request 0 },
    none)

/-- `apply_wifi_request` after the cooldown, until its first attempt. -/
def persistAndStore : WifiState × Option Returned :=
  if request.persistToNvs then
    let (nvsSsid, ok) := nvsWriteString inp.nvsSsid request.ssid s.nvsSsid
    let s := { s with nvsSsid := nvsSsid }
    if ok then
      let (nvsPass, ok) := nvsWriteString inp.nvsPass request.password s.nvsPass
      let s := { s with nvsPass := nvsPass }
      if ok then storeCredentials request s
      else ({ s with phase := .receiving }, some ⟨request, false⟩)
    else ({ s with phase := .receiving }, some ⟨request, false⟩)
  else storeCredentials request s

/-- An attempt has failed: the next one follows, or the error is returned. -/
def attemptFailed (retry : Nat) : WifiState × Option Returned :=
  let s := { s with wifiManagerState := .failed }
  if retry + 1 < wifiMaxRetry then
    ({ s with phase := .connecting request (retry + 1) }, none)
  else ({ s with phase := .receiving }, some ⟨request, false⟩)

/-- An attempt is made with what the two arrays hold now. -/
def attempt (retry : Nat) : WifiState × Option Returned :=
  let (s, waits) := wifiConnect inp.groupCreated inp.start s.wifiSsid s.wifiPassword s
  if waits then ({ s with phase := .awaitingIp request retry }, none)
  else attemptFailed request s retry

/-- `wifi_connect` waits for the address. -/
def awaitIp (retry : Nat) : WifiState × Option Returned :=
  if s.connectEventGroup = some true then
    ({ s with
        connectEventGroup := some false
        wifiManagerState := .connected
        lastApplyTick := inp.tick
        phase := .receiving },
      some ⟨request, true⟩)
  else if inp.timedOut then
    attemptFailed request { stop s with connectEventGroup := none } retry
  else (s, none)

end Apply

/-- One step of `mqtt_task`, and what `apply_wifi_request` returns in it. -/
def mqttTaskStep (inp : TaskInput) (s : WifiState) : WifiState × Option Returned :=
  match s.phase with
  | .starting =>
      let (s, _) := mqttEnqueueWifiCredentials ⟨inp.tick, inp.queueCreated⟩
        s.wifiSsid s.wifiPassword false .boot s
      match s.wifiReqQueue with
      | none => (s, none)
      | some _ => ({ s with phase := .receiving }, none)
  | .receiving =>
      -- All requests are taken from the queue and the latest is applied.
      match s.wifiReqQueue.bind List.getLast? with
      | none => (s, none)
      | some latest => beginApply inp latest { s with wifiReqQueue := some [] }
  | .cooling request => ({ s with phase := .applying request }, none)
  | .applying request => persistAndStore inp request s
  | .connecting request retry => attempt inp request s retry
  | .awaitingIp request retry => awaitIp inp request s retry

/-! ## Runs -/

inductive WifiEvent
  | bleWrite (inp : EnqueueInput) (write : BleWrite)
  | provTimeout
  | bleDisconnected
  | gotIp
  | staDisconnected
  | task (inp : TaskInput)

/-- The effect of an event. -/
def wifiStep (e : WifiEvent) (s : WifiState) : WifiState :=
  match e with
  | .bleWrite inp write => handleWriteEvent inp write s
  | .provTimeout => if s.provTimer then bleProvTimeoutCallback s else s
  | .bleDisconnected => bleProvReset { s with provTimer := false }
  | .gotIp => onGotIp s
  | .staDisconnected => onWifiDisconnect s
  | .task inp => (mqttTaskStep inp s).1

/-- What `apply_wifi_request` returns in an event. -/
def returned (e : WifiEvent) (s : WifiState) : Option Returned :=
  match e with
  | .task inp => (mqttTaskStep inp s).2
  | _ => none

/-- The task at a tick, nothing failing. -/
def taskAt (tick : UInt32) : WifiEvent :=
  .task
    { tick := tick
      queueCreated := true
      nvsSsid := .committed
      nvsPass := .committed
      groupCreated := true
      start := .started
      timedOut := false }

/-! ## What the BLE handler leaves alone -/

/-- Two states agree in all that belongs to the manager, the station and NVS. -/
structure SameManager (s s' : WifiState) : Prop where
  wifiManagerState : s'.wifiManagerState = s.wifiManagerState
  lastApplyTick : s'.lastApplyTick = s.lastApplyTick
  wifiConnectedFlag : s'.wifiConnectedFlag = s.wifiConnectedFlag
  connectEventGroup : s'.connectEventGroup = s.connectEventGroup
  station : s'.station = s.station
  nvsSsid : s'.nvsSsid = s.nvsSsid
  nvsPass : s'.nvsPass = s.nvsPass
  phase : s'.phase = s.phase
  configs : s'.configs = s.configs

theorem SameManager.refl (s : WifiState) :
    SameManager s s := by
  constructor <;> rfl

theorem SameManager.trans
    {s s' s'' : WifiState} (h : SameManager s s') (h' : SameManager s' s'') :
    SameManager s s'' where
  wifiManagerState := h'.wifiManagerState.trans h.wifiManagerState
  lastApplyTick := h'.lastApplyTick.trans h.lastApplyTick
  wifiConnectedFlag := h'.wifiConnectedFlag.trans h.wifiConnectedFlag
  connectEventGroup := h'.connectEventGroup.trans h.connectEventGroup
  station := h'.station.trans h.station
  nvsSsid := h'.nvsSsid.trans h.nvsSsid
  nvsPass := h'.nvsPass.trans h.nvsPass
  phase := h'.phase.trans h.phase
  configs := h'.configs.trans h.configs

theorem sameManager_mqttEnqueue
    (inp : EnqueueInput) (ssid password : List UInt8) (persistToNvs : Bool) (source : Source)
    (s : WifiState) :
    SameManager s (mqttEnqueueWifiCredentials inp ssid password persistToNvs source s).1 := by
  unfold mqttEnqueueWifiCredentials
  dsimp only
  split
  · constructor <;> rfl
  · split
    · constructor <;> rfl
    · split
      · constructor <;> rfl
      · constructor <;> rfl

theorem sameManager_bleSetProvStatus (status : ProvState) (s : WifiState) :
    SameManager s (bleSetProvStatus status s) := by
  constructor <;> rfl

theorem sameManager_writeWifiSsid
    (inp : EnqueueInput) (value : List UInt8) (allocated : Bool) (s : WifiState) :
    SameManager s (writeWifiSsid inp value allocated s) := by
  unfold writeWifiSsid
  dsimp only
  split
  · split
    · refine SameManager.trans ?_ (sameManager_mqttEnqueue inp _ _ true .bleAuto _)
      constructor <;> rfl
    · constructor <;> rfl
  · constructor <;> rfl

theorem sameManager_writeWifiPassword
    (inp : EnqueueInput) (value : List UInt8) (allocated : Bool) (s : WifiState) :
    SameManager s (writeWifiPassword inp value allocated s) := by
  unfold writeWifiPassword
  dsimp only
  split
  · split
    · constructor <;> rfl
    · refine SameManager.trans ?_ (sameManager_mqttEnqueue inp _ _ true .bleAuto _)
      constructor <;> rfl
  · constructor <;> rfl

theorem sameManager_writeConnectToCloud (inp : EnqueueInput) (s : WifiState) :
    SameManager s (writeConnectToCloud inp s) := by
  unfold writeConnectToCloud
  dsimp only
  split
  · exact sameManager_bleSetProvStatus _ s
  · have henqueue := (sameManager_bleSetProvStatus .applying s).trans
      (sameManager_mqttEnqueue inp s.wifiSsid s.wifiPassword true .ble
        (bleSetProvStatus .applying s))
    split
    · exact henqueue.trans (by constructor <;> rfl)
    · exact henqueue.trans (sameManager_bleSetProvStatus _ _)

theorem sameManager_handleWriteEvent
    (inp : EnqueueInput) (write : BleWrite) (s : WifiState) :
    SameManager s (handleWriteEvent inp write s) := by
  have htimer : SameManager s { s with provTimer := true } := by
    constructor <;> rfl
  cases write with
  | wifiSsid value allocated => exact htimer.trans (sameManager_writeWifiSsid inp value allocated _)
  | wifiPassword value allocated =>
      exact htimer.trans (sameManager_writeWifiPassword inp value allocated _)
  | connectToCloud => exact htimer.trans (sameManager_writeConnectToCloud inp _)

/-- The BLE stack and its timer do nothing to the manager. -/
theorem sameManager_wifiStep
    (e : WifiEvent) (s : WifiState)
    (he : ∀ inp, e ≠ .task inp) (hgot : e ≠ .gotIp) (hlost : e ≠ .staDisconnected) :
    SameManager s (wifiStep e s) := by
  cases e with
  | bleWrite inp write => exact sameManager_handleWriteEvent inp write s
  | provTimeout =>
      show SameManager s (if s.provTimer then bleProvTimeoutCallback s else s)
      split
      · constructor <;> rfl
      · exact SameManager.refl s
  | bleDisconnected => constructor <;> rfl
  | gotIp => exact absurd rfl hgot
  | staDisconnected => exact absurd rfl hlost
  | task inp => exact absurd rfl (he inp)

/-- The driver's events change nothing but the event group and the flag. -/
theorem onGotIp_eq (s : WifiState) :
    ∃ group flag,
      onGotIp s = { s with connectEventGroup := group, wifiConnectedFlag := flag } := by
  unfold onGotIp
  split
  · exact ⟨s.connectEventGroup, s.wifiConnectedFlag, rfl⟩
  · exact ⟨s.connectEventGroup.map fun _ => true, true, rfl⟩

theorem onWifiDisconnect_eq (s : WifiState) :
    ∃ group flag,
      onWifiDisconnect s = { s with connectEventGroup := group, wifiConnectedFlag := flag } := by
  unfold onWifiDisconnect
  split
  · exact ⟨s.connectEventGroup, s.wifiConnectedFlag, rfl⟩
  · exact ⟨s.connectEventGroup, false, rfl⟩

/-! ## What the manager leaves alone -/

/-- Two states agree in all that the BLE handler makes its requests from. -/
structure SameClient (s s' : WifiState) : Prop where
  ssidPacket : s'.ssidPacket = s.ssidPacket
  passwordPacket : s'.passwordPacket = s.passwordPacket
  wifiSsid : s'.wifiSsid = s.wifiSsid
  wifiPassword : s'.wifiPassword = s.wifiPassword

theorem SameClient.refl (s : WifiState) :
    SameClient s s := by
  constructor <;> rfl

theorem SameClient.trans
    {s s' s'' : WifiState} (h : SameClient s s') (h' : SameClient s' s'') :
    SameClient s s'' where
  ssidPacket := h'.ssidPacket.trans h.ssidPacket
  passwordPacket := h'.passwordPacket.trans h.passwordPacket
  wifiSsid := h'.wifiSsid.trans h.wifiSsid
  wifiPassword := h'.wifiPassword.trans h.wifiPassword

theorem sameClient_mqttEnqueue
    (inp : EnqueueInput) (ssid password : List UInt8) (persistToNvs : Bool) (source : Source)
    (s : WifiState) :
    SameClient s (mqttEnqueueWifiCredentials inp ssid password persistToNvs source s).1 := by
  unfold mqttEnqueueWifiCredentials
  dsimp only
  split
  · constructor <;> rfl
  · split
    · constructor <;> rfl
    · split
      · constructor <;> rfl
      · constructor <;> rfl

theorem sameClient_wifiDisconnect (s : WifiState) :
    SameClient s (wifiDisconnect s) ∧ (wifiDisconnect s).enqueued = s.enqueued ∧
      (wifiDisconnect s).wifiReqQueue = s.wifiReqQueue ∧
      (wifiDisconnect s).connectEventGroup = none := by
  unfold wifiDisconnect
  split
  · rename_i hgroup
    exact ⟨SameClient.refl s, rfl, rfl, hgroup⟩
  · refine ⟨?_, rfl, rfl, rfl⟩
    constructor <;> rfl

theorem sameClient_wifiConnect
    (groupCreated : Bool) (result : StartResult) (ssid passwd : List UInt8) (s : WifiState) :
    SameClient s (wifiConnect groupCreated result ssid passwd s).1 ∧
      (wifiConnect groupCreated result ssid passwd s).1.enqueued = s.enqueued ∧
      (wifiConnect groupCreated result ssid passwd s).1.wifiReqQueue = s.wifiReqQueue := by
  unfold wifiConnect
  split
  · exact ⟨SameClient.refl s, rfl, rfl⟩
  · split
    · split
      all_goals
        refine ⟨?_, rfl, rfl⟩
        constructor <;> rfl
    · exact ⟨SameClient.refl s, rfl, rfl⟩

/-- An attempt, successful or not, leaves packets, arrays and requests. -/
theorem sameClient_attempt
    (inp : TaskInput) (request : WifiRequest) (s : WifiState) (retry : Nat) :
    SameClient s (attempt inp request s retry).1 ∧
      (attempt inp request s retry).1.enqueued = s.enqueued ∧
      (attempt inp request s retry).1.wifiReqQueue = s.wifiReqQueue := by
  obtain ⟨hsame, henqueued, hqueue⟩ :=
    sameClient_wifiConnect inp.groupCreated inp.start s.wifiSsid s.wifiPassword s
  unfold attempt attemptFailed
  generalize wifiConnect inp.groupCreated inp.start s.wifiSsid s.wifiPassword s = result at *
  obtain ⟨s', waits⟩ := result
  dsimp only
  split
  · exact ⟨hsame.trans ⟨rfl, rfl, rfl, rfl⟩, henqueued, hqueue⟩
  · split
    · exact ⟨hsame.trans ⟨rfl, rfl, rfl, rfl⟩, henqueued, hqueue⟩
    · exact ⟨hsame.trans ⟨rfl, rfl, rfl, rfl⟩, henqueued, hqueue⟩

theorem sameClient_awaitIp
    (inp : TaskInput) (request : WifiRequest) (s : WifiState) (retry : Nat) :
    SameClient s (awaitIp inp request s retry).1 ∧
      (awaitIp inp request s retry).1.enqueued = s.enqueued ∧
      (awaitIp inp request s retry).1.wifiReqQueue = s.wifiReqQueue := by
  unfold awaitIp attemptFailed
  dsimp only
  split
  · exact ⟨⟨rfl, rfl, rfl, rfl⟩, rfl, rfl⟩
  · split
    · split
      · exact ⟨⟨rfl, rfl, rfl, rfl⟩, rfl, rfl⟩
      · exact ⟨⟨rfl, rfl, rfl, rfl⟩, rfl, rfl⟩
    · exact ⟨SameClient.refl s, rfl, rfl⟩

end Wifi
end AvensysEsp32
