import AvensysEsp32.Foundation.Machine
import AvensysEsp32.Foundation.CString
import AvensysEsp32.Foundation.Clock

/-!
# Wi-Fi credentials from BLE

The three characteristics of the provisioning service, the packets that collect
what is written to them, and the queue of requests to the Wi-Fi manager.  The
requests are made from `WIFI_SSID` and `WIFI_PASSWORD`, which the manager also
writes.  The two arrays are taken as the strings they hold.
-/

namespace AvensysEsp32
namespace Wifi

open Foundation

/-- `MAX_SSID_LENGTH` -/
@[simp] abbrev maxSsidLength : Nat := 32

/-- `MAX_PASSWORD_LENGTH` -/
@[simp] abbrev maxPasswordLength : Nat := 64

/-- `WIFI_REQ_QUEUE_LEN` -/
@[simp] abbrev wifiReqQueueLen : Nat := 8

/-! ## Packets -/

/-- `ble_packet_t`; `data` is `none` for the null pointer. -/
structure BlePacket where
  data : Option (List UInt8)
deriving DecidableEq, Repr

namespace BlePacket

/-- `{0}`, and what `ble_packet_reset` leaves. -/
def reset : BlePacket := ⟨none⟩

/-- The field `len`. -/
def len (packet : BlePacket) : Nat :=
  (packet.data.getD []).length

/-- The bytes of the packet up to the first NUL. -/
def string (packet : BlePacket) : List UInt8 :=
  cString (packet.data.getD [])

/-- `ble_packet_append`; `allocated` is whether the memory is provided.  The
first data of a packet is not compared with `maxLen`. -/
def append (packet : BlePacket) (data : List UInt8) (maxLen : Nat) (allocated : Bool) :
    BlePacket × Bool :=
  match packet.data with
  | none => if allocated then (⟨some data⟩, true) else (packet, false)
  | some old =>
      if maxLen < old.length + data.length then (reset, false)
      else if allocated then (⟨some (old ++ data)⟩, true)
      else (reset, false)

/-- `ble_packet_copy_to_string`: the string that `out` holds afterwards. -/
def copyToString (packet : BlePacket) (outSize : Nat) : List UInt8 :=
  match packet.data with
  | none => []
  | some data => cString (data.take (outSize - 1))

end BlePacket

/-! ## Requests -/

/-- The texts of the field `source`. -/
inductive Source
  | boot
  | bleAuto
  | ble
deriving DecidableEq, Repr

/-- `wifi_request_t`; the arrays are taken as strings. -/
structure WifiRequest where
  ssid : List UInt8
  password : List UInt8
  persistToNvs : Bool
  requestId : UInt32
  enqueueTick : UInt32
  source : Source
deriving DecidableEq, Repr

/-- `prov_state_t`; the last two are set from the unit task. -/
inductive ProvState
  | idle
  | waitSsid
  | waitPassword
  | ready
  | applying
  | done
  | error
  | booting
  | runtimeReady
deriving DecidableEq, Repr

/-- `wifi_manager_state_t` -/
inductive WifiManagerState
  | idle
  | applying
  | connected
  | failed
deriving DecidableEq, Repr

/-- Where `mqtt_task` is: before its boot request, at the queue, or in
`apply_wifi_request`. -/
inductive TaskPhase
  | starting
  | receiving
  | cooling (request : WifiRequest)
  | applying (request : WifiRequest)
  | connecting (request : WifiRequest) (retry : Nat)
  | awaitingIp (request : WifiRequest) (retry : Nat)
deriving DecidableEq, Repr

/-- The arguments of `wifi_connect`. -/
structure Credentials where
  ssid : List UInt8
  password : List UInt8
deriving DecidableEq, Repr

/-- The fields `sta.ssid` and `sta.password` of `wifi_config_t`. -/
structure WifiConfig where
  ssid : List UInt8
  password : List UInt8
deriving DecidableEq, Repr

/-- A request as it is put in the queue, beside the packets at that time. -/
structure Enqueued where
  request : WifiRequest
  ssidPacket : BlePacket
  passwordPacket : BlePacket
deriving DecidableEq, Repr

structure WifiState where
  /-- `ssid_packet` -/
  ssidPacket : BlePacket
  /-- `password_packet` -/
  passwordPacket : BlePacket
  /-- `s_prov_state` -/
  provState : ProvState
  /-- Whether `s_prov_timer` is running. -/
  provTimer : Bool
  /-- `WIFI_SSID` -/
  wifiSsid : List UInt8
  /-- `WIFI_PASSWORD` -/
  wifiPassword : List UInt8
  /-- `s_wifi_req_queue` -/
  wifiReqQueue : Option (List WifiRequest)
  /-- `s_wifi_request_counter` -/
  wifiRequestCounter : UInt32
  /-- `s_wifi_manager_state` -/
  wifiManagerState : WifiManagerState
  /-- `s_last_apply_tick` -/
  lastApplyTick : UInt32
  /-- `Wifi_Connected_Flag` -/
  wifiConnectedFlag : Bool
  /-- `GOT_IPV4_BIT` of `s_connect_event_group`, if the group exists. -/
  connectEventGroup : Option Bool
  /-- The arguments of the `wifi_connect` that started the station, while it is
  started. -/
  station : Option Credentials
  /-- The NVS key `wifi_ssid` -/
  nvsSsid : Option (List UInt8)
  /-- The NVS key `wifi_pass` -/
  nvsPass : Option (List UInt8)
  phase : TaskPhase
  /-- What `esp_wifi_set_config` has been given, in order. -/
  configs : List WifiConfig
  /-- What has been put in the queue, in order. -/
  enqueued : List Enqueued

/-! ## The queue -/

/-- `xQueueSend` without waiting. -/
def xQueueSend (queue : List WifiRequest) (request : WifiRequest) : Option (List WifiRequest) :=
  if queue.length < wifiReqQueueLen then some (queue ++ [request]) else none

/-- What a call of `mqtt_enqueue_wifi_credentials` finds: the time, and whether
a queue can be created if there is none. -/
structure EnqueueInput where
  tick : UInt32
  queueCreated : Bool

/-- `mqtt_enqueue_wifi_credentials` -/
def mqttEnqueueWifiCredentials (inp : EnqueueInput) (ssid password : List UInt8)
    (persistToNvs : Bool) (source : Source) (s : WifiState) : WifiState × Bool :=
  let queue? := s.wifiReqQueue <|> if inp.queueCreated then some [] else none
  let s := { s with wifiReqQueue := queue? }
  match queue? with
  | none => (s, false)
  | some queue =>
      if ssid = [] then (s, false)
      else
        let request :=
          { ssid := strlcpy ssid (maxSsidLength + 1)
            password := strlcpy password (maxPasswordLength + 1)
            persistToNvs := persistToNvs
            requestId := s.wifiRequestCounter + 1
            enqueueTick := inp.tick
            source := source }
        let s := { s with wifiRequestCounter := s.wifiRequestCounter + 1 }
        -- A full queue loses its oldest request.
        match xQueueSend queue request <|> xQueueSend queue.tail request with
        | none => ({ s with wifiReqQueue := some queue.tail }, false)
        | some queue =>
            ({ s with
                wifiReqQueue := some queue
                enqueued := s.enqueued ++ [⟨request, s.ssidPacket, s.passwordPacket⟩] },
              true)

/-! ## The write handler -/

/-- `ble_set_prov_status` -/
def bleSetProvStatus (status : ProvState) (s : WifiState) : WifiState :=
  { s with
    provState := status
    provTimer := decide (status = .waitSsid ∨ status = .waitPassword ∨ status = .ready) }

/-- `ble_prov_timeout_callback` -/
def bleProvTimeoutCallback (s : WifiState) : WifiState :=
  bleSetProvStatus .error
    { s with ssidPacket := .reset, passwordPacket := .reset, provTimer := false }

/-- `ble_prov_reset` -/
def bleProvReset (s : WifiState) : WifiState :=
  bleSetProvStatus .waitSsid { s with ssidPacket := .reset, passwordPacket := .reset }

/-- A write to one of the provisioning characteristics. -/
inductive BleWrite
  | wifiSsid (value : List UInt8) (allocated : Bool)
  | wifiPassword (value : List UInt8) (allocated : Bool)
  | connectToCloud

/-- `handle_write_event`, the part for `WIFI_SSID` -/
def writeWifiSsid (inp : EnqueueInput) (value : List UInt8) (allocated : Bool) (s : WifiState) :
    WifiState :=
  let (packet, appended) := s.ssidPacket.append value maxSsidLength allocated
  let s := { s with ssidPacket := packet }
  if appended then
    let s := { s with wifiSsid := packet.copyToString (maxSsidLength + 1) }
    if 0 < s.passwordPacket.len then
      let s := bleSetProvStatus .ready s
      (mqttEnqueueWifiCredentials inp s.wifiSsid s.wifiPassword true .bleAuto s).1
    else bleSetProvStatus .waitPassword s
  else bleSetProvStatus .error s

/-- `handle_write_event`, the part for `WIFI_PASSWORD` -/
def writeWifiPassword (inp : EnqueueInput) (value : List UInt8) (allocated : Bool)
    (s : WifiState) : WifiState :=
  let (packet, appended) := s.passwordPacket.append value maxPasswordLength allocated
  let s := { s with passwordPacket := packet }
  if appended then
    let s := { s with wifiPassword := packet.copyToString (maxPasswordLength + 1) }
    if s.ssidPacket.len = 0 then bleSetProvStatus .waitSsid s
    else
      let s := bleSetProvStatus .ready s
      (mqttEnqueueWifiCredentials inp s.wifiSsid s.wifiPassword true .bleAuto s).1
  else bleSetProvStatus .error s

/-- `handle_write_event`, the part for `CONNECT_TO_CLOUD` -/
def writeConnectToCloud (inp : EnqueueInput) (s : WifiState) : WifiState :=
  if s.ssidPacket.len = 0 ∨ s.passwordPacket.len = 0 then bleSetProvStatus .error s
  else
    let s := bleSetProvStatus .applying s
    let (s, queued) := mqttEnqueueWifiCredentials inp s.wifiSsid s.wifiPassword true .ble s
    if queued then
      { bleSetProvStatus .done s with ssidPacket := .reset, passwordPacket := .reset }
    else bleSetProvStatus .error s

/-- `handle_write_event` -/
def handleWriteEvent (inp : EnqueueInput) (write : BleWrite) (s : WifiState) : WifiState :=
  let s := { s with provTimer := true }
  match write with
  | .wifiSsid value allocated => writeWifiSsid inp value allocated s
  | .wifiPassword value allocated => writeWifiPassword inp value allocated s
  | .connectToCloud => writeConnectToCloud inp s

end Wifi
end AvensysEsp32
