import AvensysEsp32.Foundation.CString
import Mathlib.Data.UInt

/-!
# MQTT endpoints

An endpoint is where the broker is and whom the client says it is.  It comes
from the discovery service, from NVS, or from the constants of the program.
The strings are what stands in the arrays of `MqttEndpoint` before the first
NUL.
-/

namespace AvensysEsp32
namespace Mqtt

/-- `MqttEndpoint` -/
structure MqttEndpoint where
  host : List UInt8
  port : UInt16
  tls : Bool
  username : List UInt8
  password : List UInt8
deriving DecidableEq, Repr

/-- The endpoint that `memset` leaves. -/
def MqttEndpoint.zero : MqttEndpoint where
  host := []
  port := 0
  tls := false
  username := []
  password := []

/-- `sizeof(MqttEndpoint.host)` -/
@[simp] abbrev hostSize : Nat := 128

/-- `sizeof` of the username and of the password -/
@[simp] abbrev credentialSize : Nat := 64

/-- `MQTT_DEFAULT_HOST`,
`"3d89c9f5ced049bdae273a2e53b3441b.s1.eu.hivemq.cloud"` -/
def mqttDefaultHost : List UInt8 :=
  [51, 100, 56, 57, 99, 57, 102, 53, 99, 101, 100, 48, 52, 57, 98, 100, 97, 101, 50, 55, 51,
    97, 50, 101, 53, 51, 98, 51, 52, 52, 49, 98, 46, 115, 49, 46, 101, 117, 46, 104, 105, 118,
    101, 109, 113, 46, 99, 108, 111, 117, 100]

/-- `mqtt_endpoint_apply_default` -/
def mqttEndpointDefault : MqttEndpoint where
  host := mqttDefaultHost
  port := 8883
  tls := true
  username := []
  password := []

/-- `mqtt_endpoint_is_valid` -/
def mqttEndpointIsValid (endpoint : MqttEndpoint) : Bool :=
  endpoint.host ≠ [] && endpoint.port ≠ 0

/-- `mqtt_endpoint_equals` -/
def mqttEndpointEquals (a b : MqttEndpoint) : Bool :=
  a.port = b.port && a.tls = b.tls && a.host = b.host && a.username = b.username &&
    a.password = b.password

/-- What `FetchMqttEndpointFromHttps` may return. -/
abbrev ValidEndpoint := { endpoint : MqttEndpoint // mqttEndpointIsValid endpoint = true }

theorem mqttEndpointEquals_iff (a b : MqttEndpoint) :
    mqttEndpointEquals a b = true ↔ a = b := by
  cases a
  cases b
  simp only [mqttEndpointEquals, Bool.and_eq_true, decide_eq_true_eq, MqttEndpoint.mk.injEq]
  tauto

theorem mqttEndpointDefault_isValid :
    mqttEndpointIsValid mqttEndpointDefault = true := by
  decide

/-! ## NVS -/

/-- The keys an endpoint is stored under, `MQTT_ENDPOINT_NVS_VER_KEY` first. -/
inductive EndpointKey
  | ver
  | valid
  | host
  | port
  | tls
  | user
  | pass
deriving DecidableEq, Repr

/-- What NVS holds under them. -/
structure EndpointNvs where
  ver : Option UInt8
  valid : Option UInt8
  host : Option (List UInt8)
  port : Option UInt16
  tls : Option UInt8
  user : Option (List UInt8)
  pass : Option (List UInt8)
deriving DecidableEq, Repr

/-- The store of a device that has never saved an endpoint. -/
def EndpointNvs.empty : EndpointNvs where
  ver := none
  valid := none
  host := none
  port := none
  tls := none
  user := none
  pass := none

/-- How the calls of a load end: whether NVS opens, and which reads fail with
an error other than `ESP_ERR_NVS_NOT_FOUND`. -/
structure NvsReads where
  opened : Bool
  fails : EndpointKey → Bool

/-- How the calls of a save end. -/
structure NvsWrites where
  opened : Bool
  fails : EndpointKey → Bool
  commits : Bool

/-- `MQTT_ENDPOINT_NVS_VERSION` -/
@[simp] abbrev mqttEndpointNvsVersion : UInt8 := 1

inductive NvsError
  | notFound
  | other
deriving DecidableEq, Repr

/-- `nvs_get_u8` and `nvs_get_u16` -/
def nvsGet {α : Type} (reads : NvsReads) (key : EndpointKey) (stored : Option α) :
    Except NvsError α :=
  if reads.fails key then .error .other
  else
    match stored with
    | none => .error .notFound
    | some value => .ok value

/-- `nvs_get_str` to an array of `size` bytes -/
def nvsGetStr (reads : NvsReads) (key : EndpointKey) (stored : Option (List UInt8))
    (size : Nat) : Except NvsError (List UInt8) :=
  (nvsGet reads key stored).bind fun string =>
    if string.length + 1 ≤ size then .ok string else .error .other

/-- A credential that is not stored is empty. -/
def nvsGetCredential (reads : NvsReads) (key : EndpointKey) (stored : Option (List UInt8)) :
    Option (List UInt8) :=
  match nvsGetStr reads key stored credentialSize with
  | .ok string => some string
  | .error .notFound => some []
  | .error .other => none

/-- The reads of `LoadMqttEndpointFromNvs`, in their order. -/
def readMqttEndpoint (reads : NvsReads) (nvs : EndpointNvs) : Option MqttEndpoint := do
  let version ← (nvsGet reads .ver nvs.ver).toOption
  guard (version = mqttEndpointNvsVersion)
  let valid ← (nvsGet reads .valid nvs.valid).toOption
  guard (valid = 1)
  let host ← (nvsGetStr reads .host nvs.host hostSize).toOption
  let port ← (nvsGet reads .port nvs.port).toOption
  let tlsValue ← (nvsGet reads .tls nvs.tls).toOption
  let username ← nvsGetCredential reads .user nvs.user
  let password ← nvsGetCredential reads .pass nvs.pass
  return ⟨host, port, decide (tlsValue = 1), username, password⟩

/-- `LoadMqttEndpointFromNvs`: the endpoint `*out` is set to, if the result is
`true`. -/
def loadMqttEndpointFromNvs (reads : NvsReads) (nvs : EndpointNvs) : Option MqttEndpoint :=
  if reads.opened then (readMqttEndpoint reads nvs).filter mqttEndpointIsValid else none

/-- `if (err == ESP_OK) err = nvs_set_…`: a write is made while none has failed. -/
def nvsSet (writes : NvsWrites) (key : EndpointKey) (set : EndpointNvs → EndpointNvs) :
    EndpointNvs × Bool → EndpointNvs × Bool
  | (nvs, true) => if writes.fails key then (nvs, false) else (set nvs, true)
  | (nvs, false) => (nvs, false)

/-- The writes of `SaveMqttEndpointToNvs`, in their order. -/
def endpointWrites (writes : NvsWrites) (endpoint : MqttEndpoint) (nvs : EndpointNvs) :
    EndpointNvs × Bool :=
  nvsSet writes .pass (fun nvs => { nvs with pass := some endpoint.password })
    (nvsSet writes .user (fun nvs => { nvs with user := some endpoint.username })
      (nvsSet writes .tls (fun nvs => { nvs with tls := some (if endpoint.tls then 1 else 0) })
        (nvsSet writes .port (fun nvs => { nvs with port := some endpoint.port })
          (nvsSet writes .host (fun nvs => { nvs with host := some endpoint.host })
            (nvsSet writes .valid (fun nvs => { nvs with valid := some 1 })
              (nvsSet writes .ver (fun nvs => { nvs with ver := some mqttEndpointNvsVersion })
                (nvs, true)))))))

/-- `SaveMqttEndpointToNvs`: what NVS holds afterwards, and the result. -/
def saveMqttEndpointToNvs (writes : NvsWrites) (endpoint : MqttEndpoint) (nvs : EndpointNvs) :
    EndpointNvs × Bool :=
  if mqttEndpointIsValid endpoint && writes.opened then
    let (nvs, ok) := endpointWrites writes endpoint nvs
    (nvs, ok && writes.commits)
  else (nvs, false)

/-- Calls of which none fails. -/
def NvsReads.ok : NvsReads where
  opened := true
  fails := fun _ => false

def NvsWrites.ok : NvsWrites where
  opened := true
  fails := fun _ => false
  commits := true

/-- What is loaded from NVS is valid. -/
theorem loadMqttEndpointFromNvs_isValid
    {reads : NvsReads} {nvs : EndpointNvs} {endpoint : MqttEndpoint}
    (h : loadMqttEndpointFromNvs reads nvs = some endpoint) :
    mqttEndpointIsValid endpoint = true := by
  unfold loadMqttEndpointFromNvs at h
  split at h
  · exact (Option.filter_eq_some_iff.1 h).2
  · cases h

end Mqtt
end AvensysEsp32
