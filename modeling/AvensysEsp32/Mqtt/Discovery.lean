import AvensysEsp32.Foundation.Accumulation
import AvensysEsp32.Foundation.Footprint
import AvensysEsp32.Mqtt.Endpoint
import Mathlib.Data.Rat.Cast.Order

/-!
# The discovery of an endpoint

`FetchMqttEndpointFromHttps` asks the discovery service for an endpoint.  The
body of the response is collected in an array of fixed size, with a flag for what
did not fit, and parsed; the members of the object are copied to the fields of an
endpoint.

The parser is a parameter: a function of the memory that `cJSON_Parse` is given.
-/

namespace AvensysEsp32
namespace Mqtt

open Foundation

/-- `MQTT_DISCOVERY_RESPONSE_MAX` -/
@[simp] abbrev mqttDiscoveryResponseMax : Nat := 512

/-! ## The response -/

/-- `discovery_http_ctx_t`, with the memory that `buffer` points to. -/
structure DiscoveryHttpCtx where
  buffer : Memory
  len : Nat
  capacity : Nat
  overflow : Bool

/-- `ctx` as it is before the request; `stack` is what the array happens to
hold. -/
def DiscoveryHttpCtx.initial (stack : Memory) : DiscoveryHttpCtx where
  buffer := store stack 0 [0]
  len := 0
  capacity := mqttDiscoveryResponseMax
  overflow := false

/-- The number of bytes that are copied, `to_copy`. -/
def toCopy (data : List UInt8) (ctx : DiscoveryHttpCtx) : Nat :=
  let remaining := if ctx.capacity > ctx.len then ctx.capacity - ctx.len - 1 else 0
  if data.length < remaining then data.length else remaining

/-- `discovery_http_event_handler`, the part for `HTTP_EVENT_ON_DATA`. -/
def discoveryHttpEventHandler (ctx : DiscoveryHttpCtx) (data : List UInt8) : DiscoveryHttpCtx :=
  if data.length > 0 then
    let copied := toCopy data ctx
    let ctx :=
      if copied > 0 then
        { ctx with
          buffer := appendText ctx.buffer ctx.len (data.take copied)
          len := ctx.len + copied }
      else ctx
    if data.length > copied then { ctx with overflow := true } else ctx
  else ctx

/-- The bytes of the array that the handler stores to: those of the data it
copies and the NUL. -/
def discoveryStores (ctx : DiscoveryHttpCtx) (data : List UInt8) : Set Nat :=
  if data.length > 0 ∧ toCopy data ctx > 0 then block ctx.len (toCopy data ctx + 1) else ∅

/-- The response after its chunks. -/
def discoveryReceived (stack : Memory) (chunks : List (List UInt8)) : DiscoveryHttpCtx :=
  chunks.foldl discoveryHttpEventHandler (.initial stack)

/-- The response holds what fits of the body, and tells whether all of it
does. -/
structure HoldsBody (ctx : DiscoveryHttpCtx) (body : List UInt8) : Prop where
  text : HoldsText ctx.buffer (body.take (ctx.capacity - 1))
  len : ctx.len = min body.length (ctx.capacity - 1)
  overflow : ctx.overflow = true ↔ ctx.capacity - 1 < body.length

section Response

variable {ctx : DiscoveryHttpCtx} {body : List UInt8}

/-- What the handler makes of data. -/
theorem discoveryHttpEventHandler_eq
    {data : List UInt8} (hdata : 0 < data.length) :
    discoveryHttpEventHandler ctx data =
      { buffer :=
          if 0 < toCopy data ctx then
            appendText ctx.buffer ctx.len (data.take (toCopy data ctx))
          else ctx.buffer
        len := ctx.len + toCopy data ctx
        capacity := ctx.capacity
        overflow := ctx.overflow || decide (toCopy data ctx < data.length) } := by
  unfold discoveryHttpEventHandler
  rw [if_pos hdata]
  dsimp only
  by_cases hcopied : 0 < toCopy data ctx
  · rw [if_pos hcopied, if_pos hcopied]
    by_cases hmore : toCopy data ctx < data.length
    · rw [if_pos hmore]
      simp [hmore]
    · rw [if_neg hmore]
      simp [hmore]
  · have hnone : toCopy data ctx = 0 := Nat.eq_zero_of_not_pos hcopied
    rw [if_neg hcopied, if_neg hcopied, hnone, if_pos hdata]
    simp [hdata]

theorem capacity_discoveryHttpEventHandler (data : List UInt8) :
    (discoveryHttpEventHandler ctx data).capacity = ctx.capacity := by
  by_cases hdata : 0 < data.length
  · rw [discoveryHttpEventHandler_eq hdata]
  · exact congrArg DiscoveryHttpCtx.capacity (if_neg hdata)

/-- What is copied of data is what has room behind the body. -/
theorem HoldsBody.toCopy_eq
    (h : HoldsBody ctx body) (hcapacity : 0 < ctx.capacity) (data : List UInt8) :
    toCopy data ctx = min data.length (ctx.capacity - 1 - body.length) := by
  have hlen := h.len
  unfold toCopy
  dsimp only
  split <;> split <;> omega

/-- More data changes the part that is held by what has room. -/
theorem take_append_data (body data : List UInt8) (capacity : Nat) :
    (body ++ data).take (capacity - 1) =
      body.take (capacity - 1) ++
        data.take (min data.length (capacity - 1 - body.length)) := by
  rw [List.take_append, Nat.min_comm, ← List.take_eq_take_min]

/-- The stores of the handler are in the array. -/
theorem HoldsBody.stores
    (h : HoldsBody ctx body) (hcapacity : 0 < ctx.capacity) (data : List UInt8) :
    discoveryStores ctx data ⊆ block 0 ctx.capacity := by
  have hcopied := h.toCopy_eq hcapacity data
  have hlen := h.len
  unfold discoveryStores
  split
  · rename_i hstores
    rw [block_subset_block_iff]
    omega
  · exact Set.empty_subset _

/-- What the handler does not store to stays. -/
theorem discoveryHttpEventHandler_kept
    {data : List UInt8} {i : Nat} (hi : i ∉ discoveryStores ctx data) :
    (discoveryHttpEventHandler ctx data).buffer i = ctx.buffer i := by
  by_cases hdata : 0 < data.length
  · rw [discoveryHttpEventHandler_eq hdata]
    dsimp only
    split
    · rename_i hcopied
      unfold discoveryStores at hi
      rw [if_pos ⟨hdata, hcopied⟩] at hi
      apply appendText_outside
      rw [List.length_take_of_le]
      · exact hi
      · unfold toCopy
        dsimp only
        split <;> split <;> omega
    · rfl
  · exact congrFun (congrArg DiscoveryHttpCtx.buffer (if_neg hdata)) i

/-- The handler adds the data to the body. -/
theorem HoldsBody.handler
    (h : HoldsBody ctx body) (hcapacity : 0 < ctx.capacity) (data : List UInt8) :
    HoldsBody (discoveryHttpEventHandler ctx data) (body ++ data) := by
  have hcopied := h.toCopy_eq hcapacity data
  have hlen := h.len
  have htake := take_append_data body data ctx.capacity
  rw [← hcopied] at htake
  by_cases hdata : 0 < data.length
  · rw [discoveryHttpEventHandler_eq hdata]
    refine ⟨?_, ?_, ?_⟩
    · show HoldsText _ ((body ++ data).take (ctx.capacity - 1))
      rw [htake]
      split
      · have hshown : (body.take (ctx.capacity - 1)).length = ctx.len := by
          rw [List.length_take, hlen, Nat.min_comm]
        rw [← hshown]
        exact HoldsText.append h.text.bytes _
      · rename_i hnone
        rw [Nat.eq_zero_of_not_pos hnone, List.take_zero, List.append_nil]
        exact h.text
    · show ctx.len + toCopy data ctx = min (body ++ data).length (ctx.capacity - 1)
      rw [hcopied, hlen, List.length_append]
      omega
    · show (ctx.overflow || decide (toCopy data ctx < data.length)) = true ↔ _
      rw [Bool.or_eq_true, decide_eq_true_eq, h.overflow, hcopied, List.length_append]
      show _ ↔ ctx.capacity - 1 < body.length + data.length
      omega
  · have hnil : data = [] := List.eq_nil_of_length_eq_zero (Nat.eq_zero_of_not_pos hdata)
    have hsame : discoveryHttpEventHandler ctx data = ctx := if_neg hdata
    rw [hsame, hnil, List.append_nil]
    exact h

/-- Before the request the response holds nothing. -/
theorem holdsBody_initial (stack : Memory) :
    HoldsBody (.initial stack) [] where
  text := ⟨rfl, by simp [DiscoveryHttpCtx.initial, store, memcpy, ofBytes]⟩
  len := rfl
  overflow := by simp [DiscoveryHttpCtx.initial]

/-- After any chunks the response holds their concatenation. -/
theorem holdsBody_discoveryReceived (stack : Memory) (chunks : List (List UInt8)) :
    HoldsBody (discoveryReceived stack chunks) chunks.flatten ∧
      (discoveryReceived stack chunks).capacity = mqttDiscoveryResponseMax := by
  induction chunks using List.reverseRecOn with
  | nil => exact ⟨holdsBody_initial stack, rfl⟩
  | append_singleton chunks data ih =>
      obtain ⟨hholds, hcapacity⟩ := ih
      have hstep : discoveryReceived stack (chunks ++ [data]) =
          discoveryHttpEventHandler (discoveryReceived stack chunks) data := by
        simp [discoveryReceived]
      rw [hstep, capacity_discoveryHttpEventHandler, List.flatten_append,
        List.flatten_singleton]
      exact ⟨hholds.handler (by rw [hcapacity]; decide) data, hcapacity⟩

end Response

/-! ## The object -/

/-- An item as `cJSON_Parse` makes it.  The bytes of a string may contain a NUL,
which ends what its `valuestring` shows; a number is `valuedouble`, and one too
large for a `double` stands for its infinity. -/
inductive CJson
  | null
  | bool (value : Bool)
  | number (value : Rat)
  | string (value : List UInt8)
  | array (items : List CJson)
  | object (members : List (List UInt8 × CJson))

namespace CJson

/-- `cJSON_GetObjectItemCaseSensitive` -/
def getObjectItemCaseSensitive (item : CJson) (name : List UInt8) : Option CJson :=
  match item with
  | .object members => (members.find? fun member => cString member.1 = name).map Prod.snd
  | _ => none

end CJson

/-- `valueint` of a number: without its fraction, and within the range of
`int`. -/
def valueint (value : Rat) : Int :=
  if 2147483647 ≤ value then 2147483647
  else if value ≤ -2147483648 then -2147483648
  else value.num.tdiv value.den

/-- `"host"` -/
def hostKey : List UInt8 := [104, 111, 115, 116]

/-- `"port"` -/
def portKey : List UInt8 := [112, 111, 114, 116]

/-- `"tls"` -/
def tlsKey : List UInt8 := [116, 108, 115]

/-- `"username"` -/
def usernameKey : List UInt8 := [117, 115, 101, 114, 110, 97, 109, 101]

/-- `"password"` -/
def passwordKey : List UInt8 := [112, 97, 115, 115, 119, 111, 114, 100]

/-- A credential after `strlcpy`, if the item is a string; else what `memset`
has left. -/
def parsedCredential (item : Option CJson) : List UInt8 :=
  match item with
  | some (.string text) => strlcpy text credentialSize
  | _ => []

/-- `parsed`, if it is valid. -/
def parsedEndpoint (root : CJson) : Option MqttEndpoint :=
  match root.getObjectItemCaseSensitive hostKey, root.getObjectItemCaseSensitive portKey,
    root.getObjectItemCaseSensitive tlsKey with
  | some (.string host), some (.number port), some (.bool tls) =>
      let parsed : MqttEndpoint :=
        { host := strlcpy host hostSize
          port := UInt16.ofInt (valueint port)
          tls := tls
          username := parsedCredential (root.getObjectItemCaseSensitive usernameKey)
          password := parsedCredential (root.getObjectItemCaseSensitive passwordKey) }
      if mqttEndpointIsValid parsed then some parsed else none
  | _, _, _ => none

/-! ## The request -/

/-- How a request goes. -/
structure FetchInput where
  /-- `http_client != NULL` -/
  client : Bool
  /-- What `response_buffer` happens to hold. -/
  stack : Memory
  /-- The data of the events `HTTP_EVENT_ON_DATA`, in order. -/
  chunks : List (List UInt8)
  /-- `err == ESP_OK` -/
  performed : Bool
  statusCode : Int

/-- The memory that is parsed, if the function gets there. -/
def discoveryResponse (inp : FetchInput) : Option Memory :=
  if ¬ inp.client then none
  else
    let ctx := discoveryReceived inp.stack inp.chunks
    if ¬ inp.performed then none
    else if inp.statusCode ≠ 200 then none
    else if ctx.overflow then none
    else some ctx.buffer

/-- `FetchMqttEndpointFromHttps`: `*out` afterwards, and the result. -/
def fetchMqttEndpointFromHttps (cJSONParse : Memory → Option CJson) (inp : FetchInput)
    (out : MqttEndpoint) : MqttEndpoint × Bool :=
  match discoveryResponse inp with
  | none => (out, false)
  | some buffer =>
      match cJSONParse buffer with
      | none => (out, false)
      | some root =>
          match parsedEndpoint root with
          | none => (out, false)
          | some parsed => (parsed, true)

/-! ## The whole body or nothing -/

section Fetch

variable {inp : FetchInput}

/-- What is parsed is the whole body. -/
theorem holdsText_of_discoveryResponse
    {buffer : Memory} (h : discoveryResponse inp = some buffer) :
    HoldsText buffer inp.chunks.flatten ∧
      inp.chunks.flatten.length ≤ mqttDiscoveryResponseMax - 1 := by
  obtain ⟨hholds, hcapacity⟩ := holdsBody_discoveryReceived inp.stack inp.chunks
  simp only [discoveryResponse, Option.ite_none_left_eq_some, Option.some.injEq] at h
  obtain ⟨-, -, -, hcomplete, rfl⟩ := h
  have htext := hholds.text
  rw [hholds.overflow, hcapacity] at hcomplete
  rw [hcapacity, List.take_of_length_le (Nat.le_of_not_lt hcomplete)] at htext
  exact ⟨htext, Nat.le_of_not_lt hcomplete⟩

/-- A body that does not fit is not parsed. -/
theorem fetchMqttEndpointFromHttps_overlong
    (hlong : mqttDiscoveryResponseMax - 1 < inp.chunks.flatten.length)
    (cJSONParse : Memory → Option CJson) (out : MqttEndpoint) :
    fetchMqttEndpointFromHttps cJSONParse inp out = (out, false) := by
  have hnothing : discoveryResponse inp = none := by
    cases hresponse : discoveryResponse inp with
    | none => rfl
    | some buffer =>
        exact absurd hlong (Nat.not_lt.mpr (holdsText_of_discoveryResponse hresponse).2)
  unfold fetchMqttEndpointFromHttps
  rw [hnothing]

end Fetch

/-- After any chunks the array holds the first 511 bytes of the body and a NUL,
the next call stores inside the array and leaves every other address alone, and
the flag tells whether the body is longer.  A fetch parses the whole body or
nothing. -/
theorem discovery_response_exact
    (stack : Memory) (chunks : List (List UInt8)) :
    let ctx := discoveryReceived stack chunks
    let total := chunks.flatten.length
    HoldsText ctx.buffer (chunks.flatten.take 511) ∧ ctx.len = min total 511 ∧
      (ctx.overflow = true ↔ 511 < total) ∧
      (∀ data, discoveryStores ctx data ⊆ block 0 mqttDiscoveryResponseMax ∧
        ∀ i ∉ discoveryStores ctx data,
          (discoveryHttpEventHandler ctx data).buffer i = ctx.buffer i) ∧
      ∀ inp : FetchInput, inp.chunks = chunks →
        (∀ buffer, discoveryResponse inp = some buffer → HoldsText buffer chunks.flatten) ∧
          (511 < total → ∀ cJSONParse out,
            fetchMqttEndpointFromHttps cJSONParse inp out = (out, false)) := by
  dsimp only
  obtain ⟨hholds, hcapacity⟩ := holdsBody_discoveryReceived stack chunks
  have hroom : (discoveryReceived stack chunks).capacity - 1 = 511 :=
    congrArg Nat.pred hcapacity
  refine ⟨?_, ?_, ?_, fun data => ?_, ?_⟩
  · simpa only [hroom] using hholds.text
  · simpa only [hroom] using hholds.len
  · simpa only [hroom] using hholds.overflow
  · refine ⟨?_, fun i hi => discoveryHttpEventHandler_kept hi⟩
    rw [← hcapacity]
    exact hholds.stores (by rw [hcapacity]; decide) data
  · rintro inp rfl
    exact ⟨fun buffer hbuffer => (holdsText_of_discoveryResponse hbuffer).1,
      fun hlong => fetchMqttEndpointFromHttps_overlong hlong⟩

end Mqtt
end AvensysEsp32
