import AvensysEsp32.Mqtt.EndpointSave

/-!
# Saving an endpoint and loading it

Here an endpoint is the record of the source with its three arrays, and a load
writes to the record that its caller provides.  The strings of the record are
those that the model of `Mqtt.Endpoint` saves and loads.
-/

namespace AvensysEsp32
namespace Mqtt

open Foundation

/-- An array of characters. -/
abbrev CharArray (size : Nat) := { bytes : List UInt8 // bytes.length = size }

/-- The array that `memset` leaves, with a string stored in it. -/
def arrayOf (size : Nat) (string : List UInt8) : CharArray size :=
  ⟨(string ++ List.replicate size 0).take size, by simp⟩

/-- `MqttEndpoint` with its arrays. -/
structure EndpointRecord where
  host : CharArray hostSize
  port : UInt16
  tls : Bool
  username : CharArray credentialSize
  password : CharArray credentialSize
deriving DecidableEq

namespace EndpointRecord

/-- The strings that the arrays hold. -/
def strings (record : EndpointRecord) : MqttEndpoint where
  host := cString record.host.val
  port := record.port
  tls := record.tls
  username := cString record.username.val
  password := cString record.password.val

/-- Every array has a NUL. -/
structure Terminated (record : EndpointRecord) : Prop where
  host : 0 ∈ record.host.val
  username : 0 ∈ record.username.val
  password : 0 ∈ record.password.val

/-- `tmp`, filled with what has been read. -/
def ofStrings (endpoint : MqttEndpoint) : EndpointRecord where
  host := arrayOf hostSize endpoint.host
  port := endpoint.port
  tls := endpoint.tls
  username := arrayOf credentialSize endpoint.username
  password := arrayOf credentialSize endpoint.password

end EndpointRecord

/-- `SaveMqttEndpointToNvs`, which reads the arrays up to their NULs. -/
def saveRecord (writes : NvsWrites) (record : EndpointRecord) (nvs : EndpointNvs) :
    EndpointNvs × Bool :=
  saveMqttEndpointToNvs writes record.strings nvs

/-- `LoadMqttEndpointFromNvs`: `*out` afterwards, and the result. -/
def loadRecord (reads : NvsReads) (nvs : EndpointNvs) (out : EndpointRecord) :
    EndpointRecord × Bool :=
  if reads.opened then
    match readMqttEndpoint reads nvs with
    | none => (out, false)
    | some endpoint =>
        let tmp := EndpointRecord.ofStrings endpoint
        if mqttEndpointIsValid tmp.strings then (tmp, true) else (out, false)
  else (out, false)

/-! ## Arrays and strings -/

section Arrays

variable {size : Nat} {string : List UInt8}

/-- An array that holds a string with its NUL holds that string. -/
theorem cString_arrayOf
    (hnul : 0 ∉ string) (hfits : string.length < size) :
    cString (arrayOf size string).val = string := by
  have hstring : cString string = string := cString_of_no_nul fun b hb h => hnul (h ▸ hb)
  show cString ((string ++ List.replicate size 0).take size) = string
  rw [cString_take, cString_append_zeros, hstring, List.take_of_length_le hfits.le]

/-- The string of an array with a NUL has room for it. -/
theorem length_cString_lt
    {array : CharArray size} (h : 0 ∈ array.val) :
    (cString array.val).length < size := by
  refine lt_of_le_of_ne ((length_cString_le _).trans array.property.le) ?_
  intro hfull
  have hwhole : cString array.val = array.val :=
    (List.takeWhile_prefix _).eq_of_length (hfull.trans array.property.symm)
  rw [← hwhole] at h
  exact cString_no_nul array.val h

end Arrays

/-- The strings of a record with NULs fit its arrays. -/
theorem EndpointRecord.Terminated.fits
    {record : EndpointRecord} (h : record.Terminated) :
    record.strings.Fits where
  host := length_cString_lt h.host
  username := length_cString_lt h.username
  password := length_cString_lt h.password

/-- A record filled with the strings of another holds the same strings. -/
theorem strings_ofStrings
    {record : EndpointRecord} (h : record.Terminated) :
    (EndpointRecord.ofStrings record.strings).strings = record.strings := by
  unfold EndpointRecord.strings EndpointRecord.ofStrings
  dsimp only
  rw [cString_arrayOf (cString_no_nul _) (length_cString_lt h.host),
    cString_arrayOf (cString_no_nul _) (length_cString_lt h.username),
    cString_arrayOf (cString_no_nul _) (length_cString_lt h.password)]

/-! ## A save that succeeds -/

/-- A write that succeeds has been made, after others that have succeeded. -/
theorem nvsSet_succeeded
    {writes : NvsWrites} {key : EndpointKey} {set : EndpointNvs → EndpointNvs}
    {state : EndpointNvs × Bool} (h : (nvsSet writes key set state).2 = true) :
    state.2 = true ∧ (nvsSet writes key set state).1 = set state.1 := by
  obtain ⟨nvs, ok⟩ := state
  cases ok with
  | false => cases h
  | true =>
      unfold nvsSet at h ⊢
      dsimp only at h ⊢
      split at h
      · cases h
      · rename_i hfails
        exact ⟨rfl, by rw [if_neg hfails]⟩

/-- A save that succeeds has made all seven writes, of a valid endpoint. -/
theorem saveMqttEndpointToNvs_succeeded
    {writes : NvsWrites} {endpoint : MqttEndpoint} {nvs : EndpointNvs}
    (h : (saveMqttEndpointToNvs writes endpoint nvs).2 = true) :
    mqttEndpointIsValid endpoint = true ∧
      (saveMqttEndpointToNvs writes endpoint nvs).1 = interruptedSave 7 endpoint nvs := by
  unfold saveMqttEndpointToNvs at h ⊢
  split at h
  · rename_i hguard
    rw [if_pos hguard]
    refine ⟨(Bool.and_eq_true _ _ ▸ hguard).1, ?_⟩
    dsimp only at h ⊢
    have hwrites : (endpointWrites writes endpoint nvs).2 = true :=
      (Bool.and_eq_true _ _ ▸ h).1
    unfold endpointWrites at hwrites ⊢
    obtain ⟨hpass, hpass'⟩ := nvsSet_succeeded hwrites
    obtain ⟨huser, huser'⟩ := nvsSet_succeeded hpass
    obtain ⟨htls, htls'⟩ := nvsSet_succeeded huser
    obtain ⟨hport, hport'⟩ := nvsSet_succeeded htls
    obtain ⟨hhost, hhost'⟩ := nvsSet_succeeded hport
    obtain ⟨hvalid, hvalid'⟩ := nvsSet_succeeded hhost
    obtain ⟨-, hver'⟩ := nvsSet_succeeded hvalid
    rw [hpass', huser', htls', hport', hhost', hvalid', hver']
    rfl
  · cases h

/-- What a save that succeeds leaves is loaded as the endpoint. -/
theorem load_of_saved
    {writes : NvsWrites} {endpoint : MqttEndpoint} {nvs : EndpointNvs} (hfits : endpoint.Fits)
    (h : (saveMqttEndpointToNvs writes endpoint nvs).2 = true) :
    loadMqttEndpointFromNvs .ok (saveMqttEndpointToNvs writes endpoint nvs).1 = some endpoint := by
  obtain ⟨hvalid, hsaved⟩ := saveMqttEndpointToNvs_succeeded h
  rw [hsaved, loadMqttEndpointFromNvs_ok_iff]
  have hmarked := interruptedSave_marked ⟨endpoint, hvalid, hfits⟩ nvs 5
  have hfield := interruptedSave_field ⟨endpoint, hvalid, hfits⟩ nvs 5
  refine ⟨hmarked, fun i => ?_⟩
  rw [hfield]
  exact overwritten_of_lt i.isLt

/-! ## Loads -/

section Load

variable {reads : NvsReads} {nvs : EndpointNvs} (out : EndpointRecord)

/-- A load that gives an endpoint of strings fills the record with it. -/
theorem loadRecord_of_load
    {endpoint : MqttEndpoint} (h : loadMqttEndpointFromNvs reads nvs = some endpoint)
    (hstrings : (EndpointRecord.ofStrings endpoint).strings = endpoint) :
    loadRecord reads nvs out = (.ofStrings endpoint, true) := by
  have hvalid := loadMqttEndpointFromNvs_isValid h
  unfold loadMqttEndpointFromNvs at h
  unfold loadRecord
  split at h
  · rename_i hopened
    obtain ⟨hread, -⟩ := Option.filter_eq_some_iff.mp h
    rw [if_pos hopened, hread]
    dsimp only
    rw [hstrings, if_pos hvalid]
  · cases h

/-- A load gives a valid endpoint, or leaves the record as it was. -/
theorem loadRecord_cases
    (reads : NvsReads) (nvs : EndpointNvs) :
    (loadRecord reads nvs out).2 = true ∧
        mqttEndpointIsValid (loadRecord reads nvs out).1.strings = true ∨
      (loadRecord reads nvs out).2 = false ∧ (loadRecord reads nvs out).1 = out := by
  unfold loadRecord
  split
  · cases readMqttEndpoint reads nvs with
    | none => exact Or.inr ⟨rfl, rfl⟩
    | some endpoint =>
        dsimp only
        split
        · rename_i hvalid
          exact Or.inl ⟨rfl, hvalid⟩
        · exact Or.inr ⟨rfl, rfl⟩
  · exact Or.inr ⟨rfl, rfl⟩

end Load

/-- A record that has been saved is loaded with equal strings, whatever was
stored before; and every load gives a valid endpoint, or leaves the record of
its caller as it was. -/
theorem endpoint_round_trip :
    (∀ (writes : NvsWrites) (record : EndpointRecord) (nvs : EndpointNvs),
      record.Terminated → (saveRecord writes record nvs).2 = true →
        ∀ out, (loadRecord .ok (saveRecord writes record nvs).1 out).2 = true ∧
          mqttEndpointEquals
            (loadRecord .ok (saveRecord writes record nvs).1 out).1.strings
            record.strings = true) ∧
      ∀ (reads : NvsReads) (nvs : EndpointNvs) (out : EndpointRecord),
        (loadRecord reads nvs out).2 = true ∧
            mqttEndpointIsValid (loadRecord reads nvs out).1.strings = true ∨
          (loadRecord reads nvs out).2 = false ∧ (loadRecord reads nvs out).1 = out := by
  constructor
  · intro writes record nvs hterminated hsaved out
    have hload := load_of_saved hterminated.fits hsaved
    have hrecord := loadRecord_of_load out hload (strings_ofStrings hterminated)
    show (loadRecord .ok (saveMqttEndpointToNvs writes record.strings nvs).1 out).2 = true ∧ _
    unfold saveRecord
    rw [hrecord]
    refine ⟨rfl, ?_⟩
    rw [mqttEndpointEquals_iff]
    exact strings_ofStrings hterminated
  · intro reads nvs out
    exact loadRecord_cases out reads nvs

/-- A record whose host is the text `mq`. -/
def shortHostRecord : EndpointRecord :=
  .ofStrings { MqttEndpoint.zero with host := [109, 113], port := 1883 }

/-- It is saved where nothing was stored, and loaded again. -/
theorem shortHostRecord_loaded :
    (saveRecord .ok shortHostRecord .empty).2 = true ∧
      (loadRecord .ok (saveRecord .ok shortHostRecord .empty).1 (.ofStrings .zero)).2 = true ∧
      mqttEndpointEquals
        (loadRecord .ok (saveRecord .ok shortHostRecord .empty).1 (.ofStrings .zero)).1.strings
        shortHostRecord.strings = true := by
  have hterminated : shortHostRecord.Terminated :=
    ⟨by decide +kernel, by decide +kernel, by decide +kernel⟩
  have hsaved : (saveRecord .ok shortHostRecord .empty).2 = true := by decide +kernel
  exact ⟨hsaved, endpoint_round_trip.1 .ok shortHostRecord .empty hterminated hsaved _⟩

end Mqtt
end AvensysEsp32
