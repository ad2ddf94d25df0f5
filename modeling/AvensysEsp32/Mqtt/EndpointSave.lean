import AvensysEsp32.Foundation.Overwrite
import AvensysEsp32.Mqtt.Endpoint
import Mathlib.Tactic.FinCases

/-!
# Saving an endpoint

`SaveMqttEndpointToNvs` makes seven writes, and each of them lasts by itself.
A save that fails, or that a loss of power ends, leaves the first of them.  The
version and the flag that marks the record as valid are written first, so that
from then on whatever the other keys hold is loaded as an endpoint.
-/

namespace AvensysEsp32
namespace Mqtt

open Foundation

/-! ## Interrupted saves -/

/-- The strings fit the arrays of `MqttEndpoint`. -/
structure MqttEndpoint.Fits (endpoint : MqttEndpoint) : Prop where
  host : endpoint.host.length < hostSize
  username : endpoint.username.length < credentialSize
  password : endpoint.password.length < credentialSize

/-- An endpoint that `SaveMqttEndpointToNvs` stores. -/
structure SavedEndpoint where
  endpoint : MqttEndpoint
  isValid : mqttEndpointIsValid endpoint = true
  fits : endpoint.Fits

/-- The types of the five fields, in the order in which they are written. -/
def FieldType : Fin 5 → Type
  | 0 => List UInt8
  | 1 => UInt16
  | 2 => Bool
  | 3 => List UInt8
  | 4 => List UInt8

/-- The five fields of an endpoint. -/
def MqttEndpoint.field (endpoint : MqttEndpoint) : ∀ i, FieldType i
  | 0 => endpoint.host
  | 1 => endpoint.port
  | 2 => endpoint.tls
  | 3 => endpoint.username
  | 4 => endpoint.password

/-- The writes of the version and of the flag. -/
def writeMarks (nvs : EndpointNvs) : EndpointNvs :=
  { nvs with ver := some mqttEndpointNvsVersion, valid := some 1 }

/-- The write of a field. -/
def writeField (endpoint : MqttEndpoint) (i : Fin 5) (nvs : EndpointNvs) : EndpointNvs :=
  match i with
  | 0 => { nvs with host := some endpoint.host }
  | 1 => { nvs with port := some endpoint.port }
  | 2 => { nvs with tls := some (if endpoint.tls then 1 else 0) }
  | 3 => { nvs with user := some endpoint.username }
  | 4 => { nvs with pass := some endpoint.password }

/-- What NVS holds once the first `calls` of the seven writes have been made. -/
def interruptedSave (calls : Nat) (endpoint : MqttEndpoint) (nvs : EndpointNvs) : EndpointNvs :=
  match calls with
  | 0 => nvs
  | 1 => { nvs with ver := some mqttEndpointNvsVersion }
  | fields + 2 =>
      ((List.finRange 5).take fields).foldl (fun nvs i => writeField endpoint i nvs)
        (writeMarks nvs)

/-- How a save ends: in a result, or by a loss of power after some of its
writes. -/
inductive SaveEnd
  | returned (writes : NvsWrites)
  | powerLost (calls : Nat)

/-- What NVS holds after a save that ended so. -/
def SaveEnd.leaves (ended : SaveEnd) (endpoint : MqttEndpoint) (nvs : EndpointNvs) :
    EndpointNvs :=
  match ended with
  | .returned writes => (saveMqttEndpointToNvs writes endpoint nvs).1
  | .powerLost calls => interruptedSave calls endpoint nvs

/-- However a save of the endpoint ends, a later load gives what it would have
given before, the endpoint, or nothing. -/
def SaveAtomic (nvs : EndpointNvs) (endpoint : MqttEndpoint) : Prop :=
  ∀ (ended : SaveEnd) (reads : NvsReads) (loaded : MqttEndpoint),
    loadMqttEndpointFromNvs reads (ended.leaves endpoint nvs) = some loaded →
      loadMqttEndpointFromNvs .ok nvs = some loaded ∨ loaded = endpoint

/-- What is left by a save that returns is left by one that loses power. -/
theorem saveMqttEndpointToNvs_interrupted
    (writes : NvsWrites) (endpoint : MqttEndpoint) (nvs : EndpointNvs) :
    ∃ calls,
      (saveMqttEndpointToNvs writes endpoint nvs).1 = interruptedSave calls endpoint nvs := by
  unfold saveMqttEndpointToNvs
  split
  · dsimp only
    unfold endpointWrites
    -- The writes are made until the first that fails.
    by_cases hver : writes.fails .ver
    · exact ⟨0, by simp [nvsSet, hver, interruptedSave]⟩
    by_cases hvalid : writes.fails .valid
    · exact ⟨1, by simp [nvsSet, hver, hvalid, interruptedSave]⟩
    by_cases hhost : writes.fails .host
    · exact ⟨2, by simp [nvsSet, hver, hvalid, hhost]; rfl⟩
    by_cases hport : writes.fails .port
    · exact ⟨3, by simp [nvsSet, hver, hvalid, hhost, hport]; rfl⟩
    by_cases htls : writes.fails .tls
    · exact ⟨4, by simp [nvsSet, hver, hvalid, hhost, hport, htls]; rfl⟩
    by_cases huser : writes.fails .user
    · exact ⟨5, by simp [nvsSet, hver, hvalid, hhost, hport, htls, huser]; rfl⟩
    by_cases hpass : writes.fails .pass
    · exact ⟨6, by simp [nvsSet, hver, hvalid, hhost, hport, htls, huser, hpass]; rfl⟩
    · exact ⟨7, by simp [nvsSet, hver, hvalid, hhost, hport, htls, huser, hpass]; rfl⟩
  · exact ⟨0, rfl⟩

/-- The interrupted saves are all there is. -/
theorem SaveEnd.leaves_eq
    (ended : SaveEnd) (endpoint : MqttEndpoint) (nvs : EndpointNvs) :
    ∃ calls, ended.leaves endpoint nvs = interruptedSave calls endpoint nvs := by
  cases ended with
  | returned writes => exact saveMqttEndpointToNvs_interrupted writes endpoint nvs
  | powerLost calls => exact ⟨calls, rfl⟩

/-! ## Loading field by field -/

/-- A stored string that fits an array of `size` bytes. -/
def fittingString (stored : Option (List UInt8)) (size : Nat) : Option (List UInt8) :=
  stored.bind fun string => if string.length < size then some string else none

/-- The host that a load accepts. -/
def loadedHost (nvs : EndpointNvs) : Option (List UInt8) :=
  (fittingString nvs.host hostSize).bind fun host => if host = [] then none else some host

/-- The port that a load accepts. -/
def loadedPort (nvs : EndpointNvs) : Option UInt16 :=
  nvs.port.bind fun port => if port = 0 then none else some port

/-- What a load makes of the key of a field: nothing, if the endpoint is then
not loaded. -/
def EndpointNvs.field (nvs : EndpointNvs) : ∀ i, Option (FieldType i)
  | 0 => loadedHost nvs
  | 1 => loadedPort nvs
  | 2 => nvs.tls.map fun tlsValue => decide (tlsValue = 1)
  | 3 => fittingString (some (nvs.user.getD [])) credentialSize
  | 4 => fittingString (some (nvs.pass.getD [])) credentialSize

/-- The record is marked as one that can be loaded. -/
structure EndpointNvs.Marked (nvs : EndpointNvs) : Prop where
  ver : nvs.ver = some mqttEndpointNvsVersion
  valid : nvs.valid = some 1

theorem nvsGet_ok
    {α : Type} (key : EndpointKey) (stored : Option α) :
    (nvsGet .ok key stored).toOption = stored := by
  cases stored with
  | none => rfl
  | some value => rfl

theorem nvsGetStr_ok
    (key : EndpointKey) (stored : Option (List UInt8)) (size : Nat) :
    (nvsGetStr .ok key stored size).toOption = fittingString stored size := by
  cases stored with
  | none => rfl
  | some string =>
      show (if string.length + 1 ≤ size then Except.ok string else Except.error NvsError.other
        : Except NvsError (List UInt8)).toOption =
          if string.length < size then some string else none
      by_cases hfits : string.length < size
      · rw [if_pos hfits, if_pos (Nat.succ_le_of_lt hfits)]
        rfl
      · rw [if_neg hfits, if_neg (by omega)]
        rfl

theorem nvsGetCredential_ok
    (key : EndpointKey) (stored : Option (List UInt8)) :
    nvsGetCredential .ok key stored = fittingString (some (stored.getD [])) credentialSize := by
  cases stored with
  | none => rfl
  | some string =>
      have hget : nvsGetStr .ok key (some string) credentialSize =
          if string.length + 1 ≤ credentialSize then .ok string else .error .other := rfl
      have hfitting : fittingString (some ((some string).getD [])) credentialSize =
          if string.length < credentialSize then some string else none := rfl
      rw [nvsGetCredential, hget, hfitting]
      by_cases hfits : string.length < credentialSize
      · rw [if_pos hfits, if_pos (Nat.succ_le_of_lt hfits)]
      · rw [if_neg hfits, if_neg (mt Nat.lt_of_succ_le hfits)]

/-- What undisturbed reads give. -/
theorem readMqttEndpoint_ok_iff
    (nvs : EndpointNvs) (endpoint : MqttEndpoint) :
    readMqttEndpoint .ok nvs = some endpoint ↔
      nvs.Marked ∧ fittingString nvs.host hostSize = some endpoint.host ∧
        nvs.port = some endpoint.port ∧ nvs.field 2 = some endpoint.tls ∧
        nvs.field 3 = some endpoint.username ∧ nvs.field 4 = some endpoint.password := by
  simp only [readMqttEndpoint, nvsGet_ok, nvsGetStr_ok, nvsGetCredential_ok, Option.bind_eq_bind,
    Option.bind_eq_some_iff, Option.guard_eq_some']
  constructor
  · rintro ⟨version, hver, -, hversion, valid, hvalid, -, hone, host, hhost, port, hport, tlsValue,
      htls, username, husername, password, hpassword, hendpoint⟩
    cases hendpoint
    exact ⟨⟨hversion ▸ hver, hone ▸ hvalid⟩, hhost, hport, congrArg (Option.map _) htls, husername,
      hpassword⟩
  · rintro ⟨hmarked, hhost, hport, htls, husername, hpassword⟩
    obtain ⟨tlsValue, htlsValue, htls⟩ := Option.map_eq_some_iff.1 htls
    refine ⟨_, hmarked.ver, (), rfl, _, hmarked.valid, (), rfl, _, hhost, _, hport, _, htlsValue,
      _, husername, _, hpassword, ?_⟩
    simp [htls]

/-- An endpoint is loaded when the record is marked and all fields read as its. -/
theorem loadMqttEndpointFromNvs_ok_iff
    (nvs : EndpointNvs) (endpoint : MqttEndpoint) :
    loadMqttEndpointFromNvs .ok nvs = some endpoint ↔
      nvs.Marked ∧ Reads nvs.field endpoint.field := by
  have hload : loadMqttEndpointFromNvs .ok nvs =
      (readMqttEndpoint .ok nvs).filter mqttEndpointIsValid := rfl
  rw [hload, Option.filter_eq_some_iff, readMqttEndpoint_ok_iff]
  constructor
  · rintro ⟨⟨hmarked, hhost, hport, htls, husername, hpassword⟩, hvalid⟩
    have hne : endpoint.host ≠ [] ∧ endpoint.port ≠ 0 := by
      simpa [mqttEndpointIsValid] using hvalid
    refine ⟨hmarked, ?_⟩
    intro i
    match i with
    | 0 =>
        show loadedHost nvs = some endpoint.host
        simp [loadedHost, hhost, hne.1]
    | 1 =>
        show loadedPort nvs = some endpoint.port
        simp [loadedPort, hport, hne.2]
    | 2 => exact htls
    | 3 => exact husername
    | 4 => exact hpassword
  · rintro ⟨hmarked, hread⟩
    have hhost : loadedHost nvs = some endpoint.host := hread 0
    have hport : loadedPort nvs = some endpoint.port := hread 1
    obtain ⟨host, hhost, hhostne⟩ := Option.bind_eq_some_iff.1 hhost
    obtain ⟨port, hport, hportne⟩ := Option.bind_eq_some_iff.1 hport
    rw [Option.ite_none_left_eq_some] at hhostne hportne
    obtain ⟨hhostne, hhosteq⟩ := hhostne
    obtain ⟨hportne, hporteq⟩ := hportne
    cases hhosteq
    cases hporteq
    refine ⟨⟨hmarked, hhost, hport, hread 2, hread 3, hread 4⟩, ?_⟩
    simp [mqttEndpointIsValid, hhostne, hportne]

section Reads

variable (reads : NvsReads) (key : EndpointKey)

/-- A read fails, or gives what an undisturbed one gives. -/
theorem nvsGet_cases
    {α : Type} (stored : Option α) :
    nvsGet reads key stored = .error .other ∨
      nvsGet reads key stored = nvsGet .ok key stored := by
  unfold nvsGet
  by_cases hfails : reads.fails key
  · exact Or.inl (if_pos hfails)
  · exact Or.inr (if_neg hfails)

theorem nvsGetStr_cases
    (stored : Option (List UInt8)) (size : Nat) :
    nvsGetStr reads key stored size = .error .other ∨
      nvsGetStr reads key stored size = nvsGetStr .ok key stored size := by
  unfold nvsGetStr
  rcases nvsGet_cases reads key stored with hget | hget
  · exact Or.inl (by rw [hget]; rfl)
  · exact Or.inr (by rw [hget])

theorem nvsGetCredential_cases
    (stored : Option (List UInt8)) :
    nvsGetCredential reads key stored = none ∨
      nvsGetCredential reads key stored = nvsGetCredential .ok key stored := by
  unfold nvsGetCredential
  rcases nvsGetStr_cases reads key stored credentialSize with hget | hget
  · exact Or.inl (by rw [hget])
  · exact Or.inr (by rw [hget])

end Reads

theorem nvsGet_of_some
    {reads : NvsReads} {key : EndpointKey} {α : Type} {stored : Option α} {value : α}
    (h : (nvsGet reads key stored).toOption = some value) :
    stored = some value := by
  rcases nvsGet_cases reads key stored with hget | hget
  · rw [hget] at h
    cases h
  · rwa [hget, nvsGet_ok] at h

theorem nvsGetStr_of_some
    {reads : NvsReads} {key : EndpointKey} {stored : Option (List UInt8)} {size : Nat}
    {string : List UInt8}
    (h : (nvsGetStr reads key stored size).toOption = some string) :
    fittingString stored size = some string := by
  rcases nvsGetStr_cases reads key stored size with hget | hget
  · rw [hget] at h
    cases h
  · rwa [hget, nvsGetStr_ok] at h

theorem nvsGetCredential_of_some
    {reads : NvsReads} {key : EndpointKey} {stored : Option (List UInt8)} {string : List UInt8}
    (h : nvsGetCredential reads key stored = some string) :
    fittingString (some (stored.getD [])) credentialSize = some string := by
  rcases nvsGetCredential_cases reads key stored with hget | hget
  · rw [hget] at h
    cases h
  · rwa [hget, nvsGetCredential_ok] at h

/-- Reads that fail make a load give nothing, never something else. -/
theorem loadMqttEndpointFromNvs_of_some
    {reads : NvsReads} {nvs : EndpointNvs} {endpoint : MqttEndpoint}
    (h : loadMqttEndpointFromNvs reads nvs = some endpoint) :
    loadMqttEndpointFromNvs .ok nvs = some endpoint := by
  unfold loadMqttEndpointFromNvs at h
  split at h
  · obtain ⟨hread, hvalid⟩ := Option.filter_eq_some_iff.1 h
    simp only [readMqttEndpoint, Option.bind_eq_bind, Option.bind_eq_some_iff,
      Option.guard_eq_some'] at hread
    obtain ⟨version, hver, -, hversion, valid, hvalidkey, -, hone, host, hhost, port, hport,
      tlsValue, htls, username, husername, password, hpassword, hendpoint⟩ := hread
    cases hendpoint
    have hok : readMqttEndpoint .ok nvs =
        some ⟨host, port, decide (tlsValue = 1), username, password⟩ := by
      rw [readMqttEndpoint_ok_iff]
      refine ⟨⟨?_, ?_⟩, nvsGetStr_of_some hhost, nvsGet_of_some hport, ?_,
        nvsGetCredential_of_some husername, nvsGetCredential_of_some hpassword⟩
      · rw [nvsGet_of_some hver, hversion]
      · rw [nvsGet_of_some hvalidkey, hone]
      · exact congrArg (Option.map _) (nvsGet_of_some htls)
    show (readMqttEndpoint .ok nvs).filter mqttEndpointIsValid = _
    rw [hok]
    exact Option.filter_eq_some_iff.2 ⟨rfl, hvalid⟩
  · cases h

/-! ## What an interrupted save leaves -/

/-- The endpoint with the given fields. -/
def MqttEndpoint.ofField (field : ∀ i, FieldType i) : MqttEndpoint where
  host := field 0
  port := field 1
  tls := field 2
  username := field 3
  password := field 4

theorem MqttEndpoint.field_ofField (field : ∀ i, FieldType i) :
    (MqttEndpoint.ofField field).field = field := by
  funext i
  match i with
  | 0 | 1 | 2 | 3 | 4 => rfl

theorem MqttEndpoint.field_injective
    {endpoint endpoint' : MqttEndpoint} (h : endpoint.field = endpoint'.field) :
    endpoint = endpoint' := by
  have hof : ∀ e : MqttEndpoint, MqttEndpoint.ofField e.field = e := fun _ => rfl
  rw [← hof endpoint, ← hof endpoint', h]

section Interrupted

variable (endpoint : SavedEndpoint) (nvs : EndpointNvs)

/-- A write changes what a load reads of its field, and nothing else. -/
theorem writeField_field
    (i : Fin 5) :
    (writeField endpoint.endpoint i nvs).field =
      Function.update nvs.field i (some (endpoint.endpoint.field i)) := by
  obtain ⟨endpoint, hvalid, hfits⟩ := endpoint
  have hne : endpoint.host ≠ [] ∧ endpoint.port ≠ 0 := by
    simpa [mqttEndpointIsValid] using hvalid
  have hhost := hfits.host
  have husername := hfits.username
  have hpassword := hfits.password
  funext j
  by_cases hj : j = i
  · subst hj
    rw [Function.update_self]
    match j with
    | 0 =>
        show (fittingString (some endpoint.host) hostSize).bind _ = some endpoint.host
        simp [fittingString, hhost, hne.1]
    | 1 =>
        show (if endpoint.port = 0 then none else some endpoint.port) = some endpoint.port
        exact if_neg hne.2
    | 2 =>
        show some (decide ((if endpoint.tls then (1 : UInt8) else 0) = 1)) = some endpoint.tls
        cases endpoint.tls with
        | false => rfl
        | true => rfl
    | 3 => exact if_pos husername
    | 4 => exact if_pos hpassword
  · rw [Function.update_of_ne hj]
    fin_cases i <;> fin_cases j <;> first | exact absurd rfl hj | rfl

/-- Once both marks are written, every field reads as the new one or the old. -/
theorem interruptedSave_field
    (fields : Nat) :
    (interruptedSave (fields + 2) endpoint.endpoint nvs).field =
      overwritten fields nvs.field endpoint.endpoint.field := by
  have hmarks : (writeMarks nvs).field = nvs.field := by
    funext i
    match i with
    | 0 | 1 | 2 | 3 | 4 => rfl
  have hwrite : ∀ i nvs, (writeField endpoint.endpoint i nvs).field =
      Function.update nvs.field i (some (endpoint.endpoint.field i)) :=
    fun i nvs => writeField_field endpoint nvs i
  have hwrites := read_writes hwrite fields (writeMarks nvs)
  rw [hmarks] at hwrites
  exact hwrites

/-- The marks are not touched by the writes of the fields. -/
theorem interruptedSave_marked
    (fields : Nat) :
    (interruptedSave (fields + 2) endpoint.endpoint nvs).Marked := by
  have hfold : ∀ (is : List (Fin 5)) (nvs : EndpointNvs), nvs.Marked →
      (is.foldl (fun nvs i => writeField endpoint.endpoint i nvs) nvs).Marked := by
    intro is
    induction is with
    | nil => exact fun _ h => h
    | cons i is ih =>
        intro nvs h
        apply ih
        match i with
        | 0 | 1 | 2 | 3 | 4 => exact ⟨h.ver, h.valid⟩
  exact hfold _ _ ⟨rfl, rfl⟩

/-- What is loaded after an interrupted save has the fields of an interrupted
record. -/
theorem load_interruptedSave
    (calls : Nat) {loaded : MqttEndpoint}
    (h : loadMqttEndpointFromNvs .ok (interruptedSave calls endpoint.endpoint nvs) = some loaded) :
    ∃ fields, Reads (overwritten fields nvs.field endpoint.endpoint.field) loaded.field := by
  have hread := ((loadMqttEndpointFromNvs_ok_iff _ _).1 h).2
  match calls with
  | 0 => exact ⟨0, by rwa [overwritten_zero]⟩
  | 1 =>
      have hfield : (interruptedSave 1 endpoint.endpoint nvs).field = nvs.field := by
        funext i
        match i with
        | 0 | 1 | 2 | 3 | 4 => rfl
      exact ⟨0, by rwa [overwritten_zero, ← hfield]⟩
  | fields + 2 => exact ⟨fields, by rwa [← interruptedSave_field]⟩

end Interrupted

/-! ## When a save is atomic -/

/-- At most one field of what is stored has to change, or the last one to
change cannot be read as it is. -/
def OneFieldChanges (nvs : EndpointNvs) (endpoint : MqttEndpoint) : Prop :=
  ∃ i, (∀ j, i < j → nvs.field j = some (endpoint.field j)) ∧
    (nvs.field i = none ∨
      (∀ j, j < i → nvs.field j = some (endpoint.field j)) ∧
        (nvs.Marked ∨ nvs.field i = some (endpoint.field i)))

/-- A save is atomic exactly when there is a field such that all fields after
it are stored already, and what is stored in it cannot be loaded, or all fields
before it are stored already too and the record is marked. -/
theorem saveMqttEndpointToNvs_atomic_iff
    (nvs : EndpointNvs) (endpoint : SavedEndpoint) :
    SaveAtomic nvs endpoint.endpoint ↔ OneFieldChanges nvs endpoint.endpoint := by
  unfold OneFieldChanges
  rw [← overwritten_reads_iff nvs.Marked nvs.field endpoint.endpoint.field]
  constructor
  · intro h fields record hread
    -- The power is lost when both marks and the first fields have been written.
    have hloaded : loadMqttEndpointFromNvs .ok
        (interruptedSave (fields + 2) endpoint.endpoint nvs) = some (.ofField record) := by
      rw [loadMqttEndpointFromNvs_ok_iff, MqttEndpoint.field_ofField, interruptedSave_field]
      exact ⟨interruptedSave_marked endpoint nvs fields, hread⟩
    rcases h (.powerLost (fields + 2)) .ok _ hloaded with hold | hnew
    · rw [loadMqttEndpointFromNvs_ok_iff, MqttEndpoint.field_ofField] at hold
      exact Or.inl hold
    · right
      rw [← hnew, MqttEndpoint.field_ofField]
  · intro h ended reads loaded hloaded
    obtain ⟨calls, hleaves⟩ := ended.leaves_eq endpoint.endpoint nvs
    rw [hleaves] at hloaded
    obtain ⟨fields, hread⟩ :=
      load_interruptedSave endpoint nvs calls (loadMqttEndpointFromNvs_of_some hloaded)
    rcases h fields _ hread with hold | hnew
    · exact Or.inl ((loadMqttEndpointFromNvs_ok_iff _ _).2 hold)
    · exact Or.inr (MqttEndpoint.field_injective hnew)

/-- A stored endpoint, `("a", 1)`. -/
def storedExample : SavedEndpoint where
  endpoint := { host := [97], port := 1, tls := true, username := [], password := [] }
  isValid := by decide
  fits := ⟨by decide, by decide, by decide⟩

/-- The endpoint saved over it, `("b", 2)`. -/
def savedExample : SavedEndpoint where
  endpoint := { host := [98], port := 2, tls := true, username := [], password := [] }
  isValid := by decide
  fits := ⟨by decide, by decide, by decide⟩

/-- The host of one endpoint is loaded with the port of the other. -/
theorem saveMqttEndpointToNvs_mixes :
    ¬ ∀ (nvs : EndpointNvs) (endpoint : SavedEndpoint), SaveAtomic nvs endpoint.endpoint := by
  intro h
  have hatomic := h (saveMqttEndpointToNvs .ok storedExample.endpoint .empty).1 savedExample
    (.powerLost 3) .ok { savedExample.endpoint with port := 1 } (by decide)
  revert hatomic
  decide

end Mqtt
end AvensysEsp32
