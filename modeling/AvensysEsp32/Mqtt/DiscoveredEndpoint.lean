import AvensysEsp32.Mqtt.Discovery

/-!
# The endpoint that is discovered

What a fetch accepts is copied to arrays of fixed size and to a port of 16 bits.
A string that is too long is cut there, and a port that is too large is taken
modulo 65536.  The endpoint is the one that the object gives when its values fit.
-/

namespace AvensysEsp32
namespace Mqtt

open Foundation

/-- The text given for a credential, empty if there is none. -/
def givenText (item : Option CJson) : List UInt8 :=
  match item with
  | some (.string text) => text
  | _ => []

/-- The object gives this endpoint. -/
structure Gives (root : CJson) (endpoint : MqttEndpoint) : Prop where
  host : root.getObjectItemCaseSensitive hostKey = some (.string endpoint.host)
  hostNonempty : endpoint.host ≠ []
  port : root.getObjectItemCaseSensitive portKey = some (.number endpoint.port.toNat)
  portInRange : 1 ≤ endpoint.port.toNat ∧ endpoint.port.toNat ≤ 65535
  tls : root.getObjectItemCaseSensitive tlsKey = some (.bool endpoint.tls)
  username : endpoint.username = givenText (root.getObjectItemCaseSensitive usernameKey)
  password : endpoint.password = givenText (root.getObjectItemCaseSensitive passwordKey)

/-- A value of the object does not fit its field. -/
def Oversized (root : CJson) : Prop :=
  hostSize ≤ (givenText (root.getObjectItemCaseSensitive hostKey)).length ∨
    credentialSize ≤ (givenText (root.getObjectItemCaseSensitive usernameKey)).length ∨
    credentialSize ≤ (givenText (root.getObjectItemCaseSensitive passwordKey)).length ∨
    ∃ port, root.getObjectItemCaseSensitive portKey = some (.number port) ∧
      (port < 1 ∨ 65535 < port)

/-- What the body is parsed to, if it is. -/
def discoveryRoot (cJSONParse : Memory → Option CJson) (inp : FetchInput) : Option CJson :=
  (discoveryResponse inp).bind cJSONParse

/-- What is promised of a fetch: the endpoint it returns is the one that the
object gives, an object with a value that does not fit is rejected, and then
`*out` is as it was. -/
structure FetchFaithful (cJSONParse : Memory → Option CJson) (inp : FetchInput)
    (out : MqttEndpoint) : Prop where
  returned : (fetchMqttEndpointFromHttps cJSONParse inp out).2 = true →
    ∃ root ∈ discoveryRoot cJSONParse inp,
      Gives root (fetchMqttEndpointFromHttps cJSONParse inp out).1
  rejected : ∀ root ∈ discoveryRoot cJSONParse inp, Oversized root →
    (fetchMqttEndpointFromHttps cJSONParse inp out).2 = false
  unchanged : (fetchMqttEndpointFromHttps cJSONParse inp out).2 = false →
    (fetchMqttEndpointFromHttps cJSONParse inp out).1 = out

/-- The object is none that could be an endpoint: there is no host, port or
`tls` of its type, the host begins with a NUL or is empty, or the whole part of
the port is a multiple of 65536. -/
def Unusable (root : CJson) : Prop :=
  ∀ host port tls, root.getObjectItemCaseSensitive hostKey = some (.string host) →
    root.getObjectItemCaseSensitive portKey = some (.number port) →
    root.getObjectItemCaseSensitive tlsKey = some (.bool tls) →
      cString host = [] ∨ (65536 : Int) ∣ valueint port

/-- The text is a string with room for its NUL. -/
def FitsArray (text : List UInt8) (size : Nat) : Prop :=
  0 ∉ text ∧ text.length < size

/-- The values of the object fit their fields. -/
structure ValuesFit (root : CJson) : Prop where
  host : FitsArray (givenText (root.getObjectItemCaseSensitive hostKey)) hostSize
  port : ∀ port, root.getObjectItemCaseSensitive portKey = some (.number port) →
    ∃ n : Nat, 1 ≤ n ∧ n ≤ 65535 ∧ port = n
  username : FitsArray (givenText (root.getObjectItemCaseSensitive usernameKey)) credentialSize
  password : FitsArray (givenText (root.getObjectItemCaseSensitive passwordKey)) credentialSize

/-! ## Ports -/

/-- A port of 16 bits is the integer modulo 65536. -/
theorem toNat_ofInt_port (i : Int) :
    ((UInt16.ofInt i).toNat : Int) = i % 65536 := by
  have hlow : 0 ≤ i % 65536 := Int.emod_nonneg i (by decide)
  have hhigh : i % 65536 < 65536 := Int.emod_lt_of_pos i (by decide)
  rw [UInt16.ofInt, UInt16.toNat_ofNat']
  omega

theorem ofInt_port_eq_zero_iff (i : Int) :
    UInt16.ofInt i = 0 ↔ (65536 : Int) ∣ i := by
  have hport := toNat_ofInt_port i
  rw [← UInt16.toNat_inj, Int.dvd_iff_emod_eq_zero, ← hport]
  show (UInt16.ofInt i).toNat = 0 ↔ _
  omega

/-- A whole number of the range of ports is its own `valueint`. -/
theorem valueint_natCast
    {n : Nat} (hn : n ≤ 65535) :
    valueint n = n := by
  have hlow : ¬ (2147483647 : Rat) ≤ n := by
    rw [not_le]
    exact_mod_cast (by omega : n < 2147483647)
  have hhigh : ¬ (n : Rat) ≤ -2147483648 := by
    rw [not_le]
    exact lt_of_lt_of_le (by decide) (Nat.cast_nonneg n)
  unfold valueint
  rw [if_neg hlow, if_neg hhigh]
  simp

/-- A port is stored as it is given when it is one. -/
theorem port_stored_iff
    {port : Rat} (hport : ¬ (65536 : Int) ∣ valueint port) :
    port = (UInt16.ofInt (valueint port)).toNat ↔ ∃ n : Nat, 1 ≤ n ∧ n ≤ 65535 ∧ port = n := by
  constructor
  · intro h
    refine ⟨(UInt16.ofInt (valueint port)).toNat, ?_, ?_, h⟩
    · rw [← ofInt_port_eq_zero_iff, ← UInt16.toNat_inj] at hport
      exact Nat.pos_of_ne_zero hport
    · exact Nat.le_of_lt_succ (UInt16.toNat_lt _)
  · rintro ⟨n, -, hn, rfl⟩
    have hstored := toNat_ofInt_port (valueint (n : Rat))
    rw [valueint_natCast hn, Int.emod_eq_of_lt (by omega) (by omega)] at hstored
    rw [valueint_natCast hn]
    exact_mod_cast hstored.symm

/-! ## Endpoints -/

section Parsed

variable {root : CJson} {host : List UInt8} {port : Rat} {tls : Bool}

/-- The fields of `parsed` for an object with a host, a port and `tls`. -/
def parsedFields (root : CJson) (host : List UInt8) (port : Rat) (tls : Bool) : MqttEndpoint where
  host := strlcpy host hostSize
  port := UInt16.ofInt (valueint port)
  tls := tls
  username := parsedCredential (root.getObjectItemCaseSensitive usernameKey)
  password := parsedCredential (root.getObjectItemCaseSensitive passwordKey)

/-- `mqtt_endpoint_is_valid` of what is parsed, in terms of the object. -/
theorem parsedFields_isValid_iff :
    mqttEndpointIsValid (parsedFields root host port tls) = true ↔
      cString host ≠ [] ∧ ¬ (65536 : Int) ∣ valueint port := by
  have hhost : strlcpy host hostSize = [] ↔ cString host = [] := by
    unfold strlcpy
    rw [List.take_eq_nil_iff]
    exact or_iff_right (by decide)
  unfold mqttEndpointIsValid parsedFields
  simp only [Bool.and_eq_true, decide_eq_true_eq, ne_eq, hhost, ofInt_port_eq_zero_iff]

/-- What is parsed has the three members. -/
theorem parsedEndpoint_eq_some
    {parsed : MqttEndpoint} (h : parsedEndpoint root = some parsed) :
    ∃ host port tls, root.getObjectItemCaseSensitive hostKey = some (.string host) ∧
      root.getObjectItemCaseSensitive portKey = some (.number port) ∧
      root.getObjectItemCaseSensitive tlsKey = some (.bool tls) ∧
      mqttEndpointIsValid (parsedFields root host port tls) = true ∧
      parsed = parsedFields root host port tls := by
  unfold parsedEndpoint at h
  split at h
  · rename_i host port tls hhost hport htls
    dsimp only at h
    split at h
    · rename_i hvalid
      exact ⟨host, port, tls, hhost, hport, htls, hvalid, (Option.some.inj h).symm⟩
    · cases h
  · cases h

/-- An object with the three members is parsed to their values, if these are
valid. -/
theorem parsedEndpoint_of_members
    (hhost : root.getObjectItemCaseSensitive hostKey = some (.string host))
    (hport : root.getObjectItemCaseSensitive portKey = some (.number port))
    (htls : root.getObjectItemCaseSensitive tlsKey = some (.bool tls)) :
    parsedEndpoint root =
      if mqttEndpointIsValid (parsedFields root host port tls) then
        some (parsedFields root host port tls)
      else none := by
  unfold parsedEndpoint
  rw [hhost, hport, htls]
  rfl

/-- Nothing is parsed from an object exactly when it is unusable. -/
theorem parsedEndpoint_eq_none_iff :
    parsedEndpoint root = none ↔ Unusable root := by
  constructor
  · intro hnone host port tls hhost hport htls
    rw [parsedEndpoint_of_members hhost hport htls] at hnone
    split at hnone
    · cases hnone
    · rename_i hvalid
      rw [parsedFields_isValid_iff] at hvalid
      by_cases hempty : cString host = []
      · exact Or.inl hempty
      · by_contra hother
        exact hvalid ⟨hempty, fun hport => hother (Or.inr hport)⟩
  · intro hunusable
    cases hparsed : parsedEndpoint root with
    | none => rfl
    | some parsed =>
        obtain ⟨host, port, tls, hhost, hport, htls, hvalid, -⟩ := parsedEndpoint_eq_some hparsed
        obtain ⟨hnonempty, hnonzero⟩ := parsedFields_isValid_iff.mp hvalid
        rcases hunusable host port tls hhost hport htls with hempty | hzero
        · exact absurd hempty hnonempty
        · exact absurd hzero hnonzero

/-- A credential is copied as it is given when it fits. -/
theorem parsedCredential_eq_givenText_iff (item : Option CJson) :
    parsedCredential item = givenText item ↔ FitsArray (givenText item) credentialSize := by
  have hnone : FitsArray [] credentialSize := ⟨List.not_mem_nil, by decide⟩
  cases item with
  | none => exact iff_of_true rfl hnone
  | some value =>
      cases value with
      | string text => exact strlcpy_eq_self_iff (by decide)
      | null => exact iff_of_true rfl hnone
      | bool value => exact iff_of_true rfl hnone
      | number value => exact iff_of_true rfl hnone
      | array items => exact iff_of_true rfl hnone
      | object members => exact iff_of_true rfl hnone

/-- What is parsed is what the object gives exactly when its values fit. -/
theorem gives_iff_valuesFit
    {parsed : MqttEndpoint} (h : parsedEndpoint root = some parsed) :
    Gives root parsed ↔ ValuesFit root := by
  obtain ⟨host, port, tls, hhost, hport, htls, hvalid, rfl⟩ := parsedEndpoint_eq_some h
  obtain ⟨hnonempty, hnonzero⟩ := parsedFields_isValid_iff.mp hvalid
  have hgiven : givenText (root.getObjectItemCaseSensitive hostKey) = host := by
    rw [hhost]
    rfl
  constructor
  · intro hgives
    refine ⟨?_, ?_, ?_, ?_⟩
    · have hcopied := hgives.host
      rw [hhost] at hcopied
      injection hcopied with hcopied
      injection hcopied with hcopied
      rw [hgiven]
      exact (strlcpy_eq_self_iff (by decide)).mp hcopied.symm
    · intro port' hport'
      rw [hport] at hport'
      cases hport'
      have hstored := hgives.port
      rw [hport] at hstored
      injection hstored with hstored
      injection hstored with hstored
      exact (port_stored_iff hnonzero).mp hstored
    · exact (parsedCredential_eq_givenText_iff _).mp hgives.username
    · exact (parsedCredential_eq_givenText_iff _).mp hgives.password
  · intro hfit
    have hfits := hfit.host
    rw [hgiven] at hfits
    have hcopied : strlcpy host hostSize = host := (strlcpy_eq_self_iff (by decide)).mpr hfits
    have hstored := (port_stored_iff hnonzero).mpr (hfit.port port hport)
    obtain ⟨n, hpos, hn, hportn⟩ := hfit.port port hport
    have hrange : (UInt16.ofInt (valueint port)).toNat = n := by
      rw [hportn] at hstored
      rw [hportn]
      exact_mod_cast hstored.symm
    refine
      { host := ?_
        hostNonempty := ?_
        port := ?_
        portInRange := ?_
        tls := htls
        username := (parsedCredential_eq_givenText_iff _).mpr hfit.username
        password := (parsedCredential_eq_givenText_iff _).mpr hfit.password }
    · show _ = some (CJson.string (strlcpy host hostSize))
      rw [hhost, hcopied]
    · show strlcpy host hostSize ≠ []
      rw [strlcpy_of_fits]
      · exact hnonempty
      · rw [← hcopied]
        exact lt_of_le_of_lt (length_cString_le _) (by rw [hcopied]; exact hfits.2)
    · show _ = some (CJson.number (UInt16.ofInt (valueint port)).toNat)
      rw [← hstored, hport]
    · show 1 ≤ (UInt16.ofInt (valueint port)).toNat ∧ (UInt16.ofInt (valueint port)).toNat ≤ 65535
      rw [hrange]
      exact ⟨hpos, hn⟩

/-- Where the values fit, none is oversized. -/
theorem ValuesFit.not_oversized
    (h : ValuesFit root) :
    ¬ Oversized root := by
  rintro (hhost | husername | hpassword | ⟨port, hport, hrange⟩)
  · exact absurd h.host.2 (Nat.not_lt.mpr hhost)
  · exact absurd h.username.2 (Nat.not_lt.mpr husername)
  · exact absurd h.password.2 (Nat.not_lt.mpr hpassword)
  · obtain ⟨n, hpos, hn, rfl⟩ := h.port port hport
    rcases hrange with hlow | hhigh
    · exact absurd hlow (not_lt.mpr (by exact_mod_cast hpos))
    · exact absurd hhigh (not_lt.mpr (by exact_mod_cast hn))

end Parsed

/-! ## Fetches -/

section Fetch

variable (cJSONParse : Memory → Option CJson) (inp : FetchInput) (out : MqttEndpoint)

/-- A fetch returns what the object is parsed to, if there is one. -/
theorem fetchMqttEndpointFromHttps_eq :
    fetchMqttEndpointFromHttps cJSONParse inp out =
      match (discoveryRoot cJSONParse inp).bind parsedEndpoint with
      | none => (out, false)
      | some parsed => (parsed, true) := by
  unfold fetchMqttEndpointFromHttps discoveryRoot
  cases discoveryResponse inp with
  | none => rfl
  | some buffer =>
      dsimp only [Option.bind_some]
      cases cJSONParse buffer with
      | none => rfl
      | some root => rfl

/-- A fetch that returns nothing leaves `*out` as it was. -/
theorem fetchMqttEndpointFromHttps_unchanged
    (h : (fetchMqttEndpointFromHttps cJSONParse inp out).2 = false) :
    (fetchMqttEndpointFromHttps cJSONParse inp out).1 = out := by
  rw [fetchMqttEndpointFromHttps_eq] at h ⊢
  split at h
  · rfl
  · cases h

/-- A fetch is one of those that the connection is modelled with: it reports a
valid endpoint or none. -/
theorem exists_fetched :
    ∃ fetched : Option ValidEndpoint,
      fetchMqttEndpointFromHttps cJSONParse inp out =
        match fetched with
        | none => (out, false)
        | some endpoint => (endpoint.val, true) := by
  rw [fetchMqttEndpointFromHttps_eq]
  cases hparsed : (discoveryRoot cJSONParse inp).bind parsedEndpoint with
  | none => exact ⟨none, rfl⟩
  | some parsed =>
      obtain ⟨root, -, hroot⟩ := Option.bind_eq_some_iff.mp hparsed
      obtain ⟨host, port, tls, -, -, -, hvalid, rfl⟩ := parsedEndpoint_eq_some hroot
      exact ⟨some ⟨_, hvalid⟩, rfl⟩

/-- A fetch gives a valid endpoint or none, and what is promised of it holds
exactly when the object is none that could be an endpoint, or its values fit. -/
theorem fetch_faithful_iff :
    (∃ fetched : Option ValidEndpoint,
      fetchMqttEndpointFromHttps cJSONParse inp out =
        match fetched with
        | none => (out, false)
        | some endpoint => (endpoint.val, true)) ∧
      (FetchFaithful cJSONParse inp out ↔
        ∀ root ∈ discoveryRoot cJSONParse inp, Unusable root ∨ ValuesFit root) := by
  refine ⟨exists_fetched cJSONParse inp out, ?_⟩
  have hfetch := fetchMqttEndpointFromHttps_eq cJSONParse inp out
  constructor
  · intro h root hroot
    rw [hroot, Option.bind_some] at hfetch
    cases hparsed : parsedEndpoint root with
    | none => exact Or.inl (parsedEndpoint_eq_none_iff.mp hparsed)
    | some parsed =>
        right
        rw [hparsed] at hfetch
        obtain ⟨root', hroot', hgives⟩ := h.returned (by rw [hfetch])
        rw [hroot] at hroot'
        cases hroot'
        rw [hfetch] at hgives
        exact (gives_iff_valuesFit hparsed).mp hgives
  · intro h
    refine ⟨fun hreturned => ?_, fun root hroot hoversized => ?_,
      fetchMqttEndpointFromHttps_unchanged cJSONParse inp out⟩
    · cases hroot : discoveryRoot cJSONParse inp with
      | none =>
          rw [hroot] at hfetch
          rw [hfetch] at hreturned
          cases hreturned
      | some root =>
          rw [hroot, Option.bind_some] at hfetch
          cases hparsed : parsedEndpoint root with
          | none =>
              rw [hparsed] at hfetch
              rw [hfetch] at hreturned
              cases hreturned
          | some parsed =>
              rw [hparsed] at hfetch
              refine ⟨root, rfl, ?_⟩
              rw [hfetch]
              rcases h root hroot with hunusable | hfit
              · rw [parsedEndpoint_eq_none_iff.mpr hunusable] at hparsed
                cases hparsed
              · exact (gives_iff_valuesFit hparsed).mpr hfit
    · rcases h root hroot with hunusable | hfit
      · rw [hroot, Option.bind_some, parsedEndpoint_eq_none_iff.mpr hunusable] at hfetch
        rw [hfetch]
      · exact absurd hoversized hfit.not_oversized

end Fetch

/-- The body of a response with a port that is too large,
`{"host":"a","port":65537,"tls":true}`. -/
def largePortBody : List UInt8 :=
  [123, 34, 104, 111, 115, 116, 34, 58, 34, 97, 34, 44, 34, 112, 111, 114, 116, 34, 58, 54, 53, 53,
    51, 55, 44, 34, 116, 108, 115, 34, 58, 116, 114, 117, 101, 125]

/-- What it is parsed to. -/
def largePortRoot : CJson :=
  .object [(hostKey, .string [97]), (portKey, .number 65537), (tlsKey, .bool true)]

/-- A request that is answered with it. -/
def largePortFetch : FetchInput where
  client := true
  stack := fun _ => 0
  chunks := [largePortBody]
  performed := true
  statusCode := 200

/-- Port 65537 is accepted as port 1. -/
theorem largePort_unfaithful :
    ¬ ∀ cJSONParse inp out, FetchFaithful cJSONParse inp out := by
  intro h
  have hfaithful := h (fun _ => some largePortRoot) largePortFetch .zero
  have hoversized : Oversized largePortRoot :=
    Or.inr (Or.inr (Or.inr ⟨65537, rfl, Or.inr (by decide)⟩))
  have hrejected := hfaithful.rejected largePortRoot rfl hoversized
  rw [fetchMqttEndpointFromHttps_eq] at hrejected
  exact absurd hrejected (by decide)

end Mqtt
end AvensysEsp32
