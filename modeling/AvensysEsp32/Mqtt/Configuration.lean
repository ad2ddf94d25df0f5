import AvensysEsp32.Mqtt.Coherence
import AvensysEsp32.Mqtt.DiscoveredEndpoint
import AvensysEsp32.Mqtt.EndpointSave

/-!
# What the client is configured with

`mqtt_app_start_with_endpoint` prints the endpoint into a URI and gives it to
the client with the credentials.  Of an endpoint whose strings fit their arrays
nothing is cut off, and the URI reads in one way only: after the scheme, its last
colon parts the host from the port.

In every run there is a client exactly while MQTT is started, and its
configuration tells which endpoint is the active one.
-/

namespace AvensysEsp32
namespace Mqtt

open Foundation

/-! ## The URI -/

/-- A colon that none follows parts a text in one way. -/
theorem append_colon_inj
    {as bs ds es : List UInt8} (hds : 58 ∉ ds) (hes : 58 ∉ es)
    (h : as ++ 58 :: ds = bs ++ 58 :: es) :
    as = bs ∧ ds = es := by
  induction as generalizing bs with
  | nil =>
      cases bs with
      | nil => exact ⟨rfl, (List.cons.inj h).2⟩
      | cons b bs =>
          have htail : ds = bs ++ 58 :: es := (List.cons.inj h).2
          exact absurd (htail ▸ List.mem_append_right bs List.mem_cons_self) hds
  | cons a as ih =>
      cases bs with
      | nil =>
          have htail : as ++ 58 :: ds = es := (List.cons.inj h).2
          exact absurd (htail ▸ List.mem_append_right as List.mem_cons_self) hes
      | cons b bs =>
          obtain ⟨hhead, htail⟩ := List.cons.inj h
          obtain ⟨rfl, rfl⟩ := ih htail
          exact ⟨congrArg (· :: as) hhead, rfl⟩

/-- There is no colon among digits. -/
theorem colon_not_mem_decimal (value : Nat) :
    (58 : UInt8) ∉ decimal value := by
  intro hmem
  exact absurd (isdigit_of_mem_decimal value hmem) (by decide)

/-- The characters of a port are as many as five. -/
theorem length_decimal_port (port : UInt16) :
    (decimal port.toNat).length ≤ 5 := by
  have hport := port.toNat_lt
  exact length_decimal_le (by decide) (by omega)

/-- What follows the scheme. -/
def uriRest (endpoint : MqttEndpoint) : List UInt8 :=
  [58, 47, 47] ++ endpoint.host ++ 58 :: decimal endpoint.port.toNat

/-- The URI of an endpoint that fits is not cut off. -/
theorem mqttUri_of_fits {endpoint : MqttEndpoint} (h : endpoint.Fits) :
    mqttUri endpoint =
      109 :: 113 :: 116 :: 116 :: ((if endpoint.tls then [115] else []) ++ uriRest endpoint) := by
  have hhost : endpoint.host.length < 128 := h.host
  have hport := length_decimal_port endpoint.port
  unfold mqttUri uriRest
  rw [List.take_of_length_le]
  · simp
  · cases endpoint.tls with
    | true => simp; omega
    | false => simp; omega

/-- The URI tells the host, the port and the transport. -/
theorem mqttUri_injective
    {a b : MqttEndpoint} (ha : a.Fits) (hb : b.Fits) (h : mqttUri a = mqttUri b) :
    a.host = b.host ∧ a.port = b.port ∧ a.tls = b.tls := by
  rw [mqttUri_of_fits ha, mqttUri_of_fits hb] at h
  have hrest : (if a.tls then [115] else []) ++ uriRest a =
      (if b.tls then [115] else []) ++ uriRest b := by
    simpa using h
  have hparts : uriRest a = uriRest b → a.host = b.host ∧ a.port = b.port := by
    intro heq
    have hhost : a.host ++ 58 :: decimal a.port.toNat = b.host ++ 58 :: decimal b.port.toNat := by
      simpa [uriRest] using heq
    obtain ⟨hhost, hport⟩ :=
      append_colon_inj (colon_not_mem_decimal _) (colon_not_mem_decimal _) hhost
    exact ⟨hhost, UInt16.toNat_inj.mp (decimal_injective hport)⟩
  cases hatls : a.tls with
  | true =>
      cases hbtls : b.tls with
      | true =>
          rw [hatls, hbtls] at hrest
          obtain ⟨hhost, hport⟩ := hparts (List.cons.inj hrest).2
          exact ⟨hhost, hport, rfl⟩
      | false =>
          -- The fifth character of the one is an s, of the other a colon.
          rw [hatls, hbtls] at hrest
          exact absurd (List.cons.inj hrest).1 (by decide)
  | false =>
      cases hbtls : b.tls with
      | true =>
          rw [hatls, hbtls] at hrest
          exact absurd (List.cons.inj hrest).1 (by decide)
      | false =>
          rw [hatls, hbtls] at hrest
          obtain ⟨hhost, hport⟩ := hparts hrest
          exact ⟨hhost, hport, rfl⟩

/-! ## The configuration -/

/-- What of the client its configuration decides. -/
def MqttClient.settings (client : MqttClient) :
    List UInt8 × Option (List UInt8) × Option (List UInt8) :=
  (client.uri, client.username, client.password)

/-- An empty credential is given as the null pointer, and no other is. -/
theorem given_inj {as bs : List UInt8}
    (h : (if as = [] then none else some as) = if bs = [] then none else some bs) :
    as = bs := by
  by_cases has : as = []
  · by_cases hbs : bs = []
    · rw [has, hbs]
    · rw [if_pos has, if_neg hbs] at h
      cases h
  · by_cases hbs : bs = []
    · rw [if_neg has, if_pos hbs] at h
      cases h
    · rw [if_neg has, if_neg hbs] at h
      exact Option.some.inj h

/-- The configuration of a client tells the endpoint it was made from. -/
theorem settings_injective
    {a b : MqttEndpoint} (ha : a.Fits) (hb : b.Fits)
    (h : (MqttClient.init a).settings = (MqttClient.init b).settings) :
    a = b := by
  obtain ⟨huri, hcredentials⟩ := Prod.mk.inj h
  obtain ⟨husername, hpassword⟩ := Prod.mk.inj hcredentials
  obtain ⟨hhost, hport, htls⟩ := mqttUri_injective ha hb huri
  cases a
  cases b
  exact MqttEndpoint.mk.injEq .. ▸ ⟨hhost, hport, htls, given_inj husername, given_inj hpassword⟩

/-- A property that every endpoint has which is selected: the default, one that
is loaded, and so one that is fetched, if the fetched ones have it. -/
structure Selectable (good : MqttEndpoint → Prop) : Prop where
  valid : ∀ {endpoint}, good endpoint → mqttEndpointIsValid endpoint = true
  default : good mqttEndpointDefault
  loaded : ∀ {reads nvs endpoint}, loadMqttEndpointFromNvs reads nvs = some endpoint → good endpoint

/-- What a pass fetches has the property, the credentials being completed. -/
def FetchesGood (good : MqttEndpoint → Prop) (inp : PassInput) : Prop :=
  ∀ fetched ∈ inp.fetched, ∀ selected, good selected → good (withCredentialsOf selected fetched.1)

/-- There is a client exactly while MQTT is started, and it is configured with
the active endpoint. -/
structure Configured (good : MqttEndpoint → Prop) (s : MqttState) : Prop where
  selected : s.endpointInitialized = true → good s.selectedEndpoint
  started : s.mqttStarted = true ↔ s.client ≠ none
  active : s.client ≠ none → good s.activeEndpoint
  settings : ∀ client, s.client = some client →
    client.settings = (MqttClient.init s.activeEndpoint).settings

/-- Two states agree in the endpoints and in the configuration of the client. -/
structure SameConfiguration (s s' : MqttState) : Prop where
  settings : s'.client.map MqttClient.settings = s.client.map MqttClient.settings
  mqttStarted : s'.mqttStarted = s.mqttStarted
  endpointInitialized : s'.endpointInitialized = s.endpointInitialized
  selectedEndpoint : s'.selectedEndpoint = s.selectedEndpoint
  activeEndpoint : s'.activeEndpoint = s.activeEndpoint

section Configuration

variable {good : MqttEndpoint → Prop} {s s' s'' : MqttState}

theorem SameConfiguration.trans
    (h : SameConfiguration s s') (h' : SameConfiguration s' s'') :
    SameConfiguration s s'' where
  settings := h'.settings.trans h.settings
  mqttStarted := h'.mqttStarted.trans h.mqttStarted
  endpointInitialized := h'.endpointInitialized.trans h.endpointInitialized
  selectedEndpoint := h'.selectedEndpoint.trans h.selectedEndpoint
  activeEndpoint := h'.activeEndpoint.trans h.activeEndpoint

theorem SameConfiguration.client_eq_none (h : SameConfiguration s s') :
    s'.client = none ↔ s.client = none := by
  rw [← Option.map_eq_none_iff (f := MqttClient.settings), h.settings, Option.map_eq_none_iff]

theorem SameConfiguration.configured
    (h : SameConfiguration s s') (hs : Configured good s) :
    Configured good s' where
  selected := by
    intro hinit
    rw [h.selectedEndpoint]
    exact hs.selected (h.endpointInitialized ▸ hinit)
  started := by
    rw [h.mqttStarted, hs.started, ne_eq, ne_eq, h.client_eq_none]
  active := by
    intro hclient
    rw [h.activeEndpoint]
    exact hs.active (mt h.client_eq_none.mpr hclient)
  settings := by
    intro client hclient
    have hmap := h.settings
    rw [hclient] at hmap
    obtain ⟨client₀, hclient₀, hsettings⟩ := Option.map_eq_some_iff.mp hmap.symm
    rw [h.activeEndpoint, ← hs.settings client₀ hclient₀, hsettings]

/-! ## What leaves the configuration alone -/

theorem settings_subscribe (identity : List UInt8) (s : MqttState) :
    (mqttSubscribeIdentityTopics identity s).client.map MqttClient.settings =
      s.client.map MqttClient.settings := by
  unfold mqttSubscribeIdentityTopics
  dsimp only
  split
  · rfl
  · rw [Option.map_map]
    rfl

theorem settings_unsubscribe (identity : List UInt8) (s : MqttState) :
    (mqttUnsubscribeIdentityTopics identity s).client.map MqttClient.settings =
      s.client.map MqttClient.settings := by
  unfold mqttUnsubscribeIdentityTopics
  dsimp only
  split
  · rfl
  · rw [Option.map_map]
    rfl

theorem settings_refreshHwIdChannel (force : Bool) (s : MqttState) :
    (refreshHwIdChannel force s).client.map MqttClient.settings =
      s.client.map MqttClient.settings := by
  unfold refreshHwIdChannel
  split
  · exact settings_subscribe s.deviceHwId s
  · rfl

theorem settings_refreshSerialChannel (force : Bool) (s : MqttState) :
    (refreshSerialChannel force s).client.map MqttClient.settings =
      s.client.map MqttClient.settings := by
  unfold refreshSerialChannel
  split
  · split
    · exact settings_unsubscribe s.lastSerialSubscribed s
    · rfl
  · split
    · dsimp only
      rw [settings_subscribe]
      split
      · exact settings_unsubscribe s.lastSerialSubscribed s
      · rfl
    · rfl

theorem sameConfiguration_refresh (force : Bool) (s : MqttState) :
    SameConfiguration s (mqttRefreshAppSubscriptions force s) := by
  have hsame := sameEndpoints_refresh force s
  refine ⟨?_, (sameSession_refresh force s).mqttStarted, hsame.endpointInitialized,
    hsame.selectedEndpoint, hsame.activeEndpoint⟩
  rw [mqttRefreshAppSubscriptions_eq]
  split
  · rfl
  · rw [settings_refreshSerialChannel, settings_refreshHwIdChannel]
    rfl

theorem settings_publish (force : Bool) (now : UInt32) (s : MqttState) :
    (mqttPublishStatus force now (mqttPublishLogEvent s)).client.map MqttClient.settings =
      s.client.map MqttClient.settings := by
  rfl

theorem settings_writeEeprom (tick : UInt32) (payload : List UInt8) (s : MqttState) :
    (writeEeprom tick payload s).client.map MqttClient.settings =
      s.client.map MqttClient.settings := by
  unfold writeEeprom refreshIfChanged
  split
  · rfl
  · dsimp only
    rw [mqttUpdateActiveSerialFromEeprom_eq]
    dsimp only
    split
    · exact (sameConfiguration_refresh false _).settings
    · rfl

theorem client_connectionLost (error : MqttError) (tick : UInt32) (s : MqttState) :
    (connectionLost error tick s).client = s.client := by
  unfold connectionLost recordFailure mqttPublishStatus mqttPublishLogEvent
  rfl

theorem settings_mqttEventHandler (tick : UInt32) (event : ClientEvent) (s : MqttState) :
    (mqttEventHandler tick event s).client.map MqttClient.settings =
      s.client.map MqttClient.settings := by
  rw [mqttEventHandler_eq]
  cases event with
  | connected =>
      dsimp only
      rw [settings_publish, (sameConfiguration_refresh true _).settings]
      rfl
  | subscribed =>
      dsimp only
      split
      · rfl
      · rfl
  | data topic payload =>
      dsimp only
      split
      · exact settings_writeEeprom tick payload (noticed s)
      · rfl
  | disconnected => exact congrArg _ (client_connectionLost _ tick (noticed s))
  | error => exact congrArg _ (client_connectionLost _ tick (noticed s))
  | unsubscribed => rfl
  | published => rfl
  | other => rfl

/-- The client's events leave its configuration alone. -/
theorem sameConfiguration_mqttEventHandler (tick : UInt32) (event : ClientEvent) (s : MqttState) :
    SameConfiguration s (mqttEventHandler tick event s) := by
  have hsame := sameEndpoints_mqttEventHandler tick event s
  refine ⟨settings_mqttEventHandler tick event s, ?_, hsame.endpointInitialized,
    hsame.selectedEndpoint, hsame.activeEndpoint⟩
  rw [(sameSession_mqttEventHandler tick event s).mqttStarted]
  unfold sessionAfter
  cases event with
  | subscribed =>
      dsimp only
      split
      · rfl
      · rfl
  | _ => rfl

/-! ## Passes -/

variable (hgood : Selectable good)

include hgood

theorem configured_endpointInitOnce
    (reads : NvsReads) (hs : Configured good s) :
    Configured good (mqttEndpointInitOnce reads s) := by
  unfold mqttEndpointInitOnce
  split
  · exact hs
  · refine ⟨fun _ => ?_, hs.started, hs.active, hs.settings⟩
    show good ((loadMqttEndpointFromNvs reads s.nvs).getD mqttEndpointDefault)
    cases hload : loadMqttEndpointFromNvs reads s.nvs with
    | none => exact hgood.default
    | some endpoint => exact hgood.loaded hload

/-- What every pass begins with. -/
theorem configured_preparePass
    (inp : PassInput) (hs : Configured good s) :
    Configured good (preparePass inp s).1 ∧ (preparePass inp s).1.endpointInitialized = true := by
  refine ⟨?_, (preparePass_endpoints inp s).1⟩
  unfold preparePass
  rw [mqttUpdateActiveSerialFromEeprom_eq]
  have hinit := configured_endpointInitOnce hgood inp.initReads hs
  exact ⟨hinit.selected, hinit.started, hinit.active, hinit.settings⟩

/-- A discovery selects an endpoint that is good. -/
theorem configured_discovery
    (inp : PassInput) (force : Bool) (hs : Configured good s)
    (hinit : s.endpointInitialized = true) (hfetch : FetchesGood good inp) :
    Configured good (mqttTryEndpointDiscovery inp force s).1 ∧
      (mqttTryEndpointDiscovery inp force s).1.endpointInitialized = true := by
  have hsame := sameConnection_discovery inp force s
  have hstays := (discovery_cases inp force s).1.trans hinit
  have hselected : good (mqttTryEndpointDiscovery inp force s).1.selectedEndpoint := by
    unfold mqttTryEndpointDiscovery
    dsimp only
    split
    · split
      · cases hfetched : inp.fetched with
        | some fetched =>
            dsimp only
            rw [selectFetched_selectedEndpoint]
            exact hfetch fetched hfetched s.selectedEndpoint (hs.selected hinit)
        | none =>
            dsimp only
            unfold selectFallback
            dsimp only
            cases hload : loadMqttEndpointFromNvs inp.reads s.nvs with
            | some endpoint => exact hgood.loaded hload
            | none => exact hgood.default
      · exact hs.selected hinit
    · exact hs.selected hinit
  refine ⟨⟨fun _ => hselected, ?_, ?_, ?_⟩, hstays⟩
  · rw [hsame.mqttStarted, hsame.client]
    exact hs.started
  · rw [hsame.client, hsame.activeEndpoint]
    exact hs.active
  · rw [hsame.client, hsame.activeEndpoint]
    exact hs.settings

/-- A start configures the client with the endpoint that becomes the active one. -/
theorem configured_startSelected
    (inp : PassInput) (hs : Configured good s) (hinit : s.endpointInitialized = true) :
    Configured good (startSelected inp s).1 := by
  have hselected := hs.selected hinit
  rw [startSelected_valid inp (hgood.valid hselected)]
  split
  · exact
      { selected := fun _ => hselected
        started := iff_of_true rfl (Option.some_ne_none _)
        active := fun _ => hselected
        settings := by
          rintro client ⟨⟩
          rfl }
  · exact
      { selected := fun _ => hselected
        started := iff_of_false Bool.false_ne_true fun hclient => hclient rfl
        active := fun hclient => absurd rfl hclient
        settings := nofun }

theorem configured_keepConnection
    (inp : PassInput) (serialChanged : Bool) (hs : Configured good s)
    (hinit : s.endpointInitialized = true) (hfetch : FetchesGood good inp) :
    Configured good (keepConnection inp serialChanged s).1 := by
  have hpublished : Configured good (mqttPublishStatus false inp.tick s) :=
    ⟨hs.selected, hs.started, hs.active, hs.settings⟩
  have hrefresh : ∀ s₁ : MqttState, Configured good s₁ → s₁.endpointInitialized = true →
      Configured good (periodicRefresh inp s₁).1 := by
    intro s₁ hs₁ hinit₁
    obtain ⟨hfound, hinit'⟩ := configured_discovery hgood inp true hs₁ hinit₁ hfetch
    unfold periodicRefresh
    split
    · dsimp only
      split
      · exact configured_startSelected hgood inp hfound hinit'
      · exact hfound
    · exact hs₁
  unfold keepConnection
  dsimp only
  split
  · have hsame := sameConfiguration_refresh false (mqttPublishStatus false inp.tick s)
    exact hrefresh _ (hsame.configured hpublished) (hsame.endpointInitialized.trans hinit)
  · exact hrefresh _ hpublished hinit

theorem configured_reconnect
    (inp : PassInput) (hs : Configured good s)
    (hinit : s.endpointInitialized = true) (hfetch : FetchesGood good inp) :
    Configured good (reconnect inp s).1 := by
  obtain ⟨hfound, hinit'⟩ := configured_discovery hgood inp false hs hinit hfetch
  unfold reconnect
  generalize mqttTryEndpointDiscovery inp false s = discovered at *
  obtain ⟨found, updated⟩ := discovered
  have hcounted : Configured good
      { found with mqttReconnectAttempts := found.mqttReconnectAttempts + 1 } :=
    ⟨hfound.selected, hfound.started, hfound.active, hfound.settings⟩
  dsimp only
  split
  · exact configured_startSelected hgood inp hcounted hinit'
  · split
    · split
      · exact hcounted
      · exact ⟨hcounted.selected, hcounted.started, hcounted.active, hcounted.settings⟩
    · exact configured_startSelected hgood inp hcounted hinit'

/-- A pass keeps the client configured. -/
theorem configured_maintenance
    (inp : PassInput) (hs : Configured good s) (hfetch : FetchesGood good inp) :
    Configured good (mqttConnectionMaintenance inp s).1 := by
  obtain ⟨hprepared, hinit⟩ := configured_preparePass hgood inp hs
  unfold mqttConnectionMaintenance
  dsimp only
  split
  · exact hprepared
  · split
    · obtain ⟨hfound, hinit'⟩ := configured_discovery hgood inp true hprepared hinit hfetch
      exact configured_startSelected hgood inp hfound hinit'
    · split
      · exact configured_keepConnection hgood inp _ hprepared hinit hfetch
      · split
        · exact hprepared
        · exact configured_reconnect hgood inp hprepared hinit hfetch

/-- The endpoint that an event fetches is good. -/
def EventFetchesGood (good : MqttEndpoint → Prop) (e : MqttEvent) (_ : MqttState) : Prop :=
  ∀ inp, e = .pass inp → FetchesGood good inp

theorem configured_mqttStep
    (e : MqttEvent) (hs : Configured good s) (hfetch : EventFetchesGood good e s) :
    Configured good (mqttStep e s) := by
  cases e with
  | taskStarted reads =>
      unfold mqttStep
      rw [mqttUpdateActiveSerialFromEeprom_eq]
      have hnoticed : Configured good (noticed s) :=
        ⟨hs.selected, hs.started, hs.active, hs.settings⟩
      exact configured_endpointInitOnce hgood reads hnoticed
  | pass inp => exact configured_maintenance hgood inp hs (hfetch inp rfl)
  | client tick event =>
      unfold mqttStep
      dsimp only
      split
      · exact hs
      · rename_i client hclient
        have hevent : SameConfiguration s { s with client := some (client.after event) } := by
          refine ⟨?_, rfl, rfl, rfl, rfl⟩
          rw [hclient]
          show some (client.after event).settings = some client.settings
          cases event <;> rfl
        exact (hevent.trans (sameConfiguration_mqttEventHandler tick event _)).configured hs
  | subscribeAppTopics => exact (sameConfiguration_refresh false s).configured hs
  | eeprom gRDEeprom => exact ⟨hs.selected, hs.started, hs.active, hs.settings⟩
  | wifi connected => exact ⟨hs.selected, hs.started, hs.active, hs.settings⟩

omit hgood in
theorem configured_initial (efuseMac : Option (Vector UInt8 6)) (nvs : EndpointNvs) :
    Configured good (.initial efuseMac nvs) where
  selected := fun hinit => by cases hinit
  started := iff_of_false Bool.false_ne_true fun hclient => hclient rfl
  active := fun hclient => absurd rfl hclient
  settings := nofun

theorem configured_run
    (efuseMac : Option (Vector UInt8 6)) (nvs : EndpointNvs) {es : List MqttEvent}
    (hfetch : Along mqttStep (EventFetchesGood good) es (.initial efuseMac nvs)) :
    Configured good (run mqttStep es (.initial efuseMac nvs)) :=
  hfetch.invariant (fun e _ he hs => configured_mqttStep hgood e hs he)
    (configured_initial efuseMac nvs)

end Configuration

/-! ## Endpoints of the server, of NVS, and the default -/

/-- An endpoint that can be used, and is given to the client in full. -/
structure Usable (endpoint : MqttEndpoint) : Prop extends endpoint.Fits where
  valid : mqttEndpointIsValid endpoint = true

theorem length_strlcpy_lt (text : List UInt8) {size : Nat} (hsize : 0 < size) :
    (strlcpy text size).length < size := by
  unfold strlcpy
  rw [List.length_take]
  omega

theorem length_parsedCredential_lt (item : Option CJson) :
    (parsedCredential item).length < credentialSize := by
  unfold parsedCredential
  split
  · exact length_strlcpy_lt _ (by decide)
  · decide

/-- What a fetch returns fits the arrays of the endpoint. -/
theorem fits_of_fetch
    {cJSONParse : Memory → Option CJson} {request : FetchInput} {out endpoint : MqttEndpoint}
    (h : fetchMqttEndpointFromHttps cJSONParse request out = (endpoint, true)) :
    endpoint.Fits := by
  rw [fetchMqttEndpointFromHttps_eq] at h
  cases hparsed : (discoveryRoot cJSONParse request).bind parsedEndpoint with
  | none =>
      rw [hparsed] at h
      cases h
  | some parsed =>
      rw [hparsed] at h
      cases h
      obtain ⟨root, -, hroot⟩ := Option.bind_eq_some_iff.mp hparsed
      obtain ⟨host, port, tls, -, -, -, -, rfl⟩ := parsedEndpoint_eq_some hroot
      exact ⟨length_strlcpy_lt host (by decide), length_parsedCredential_lt _,
        length_parsedCredential_lt _⟩

theorem length_of_fittingString
    {stored : Option (List UInt8)} {size : Nat} {string : List UInt8}
    (h : fittingString stored size = some string) :
    string.length < size := by
  unfold fittingString at h
  obtain ⟨held, -, hheld⟩ := Option.bind_eq_some_iff.mp h
  split at hheld
  · rename_i hfits
    cases hheld
    exact hfits
  · cases hheld

/-- What is loaded fits as well. -/
theorem fits_of_load
    {reads : NvsReads} {nvs : EndpointNvs} {endpoint : MqttEndpoint}
    (h : loadMqttEndpointFromNvs reads nvs = some endpoint) :
    endpoint.Fits := by
  have hok := loadMqttEndpointFromNvs_of_some h
  unfold loadMqttEndpointFromNvs at hok
  obtain ⟨hread, -⟩ := Option.filter_eq_some_iff.mp hok
  obtain ⟨host, port, tls, username, password⟩ := endpoint
  obtain ⟨-, hhost, -, -, husername, hpassword⟩ := (readMqttEndpoint_ok_iff ..).mp hread
  exact ⟨length_of_fittingString hhost, length_of_fittingString husername,
    length_of_fittingString hpassword⟩

theorem selectable_usable : Selectable Usable where
  valid := Usable.valid
  default := ⟨⟨by decide, by decide, by decide⟩, by decide⟩
  loaded := fun h => ⟨fits_of_load h, loadMqttEndpointFromNvs_isValid h⟩

/-- What a pass fetches is what `FetchMqttEndpointFromHttps` makes of some
answer. -/
def FetchedByHttps (cJSONParse : Memory → Option CJson) (e : MqttEvent) (_ : MqttState) : Prop :=
  ∀ inp, e = .pass inp → ∀ fetched ∈ inp.fetched, ∃ request out,
    fetchMqttEndpointFromHttps cJSONParse request out = (fetched.1, true)

/-- Credentials that are completed still fit. -/
theorem fetchesGood_usable
    {cJSONParse : Memory → Option CJson} {e : MqttEvent} {s : MqttState}
    (h : FetchedByHttps cJSONParse e s) :
    EventFetchesGood Usable e s := by
  intro inp he fetched hfetched selected hselected
  obtain ⟨request, out, hfetch⟩ := h inp he fetched hfetched
  have hfits := fits_of_fetch hfetch
  refine ⟨⟨hfits.host, ?_, ?_⟩, fetched.2⟩
  · unfold withCredentialsOf
    dsimp only
    split
    · exact hselected.username
    · exact hfits.username
  · unfold withCredentialsOf
    dsimp only
    split
    · exact hselected.password
    · exact hfits.password

/-- In every run, whatever is answered, stored and lost, there is a client
exactly while MQTT is started, and among all endpoints its configuration fits
the active one only. -/
theorem client_tells_endpoint
    (efuseMac : Option (Vector UInt8 6)) (nvs : EndpointNvs)
    (cJSONParse : Memory → Option CJson) (es : List MqttEvent)
    (hfetch : Along mqttStep (FetchedByHttps cJSONParse) es (.initial efuseMac nvs)) :
    let s := run mqttStep es (.initial efuseMac nvs)
    (s.mqttStarted = true ↔ s.client ≠ none) ∧
      ∀ client, s.client = some client →
        Usable s.activeEndpoint ∧
          ∀ endpoint, endpoint.Fits →
            (client.settings = (MqttClient.init endpoint).settings ↔
              endpoint = s.activeEndpoint) := by
  intro s
  have hgood : Along mqttStep (EventFetchesGood Usable) es (.initial efuseMac nvs) :=
    hfetch.mono fun e s h => fetchesGood_usable h
  have hconfigured := configured_run selectable_usable efuseMac nvs hgood
  refine ⟨hconfigured.started, fun client hclient => ?_⟩
  have hactive := hconfigured.active (by rw [hclient]; exact Option.some_ne_none client)
  refine ⟨hactive, fun endpoint hfits => ?_⟩
  rw [hconfigured.settings client hclient]
  constructor
  · intro hsettings
    exact (settings_injective hactive.toFits hfits hsettings).symm
  · rintro rfl
    rfl

/-- The first pass starts the client with the default endpoint. -/
theorem default_told :
    (run mqttStep [.taskStarted .ok, .wifi true, passAt 5 none]
        (.initial none .empty)).activeEndpoint = mqttEndpointDefault ∧
      ∃ client, (run mqttStep [.taskStarted .ok, .wifi true, passAt 5 none]
          (.initial none .empty)).client = some client ∧
        ∀ endpoint : MqttEndpoint, endpoint.Fits →
          (client.settings = (MqttClient.init endpoint).settings ↔
            endpoint = mqttEndpointDefault) := by
  have hnothing : Along mqttStep (FetchedByHttps fun _ => none)
      [.taskStarted .ok, .wifi true, passAt 5 none] (.initial none .empty) := by
    refine ⟨nofun, nofun, ?_, trivial⟩
    rintro inp ⟨⟩ fetched hfetched
    cases hfetched
  obtain ⟨-, htold⟩ := client_tells_endpoint none .empty (fun _ => none) _ hnothing
  exact ⟨rfl, _, rfl, (htold _ rfl).2⟩

end Mqtt
end AvensysEsp32
