import AvensysEsp32.Mqtt.Passes

/-!
# The endpoint of the client

A start configures the client with the selected endpoint.  A discovery that
finds an endpoint reports it, and a client configured with another one is
started anew; a discovery that falls back on NVS or on the default selects an
endpoint too, but reports nothing, and the client goes on with the one it has.
-/

namespace AvensysEsp32
namespace Mqtt

open Foundation UnitComm

/-! ## What a discovery selects -/

/-- The endpoint that a discovery falls back on. -/
def fallbackEndpoint (inp : PassInput) (s : MqttState) : MqttEndpoint :=
  (loadMqttEndpointFromNvs inp.reads s.nvs).getD mqttEndpointDefault

/-- The hour since the last discovery is over. -/
def PeriodicDue (inp : PassInput) (s : MqttState) : Prop :=
  inp.tick - s.lastDiscoveryTick ≥ mqttDiscoveryInterval

instance (inp : PassInput) (s : MqttState) : Decidable (PeriodicDue inp s) :=
  inferInstanceAs (Decidable (_ ≥ _))

/-- A pass that finds a client makes a discovery. -/
def Discovers (inp : PassInput) (s : MqttState) : Prop :=
  if s.isMqttReady = true ∨ s.mqttConnected = true then PeriodicDue inp s
  else
    ¬ RetryHeld inp s ∧
      (PeriodicDue inp s ∨ s.mqttConsecutiveFailures ≥ mqttDiscoveryFailThreshold)

instance (inp : PassInput) (s : MqttState) : Decidable (Discovers inp s) :=
  haveI : Decidable (RetryHeld inp s) := inferInstanceAs (Decidable (_ ∧ _))
  if hkept : s.isMqttReady = true ∨ s.mqttConnected = true then
    decidable_of_iff (PeriodicDue inp s) (by rw [Discovers, if_pos hkept])
  else
    decidable_of_iff (¬ RetryHeld inp s ∧
      (PeriodicDue inp s ∨ s.mqttConsecutiveFailures ≥ mqttDiscoveryFailThreshold))
      (by rw [Discovers, if_neg hkept])

/-- A pass that finds a client makes a discovery, the fetch fails, and the
endpoint it falls back on is not that of the client. -/
def FallsBackElsewhere (inp : PassInput) (s : MqttState) : Prop :=
  s.wifiConnectedFlag = true ∧ s.client ≠ none ∧ Discovers inp s ∧ inp.fetched = none ∧
    fallbackEndpoint inp s ≠ s.activeEndpoint

instance (inp : PassInput) (s : MqttState) : Decidable (FallsBackElsewhere inp s) :=
  inferInstanceAs (Decidable (_ ∧ _))

/-- No event of a run is a pass that falls back on another endpoint. -/
def FallbackKept (e : MqttEvent) (s : MqttState) : Prop :=
  match e with
  | .pass inp => ¬ FallsBackElsewhere inp s
  | _ => True

instance (e : MqttEvent) (s : MqttState) : Decidable (FallbackKept e s) :=
  match e with
  | .pass _ => inferInstanceAs (Decidable (¬ _))
  | .taskStarted _ | .client _ _ | .subscribeAppTopics | .eeprom _ | .wifi _ => isTrue trivial

/-- A pass that starts the client or connects it again uses the endpoint that
is then selected. -/
def UsesSelected (e : MqttEvent) (s : MqttState) : Prop :=
  match e with
  | .pass inp =>
      (mqttConnectionMaintenance inp s).2 ≠ none →
        (mqttConnectionMaintenance inp s).1.client ≠ none →
          (mqttConnectionMaintenance inp s).1.activeEndpoint =
            (mqttConnectionMaintenance inp s).1.selectedEndpoint
  | _ => True

instance (e : MqttEvent) (s : MqttState) : Decidable (UsesSelected e s) :=
  match e with
  | .pass _ => inferInstanceAs (Decidable (_ → _ → _ = _))
  | .taskStarted _ | .client _ _ | .subscribeAppTopics | .eeprom _ | .wifi _ => isTrue trivial

/-- Two states agree in the endpoints, in what is stored of them, and in whether
there is a client. -/
structure SameEndpoints (s s' : MqttState) : Prop where
  client : s'.client = none ↔ s.client = none
  nvs : s'.nvs = s.nvs
  lastDiscoveryTick : s'.lastDiscoveryTick = s.lastDiscoveryTick
  endpointInitialized : s'.endpointInitialized = s.endpointInitialized
  selectedEndpoint : s'.selectedEndpoint = s.selectedEndpoint
  activeEndpoint : s'.activeEndpoint = s.activeEndpoint

theorem SameEndpoints.trans
    {s s' s'' : MqttState} (h : SameEndpoints s s') (h' : SameEndpoints s' s'') :
    SameEndpoints s s'' where
  client := h'.client.trans h.client
  nvs := h'.nvs.trans h.nvs
  lastDiscoveryTick := h'.lastDiscoveryTick.trans h.lastDiscoveryTick
  endpointInitialized := h'.endpointInitialized.trans h.endpointInitialized
  selectedEndpoint := h'.selectedEndpoint.trans h.selectedEndpoint
  activeEndpoint := h'.activeEndpoint.trans h.activeEndpoint

/-- A client has the selected endpoint, and there is none before the endpoints
are initialised. -/
structure Coherent (s : MqttState) : Prop where
  initialized : s.client ≠ none → s.endpointInitialized = true
  started : s.client ≠ none → s.mqttStarted = true
  endpoint : s.client ≠ none → s.activeEndpoint = s.selectedEndpoint

theorem coherent_of_no_client
    {s : MqttState} (h : s.client = none) :
    Coherent s :=
  ⟨fun hclient => absurd h hclient, fun hclient => absurd h hclient,
    fun hclient => absurd h hclient⟩

theorem SameEndpoints.coherent
    {s s' : MqttState} (h : SameEndpoints s s') (hstarted : s'.mqttStarted = s.mqttStarted)
    (hs : Coherent s) :
    Coherent s' where
  initialized := by
    intro hclient
    rw [h.endpointInitialized]
    exact hs.initialized (mt h.client.2 hclient)
  started := by
    intro hclient
    rw [hstarted]
    exact hs.started (mt h.client.2 hclient)
  endpoint := by
    intro hclient
    rw [h.activeEndpoint, h.selectedEndpoint]
    exact hs.endpoint (mt h.client.2 hclient)

/-! ## What leaves the endpoints alone -/

theorem sameEndpoints_refresh (force : Bool) (s : MqttState) :
    SameEndpoints s (mqttRefreshAppSubscriptions force s) := by
  have hclient := (sameSession_refresh force s).client_eq_none
  obtain ⟨client, last, subscribed, heq, -⟩ := mqttRefreshAppSubscriptions_frame force s
  rw [heq] at hclient ⊢
  exact ⟨hclient, rfl, rfl, rfl, rfl, rfl⟩

theorem sameEndpoints_publish (force : Bool) (now : UInt32) (s : MqttState) :
    SameEndpoints s (mqttPublishStatus force now (mqttPublishLogEvent s)) :=
  ⟨Iff.rfl, rfl, rfl, rfl, rfl, rfl⟩

theorem sameEndpoints_noticed (s : MqttState) :
    SameEndpoints s (noticed s) :=
  ⟨Iff.rfl, rfl, rfl, rfl, rfl, rfl⟩

theorem sameEndpoints_recordFailure (now : UInt32) (s : MqttState) :
    SameEndpoints s (recordFailure now s) :=
  ⟨Iff.rfl, rfl, rfl, rfl, rfl, rfl⟩

theorem sameEndpoints_connectionLost (error : MqttError) (tick : UInt32) (s : MqttState) :
    SameEndpoints s (connectionLost error tick s) := by
  unfold connectionLost
  dsimp only
  refine SameEndpoints.trans ?_
    ((sameEndpoints_publish true tick _).trans (sameEndpoints_recordFailure tick _))
  exact ⟨Iff.rfl, rfl, rfl, rfl, rfl, rfl⟩

theorem sameEndpoints_writeEeprom (tick : UInt32) (payload : List UInt8) (s : MqttState) :
    SameEndpoints s (writeEeprom tick payload s) := by
  unfold writeEeprom refreshIfChanged
  split
  · exact ⟨Iff.rfl, rfl, rfl, rfl, rfl, rfl⟩
  · dsimp only
    rw [mqttUpdateActiveSerialFromEeprom_eq]
    dsimp only
    split
    · refine SameEndpoints.trans ?_ (sameEndpoints_refresh false _)
      exact ⟨Iff.rfl, rfl, rfl, rfl, rfl, rfl⟩
    · exact ⟨Iff.rfl, rfl, rfl, rfl, rfl, rfl⟩

theorem sameEndpoints_mqttEventHandler (tick : UInt32) (event : ClientEvent) (s : MqttState) :
    SameEndpoints s (mqttEventHandler tick event s) := by
  have hnoticed := sameEndpoints_noticed s
  rw [mqttEventHandler_eq]
  cases event with
  | connected =>
      have hrefresh := sameEndpoints_refresh true
        { noticed s with
          mqttConnected := true
          mqttConsecutiveFailures := 0
          mqttReconnectAttempts := 0
          nextMqttRetryTick := 0
          lastError := .none
          hwIdSubscribed := false
          lastSerialSubscribed := [] }
      refine hnoticed.trans (SameEndpoints.trans ?_
        (hrefresh.trans (sameEndpoints_publish true tick _)))
      exact ⟨Iff.rfl, rfl, rfl, rfl, rfl, rfl⟩
  | subscribed =>
      dsimp only
      split
      · exact hnoticed.trans ⟨Iff.rfl, rfl, rfl, rfl, rfl, rfl⟩
      · exact hnoticed.trans ⟨Iff.rfl, rfl, rfl, rfl, rfl, rfl⟩
  | data topic payload =>
      dsimp only
      split
      · exact hnoticed.trans (sameEndpoints_writeEeprom tick payload _)
      · exact hnoticed
  | disconnected => exact hnoticed.trans (sameEndpoints_connectionLost _ tick _)
  | error => exact hnoticed.trans (sameEndpoints_connectionLost _ tick _)
  | unsubscribed => exact hnoticed
  | published => exact hnoticed
  | other => exact hnoticed

/-! ## Discoveries and starts -/

/-- A discovery selects nothing, an endpoint that it reports, or the one that it
falls back on. -/
theorem discovery_cases (inp : PassInput) (force : Bool) (s : MqttState) :
    (mqttTryEndpointDiscovery inp force s).1.endpointInitialized = s.endpointInitialized ∧
      ((mqttTryEndpointDiscovery inp force s).2 = false ∧
          (mqttTryEndpointDiscovery inp force s).1.selectedEndpoint = s.selectedEndpoint ∨
        (mqttTryEndpointDiscovery inp force s).2 = true ∧ mqttEndpointIsValid
          (mqttTryEndpointDiscovery inp force s).1.selectedEndpoint = true ∨
        (mqttTryEndpointDiscovery inp force s).2 = false ∧ inp.fetched = none ∧
          (force = true ∨ PeriodicDue inp s ∨
            s.mqttConsecutiveFailures ≥ mqttDiscoveryFailThreshold) ∧
          (mqttTryEndpointDiscovery inp force s).1.selectedEndpoint = fallbackEndpoint inp s) := by
  unfold mqttTryEndpointDiscovery
  dsimp only
  split
  · rename_i hmade
    split
    · cases hfetched : inp.fetched with
      | some fetched =>
          dsimp only
          have hselected := selectFetched_selectedEndpoint inp fetched.1
            { s with lastDiscoveryTick := inp.tick }
          refine ⟨?_, Or.inr (Or.inl ⟨rfl, ?_⟩)⟩
          · unfold selectFetched
            dsimp only
            split
            · rfl
            · rfl
          · rw [hselected]
            exact fetched.2
      | none =>
          dsimp only
          unfold selectFallback fallbackEndpoint
          dsimp only
          cases loadMqttEndpointFromNvs inp.reads s.nvs with
          | some endpoint => exact ⟨rfl, Or.inr (Or.inr ⟨rfl, rfl, hmade, rfl⟩)⟩
          | none => exact ⟨rfl, Or.inr (Or.inr ⟨rfl, rfl, hmade, rfl⟩)⟩
    · exact ⟨rfl, Or.inl ⟨rfl, rfl⟩⟩
  · exact ⟨rfl, Or.inl ⟨rfl, rfl⟩⟩

/-- A start leaves a client with the selected endpoint, or none. -/
theorem coherent_startSelected
    (inp : PassInput) {s : MqttState} (hinit : s.endpointInitialized = true)
    (hs : s.client = none ∨ mqttEndpointIsValid s.selectedEndpoint = true) :
    Coherent (startSelected inp s).1 := by
  cases hvalid : mqttEndpointIsValid s.selectedEndpoint with
  | false =>
      rw [startSelected_invalid inp hvalid]
      exact coherent_of_no_client (hs.resolve_right (by simp [hvalid]))
  | true =>
      rw [startSelected_valid inp hvalid]
      split
      · exact ⟨fun _ => hinit, fun _ => rfl, fun _ => rfl⟩
      · exact coherent_of_no_client rfl

/-- What follows a discovery that is made while there may be a client: a start
when it reports another endpoint, and otherwise the client as it is. -/
theorem coherent_after_discovery
    (inp : PassInput) (force : Bool) {s : MqttState} (hs : Coherent s)
    (hkept : s.client ≠ none → inp.fetched = none →
      (force = true ∨ PeriodicDue inp s ∨
        s.mqttConsecutiveFailures ≥ mqttDiscoveryFailThreshold) →
      fallbackEndpoint inp s = s.activeEndpoint)
    (hnostart : ¬ ((mqttTryEndpointDiscovery inp force s).2 = true ∧
      mqttEndpointEquals (mqttTryEndpointDiscovery inp force s).1.selectedEndpoint
        (mqttTryEndpointDiscovery inp force s).1.activeEndpoint = false)) :
    Coherent (mqttTryEndpointDiscovery inp force s).1 := by
  have hsame := sameConnection_discovery inp force s
  obtain ⟨hinit, hselected⟩ := discovery_cases inp force s
  have hclient : (mqttTryEndpointDiscovery inp force s).1.client ≠ none → s.client ≠ none :=
    fun h => hsame.client ▸ h
  refine ⟨fun h => hinit.trans (hs.initialized (hclient h)),
    fun h => hsame.mqttStarted.trans (hs.started (hclient h)), fun h => ?_⟩
  rcases hselected with ⟨-, hselected⟩ | ⟨hupdated, -⟩ | ⟨-, hfetched, hmade, hselected⟩
  · rw [hsame.activeEndpoint, hselected]
    exact hs.endpoint (hclient h)
  · have hequal : mqttEndpointEquals (mqttTryEndpointDiscovery inp force s).1.selectedEndpoint
        (mqttTryEndpointDiscovery inp force s).1.activeEndpoint = true := by
      simpa using fun hdiffers => hnostart ⟨hupdated, hdiffers⟩
    exact ((mqttEndpointEquals_iff _ _).1 hequal).symm
  · rw [hsame.activeEndpoint, hselected]
    exact (hkept (hclient h) hfetched hmade).symm

/-! ## Passes -/

/-- What a pass begins with leaves the endpoints coherent and initialised. -/
theorem preparePass_endpoints (inp : PassInput) (s : MqttState) :
    (preparePass inp s).1.endpointInitialized = true ∧
      (preparePass inp s).1.nvs = s.nvs ∧
      (preparePass inp s).1.lastDiscoveryTick = s.lastDiscoveryTick ∧
      (s.endpointInitialized = true →
        (preparePass inp s).1.selectedEndpoint = s.selectedEndpoint) := by
  unfold preparePass
  rw [mqttUpdateActiveSerialFromEeprom_eq]
  unfold mqttEndpointInitOnce
  cases hinit : s.endpointInitialized with
  | true => exact ⟨hinit, rfl, rfl, fun _ => rfl⟩
  | false => exact ⟨rfl, rfl, rfl, fun h => by cases h⟩

theorem coherent_preparePass
    (inp : PassInput) {s : MqttState} (hs : Coherent s) :
    Coherent (preparePass inp s).1 := by
  have hsame := preparePass_fst inp s
  obtain ⟨hinit, -, -, hselected⟩ := preparePass_endpoints inp s
  have hclient : (preparePass inp s).1.client ≠ none → s.client ≠ none :=
    fun h => hsame.client ▸ h
  refine ⟨fun _ => hinit, fun h => hsame.mqttStarted.trans (hs.started (hclient h)), fun h => ?_⟩
  rw [hsame.activeEndpoint, hselected (hs.initialized (hclient h))]
  exact hs.endpoint (hclient h)

/-- A pass that keeps the connection. -/
theorem coherent_keepConnection
    (inp : PassInput) (serialChanged : Bool) {s : MqttState} (hs : Coherent s)
    (hinit : s.endpointInitialized = true)
    (hkept : s.client ≠ none → inp.fetched = none → PeriodicDue inp s →
      fallbackEndpoint inp s = s.activeEndpoint) :
    Coherent (keepConnection inp serialChanged s).1 := by
  have hpublished : SameEndpoints s (mqttPublishStatus false inp.tick s) :=
    ⟨Iff.rfl, rfl, rfl, rfl, rfl, rfl⟩
  have hrefreshed : ∃ s₁, SameEndpoints s s₁ ∧ s₁.mqttStarted = s.mqttStarted ∧
      keepConnection inp serialChanged s = periodicRefresh inp s₁ := by
    unfold keepConnection
    dsimp only
    split
    · refine ⟨_, hpublished.trans (sameEndpoints_refresh false _), ?_, rfl⟩
      exact (sameSession_refresh false (mqttPublishStatus false inp.tick s)).mqttStarted
    · exact ⟨_, hpublished, rfl, rfl⟩
  obtain ⟨s₁, hsame, hstarted, heq⟩ := hrefreshed
  have hs₁ := hsame.coherent hstarted hs
  rw [heq]
  unfold periodicRefresh
  split
  · rename_i hdue
    have hsame₂ := sameConnection_discovery inp true s₁
    obtain ⟨hinit₂, hselected⟩ := discovery_cases inp true s₁
    have hcoherent := coherent_after_discovery inp true hs₁ (by
      intro hclient hfetched _
      have hdue' : PeriodicDue inp s := by
        unfold PeriodicDue
        rwa [← hsame.lastDiscoveryTick]
      have hfallback : fallbackEndpoint inp s₁ = fallbackEndpoint inp s := by
        unfold fallbackEndpoint
        rw [hsame.nvs]
      rw [hfallback, hsame.activeEndpoint]
      exact hkept (mt hsame.client.2 hclient) hfetched hdue')
    generalize mqttTryEndpointDiscovery inp true s₁ = discovered at *
    obtain ⟨s₂, updated⟩ := discovered
    dsimp only at *
    split
    · rename_i hstart
      refine coherent_startSelected inp ?_ (Or.inr ?_)
      · rw [hinit₂, hsame.endpointInitialized]
        exact hinit
      · rcases hselected with ⟨hfalse, -⟩ | ⟨-, hvalid⟩ | ⟨hfalse, -⟩
        · exact absurd (hstart.1.symm.trans hfalse) (by decide)
        · exact hvalid
        · exact absurd (hstart.1.symm.trans hfalse) (by decide)
    · rename_i hnostart
      exact hcoherent hnostart
  · exact hs₁

/-- A pass in which the time to retry has come. -/
theorem coherent_reconnect
    (inp : PassInput) {s : MqttState} (hs : Coherent s)
    (hinit : s.endpointInitialized = true)
    (hkept : s.client ≠ none → inp.fetched = none →
      (PeriodicDue inp s ∨ s.mqttConsecutiveFailures ≥ mqttDiscoveryFailThreshold) →
      fallbackEndpoint inp s = s.activeEndpoint) :
    Coherent (reconnect inp s).1 := by
  obtain ⟨hinit₁, hselected⟩ := discovery_cases inp false s
  have hcoherent := coherent_after_discovery inp false hs (by
    rintro hclient hfetched (hfalse | hdue)
    · cases hfalse
    · exact hkept hclient hfetched hdue)
  unfold reconnect
  generalize mqttTryEndpointDiscovery inp false s = discovered at *
  obtain ⟨s₁, updated⟩ := discovered
  dsimp only at *
  have hinit' := hinit₁.trans hinit
  split
  · rename_i hstart
    refine coherent_startSelected inp hinit' (Or.inr ?_)
    rcases hselected with ⟨hfalse, -⟩ | ⟨-, hvalid⟩ | ⟨hfalse, -⟩
    · exact absurd (hstart.1.symm.trans hfalse) (by decide)
    · exact hvalid
    · exact absurd (hstart.1.symm.trans hfalse) (by decide)
  · rename_i hnostart
    have hs₁ := hcoherent hnostart
    split
    · split
      · exact ⟨hs₁.initialized, hs₁.started, hs₁.endpoint⟩
      · exact ⟨hs₁.initialized, hs₁.started, hs₁.endpoint⟩
    · rename_i hclient
      exact coherent_startSelected inp hinit' (Or.inl (not_not.1 hclient))

/-- A pass that falls back on no other endpoint leaves the endpoints coherent. -/
theorem coherent_maintenance
    (inp : PassInput) {s : MqttState} (hs : Coherent s) (hkept : ¬ FallsBackElsewhere inp s) :
    Coherent (mqttConnectionMaintenance inp s).1 := by
  have hsame := preparePass_fst inp s
  have hs₁ := coherent_preparePass inp hs
  obtain ⟨hinit, hnvs, htick, -⟩ := preparePass_endpoints inp s
  have hfallback : fallbackEndpoint inp (preparePass inp s).1 = fallbackEndpoint inp s := by
    unfold fallbackEndpoint
    rw [hnvs]
  have hdue : PeriodicDue inp (preparePass inp s).1 ↔ PeriodicDue inp s := by
    unfold PeriodicDue
    rw [htick]
  have hback : s.wifiConnectedFlag = true → Discovers inp s → s.client ≠ none →
      inp.fetched = none → fallbackEndpoint inp s = s.activeEndpoint := by
    intro hwifi hdiscovers hclient hfetched
    by_contra helsewhere
    exact hkept ⟨hwifi, hclient, hdiscovers, hfetched, helsewhere⟩
  unfold mqttConnectionMaintenance
  have hwifi : (preparePass inp s).1.wifiConnectedFlag = s.wifiConnectedFlag :=
    hsame.wifiConnectedFlag
  have hclient : (preparePass inp s).1.client = s.client := hsame.client
  have hactive : (preparePass inp s).1.activeEndpoint = s.activeEndpoint := hsame.activeEndpoint
  have hready : (preparePass inp s).1.isMqttReady = s.isMqttReady := hsame.isMqttReady
  have hconnected : (preparePass inp s).1.mqttConnected = s.mqttConnected := hsame.mqttConnected
  have hfailures : (preparePass inp s).1.mqttConsecutiveFailures = s.mqttConsecutiveFailures :=
    hsame.mqttConsecutiveFailures
  have hretry : (preparePass inp s).1.nextMqttRetryTick = s.nextMqttRetryTick :=
    hsame.nextMqttRetryTick
  generalize preparePass inp s = prepared at *
  obtain ⟨s₁, serialChanged⟩ := prepared
  dsimp only at *
  split
  · exact hs₁
  · rename_i hup
    have hup : s.wifiConnectedFlag = true := by simpa [hwifi] using hup
    split
    · -- Without a client the discovery selects what the start then uses.
      rename_i hstopped
      have hnone : s₁.client = none := by
        by_contra hsome
        exact absurd (hs₁.started hsome) (by simp [hstopped])
      have hsame₂ := sameConnection_discovery inp true s₁
      refine coherent_startSelected inp ?_ (Or.inl (hsame₂.client.trans hnone))
      exact (discovery_cases inp true s₁).1.trans hinit
    · split
      · rename_i hup'
        rw [hready, hconnected] at hup'
        refine coherent_keepConnection inp serialChanged hs₁ hinit ?_
        intro hsome hfetched hperiodic
        rw [hfallback, hactive]
        refine hback hup ?_ (hclient ▸ hsome) hfetched
        unfold Discovers
        rw [if_pos hup']
        exact hdue.1 hperiodic
      · rename_i hlost
        rw [hready, hconnected] at hlost
        split
        · exact hs₁
        · rename_i hheld
          rw [hretry] at hheld
          refine coherent_reconnect inp hs₁ hinit ?_
          intro hsome hfetched hmade
          rw [hfallback, hactive]
          refine hback hup ?_ (hclient ▸ hsome) hfetched
          unfold Discovers
          rw [if_neg hlost]
          exact ⟨hheld, hmade.imp hdue.1 (fun h => hfailures ▸ h)⟩

/-! ## Runs -/

/-- No client is started before the endpoints are initialised. -/
theorem coherent_endpointInitOnce
    (reads : NvsReads) {s : MqttState} (hs : Coherent s) :
    Coherent (mqttEndpointInitOnce reads s) := by
  unfold mqttEndpointInitOnce
  split
  · exact hs
  · rename_i hinit
    apply coherent_of_no_client
    by_contra hclient
    exact hinit (hs.initialized hclient)

/-- The events around the passes start no client and select no endpoint. -/
theorem coherent_mqttStep
    (e : MqttEvent) {s : MqttState} (hs : Coherent s) (he : FallbackKept e s) :
    Coherent (mqttStep e s) := by
  cases e with
  | taskStarted reads =>
      have hnoticed := (sameEndpoints_noticed s).coherent rfl hs
      unfold mqttStep
      rw [mqttUpdateActiveSerialFromEeprom_eq]
      exact coherent_endpointInitOnce reads hnoticed
  | pass inp => exact coherent_maintenance inp hs he
  | client tick event =>
      unfold mqttStep
      dsimp only
      split
      · exact hs
      · rename_i client hclient
        have hevent : SameEndpoints s { s with client := some (client.after event) } :=
          ⟨by simp [hclient], rfl, rfl, rfl, rfl, rfl⟩
        have hsame := hevent.trans (sameEndpoints_mqttEventHandler tick event _)
        have hsession := sameSession_mqttEventHandler tick event
          { s with client := some (client.after event) }
        refine hsame.coherent ?_ hs
        rw [hsession.mqttStarted]
        unfold sessionAfter
        cases event with
        | subscribed =>
            dsimp only
            split
            · rfl
            · rfl
        | _ => rfl
  | subscribeAppTopics =>
      exact (sameEndpoints_refresh false s).coherent (sameSession_refresh false s).mqttStarted hs
  | eeprom gRDEeprom => exact ⟨hs.initialized, hs.started, hs.endpoint⟩
  | wifi connected => exact ⟨hs.initialized, hs.started, hs.endpoint⟩

/-- In a run in which no discovery made beside a client falls back on another
endpoint, every pass uses the selected endpoint. -/
theorem endpoint_used_of_fallback_kept
    (efuseMac : Option (Vector UInt8 6)) (nvs : EndpointNvs) (es : List MqttEvent)
    (h : Along mqttStep FallbackKept es (MqttState.initial efuseMac nvs)) :
    Along mqttStep UsesSelected es (MqttState.initial efuseMac nvs) := by
  refine Along.of_invariant (fun e s he hs => coherent_mqttStep e hs he) ?_ h
    (coherent_of_no_client rfl)
  intro e s he hs
  cases e with
  | pass inp => exact fun _ hclient => (coherent_maintenance inp hs he).endpoint hclient
  | _ => trivial

/-! ## A fallback that is not used -/

/-- A pass that cannot save what it fetches. -/
def unsavedPassAt (tick : UInt32) (fetched : ValidEndpoint) : MqttEvent :=
  .pass
    { tick := tick
      statusTick := tick
      attemptTick := tick
      retryTick := tick
      initReads := .ok
      reads := .ok
      writes := { NvsWrites.ok with opened := false }
      fetched := some fetched
      clientInit := true
      clientStart := true
      clientReconnect := true }

/-- `mqtt://b:1883` -/
def fetchedEndpoint : ValidEndpoint where
  val := { host := [98], port := 1883, tls := false, username := [], password := [] }
  property := brokerEndpoint_isValid

/-- A client is started with a fetched endpoint and fails three times; then the
fetch fails too. -/
def fallbackRun : List MqttEvent :=
  [.wifi true, unsavedPassAt 1000 fetchedEndpoint, .client 2000 .error, .client 3000 .error,
    .client 4000 .error, passAt 100000 none]

/-- The client connects again to the endpoint it has, though the default is
selected. -/
theorem fallback_not_used :
    ¬ Along mqttStep UsesSelected fallbackRun (MqttState.initial none .empty) := by
  decide +kernel

/-- A run in which the fallback is the endpoint of the client: it was saved when
it was fetched. -/
theorem saved_fallback_used :
    Along mqttStep UsesSelected
      [.wifi true, passAt 1000 (some fetchedEndpoint), .client 2000 .error, .client 3000 .error,
        .client 4000 .error, passAt 100000 none]
      (MqttState.initial none .empty) :=
  endpoint_used_of_fallback_kept none .empty _ (by decide +kernel)

end Mqtt
end AvensysEsp32
