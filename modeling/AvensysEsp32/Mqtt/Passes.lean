import AvensysEsp32.Mqtt.Manager

/-!
# What a pass of the maintenance does

A pass brings the hardware id and the serial up to date and then takes one of
four ways: it is idle, it keeps the connection, it starts the client, or it
connects it again.  `pass_cases` says which, and what is left unchanged.
-/

namespace AvensysEsp32
namespace Mqtt

open Foundation UnitComm

/-! ## States that differ in nothing a connection depends on -/

/-- Two states agree in the flags of the connection and in its failures. -/
structure SameSession (s s' : MqttState) : Prop where
  acknowledged : s'.client.map MqttClient.acknowledged = s.client.map MqttClient.acknowledged
  isMqttReady : s'.isMqttReady = s.isMqttReady
  subscribeCounter : s'.subscribeCounter = s.subscribeCounter
  mqttConnected : s'.mqttConnected = s.mqttConnected
  mqttStarted : s'.mqttStarted = s.mqttStarted
  mqttConsecutiveFailures : s'.mqttConsecutiveFailures = s.mqttConsecutiveFailures
  nextMqttRetryTick : s'.nextMqttRetryTick = s.nextMqttRetryTick

/-- Two states agree in the client and its identities as well. -/
structure SameConnection (s s' : MqttState) : Prop extends SameSession s s' where
  client : s'.client = s.client
  efuseMac : s'.efuseMac = s.efuseMac
  gRDEeprom : s'.gRDEeprom = s.gRDEeprom
  wifiConnectedFlag : s'.wifiConnectedFlag = s.wifiConnectedFlag
  activeEndpoint : s'.activeEndpoint = s.activeEndpoint
  deviceHwId : s'.deviceHwId = s.deviceHwId
  activeSerial : s'.activeSerial = s.activeSerial
  lastSerialSubscribed : s'.lastSerialSubscribed = s.lastSerialSubscribed
  hwIdSubscribed : s'.hwIdSubscribed = s.hwIdSubscribed

theorem SameSession.trans
    {s s' s'' : MqttState} (h : SameSession s s') (h' : SameSession s' s'') :
    SameSession s s'' where
  acknowledged := h'.acknowledged.trans h.acknowledged
  isMqttReady := h'.isMqttReady.trans h.isMqttReady
  subscribeCounter := h'.subscribeCounter.trans h.subscribeCounter
  mqttConnected := h'.mqttConnected.trans h.mqttConnected
  mqttStarted := h'.mqttStarted.trans h.mqttStarted
  mqttConsecutiveFailures := h'.mqttConsecutiveFailures.trans h.mqttConsecutiveFailures
  nextMqttRetryTick := h'.nextMqttRetryTick.trans h.nextMqttRetryTick

theorem SameConnection.refl (s : MqttState) :
    SameConnection s s := by
  constructor <;> (first | rfl | (constructor <;> rfl))

theorem SameConnection.trans
    {s s' s'' : MqttState} (h : SameConnection s s') (h' : SameConnection s' s'') :
    SameConnection s s'' where
  toSameSession := h.toSameSession.trans h'.toSameSession
  client := h'.client.trans h.client
  efuseMac := h'.efuseMac.trans h.efuseMac
  gRDEeprom := h'.gRDEeprom.trans h.gRDEeprom
  wifiConnectedFlag := h'.wifiConnectedFlag.trans h.wifiConnectedFlag
  activeEndpoint := h'.activeEndpoint.trans h.activeEndpoint
  deviceHwId := h'.deviceHwId.trans h.deviceHwId
  activeSerial := h'.activeSerial.trans h.activeSerial
  lastSerialSubscribed := h'.lastSerialSubscribed.trans h.lastSerialSubscribed
  hwIdSubscribed := h'.hwIdSubscribed.trans h.hwIdSubscribed

/-- What publishing, discovering and counting attempts may change. -/
theorem sameConnection_of_update
    (s : MqttState) (nvs : EndpointNvs) (attempts discovery status seq : UInt32)
    (initialized : Bool) (selected : MqttEndpoint) (error : MqttError) :
    SameConnection s
      { s with
        nvs := nvs
        mqttReconnectAttempts := attempts
        lastDiscoveryTick := discovery
        endpointInitialized := initialized
        selectedEndpoint := selected
        lastStatusPublishTick := status
        logSeq := seq
        lastError := error } := by
  constructor <;> (first | rfl | (constructor <;> rfl))

theorem sameConnection_publish (force : Bool) (now : UInt32) (s : MqttState) :
    SameConnection s (mqttPublishStatus force now (mqttPublishLogEvent s)) :=
  sameConnection_of_update s ..

theorem sameConnection_endpointInitOnce (reads : NvsReads) (s : MqttState) :
    SameConnection s (mqttEndpointInitOnce reads s) := by
  unfold mqttEndpointInitOnce
  split
  · exact SameConnection.refl s
  · exact sameConnection_of_update s ..

theorem sameConnection_selectFetched
    (inp : PassInput) (fetched : MqttEndpoint) (s : MqttState) :
    SameConnection s (selectFetched inp fetched s) := by
  unfold selectFetched
  dsimp only
  split
  · exact sameConnection_of_update s ..
  · exact sameConnection_of_update s ..

theorem sameConnection_selectFallback (inp : PassInput) (s : MqttState) :
    SameConnection s (selectFallback inp s) := by
  unfold selectFallback
  dsimp only
  split
  · exact sameConnection_of_update s ..
  · exact sameConnection_of_update s ..

theorem sameConnection_discovery (inp : PassInput) (force : Bool) (s : MqttState) :
    SameConnection s (mqttTryEndpointDiscovery inp force s).1 := by
  have hbegun : SameConnection s { s with lastDiscoveryTick := inp.tick } :=
    sameConnection_of_update s ..
  unfold mqttTryEndpointDiscovery
  dsimp only
  split
  · split
    · split
      · exact hbegun.trans (sameConnection_selectFetched inp _ _)
      · exact hbegun.trans (sameConnection_selectFallback inp _)
    · exact sameConnection_of_update s ..
  · exact SameConnection.refl s

/-! ## The identities -/

/-- The serial in a mirror, empty when it is not valid. -/
def serialIn (gRDEeprom : Memory) : List UInt8 :=
  let serial := mqttExtractSerialFromEeprom gRDEeprom
  if serial ≠ [] ∧ mqttIsSerialValid serial then serial else []

/-- The state with the hardware id and the active serial up to date. -/
def noticed (s : MqttState) : MqttState :=
  { mqttInitHwIdOnce s with activeSerial := serialIn s.gRDEeprom }

theorem mqttUpdateActiveSerialFromEeprom_eq (s : MqttState) :
    mqttUpdateActiveSerialFromEeprom s =
      ({ s with activeSerial := serialIn s.gRDEeprom },
        decide (s.activeSerial ≠ serialIn s.gRDEeprom)) := by
  unfold mqttUpdateActiveSerialFromEeprom serialIn
  dsimp only
  by_cases hvalid : mqttExtractSerialFromEeprom s.gRDEeprom ≠ [] ∧
      mqttIsSerialValid (mqttExtractSerialFromEeprom s.gRDEeprom) = true
  · rw [if_neg (not_not_intro hvalid), if_pos hvalid]
    by_cases hsame : s.activeSerial = mqttExtractSerialFromEeprom s.gRDEeprom
    · simp [← hsame]
    · simp [hsame]
  · rw [if_pos hvalid, if_neg hvalid]
    by_cases hsame : s.activeSerial = []
    · simp [← hsame]
    · simp [hsame]

/-- A pass begins by noticing what the identities are now. -/
theorem preparePass_fst (inp : PassInput) (s : MqttState) :
    SameConnection (noticed s) (preparePass inp s).1 := by
  have hinit := sameConnection_endpointInitOnce inp.initReads s
  unfold preparePass
  rw [mqttUpdateActiveSerialFromEeprom_eq]
  generalize mqttEndpointInitOnce inp.initReads s = s' at hinit
  obtain ⟨hsession, hclient, hmac, hrom, hwifi, hactive, hhw, hserial, hlast, hsub⟩ := hinit
  refine ⟨?_, hclient, hmac, hrom, hwifi, hactive, ?_, ?_, hlast, hsub⟩
  · exact ⟨hsession.1, hsession.2, hsession.3, hsession.4, hsession.5, hsession.6, hsession.7⟩
  · show (if s'.deviceHwId = [] then hwIdOf s'.efuseMac else s'.deviceHwId) =
      if s.deviceHwId = [] then hwIdOf s.efuseMac else s.deviceHwId
    rw [hhw, hmac]
  · show serialIn s'.gRDEeprom = serialIn s.gRDEeprom
    rw [hrom]

theorem preparePass_snd (inp : PassInput) (s : MqttState) :
    (preparePass inp s).2 = decide (s.activeSerial ≠ serialIn s.gRDEeprom) := by
  have hinit := sameConnection_endpointInitOnce inp.initReads s
  unfold preparePass
  rw [mqttUpdateActiveSerialFromEeprom_eq]
  show decide ((mqttEndpointInitOnce inp.initReads s).activeSerial ≠
    serialIn (mqttEndpointInitOnce inp.initReads s).gRDEeprom) = _
  rw [hinit.activeSerial, hinit.gRDEeprom]

theorem acknowledged_subscribeIdentityTopics (identity : List UInt8) (s : MqttState) :
    (mqttSubscribeIdentityTopics identity s).client.map MqttClient.acknowledged =
      s.client.map MqttClient.acknowledged := by
  unfold mqttSubscribeIdentityTopics
  dsimp only
  split
  · rfl
  · rw [Option.map_map]
    rfl

theorem acknowledged_unsubscribeIdentityTopics (identity : List UInt8) (s : MqttState) :
    (mqttUnsubscribeIdentityTopics identity s).client.map MqttClient.acknowledged =
      s.client.map MqttClient.acknowledged := by
  unfold mqttUnsubscribeIdentityTopics
  dsimp only
  split
  · rfl
  · rw [Option.map_map]
    rfl

theorem refreshHwIdChannel_eq (force : Bool) (s : MqttState) :
    ∃ client subscribed,
      refreshHwIdChannel force s =
        { s with client := client, hwIdSubscribed := subscribed } ∧
      client.map MqttClient.acknowledged = s.client.map MqttClient.acknowledged := by
  unfold refreshHwIdChannel
  split
  · exact ⟨_, _, rfl, acknowledged_subscribeIdentityTopics ..⟩
  · exact ⟨_, _, rfl, rfl⟩

theorem refreshSerialChannel_eq (force : Bool) (s : MqttState) :
    ∃ client last,
      refreshSerialChannel force s =
        { s with client := client, lastSerialSubscribed := last } ∧
      client.map MqttClient.acknowledged = s.client.map MqttClient.acknowledged := by
  unfold refreshSerialChannel
  split
  · split
    · exact ⟨_, _, rfl, acknowledged_unsubscribeIdentityTopics ..⟩
    · exact ⟨_, _, rfl, rfl⟩
  · split
    · dsimp only
      split
      · refine ⟨_, _, rfl, ?_⟩
        rw [acknowledged_subscribeIdentityTopics, acknowledged_unsubscribeIdentityTopics]
      · exact ⟨_, _, rfl, acknowledged_subscribeIdentityTopics ..⟩
    · exact ⟨_, _, rfl, rfl⟩

/-- What a refresh does once the identities are noticed. -/
theorem mqttRefreshAppSubscriptions_eq (force : Bool) (s : MqttState) :
    mqttRefreshAppSubscriptions force s =
      if s.client = none then noticed s
      else refreshSerialChannel force (refreshHwIdChannel force (noticed s)) := by
  unfold mqttRefreshAppSubscriptions
  rw [mqttUpdateActiveSerialFromEeprom_eq]
  rfl

/-- A refresh changes identities and subscriptions, and nothing else. -/
theorem mqttRefreshAppSubscriptions_frame (force : Bool) (s : MqttState) :
    ∃ client last subscribed,
      mqttRefreshAppSubscriptions force s =
        { noticed s with
          client := client
          lastSerialSubscribed := last
          hwIdSubscribed := subscribed } ∧
      client.map MqttClient.acknowledged = s.client.map MqttClient.acknowledged := by
  rw [mqttRefreshAppSubscriptions_eq]
  split
  · exact ⟨_, _, _, rfl, rfl⟩
  · obtain ⟨client, subscribed, heq, hclient⟩ := refreshHwIdChannel_eq force (noticed s)
    rw [heq]
    obtain ⟨client', last, heq', hclient'⟩ := refreshSerialChannel_eq force
      { noticed s with client := client, hwIdSubscribed := subscribed }
    rw [heq']
    exact ⟨client', last, subscribed, rfl, hclient'.trans hclient⟩

theorem sameSession_refresh (force : Bool) (s : MqttState) :
    SameSession s (mqttRefreshAppSubscriptions force s) := by
  obtain ⟨client, last, subscribed, heq, hclient⟩ := mqttRefreshAppSubscriptions_frame force s
  rw [heq]
  exact ⟨hclient, rfl, rfl, rfl, rfl, rfl, rfl⟩

/-! ## Starting the client -/

/-- A start with a valid endpoint. -/
theorem startSelected_valid
    (inp : PassInput) {s : MqttState}
    (hvalid : mqttEndpointIsValid s.selectedEndpoint = true) :
    startSelected inp s =
      if inp.clientInit ∧ inp.clientStart then
        ({ s with
            client := some (.init s.selectedEndpoint)
            mqttStarted := true
            mqttConnected := false
            activeEndpoint := s.selectedEndpoint },
          some ⟨inp.attemptTick, true⟩)
      else
        (recordFailure inp.retryTick { s with client := none, mqttStarted := false },
          some ⟨inp.attemptTick, false⟩) := by
  unfold startSelected mqttAppStartWithEndpoint
  rw [if_pos hvalid]
  dsimp only
  by_cases hstart : inp.clientInit = true ∧ inp.clientStart = true
  · rw [if_pos hstart, if_pos hstart]
    rfl
  · rw [if_neg hstart, if_neg hstart]
    rfl

theorem startSelected_invalid
    (inp : PassInput) {s : MqttState}
    (hvalid : mqttEndpointIsValid s.selectedEndpoint = false) :
    startSelected inp s =
      (recordFailure inp.retryTick s, some ⟨inp.attemptTick, false⟩) := by
  unfold startSelected mqttAppStartWithEndpoint
  rw [if_neg (by simp [hvalid])]
  rfl

/-! ## The hourly discovery -/

/-- The hourly discovery is due, and finds an endpoint that is new. -/
def findsNewEndpoint (inp : PassInput) (s : MqttState) : Bool :=
  decide (inp.tick - s.lastDiscoveryTick ≥ mqttDiscoveryInterval) &&
    inp.fetched.any fun fetched =>
      !mqttEndpointEquals (withCredentialsOf s.selectedEndpoint fetched.1) s.activeEndpoint

theorem findsNewEndpoint_congr
    (inp : PassInput) {s s' : MqttState}
    (htick : s'.lastDiscoveryTick = s.lastDiscoveryTick)
    (hselected : s'.selectedEndpoint = s.selectedEndpoint)
    (hactive : s'.activeEndpoint = s.activeEndpoint) :
    findsNewEndpoint inp s' = findsNewEndpoint inp s := by
  unfold findsNewEndpoint
  rw [htick, hselected, hactive]

theorem selectFetched_selectedEndpoint
    (inp : PassInput) (fetched : MqttEndpoint) (s : MqttState) :
    (selectFetched inp fetched s).selectedEndpoint =
      withCredentialsOf s.selectedEndpoint fetched := by
  unfold selectFetched
  dsimp only
  split
  · rfl
  · rfl

/-- What a forced discovery selects. -/
theorem discovery_forced
    (inp : PassInput) {s : MqttState} (hwifi : s.wifiConnectedFlag = true) :
    mqttTryEndpointDiscovery inp true s =
      match inp.fetched with
      | some fetched =>
          (selectFetched inp fetched.1 { s with lastDiscoveryTick := inp.tick }, true)
      | none => (selectFallback inp { s with lastDiscoveryTick := inp.tick }, false) := by
  unfold mqttTryEndpointDiscovery
  dsimp only
  refine (if_pos (Or.inl rfl)).trans ((if_pos hwifi).trans ?_)
  cases inp.fetched with
  | none => rfl
  | some fetched => rfl

theorem periodicRefresh_cases
    (inp : PassInput) {s : MqttState} (hwifi : s.wifiConnectedFlag = true) :
    ∃ s', SameConnection s s' ∧
      ((findsNewEndpoint inp s = false ∧ periodicRefresh inp s = (s', none)) ∨
        (findsNewEndpoint inp s = true ∧ periodicRefresh inp s = startSelected inp s' ∧
          mqttEndpointIsValid s'.selectedEndpoint = true)) := by
  have hsame := sameConnection_discovery inp true s
  unfold periodicRefresh findsNewEndpoint
  by_cases hdue : inp.tick - s.lastDiscoveryTick ≥ mqttDiscoveryInterval
  · rw [if_pos hdue]
    rw [discovery_forced inp hwifi] at hsame ⊢
    cases hfetched : inp.fetched with
    | none =>
        rw [hfetched] at hsame
        exact ⟨_, hsame, Or.inl ⟨by simp, rfl⟩⟩
    | some fetched =>
        rw [hfetched] at hsame
        refine ⟨_, hsame, ?_⟩
        have hselected := selectFetched_selectedEndpoint inp fetched.1
          { s with lastDiscoveryTick := inp.tick }
        have hactive := hsame.activeEndpoint
        dsimp only at hselected hactive ⊢
        rw [hselected, hactive]
        cases hequal : mqttEndpointEquals (withCredentialsOf s.selectedEndpoint fetched.1)
            s.activeEndpoint with
        | false =>
            refine Or.inr ⟨by simp [hdue, hequal], by simp, ?_⟩
            exact fetched.2
        | true => exact Or.inl ⟨by simp [hequal], by simp⟩
  · rw [if_neg hdue]
    exact ⟨s, SameConnection.refl s, Or.inl ⟨by simp [hdue], rfl⟩⟩

/-! ## The ways of a pass -/

/-- A pass that keeps the connection finds a new endpoint and restarts the
client. -/
def restartsPeriodically (inp : PassInput) (s : MqttState) : Bool :=
  s.wifiConnectedFlag && s.mqttStarted && (s.isMqttReady || s.mqttConnected) &&
    findsNewEndpoint inp (mqttEndpointInitOnce inp.initReads s)

theorem restartsPeriodically_of_wifi_down
    (inp : PassInput) {s : MqttState} (hwifi : s.wifiConnectedFlag = false) :
    restartsPeriodically inp s = false := by
  unfold restartsPeriodically
  rw [hwifi]
  rfl

/-- The time to retry has not come. -/
def RetryHeld (inp : PassInput) (s : MqttState) : Prop :=
  s.nextMqttRetryTick ≠ 0 ∧ inp.tick < s.nextMqttRetryTick

/-- The state in which a pass has kept the subscriptions up to date. -/
def keptUp (s s₁ : MqttState) : MqttState :=
  if s.activeSerial ≠ serialIn s.gRDEeprom then mqttRefreshAppSubscriptions false s₁ else s₁

theorem keptUp_sameSession (s s₁ : MqttState) :
    SameSession s₁ (keptUp s s₁) := by
  unfold keptUp
  split
  · exact sameSession_refresh false s₁
  · exact (SameConnection.refl s₁).toSameSession

theorem sameSession_noticed (s : MqttState) :
    SameSession s (noticed s) := by
  constructor <;> rfl

section Session

variable {s s₁ s' : MqttState}

theorem SameConnection.sameSession
    (h : SameConnection (noticed s) s') :
    SameSession s s' :=
  (sameSession_noticed s).trans h.toSameSession

theorem sameSession_keptUp
    (h₁ : SameConnection (noticed s) s₁) (h : SameConnection (keptUp s s₁) s') :
    SameSession s s' :=
  h₁.sameSession.trans ((keptUp_sameSession s s₁).trans h.toSameSession)

end Session

/-- What a pass does. -/
inductive PassCase (inp : PassInput) (s : MqttState) : MqttState × Option Attempt → Prop
  /-- Wi-Fi is down, or it is too early to retry. -/
  | idle {s' : MqttState} (hsame : SameConnection (noticed s) s')
      (hidle : s.wifiConnectedFlag = false ∨
        (s.mqttStarted = true ∧ s.isMqttReady = false ∧ s.mqttConnected = false ∧
          RetryHeld inp s)) :
      PassCase inp s (s', none)
  /-- The connection is kept. -/
  | kept {s₁ s' : MqttState}
      (hwifi : s.wifiConnectedFlag = true) (hstarted : s.mqttStarted = true)
      (hkept : s.isMqttReady = true ∨ s.mqttConnected = true)
      (hsame₁ : SameConnection (noticed s) s₁) (hsame : SameConnection (keptUp s s₁) s')
      (hkeeps : restartsPeriodically inp s = false) :
      PassCase inp s (s', none)
  /-- A new endpoint is used at once. -/
  | restarted {s₁ s' : MqttState}
      (hsame₁ : SameConnection (noticed s) s₁) (hsame : SameConnection (keptUp s s₁) s')
      (hrestarts : restartsPeriodically inp s = true)
      (hvalid : mqttEndpointIsValid s'.selectedEndpoint = true) :
      PassCase inp s (startSelected inp s')
  /-- The client is started. -/
  | started {s' : MqttState}
      (hwifi : s.wifiConnectedFlag = true) (hstopped : s.mqttStarted = false)
      (hsame : SameConnection (noticed s) s') :
      PassCase inp s (startSelected inp s')
  /-- The client is started anew. -/
  | recreated {s' : MqttState}
      (hwifi : s.wifiConnectedFlag = true) (hstarted : s.mqttStarted = true)
      (hready : s.isMqttReady = false) (hconnected : s.mqttConnected = false)
      (hheld : ¬ RetryHeld inp s) (hsame : SameConnection (noticed s) s') :
      PassCase inp s (startSelected inp s')
  /-- The client is told to connect again. -/
  | reconnected {s' : MqttState}
      (hwifi : s.wifiConnectedFlag = true) (hstarted : s.mqttStarted = true)
      (hready : s.isMqttReady = false) (hconnected : s.mqttConnected = false)
      (hheld : ¬ RetryHeld inp s) (hsame : SameConnection (noticed s) s')
      (hclient : s.client ≠ none) :
      PassCase inp s
        (if inp.clientReconnect then (s', some ⟨inp.attemptTick, true⟩)
          else (recordFailure inp.retryTick s', some ⟨inp.attemptTick, false⟩))

/-- Preparing, publishing and refreshing leave what the hourly discovery looks
at. -/
theorem findsNewEndpoint_preparePass (inp : PassInput) (s : MqttState) :
    findsNewEndpoint inp (preparePass inp s).1 =
      findsNewEndpoint inp (mqttEndpointInitOnce inp.initReads s) := by
  unfold preparePass
  rw [mqttUpdateActiveSerialFromEeprom_eq]
  generalize mqttEndpointInitOnce inp.initReads s = s'
  exact findsNewEndpoint_congr inp rfl rfl rfl

theorem findsNewEndpoint_publishStatus
    (inp : PassInput) (force : Bool) (now : UInt32) (s : MqttState) :
    findsNewEndpoint inp (mqttPublishStatus force now s) = findsNewEndpoint inp s :=
  findsNewEndpoint_congr inp rfl rfl rfl

theorem findsNewEndpoint_keptUp (inp : PassInput) (s s₁ : MqttState) :
    findsNewEndpoint inp (keptUp s s₁) = findsNewEndpoint inp s₁ := by
  unfold keptUp
  split
  · obtain ⟨client, last, subscribed, heq, -⟩ := mqttRefreshAppSubscriptions_frame false s₁
    rw [heq]
    exact findsNewEndpoint_congr inp rfl rfl rfl
  · rfl

theorem keptUp_wifiConnectedFlag (s s₁ : MqttState) :
    (keptUp s s₁).wifiConnectedFlag = s₁.wifiConnectedFlag := by
  unfold keptUp
  split
  · obtain ⟨client, last, subscribed, heq, -⟩ := mqttRefreshAppSubscriptions_frame false s₁
    rw [heq]
    rfl
  · rfl

theorem keepConnection_case
    (inp : PassInput) {s : MqttState} (hwifi : s.wifiConnectedFlag = true)
    (hstarted : s.mqttStarted = true)
    (hkept : s.isMqttReady = true ∨ s.mqttConnected = true) :
    PassCase inp s (keepConnection inp (preparePass inp s).2 (preparePass inp s).1) := by
  have hsame₁ : SameConnection (noticed s)
      (mqttPublishStatus false inp.tick (preparePass inp s).1) :=
    (preparePass_fst inp s).trans (sameConnection_of_update _ ..)
  have hrestarts : restartsPeriodically inp s =
      findsNewEndpoint inp (mqttEndpointInitOnce inp.initReads s) := by
    unfold restartsPeriodically
    rw [hwifi, hstarted]
    rcases hkept with hkept | hkept <;> simp [hkept]
  have hkeptUp : keepConnection inp (preparePass inp s).2 (preparePass inp s).1 =
      periodicRefresh inp
        (keptUp s (mqttPublishStatus false inp.tick (preparePass inp s).1)) := by
    unfold keepConnection keptUp
    rw [preparePass_snd]
    simp only [decide_eq_true_eq]
  rw [← findsNewEndpoint_preparePass, ← findsNewEndpoint_publishStatus inp false inp.tick,
    ← findsNewEndpoint_keptUp inp s] at hrestarts
  rw [hkeptUp]
  generalize mqttPublishStatus false inp.tick (preparePass inp s).1 = s₁ at *
  have hwifi₁ : (keptUp s s₁).wifiConnectedFlag = true := by
    rw [keptUp_wifiConnectedFlag, hsame₁.wifiConnectedFlag]
    exact hwifi
  obtain ⟨s', hsame, ⟨hfinds, heq⟩ | ⟨hfinds, heq, hvalid⟩⟩ := periodicRefresh_cases inp hwifi₁
  · rw [heq]
    exact .kept hwifi hstarted hkept hsame₁ hsame (hrestarts.trans hfinds)
  · rw [heq]
    exact .restarted hsame₁ hsame (hrestarts.trans hfinds) hvalid

theorem reconnect_case
    (inp : PassInput) {s : MqttState} (hwifi : s.wifiConnectedFlag = true)
    (hstarted : s.mqttStarted = true)
    (hready : s.isMqttReady = false) (hconnected : s.mqttConnected = false)
    (hheld : ¬ RetryHeld inp s) :
    PassCase inp s (reconnect inp (preparePass inp s).1) := by
  have hsame := (preparePass_fst inp s).trans
    (sameConnection_discovery inp false (preparePass inp s).1)
  unfold reconnect
  generalize mqttTryEndpointDiscovery inp false (preparePass inp s).1 = discovered at hsame ⊢
  obtain ⟨s', updated⟩ := discovered
  have hsame' : SameConnection (noticed s)
      { s' with mqttReconnectAttempts := s'.mqttReconnectAttempts + 1 } :=
    hsame.trans (sameConnection_of_update _ ..)
  dsimp only
  split
  · exact .recreated hwifi hstarted hready hconnected hheld hsame'
  · split
    · rename_i hclient
      have hclient' : s.client ≠ none := by
        rw [hsame.client] at hclient
        exact hclient
      exact .reconnected hwifi hstarted hready hconnected hheld hsame' hclient'
    · exact .recreated hwifi hstarted hready hconnected hheld hsame'

/-- A pass does one of these. -/
theorem mqttConnectionMaintenance_case (inp : PassInput) (s : MqttState) :
    PassCase inp s (mqttConnectionMaintenance inp s) := by
  have hsame := preparePass_fst inp s
  have hwifi : (preparePass inp s).1.wifiConnectedFlag = s.wifiConnectedFlag :=
    hsame.wifiConnectedFlag
  have hstarted : (preparePass inp s).1.mqttStarted = s.mqttStarted := hsame.mqttStarted
  have hready : (preparePass inp s).1.isMqttReady = s.isMqttReady := hsame.isMqttReady
  have hconnected : (preparePass inp s).1.mqttConnected = s.mqttConnected := hsame.mqttConnected
  have hretry : (preparePass inp s).1.nextMqttRetryTick = s.nextMqttRetryTick :=
    hsame.nextMqttRetryTick
  unfold mqttConnectionMaintenance
  dsimp only
  rw [hwifi, hstarted, hready, hconnected, hretry]
  split
  · rename_i hdown
    exact .idle hsame (Or.inl hdown)
  · rename_i hnotDown
    have hup : s.wifiConnectedFlag = true := by simpa using hnotDown
    split
    · rename_i hstopped
      exact .started hup hstopped (hsame.trans (sameConnection_discovery inp true _))
    · rename_i hnotStopped
      have hrunning : s.mqttStarted = true := by simpa using hnotStopped
      split
      · rename_i hkept
        exact keepConnection_case inp hup hrunning hkept
      · rename_i hlost
        have hnotReady : s.isMqttReady = false := by simpa using (not_or.1 hlost).1
        have hnotConnected : s.mqttConnected = false := by simpa using (not_or.1 hlost).2
        split
        · rename_i hheld
          exact .idle hsame (Or.inr ⟨hrunning, hnotReady, hnotConnected, hheld⟩)
        · rename_i hheld
          exact reconnect_case inp hup hrunning hnotReady hnotConnected hheld

/-! ## The client's events -/

/-- What an event does to the flags of the connection. -/
def sessionAfter (tick : UInt32) (event : ClientEvent) (s : MqttState) : MqttState :=
  match event with
  | .connected =>
      { s with mqttConnected := true, mqttConsecutiveFailures := 0, nextMqttRetryTick := 0 }
  | .disconnected | .error =>
      recordFailure tick
        { s with isMqttReady := false, subscribeCounter := 0, mqttConnected := false }
  | .subscribed =>
      if s.subscribeCounter = 1 then { s with isMqttReady := true, subscribeCounter := 0 }
      else { s with subscribeCounter := s.subscribeCounter + 1 }
  | _ => s

theorem mqttEventHandler_eq (tick : UInt32) (event : ClientEvent) (s : MqttState) :
    mqttEventHandler tick event s =
      match event with
      | .connected =>
          mqttPublishStatus true tick (mqttPublishLogEvent (mqttRefreshAppSubscriptions true
            { noticed s with
              mqttConnected := true
              mqttConsecutiveFailures := 0
              mqttReconnectAttempts := 0
              nextMqttRetryTick := 0
              lastError := .none
              hwIdSubscribed := false
              lastSerialSubscribed := [] }))
      | .disconnected => connectionLost .mqttDisconnected tick (noticed s)
      | .subscribed =>
          if s.subscribeCounter = 1 then
            { noticed s with isMqttReady := true, subscribeCounter := 0 }
          else { noticed s with subscribeCounter := s.subscribeCounter + 1 }
      | .data topic payload =>
          if isEepromTopic topic (noticed s) then writeEeprom tick payload (noticed s)
          else noticed s
      | .error => connectionLost .mqttTransportError tick (noticed s)
      | .unsubscribed | .published | .other => noticed s := by
  unfold mqttEventHandler
  rw [mqttUpdateActiveSerialFromEeprom_eq]
  rfl

theorem sameSession_refreshIfChanged (s : MqttState) :
    SameSession s (refreshIfChanged s) := by
  have hserial : SameSession s { s with activeSerial := serialIn s.gRDEeprom } := by
    constructor <;> rfl
  unfold refreshIfChanged
  rw [mqttUpdateActiveSerialFromEeprom_eq]
  dsimp only
  split
  · exact hserial.trans (sameSession_refresh false _)
  · exact hserial

theorem sameSession_writeEeprom (tick : UInt32) (payload : List UInt8) (s : MqttState) :
    SameSession s (writeEeprom tick payload s) := by
  unfold writeEeprom
  split
  · constructor <;> rfl
  · refine SameSession.trans ?_ (sameSession_refreshIfChanged _)
    constructor <;> rfl

theorem SameSession.recordFailure
    {s s' : MqttState} (h : SameSession s s') (now : UInt32) :
    SameSession (recordFailure now s) (recordFailure now s') where
  acknowledged := h.acknowledged
  isMqttReady := h.isMqttReady
  subscribeCounter := h.subscribeCounter
  mqttConnected := h.mqttConnected
  mqttStarted := h.mqttStarted
  mqttConsecutiveFailures := by
    unfold Mqtt.recordFailure
    rw [h.mqttConsecutiveFailures]
  nextMqttRetryTick := by
    unfold Mqtt.recordFailure
    rw [h.mqttConsecutiveFailures]

theorem sameSession_connectionLost (error : MqttError) (tick : UInt32) (s : MqttState) :
    SameSession
      (recordFailure tick
        { s with isMqttReady := false, subscribeCounter := 0, mqttConnected := false })
      (connectionLost error tick (noticed s)) := by
  refine SameSession.recordFailure ?_ tick
  constructor <;> rfl

/-- What the handler does to the flags of the connection. -/
theorem sameSession_mqttEventHandler (tick : UInt32) (event : ClientEvent) (s : MqttState) :
    SameSession (sessionAfter tick event s) (mqttEventHandler tick event s) := by
  rw [mqttEventHandler_eq]
  cases event with
  | connected =>
      have hrefreshed := sameSession_refresh true
        { noticed s with
          mqttConnected := true
          mqttConsecutiveFailures := 0
          mqttReconnectAttempts := 0
          nextMqttRetryTick := 0
          lastError := .none
          hwIdSubscribed := false
          lastSerialSubscribed := [] }
      refine SameSession.trans ?_ (hrefreshed.trans ?_)
      · constructor <;> rfl
      · exact (sameConnection_publish true tick _).toSameSession
  | disconnected =>
      unfold sessionAfter
      exact sameSession_connectionLost .mqttDisconnected tick s
  | subscribed =>
      unfold sessionAfter
      dsimp only
      split
      · constructor <;> rfl
      · constructor <;> rfl
  | data topic payload =>
      dsimp only
      split
      · exact (sameSession_noticed s).trans (sameSession_writeEeprom tick payload _)
      · exact sameSession_noticed s
  | error =>
      unfold sessionAfter
      exact sameSession_connectionLost .mqttTransportError tick s
  | unsubscribed => exact sameSession_noticed s
  | published => exact sameSession_noticed s
  | other => exact sameSession_noticed s

/-- Only passes and the client's events touch the flags of the connection. -/
theorem sameSession_mqttStep
    {e : MqttEvent} (s : MqttState)
    (hpass : ∀ inp, e ≠ .pass inp) (hclient : ∀ tick event, e ≠ .client tick event) :
    SameSession s (mqttStep e s) := by
  cases e with
  | taskStarted reads =>
      unfold mqttStep
      rw [mqttUpdateActiveSerialFromEeprom_eq]
      exact (sameSession_noticed s).trans (sameConnection_endpointInitOnce reads _).toSameSession
  | pass inp => exact absurd rfl (hpass inp)
  | client tick event => exact absurd rfl (hclient tick event)
  | subscribeAppTopics => exact sameSession_refresh false s
  | eeprom gRDEeprom => constructor <;> rfl
  | wifi connected => constructor <;> rfl

/-! ## Clients are started -/

/-- A client exists only once MQTT is started. -/
def ClientStarted (s : MqttState) : Prop :=
  s.client ≠ none → s.mqttStarted = true

theorem SameSession.client_eq_none
    {s s' : MqttState} (h : SameSession s s') :
    s'.client = none ↔ s.client = none := by
  have hmap := h.acknowledged
  rw [← Option.map_eq_none_iff (f := MqttClient.acknowledged), hmap, Option.map_eq_none_iff]

theorem SameSession.clientStarted
    {s s' : MqttState} (h : SameSession s s') :
    ClientStarted s' ↔ ClientStarted s := by
  unfold ClientStarted
  rw [h.mqttStarted, ne_eq, h.client_eq_none]

theorem startSelected_clientStarted
    (inp : PassInput) {s : MqttState} (h : ClientStarted s) :
    ClientStarted (startSelected inp s).1 := by
  cases hvalid : mqttEndpointIsValid s.selectedEndpoint with
  | false =>
      rw [startSelected_invalid inp hvalid]
      exact h
  | true =>
      rw [startSelected_valid inp hvalid]
      split
      · exact fun _ => rfl
      · exact fun hclient => absurd rfl hclient

/-- A pass leaves no client behind that is not started. -/
theorem maintenance_clientStarted
    (inp : PassInput) {s : MqttState} (h : ClientStarted s) :
    ClientStarted (mqttConnectionMaintenance inp s).1 := by
  have hcase := mqttConnectionMaintenance_case inp s
  generalize mqttConnectionMaintenance inp s = result at hcase
  cases hcase with
  | idle hsame hidle => exact hsame.sameSession.clientStarted.2 h
  | kept hwifi hstarted hkept hsame₁ hsame hkeeps =>
      exact (sameSession_keptUp hsame₁ hsame).clientStarted.2 h
  | restarted hsame₁ hsame hrestarts hvalid =>
      exact startSelected_clientStarted inp ((sameSession_keptUp hsame₁ hsame).clientStarted.2 h)
  | started hwifi hstopped hsame =>
      exact startSelected_clientStarted inp (hsame.sameSession.clientStarted.2 h)
  | recreated hwifi hstarted hready hconnected hheld hsame =>
      exact startSelected_clientStarted inp (hsame.sameSession.clientStarted.2 h)
  | reconnected hwifi hstarted hready hconnected hheld hsame hclient =>
      have hstarted' := hsame.sameSession.clientStarted.2 h
      split
      · exact hstarted'
      · exact hstarted'

theorem mqttStep_clientStarted
    (e : MqttEvent) {s : MqttState} (h : ClientStarted s) :
    ClientStarted (mqttStep e s) := by
  have hother : (∀ inp, e ≠ .pass inp) → (∀ tick event, e ≠ .client tick event) →
      ClientStarted (mqttStep e s) :=
    fun hpass hclient => (sameSession_mqttStep s hpass hclient).clientStarted.2 h
  cases e with
  | taskStarted reads => exact hother (by simp) (by simp)
  | pass inp => exact maintenance_clientStarted inp h
  | client tick event =>
      cases hclient : s.client with
      | none => simpa only [mqttStep, hclient] using h
      | some client =>
          have hstarted : s.mqttStarted = true := by
            refine h ?_
            rw [hclient]
            exact Option.some_ne_none client
          have hafter : ∀ s' : MqttState, s'.mqttStarted = true →
              ClientStarted (mqttEventHandler tick event s') := by
            intro s' hstarted'
            refine (sameSession_mqttEventHandler tick event s').clientStarted.2 fun _ => ?_
            cases event with
            | subscribed =>
                unfold sessionAfter
                dsimp only
                split
                · exact hstarted'
                · exact hstarted'
            | _ => exact hstarted'
          simpa only [mqttStep, hclient] using
            hafter { s with client := some (client.after event) } hstarted
  | subscribeAppTopics => exact hother (by simp) (by simp)
  | eeprom gRDEeprom => exact hother (by simp) (by simp)
  | wifi connected => exact hother (by simp) (by simp)

end Mqtt
end AvensysEsp32
