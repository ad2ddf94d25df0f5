import AvensysEsp32.Mqtt.Backoff
import AvensysEsp32.Mqtt.Configuration
import AvensysEsp32.Mqtt.Readiness

/-!
# The manager recovers

Whatever has happened before, of failures, lost connections, endpoints and
stale flags, a pass that is not held back makes an attempt, if there is no
session; only readiness that has outlived its connection keeps it from one, and
then over a client that has been started.  Once the broker has taken the
connection and acknowledged two subscriptions, the manager is ready over a live
connection.  In between the mirror, Wi-Fi, the passes and the other messages may
do what they like, as long as the client is not lost or restarted.
-/

namespace AvensysEsp32
namespace Mqtt

open Foundation

/-! ## Attempts -/

/-- The pass may make an attempt, and what it asks for succeeds. -/
structure Unhindered (inp : PassInput) (s : MqttState) : Prop where
  wifi : s.wifiConnectedFlag = true
  notHeld : ¬ RetryHeld inp s
  clientInit : inp.clientInit = true
  clientStart : inp.clientStart = true
  clientReconnect : inp.clientReconnect = true

theorem selectable_valid :
    Selectable fun endpoint => mqttEndpointIsValid endpoint = true where
  valid := id
  default := mqttEndpointDefault_isValid
  loaded := loadMqttEndpointFromNvs_isValid

/-- The endpoints of a run are valid, whatever is fetched. -/
theorem validlyConfigured_run
    (efuseMac : Option (Vector UInt8 6)) (nvs : EndpointNvs) (es : List MqttEvent) :
    Configured (fun endpoint => mqttEndpointIsValid endpoint = true)
      (run mqttStep es (.initial efuseMac nvs)) :=
  configured_run selectable_valid efuseMac nvs
    (Along.of_forall fun _ _ _ _ fetched _ _ _ => fetched.2)

section Attempts

variable {inp : PassInput} {s : MqttState}

/-- A start that nothing hinders is an attempt, and leaves a client. -/
theorem startSelected_attempts
    (hvalid : mqttEndpointIsValid s.selectedEndpoint = true)
    (hinit : inp.clientInit = true) (hstart : inp.clientStart = true) :
    (startSelected inp s).2 = some ⟨inp.attemptTick, true⟩ ∧
      (startSelected inp s).1.client ≠ none := by
  rw [startSelected_valid inp hvalid, if_pos ⟨hinit, hstart⟩]
  exact ⟨rfl, Option.some_ne_none _⟩

/-- While the connection is kept there is a client. -/
theorem keepConnection_client
    (hs : Configured (fun endpoint => mqttEndpointIsValid endpoint = true) s)
    (hinp : Unhindered inp s) (hstarted : s.mqttStarted = true)
    (hkept : s.isMqttReady = true ∨ s.mqttConnected = true) :
    (keepConnection inp (preparePass inp s).2 (preparePass inp s).1).1.client ≠ none := by
  have hcase := keepConnection_case inp hinp.wifi hstarted hkept
  have hclient := hs.started.mp hstarted
  generalize keepConnection inp (preparePass inp s).2 (preparePass inp s).1 = result at hcase
  cases hcase with
  | idle hsame hidle =>
      rcases hidle with hdown | ⟨-, hready, hconnected, -⟩
      · exact absurd (hdown.symm.trans hinp.wifi) Bool.false_ne_true
      · rw [hready, hconnected] at hkept
        exact absurd hkept (by decide)
  | kept hwifi hstarted' hkept' hsame₁ hsame hkeeps =>
      exact mt (sameSession_keptUp hsame₁ hsame).client_eq_none.mp hclient
  | restarted hsame₁ hsame hrestarts hvalid =>
      exact (startSelected_attempts hvalid hinp.clientInit hinp.clientStart).2
  | started hwifi hstopped hsame =>
      exact absurd (hstopped.symm.trans hstarted) Bool.false_ne_true
  | recreated hwifi hstarted' hready hconnected hheld hsame =>
      rw [hready, hconnected] at hkept
      exact absurd hkept (by decide)
  | reconnected hwifi hstarted' hready hconnected hheld hsame hclient' =>
      rw [hready, hconnected] at hkept
      exact absurd hkept (by decide)

/-- Once the time to retry has come, the client is told to connect again, or
started. -/
theorem reconnect_attempts
    (hs : Configured (fun endpoint => mqttEndpointIsValid endpoint = true) s)
    (hinit : s.endpointInitialized = true)
    (hclientInit : inp.clientInit = true) (hclientStart : inp.clientStart = true)
    (hclientReconnect : inp.clientReconnect = true) :
    (reconnect inp s).2 = some ⟨inp.attemptTick, true⟩ ∧ (reconnect inp s).1.client ≠ none := by
  obtain ⟨hfound, hinit'⟩ := configured_discovery selectable_valid inp false hs hinit
    fun fetched _ _ _ => fetched.2
  unfold reconnect
  generalize mqttTryEndpointDiscovery inp false s = discovered at *
  obtain ⟨found, updated⟩ := discovered
  have hvalid := hfound.selected hinit'
  dsimp only
  split
  · exact startSelected_attempts hvalid hclientInit hclientStart
  · split
    · rename_i hclient
      exact ⟨rfl, hclient⟩
    · exact startSelected_attempts hvalid hclientInit hclientStart

/-- A pass that nothing hinders makes an attempt unless the manager takes itself
for connected, and leaves a client. -/
theorem maintenance_attempts
    (hs : Configured (fun endpoint => mqttEndpointIsValid endpoint = true) s)
    (hinp : Unhindered inp s) :
    ((mqttConnectionMaintenance inp s).2 = some ⟨inp.attemptTick, true⟩ ∨
        s.mqttStarted = true ∧ (s.isMqttReady = true ∨ s.mqttConnected = true)) ∧
      (mqttConnectionMaintenance inp s).1.client ≠ none := by
  obtain ⟨hprepared, hinit⟩ := configured_preparePass selectable_valid inp hs
  have hsame := preparePass_fst inp s
  unfold mqttConnectionMaintenance
  dsimp only
  rw [hsame.wifiConnectedFlag, hsame.mqttStarted, hsame.isMqttReady, hsame.mqttConnected,
    hsame.nextMqttRetryTick]
  split
  · rename_i hdown
    exact absurd (hdown.symm.trans hinp.wifi) Bool.false_ne_true
  · split
    · obtain ⟨hfound, hinit'⟩ := configured_discovery selectable_valid inp true hprepared hinit
        fun fetched _ _ _ => fetched.2
      obtain ⟨hattempt, hclient⟩ := startSelected_attempts (hfound.selected hinit')
        hinp.clientInit hinp.clientStart
      exact ⟨Or.inl hattempt, hclient⟩
    · rename_i hstarted
      split
      · rename_i hkept
        have hstarted' : s.mqttStarted = true := (Bool.not_eq_false _).mp hstarted
        exact ⟨Or.inr ⟨hstarted', hkept⟩, keepConnection_client hs hinp hstarted' hkept⟩
      · split
        · rename_i hheld
          exact absurd hheld hinp.notHeld
        · obtain ⟨hattempt, hclient⟩ := reconnect_attempts hprepared hinit hinp.clientInit
            hinp.clientStart hinp.clientReconnect
          exact ⟨Or.inl hattempt, hclient⟩

end Attempts

/-! ## Sessions -/

/-- The client is connected, and the broker has begun a session with it. -/
def InSession (s : MqttState) : Prop :=
  s.mqttStarted = true ∧ s.mqttConnected = true ∧
    ∃ n, s.client.map MqttClient.acknowledged = some (some n)

/-- What takes itself for connected has a session. -/
def ConnectedInSession (s : MqttState) : Prop :=
  s.mqttStarted = true → s.mqttConnected = true → InSession s

section Sessions

variable {s s' : MqttState}

theorem SameSession.connectedInSession (h : SameSession s s') (hs : ConnectedInSession s) :
    ConnectedInSession s' := by
  unfold ConnectedInSession InSession at *
  rw [h.mqttStarted, h.mqttConnected, h.acknowledged]
  exact hs

/-- A client that has been started is not yet connected. -/
theorem startSelected_connectedInSession (inp : PassInput) (hs : ConnectedInSession s) :
    ConnectedInSession (startSelected inp s).1 := by
  cases hvalid : mqttEndpointIsValid s.selectedEndpoint with
  | false =>
      rw [startSelected_invalid inp hvalid]
      exact hs
  | true =>
      rw [startSelected_valid inp hvalid]
      split
      · exact fun _ => nofun
      · exact nofun

theorem maintenance_connectedInSession (inp : PassInput) (hs : ConnectedInSession s) :
    ConnectedInSession (mqttConnectionMaintenance inp s).1 := by
  have hcase := mqttConnectionMaintenance_case inp s
  generalize mqttConnectionMaintenance inp s = result at hcase
  cases hcase with
  | idle hsame hidle => exact hsame.sameSession.connectedInSession hs
  | kept hwifi hstarted hkept hsame₁ hsame hkeeps =>
      exact (sameSession_keptUp hsame₁ hsame).connectedInSession hs
  | restarted hsame₁ hsame hrestarts hvalid =>
      exact startSelected_connectedInSession inp
        ((sameSession_keptUp hsame₁ hsame).connectedInSession hs)
  | started hwifi hstopped hsame =>
      exact startSelected_connectedInSession inp (hsame.sameSession.connectedInSession hs)
  | recreated hwifi hstarted hready hconnected hheld hsame =>
      exact startSelected_connectedInSession inp (hsame.sameSession.connectedInSession hs)
  | reconnected hwifi hstarted hready hconnected hheld hsame hclient =>
      have hsession := hsame.sameSession.connectedInSession hs
      split
      · exact hsession
      · exact hsession

/-- Only a client that connects is taken for connected, and the broker begins a
session with it. -/
theorem client_connectedInSession
    (tick : UInt32) (event : ClientEvent) {client : MqttClient} (hclient : s.client = some client)
    (hs : ConnectedInSession s) :
    ConnectedInSession
      (sessionAfter tick event { s with client := some (client.after event) }) := by
  have hsame : ConnectedInSession { s with client := some client } := by
    rw [← hclient]
    exact hs
  cases event with
  | connected => exact fun hstarted _ => ⟨hstarted, rfl, 0, rfl⟩
  | disconnected => exact fun _ => nofun
  | error => exact fun _ => nofun
  | subscribed =>
      have hcounted : ∀ ready counter, ConnectedInSession
          { s with
            client := some (client.after .subscribed)
            isMqttReady := ready
            subscribeCounter := counter } := by
        intro ready counter hstarted hconnected
        obtain ⟨-, -, n, hn⟩ := hsame hstarted hconnected
        refine ⟨hstarted, hconnected, n + 1, ?_⟩
        have hacknowledged : client.acknowledged = some n := Option.some.inj hn
        show some (client.acknowledged.map (· + 1)) = some (some (n + 1))
        rw [hacknowledged]
        rfl
      unfold sessionAfter
      dsimp only
      split
      · exact hcounted _ _
      · exact hcounted s.isMqttReady _
  | unsubscribed => exact hsame
  | published => exact hsame
  | data topic payload => exact hsame
  | other => exact hsame

theorem connectedInSession_mqttStep (e : MqttEvent) (hs : ConnectedInSession s) :
    ConnectedInSession (mqttStep e s) := by
  have hother : (∀ inp, e ≠ .pass inp) → (∀ tick event, e ≠ .client tick event) →
      ConnectedInSession (mqttStep e s) :=
    fun hpass hclient => (sameSession_mqttStep s hpass hclient).connectedInSession hs
  cases e with
  | taskStarted reads => exact hother (by simp) (by simp)
  | pass inp => exact maintenance_connectedInSession inp hs
  | client tick event =>
      unfold mqttStep
      dsimp only
      split
      · exact hs
      · rename_i client hclient
        exact (sameSession_mqttEventHandler tick event _).connectedInSession
          (client_connectedInSession tick event hclient hs)
  | subscribeAppTopics => exact hother (by simp) (by simp)
  | eeprom gRDEeprom => exact hother (by simp) (by simp)
  | wifi connected => exact hother (by simp) (by simp)

theorem connectedInSession_run
    (efuseMac : Option (Vector UInt8 6)) (nvs : EndpointNvs) (es : List MqttEvent) :
    ConnectedInSession (run mqttStep es (.initial efuseMac nvs)) :=
  (Along.of_forall (p := fun _ _ => True) fun _ _ => trivial).invariant
    (fun e _ _ hs => connectedInSession_mqttStep e hs) nofun

/-- Where every event has kept readiness true to the connection, the manager is
ready only over a live one. -/
theorem readyIsLive_run
    {efuseMac : Option (Vector UInt8 6)} {nvs : EndpointNvs} {es : List MqttEvent}
    (hes : Along mqttStep KeepsReadiness es (.initial efuseMac nvs)) :
    ReadyIsLive (run mqttStep es (.initial efuseMac nvs)) := by
  have hboth := hes.invariant
    (fun e s he (hs : ClientStarted s ∧ ReadyIsLive s) =>
      ⟨mqttStep_clientStarted e hs.1, (mqttStep_readyIsLive_iff e hs.1 hs.2).mpr he⟩)
    ⟨fun hclient => absurd rfl hclient, fun hready => by cases hready⟩
  exact hboth.2

end Sessions

/-! ## The counter of acknowledgements -/

/-- An acknowledgement is counted alone: the second sets the counter back. -/
def CountsToTwo (s : MqttState) : Prop :=
  s.subscribeCounter = 0 ∨ s.subscribeCounter = 1

section Counter

variable {s s' : MqttState}

theorem SameSession.countsToTwo (h : SameSession s s') (hs : CountsToTwo s) :
    CountsToTwo s' := by
  unfold CountsToTwo
  rwa [h.subscribeCounter]

theorem startSelected_countsToTwo (inp : PassInput) (hs : CountsToTwo s) :
    CountsToTwo (startSelected inp s).1 := by
  cases hvalid : mqttEndpointIsValid s.selectedEndpoint with
  | false =>
      rw [startSelected_invalid inp hvalid]
      exact hs
  | true =>
      rw [startSelected_valid inp hvalid]
      split
      · exact hs
      · exact hs

theorem maintenance_countsToTwo (inp : PassInput) (hs : CountsToTwo s) :
    CountsToTwo (mqttConnectionMaintenance inp s).1 := by
  have hcase := mqttConnectionMaintenance_case inp s
  generalize mqttConnectionMaintenance inp s = result at hcase
  cases hcase with
  | idle hsame hidle => exact hsame.sameSession.countsToTwo hs
  | kept hwifi hstarted hkept hsame₁ hsame hkeeps =>
      exact (sameSession_keptUp hsame₁ hsame).countsToTwo hs
  | restarted hsame₁ hsame hrestarts hvalid =>
      exact startSelected_countsToTwo inp ((sameSession_keptUp hsame₁ hsame).countsToTwo hs)
  | started hwifi hstopped hsame =>
      exact startSelected_countsToTwo inp (hsame.sameSession.countsToTwo hs)
  | recreated hwifi hstarted hready hconnected hheld hsame =>
      exact startSelected_countsToTwo inp (hsame.sameSession.countsToTwo hs)
  | reconnected hwifi hstarted hready hconnected hheld hsame hclient =>
      have hcounts := hsame.sameSession.countsToTwo hs
      split
      · exact hcounts
      · exact hcounts

theorem sessionAfter_countsToTwo (tick : UInt32) (event : ClientEvent) (hs : CountsToTwo s) :
    CountsToTwo (sessionAfter tick event s) := by
  cases event with
  | subscribed =>
      unfold sessionAfter
      dsimp only
      split
      · exact Or.inl rfl
      · rename_i hfirst
        rcases hs with hzero | hone
        · refine Or.inr ?_
          show s.subscribeCounter + 1 = 1
          rw [hzero]
          rfl
        · exact absurd hone hfirst
  | disconnected => exact Or.inl rfl
  | error => exact Or.inl rfl
  | connected => exact hs
  | data topic payload => exact hs
  | unsubscribed => exact hs
  | published => exact hs
  | other => exact hs

theorem countsToTwo_mqttStep (e : MqttEvent) (hs : CountsToTwo s) :
    CountsToTwo (mqttStep e s) := by
  have hother : (∀ inp, e ≠ .pass inp) → (∀ tick event, e ≠ .client tick event) →
      CountsToTwo (mqttStep e s) :=
    fun hpass hclient => (sameSession_mqttStep s hpass hclient).countsToTwo hs
  cases e with
  | taskStarted reads => exact hother (by simp) (by simp)
  | pass inp => exact maintenance_countsToTwo inp hs
  | client tick event =>
      unfold mqttStep
      dsimp only
      split
      · exact hs
      · exact (sameSession_mqttEventHandler tick event _).countsToTwo
          (sessionAfter_countsToTwo tick event hs)
  | subscribeAppTopics => exact hother (by simp) (by simp)
  | eeprom gRDEeprom => exact hother (by simp) (by simp)
  | wifi connected => exact hother (by simp) (by simp)

theorem countsToTwo_run
    (efuseMac : Option (Vector UInt8 6)) (nvs : EndpointNvs) (es : List MqttEvent) :
    CountsToTwo (run mqttStep es (.initial efuseMac nvs)) :=
  (Along.of_forall (p := fun _ _ => True) fun _ _ => trivial).invariant
    (fun e _ _ hs => countsToTwo_mqttStep e hs) (Or.inl rfl)

end Counter

/-! ## A session that is left alone -/

/-- The client is neither lost nor restarted, and does not connect once more. -/
def Undisturbed (e : MqttEvent) (s : MqttState) : Prop :=
  match e with
  | .pass inp => restartsPeriodically inp s = false
  | .client _ .connected | .client _ .disconnected | .client _ .error => False
  | _ => True

/-- The broker acknowledges a subscription. -/
def isAcknowledgement : MqttEvent → Bool
  | .client _ .subscribed => true
  | _ => false

/-- The session after so many acknowledgements.  An acknowledgement that was
counted before it was taken up only makes the manager ready sooner. -/
structure Established (acknowledgements : Nat) (s : MqttState) : Prop where
  started : s.mqttStarted = true
  connected : s.mqttConnected = true
  acknowledged : s.client.map MqttClient.acknowledged = some (some acknowledgements)
  noFailures : s.mqttConsecutiveFailures = 0
  counting : s.isMqttReady = true ∨
    acknowledgements ≤ s.subscribeCounter.toNat ∧ CountsToTwo s

section Established

variable {n : Nat} {s s' : MqttState}

theorem SameSession.established (h : SameSession s s') (hs : Established n s) :
    Established n s' where
  started := h.mqttStarted.trans hs.started
  connected := h.mqttConnected.trans hs.connected
  acknowledged := h.acknowledged.trans hs.acknowledged
  noFailures := h.mqttConsecutiveFailures.trans hs.noFailures
  counting := by
    rw [h.isMqttReady, h.subscribeCounter]
    exact hs.counting.imp_right fun hcounts => ⟨hcounts.1, h.countsToTwo hcounts.2⟩

/-- Two acknowledgements make the manager ready. -/
theorem Established.ready (h : Established n s) (hn : 2 ≤ n) :
    s.isMqttReady = true ∧ LiveConnection s := by
  refine ⟨?_, h.started, h.connected, n, h.acknowledged, hn⟩
  rcases h.counting with hready | ⟨hcounted, hzero | hone⟩
  · exact hready
  · rw [hzero] at hcounted
    have hnone : n ≤ 0 := hcounted
    omega
  · rw [hone] at hcounted
    have hfirst : n ≤ 1 := hcounted
    omega

/-- A pass keeps the session, if it does not restart the client. -/
theorem established_maintenance
    {inp : PassInput} (hs : Established n s) (hkeeps : restartsPeriodically inp s = false) :
    Established n (mqttConnectionMaintenance inp s).1 := by
  have hcase := mqttConnectionMaintenance_case inp s
  generalize mqttConnectionMaintenance inp s = result at hcase
  cases hcase with
  | idle hsame hidle => exact hsame.sameSession.established hs
  | kept hwifi hstarted hkept hsame₁ hsame hkeeps' =>
      exact (sameSession_keptUp hsame₁ hsame).established hs
  | restarted hsame₁ hsame hrestarts hvalid =>
      exact absurd (hkeeps.symm.trans hrestarts) Bool.false_ne_true
  | started hwifi hstopped hsame =>
      exact absurd (hstopped.symm.trans hs.started) Bool.false_ne_true
  | recreated hwifi hstarted hready hconnected hheld hsame =>
      exact absurd (hconnected.symm.trans hs.connected) Bool.false_ne_true
  | reconnected hwifi hstarted hready hconnected hheld hsame hclient =>
      exact absurd (hconnected.symm.trans hs.connected) Bool.false_ne_true

/-- An acknowledgement is counted by the broker and by the manager. -/
theorem established_subscribed
    (tick : UInt32) (hs : Established n s) :
    Established (n + 1) (mqttStep (.client tick .subscribed) s) := by
  obtain ⟨client, hclient, hacknowledged⟩ := Option.map_eq_some_iff.mp hs.acknowledged
  unfold mqttStep
  dsimp only
  rw [hclient]
  dsimp only
  refine (sameSession_mqttEventHandler tick .subscribed _).established ?_
  have hafter : ((some (client.after .subscribed)).map MqttClient.acknowledged) =
      some (some (n + 1)) := by
    show some (client.acknowledged.map (· + 1)) = some (some (n + 1))
    rw [hacknowledged]
    rfl
  unfold sessionAfter
  dsimp only
  split
  · exact ⟨hs.started, hs.connected, hafter, hs.noFailures, Or.inl rfl⟩
  · rename_i hfirst
    refine ⟨hs.started, hs.connected, hafter, hs.noFailures, ?_⟩
    refine hs.counting.imp_right fun ⟨hcounted, htwo⟩ => ?_
    have hzero : s.subscribeCounter = 0 := htwo.resolve_right hfirst
    rw [hzero] at hcounted
    have hnone : n ≤ 0 := hcounted
    constructor
    · show n + 1 ≤ (s.subscribeCounter + 1).toNat
      rw [hzero, Nat.le_zero.mp hnone]
      decide
    · refine Or.inr ?_
      show s.subscribeCounter + 1 = 1
      rw [hzero]
      rfl

/-- Any other message of the client leaves the session alone. -/
theorem established_client
    (tick : UInt32) {event : ClientEvent} (hs : Established n s)
    (hother : sessionAfter tick event = id) (hafter : ∀ client : MqttClient,
      client.after event = client) :
    Established n (mqttStep (.client tick event) s) := by
  obtain ⟨client, hclient, -⟩ := Option.map_eq_some_iff.mp hs.acknowledged
  unfold mqttStep
  dsimp only
  rw [hclient]
  dsimp only
  refine (sameSession_mqttEventHandler tick event _).established ?_
  rw [hother, hafter, ← hclient]
  exact hs

theorem established_mqttStep
    (e : MqttEvent) (hs : Established n s) (he : Undisturbed e s) :
    Established (n + if isAcknowledgement e then 1 else 0) (mqttStep e s) := by
  have hother : (∀ inp, e ≠ .pass inp) → (∀ tick event, e ≠ .client tick event) →
      Established n (mqttStep e s) :=
    fun hpass hclient => (sameSession_mqttStep s hpass hclient).established hs
  cases e with
  | taskStarted reads => exact hother (by simp) (by simp)
  | pass inp => exact established_maintenance hs he
  | client tick event =>
      cases event with
      | connected => exact he.elim
      | disconnected => exact he.elim
      | error => exact he.elim
      | subscribed => exact established_subscribed tick hs
      | unsubscribed => exact established_client tick hs rfl fun _ => rfl
      | published => exact established_client tick hs rfl fun _ => rfl
      | data topic payload => exact established_client tick hs rfl fun _ => rfl
      | other => exact established_client tick hs rfl fun _ => rfl
  | subscribeAppTopics => exact hother (by simp) (by simp)
  | eeprom gRDEeprom => exact hother (by simp) (by simp)
  | wifi connected => exact hother (by simp) (by simp)

/-- Along a run that leaves it alone a session has the acknowledgements that come
in. -/
theorem established_run
    {fs : List MqttEvent} (hs : Established n s) (hfs : Along mqttStep Undisturbed fs s) :
    Established (n + fs.countP isAcknowledgement) (run mqttStep fs s) := by
  induction fs generalizing n s with
  | nil =>
      exact hs
  | cons e fs ih =>
      have hstep := ih (established_mqttStep e hs hfs.1) hfs.2
      rw [List.countP_cons, run_cons, Nat.add_comm (fs.countP isAcknowledgement), ← Nat.add_assoc]
      exact hstep

/-- A client that connects begins a session. -/
theorem established_connected
    (tick : UInt32) (hclient : s.client ≠ none) (hstarted : s.mqttStarted = true)
    (hcounts : CountsToTwo s) :
    Established 0 (mqttStep (.client tick .connected) s) := by
  obtain ⟨client, hsome⟩ := Option.ne_none_iff_exists'.mp hclient
  unfold mqttStep
  dsimp only
  rw [hsome]
  dsimp only
  refine (sameSession_mqttEventHandler tick .connected _).established ?_
  exact ⟨hstarted, rfl, rfl, rfl, Or.inr ⟨Nat.zero_le _, hcounts⟩⟩

end Established

/-- From every state that is reached: a pass that nothing hinders leaves a client,
and makes an attempt, unless the client has a session or the manager takes itself
for ready without one, to which only a run leads that does not keep readiness
true; and once the client has connected and two subscriptions have been
acknowledged, in a run that leaves the session alone, the manager is ready over a
live connection. -/
theorem manager_recovers
    (efuseMac : Option (Vector UInt8 6)) (nvs : EndpointNvs) (es : List MqttEvent)
    (inp : PassInput) (hinp : Unhindered inp (run mqttStep es (.initial efuseMac nvs))) :
    let s := run mqttStep es (.initial efuseMac nvs)
    ((mqttConnectionMaintenance inp s).2 = some ⟨inp.attemptTick, true⟩ ∨ InSession s ∨
        (s.isMqttReady = true ∧ s.mqttConnected = false ∧ s.client ≠ none ∧
          ¬ Along mqttStep KeepsReadiness es (.initial efuseMac nvs))) ∧
      (mqttConnectionMaintenance inp s).1.client ≠ none ∧
      ∀ (tick : UInt32) (fs : List MqttEvent),
        Along mqttStep Undisturbed fs (run mqttStep [.pass inp, .client tick .connected] s) →
          2 ≤ fs.countP isAcknowledgement →
            let s' := run mqttStep ([.pass inp, .client tick .connected] ++ fs) s
            s'.isMqttReady = true ∧ LiveConnection s' ∧ s'.mqttConsecutiveFailures = 0 := by
  intro s
  have hconfigured := validlyConfigured_run efuseMac nvs es
  obtain ⟨hattempt, hclient⟩ := maintenance_attempts hconfigured hinp
  refine ⟨?_, hclient, fun tick fs hfs hacknowledged => ?_⟩
  · refine hattempt.imp_right fun ⟨hstarted, hflags⟩ => ?_
    cases hup : s.mqttConnected with
    | true => exact Or.inl (connectedInSession_run efuseMac nvs es hstarted hup)
    | false =>
        have hleft : s.isMqttReady = true := hflags.resolve_right (by rw [hup]; decide)
        refine Or.inr ⟨hleft, rfl, hconfigured.started.mp hstarted, fun hes => ?_⟩
        obtain ⟨-, hdown, -⟩ := readyIsLive_run hes hleft
        exact Bool.false_ne_true (hup.symm.trans hdown)
  · have hpassed := configured_maintenance selectable_valid inp hconfigured
      fun fetched _ _ _ => fetched.2
    have hcounts := maintenance_countsToTwo inp (countsToTwo_run efuseMac nvs es)
    have hconnected : Established 0 (run mqttStep [.pass inp, .client tick .connected] s) :=
      established_connected tick hclient (hpassed.started.mpr hclient) hcounts
    have hsession := established_run hconnected hfs
    rw [Nat.zero_add] at hsession
    rw [← run_append] at hsession
    obtain ⟨hready, hlive⟩ := hsession.ready hacknowledged
    exact ⟨hready, hlive, hsession.noFailures⟩

/-- The client is started and fails twice. -/
def failedTwice : List MqttEvent :=
  [.taskStarted .ok, .wifi true, passAt 5 none, .client 6 .error, .client 7 .error]

/-- Acknowledgements come among other events. -/
def acknowledgedTwice : List MqttEvent :=
  [.eeprom (fun _ => 0), .client 5002 .subscribed, passAt 5003 none, .client 5004 .published,
    .client 5005 .subscribed]

/-- After two seconds the client is told to connect again, and the manager
recovers. -/
theorem failedTwice_recovers :
    let s := run mqttStep failedTwice (.initial none .empty)
    let s' := run mqttStep ([passAt 5000 none, .client 5001 .connected] ++ acknowledgedTwice) s
    (mqttConnectionMaintenance (clearPass 5000 none) s).2 = some ⟨5000, true⟩ ∧
      s'.isMqttReady = true ∧ LiveConnection s' ∧ s'.mqttConsecutiveFailures = 0 := by
  obtain ⟨-, -, hrecovers⟩ := manager_recovers none .empty failedTwice (clearPass 5000 none)
    ⟨rfl, by decide, rfl, rfl, rfl⟩
  have hacknowledged := hrecovers 5001 acknowledgedTwice
    ⟨trivial, trivial, rfl, trivial, trivial, trivial⟩ (by decide)
  exact ⟨by decide +kernel, hacknowledged⟩

end Mqtt
end AvensysEsp32
