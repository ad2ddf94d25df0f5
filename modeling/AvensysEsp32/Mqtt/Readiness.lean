import AvensysEsp32.Mqtt.Passes

/-!
# Readiness

`is_mqtt_ready` says that the client is connected and that the broker has
acknowledged two subscriptions.  It is taken back when the connection is lost,
and nowhere else: not when the client is restarted, and not when it connects.
The counter of acknowledgements is kept over a restart as well.
-/

namespace AvensysEsp32
namespace Mqtt

open Foundation

/-- The client is connected and has had two acknowledgements since. -/
def LiveConnection (s : MqttState) : Prop :=
  s.mqttStarted = true ∧ s.mqttConnected = true ∧
    ∃ n, s.client.map MqttClient.acknowledged = some (some n) ∧ 2 ≤ n

/-- The client is ready only over a live connection. -/
def ReadyIsLive (s : MqttState) : Prop :=
  s.isMqttReady = true → LiveConnection s

/-- Where an event keeps readiness true to the connection: no ready client is
restarted or connects once more, and a pair of acknowledgements is completed
over the connection that began it. -/
def KeepsReadiness (e : MqttEvent) (s : MqttState) : Prop :=
  match e with
  | .pass inp => s.isMqttReady = true → restartsPeriodically inp s = false
  | .client _ .connected => s.isMqttReady = false
  | .client _ .subscribed =>
      s.subscribeCounter = 1 → s.client ≠ none →
        s.mqttConnected = true ∧
          ∃ n, s.client.map MqttClient.acknowledged = some (some n) ∧ 1 ≤ n
  | _ => True

theorem SameSession.liveConnection
    {s s' : MqttState} (h : SameSession s s') :
    LiveConnection s' ↔ LiveConnection s := by
  unfold LiveConnection
  rw [h.mqttStarted, h.mqttConnected, h.acknowledged]

theorem SameSession.readyIsLive
    {s s' : MqttState} (h : SameSession s s') :
    ReadyIsLive s' ↔ ReadyIsLive s := by
  unfold ReadyIsLive
  rw [h.isMqttReady, h.liveConnection]

/-! ## Starts -/

/-- A start leaves readiness as it is. -/
theorem startSelected_isMqttReady (inp : PassInput) (s : MqttState) :
    (startSelected inp s).1.isMqttReady = s.isMqttReady := by
  cases hvalid : mqttEndpointIsValid s.selectedEndpoint with
  | false =>
      rw [startSelected_invalid inp hvalid]
      rfl
  | true =>
      rw [startSelected_valid inp hvalid]
      split
      · rfl
      · rfl

/-- After a start with a valid endpoint the client is not connected, or there
is none. -/
theorem startSelected_not_live
    (inp : PassInput) {s : MqttState}
    (hvalid : mqttEndpointIsValid s.selectedEndpoint = true) :
    ¬ LiveConnection (startSelected inp s).1 := by
  rw [startSelected_valid inp hvalid]
  rintro ⟨hstarted, hconnected, -⟩
  split at hstarted
  · rename_i hstart
    rw [if_pos hstart] at hconnected
    cases hconnected
  · cases hstarted

/-! ## Steps -/

/-- A start is no harm while the client is not ready. -/
theorem startSelected_readyIsLive
    (inp : PassInput) {s s' : MqttState} (hsame : SameSession s s')
    (hready : s.isMqttReady = false) :
    ReadyIsLive (startSelected inp s').1 := by
  intro hready'
  rw [startSelected_isMqttReady, hsame.isMqttReady, hready] at hready'
  cases hready'

/-- A pass keeps readiness true to the connection unless it restarts a ready
client. -/
theorem maintenance_readyIsLive_iff
    (inp : PassInput) {s : MqttState} (hlive : ReadyIsLive s) :
    ReadyIsLive (mqttConnectionMaintenance inp s).1 ↔
      (s.isMqttReady = true → restartsPeriodically inp s = false) := by
  have hnotReady : s.isMqttReady = false →
      (s.isMqttReady = true → restartsPeriodically inp s = false) := by
    intro hready hready'
    rw [hready] at hready'
    cases hready'
  have hcase := mqttConnectionMaintenance_case inp s
  generalize mqttConnectionMaintenance inp s = result at hcase
  cases hcase with
  | idle hsame hidle =>
      refine iff_of_true (hsame.sameSession.readyIsLive.2 hlive) ?_
      rcases hidle with hwifi | ⟨-, hready, -⟩
      · exact fun _ => restartsPeriodically_of_wifi_down inp hwifi
      · exact hnotReady hready
  | kept hwifi hstarted hkept hsame₁ hsame hkeeps =>
      have hsession := sameSession_keptUp hsame₁ hsame
      exact iff_of_true (hsession.readyIsLive.2 hlive) fun _ => hkeeps
  | restarted hsame₁ hsame hrestarts hvalid =>
      have hsession := sameSession_keptUp hsame₁ hsame
      cases hready : s.isMqttReady with
      | false =>
          refine iff_of_true (startSelected_readyIsLive inp hsession hready) ?_
          intro hready'
          cases hready'
      | true =>
          refine iff_of_false ?_ ?_
          · intro hlive'
            refine startSelected_not_live inp hvalid (hlive' ?_)
            rw [startSelected_isMqttReady, hsession.isMqttReady, hready]
          · intro hkeeps
            rw [hkeeps rfl] at hrestarts
            cases hrestarts
  | started hwifi hstopped hsame =>
      have hready : s.isMqttReady = false := by
        cases hready : s.isMqttReady with
        | false => rfl
        | true =>
            have hstarted := (hlive hready).1
            rw [hstopped] at hstarted
            cases hstarted
      exact iff_of_true (startSelected_readyIsLive inp hsame.sameSession hready)
        (hnotReady hready)
  | recreated hwifi hstarted hready hconnected hheld hsame =>
      exact iff_of_true (startSelected_readyIsLive inp hsame.sameSession hready)
        (hnotReady hready)
  | reconnected hwifi hstarted hready hconnected hheld hsame hclient =>
      have hsession := hsame.sameSession
      refine iff_of_true ?_ (hnotReady hready)
      intro hready'
      split at hready'
      · rw [hsession.isMqttReady, hready] at hready'
        cases hready'
      · rw [show (recordFailure inp.retryTick _).isMqttReady = s.isMqttReady from
          hsession.isMqttReady, hready] at hready'
        cases hready'

/-- An acknowledgement completes a pair: the client becomes ready. -/
theorem subscribed_second_iff
    {s : MqttState} {client : MqttClient}
    (hclient : s.client = some client) (hstarted : s.mqttStarted = true) :
    ReadyIsLive
        { s with
          client := some (client.after .subscribed)
          isMqttReady := true
          subscribeCounter := 0 } ↔
      s.mqttConnected = true ∧
        ∃ n, s.client.map MqttClient.acknowledged = some (some n) ∧ 1 ≤ n := by
  constructor
  · intro hlive
    obtain ⟨-, hconnected, n, hn, hle⟩ := hlive rfl
    refine ⟨hconnected, ?_⟩
    cases hack : client.acknowledged with
    | none => simp [MqttClient.after, hack] at hn
    | some m =>
        refine ⟨m, by rw [hclient, Option.map_some, hack], ?_⟩
        have hnm : m + 1 = n := by
          simpa [MqttClient.after, hack] using hn
        omega
  · rintro ⟨hconnected, n, hn, hle⟩ -
    rw [hclient, Option.map_some, Option.some.injEq] at hn
    refine ⟨hstarted, hconnected, n + 1, ?_, by omega⟩
    show some (client.acknowledged.map (· + 1)) = some (some (n + 1))
    rw [hn]
    rfl

/-- One more acknowledgement does a live connection no harm. -/
theorem subscribed_readyIsLive
    {s : MqttState} {client : MqttClient}
    (hclient : s.client = some client) (hlive : ReadyIsLive s) (counter : UInt8) :
    ReadyIsLive
      { s with client := some (client.after .subscribed), subscribeCounter := counter } := by
  intro hready
  obtain ⟨hstarted, hconnected, n, hn, hle⟩ := hlive hready
  rw [hclient, Option.map_some, Option.some.injEq] at hn
  refine ⟨hstarted, hconnected, n + 1, ?_, by omega⟩
  show some (client.acknowledged.map (· + 1)) = some (some (n + 1))
  rw [hn]
  rfl

/-- A client that connects must not be ready yet. -/
theorem connected_readyIsLive_iff
    (tick : UInt32) (s : MqttState) (client : MqttClient) :
    ReadyIsLive (sessionAfter tick .connected
        { s with client := some (client.after .connected) }) ↔
      s.isMqttReady = false := by
  constructor
  · intro hlive
    cases hready : s.isMqttReady with
    | false => rfl
    | true =>
        obtain ⟨-, -, n, hn, hle⟩ := hlive hready
        have hzero : 0 = n := by
          simpa [sessionAfter, MqttClient.after] using hn
        omega
  · intro hready hready'
    have : s.isMqttReady = true := hready'
    rw [hready] at this
    cases this

/-- An event of a client that exists keeps readiness true to the connection
exactly where it should. -/
theorem handler_readyIsLive_iff
    (tick : UInt32) (event : ClientEvent) {s : MqttState} {client : MqttClient}
    (hclient : s.client = some client) (hstarted : s.mqttStarted = true)
    (hlive : ReadyIsLive s) :
    ReadyIsLive (mqttEventHandler tick event { s with client := some (client.after event) }) ↔
      KeepsReadiness (.client tick event) s := by
  have hsome : s.client ≠ none := by
    rw [hclient]
    exact Option.some_ne_none client
  have hunchanged : ReadyIsLive { s with client := some client } := by
    rw [← hclient]
    exact hlive
  rw [(sameSession_mqttEventHandler tick event _).readyIsLive]
  cases event with
  | connected => exact connected_readyIsLive_iff tick s client
  | disconnected => exact iff_of_true (fun hready => by cases hready) trivial
  | subscribed =>
      unfold sessionAfter KeepsReadiness
      dsimp only
      split
      · rename_i hcounter
        rw [subscribed_second_iff hclient hstarted]
        exact ⟨fun h _ _ => h, fun h => h hcounter hsome⟩
      · rename_i hcounter
        exact iff_of_true (subscribed_readyIsLive hclient hlive _) fun h => absurd h hcounter
  | unsubscribed => exact iff_of_true hunchanged trivial
  | published => exact iff_of_true hunchanged trivial
  | data topic payload => exact iff_of_true hunchanged trivial
  | error => exact iff_of_true (fun hready => by cases hready) trivial
  | other => exact iff_of_true hunchanged trivial

/-- Every event keeps readiness true to the connection exactly where it
should. -/
theorem mqttStep_readyIsLive_iff
    (e : MqttEvent) {s : MqttState} (hstarted : ClientStarted s) (hlive : ReadyIsLive s) :
    ReadyIsLive (mqttStep e s) ↔ KeepsReadiness e s := by
  have hother : (∀ inp, e ≠ .pass inp) → (∀ tick event, e ≠ .client tick event) →
      ReadyIsLive (mqttStep e s) :=
    fun hpass hclient => (sameSession_mqttStep s hpass hclient).readyIsLive.2 hlive
  cases e with
  | taskStarted reads => exact iff_of_true (hother (by simp) (by simp)) trivial
  | pass inp => exact maintenance_readyIsLive_iff inp hlive
  | client tick event =>
      cases hclient : s.client with
      | none =>
          have hready : s.isMqttReady = false := by
            cases hready : s.isMqttReady with
            | false => rfl
            | true =>
                obtain ⟨-, -, n, hn, -⟩ := hlive hready
                simp [hclient] at hn
          refine iff_of_true ?_ ?_
          · simpa only [mqttStep, hclient] using hlive
          · cases event with
            | connected => exact hready
            | subscribed => exact fun _ hsome => absurd hclient hsome
            | _ => trivial
      | some client =>
          have hsome : s.client ≠ none := by
            rw [hclient]
            exact Option.some_ne_none client
          simpa only [mqttStep, hclient] using
            handler_readyIsLive_iff tick event hclient (hstarted hsome) hlive
  | subscribeAppTopics => exact iff_of_true (hother (by simp) (by simp)) trivial
  | eeprom gRDEeprom => exact iff_of_true (hother (by simp) (by simp)) trivial
  | wifi connected => exact iff_of_true (hother (by simp) (by simp)) trivial

/-- In every run from the start of the program, the client is ready only over
a live connection exactly when every event keeps it so. -/
theorem readiness_live_iff
    (efuseMac : Option (Vector UInt8 6)) (nvs : EndpointNvs) (es : List MqttEvent) :
    Along mqttStep (fun e s => ReadyIsLive (mqttStep e s)) es (MqttState.initial efuseMac nvs) ↔
      Along mqttStep KeepsReadiness es (MqttState.initial efuseMac nvs) := by
  have hinitial : ClientStarted (MqttState.initial efuseMac nvs) ∧
      ReadyIsLive (MqttState.initial efuseMac nvs) :=
    ⟨fun hclient => absurd rfl hclient, fun hready => by cases hready⟩
  have hstep : ∀ e s, (ClientStarted s ∧ ReadyIsLive s) → ReadyIsLive (mqttStep e s) →
      (ClientStarted (mqttStep e s) ∧ ReadyIsLive (mqttStep e s)) := by
    rintro e s ⟨hstarted, -⟩ hlive
    exact ⟨mqttStep_clientStarted e hstarted, hlive⟩
  have hiff : ∀ e s, (ClientStarted s ∧ ReadyIsLive s) →
      (ReadyIsLive (mqttStep e s) ↔ KeepsReadiness e s) := by
    rintro e s ⟨hstarted, hlive⟩
    exact mqttStep_readyIsLive_iff e hstarted hlive
  exact along_congr_of_invariant hstep hiff es hinitial

/-! ## A restart while the client is ready -/

/-- `mqtt://b:1883` -/
def otherEndpoint : ValidEndpoint where
  val := { host := [98], port := 1883, tls := false, username := [], password := [] }
  property := brokerEndpoint_isValid

/-- The client is started, connects and becomes ready. -/
def readyRun : List MqttEvent :=
  [.wifi true, passAt 1000 none, .client 2000 .connected, .client 2100 .subscribed,
    .client 2200 .subscribed]

/-- An hour later a new endpoint is discovered: the client that replaces the
connected one is ready before it connects. -/
theorem restarted_ready_not_live :
    ¬ Along mqttStep (fun e s => ReadyIsLive (mqttStep e s))
        (readyRun ++ [passAt 3601000 (some otherEndpoint)])
        (MqttState.initial none .empty) := by
  rw [along_append]
  rintro ⟨-, hlast, -⟩
  obtain ⟨-, hconnected, -⟩ := hlast (by decide +kernel)
  revert hconnected
  decide +kernel

end Mqtt
end AvensysEsp32
