import AvensysEsp32.Foundation.Clock
import AvensysEsp32.Mqtt.Passes
import Mathlib.Tactic.IntervalCases

/-!
# The delay between attempts

What the manager does is recorded: its attempts to connect, the failures it
counts, and when the client connects.  The law says how long an attempt has to
wait for an earlier one and for the failure recorded last since.  The manager
keeps the time of the next attempt in `s_next_mqtt_retry_tick`; it tests it in
one of the branches that make attempts, and sets it when an attempt fails but
not when one is accepted.
-/

namespace AvensysEsp32
namespace Mqtt

open Foundation

/-! ## The law -/

inductive Record
  | attempt (tick : UInt32)
  | failure (tick : UInt32) (failures : UInt32)
  | connected
deriving DecidableEq, Repr

/-- The last attempt with which the client has not connected, and the failure
recorded last since. -/
structure Pending where
  tick : UInt32
  failure : Option (UInt32 × UInt32)
deriving DecidableEq, Repr

/-- `min(60000, 1000 * 2^(failures - 1))` -/
def backoff (failures : Nat) : Nat :=
  min 60000 (1000 * 2 ^ (failures - 1))

/-- A further attempt is no sooner than the base delay after the last, and no
sooner than the delay of its failure after that. -/
def Pending.Allows (pending : Pending) (tick : UInt32) : Prop :=
  pending.tick.toNat + mqttReconnectBase.toNat ≤ tick.toNat ∧
    ∀ failedAt failures, pending.failure = some (failedAt, failures) →
      failedAt.toNat + backoff failures.toNat ≤ tick.toNat

/-- What is pending after a record. -/
def pendingAfter (pending : Option Pending) : Record → Option Pending
  | .attempt tick => some ⟨tick, none⟩
  | .failure tick failures => pending.map fun p => { p with failure := some (tick, failures) }
  | .connected => none

/-- Every attempt among the records is allowed by what is pending. -/
def BackoffRespected : Option Pending → List Record → Prop
  | _, [] => True
  | pending, r :: rs =>
      (∀ p tick, pending = some p → r = .attempt tick → p.Allows tick) ∧
        BackoffRespected (pendingAfter pending r) rs

theorem backoffRespected_append
    (pending : Option Pending) (rs rs' : List Record) :
    BackoffRespected pending (rs ++ rs') ↔
      BackoffRespected pending rs ∧ BackoffRespected (rs.foldl pendingAfter pending) rs' := by
  induction rs generalizing pending with
  | nil =>
      simp [BackoffRespected]
  | cons r rs ih =>
      simp [BackoffRespected, ih, and_assoc]

/-! ## The records of a run -/

/-- What a step records. -/
def recordsOf (e : MqttEvent) (s : MqttState) : List Record :=
  let failures := (mqttStep e s).mqttConsecutiveFailures
  match e with
  | .pass inp =>
      match (mqttConnectionMaintenance inp s).2 with
      | none => []
      | some ⟨tick, true⟩ => [.attempt tick]
      | some ⟨tick, false⟩ => [.attempt tick, .failure inp.retryTick failures]
  | .client tick event =>
      if s.client = none then []
      else
        match event with
        | .connected => [.connected]
        | .disconnected | .error => [.failure tick failures]
        | _ => []
  | _ => []

/-- What a run records. -/
def recordsAlong : List MqttEvent → MqttState → List Record
  | [], _ => []
  | e :: es, s => recordsOf e s ++ recordsAlong es (mqttStep e s)

/-- The manager with what is pending and the time of the last step. -/
structure Watched where
  manager : MqttState
  pending : Option Pending
  now : UInt32

def Watched.initial (efuseMac : Option (Vector UInt8 6)) (nvs : EndpointNvs) : Watched where
  manager := .initial efuseMac nvs
  pending := none
  now := 0

/-- The time at which a step ends. -/
def timeAfter (e : MqttEvent) (now : UInt32) : UInt32 :=
  match e with
  | .pass inp => inp.retryTick
  | .client tick _ => tick
  | _ => now

def watchedStep (e : MqttEvent) (w : Watched) : Watched where
  manager := mqttStep e w.manager
  pending := (recordsOf e w.manager).foldl pendingAfter w.pending
  now := timeAfter e w.now

/-- The tick counter does not go back, and no delay added to it wraps. -/
def InOrder (e : MqttEvent) (w : Watched) : Prop :=
  (timeAfter e w.now).toNat + mqttReconnectMax.toNat < 2 ^ 32 ∧
    match e with
    | .pass inp => w.now ≤ inp.tick ∧ inp.tick ≤ inp.attemptTick ∧ inp.attemptTick ≤ inp.retryTick
    | .client tick _ => w.now ≤ tick
    | _ => True

instance (e : MqttEvent) (w : Watched) : Decidable (InOrder e w) := by
  unfold InOrder
  split <;> infer_instance

/-! ## The condition -/

instance (inp : PassInput) (s : MqttState) : Decidable (RetryHeld inp s) :=
  inferInstanceAs (Decidable (_ ∧ _))

/-- A pass makes an attempt. -/
def makesAttempt (inp : PassInput) (s : MqttState) : Bool :=
  s.wifiConnectedFlag &&
    (!s.mqttStarted ||
      if s.isMqttReady || s.mqttConnected then restartsPeriodically inp s
      else decide (¬ RetryHeld inp s))

/-- The branch of the pass tests `s_next_mqtt_retry_tick`. -/
def TestsRetryTick (s : MqttState) : Prop :=
  s.mqttStarted = true ∧ s.isMqttReady = false ∧ s.mqttConnected = false

instance (s : MqttState) : Decidable (TestsRetryTick s) :=
  inferInstanceAs (Decidable (_ ∧ _ ∧ _))

/-- An attempt at this time has waited although nothing makes it: in a branch
that does not test `s_next_mqtt_retry_tick` it comes after it, if a failure has
set it, and it does not come within the base delay of an attempt that was
accepted and has not been answered. -/
def HasWaited (pending : Option Pending) (tick : UInt32) (s : MqttState) : Prop :=
  match pending with
  | none => True
  | some ⟨accepted, none⟩ => accepted.toNat + mqttReconnectBase.toNat ≤ tick.toNat
  | some ⟨_, some _⟩ => TestsRetryTick s ∨ s.nextMqttRetryTick ≤ tick

instance (pending : Option Pending) (tick : UInt32) (s : MqttState) :
    Decidable (HasWaited pending tick s) := by
  unfold HasWaited
  split <;> infer_instance

/-- Every attempt a pass makes has waited. -/
def WaitsToRetry (e : MqttEvent) (w : Watched) : Prop :=
  match e with
  | .pass inp =>
      makesAttempt inp w.manager = true → HasWaited w.pending inp.attemptTick w.manager
  | _ => True

instance (e : MqttEvent) (w : Watched) : Decidable (WaitsToRetry e w) := by
  unfold WaitsToRetry
  split <;> infer_instance

/-! ## The computed delay -/

/-- From the eighth failure on the delay is the greatest one. -/
theorem retryDelay_of_many
    {failures : UInt32} (h : 7 < failures.toNat) :
    retryDelay failures = mqttReconnectMax := by
  have hpos : failures > 0 := UInt32.lt_iff_toNat_lt.2 (by rw [UInt32.toNat_zero]; omega)
  have hone : (1 : UInt32) ≤ failures :=
    UInt32.le_iff_toNat_le.2 (by rw [UInt32.toNat_one]; omega)
  have hshift : failures - 1 > 6 := by
    refine UInt32.lt_iff_toNat_lt.2 ?_
    rw [UInt32.toNat_sub_of_le _ _ hone, UInt32.toNat_one]
    show 6 < failures.toNat - 1
    omega
  unfold retryDelay
  dsimp only
  rw [if_pos hpos, if_pos hshift]
  decide

theorem backoff_of_many
    {failures : Nat} (h : 7 < failures) :
    backoff failures = 60000 := by
  have hpow : 2 ^ 7 ≤ 2 ^ (failures - 1) := Nat.pow_le_pow_right (by omega) (by omega)
  unfold backoff
  omega

/-- `mqtt_compute_next_retry` computes the delay of the law. -/
theorem toNat_retryDelay (failures : UInt32) :
    (retryDelay failures).toNat = backoff failures.toNat := by
  by_cases hfew : failures.toNat ≤ 7
  · have hvalue : failures = UInt32.ofNat failures.toNat := UInt32.ofNat_toNat.symm
    generalize failures.toNat = n at hfew hvalue
    subst hvalue
    interval_cases n <;> rfl
  · rw [retryDelay_of_many (by omega), backoff_of_many (by omega)]
    rfl

theorem le_backoff (failures : Nat) :
    mqttReconnectBase.toNat ≤ backoff failures := by
  have hpow : 1 ≤ 2 ^ (failures - 1) := Nat.one_le_two_pow
  show 1000 ≤ backoff failures
  unfold backoff
  omega

theorem backoff_le (failures : Nat) :
    backoff failures ≤ mqttReconnectMax.toNat :=
  Nat.min_le_left _ _

/-- The time of the next attempt, when the counter does not wrap. -/
theorem toNat_add_retryDelay
    {tick : UInt32} (h : tick.toNat + mqttReconnectMax.toNat < 2 ^ 32) (failures : UInt32) :
    (tick + retryDelay failures).toNat = tick.toNat + backoff failures.toNat := by
  have hle := backoff_le failures.toNat
  rw [UInt32.toNat_add, toNat_retryDelay, Nat.mod_eq_of_lt (by omega)]

/-! ## What a pass attempts -/

/-- How the attempt of a pass ends. -/
inductive AttemptCase (inp : PassInput) (s : MqttState) : MqttState × Option Attempt → Prop
  | none {s' : MqttState} (hnone : makesAttempt inp s = false)
      (hretry : s'.nextMqttRetryTick = s.nextMqttRetryTick) :
      AttemptCase inp s (s', none)
  | accepted {s' : MqttState} (hmakes : makesAttempt inp s = true)
      (hretry : s'.nextMqttRetryTick = s.nextMqttRetryTick) :
      AttemptCase inp s (s', some ⟨inp.attemptTick, true⟩)
  | failed {s' : MqttState} (hmakes : makesAttempt inp s = true)
      (hretry : s'.nextMqttRetryTick =
        inp.retryTick + retryDelay s'.mqttConsecutiveFailures) :
      AttemptCase inp s (s', some ⟨inp.attemptTick, false⟩)

theorem startSelected_attemptCase
    (inp : PassInput) {s s' : MqttState} (hmakes : makesAttempt inp s = true)
    (hretry : s'.nextMqttRetryTick = s.nextMqttRetryTick) :
    AttemptCase inp s (startSelected inp s') := by
  cases hvalid : mqttEndpointIsValid s'.selectedEndpoint with
  | false =>
      rw [startSelected_invalid inp hvalid]
      exact .failed hmakes rfl
  | true =>
      rw [startSelected_valid inp hvalid]
      split
      · exact .accepted hmakes hretry
      · exact .failed hmakes rfl

theorem mqttConnectionMaintenance_attemptCase (inp : PassInput) (s : MqttState) :
    AttemptCase inp s (mqttConnectionMaintenance inp s) := by
  have hcase := mqttConnectionMaintenance_case inp s
  generalize mqttConnectionMaintenance inp s = result at hcase ⊢
  cases hcase with
  | idle hsame hidle =>
      refine .none ?_ hsame.nextMqttRetryTick
      unfold makesAttempt
      rcases hidle with hwifi | ⟨hstarted, hready, hconnected, hheld⟩
      · simp [hwifi]
      · simp [hstarted, hready, hconnected, hheld]
  | kept hwifi hstarted hkept hsame₁ hsame hkeeps =>
      refine .none ?_ ?_
      · unfold makesAttempt
        rcases hkept with hkept | hkept <;> simp [hstarted, hkept, hkeeps]
      · exact (sameSession_keptUp hsame₁ hsame).nextMqttRetryTick
  | restarted hsame₁ hsame hrestarts hvalid =>
      refine startSelected_attemptCase inp ?_ (sameSession_keptUp hsame₁ hsame).nextMqttRetryTick
      have hparts := hrestarts
      unfold restartsPeriodically at hparts
      simp only [Bool.and_eq_true] at hparts
      obtain ⟨⟨⟨hwifi, hstarted⟩, hkept⟩, -⟩ := hparts
      unfold makesAttempt
      rw [hwifi, hstarted, hkept, hrestarts]
      rfl
  | started hwifi hstopped hsame =>
      refine startSelected_attemptCase inp ?_ hsame.nextMqttRetryTick
      unfold makesAttempt
      simp [hwifi, hstopped]
  | recreated hwifi hstarted hready hconnected hheld hsame =>
      refine startSelected_attemptCase inp ?_ hsame.nextMqttRetryTick
      unfold makesAttempt
      simp [hwifi, hready, hconnected, hheld]
  | reconnected hwifi hstarted hready hconnected hheld hsame hclient =>
      have hmakes : makesAttempt inp s = true := by
        unfold makesAttempt
        simp [hwifi, hready, hconnected, hheld]
      split
      · exact .accepted hmakes hsame.nextMqttRetryTick
      · exact .failed hmakes rfl

/-! ## Steps -/

/-- What is pending agrees with the manager's own time of the next attempt. -/
structure Consistent (w : Watched) : Prop where
  tick_le : ∀ p, w.pending = some p → p.tick ≤ w.now
  failed : ∀ p failedAt failures, w.pending = some p → p.failure = some (failedAt, failures) →
    w.manager.nextMqttRetryTick = failedAt + retryDelay failures ∧ p.tick ≤ failedAt ∧
      failedAt.toNat + mqttReconnectMax.toNat < 2 ^ 32

theorem consistent_initial (efuseMac : Option (Vector UInt8 6)) (nvs : EndpointNvs) :
    Consistent (Watched.initial efuseMac nvs) where
  tick_le := fun p hp => by cases hp
  failed := fun p _ _ hp => by cases hp

/-- Time goes on, and nothing is recorded. -/
theorem Consistent.unrecorded
    {w : Watched} (h : Consistent w) {s : MqttState} {now : UInt32} (hnow : w.now ≤ now)
    (hretry : s.nextMqttRetryTick = w.manager.nextMqttRetryTick) :
    Consistent ⟨s, w.pending, now⟩ where
  tick_le := fun p hp => UInt32.le_trans (h.tick_le p hp) hnow
  failed := fun p failedAt failures hp hfailed => by
    obtain ⟨hnext, hrest⟩ := h.failed p failedAt failures hp hfailed
    exact ⟨hretry.trans hnext, hrest⟩

/-- A failure is recorded with the time of the next attempt. -/
theorem Consistent.failure
    {w : Watched} (h : Consistent w) {s : MqttState} {tick : UInt32} (hnow : w.now ≤ tick)
    (hwrap : tick.toNat + mqttReconnectMax.toNat < 2 ^ 32)
    (hretry : s.nextMqttRetryTick = tick + retryDelay s.mqttConsecutiveFailures) :
    Consistent
      ⟨s, w.pending.map fun p => { p with failure := some (tick, s.mqttConsecutiveFailures) },
        tick⟩ where
  tick_le := fun p hp => by
    obtain ⟨q, hq, rfl⟩ := Option.map_eq_some_iff.1 hp
    exact UInt32.le_trans (h.tick_le q hq) hnow
  failed := fun p failedAt failures hp hfailed => by
    obtain ⟨q, hq, rfl⟩ := Option.map_eq_some_iff.1 hp
    cases hfailed
    exact ⟨hretry, UInt32.le_trans (h.tick_le q hq) hnow, hwrap⟩

theorem consistent_attempt
    {s : MqttState} {tick now : UInt32} (h : tick ≤ now) :
    Consistent ⟨s, some ⟨tick, none⟩, now⟩ where
  tick_le := fun p hp => by
    cases hp
    exact h
  failed := fun p _ _ hp hfailed => by
    cases hp
    cases hfailed

theorem consistent_connected (s : MqttState) (now : UInt32) :
    Consistent ⟨s, none, now⟩ where
  tick_le := fun p hp => by cases hp
  failed := fun p _ _ hp => by cases hp

theorem watchedStep_pass_consistent
    {inp : PassInput} {w : Watched} (h : Consistent w) (horder : InOrder (.pass inp) w) :
    Consistent (watchedStep (.pass inp) w) := by
  obtain ⟨hwrap, hbegin, hattempt, hretried⟩ := horder
  have hnow : w.now ≤ inp.retryTick := 
    UInt32.le_trans (UInt32.le_trans hbegin hattempt) hretried
  have hcase := mqttConnectionMaintenance_attemptCase inp w.manager
  unfold watchedStep recordsOf mqttStep
  dsimp only
  generalize mqttConnectionMaintenance inp w.manager = result at hcase
  cases hcase with
  | none hnone hretry => exact h.unrecorded hnow hretry
  | accepted hmakes hretry => exact consistent_attempt hretried
  | failed hmakes hretry =>
      exact (consistent_attempt (s := w.manager) UInt32.le_rfl).failure
        hretried hwrap hretry

theorem watchedStep_client_consistent
    {tick : UInt32} {event : ClientEvent} {w : Watched} (h : Consistent w)
    (horder : InOrder (.client tick event) w) :
    Consistent (watchedStep (.client tick event) w) := by
  obtain ⟨hwrap, hnow⟩ := horder
  cases hclient : w.manager.client with
  | none =>
      unfold watchedStep recordsOf mqttStep
      simp only [hclient]
      exact h.unrecorded hnow rfl
  | some client =>
      have hsame := sameSession_mqttEventHandler tick event
        { w.manager with client := some (client.after event) }
      unfold watchedStep recordsOf mqttStep
      simp only [hclient]
      generalize mqttEventHandler tick event
        { w.manager with client := some (client.after event) } = s at hsame ⊢
      have hlost : ∀ s' : MqttState, SameSession (recordFailure tick s') s →
          s.nextMqttRetryTick = tick + retryDelay s.mqttConsecutiveFailures := by
        intro s' hsame'
        rw [hsame'.nextMqttRetryTick, hsame'.mqttConsecutiveFailures]
        rfl
      cases event with
      | connected => exact consistent_connected s tick
      | disconnected => exact h.failure hnow hwrap (hlost _ hsame)
      | subscribed =>
          refine h.unrecorded hnow (hsame.nextMqttRetryTick.trans ?_)
          unfold sessionAfter
          dsimp only
          split
          · rfl
          · rfl
      | unsubscribed => exact h.unrecorded hnow hsame.nextMqttRetryTick
      | published => exact h.unrecorded hnow hsame.nextMqttRetryTick
      | data topic payload => exact h.unrecorded hnow hsame.nextMqttRetryTick
      | error => exact h.failure hnow hwrap (hlost _ hsame)
      | other => exact h.unrecorded hnow hsame.nextMqttRetryTick

theorem watchedStep_consistent
    {e : MqttEvent} {w : Watched} (horder : InOrder e w) (h : Consistent w) :
    Consistent (watchedStep e w) := by
  cases e with
  | pass inp => exact watchedStep_pass_consistent h horder
  | client tick event => exact watchedStep_client_consistent h horder
  | taskStarted reads =>
      exact h.unrecorded UInt32.le_rfl
        (sameSession_mqttStep w.manager (by simp) (by simp)).nextMqttRetryTick
  | subscribeAppTopics =>
      exact h.unrecorded UInt32.le_rfl
        (sameSession_mqttStep w.manager (by simp) (by simp)).nextMqttRetryTick
  | eeprom gRDEeprom => exact h.unrecorded UInt32.le_rfl rfl
  | wifi connected => exact h.unrecorded UInt32.le_rfl rfl

/-! ## Attempts -/

/-- The branch that tests the time of the next attempt makes none before. -/
theorem nextMqttRetryTick_le_of_tests
    {inp : PassInput} {s : MqttState} (hmakes : makesAttempt inp s = true)
    (htests : TestsRetryTick s) (hset : s.nextMqttRetryTick ≠ 0) :
    s.nextMqttRetryTick ≤ inp.tick := by
  obtain ⟨hstarted, hready, hconnected⟩ := htests
  have hheld : ¬ RetryHeld inp s := by
    intro hheld
    unfold makesAttempt at hmakes
    simp [hstarted, hready, hconnected, hheld] at hmakes
  exact UInt32.not_lt.1 fun hlt => hheld ⟨hset, hlt⟩

/-- The time the manager has computed, for the attempt and for the failure
after it. -/
theorem allows_failed_iff
    {w : Watched} (h : Consistent w) {t f n : UInt32}
    (hpending : w.pending = some ⟨t, some (f, n)⟩) (tick : UInt32) :
    Pending.Allows ⟨t, some (f, n)⟩ tick ↔ w.manager.nextMqttRetryTick ≤ tick := by
  obtain ⟨hnext, hle, hwrap⟩ := h.failed _ f n hpending rfl
  have hbase := le_backoff n.toNat
  have hle' : t.toNat ≤ f.toNat := UInt32.le_iff_toNat_le.1 hle
  rw [hnext, UInt32.le_iff_toNat_le, toNat_add_retryDelay hwrap]
  constructor
  · rintro ⟨-, hfailure⟩
    exact hfailure f n rfl
  · intro hwaited
    refine ⟨?_, ?_⟩
    · show t.toNat + _ ≤ tick.toNat
      omega
    · rintro _ _ ⟨⟩
      exact hwaited

theorem nextMqttRetryTick_ne_zero
    {w : Watched} (h : Consistent w) {t f n : UInt32}
    (hpending : w.pending = some ⟨t, some (f, n)⟩) :
    w.manager.nextMqttRetryTick ≠ 0 := by
  obtain ⟨hnext, -, hwrap⟩ := h.failed _ f n hpending rfl
  have hbase : 1000 ≤ backoff n.toNat := le_backoff n.toNat
  intro hzero
  have hnat := congrArg UInt32.toNat (hnext.symm.trans hzero)
  rw [toNat_add_retryDelay hwrap, UInt32.toNat_zero] at hnat
  omega

/-- An attempt is allowed by what is pending exactly if it has waited. -/
theorem allows_iff
    {inp : PassInput} {w : Watched} (h : Consistent w) (horder : InOrder (.pass inp) w)
    (hmakes : makesAttempt inp w.manager = true) :
    (∀ p, w.pending = some p → p.Allows inp.attemptTick) ↔ WaitsToRetry (.pass inp) w := by
  obtain ⟨-, -, hattempt, -⟩ := horder
  unfold WaitsToRetry HasWaited
  dsimp only
  rcases hpending : w.pending with _ | ⟨t, _ | ⟨f, n⟩⟩
  · exact iff_of_true (fun p hp => by cases hp) fun _ => trivial
  · constructor
    · intro hallows _
      exact (hallows _ rfl).1
    · rintro hwaited p ⟨⟩
      exact ⟨hwaited hmakes, fun _ _ hfailure => by cases hfailure⟩
  · have hallows := allows_failed_iff h hpending inp.attemptTick
    constructor
    · intro hall _
      exact Or.inr (hallows.1 (hall _ rfl))
    · rintro hwaited p ⟨⟩
      rcases hwaited hmakes with htests | hle
      · exact hallows.2 (UInt32.le_trans (nextMqttRetryTick_le_of_tests hmakes htests
          (nextMqttRetryTick_ne_zero h hpending)) hattempt)
      · exact hallows.2 hle

/-- Only an attempt has to wait. -/
theorem backoffRespected_of_no_attempt
    (pending : Option Pending) {r : Record} (h : ∀ tick, r ≠ .attempt tick) :
    BackoffRespected pending [r] :=
  ⟨fun _ tick _ hr => absurd hr (h tick), trivial⟩

/-- A step makes its attempt in time exactly if it has waited. -/
theorem recordsOf_respected_iff
    {e : MqttEvent} {w : Watched} (h : Consistent w) (horder : InOrder e w) :
    BackoffRespected w.pending (recordsOf e w.manager) ↔ WaitsToRetry e w := by
  cases e with
  | pass inp =>
      have hallows := allows_iff h horder
      have hcase := mqttConnectionMaintenance_attemptCase inp w.manager
      unfold recordsOf mqttStep
      dsimp only
      generalize mqttConnectionMaintenance inp w.manager = result at hcase ⊢
      cases hcase with
      | none hnone hretry =>
          refine iff_of_true trivial fun hmakes => ?_
          rw [hnone] at hmakes
          cases hmakes
      | accepted hmakes hretry =>
          rw [← hallows hmakes]
          constructor
          · rintro ⟨hattempt, -⟩ p hp
            exact hattempt p _ hp rfl
          · intro hall
            refine ⟨?_, trivial⟩
            rintro p _ hp ⟨⟩
            exact hall p hp
      | failed hmakes hretry =>
          rw [← hallows hmakes]
          constructor
          · rintro ⟨hattempt, -⟩ p hp
            exact hattempt p _ hp rfl
          · intro hall
            refine ⟨?_, backoffRespected_of_no_attempt _ (by simp)⟩
            rintro p _ hp ⟨⟩
            exact hall p hp
  | client tick event =>
      refine iff_of_true ?_ trivial
      unfold recordsOf
      dsimp only
      split
      · trivial
      · cases event with
        | connected => exact backoffRespected_of_no_attempt _ (by simp)
        | disconnected => exact backoffRespected_of_no_attempt _ (by simp)
        | error => exact backoffRespected_of_no_attempt _ (by simp)
        | _ => trivial
  | taskStarted reads => exact iff_of_true trivial trivial
  | subscribeAppTopics => exact iff_of_true trivial trivial
  | eeprom gRDEeprom => exact iff_of_true trivial trivial
  | wifi connected => exact iff_of_true trivial trivial

/-! ## Runs -/

/-- A run is judged step by step. -/
theorem backoffRespected_recordsAlong_iff (es : List MqttEvent) (w : Watched) :
    BackoffRespected w.pending (recordsAlong es w.manager) ↔
      Along watchedStep (fun e w => BackoffRespected w.pending (recordsOf e w.manager)) es w := by
  induction es generalizing w with
  | nil =>
      exact iff_of_true trivial trivial
  | cons e es ih =>
      rw [along_cons, ← ih (watchedStep e w)]
      exact backoffRespected_append ..

/-- In every run in which the tick counter does not wrap, the attempts respect
the delays exactly when they wait where nothing makes them. -/
theorem backoff_respected_iff
    (efuseMac : Option (Vector UInt8 6)) (nvs : EndpointNvs) (es : List MqttEvent)
    (horder : Along watchedStep InOrder es (Watched.initial efuseMac nvs)) :
    BackoffRespected none (recordsAlong es (MqttState.initial efuseMac nvs)) ↔
      Along watchedStep WaitsToRetry es (Watched.initial efuseMac nvs) := by
  have hinitial := consistent_initial efuseMac nvs
  have hrecords := backoffRespected_recordsAlong_iff es (Watched.initial efuseMac nvs)
  refine hrecords.trans ⟨fun hrespected => ?_, fun hwaits => ?_⟩
  · exact (horder.and hrespected).of_invariant (fun _ _ ha h => watchedStep_consistent ha.1 h)
      (fun _ _ ha h => (recordsOf_respected_iff h ha.1).1 ha.2) hinitial
  · exact (horder.and hwaits).of_invariant (fun _ _ ha h => watchedStep_consistent ha.1 h)
      (fun _ _ ha h => (recordsOf_respected_iff h ha.1).2 ha.2) hinitial

/-- The client fails twice before it connects: the pass at 2000 and the one at
4200 wait, those at 2100 and 4300 attempt again. -/
theorem failedTwice_backoff_respected :
    BackoffRespected none
        (recordsAlong
          [.wifi true, passAt 1000 none, .client 1100 .disconnected, passAt 2000 none,
            passAt 2100 none, .client 2300 .error, passAt 4200 none, passAt 4300 none]
          (MqttState.initial none .empty)) ∧
      recordsAlong
          [.wifi true, passAt 1000 none, .client 1100 .disconnected, passAt 2000 none,
            passAt 2100 none, .client 2300 .error, passAt 4200 none, passAt 4300 none]
          (MqttState.initial none .empty) =
        [.attempt 1000, .failure 1100 1, .attempt 2100, .failure 2300 2, .attempt 4300] :=
  ⟨(backoff_respected_iff none .empty
      [.wifi true, passAt 1000 none, .client 1100 .disconnected, passAt 2000 none,
        passAt 2100 none, .client 2300 .error, passAt 4200 none, passAt 4300 none]
      (by decide +kernel)).2 (by decide +kernel),
    by decide +kernel⟩

/-- Started, and told to connect again by the next pass, 200 ms later. -/
theorem started_backoff_not_respected :
    Along watchedStep InOrder [.wifi true, passAt 1000 none, passAt 1200 none]
        (Watched.initial none .empty) ∧
      ¬ BackoffRespected none
        (recordsAlong [.wifi true, passAt 1000 none, passAt 1200 none]
          (MqttState.initial none .empty)) := by
  have hrecords : recordsAlong [.wifi true, passAt 1000 none, passAt 1200 none]
      (MqttState.initial none .empty) = [.attempt 1000, .attempt 1200] := by
    decide +kernel
  refine ⟨by decide +kernel, ?_⟩
  rw [hrecords]
  rintro ⟨-, hattempt, -⟩
  exact absurd (hattempt _ 1200 rfl rfl).1 (by decide)

end Mqtt
end AvensysEsp32
