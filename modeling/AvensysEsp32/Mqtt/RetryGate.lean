import AvensysEsp32.Mqtt.Backoff

/-!
# The retry gate on a wrapping counter

`mqtt_compute_next_retry` stores the time of the next attempt as a reading of
the tick counter, where 0 also says that there is none, and a pass compares its
own reading with it as numbers.  The counter wraps after 2^32 ticks, and so does
the time that is stored.
-/

namespace AvensysEsp32
namespace Mqtt

open Foundation

/-- `mqtt_compute_next_retry` -/
def mqttComputeNextRetry (now : UInt32) (s : MqttState) : MqttState :=
  { s with nextMqttRetryTick := now + retryDelay s.mqttConsecutiveFailures }

/-- One pass of the task. -/
def maintenancePass (inp : PassInput) (s : MqttState) : MqttState :=
  (mqttConnectionMaintenance inp s).1

/-- The pass makes no attempt. -/
def HoldsBack (inp : PassInput) (s : MqttState) : Prop :=
  (mqttConnectionMaintenance inp s).2 = none

/-- There is a connection to be made: Wi-Fi is up, and the client is neither
ready nor connected. -/
structure Seeks (s : MqttState) : Prop where
  wifi : s.wifiConnectedFlag = true
  notReady : s.isMqttReady = false
  notConnected : s.mqttConnected = false

/-- What is promised of the delay: it is computed without overflow, lies between
its bounds, and does not fall as the failures grow. -/
structure DelayExact : Prop where
  computed : ∀ failures, (retryDelay failures).toNat = min 60000 (1000 * 2 ^ (failures.toNat - 1))
  bounds : ∀ failures,
    mqttReconnectBase ≤ retryDelay failures ∧ retryDelay failures ≤ mqttReconnectMax
  monotone : ∀ failures failures', failures ≤ failures' →
    retryDelay failures ≤ retryDelay failures'

/-! ## The delay -/

theorem backoff_mono
    {failures failures' : Nat} (h : failures ≤ failures') :
    backoff failures ≤ backoff failures' := by
  have hpow : 2 ^ (failures - 1) ≤ 2 ^ (failures' - 1) :=
    Nat.pow_le_pow_right (by omega) (by omega)
  unfold backoff
  omega

theorem delayExact : DelayExact where
  computed := toNat_retryDelay
  bounds := fun failures => by
    rw [UInt32.le_iff_toNat_le, UInt32.le_iff_toNat_le, toNat_retryDelay]
    exact ⟨le_backoff _, backoff_le _⟩
  monotone := fun failures failures' h => by
    rw [UInt32.le_iff_toNat_le, toNat_retryDelay, toNat_retryDelay]
    exact backoff_mono (UInt32.le_iff_toNat_le.mp h)

/-! ## Passes that hold back -/

section Passes

variable {inp : PassInput} {s : MqttState}

/-- A pass that seeks a connection holds back when the client has been started
and the time to retry has not come. -/
theorem holdsBack_iff
    (h : Seeks s) :
    HoldsBack inp s ↔ s.mqttStarted = true ∧ RetryHeld inp s := by
  have hmakes : makesAttempt inp s = true ↔ ¬ (s.mqttStarted = true ∧ RetryHeld inp s) := by
    unfold makesAttempt
    rw [h.wifi, h.notReady, h.notConnected]
    cases s.mqttStarted with
    | false => simp
    | true => simp
  have hcase := mqttConnectionMaintenance_attemptCase inp s
  unfold HoldsBack
  generalize mqttConnectionMaintenance inp s = result at hcase ⊢
  cases hcase with
  | none hnone hretry =>
      refine iff_of_true rfl ?_
      by_contra hheld
      rw [hmakes.mpr hheld] at hnone
      cases hnone
  | accepted hattempt hretry => exact iff_of_false (by rintro ⟨⟩) (hmakes.mp hattempt)
  | failed hattempt hretry => exact iff_of_false (by rintro ⟨⟩) (hmakes.mp hattempt)

/-- The state of the gate, which a pass that holds back leaves alone. -/
structure GateWaits (started : Bool) (retryTick : UInt32) (s : MqttState) : Prop where
  seeks : Seeks s
  started : s.mqttStarted = started
  retryTick : s.nextMqttRetryTick = retryTick

theorem GateWaits.pass
    {started : Bool} {retryTick : UInt32} (h : GateWaits started retryTick s)
    (hholds : HoldsBack inp s) :
    GateWaits started retryTick (maintenancePass inp s) := by
  obtain ⟨hstarted, hheld⟩ := (holdsBack_iff h.seeks).mp hholds
  have hunkept : ¬ (s.isMqttReady = true ∨ s.mqttConnected = true) := by
    rw [h.seeks.notReady, h.seeks.notConnected]
    decide
  have hcase := mqttConnectionMaintenance_case inp s
  unfold maintenancePass
  generalize mqttConnectionMaintenance inp s = result at hcase ⊢
  cases hcase with
  | idle hsame hidle =>
      refine ⟨⟨?_, ?_, ?_⟩, ?_, ?_⟩
      · exact hsame.wifiConnectedFlag.trans h.seeks.wifi
      · exact hsame.isMqttReady.trans h.seeks.notReady
      · exact hsame.mqttConnected.trans h.seeks.notConnected
      · exact hsame.mqttStarted.trans h.started
      · exact hsame.nextMqttRetryTick.trans h.retryTick
  | kept hwifi hstarted hkept hsame₁ hsame hkeeps => exact absurd hkept hunkept
  | restarted hsame₁ hsame hrestarts hvalid =>
      unfold restartsPeriodically at hrestarts
      rw [h.seeks.notReady, h.seeks.notConnected] at hrestarts
      simp at hrestarts
  | started hwifi hstopped hsame =>
      rw [hstarted] at hstopped
      cases hstopped
  | recreated hwifi hstarted hready hconnected hopen hsame => exact absurd hheld hopen
  | reconnected hwifi hstarted hready hconnected hopen hsame hclient => exact absurd hheld hopen

/-- Passes that hold back leave the gate as it is. -/
theorem GateWaits.passes
    {started : Bool} {retryTick : UInt32} (h : GateWaits started retryTick s)
    {earlier : List PassInput} (hearlier : Along maintenancePass HoldsBack earlier s) :
    GateWaits started retryTick (run maintenancePass earlier s) :=
  hearlier.invariant (fun _ _ hholds hwaits => hwaits.pass hholds) h

end Passes

/-! ## The gate -/

/-- A pass some time after the computation, with none between that made an
attempt, holds back exactly as long as the delay if the client has been started
and the counter wraps before both or before neither of the deadline and the pass.
A client that has not been started is started at once. -/
theorem retryGate_exact_iff
    (tick : UInt32) (elapsed : Nat) (s : MqttState) (earlier : List PassInput) (inp : PassInput)
    (helapsed : elapsed < 2 ^ 31) (hseeks : Seeks s)
    (hearlier : Along maintenancePass HoldsBack earlier (mqttComputeNextRetry tick s))
    (hnow : inp.tick = tick + UInt32.ofNat elapsed) :
    let delay := (retryDelay s.mqttConsecutiveFailures).toNat
    DelayExact ∧
        (HoldsBack inp (run maintenancePass earlier (mqttComputeNextRetry tick s)) ↔
          elapsed < delay) ↔
      if s.mqttStarted then
        (tick.toNat + delay < 2 ^ 32 ↔ tick.toNat + elapsed < 2 ^ 32)
      else delay ≤ elapsed := by
  dsimp only
  have hset : GateWaits s.mqttStarted (tick + retryDelay s.mqttConsecutiveFailures)
      (mqttComputeNextRetry tick s) :=
    ⟨⟨hseeks.wifi, hseeks.notReady, hseeks.notConnected⟩, rfl, rfl⟩
  have hwaits := hset.passes hearlier
  rw [and_iff_right delayExact, holdsBack_iff hwaits.seeks, hwaits.started]
  unfold RetryHeld
  rw [hwaits.retryTick, hnow]
  cases s.mqttStarted with
  | false => simp
  | true =>
      have hbounds := toNat_retryDelay s.mqttConsecutiveFailures
      have hlow := le_backoff s.mqttConsecutiveFailures.toNat
      have hhigh := backoff_le s.mqttConsecutiveFailures.toNat
      rw [← hbounds] at hlow hhigh
      have hexact := deadline_exact_iff tick (lt_of_lt_of_le (by decide) hlow)
        (lt_of_le_of_lt hhigh (by decide)) helapsed
      rw [UInt32.ofNat_toNat] at hexact
      simpa using hexact

/-- A client that has been started and lost its connection, with one failure. -/
def lostOnce : MqttState :=
  { MqttState.initial none .empty with
    wifiConnectedFlag := true
    mqttStarted := true
    mqttConsecutiveFailures := 1 }

theorem lostOnce_seeks : Seeks lostOnce where
  wifi := rfl
  notReady := rfl
  notConnected := rfl

/-- The failure is recorded at tick 5000, and a pass comes after 200 ticks. -/
theorem lostOnce_exact :
    DelayExact ∧
      (HoldsBack (clearPass 5200 none) (mqttComputeNextRetry 5000 lostOnce) ↔ 200 < 1000) :=
  (retryGate_exact_iff 5000 200 lostOnce [] (clearPass 5200 none) (by decide) lostOnce_seeks trivial
    (by decide)).mpr (by decide)

/-- The failure is recorded 500 ticks before the counter wraps, and the next
pass, one tick later, makes an attempt. -/
theorem beforeWrap_not_held :
    ¬ ∀ (tick : UInt32) (elapsed : Nat), elapsed < 2 ^ 31 → ∀ s, Seeks s →
      ∀ earlier, Along maintenancePass HoldsBack earlier (mqttComputeNextRetry tick s) →
        ∀ inp : PassInput, inp.tick = tick + UInt32.ofNat elapsed →
          DelayExact ∧
            (HoldsBack inp (run maintenancePass earlier (mqttComputeNextRetry tick s)) ↔
              elapsed < (retryDelay s.mqttConsecutiveFailures).toNat) := by
  intro h
  have hexact := (h 4294966796 1 (by decide) lostOnce lostOnce_seeks [] trivial
    (clearPass 4294966797 none) (by decide)).2
  have hholds := hexact.mpr (by decide)
  have hseeks : Seeks (mqttComputeNextRetry 4294966796 lostOnce) := ⟨rfl, rfl, rfl⟩
  exact absurd ((holdsBack_iff hseeks).mp hholds).2 (by decide)

end Mqtt
end AvensysEsp32
