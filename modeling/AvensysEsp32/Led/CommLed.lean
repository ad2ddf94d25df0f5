import AvensysEsp32.Foundation.Clock
import AvensysEsp32.Foundation.Machine

/-!
# The communication LED

`comm_led_task` lights the LED while there is a fault, and lets it flash every
five seconds while there is communication.  The other tasks tell of activity
and of faults.  Time goes on between their calls, and the variables hold what
the tick counter read.

Until the tick counter wraps, two flashes are never closer than five seconds,
whatever the calls in between; and while activity is told of and no fault, a
flash is never missed.
-/

namespace AvensysEsp32
namespace Led

open Foundation

/-- `COMM_LED_HEARTBEAT_MS`, in ticks of a millisecond -/
@[simp] abbrev commLedHeartbeat : UInt32 := 5000
/-- `COMM_LED_HEARTBEAT_PULSE_MS` -/
@[simp] abbrev commLedHeartbeatPulse : UInt32 := 200
/-- `COMM_LED_ACTIVITY_FRESH_MS` -/
@[simp] abbrev commLedActivityFresh : UInt32 := 15000

/-- The variables of `gpio_api.c`, and the level of `Wifi_Led2`. -/
structure CommLed where
  fault : Bool
  pulseUntil : UInt32
  lastActivityTick : UInt32
  nextHeartbeatTick : UInt32
  level : Bool
deriving DecidableEq, Repr

/-- The LED when `initialize_gpio` returns. -/
def CommLed.initial : CommLed where
  fault := false
  pulseUntil := 0
  lastActivityTick := 0
  nextHeartbeatTick := 0
  level := false

/-- `activity_fresh` -/
def activityFresh (now : UInt32) (s : CommLed) : Prop :=
  s.lastActivityTick ≠ 0 ∧ now - s.lastActivityTick ≤ commLedActivityFresh

instance (now : UInt32) (s : CommLed) : Decidable (activityFresh now s) :=
  inferInstanceAs (Decidable (_ ∧ _))

/-- The heartbeat begins in this pass. -/
def heartbeatDue (now : UInt32) (s : CommLed) : Prop :=
  s.nextHeartbeatTick = 0 ∨ s.nextHeartbeatTick ≤ now

instance (now : UInt32) (s : CommLed) : Decidable (heartbeatDue now s) :=
  inferInstanceAs (Decidable (_ ∨ _))

/-- One pass of `comm_led_task`. -/
def commLedTask (now : UInt32) (s : CommLed) : CommLed :=
  if s.fault then { s with level := true }
  else
    let s :=
      if activityFresh now s then
        if heartbeatDue now s then
          { s with
            pulseUntil := now + commLedHeartbeatPulse
            nextHeartbeatTick := now + commLedHeartbeat }
        else s
      else { s with nextHeartbeatTick := 0, pulseUntil := 0 }
    { s with level := decide (s.pulseUntil ≠ 0 ∧ now < s.pulseUntil) }

/-- `comm_led_mark_activity` -/
def commLedMarkActivity (now : UInt32) (s : CommLed) : CommLed :=
  if s.fault = false then
    { s with
      lastActivityTick := now
      nextHeartbeatTick :=
        if s.nextHeartbeatTick = 0 then now + commLedHeartbeat else s.nextHeartbeatTick }
  else s

/-- `comm_led_set_fault` -/
def commLedSetFault (active : Bool) (now : UInt32) (s : CommLed) : CommLed :=
  if active then { s with fault := true, pulseUntil := 0, nextHeartbeatTick := 0 }
  else
    { s with
      fault := false
      nextHeartbeatTick :=
        if s.lastActivityTick ≠ 0 ∧ s.nextHeartbeatTick = 0 then now + commLedHeartbeat
        else s.nextHeartbeatTick }

/-! ## Runs -/

inductive LedAction
  | task
  | markActivity
  | setFault (active : Bool)
deriving DecidableEq, Repr

/-- The effect of a call. -/
def ledStep (action : LedAction) (now : UInt32) (s : CommLed) : CommLed :=
  match action with
  | .task => commLedTask now s
  | .markActivity => commLedMarkActivity now s
  | .setFault active => commLedSetFault active now s

/-- A call, some time after the one before. -/
structure LedEvent where
  elapsed : Nat
  action : LedAction
deriving DecidableEq, Repr

/-- The LED at a time since the start, and the times at which a flash began, the
last one first. -/
structure TimedLed where
  led : CommLed
  now : Nat
  flashes : List Nat

def TimedLed.initial : TimedLed :=
  ⟨.initial, 0, []⟩

/-- A flash begins in a call at that time. -/
def Flashes (action : LedAction) (now : Nat) (s : CommLed) : Prop :=
  action = .task ∧ s.fault = false ∧ activityFresh (tickReading now) s ∧
    heartbeatDue (tickReading now) s

instance (action : LedAction) (now : Nat) (s : CommLed) : Decidable (Flashes action now s) :=
  inferInstanceAs (Decidable (_ ∧ _))

def timedStep (e : LedEvent) (s : TimedLed) : TimedLed where
  led := ledStep e.action (tickReading (s.now + e.elapsed)) s.led
  now := s.now + e.elapsed
  flashes :=
    if Flashes e.action (s.now + e.elapsed) s.led then (s.now + e.elapsed) :: s.flashes
    else s.flashes

/-- The tick counter will not have wrapped by the heartbeat after this call. -/
def Unwrapped (e : LedEvent) (s : TimedLed) : Prop :=
  s.now + e.elapsed + 5000 < 2 ^ 32

instance (e : LedEvent) (s : TimedLed) : Decidable (Unwrapped e s) :=
  inferInstanceAs (Decidable (_ < _))

/-! ## Readings -/

section Readings

variable {now : Nat}

theorem toNat_ahead
    {delay : UInt32} (hdelay : delay.toNat ≤ 5000) (h : now + 5000 < 2 ^ 32) :
    (tickReading now + delay).toNat = now + delay.toNat := by
  rw [UInt32.toNat_add, toNat_tickReading (by omega)]
  exact Nat.mod_eq_of_lt (by omega)

theorem ahead_ne_zero
    {delay : UInt32} (hdelay : delay.toNat ≤ 5000) (hpos : 0 < delay.toNat)
    (h : now + 5000 < 2 ^ 32) :
    tickReading now + delay ≠ 0 := by
  intro hzero
  have hnat := toNat_ahead hdelay h
  rw [hzero] at hnat
  simp at hnat
  omega

end Readings

/-! ## The pace -/

/-- What holds between the calls while the tick counter has not wrapped. -/
structure Paced (s : TimedLed) : Prop where
  /-- Activity lies in the past, and the next heartbeat is near. -/
  activity : s.led.lastActivityTick.toNat ≤ s.now
  near : s.led.nextHeartbeatTick.toNat ≤ s.now + 5000
  /-- Where activity may be fresh a heartbeat is planned. -/
  planned : s.led.fault = false → s.led.lastActivityTick ≠ 0 →
    s.now ≤ s.led.lastActivityTick.toNat + 15000 → s.led.nextHeartbeatTick ≠ 0
  /-- It is planned five seconds after every flash and after the start. -/
  apart : s.led.nextHeartbeatTick ≠ 0 → 5000 ≤ s.led.nextHeartbeatTick.toNat ∧
    ∀ flash ∈ s.flashes, flash + 5000 ≤ s.led.nextHeartbeatTick.toNat
  /-- The flashes so far lie in the past and are themselves apart. -/
  past : ∀ flash ∈ s.flashes, 5000 ≤ flash ∧ flash ≤ s.now
  spaced : s.flashes.Pairwise fun later earlier => earlier + 5000 ≤ later
  /-- A flash that goes on is one of them. -/
  pulse : s.led.pulseUntil ≠ 0 → ∃ flash ∈ s.flashes, s.led.pulseUntil.toNat = flash + 200

theorem paced_initial :
    Paced .initial where
  activity := Nat.zero_le _
  near := Nat.zero_le _
  planned := fun _ hactive => absurd rfl hactive
  apart := fun hplanned => absurd rfl hplanned
  past := by simp [TimedLed.initial]
  spaced := List.Pairwise.nil
  pulse := fun hpulse => absurd rfl hpulse

section Steps

variable {s : TimedLed}

/-- Time goes on. -/
theorem Paced.wait
    (h : Paced s) (elapsed : Nat) :
    Paced { s with now := s.now + elapsed } where
  activity := h.activity.trans (Nat.le_add_right _ _)
  near := h.near.trans (by simp only; omega)
  planned := fun hfault hactive hfresh =>
    h.planned hfault hactive (by simp only at hfresh; omega)
  apart := h.apart
  past := fun flash hmem =>
    ⟨(h.past flash hmem).1, (h.past flash hmem).2.trans (Nat.le_add_right _ _)⟩
  spaced := h.spaced
  pulse := h.pulse

/-- What is planned from now on is planned five seconds ahead. -/
theorem Paced.apart_ahead
    (h : Paced s) (hwrap : s.now + 5000 < 2 ^ 32) :
    (tickReading s.now + commLedHeartbeat).toNat = s.now + 5000 ∧
      ∀ flash ∈ s.flashes, flash + 5000 ≤ s.now + 5000 := by
  refine ⟨toNat_ahead (by decide) hwrap, fun flash hmem => ?_⟩
  have hpast := (h.past flash hmem).2
  omega

theorem activityFresh_iff
    (h : Paced s) (hwrap : s.now + 5000 < 2 ^ 32) :
    activityFresh (tickReading s.now) s.led ↔
      s.led.lastActivityTick ≠ 0 ∧ s.now ≤ s.led.lastActivityTick.toNat + 15000 := by
  have hnow : (tickReading s.now).toNat = s.now := toNat_tickReading (by omega)
  have hactivity := h.activity
  unfold activityFresh
  rw [UInt32.le_iff_toNat_le, toNat_elapsed (by omega), hnow]
  refine and_congr_right fun _ => ?_
  simp only [commLedActivityFresh, UInt32.reduceToNat]
  omega

/-- A flash begins when the planned heartbeat has come. -/
theorem flashes_iff
    (h : Paced s) (hwrap : s.now + 5000 < 2 ^ 32) (action : LedAction) :
    Flashes action s.now s.led ↔
      action = .task ∧ s.led.fault = false ∧ activityFresh (tickReading s.now) s.led ∧
        s.led.nextHeartbeatTick ≠ 0 ∧ s.led.nextHeartbeatTick.toNat ≤ s.now := by
  have hnow : (tickReading s.now).toNat = s.now := toNat_tickReading (by omega)
  unfold Flashes heartbeatDue
  refine and_congr_right fun _ => and_congr_right fun hfault => and_congr_right fun hfresh => ?_
  obtain ⟨hactive, hrecent⟩ := (activityFresh_iff h hwrap).mp hfresh
  have hplanned := h.planned hfault hactive hrecent
  rw [UInt32.le_iff_toNat_le, hnow]
  exact ⟨fun hdue => ⟨hplanned, hdue.resolve_left hplanned⟩, fun hdue => Or.inr hdue.2⟩

theorem paced_markActivity
    (h : Paced s) (hwrap : s.now + 5000 < 2 ^ 32) :
    Paced { s with led := commLedMarkActivity (tickReading s.now) s.led } := by
  obtain ⟨hahead, hflashes⟩ := h.apart_ahead hwrap
  have hnow : (tickReading s.now).toNat = s.now := toNat_tickReading (by omega)
  unfold commLedMarkActivity
  split
  · refine ⟨hnow.le, ?_, ?_, ?_, h.past, h.spaced, h.pulse⟩
    · dsimp only
      split
      · exact hahead.le
      · exact h.near
    · intro _ _ _
      dsimp only
      split
      · exact ahead_ne_zero (by decide) (by decide) hwrap
      · rename_i hplanned
        exact hplanned
    · dsimp only
      split
      · rw [hahead]
        exact fun _ => ⟨by omega, hflashes⟩
      · exact h.apart
  · exact h

theorem paced_setFault
    (active : Bool) (h : Paced s) (hwrap : s.now + 5000 < 2 ^ 32) :
    Paced { s with led := commLedSetFault active (tickReading s.now) s.led } := by
  obtain ⟨hahead, hflashes⟩ := h.apart_ahead hwrap
  unfold commLedSetFault
  cases active with
  | true =>
      rw [if_pos rfl]
      refine ⟨h.activity, Nat.zero_le _, ?_, ?_, h.past, h.spaced, ?_⟩
      · intro hfault
        cases hfault
      · exact fun hplanned => absurd rfl hplanned
      · exact fun hpulse => absurd rfl hpulse
  | false =>
      rw [if_neg Bool.false_ne_true]
      refine ⟨h.activity, ?_, ?_, ?_, h.past, h.spaced, h.pulse⟩
      · dsimp only
        split
        · exact hahead.le
        · exact h.near
      · intro _ hactive _
        dsimp only at hactive ⊢
        split
        · exact ahead_ne_zero (by decide) (by decide) hwrap
        · rename_i hplanned
          exact fun hzero => hplanned ⟨hactive, hzero⟩
      · dsimp only
        split
        · rw [hahead]
          exact fun _ => ⟨by omega, hflashes⟩
        · exact h.apart

/-- A pass of the task, with the flash that may begin in it. -/
theorem paced_task
    (h : Paced s) (hwrap : s.now + 5000 < 2 ^ 32) :
    Paced
      { s with
        led := commLedTask (tickReading s.now) s.led
        flashes := if Flashes .task s.now s.led then s.now :: s.flashes else s.flashes } := by
  obtain ⟨hahead, hflashes⟩ := h.apart_ahead hwrap
  have hflash := flashes_iff h hwrap .task
  by_cases hbegins : Flashes .task s.now s.led
  · obtain ⟨-, hfault, hfresh, hplanned, hdue⟩ := hflash.mp hbegins
    have hled : commLedTask (tickReading s.now) s.led =
        { s.led with
          pulseUntil := tickReading s.now + commLedHeartbeatPulse
          nextHeartbeatTick := tickReading s.now + commLedHeartbeat
          level := decide (tickReading s.now + commLedHeartbeatPulse ≠ 0 ∧
            tickReading s.now < tickReading s.now + commLedHeartbeatPulse) } := by
      unfold commLedTask
      rw [if_neg (by simp [hfault]), if_pos hfresh, if_pos hbegins.2.2.2]
    obtain ⟨hstart, hbefore⟩ := h.apart hplanned
    rw [if_pos hbegins, hled]
    refine ⟨h.activity, hahead.le, ?_, ?_, ?_, ?_, ?_⟩
    · exact fun _ _ _ => ahead_ne_zero (by decide) (by decide) hwrap
    · intro _
      dsimp only
      rw [hahead]
      refine ⟨by omega, fun flash hmem => ?_⟩
      rcases List.mem_cons.mp hmem with rfl | hmem
      · exact le_rfl
      · exact hflashes flash hmem
    · intro flash hmem
      rcases List.mem_cons.mp hmem with rfl | hmem
      · exact ⟨hstart.trans hdue, le_rfl⟩
      · exact h.past flash hmem
    · exact List.pairwise_cons.mpr ⟨fun flash hmem => (hbefore flash hmem).trans hdue, h.spaced⟩
    · exact fun _ => ⟨s.now, List.mem_cons_self, toNat_ahead (by decide) hwrap⟩
  · rw [if_neg hbegins]
    unfold commLedTask
    cases hfault : s.led.fault with
    | true =>
        rw [if_pos rfl]
        exact ⟨h.activity, h.near, nofun, h.apart, h.past, h.spaced, h.pulse⟩
    | false =>
        rw [if_neg (by decide)]
        by_cases hfresh : activityFresh (tickReading s.now) s.led
        · rw [if_pos hfresh, if_neg (fun hdue => hbegins ⟨rfl, hfault, hfresh, hdue⟩)]
          exact ⟨h.activity, h.near, h.planned, h.apart, h.past, h.spaced, h.pulse⟩
        · rw [if_neg hfresh]
          refine ⟨h.activity, Nat.zero_le _, ?_, ?_, h.past, h.spaced, ?_⟩
          · intro _ hactive hrecent
            exact absurd ((activityFresh_iff h hwrap).mpr ⟨hactive, hrecent⟩) hfresh
          · exact fun hplanned => absurd rfl hplanned
          · exact fun hpulse => absurd rfl hpulse

/-- Every call keeps the pace. -/
theorem paced_timedStep
    (e : LedEvent) (h : Paced s) (hwrap : Unwrapped e s) :
    Paced (timedStep e s) := by
  have hwait := h.wait e.elapsed
  have hahead : s.now + e.elapsed + 5000 < 2 ^ 32 := hwrap
  unfold timedStep
  cases e.action with
  | task => exact paced_task hwait hahead
  | markActivity =>
      rw [if_neg (fun hflash => LedAction.noConfusion hflash.1)]
      exact paced_markActivity hwait hahead
  | setFault active =>
      rw [if_neg (fun hflash => LedAction.noConfusion hflash.1)]
      have hkept := paced_setFault active hwait hahead
      exact hkept

end Steps

/-! ## What the light means -/

section Light

variable {s : TimedLed}

/-- In a pass the LED is lit for a fault; without one it is lit only in the first
fifth of a second of a flash, and when activity was told of in the last fifteen
seconds. -/
structure LightMeans (e : LedEvent) (s : TimedLed) : Prop where
  fault : e.action = .task → s.led.fault = true → (timedStep e s).led.level = true
  flash : e.action = .task → (timedStep e s).led.level = true → s.led.fault = false →
    s.led.lastActivityTick ≠ 0 ∧ s.now + e.elapsed ≤ s.led.lastActivityTick.toNat + 15000 ∧
      ∃ flash ∈ (timedStep e s).flashes, flash ≤ s.now + e.elapsed ∧
        s.now + e.elapsed < flash + 200

/-- Without fresh activity and without a fault the LED is dark. -/
theorem level_of_not_fresh
    {now : UInt32} {led : CommLed} (hfault : led.fault = false) (hold : ¬ activityFresh now led) :
    (commLedTask now led).level = false := by
  unfold commLedTask
  rw [if_neg (by simp [hfault]), if_neg hold]
  rfl

theorem lightMeans_of_paced
    (e : LedEvent) (h : Paced s) (hwrap : Unwrapped e s) :
    LightMeans e s where
  fault := by
    intro htask hfault
    unfold timedStep
    rw [htask]
    show (commLedTask _ s.led).level = true
    unfold commLedTask
    rw [if_pos hfault]
  flash := by
    intro htask hlit hfault
    have hwait := h.wait e.elapsed
    have hahead : s.now + e.elapsed + 5000 < 2 ^ 32 := hwrap
    have hstep := paced_timedStep e h hwrap
    have hled : (timedStep e s).led = commLedTask (tickReading (s.now + e.elapsed)) s.led := by
      unfold timedStep
      rw [htask]
      rfl
    by_cases hfresh : activityFresh (tickReading (s.now + e.elapsed)) s.led
    · obtain ⟨hactive, hrecent⟩ := (activityFresh_iff hwait hahead).mp hfresh
      refine ⟨hactive, hrecent, ?_⟩
      have hshown : (timedStep e s).led.pulseUntil ≠ 0 ∧
          tickReading (s.now + e.elapsed) < (timedStep e s).led.pulseUntil := by
        rw [hled] at hlit ⊢
        unfold commLedTask at hlit ⊢
        rw [if_neg (by simp [hfault])] at hlit ⊢
        exact of_decide_eq_true hlit
      obtain ⟨flash, hmem, hpulse⟩ := hstep.pulse hshown.1
      have hbefore := UInt32.lt_iff_toNat_lt.mp hshown.2
      rw [hpulse, toNat_tickReading (by omega)] at hbefore
      exact ⟨flash, hmem, (hstep.past flash hmem).2, hbefore⟩
    · rw [hled, level_of_not_fresh hfault hfresh] at hlit
      cases hlit

/-- Until five seconds before the tick counter wraps: flashes begin at least five
seconds apart, the first five seconds after the start, and the light means what
it should. -/
theorem heartbeats_paced
    (es : List LedEvent) (h : Along timedStep Unwrapped es .initial) :
    (run timedStep es .initial).flashes.Pairwise (fun later earlier => earlier + 5000 ≤ later) ∧
      (∀ flash ∈ (run timedStep es .initial).flashes, 5000 ≤ flash) ∧
      Along timedStep LightMeans es .initial := by
  have hstep : ∀ e s, Unwrapped e s → Paced s → Paced (timedStep e s) :=
    fun e s hwrap h => paced_timedStep e h hwrap
  have hpaced := h.invariant hstep paced_initial
  refine ⟨hpaced.spaced, fun flash hmem => (hpaced.past flash hmem).1, ?_⟩
  exact h.of_invariant hstep (fun e s hwrap h => lightMeans_of_paced e h hwrap) paced_initial

/-- Activity, and passes five and ten seconds later. -/
def twoFlashes : List LedEvent :=
  [⟨1, .markActivity⟩, ⟨5000, .task⟩, ⟨5000, .task⟩]

/-- Both passes flash. -/
theorem twoFlashes_paced :
    Along timedStep Unwrapped twoFlashes .initial ∧
      (run timedStep twoFlashes .initial).flashes = [10001, 5001] ∧
      (run timedStep twoFlashes .initial).flashes.Pairwise
        (fun later earlier => earlier + 5000 ≤ later) := by
  have hwrap : Along timedStep Unwrapped twoFlashes .initial := by decide
  exact ⟨hwrap, by decide, (heartbeats_paced twoFlashes hwrap).1⟩

end Light

/-! ## While there is communication -/

section Alive

variable {s : TimedLed}

/-- No fault is told of, and every pass finds activity fresh. -/
def KeepsAlive (e : LedEvent) (s : TimedLed) : Prop :=
  Unwrapped e s ∧ e.action ≠ .setFault true ∧
    (e.action = .task → activityFresh (tickReading (s.now + e.elapsed)) s.led)

instance (e : LedEvent) (s : TimedLed) : Decidable (KeepsAlive e s) :=
  inferInstanceAs (Decidable (_ ∧ _ ∧ _))

/-- Since the state `s₀` a flash has begun, or its heartbeat is still planned. -/
structure Awaits (s₀ s : TimedLed) : Prop where
  paced : Paced s
  fault : s.led.fault = false
  planned : s.led.nextHeartbeatTick ≠ 0
  flashed : s₀.flashes.length < s.flashes.length ∨
    (s.flashes = s₀.flashes ∧ s.led.nextHeartbeatTick = s₀.led.nextHeartbeatTick)

theorem awaits_timedStep
    {s₀ : TimedLed} (e : LedEvent) (h : Awaits s₀ s) (halive : KeepsAlive e s) :
    Awaits s₀ (timedStep e s) := by
  obtain ⟨hwrap, hclear, hfresh⟩ := halive
  have hpaced := paced_timedStep e h.paced hwrap
  have hfault := h.fault
  have hplanned := h.planned
  by_cases hflash : Flashes e.action (s.now + e.elapsed) s.led
  · have hflashes : (timedStep e s).flashes = (s.now + e.elapsed) :: s.flashes := if_pos hflash
    have hled : (timedStep e s).led = commLedTask (tickReading (s.now + e.elapsed)) s.led := by
      unfold timedStep
      rw [hflash.1]
      rfl
    have hgrows : s₀.flashes.length < (timedStep e s).flashes.length := by
      rw [hflashes, List.length_cons]
      rcases h.flashed with hmore | ⟨hsame, -⟩
      · omega
      · rw [hsame]
        omega
    have hstate : (timedStep e s).led.fault = false ∧
        (timedStep e s).led.nextHeartbeatTick =
          tickReading (s.now + e.elapsed) + commLedHeartbeat := by
      rw [hled]
      unfold commLedTask
      rw [if_neg (by simp [hfault]), if_pos hflash.2.2.1, if_pos hflash.2.2.2]
      exact ⟨hfault, rfl⟩
    exact ⟨hpaced, hstate.1, hstate.2 ▸ ahead_ne_zero (by decide) (by decide) hwrap, Or.inl hgrows⟩
  · have hflashes : (timedStep e s).flashes = s.flashes := if_neg hflash
    have hstate : (timedStep e s).led.fault = false ∧
        (timedStep e s).led.nextHeartbeatTick = s.led.nextHeartbeatTick := by
      unfold timedStep
      cases haction : e.action with
      | task =>
          have hnot : ¬ heartbeatDue (tickReading (s.now + e.elapsed)) s.led :=
            fun hdue => hflash ⟨haction, hfault, hfresh haction, hdue⟩
          show (commLedTask _ s.led).fault = false ∧ (commLedTask _ s.led).nextHeartbeatTick = _
          unfold commLedTask
          rw [if_neg (by simp [hfault]), if_pos (hfresh haction), if_neg hnot]
          exact ⟨hfault, rfl⟩
      | markActivity =>
          show (commLedMarkActivity _ s.led).fault = false ∧
            (commLedMarkActivity _ s.led).nextHeartbeatTick = _
          unfold commLedMarkActivity
          rw [if_pos hfault]
          exact ⟨hfault, if_neg hplanned⟩
      | setFault active =>
          cases active with
          | true => exact absurd haction hclear
          | false =>
              show (commLedSetFault false _ s.led).fault = false ∧
                (commLedSetFault false _ s.led).nextHeartbeatTick = _
              unfold commLedSetFault
              rw [if_neg Bool.false_ne_true]
              exact ⟨rfl, if_neg fun hboth => hplanned hboth.2⟩
    refine ⟨hpaced, hstate.1, hstate.2 ▸ hplanned, ?_⟩
    rw [hflashes, hstate.2]
    exact h.flashed

/-- While activity is told of and no fault, and the tick counter does not wrap, a
pass five seconds on finds that the LED has flashed since. -/
theorem flash_not_missed
    (es es' : List LedEvent) (e : LedEvent)
    (h : Along timedStep Unwrapped es .initial)
    (hfault : (run timedStep es .initial).led.fault = false)
    (hfresh : activityFresh (tickReading (run timedStep es .initial).now)
      (run timedStep es .initial).led)
    (halive : Along timedStep KeepsAlive (es' ++ [e]) (run timedStep es .initial))
    (hnow : (run timedStep es .initial).now + 5000 < 2 ^ 32)
    (htask : e.action = .task)
    (hlate : (run timedStep es .initial).now + 5000 ≤
      (run timedStep (es' ++ [e]) (run timedStep es .initial)).now) :
    (run timedStep es .initial).flashes.length <
      (run timedStep (es' ++ [e]) (run timedStep es .initial)).flashes.length := by
  generalize hs : run timedStep es .initial = s₀ at *
  have hpaced : Paced s₀ := by
    rw [← hs]
    exact h.invariant (fun e s hwrap h => paced_timedStep e h hwrap) paced_initial
  obtain ⟨hactive, hrecent⟩ := (activityFresh_iff hpaced hnow).mp hfresh
  have hstart : Awaits s₀ s₀ :=
    ⟨hpaced, hfault, hpaced.planned hfault hactive hrecent, Or.inr ⟨rfl, rfl⟩⟩
  rw [along_append] at halive
  obtain ⟨hbefore, hlast, -⟩ := halive
  rw [run_append] at hlate ⊢
  have hawaits := hbefore.invariant (fun e s hkeeps h => awaits_timedStep e h hkeeps) hstart
  generalize run timedStep es' s₀ = s at *
  simp only [run_cons, run_nil] at hlate ⊢
  rcases hawaits.flashed with hmore | ⟨hsame, hnext⟩
  · have hgrows : s.flashes.length ≤ (timedStep e s).flashes.length := by
      unfold timedStep
      dsimp only
      split
      · simp
      · exact le_rfl
    omega
  · have hflash : Flashes e.action (s.now + e.elapsed) s.led := by
      refine (flashes_iff (hawaits.paced.wait e.elapsed) hlast.1 e.action).mpr
        ⟨htask, hawaits.fault, hlast.2.2 htask, hawaits.planned, ?_⟩
      rw [hnext]
      exact hpaced.near.trans hlate
    have hflashes : (timedStep e s).flashes = (s.now + e.elapsed) :: s.flashes := if_pos hflash
    rw [hflashes, hsame]
    simp

/-- Activity told of every three seconds: the pass five seconds on has flashed. -/
theorem twoMarks_flash :
    (run timedStep [⟨1, .markActivity⟩] .initial).flashes.length <
      (run timedStep ([⟨3000, .markActivity⟩] ++ [⟨2000, .task⟩])
        (run timedStep [⟨1, .markActivity⟩] .initial)).flashes.length :=
  flash_not_missed _ _ _ (by decide) (by decide) (by decide) (by decide) (by decide) rfl
    (by decide)

end Alive

end Led
end AvensysEsp32
