import AvensysEsp32.UnitComm.Recovery

/-!
# The timeout on a wrapping clock

The timeout of the link is tested with two readings of the clock: the first is
compared with the limit by its difference from `globalTimeoutMilliseconds`, and
the second is compared with that variable itself.  The difference survives a
wrap of the counter; the comparison takes the wrap for a timeout.

A run records beside the state the tick count at which the variable was last
set.  The clock advances by any amount before each call of `Millis()`.
-/

namespace AvensysEsp32
namespace UnitComm

open Foundation Serial

/-! ## The test of the timeout -/

/-- The call site of the first of the two readings with which an iteration
tests the timeout. -/
def testSite (s : UnitState) : Option Nat :=
  match s.wbmComState with
  | .wbmCommunicating => if Reading s.currentState then some 0 else none
  | .wbmConnected => some 11
  | _ => none

/-- The call site at which a request timer that expires restarts the timeout,
before it is tested. -/
def requestSite (inp : IterationInput) (s : UnitState) : Option Nat :=
  if PollingExpires inp s then some 10
  else if DebugExpires inp s then some 6
  else none

/-- The call site at which an iteration sets the timeout last. -/
def setSite (inp : IterationInput) (s : UnitState) : Option Nat :=
  match s.wbmComState with
  | .wbmCommunicating =>
      match s.currentState with
      | .init => some 0
      | .linkConnecting => if s.retriesCounter < 2 ∧ ¬ s.foundComLink then some 0 else none
      | .trySerialLink =>
          if expired inp 0 s.globalTimeoutMilliseconds timeoutMilliseconds ∧
              s.retriesCounter ≠ 2 then some 2
          else none
      | .linkConnected => some 0
      | c =>
          if (awaited c).isSome ∧
              ¬ expired inp 0 s.globalTimeoutMilliseconds timeoutMilliseconds ∧
              runDownload < (readMessage s.port).1 then some 2
          else none
  | .wbmConnected =>
      if runDownload < (readMessage s.port).1 then some 13 else requestSite inp s
  | _ => none

/-- The timeout as it is tested. -/
def testedTimeout (inp : IterationInput) (s : UnitState) : UInt32 :=
  match s.wbmComState with
  | .wbmConnected => lastRestart inp s
  | _ => s.globalTimeoutMilliseconds

/-- The tick count at which the timeout that is tested was set. -/
def testedSince (inp : IterationInput) (s : UnitState) (setAt : Nat) : Nat :=
  match s.wbmComState with
  | .wbmConnected => (requestSite inp s).elim setAt inp.ticks
  | _ => setAt

/-- A branch for the timeout is taken: the task gives up, or the link is tried
once more or started anew. -/
def TimeoutTaken (inp : IterationInput) (s : UnitState) : Prop :=
  (s.wbmComState ≠ .wbmError ∧ (unitEventTask inp s).wbmComState = .wbmError) ∨
    (s.wbmComState = .wbmCommunicating ∧ s.currentState = .trySerialLink ∧
      ((unitEventTask inp s).currentState = .linkConnecting ∨
        (unitEventTask inp s).currentState = .init))

instance (inp : IterationInput) (s : UnitState) : Decidable (TimeoutTaken inp s) :=
  inferInstanceAs (Decidable ((_ ∧ _) ∨ (_ ∧ _ ∧ (_ ∨ _))))

/-- The tick count when a test is decided: the second reading is only made if
the first does not decide it. -/
def decidedAt (inp : IterationInput) (s : UnitState) (site : Nat) : Nat :=
  if timeoutMilliseconds ≤ inp.millis site - testedTimeout inp s then inp.ticks site
  else inp.ticks (site + 1)

section Test

variable (inp : IterationInput) {s : UnitState}

/-- What an iteration of the handshake does about the timeout: it gives up, or
not, and sets it, or not. -/
structure HandshakeTimeout (inp : IterationInput) (s s' : UnitState) : Prop where
  error :
    s'.wbmComState = .wbmError ↔
      (awaited s.currentState).isSome = true ∧
        expired inp 0 s.globalTimeoutMilliseconds timeoutMilliseconds = true
  timeout :
    s'.globalTimeoutMilliseconds = (setSite inp s).elim s.globalTimeoutMilliseconds inp.millis

/-- A state that does not wait for a reply does not give up. -/
theorem HandshakeTimeout.of_kept
    {s' : UnitState} (hcomm : s.wbmComState = .wbmCommunicating)
    (hnone : awaited s.currentState = none) (hwbm : s'.wbmComState = s.wbmComState)
    (htimeout : s'.globalTimeoutMilliseconds =
      (setSite inp s).elim s.globalTimeoutMilliseconds inp.millis) :
    HandshakeTimeout inp s s' := by
  refine ⟨iff_of_false ?_ ?_, htimeout⟩
  · rw [hwbm, hcomm]
    decide
  · rw [hnone]
    exact fun h => absurd h.1 (by decide)

theorem handshakeTimeout_awaitReply
    (reply : UnitState → UnitState)
    (hcomm : s.wbmComState = .wbmCommunicating)
    (hawaited : (awaited s.currentState).isSome = true)
    (hreply : ∀ s', (reply s').wbmComState = s'.wbmComState ∧
      (reply s').globalTimeoutMilliseconds = inp.millis 2) :
    HandshakeTimeout inp s (awaitReply inp reply s) := by
  have hsite : setSite inp s =
      if ¬ expired inp 0 s.globalTimeoutMilliseconds timeoutMilliseconds ∧
          runDownload < (readMessage s.port).1 then some 2
      else none := by
    unfold setSite
    rw [hcomm]
    cases hc : s.currentState <;> rw [hc] at hawaited <;>
      first
        | exact absurd hawaited (by decide)
        | simp [awaited]
  have hnot : s.wbmComState ≠ .wbmError := by
    rw [hcomm]
    decide
  have hcase := awaitReply_case inp s reply
  generalize awaitReply inp reply s = s' at hcase ⊢
  cases hcase with
  | lost hexpired =>
      refine ⟨iff_of_true rfl ⟨hawaited, hexpired⟩, ?_⟩
      rw [hsite, if_neg fun h => h.1 hexpired]
      rfl
  | replied hrunning hgt =>
      have hexpired := Bool.eq_false_iff.mp hrunning
      refine ⟨iff_of_false ?_ fun h => hexpired h.2, ?_⟩
      · rw [(hreply _).1]
        exact hnot
      · rw [(hreply _).2, hsite, if_pos ⟨hexpired, hgt⟩]
        rfl
  | waiting hrunning hle =>
      refine ⟨iff_of_false hnot fun h => Bool.eq_false_iff.mp hrunning h.2, ?_⟩
      rw [hsite, if_neg fun h => not_lt.mpr hle h.2]
      rfl

theorem handshakeTimeout_link
    (hcomm : s.wbmComState = .wbmCommunicating) :
    (s.currentState = .linkConnecting → HandshakeTimeout inp s (linkConnecting inp s)) ∧
      (s.currentState = .trySerialLink → HandshakeTimeout inp s (trySerialLink inp s)) := by
  constructor
  · intro hstate
    have hnone : awaited s.currentState = none := by
      rw [hstate]
      rfl
    have hcase := linkConnecting_case inp s
    generalize linkConnecting inp s = s' at hcase ⊢
    cases hcase with
    | sent hsends =>
        refine .of_kept inp hcomm hnone rfl ?_
        simp only [setSite, hcomm, hstate]
        rw [if_pos hsends]
        rfl
    | silent hquiet =>
        refine .of_kept inp hcomm hnone rfl ?_
        simp only [setSite, hcomm, hstate]
        rw [if_neg hquiet]
        rfl
  · intro hstate
    have hnone : awaited s.currentState = none := by
      rw [hstate]
      rfl
    have hsite : setSite inp s =
        if expired inp 0 s.globalTimeoutMilliseconds timeoutMilliseconds ∧
            s.retriesCounter ≠ 2 then some 2
        else none := by
      simp only [setSite, hcomm, hstate]
    have hcase := trySerialLink_case inp s
    generalize trySerialLink inp s = s' at hcase ⊢
    cases hcase with
    | anew _ hanew =>
        refine .of_kept inp hcomm hnone hcomm.symm ?_
        rw [hsite, if_neg fun h => h.2 hanew]
        rfl
    | again hexpired hagain =>
        refine .of_kept inp hcomm hnone rfl ?_
        rw [hsite, if_pos ⟨hexpired, hagain⟩]
        rfl
    | read hrunning _ _ =>
        refine .of_kept inp hcomm hnone rfl ?_
        rw [hsite, if_neg fun h => Bool.eq_false_iff.mp hrunning h.1]
        rfl

/-- The search for the link is tried again, or started anew, on a timeout only. -/
theorem trySerialLink_again
    (hstate : s.currentState = .trySerialLink) :
    ((trySerialLink inp s).currentState = .linkConnecting ∨
        (trySerialLink inp s).currentState = .init) ↔
      expired inp 0 s.globalTimeoutMilliseconds timeoutMilliseconds = true := by
  have hcase := trySerialLink_case inp s
  generalize trySerialLink inp s = s' at hcase ⊢
  cases hcase with
  | anew hexpired _ => exact iff_of_true (Or.inr rfl) hexpired
  | again hexpired _ => exact iff_of_true (Or.inl rfl) hexpired
  | read hrunning next hnext =>
      refine iff_of_false ?_ (Bool.eq_false_iff.mp hrunning)
      dsimp only
      rw [hnext]
      split
      · simp
      · split
        · simp
        · simp [hstate]

/-- The transfer of firmware does nothing about the timeout. -/
theorem bootloader_timeout (s : UnitState) :
    ((bootloaderState inp s).wbmComState = s.wbmComState ∧
        (bootloaderState inp s).globalTimeoutMilliseconds = s.globalTimeoutMilliseconds) ∧
      ((bootloaderState1 s).wbmComState = s.wbmComState ∧
        (bootloaderState1 s).globalTimeoutMilliseconds = s.globalTimeoutMilliseconds) := by
  constructor
  · have hcase := bootloaderState_case inp s
    generalize bootloaderState inp s = s' at hcase ⊢
    cases hcase with
    | held _ => exact ⟨rfl, rfl⟩
    | header _ _ _ _ => exact ⟨rfl, rfl⟩
  · have hcase := bootloaderState1_case s
    generalize bootloaderState1 s = s' at hcase ⊢
    cases hcase with
    | waiting _ => exact ⟨rfl, rfl⟩
    | acknowledged _ _ _ _ _ _ => exact ⟨rfl, rfl⟩

theorem handshakeTimeout_connectToUnit
    (hcomm : s.wbmComState = .wbmCommunicating) :
    HandshakeTimeout inp s (connectToUnit inp s) := by
  by_cases hawaited : (awaited s.currentState).isSome = true
  · obtain ⟨a, ha⟩ := Option.isSome_iff_exists.mp hawaited
    obtain ⟨reply, heq, hreply⟩ := connectToUnit_awaited inp ha
    rw [heq]
    exact handshakeTimeout_awaitReply inp reply hcomm hawaited
      fun s' => ⟨(hreply s').2.1, (hreply s').2.2.1⟩
  have hnone : awaited s.currentState = none := by
    simpa using hawaited
  have hkept : ∀ s' : UnitState, s'.wbmComState = s.wbmComState →
      s'.globalTimeoutMilliseconds = s.globalTimeoutMilliseconds → setSite inp s = none →
        HandshakeTimeout inp s s' := by
    intro s' hwbm htimeout hsite
    refine .of_kept inp hcomm hnone hwbm ?_
    rw [hsite, htimeout]
    rfl
  unfold connectToUnit
  cases hstate : s.currentState with
  | init =>
      refine .of_kept inp hcomm hnone rfl ?_
      simp only [setSite, hcomm, hstate]
      rfl
  | linkConnecting => exact (handshakeTimeout_link inp hcomm).1 hstate
  | trySerialLink => exact (handshakeTimeout_link inp hcomm).2 hstate
  | linkConnected =>
      refine .of_kept inp hcomm hnone rfl ?_
      simp only [setSite, hcomm, hstate]
      rfl
  | connected =>
      obtain ⟨outputs, -, heq⟩ := connected_eq inp s
      refine ⟨iff_of_false ?_ fun h => hawaited h.1, ?_⟩
      · dsimp only
        rw [heq]
        rintro ⟨⟩
      · dsimp only
        rw [heq]
        simp [setSite, hcomm, hstate, awaited]
  | bootloaderState =>
      have hboot := (bootloader_timeout inp s).1
      exact hkept _ hboot.1 hboot.2 (by simp [setSite, hcomm, hstate, awaited])
  | bootloaderState1 =>
      have hboot := (bootloader_timeout inp s).2
      exact hkept _ hboot.1 hboot.2 (by simp [setSite, hcomm, hstate, awaited])
  | bootloaderStateEnd => exact hkept _ rfl rfl (by simp [setSite, hcomm, hstate, awaited])
  | _ =>
      rw [hstate] at hawaited
      exact absurd rfl hawaited

theorem lastRestart_eq (s : UnitState) :
    lastRestart inp s = (requestSite inp s).elim s.globalTimeoutMilliseconds inp.millis := by
  unfold lastRestart requestSite
  split
  · rfl
  · split
    · rfl
    · rfl

theorem beforeReceive_globalTimeoutMilliseconds (s : UnitState) :
    (beforeReceive inp s).globalTimeoutMilliseconds = lastRestart inp s := by
  rw [beforeReceive_eq, ← afterRequests_eq_lastRestart]
  unfold globalTimeout
  split
  · rfl
  · rfl

/-- A message sets the timeout anew. -/
theorem receive_globalTimeoutMilliseconds_eq (s : UnitState) :
    (receive inp s).globalTimeoutMilliseconds =
      if runDownload < (readMessage s.port).1 then inp.millis 13
      else s.globalTimeoutMilliseconds := by
  have hcase := receive_case inp s
  generalize receive inp s = s' at hcase
  cases hcase with
  | reply hgt hreply =>
      rw [if_pos hgt]
      exact handleReply_globalTimeoutMilliseconds inp _ _
  | unknown hgt hnone => rw [if_pos hgt]
  | rejected hneg =>
      rw [if_neg (not_lt.mpr (le_runDownload_of_neg hneg))]
      rfl
  | nothing hle hnonneg => rw [if_neg (not_lt.mpr hle)]

/-- What an iteration of the connected state does about the timeout. -/
theorem connectedIteration_timeout
    (hconn : s.wbmComState = .wbmConnected) :
    ((connectedIteration inp s).wbmComState = .wbmError ↔
        expired inp 11 (lastRestart inp s) timeoutMilliseconds = true) ∧
      (connectedIteration inp s).globalTimeoutMilliseconds =
        (setSite inp s).elim s.globalTimeoutMilliseconds inp.millis := by
  constructor
  · rw [connectedIteration_wbmComState, beforeReceive_eq, ← afterRequests_eq_lastRestart]
    unfold globalTimeout
    split
    · rename_i hexpired
      exact iff_of_true rfl hexpired
    · rename_i hexpired
      refine iff_of_false ?_ hexpired
      rw [(afterRequests_link inp s).1, hconn]
      decide
  · have hport : (beforeReceive inp s).port = s.port := (sameData_beforeReceive inp s).port
    unfold connectedIteration
    rw [(sameButImage_scheduler inp _).globalTimeoutMilliseconds,
      receive_globalTimeoutMilliseconds_eq, hport, beforeReceive_globalTimeoutMilliseconds,
      lastRestart_eq]
    unfold setSite
    rw [hconn]
    dsimp only
    split
    · rfl
    · rfl

/-- A branch for the timeout is taken exactly when a test of it says so. -/
theorem timeoutTaken_iff (s : UnitState) :
    TimeoutTaken inp s ↔
      ∃ site, testSite s = some site ∧
        expired inp site (testedTimeout inp s) timeoutMilliseconds = true := by
  unfold TimeoutTaken testSite testedTimeout
  cases hwbm : s.wbmComState with
  | wbmInitialize => simp [unitEventTask, hwbm, UnitState.emitAll]
  | wbmCommunicating =>
      have hstep : unitEventTask inp s = connectToUnit inp s := by
        simp only [unitEventTask, hwbm]
      have hlink := handshakeTimeout_connectToUnit inp hwbm
      rw [hstep, hlink.error]
      by_cases htry : s.currentState = .trySerialLink
      · have htaken := trySerialLink_again inp htry
        simp only [connectToUnit, htry]
        simp [htaken, awaited, Reading]
      · by_cases hawaited : (awaited s.currentState).isSome = true
        · simp [htry, hawaited, Reading]
        · simp [htry, hawaited, Reading]
  | wbmConnected =>
      rw [unitEventTask_connected inp hwbm, (connectedIteration_timeout inp hwbm).1]
      simp
  | wbmError => simp

end Test

/-! ## Runs -/

/-- The tick count at each call of `Millis()`, the clock advancing before it by
the given amount. -/
def ticksFrom (now : Nat) (advance : Nat → Nat) : Nat → Nat
  | 0 => now + advance 0
  | k + 1 => ticksFrom now advance k + advance (k + 1)

/-- An event, and by how much the clock advances before each call of `Millis()`. -/
abbrev ClockEvent := Event × (Nat → Nat)

/-- The tick count when the last event was over, and when the timeout was set last. -/
structure TimeoutRecord where
  now : Nat
  setAt : Nat

/-- A record, and the state. -/
abbrev ClockState := TimeoutRecord × UnitState

/-- The event as it meets the clock. -/
def clocked (now : Nat) (e : ClockEvent) : Event :=
  match e.1 with
  | .iterate inp => .iterate { inp with ticks := ticksFrom now e.2 }
  | e => e

/-- When the timeout was set last, after an event. -/
def setAfter (e : Event) (s : UnitState) (setAt : Nat) : Nat :=
  match e with
  | .iterate inp => (setSite inp s).elim setAt inp.ticks
  | _ => setAt

/-- An iteration calls `Millis()` at the sites up to 14. -/
def clockStep (e : ClockEvent) (s : ClockState) : ClockState :=
  ({ now := ticksFrom s.1.now e.2 14
     setAt := setAfter (clocked s.1.now e) s.2 s.1.setAt },
    step (clocked s.1.now e) s.2)

/-- A branch for the timeout is taken only when its limit has passed since the
timeout was set. -/
def TimeoutDue (e : ClockEvent) (s : ClockState) : Prop :=
  match clocked s.1.now e with
  | .iterate inp =>
      TimeoutTaken inp s.2 →
        ∃ site, testSite s.2 = some site ∧
          testedSince inp s.2 s.1.setAt + timeoutMilliseconds.toNat ≤ decidedAt inp s.2 site
  | _ => True

/-- The counter does not wrap between the setting of the timeout that is tested
and the second reading of the test, or the limit has passed by then. -/
def NoWrapAtTest (e : ClockEvent) (s : ClockState) : Prop :=
  match clocked s.1.now e with
  | .iterate inp =>
      ∀ site, testSite s.2 = some site →
        testedSince inp s.2 s.1.setAt + timeoutMilliseconds.toNat ≤ inp.ticks (site + 1) ∨
          inp.ticks (site + 1) / 2 ^ 32 = testedSince inp s.2 s.1.setAt / 2 ^ 32
  | _ => True

/-- The gateway as it is started at a tick count.  The timeout is zero until it
is first set, as if it had been set at tick zero. -/
def clockBoot (device : DeviceIdentity) (firmwareBin : Option (List UInt8))
    (partitionState : Bool) (tick : Nat) : ClockState :=
  ({ now := tick, setAt := 0 }, .boot device firmwareBin partitionState (tickReading tick))

/-- The record tells the timeout. -/
structure TimeoutTells (s : ClockState) : Prop where
  reading : s.2.globalTimeoutMilliseconds = tickReading s.1.setAt
  past : s.1.setAt ≤ s.1.now

section Clock

variable {now : Nat} {advance : Nat → Nat}

theorem ticksFrom_monotone :
    Monotone (ticksFrom now advance) :=
  monotone_nat_of_le_succ fun _ => Nat.le_add_right _ _

theorem le_ticksFrom (k : Nat) :
    now ≤ ticksFrom now advance k :=
  (Nat.le_add_right now (advance 0)).trans (ticksFrom_monotone (Nat.zero_le k))

end Clock

section Sites

variable {inp : IterationInput} {s : UnitState} {site : Nat}

theorem requestSite_le
    (h : requestSite inp s = some site) :
    site ≤ 10 := by
  unfold requestSite at h
  split at h
  · cases h
    exact le_refl 10
  · split at h
    · cases h
      decide
    · cases h

theorem setSite_le
    (h : setSite inp s = some site) :
    site ≤ 14 := by
  unfold setSite at h
  split at h
  · split at h
    · cases h
      decide
    · split at h <;> cases h
      decide
    · split at h <;> cases h
      decide
    · cases h
      decide
    · split at h <;> cases h
      decide
  · split at h
    · cases h
      decide
    · exact (requestSite_le h).trans (by decide)
  · cases h

end Sites

section Record

variable {s : ClockState}

/-- The timeout that is tested was set when the record says. -/
theorem testedTimeout_eq
    (inp : IterationInput) (h : TimeoutTells s) :
    testedTimeout inp s.2 = tickReading (testedSince inp s.2 s.1.setAt) := by
  unfold testedTimeout testedSince
  cases s.2.wbmComState with
  | wbmConnected =>
      dsimp only
      rw [lastRestart_eq, h.reading]
      cases requestSite inp s.2 with
      | none => rfl
      | some site => rfl
  | _ => exact h.reading

theorem timeoutTells_step
    (e : ClockEvent) (h : TimeoutTells s) :
    TimeoutTells (clockStep e s) := by
  obtain ⟨e, advance⟩ := e
  have hnow : s.1.now ≤ ticksFrom s.1.now advance 14 := le_ticksFrom 14
  cases e with
  | iterate inp =>
      generalize hinp : { inp with ticks := ticksFrom s.1.now advance } = inp'
      have hticks : inp'.ticks = ticksFrom s.1.now advance := by
        rw [← hinp]
      have hclocked : clocked s.1.now (.iterate inp, advance) = .iterate inp' := by
        rw [← hinp]
        rfl
      unfold clockStep
      rw [hclocked]
      have htimeout : (unitEventTask inp' s.2).globalTimeoutMilliseconds =
          (setSite inp' s.2).elim s.2.globalTimeoutMilliseconds inp'.millis := by
        cases hwbm : s.2.wbmComState with
        | wbmInitialize => simp [unitEventTask, setSite, hwbm, UnitState.emitAll]
        | wbmCommunicating =>
            simp only [unitEventTask, hwbm]
            exact (handshakeTimeout_connectToUnit inp' hwbm).timeout
        | wbmConnected =>
            rw [unitEventTask_connected inp' hwbm]
            exact (connectedIteration_timeout inp' hwbm).2
        | wbmError => simp [unitEventTask, setSite, hwbm, UnitState.emitAll]
      constructor
      · refine htimeout.trans ?_
        unfold setAfter
        dsimp only
        rw [h.reading]
        cases setSite inp' s.2 with
        | none => rfl
        | some site => rfl
      · unfold setAfter
        dsimp only
        cases hsite : setSite inp' s.2 with
        | none => exact h.past.trans hnow
        | some site =>
            rw [Option.elim_some, hticks]
            exact ticksFrom_monotone (setSite_le hsite)
  | clientWrite w =>
      exact ⟨(sameButImage_clientWrite w s.2).globalTimeoutMilliseconds.trans h.reading,
        h.past.trans hnow⟩
  | uartData data => exact ⟨h.reading, h.past.trans hnow⟩
  | mqttReady ready => exact ⟨h.reading, h.past.trans hnow⟩
  | unitUpdateTask running => exact ⟨h.reading, h.past.trans hnow⟩
  | firmwareStored content => exact ⟨h.reading, h.past.trans hnow⟩

theorem testedSince_le
    {inp : IterationInput} {advance : Nat → Nat} {site : Nat}
    (hticks : inp.ticks = ticksFrom s.1.now advance) (h : TimeoutTells s)
    (hsite : testSite s.2 = some site) :
    testedSince inp s.2 s.1.setAt ≤ inp.ticks site := by
  have hpast : s.1.setAt ≤ inp.ticks site := by
    rw [hticks]
    exact h.past.trans (le_ticksFrom site)
  unfold testedSince
  cases hwbm : s.2.wbmComState with
  | wbmConnected =>
      simp only [testSite, hwbm, Option.some.injEq] at hsite
      subst hsite
      cases hrequest : requestSite inp s.2 with
      | none => exact hpast
      | some k =>
          rw [hticks]
          exact ticksFrom_monotone ((requestSite_le hrequest).trans (by decide))
  | _ => exact hpast

/-- A branch for the timeout that is taken is due exactly when the counter has
not wrapped since the timeout was set, or the limit has passed anyway. -/
theorem timeoutDue_iff
    (e : ClockEvent) (h : TimeoutTells s) :
    TimeoutDue e s ↔ NoWrapAtTest e s := by
  obtain ⟨e, advance⟩ := e
  cases e with
  | iterate inp =>
      generalize hinp : { inp with ticks := ticksFrom s.1.now advance } = inp'
      have hticks : inp'.ticks = ticksFrom s.1.now advance := by
        rw [← hinp]
      have hclocked : clocked s.1.now (.iterate inp, advance) = .iterate inp' := by
        rw [← hinp]
        rfl
      have hsite : ∀ site, testSite s.2 = some site →
          ((expired inp' site (testedTimeout inp' s.2) timeoutMilliseconds = true →
              testedSince inp' s.2 s.1.setAt + timeoutMilliseconds.toNat ≤
                decidedAt inp' s.2 site) ↔
            (testedSince inp' s.2 s.1.setAt + timeoutMilliseconds.toNat ≤ inp'.ticks (site + 1) ∨
              inp'.ticks (site + 1) / 2 ^ 32 = testedSince inp' s.2 s.1.setAt / 2 ^ 32)) := by
        intro site hsite
        have hordered : inp'.ticks site ≤ inp'.ticks (site + 1) := by
          rw [hticks]
          exact ticksFrom_monotone (Nat.le_succ site)
        have hdue := timer_due_iff timeoutMilliseconds (testedSince_le hticks h hsite) hordered
        unfold expired decidedAt
        rw [testedTimeout_eq inp' h, decide_eq_true_eq]
        exact hdue
      unfold TimeoutDue NoWrapAtTest
      rw [hclocked]
      dsimp only
      rw [timeoutTaken_iff]
      constructor
      · intro hdue site htest
        refine (hsite site htest).mp fun hexpired => ?_
        obtain ⟨site', htest', hpassed⟩ := hdue ⟨site, htest, hexpired⟩
        rw [htest] at htest'
        cases htest'
        exact hpassed
      · rintro hnowrap ⟨site, htest, hexpired⟩
        exact ⟨site, htest, (hsite site htest).mpr (hnowrap site htest) hexpired⟩
  | uartData data => exact Iff.rfl
  | clientWrite w => exact Iff.rfl
  | mqttReady ready => exact Iff.rfl
  | unitUpdateTask running => exact Iff.rfl
  | firmwareStored content => exact Iff.rfl

end Record

theorem timeoutTells_boot
    (device : DeviceIdentity) (firmwareBin : Option (List UInt8)) (partitionState : Bool)
    (tick : Nat) :
    TimeoutTells (clockBoot device firmwareBin partitionState tick) :=
  ⟨rfl, Nat.zero_le tick⟩

/-- In every run, from any tick count and with any advance of the clock between
two calls of `Millis()`, the branches for the timeout are taken only when its
limit has passed since the timeout was set if and only if at no test the counter
has wrapped since then while the limit has not passed. -/
theorem timeout_due_iff
    (device : DeviceIdentity) (firmwareBin : Option (List UInt8)) (partitionState : Bool)
    (tick : Nat) (es : List ClockEvent) :
    Along clockStep TimeoutDue es (clockBoot device firmwareBin partitionState tick) ↔
      Along clockStep NoWrapAtTest es (clockBoot device firmwareBin partitionState tick) :=
  along_congr_of_invariant (fun e _ h _ => timeoutTells_step e h)
    (fun e _ h => timeoutDue_iff e h) es
    (timeoutTells_boot device firmwareBin partitionState tick)

section Example

/-- An event at which the clock stands still. -/
def atOnce (e : Event) : ClockEvent :=
  (e, fun _ => 0)

/-- The events after which a gateway has found its unit and asked for the first
section. -/
def untilLinked : List ClockEvent :=
  untilReadEepromInfo.map atOnce

/-- An iteration before which the clock advances by one tick. -/
def oneTickLater : ClockEvent :=
  (iterateAt 0, fun k => if k = 0 then 1 else 0)

/-- One tick before the counter wraps the gateway asks for the first section, and
one tick later it gives up. -/
theorem wrapped_spurious :
    (run clockStep (untilLinked ++ [oneTickLater])
        (clockBoot .zeroMac none false (2 ^ 32 - 1))).2.wbmComState = .wbmError ∧
      ¬ Along clockStep TimeoutDue (untilLinked ++ [oneTickLater])
        (clockBoot .zeroMac none false (2 ^ 32 - 1)) := by
  rw [run_append, along_append]
  generalize hs : run clockStep untilLinked (clockBoot .zeroMac none false (2 ^ 32 - 1)) = s
  generalize hinp : { IterationInput.still 0 with ticks := ticksFrom s.1.now oneTickLater.2 } = inp
  have hclocked : clocked s.1.now oneTickLater = .iterate inp := by
    rw [← hinp]
    rfl
  have hfacts : (unitEventTask inp s.2).wbmComState = .wbmError ∧ TimeoutTaken inp s.2 ∧
      testSite s.2 = some 0 ∧
      decidedAt inp s.2 0 < testedSince inp s.2 s.1.setAt + timeoutMilliseconds.toNat := by
    subst hinp hs
    decide +kernel
  obtain ⟨hlost, htaken, htest, hearly⟩ := hfacts
  refine ⟨?_, ?_⟩
  · rw [run_cons, run_nil]
    unfold clockStep
    rw [hclocked]
    exact hlost
  · rintro ⟨-, hdue, -⟩
    unfold TimeoutDue at hdue
    rw [hclocked] at hdue
    obtain ⟨site, hsite, hpassed⟩ := hdue htaken
    rw [htest] at hsite
    cases hsite
    omega

end Example

end UnitComm
end AvensysEsp32
