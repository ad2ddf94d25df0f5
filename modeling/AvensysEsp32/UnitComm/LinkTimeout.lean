import AvensysEsp32.UnitComm.Sending

/-!
# The loss of the unit is not detected

In `WBM_Connected` three timers run: for the debug request, for the polling
request and for the global timeout.  The two request timers restart the global
timeout whenever they expire, whether or not a request is sent.  As the
polling timer expires after at most five seconds, the global timeout of
fifteen seconds is never reached while the task keeps being scheduled.

Time is made explicit by pairing the state with the tick count at the end of
the last event.  A run is prompt when no iteration takes more than three
seconds, the one that hands over to `WBM_Connected` follows within three
seconds, and the counter does not wrap.  Any time may pass between iterations.
-/

namespace AvensysEsp32
namespace UnitComm

open Foundation Serial

/-! ## Time -/

/-- An event, and the tick count when it is over. -/
abbrev TimedEvent := Event × Nat

/-- The tick count, and the state. -/
abbrev TimedState := Nat × UnitState

def timedStep (e : TimedEvent) (s : TimedState) : TimedState :=
  (e.2, step e.1 s.2)

/-- An iteration that begins after `t`, is short, and ends at `t'`. -/
structure PromptIteration (t : Nat) (inp : IterationInput) (t' : Nat) : Prop where
  later : t ≤ inp.ticks 0
  ordered : Monotone inp.ticks
  ends : ∀ k, inp.ticks k ≤ t'
  short : t' ≤ inp.ticks 0 + 3000
  noWrap : t' < 2 ^ 32

/-- Iterations are prompt; other events take no time. -/
def Prompt (e : TimedEvent) (s : TimedState) : Prop :=
  match e.1 with
  | .iterate inp =>
      PromptIteration s.1 inp e.2 ∧
        (s.2.wbmComState = .wbmCommunicating → s.2.currentState = .connected →
          e.2 ≤ s.1 + 3000)
  | _ => e.2 = s.1

/-- `Read_Message` returns no message. -/
def Silent (e : TimedEvent) (s : TimedState) : Prop :=
  match e.1 with
  | .iterate _ => (readMessage s.2.port).1 ≤ runDownload
  | _ => True

/-- `Read_Message` returns no message and no error. -/
def Unanswered (e : TimedEvent) (s : TimedState) : Prop :=
  match e.1 with
  | .iterate _ =>
      (readMessage s.2.port).1 = bufferRxEmpy ∨ (readMessage s.2.port).1 = runDownload
  | _ => True

instance decidableSilent (e : TimedEvent) (s : TimedState) : Decidable (Silent e s) := by
  unfold Silent
  split <;> infer_instance

instance decidableUnanswered (e : TimedEvent) (s : TimedState) : Decidable (Unanswered e s) := by
  unfold Unanswered
  split <;> infer_instance

section PromptReadings

variable {t t' : Nat} {inp : IterationInput}

theorem PromptIteration.le_ticks
    (h : PromptIteration t inp t') (k : Nat) :
    t ≤ inp.ticks k :=
  h.later.trans (h.ordered (Nat.zero_le k))

theorem PromptIteration.toNat_millis
    (h : PromptIteration t inp t') (k : Nat) :
    (inp.millis k).toNat = inp.ticks k :=
  toNat_tickReading (lt_of_le_of_lt (h.ends k) h.noWrap)

/-- A timer that was restarted before the test has expired when its limit has
passed. -/
theorem PromptIteration.expired_iff
    (h : PromptIteration t inp t') {site : Nat} {timer limit : UInt32}
    (htimer : timer.toNat ≤ inp.ticks site) :
    expired inp site timer limit = true ↔ limit.toNat ≤ inp.ticks site - timer.toNat := by
  have hsub : (inp.millis site - timer).toNat = inp.ticks site - timer.toNat := by
    rw [toNat_elapsed (by rw [h.toNat_millis]; exact htimer), h.toNat_millis]
  have hnext : ¬ inp.millis (site + 1) < timer := by
    rw [UInt32.lt_iff_toNat_lt, h.toNat_millis]
    have := h.ordered (Nat.le_succ site)
    simp only [Nat.succ_eq_add_one] at this
    omega
  unfold expired
  simp only [hnext, or_false, decide_eq_true_eq]
  rw [UInt32.le_iff_toNat_le, hsub]

end PromptReadings

/-! ## The timers of the connected state -/

/-- What every prompt run keeps true of the timers. -/
structure TimersInOrder (t : Nat) (s : UnitState) : Prop where
  global_le : s.globalTimeoutMilliseconds.toNat ≤ t
  polling_le : s.gKTSGlobal.pollingBaseTimer.toNat ≤ t
  entering :
    s.wbmComState = .wbmCommunicating → s.currentState = .connected →
      t ≤ s.globalTimeoutMilliseconds.toNat + 3000
  connected :
    s.wbmComState = .wbmConnected →
      s.gKTSGlobal.pollingBaseTimer.toNat ≤ s.globalTimeoutMilliseconds.toNat + 6000 ∧
        (s.gKTSGlobal.runningMode = .powerOff ∨ s.gKTSGlobal.runningMode = .running)

section Requests

variable (inp : IterationInput) (s : UnitState)

/-- The stages before the debug request leave the request timers alone. -/
theorem clampLastReceived_timers :
    (clampLastReceived inp (unitUpdateTrigger inp s)).gKTSGlobal.runningMode =
        s.gKTSGlobal.runningMode ∧
      (clampLastReceived inp (unitUpdateTrigger inp s)).gKTSGlobal.pollingBaseTimer =
        s.gKTSGlobal.pollingBaseTimer ∧
      (clampLastReceived inp (unitUpdateTrigger inp s)).gKTSGlobal.pollingDebugDataTimer =
        s.gKTSGlobal.pollingDebugDataTimer ∧
      (clampLastReceived inp (unitUpdateTrigger inp s)).globalTimeoutMilliseconds =
        s.globalTimeoutMilliseconds := by
  obtain ⟨-, -, -, -, htimeout, hglobal, -⟩ := unitUpdateTrigger_link inp s
  rw [← htimeout, ← hglobal]
  unfold clampLastReceived
  split
  · exact ⟨rfl, rfl, rfl, rfl⟩
  · exact ⟨rfl, rfl, rfl, rfl⟩

theorem debugRequest_timers :
    ((debugRequest inp s).gKTSGlobal.pollingBaseTimer = s.gKTSGlobal.pollingBaseTimer ∧
        (debugRequest inp s).globalTimeoutMilliseconds = s.globalTimeoutMilliseconds) ∨
      ((debugRequest inp s).gKTSGlobal.pollingBaseTimer = inp.millis 5 ∧
        (debugRequest inp s).globalTimeoutMilliseconds = inp.millis 6) := by
  unfold debugRequest
  dsimp only
  split
  · split
    · exact Or.inr ⟨rfl, rfl⟩
    · exact Or.inl ⟨rfl, rfl⟩
  · exact Or.inl ⟨rfl, rfl⟩

/-- In either mode the polling timer either has not expired or restarts both
itself and the timeout. -/
theorem pollingRequest_timers
    (hmode : s.gKTSGlobal.runningMode = .powerOff ∨ s.gKTSGlobal.runningMode = .running) :
    (expired inp 7 s.gKTSGlobal.pollingBaseTimer
          (pollingBaseMilliseconds s.gKTSGlobal.runningMode) = false ∧
        (pollingRequest inp s).gKTSGlobal.pollingBaseTimer = s.gKTSGlobal.pollingBaseTimer ∧
        (pollingRequest inp s).globalTimeoutMilliseconds = s.globalTimeoutMilliseconds) ∨
      ((pollingRequest inp s).gKTSGlobal.pollingBaseTimer = inp.millis 9 ∧
        (pollingRequest inp s).globalTimeoutMilliseconds = inp.millis 10) := by
  unfold pollingRequest
  rw [if_pos hmode]
  dsimp only
  split
  · exact Or.inr ⟨rfl, rfl⟩
  · rename_i hexp
    exact Or.inl ⟨Bool.eq_false_iff.mpr hexp, rfl, rfl⟩

theorem pollingBaseMilliseconds_le
    (mode : RunningMode) :
    (pollingBaseMilliseconds mode).toNat ≤ 5000 := by
  cases mode <;> decide

variable {inp s} {t t' : Nat}

/-- When the timeout is tested, the timers are in order and it has not been
reached. -/
theorem afterRequests_timers
    (hprompt : PromptIteration t inp t') (hinv : TimersInOrder t s)
    (hconn : s.wbmComState = .wbmConnected) :
    (afterRequests inp s).gKTSGlobal.pollingBaseTimer.toNat ≤ t' ∧
      (afterRequests inp s).globalTimeoutMilliseconds.toNat ≤ inp.ticks 11 ∧
      inp.ticks 11 < (afterRequests inp s).globalTimeoutMilliseconds.toNat + 15000 ∧
      (afterRequests inp s).gKTSGlobal.pollingBaseTimer.toNat ≤
        (afterRequests inp s).globalTimeoutMilliseconds.toNat + 6000 := by
  obtain ⟨hpg, hmode⟩ := hinv.connected hconn
  have hg := hinv.global_le
  have hp := hinv.polling_le
  -- The debug request leaves the two timers or restarts both.
  obtain ⟨hmode₂, hp₂, -, hg₂⟩ := clampLastReceived_timers inp s
  generalize hs₂ : clampLastReceived inp (unitUpdateTrigger inp s) = s₂ at hmode₂ hp₂ hg₂
  have hdebug := debugRequest_timers inp s₂
  have hmode₃ : (debugRequest inp s₂).gKTSGlobal.runningMode = s.gKTSGlobal.runningMode :=
    (sameData_debugRequest inp s₂).runningMode.trans hmode₂
  have hafter : afterRequests inp s = pollingRequest inp (debugRequest inp s₂) := by
    rw [← hs₂]
    rfl
  rw [hafter]
  generalize debugRequest inp s₂ = s₃ at hdebug hmode₃
  have hticks : ∀ k, t ≤ inp.ticks k := hprompt.le_ticks
  have hread : ∀ k, (inp.millis k).toNat = inp.ticks k := hprompt.toNat_millis
  have hends : ∀ k, inp.ticks k ≤ t' := hprompt.ends
  have hord : ∀ {j k}, j ≤ k → inp.ticks j ≤ inp.ticks k := fun h => hprompt.ordered h
  have hp₃ : s₃.gKTSGlobal.pollingBaseTimer.toNat ≤ inp.ticks 7 ∧
      s₃.globalTimeoutMilliseconds.toNat ≤ inp.ticks 7 ∧
      s₃.gKTSGlobal.pollingBaseTimer.toNat ≤ s₃.globalTimeoutMilliseconds.toNat + 6000 := by
    rcases hdebug with ⟨hdp, hdg⟩ | ⟨hdp, hdg⟩
    · rw [hdp, hdg, hp₂, hg₂]
      have := hticks 7
      omega
    · rw [hdp, hdg, hread, hread]
      have h57 : inp.ticks 5 ≤ inp.ticks 7 := hord (by decide)
      have h67 : inp.ticks 6 ≤ inp.ticks 7 := hord (by decide)
      have h56 : inp.ticks 5 ≤ inp.ticks 6 := hord (by decide)
      omega
  -- The polling request does the same, and must when its timer has expired.
  have h07 : inp.ticks 0 ≤ inp.ticks 7 := hord (by decide)
  have h711 : inp.ticks 7 ≤ inp.ticks 11 := hord (by decide)
  have h11 := hends 11
  have hshort := hprompt.short
  have h7 := hends 7
  rcases pollingRequest_timers inp s₃ (by rw [hmode₃]; exact hmode)
    with ⟨hexp, hpp, hpg'⟩ | ⟨hpp, hpg'⟩
  · have hlimit := pollingBaseMilliseconds_le s₃.gKTSGlobal.runningMode
    have hnot : ¬ (pollingBaseMilliseconds s₃.gKTSGlobal.runningMode).toNat ≤
        inp.ticks 7 - s₃.gKTSGlobal.pollingBaseTimer.toNat := by
      rw [← hprompt.expired_iff hp₃.1, hexp]
      decide
    rw [hpp, hpg']
    omega
  · rw [hpp, hpg', hread, hread]
    have h9 := hends 9
    have h910 : inp.ticks 9 ≤ inp.ticks 10 := hord (by decide)
    have h1011 : inp.ticks 10 ≤ inp.ticks 11 := hord (by decide)
    have h010 : inp.ticks 0 ≤ inp.ticks 10 := hord (by decide)
    omega

/-- A prompt iteration never finds the unit lost. -/
theorem globalTimeout_afterRequests
    (hprompt : PromptIteration t inp t') (hinv : TimersInOrder t s)
    (hconn : s.wbmComState = .wbmConnected) :
    beforeReceive inp s = afterRequests inp s := by
  obtain ⟨-, hle, hlt, -⟩ := afterRequests_timers hprompt hinv hconn
  have hexp : expired inp 11 (afterRequests inp s).globalTimeoutMilliseconds
      timeoutMilliseconds = false := by
    rw [Bool.eq_false_iff, ne_eq, hprompt.expired_iff hle]
    have hlimit : timeoutMilliseconds.toNat = 15000 := by decide
    omega
  rw [beforeReceive_eq]
  unfold globalTimeout
  rw [hexp]
  rfl

/-- A prompt iteration leaves a connected task connected, its timers in order. -/
theorem connectedIteration_timers
    (hprompt : PromptIteration t inp t') (hinv : TimersInOrder t s)
    (hconn : s.wbmComState = .wbmConnected) :
    (connectedIteration inp s).wbmComState = .wbmConnected ∧
      TimersInOrder t' (connectedIteration inp s) := by
  obtain ⟨hp, hg, -, hpg⟩ := afterRequests_timers hprompt hinv hconn
  have hmode := (hinv.connected hconn).2
  have hwbm : (afterRequests inp s).wbmComState = .wbmConnected :=
    (afterRequests_link inp s).1.trans hconn
  have hmode' : (afterRequests inp s).gKTSGlobal.runningMode = s.gKTSGlobal.runningMode :=
    (sameData_afterRequests inp s).runningMode
  unfold connectedIteration
  rw [globalTimeout_afterRequests hprompt hinv hconn]
  generalize afterRequests inp s = s₁ at hp hg hpg hwbm hmode'
  have hcontrol := sameControl_receive inp s₁
  have htimeout := receive_globalTimeoutMilliseconds inp s₁
  generalize receive inp s₁ = s₂ at hcontrol htimeout
  have hsched := sameButImage_scheduler inp s₂
  have hconn' : (scheduler inp s₂).wbmComState = .wbmConnected :=
    (hsched.wbmComState.trans hcontrol.wbmComState).trans hwbm
  have hp₂ : (scheduler inp s₂).gKTSGlobal.pollingBaseTimer = s₁.gKTSGlobal.pollingBaseTimer := by
    rw [hsched.gKTSGlobal]
    exact hcontrol.pollingBaseTimer
  have hm₂ : (scheduler inp s₂).gKTSGlobal.runningMode = s.gKTSGlobal.runningMode := by
    rw [hsched.gKTSGlobal]
    exact hcontrol.runningMode.trans hmode'
  have hg₂ : (scheduler inp s₂).globalTimeoutMilliseconds = s₂.globalTimeoutMilliseconds :=
    hsched.globalTimeoutMilliseconds
  have h11 := hprompt.ends 11
  have h13 := hprompt.ends 13
  have h13' : inp.ticks 0 ≤ inp.ticks 13 := hprompt.ordered (by decide)
  have hshort := hprompt.short
  refine ⟨hconn', ⟨?_, ?_, ?_, ?_⟩⟩
  · rw [hg₂]
    rcases htimeout with ht | ht
    · rw [ht]
      omega
    · rw [ht, hprompt.toNat_millis]
      omega
  · rw [hp₂]
    exact hp
  · intro hcomm
    rw [hconn'] at hcomm
    cases hcomm
  · intro _
    rw [hp₂, hg₂, hm₂]
    refine ⟨?_, hmode⟩
    rcases htimeout with ht | ht
    · rw [ht]
      exact hpg
    · rw [ht, hprompt.toNat_millis]
      omega

end Requests

/-! ## The timers of the handshake -/

/-- What an iteration of `Connect_To_Unit` can do to the timers. -/
structure HandshakeTimers (inp : IterationInput) (s s' : UnitState) : Prop where
  timeout :
    s'.globalTimeoutMilliseconds = s.globalTimeoutMilliseconds ∨
      ∃ k, s'.globalTimeoutMilliseconds = inp.millis k
  polling :
    s'.gKTSGlobal.pollingBaseTimer = s.gKTSGlobal.pollingBaseTimer ∨
      ∃ k, s'.gKTSGlobal.pollingBaseTimer = inp.millis k
  connected :
    s'.wbmComState = .wbmConnected →
      s.currentState = .connected ∧
        s'.globalTimeoutMilliseconds = s.globalTimeoutMilliseconds ∧
        (s'.gKTSGlobal.runningMode = .powerOff ∨ s'.gKTSGlobal.runningMode = .running)
  entering :
    s'.wbmComState = .wbmCommunicating → s'.currentState = .connected →
      ∃ k, s'.globalTimeoutMilliseconds = inp.millis k

section Handshake

variable (inp : IterationInput) {s : UnitState}

/-- A step that keeps the polling timer, does not connect and does not enter
the last state of the handshake. -/
theorem HandshakeTimers.of_elsewhere
    {s' : UnitState}
    (htimeout : s'.globalTimeoutMilliseconds = s.globalTimeoutMilliseconds ∨
      ∃ k, s'.globalTimeoutMilliseconds = inp.millis k)
    (hpolling : s'.gKTSGlobal = s.gKTSGlobal)
    (hwbm : s'.wbmComState ≠ .wbmConnected)
    (hstate : s'.currentState ≠ .connected) :
    HandshakeTimers inp s s' where
  timeout := htimeout
  polling := Or.inl (by rw [hpolling])
  connected := fun h => absurd h hwbm
  entering := fun _ h => absurd h hstate

/-- A state that waits for a reply, and that a reply takes on at a reading of
the clock. -/
theorem handshakeTimers_awaitReply
    (reply : UnitState → UnitState)
    (hcomm : s.wbmComState = .wbmCommunicating)
    (hstate : s.currentState ≠ .connected)
    (htimeout : ∀ s', (reply s').globalTimeoutMilliseconds = inp.millis 2)
    (hglobal : ∀ s', (reply s').gKTSGlobal = s'.gKTSGlobal)
    (hwbm : ∀ s', (reply s').wbmComState = s'.wbmComState) :
    HandshakeTimers inp s (awaitReply inp reply s) := by
  have hcase := awaitReply_case inp s reply
  generalize awaitReply inp reply s = s' at hcase ⊢
  cases hcase with
  | lost _ =>
      refine ⟨Or.inl rfl, Or.inl rfl, fun h => ?_, fun h => ?_⟩
      · cases h
      · cases h
  | replied _ _ =>
      refine ⟨Or.inr ⟨2, htimeout _⟩, Or.inl ?_, fun h => ?_, fun _ _ => ⟨2, htimeout _⟩⟩
      · rw [hglobal]
      · rw [hwbm] at h
        exact absurd (hcomm.symm.trans h) (by simp)
  | waiting _ _ =>
      refine ⟨Or.inl rfl, Or.inl rfl, fun h => ?_, fun _ h => absurd h hstate⟩
      exact absurd (hcomm.symm.trans h) (by simp)

theorem sameControl_announceConnected (s : UnitState) :
    SameControl s (announceConnected s) := by
  obtain ⟨outputs, -, heq⟩ := announceConnected_eq s
  rw [heq]
  constructor <;> rfl

theorem sameControl_connected (s : UnitState) :
    SameControl (enterConnected inp s) (connected inp s) := by
  have hparse := sameControl_pollingBaseDataParse (enterConnected inp s)
    (inp.millis 2) s.port.buffSer1
  unfold connected
  exact hparse.trans (sameControl_announceConnected _)

/-- The last state of the handshake: connected, in one of two modes, the
polling timer restarted and the timeout not. -/
theorem connected_timers (s : UnitState) :
    (connected inp s).wbmComState = .wbmConnected ∧
      (connected inp s).globalTimeoutMilliseconds = s.globalTimeoutMilliseconds ∧
      (connected inp s).gKTSGlobal.pollingBaseTimer = inp.millis 1 ∧
      ((connected inp s).gKTSGlobal.runningMode = .powerOff ∨
        (connected inp s).gKTSGlobal.runningMode = .running) := by
  have hcontrol := sameControl_connected inp s
  have htimeout : (connected inp s).globalTimeoutMilliseconds = s.globalTimeoutMilliseconds := by
    obtain ⟨outputs, -, heq⟩ := connected_eq inp s
    rw [heq]
  have hmode : powerMode s.gRDEeprom = .powerOff ∨ powerMode s.gRDEeprom = .running := by
    unfold powerMode
    split
    · exact Or.inl rfl
    · exact Or.inr rfl
  refine ⟨hcontrol.wbmComState, htimeout, hcontrol.pollingBaseTimer, ?_⟩
  rw [hcontrol.runningMode]
  exact hmode

theorem handshakeTimers_trySerialLink
    (hcomm : s.wbmComState = .wbmCommunicating)
    (hstate : s.currentState = .trySerialLink) :
    HandshakeTimers inp s (trySerialLink inp s) := by
  have hcase := trySerialLink_case inp s
  generalize trySerialLink inp s = s' at hcase ⊢
  cases hcase with
  | anew _ _ => exact .of_elsewhere inp (Or.inl rfl) rfl (by simp) (by simp)
  | again _ _ => exact .of_elsewhere inp (Or.inr ⟨2, rfl⟩) rfl (by simp [hcomm]) (by simp)
  | read _ next hnext =>
      refine .of_elsewhere inp (Or.inl rfl) rfl (by simp [hcomm]) ?_
      dsimp only
      rw [hnext]
      split
      · simp
      · split
        · simp
        · simp [hstate]

theorem handshakeTimers_linkConnecting
    (hcomm : s.wbmComState = .wbmCommunicating) :
    HandshakeTimers inp s (linkConnecting inp s) := by
  have hcase := linkConnecting_case inp s
  generalize linkConnecting inp s = s' at hcase ⊢
  cases hcase with
  | sent _ => exact .of_elsewhere inp (Or.inr ⟨0, rfl⟩) rfl (by simp [hcomm]) (by simp)
  | silent _ => exact .of_elsewhere inp (Or.inl rfl) rfl (by simp [hcomm]) (by simp)

theorem handshakeTimers_bootloaderState
    (hcomm : s.wbmComState = .wbmCommunicating)
    (hstate : s.currentState = .bootloaderState) :
    HandshakeTimers inp s (bootloaderState inp s) := by
  have hcase := bootloaderState_case inp s
  generalize bootloaderState inp s = s' at hcase ⊢
  cases hcase with
  | held _ => exact .of_elsewhere inp (Or.inl rfl) rfl (by simp [hcomm]) (by simp [hstate])
  | header _ transfer next hnext =>
      refine .of_elsewhere inp (Or.inl rfl) rfl (by simp [hcomm]) ?_
      rcases hnext with rfl | rfl
      · simp
      · simp

theorem handshakeTimers_bootloaderState1
    (hcomm : s.wbmComState = .wbmCommunicating)
    (hstate : s.currentState = .bootloaderState1) :
    HandshakeTimers inp s (bootloaderState1 s) := by
  have hcase := bootloaderState1_case s
  generalize bootloaderState1 s = s' at hcase ⊢
  cases hcase with
  | waiting _ => exact .of_elsewhere inp (Or.inl rfl) rfl (by simp [hcomm]) (by simp [hstate])
  | acknowledged _ transfer next hnext outputs _ =>
      refine .of_elsewhere inp (Or.inl rfl) rfl (by simp [hcomm]) ?_
      rcases hnext with rfl | rfl
      · simp [hstate]
      · simp

/-- The timers over one iteration of `Connect_To_Unit`. -/
theorem handshakeTimers_connectToUnit
    (hcomm : s.wbmComState = .wbmCommunicating) :
    HandshakeTimers inp s (connectToUnit inp s) := by
  have hsection : ∀ field request next,
      (∀ s : UnitState, (request s).gKTSGlobal = s.gKTSGlobal) →
      (∀ s : UnitState, (request s).wbmComState = s.wbmComState) →
      s.currentState ≠ .connected →
        HandshakeTimers inp s (readEeprom inp field request next s) := by
    intro field request next hglobal hwbm hstate
    exact handshakeTimers_awaitReply inp (sectionReply inp field request next) hcomm hstate
      (fun _ => rfl) (fun s' => hglobal (storeSection field s'))
      (fun s' => hwbm (storeSection field s'))
  unfold connectToUnit
  cases hc : s.currentState with
  | init =>
      exact .of_elsewhere inp (Or.inr ⟨0, rfl⟩) rfl (by simp [hcomm]) (by simp)
  | linkConnecting =>
      exact handshakeTimers_linkConnecting inp hcomm
  | trySerialLink =>
      exact handshakeTimers_trySerialLink inp hcomm hc
  | linkConnected =>
      exact .of_elsewhere inp (Or.inr ⟨0, rfl⟩) rfl
        (by simp [linkConnected, sendReadEeprom, UnitState.emit, hcomm])
        (by simp [linkConnected])
  | readEepromInfo =>
      exact hsection _ _ _ (fun _ => rfl) (fun _ => rfl) (by simp [hc])
  | readEepromConfiguration =>
      exact hsection _ _ _ (fun _ => rfl) (fun _ => rfl) (by simp [hc])
  | readEepromSettingPar =>
      exact hsection _ _ _ (fun _ => rfl) (fun _ => rfl) (by simp [hc])
  | readEepromSetTemp =>
      exact hsection _ _ _ (fun _ => rfl) (fun _ => rfl) (by simp [hc])
  | readEepromDayProg =>
      exact hsection _ _ _ (fun _ => rfl) (fun _ => rfl) (by simp [hc])
  | readEepromHwSetting =>
      exact hsection _ _ _ (fun _ => rfl) (fun _ => rfl) (by simp [hc])
  | pollingBase =>
      exact handshakeTimers_awaitReply inp (pollingReply inp) hcomm (by simp [hc])
        (fun _ => rfl) (fun _ => rfl) (fun _ => rfl)
  | connected =>
      obtain ⟨hwbm, htimeout, hpolling, hmode⟩ := connected_timers inp s
      dsimp only
      refine ⟨Or.inl htimeout, Or.inr ⟨1, hpolling⟩, fun _ => ⟨hc, htimeout, hmode⟩,
        fun h => ?_⟩
      exact absurd (hwbm.symm.trans h) (by simp)
  | bootloaderState =>
      exact handshakeTimers_bootloaderState inp hcomm hc
  | bootloaderState1 =>
      exact handshakeTimers_bootloaderState1 inp hcomm hc
  | bootloaderStateEnd =>
      exact .of_elsewhere inp (Or.inl rfl) rfl (by simp [hcomm]) (by simp [hc])

end Handshake

/-! ## When the timeout runs out -/

/-- The loss of the unit, as the connected state records it. -/
def Lost (s : UnitState) : Prop :=
  s.wbmComState = .wbmError ∧ s.eepromDataReceived = false

/-- The debug timer expires in an iteration. -/
def DebugExpires (inp : IterationInput) (s : UnitState) : Prop :=
  s.gKTSGlobal.runningMode = .running ∧
    expired inp 2 s.gKTSGlobal.pollingDebugDataTimer pollingDebugDataMilliseconds = true

instance (inp : IterationInput) (s : UnitState) : Decidable (DebugExpires inp s) :=
  inferInstanceAs (Decidable (_ ∧ _))

/-- The polling timer, which the debug request restarts, expires in an
iteration. -/
def PollingExpires (inp : IterationInput) (s : UnitState) : Prop :=
  (s.gKTSGlobal.runningMode = .powerOff ∨ s.gKTSGlobal.runningMode = .running) ∧
    expired inp 7
      (if DebugExpires inp s then inp.millis 5 else s.gKTSGlobal.pollingBaseTimer)
      (pollingBaseMilliseconds s.gKTSGlobal.runningMode) = true

instance (inp : IterationInput) (s : UnitState) : Decidable (PollingExpires inp s) :=
  inferInstanceAs (Decidable (_ ∧ _))

/-- The reading at which the timeout was last restarted, when it is tested:
that of the last request timer to expire in this iteration, if one did. -/
def lastRestart (inp : IterationInput) (s : UnitState) : UInt32 :=
  if PollingExpires inp s then inp.millis 10
  else if DebugExpires inp s then inp.millis 6
  else s.globalTimeoutMilliseconds

/-- The timeout, counted from its last restart, has run out. -/
def TimeoutRunsOut (inp : IterationInput) (s : UnitState) : Prop :=
  expired inp 11 (lastRestart inp s) timeoutMilliseconds = true

section LastRestart

variable (inp : IterationInput) (s : UnitState)

/-- What the debug request leaves of the two timers and the mode. -/
theorem debugRequest_eq_timers :
    (debugRequest inp s).gKTSGlobal.runningMode = s.gKTSGlobal.runningMode ∧
      (debugRequest inp s).gKTSGlobal.pollingBaseTimer =
        (if DebugExpires inp s then inp.millis 5 else s.gKTSGlobal.pollingBaseTimer) ∧
      (debugRequest inp s).globalTimeoutMilliseconds =
        (if DebugExpires inp s then inp.millis 6 else s.globalTimeoutMilliseconds) := by
  refine ⟨(sameData_debugRequest inp s).runningMode, ?_⟩
  unfold debugRequest
  dsimp only
  split
  · rename_i hmode
    split
    · rename_i hexp
      have h : DebugExpires inp s := ⟨hmode, hexp⟩
      exact ⟨(if_pos h).symm, (if_pos h).symm⟩
    · rename_i hexp
      have h : ¬ DebugExpires inp s := fun h => hexp h.2
      exact ⟨(if_neg h).symm, (if_neg h).symm⟩
  · rename_i hmode
    have h : ¬ DebugExpires inp s := fun h => hmode h.1
    exact ⟨(if_neg h).symm, (if_neg h).symm⟩

theorem pollingRequest_eq_timeout :
    (pollingRequest inp s).globalTimeoutMilliseconds =
      if (s.gKTSGlobal.runningMode = .powerOff ∨ s.gKTSGlobal.runningMode = .running) ∧
          expired inp 7 s.gKTSGlobal.pollingBaseTimer
            (pollingBaseMilliseconds s.gKTSGlobal.runningMode) = true
      then inp.millis 10 else s.globalTimeoutMilliseconds := by
  unfold pollingRequest
  dsimp only
  split
  · rename_i hmode
    split
    · rename_i hexp
      exact (if_pos ⟨hmode, hexp⟩).symm
    · rename_i hexp
      exact (if_neg fun h => hexp h.2).symm
  · rename_i hmode
    exact (if_neg fun h => hmode h.1).symm

theorem afterRequests_eq_lastRestart :
    (afterRequests inp s).globalTimeoutMilliseconds = lastRestart inp s := by
  obtain ⟨hmode₂, hpoll₂, hdebug₂, htimeout₂⟩ := clampLastReceived_timers inp s
  have hexpires : DebugExpires inp (clampLastReceived inp (unitUpdateTrigger inp s)) ↔
      DebugExpires inp s := by
    unfold DebugExpires
    rw [hmode₂, hdebug₂]
  obtain ⟨hmode₃, hpoll₃, htimeout₃⟩ :=
    debugRequest_eq_timers inp (clampLastReceived inp (unitUpdateTrigger inp s))
  rw [hpoll₂, if_congr hexpires rfl rfl] at hpoll₃
  rw [htimeout₂, if_congr hexpires rfl rfl] at htimeout₃
  unfold afterRequests lastRestart
  rw [pollingRequest_eq_timeout, hmode₃, hpoll₃, htimeout₃, hmode₂]
  by_cases hpolling : PollingExpires inp s
  · rw [if_pos hpolling]
    exact if_pos hpolling
  · rw [if_neg hpolling]
    exact if_neg hpolling

/-- A silent iteration records the loss of the unit exactly when the timeout
runs out in it. -/
theorem lost_connectedIteration_iff
    (hconn : s.wbmComState = .wbmConnected)
    (hsilent : (readMessage s.port).1 ≤ runDownload) :
    Lost (step (.iterate inp) s) ↔ TimeoutRunsOut inp s := by
  have hafter : (afterRequests inp s).wbmComState = .wbmConnected :=
    (afterRequests_link inp s).1.trans hconn
  have hiterate : step (.iterate inp) s =
      scheduler inp (receive inp (beforeReceive inp s)) :=
    unitEventTask_connected inp hconn
  have hstate : (step (.iterate inp) s).wbmComState = (beforeReceive inp s).wbmComState := by
    rw [hiterate]
    exact connectedIteration_wbmComState inp s
  unfold TimeoutRunsOut
  rw [← afterRequests_eq_lastRestart]
  constructor
  · intro hlost
    have hbefore := hstate.symm.trans hlost.1
    rw [beforeReceive_eq] at hbefore
    unfold globalTimeout at hbefore
    split at hbefore
    · assumption
    · rw [hafter] at hbefore
      cases hbefore
  · intro hexp
    have hbefore : (beforeReceive inp s).wbmComState = .wbmError ∧
        (beforeReceive inp s).eepromDataReceived = false ∧
        (beforeReceive inp s).readEepromRequestIndex = 0 := by
      rw [beforeReceive_eq]
      unfold globalTimeout
      rw [if_pos hexp]
      exact ⟨rfl, rfl, rfl⟩
    have hport : (beforeReceive inp s).port = s.port := (sameData_beforeReceive inp s).port
    -- Nothing is received, so nothing sets the flag or a bit of the index.
    have hreceive : (receive inp (beforeReceive inp s)).eepromDataReceived = false ∧
        (receive inp (beforeReceive inp s)).readEepromRequestIndex = 0 := by
      have hcase := receive_case inp (beforeReceive inp s)
      generalize receive inp (beforeReceive inp s) = s' at hcase
      cases hcase with
      | reply hgt hreply => exact absurd (hport ▸ hgt) (not_lt.mpr hsilent)
      | unknown hgt hnone => exact absurd (hport ▸ hgt) (not_lt.mpr hsilent)
      | rejected hneg => exact ⟨rfl, hbefore.2.2⟩
      | nothing hle hnonneg => exact hbefore.2
    have hsched : scheduler inp (receive inp (beforeReceive inp s)) =
        receive inp (beforeReceive inp s) := by
      unfold scheduler
      rw [if_neg (by simp [hreceive.2])]
    refine ⟨hstate.trans hbefore.1, ?_⟩
    rw [hiterate, hsched]
    exact hreceive.1

end LastRestart

/-! ## Runs -/

/-- Outside the two states in which the timeout is measured, the timers only
have to be past. -/
theorem TimersInOrder.outside
    {t t' : Nat} {s s' : UnitState} (h : TimersInOrder t s) (hlater : t ≤ t')
    (hglobal : s'.globalTimeoutMilliseconds = s.globalTimeoutMilliseconds)
    (hpolling : s'.gKTSGlobal.pollingBaseTimer = s.gKTSGlobal.pollingBaseTimer)
    (hcomm : s'.wbmComState = .wbmCommunicating → s'.currentState ≠ .connected)
    (hwbm : s'.wbmComState ≠ .wbmConnected) :
    TimersInOrder t' s' := by
  refine ⟨?_, ?_, fun hstate hentered => absurd hentered (hcomm hstate),
    fun hconn => absurd hconn hwbm⟩
  · rw [hglobal]
    exact h.global_le.trans hlater
  · rw [hpolling]
    exact h.polling_le.trans hlater

/-- A prompt iteration of the handshake keeps the timers in order. -/
theorem timersInOrder_connectToUnit
    {t t' : Nat} {inp : IterationInput} {s : UnitState}
    (hprompt : PromptIteration t inp t') (hinv : TimersInOrder t s)
    (hwbm : s.wbmComState = .wbmCommunicating)
    (hentering : s.currentState = .connected → t' ≤ t + 3000) :
    TimersInOrder t' (connectToUnit inp s) := by
  have htimers := handshakeTimers_connectToUnit inp hwbm
  generalize connectToUnit inp s = s' at htimers
  have hlater := hprompt.later
  have hshort := hprompt.short
  have h0 := hprompt.ends 0
  have hpolling : s'.gKTSGlobal.pollingBaseTimer.toNat ≤ t' := by
    rcases htimers.polling with h | ⟨k, h⟩
    · rw [h]
      exact hinv.polling_le.trans (hlater.trans h0)
    · rw [h, hprompt.toNat_millis]
      exact hprompt.ends k
  refine ⟨?_, hpolling, fun hcomm hconn => ?_, fun hconn => ?_⟩
  · rcases htimers.timeout with h | ⟨k, h⟩
    · rw [h]
      exact hinv.global_le.trans (hlater.trans h0)
    · rw [h, hprompt.toNat_millis]
      exact hprompt.ends k
  · obtain ⟨k, h⟩ := htimers.entering hcomm hconn
    have hk : inp.ticks 0 ≤ inp.ticks k := hprompt.ordered (Nat.zero_le k)
    rw [h, hprompt.toNat_millis]
    omega
  · obtain ⟨hstate, htimeout, hmode⟩ := htimers.connected hconn
    have henter := hinv.entering hwbm hstate
    have hsoon := hentering hstate
    rw [htimeout]
    exact ⟨by omega, hmode⟩

/-- Prompt events keep the timers in order. -/
theorem timersInOrder_step
    (e : TimedEvent) (s : TimedState)
    (hprompt : Prompt e s) (hinv : TimersInOrder s.1 s.2) :
    TimersInOrder (timedStep e s).1 (timedStep e s).2 := by
  obtain ⟨e, t'⟩ := e
  obtain ⟨t, s⟩ := s
  simp only [timedStep]
  cases e with
  | iterate inp =>
      obtain ⟨hiter, hentering⟩ := hprompt
      simp only at hiter hentering hinv
      have hlater : t ≤ t' := hiter.later.trans (hiter.ends 0)
      cases hwbm : s.wbmComState with
      | wbmInitialize =>
          simp only [step, unitEventTask, hwbm]
          refine hinv.outside hlater rfl rfl (fun _ => ?_) ?_
          · rintro ⟨⟩
          · rintro ⟨⟩
      | wbmCommunicating =>
          simp only [step, unitEventTask, hwbm]
          exact timersInOrder_connectToUnit hiter hinv hwbm (hentering hwbm)
      | wbmConnected =>
          simp only [step, unitEventTask, hwbm]
          exact (connectedIteration_timers hiter hinv hwbm).2
      | wbmError =>
          simp only [step, unitEventTask, hwbm]
          refine hinv.outside hlater rfl rfl ?_ ?_
          · rintro ⟨⟩
          · rintro ⟨⟩
  | clientWrite w =>
      have hsame := sameButImage_clientWrite w s
      simp only [Prompt] at hprompt
      subst hprompt
      simp only [step]
      refine ⟨?_, ?_, ?_, ?_⟩
      · rw [hsame.globalTimeoutMilliseconds]
        exact hinv.global_le
      · rw [hsame.gKTSGlobal]
        exact hinv.polling_le
      · rw [hsame.wbmComState, hsame.currentState, hsame.globalTimeoutMilliseconds]
        exact hinv.entering
      · rw [hsame.wbmComState, hsame.gKTSGlobal, hsame.globalTimeoutMilliseconds]
        exact hinv.connected
  | uartData data =>
      simp only [Prompt] at hprompt
      subst hprompt
      exact ⟨hinv.global_le, hinv.polling_le, hinv.entering, hinv.connected⟩
  | mqttReady ready =>
      simp only [Prompt] at hprompt
      subst hprompt
      exact ⟨hinv.global_le, hinv.polling_le, hinv.entering, hinv.connected⟩
  | unitUpdateTask running =>
      simp only [Prompt] at hprompt
      subst hprompt
      exact ⟨hinv.global_le, hinv.polling_le, hinv.entering, hinv.connected⟩
  | firmwareStored content =>
      simp only [Prompt] at hprompt
      subst hprompt
      exact ⟨hinv.global_le, hinv.polling_le, hinv.entering, hinv.connected⟩

theorem timersInOrder_boot
    (device : DeviceIdentity) (firmwareBin : Option (List UInt8)) (partitionState : Bool)
    {t : Nat} (ht : t < 2 ^ 32) :
    TimersInOrder t (UnitState.boot device firmwareBin partitionState (tickReading t)) where
  global_le := Nat.zero_le t
  polling_le := le_of_eq (toNat_tickReading ht)
  entering := by
    intro h
    cases h
  connected := by
    intro h
    cases h

/-- A connected task stays connected through every prompt event. -/
theorem connected_step
    (e : TimedEvent) (s : TimedState)
    (hprompt : Prompt e s) (hinv : TimersInOrder s.1 s.2)
    (hconn : s.2.wbmComState = .wbmConnected) :
    (timedStep e s).2.wbmComState = .wbmConnected := by
  obtain ⟨e, t'⟩ := e
  obtain ⟨t, s⟩ := s
  cases e with
  | iterate inp =>
      simp only at hconn
      simp only [timedStep, step, unitEventTask, hconn]
      exact (connectedIteration_timers hprompt.1 hinv hconn).1
  | clientWrite w =>
      exact (sameButImage_clientWrite w s).wbmComState.trans hconn
  | uartData data =>
      exact hconn
  | mqttReady ready =>
      exact hconn
  | unitUpdateTask running =>
      exact hconn
  | firmwareStored content =>
      exact hconn

/-- While no answer comes, an outstanding request stays outstanding and no
other request is sent. -/
theorem unanswered_step
    (e : TimedEvent) (s : TimedState)
    (hprompt : Prompt e s) (hunanswered : Unanswered e s) (hinv : TimersInOrder s.1 s.2)
    (hconn : s.2.wbmComState = .wbmConnected)
    (hflag : s.2.eepromDataReceived = true) :
    (timedStep e s).2.eepromDataReceived = true ∧
      uartWrites (timedStep e s).2.outputs = uartWrites s.2.outputs := by
  obtain ⟨e, t'⟩ := e
  obtain ⟨t, s⟩ := s
  simp only [timedStep] at hconn hflag hinv ⊢
  cases e with
  | iterate inp =>
      simp only [Unanswered] at hunanswered
      have hport : (afterRequests inp s).port = s.port := (sameData_afterRequests inp s).port
      have hbefore := globalTimeout_afterRequests hprompt.1 hinv hconn
      have hafter : Sends [] s (afterRequests inp s) ∧
          (afterRequests inp s).eepromDataReceived = true := by
        rcases sends_beforeReceive inp s with ⟨hsend, hsame⟩ | ⟨w, -, hfalse, -, -⟩
        · exact ⟨hbefore ▸ hsend, hsame.trans hflag⟩
        · rw [hflag] at hfalse
          cases hfalse
      have hquiet : (readMessage s.port).1 ≤ runDownload ∧ 0 ≤ (readMessage s.port).1 := by
        rcases hunanswered with h | h
        · rw [h]
          decide
        · rw [h]
          decide
      have hreceive : (receive inp (afterRequests inp s)).eepromDataReceived = true := by
        rw [receive_nothing inp (hport ▸ hquiet.1) (hport ▸ hquiet.2)]
        exact hafter.2
      have hsched : scheduler inp (receive inp (afterRequests inp s)) =
          receive inp (afterRequests inp s) := by
        unfold scheduler
        rw [if_neg (by simp [hreceive])]
      have hsend : Sends [] s (receive inp (afterRequests inp s)) :=
        hafter.1.of_silent (sends_receive inp _)
      simp only [step, unitEventTask, hconn]
      unfold connectedIteration
      rw [hbefore, hsched]
      exact ⟨hreceive, hsend.uartWrites_eq⟩
  | clientWrite w =>
      exact ⟨(sameButImage_clientWrite w s).eepromDataReceived.trans hflag,
        (sends_clientWrite s w).uartWrites_eq⟩
  | uartData data =>
      exact ⟨hflag, rfl⟩
  | mqttReady ready =>
      exact ⟨hflag, rfl⟩
  | unitUpdateTask running =>
      exact ⟨hflag, rfl⟩
  | firmwareStored content =>
      exact ⟨hflag, rfl⟩

/-- Connected, the timers in order. -/
def ConnectedInOrder (s : TimedState) : Prop :=
  s.2.wbmComState = .wbmConnected ∧ TimersInOrder s.1 s.2

theorem connectedInOrder_step
    (e : TimedEvent) (s : TimedState)
    (hprompt : Prompt e s) (h : ConnectedInOrder s) :
    ConnectedInOrder (timedStep e s) :=
  ⟨connected_step e s hprompt h.2 h.1, timersInOrder_step e s hprompt h.2⟩

/-- Connected with an outstanding request, after the messages `writes`. -/
def Outstanding (writes : List (List UInt8)) (s : TimedState) : Prop :=
  ConnectedInOrder s ∧ s.2.eepromDataReceived = true ∧ uartWrites s.2.outputs = writes

theorem outstanding_step
    (writes : List (List UInt8)) (e : TimedEvent) (s : TimedState)
    (hevent : Prompt e s ∧ Unanswered e s) (h : Outstanding writes s) :
    Outstanding writes (timedStep e s) := by
  obtain ⟨hprompt, hunanswered⟩ := hevent
  obtain ⟨hconn, hflag, hwrites⟩ := h
  obtain ⟨hflag', hwrites'⟩ :=
    unanswered_step e s hprompt hunanswered hconn.2 hconn.1 hflag
  exact ⟨connectedInOrder_step e s hprompt hconn, hflag', hwrites'.trans hwrites⟩

section Runs

variable (device : DeviceIdentity) (firmwareBin : Option (List UInt8)) (partitionState : Bool)
variable (t₀ : Nat) (es₀ es : List TimedEvent)

/-- The gateway as it is started at tick count `t₀`. -/
def timedBoot : TimedState :=
  (t₀, UnitState.boot device firmwareBin partitionState (tickReading t₀))

/-- From every connected state that a prompt run reaches, no prompt run leaves
`WBM_Connected`, however long the unit is silent; and a request that stays
unanswered stays outstanding, with no further request sent. -/
theorem connected_throughout
    (ht₀ : t₀ < 2 ^ 32)
    (hprompt₀ : Along timedStep Prompt es₀ (timedBoot device firmwareBin partitionState t₀))
    (hconn : (run timedStep es₀ (timedBoot device firmwareBin partitionState t₀)).2.wbmComState =
      .wbmConnected)
    (hprompt : Along timedStep Prompt es
      (run timedStep es₀ (timedBoot device firmwareBin partitionState t₀))) :
    let s := run timedStep es₀ (timedBoot device firmwareBin partitionState t₀)
    (run timedStep es s).2.wbmComState = .wbmConnected ∧
      (s.2.eepromDataReceived = true → Along timedStep Unanswered es s →
        (run timedStep es s).2.eepromDataReceived = true ∧
          uartWrites (run timedStep es s).2.outputs = uartWrites s.2.outputs) := by
  intro s
  have hinv : TimersInOrder s.1 s.2 :=
    hprompt₀.invariant timersInOrder_step
      (timersInOrder_boot device firmwareBin partitionState ht₀)
  refine ⟨(hprompt.invariant connectedInOrder_step ⟨hconn, hinv⟩).1, ?_⟩
  intro hflag hunanswered
  have hkept : Outstanding (uartWrites s.2.outputs) (run timedStep es s) :=
    (hprompt.and hunanswered).invariant (outstanding_step _) ⟨⟨hconn, hinv⟩, hflag, rfl⟩
  exact hkept.2

/-- When the loss of a silent unit is noticed.  An iteration notices it exactly
if the timeout, counted from its last restart, has run out; the expiry of
either request timer restarts it, so that no iteration of a prompt run does,
and a request that stays unanswered stays outstanding with no further request
sent. -/
theorem silent_unit_lost_iff
    (hconn : (run timedStep es₀ (timedBoot device firmwareBin partitionState t₀)).2.wbmComState =
      .wbmConnected) :
    let s := run timedStep es₀ (timedBoot device firmwareBin partitionState t₀)
    (∀ inp t', Silent (.iterate inp, t') s →
      (Lost (timedStep (.iterate inp, t') s).2 ↔ TimeoutRunsOut inp s.2)) ∧
    (t₀ < 2 ^ 32 → Along timedStep Prompt es₀ (timedBoot device firmwareBin partitionState t₀) →
      Along timedStep Prompt es s →
        (run timedStep es s).2.wbmComState = .wbmConnected ∧
          (s.2.eepromDataReceived = true → Along timedStep Unanswered es s →
            (run timedStep es s).2.eepromDataReceived = true ∧
              uartWrites (run timedStep es s).2.outputs = uartWrites s.2.outputs)) := by
  intro s
  refine ⟨?_, ?_⟩
  · intro inp t' hsilent
    exact lost_connectedIteration_iff inp s.2 hconn hsilent
  · intro ht₀ hprompt₀ hprompt
    exact connected_throughout device firmwareBin partitionState t₀ es₀ es ht₀ hprompt₀
      hconn hprompt

end Runs

/-! ## A silent unit -/

section SilentUnit

/-- Events at one tick count, whose iterations read it. -/
def eventsAt (t : Nat) (es : List Event) : List TimedEvent :=
  es.map fun e => (e, t)

/-- One iteration a second, from the second after `t`. -/
def everySecond (t : Nat) : Nat → List TimedEvent
  | 0 => []
  | n + 1 => (iterateAt (tickReading (t + 1000)), t + 1000) :: everySecond (t + 1000) n

theorem promptIteration_still
    {t t' : Nat}
    (hle : t ≤ t') (hwrap : t' < 2 ^ 32) :
    PromptIteration t (.still (tickReading t')) t' where
  later := by
    show t ≤ (tickReading t').toNat
    rw [toNat_tickReading hwrap]
    exact hle
  ordered := fun _ _ _ => le_refl _
  ends := fun _ => le_of_eq (toNat_tickReading hwrap)
  short := by
    show t' ≤ (tickReading t').toNat + 3000
    rw [toNat_tickReading hwrap]
    omega
  noWrap := hwrap

theorem prompt_iterateAt
    {t t' : Nat} (s : UnitState)
    (hle : t ≤ t') (hsoon : t' ≤ t + 3000) (hwrap : t' < 2 ^ 32) :
    Prompt (iterateAt (tickReading t'), t') (t, s) :=
  ⟨promptIteration_still hle hwrap, fun _ _ => hsoon⟩

theorem run_eventsAt
    (t : Nat) (es : List Event) (s : UnitState) :
    run timedStep (eventsAt t es) (t, s) = (t, run step es s) := by
  induction es generalizing s with
  | nil =>
      rfl
  | cons e es ih =>
      exact ih (step e s)

/-- Events that take no time are prompt. -/
theorem along_prompt_eventsAt
    {t : Nat} (hwrap : t < 2 ^ 32)
    {es : List Event}
    (hes : ∀ e ∈ es, e = iterateAt (tickReading t) ∨ ∀ inp, e ≠ .iterate inp)
    (s : UnitState) :
    Along timedStep Prompt (eventsAt t es) (t, s) := by
  induction es generalizing s with
  | nil =>
      trivial
  | cons e es ih =>
      refine ⟨?_, ih (fun e' he' => hes e' (List.mem_cons_of_mem e he')) (step e s)⟩
      rcases hes e List.mem_cons_self with rfl | hother
      · exact prompt_iterateAt s (le_refl t) (Nat.le_add_right t 3000) hwrap
      · cases e with
        | iterate inp => exact absurd rfl (hother inp)
        | _ => rfl

theorem along_prompt_everySecond
    {t n : Nat} (hwrap : t + 1000 * n < 2 ^ 32) (s : UnitState) :
    Along timedStep Prompt (everySecond t n) (t, s) := by
  induction n generalizing t s with
  | zero =>
      trivial
  | succ n ih =>
      have hrest : t + 1000 + 1000 * n < 2 ^ 32 := by omega
      have hwrap' : t + 1000 < 2 ^ 32 :=
        lt_of_le_of_lt (Nat.le_add_right (t + 1000) (1000 * n)) hrest
      have hsoon : t + 1000 ≤ t + 3000 := Nat.add_le_add_left (by decide) t
      exact ⟨prompt_iterateAt s (Nat.le_add_right t 1000) hsoon hwrap',
        ih hrest (step (iterateAt (tickReading (t + 1000))) s)⟩

/-- The events of the handshake are iterations at time zero and messages. -/
theorem untilConnected_still
    (eeprom : Memory) :
    ∀ e ∈ untilConnected eeprom,
      e = iterateAt (tickReading 0) ∨ ∀ inp, e ≠ .iterate inp := by
  have hexchange : ∀ w, ∀ e ∈ exchangeAt 0 w,
      e = iterateAt (tickReading 0) ∨ ∀ inp, e ≠ .iterate inp := by
    intro w e he
    simp only [exchangeAt, List.mem_cons, List.not_mem_nil, or_false] at he
    rcases he with rfl | rfl | rfl
    · exact Or.inr fun inp => by simp
    · exact Or.inl rfl
    · exact Or.inl rfl
  have hiterate : ∀ e ∈ [iterateAt 0],
      e = iterateAt (tickReading 0) ∨ ∀ inp, e ≠ .iterate inp := by
    intro e he
    exact Or.inl (List.mem_singleton.mp he)
  intro e he
  simp only [untilConnected, untilReadEepromInfo, List.mem_append, List.mem_flatMap] at he
  rcases he with (((((he | he) | he) | ⟨sec, -, he⟩)) | he) | he
  · simp only [List.mem_cons, List.not_mem_nil, or_false, or_self] at he
    exact hiterate e (List.mem_singleton.mpr he)
  · exact hexchange _ e he
  · exact hiterate e he
  · exact hexchange _ e he
  · exact hexchange _ e he
  · exact hiterate e he

/-- A gateway that has connected at time zero to a unit whose EEPROM holds
ones everywhere. -/
def connectedAtZero : UnitState :=
  run step (untilConnected fun _ => 1) freshBoard

theorem run_untilConnected :
    run timedStep (eventsAt 0 (untilConnected fun _ => 1)) (timedBoot .zeroMac none false 0) =
      (0, connectedAtZero) :=
  run_eventsAt 0 (untilConnected fun _ => 1) freshBoard

/-- The events that connect a gateway, and one second more, in which it sends
a polling request. -/
def untilPolled : List TimedEvent :=
  eventsAt 0 (untilConnected fun _ => 1) ++ everySecond 0 1

theorem run_untilPolled :
    run timedStep untilPolled (timedBoot .zeroMac none false 0) =
      (1000, step (iterateAt (tickReading 1000)) connectedAtZero) := by
  unfold untilPolled
  rw [run_append, run_untilConnected]
  simp only [everySecond, run_cons, run_nil, timedStep, Nat.zero_add]

theorem prompt_untilPolled :
    Along timedStep Prompt untilPolled (timedBoot .zeroMac none false 0) := by
  unfold untilPolled
  rw [along_append, run_untilConnected]
  exact ⟨along_prompt_eventsAt (by decide) (untilConnected_still _) freshBoard,
    along_prompt_everySecond (by decide) connectedAtZero⟩

/-- Polled once and never answered, the gateway is still connected after
nineteen more seconds of silence, its request outstanding. -/
theorem silent_nineteen_seconds :
    let s := run timedStep untilPolled (timedBoot .zeroMac none false 0)
    (run timedStep (everySecond 1000 19) s).2.wbmComState = .wbmConnected ∧
      (run timedStep (everySecond 1000 19) s).2.eepromDataReceived = true := by
  intro s
  obtain ⟨hconn, hflag, hunanswered⟩ : s.2.wbmComState = .wbmConnected ∧
      s.2.eepromDataReceived = true ∧
      Along timedStep Unanswered (everySecond 1000 19) s := by
    decide +kernel
  have hprompt : Along timedStep Prompt (everySecond 1000 19) s := by
    have hs : s = (1000, step (iterateAt (tickReading 1000)) connectedAtZero) :=
      run_untilPolled
    rw [hs]
    exact along_prompt_everySecond (by decide) _
  have h := silent_unit_lost_iff .zeroMac none false 0 untilPolled (everySecond 1000 19) hconn
  have hstays := h.2 (by decide) prompt_untilPolled hprompt
  exact ⟨hstays.1, (hstays.2 hflag hunanswered).1⟩

/-- The gateway does not notice that the unit is lost: the request of the
first second is never answered, no message arrives for twenty seconds, and the
task is still in `WBM_Connected` with that request outstanding. -/
theorem silent_unit_not_lost :
    let s : TimedState := (0, connectedAtZero)
    let s' := run timedStep (everySecond 0 20) s
    s.2.wbmComState = .wbmConnected ∧
      Along timedStep Silent (everySecond 0 20) s ∧
      s'.1 = 20000 ∧
      s'.2.wbmComState = .wbmConnected ∧
      s'.2.eepromDataReceived = true ∧
      uartWrites s'.2.outputs =
        uartWrites (run timedStep (everySecond 0 1) s).2.outputs := by
  decide +kernel

end SilentUnit

end UnitComm
end AvensysEsp32
