import AvensysEsp32.UnitComm.LastRequest
import AvensysEsp32.UnitComm.ReplyAcceptance

/-!
# Which states of the link recover

A state recovers when the clock may go on and the unit answer what it is asked
so that the task comes to be connected with no request outstanding.  The task
never leaves `WBM_Error`; and before the connection a claim that fills the
receive cache is never read, so that no answer is either.  From every other
state outside the firmware transfer there is a way, on which the clock need not
move once it shows a reading at which the timeout has not run out.
-/

namespace AvensysEsp32
namespace UnitComm

open Foundation Serial

/-! ## Continuations -/

/-- The message is the answer of a unit, whatever its EEPROM, to the request it
was sent last. -/
def AnswersLast (w : List UInt8) (s : UnitState) : Prop :=
  ∃ request ∈ lastRequest s, ∃ eeprom a eeprom',
    boardAnswer eeprom a request = some (eeprom', w)

/-- The clock advances, no client writes, and only the unit's answers arrive. -/
def Cooperative (e : TimedEvent) (s : TimedState) : Prop :=
  match e.1 with
  | .iterate inp =>
      s.1 ≤ inp.ticks 0 ∧ Monotone inp.ticks ∧ (∀ k, inp.ticks k ≤ e.2) ∧ inp.duringTx = []
  | .uartData w => s.1 ≤ e.2 ∧ AnswersLast w s.2
  | _ => False

/-- The task is connected, and no request is outstanding. -/
def Synchronised (s : UnitState) : Prop :=
  s.wbmComState = .wbmConnected ∧ s.eepromDataReceived = false

/-- There is a continuation after which no request is outstanding. -/
def Recovers (s : TimedState) : Prop :=
  ∃ s', Reachable timedStep Cooperative s s' ∧ Synchronised s'.2

/-- The task has not given up, and it can read what arrives unless it need not. -/
def Recoverable (s : UnitState) : Prop :=
  s.wbmComState ≠ .wbmError ∧
    (s.port.rxClaimLen = uart1RxCacheSize → s.wbmComState = .wbmConnected ∨
      (s.wbmComState = .wbmCommunicating ∧ s.currentState = .connected))

instance (s : UnitState) : Decidable (Recoverable s) :=
  inferInstanceAs (Decidable (_ ∧ (_ → _)))

/-! ## Continuations while the clock stands still -/

/-- An iteration during which the clock shows the same tick. -/
def standing (n : Nat) : IterationInput where
  ticks := fun _ => n
  stack := fun _ => 0
  duringTx := []
  fseekOk := true
  updateTicks := 0

/-- Iterations at one tick, and answers of the unit. -/
def Calm (n : Nat) (e : Event) (s : UnitState) : Prop :=
  e = .iterate (standing n) ∨ ∃ w, e = .uartData w ∧ AnswersLast w s

/-- The timeout has not run out at a tick. -/
def Fresh (n : Nat) (s : UnitState) : Prop :=
  expired (standing n) 0 s.globalTimeoutMilliseconds timeoutMilliseconds = false

section Standing

variable {n t : Nat} {s s' : UnitState}

@[simp] theorem millis_standing (site : Nat) :
    (standing n).millis site = tickReading n := by
  rfl

theorem fresh_of_restarted
    (h : s.globalTimeoutMilliseconds = tickReading n) :
    Fresh n s := by
  have hlimit : ¬ timeoutMilliseconds ≤ 0 := by decide
  simp [Fresh, expired, h, hlimit]

theorem Fresh.congr
    (h : Fresh n s) (hsame : s'.globalTimeoutMilliseconds = s.globalTimeoutMilliseconds) :
    Fresh n s' := by
  unfold Fresh
  rw [hsame]
  exact h

/-- From any tick on there is one at which the timeout has not run out: this
one, or the next at which the counter shows the reading of its last restart. -/
theorem exists_fresh
    (t : Nat) (s : UnitState) :
    ∃ n, t ≤ n ∧ Fresh n s := by
  by_cases hfresh : Fresh t s
  · exact ⟨t, le_rfl, hfresh⟩
  · refine ⟨t + (s.globalTimeoutMilliseconds - tickReading t).toNat, Nat.le_add_right t _,
      fresh_of_restarted ?_⟩
    unfold tickReading
    rw [UInt32.ofNat_add, UInt32.ofNat_toNat, add_sub_cancel]

theorem run_eventsAt_snd
    (n : Nat) (es : List Event) (s : TimedState) :
    (run timedStep (eventsAt n es) s).2 = run step es s.2 := by
  induction es generalizing s with
  | nil => rfl
  | cons e es ih => exact ih (timedStep (e, n) s)

theorem cooperative_eventsAt
    {es : List Event} (ht : t ≤ n) (h : Along step (Calm n) es s) :
    Along timedStep Cooperative (eventsAt n es) (t, s) := by
  induction es generalizing t s with
  | nil => trivial
  | cons e es ih =>
      refine ⟨?_, ih le_rfl h.2⟩
      rcases h.1 with rfl | ⟨w, rfl, hanswer⟩
      · exact ⟨ht, fun _ _ _ => le_rfl, fun _ => le_rfl, rfl⟩
      · exact ⟨ht, hanswer⟩

theorem recovers_of_calm
    (ht : t ≤ n) (h : Reachable step (Calm n) s s') (hsync : Synchronised s') :
    Recovers (t, s) := by
  obtain ⟨es, hes, rfl⟩ := h
  refine ⟨_, ⟨eventsAt n es, cooperative_eventsAt ht hes, rfl⟩, ?_⟩
  rw [run_eventsAt_snd]
  exact hsync

end Standing

/-! ## The answers of a unit with a blank EEPROM -/

/-- A blank EEPROM. -/
def blank : Memory :=
  fun _ => 0

/-- A message that is read as a reply wherever it arrives. -/
structure Legible (w : List UInt8) : Prop where
  wellFormed : WellFormed w
  textless : Textless w
  short : w.length < uart1RxCacheSize

theorem Message.legible
    {msg : Message} {reply : Reply} (hreply : msg.reply = some reply)
    (htext : Textless msg.frame) :
    Legible msg.frame ∧ replyOf (ofBytes msg.frame ihm1TypeComand) = some reply := by
  rcases msg.verdict_frame with ⟨reply', hreply', -, hwf, hcommand⟩ | ⟨hnone, -⟩
  · rw [hreply] at hreply'
    cases hreply'
    exact ⟨⟨hwf, htext, msg.frame_bounds.2⟩, hcommand⟩
  · rw [hnone] at hreply
    cases hreply

theorem textless_readSectionReply
    (sec : EepromSection) :
    Textless (readSectionReply blank sec) := by
  apply textless_of_head (j := 6)
  · cases sec <;> decide +kernel
  · cases sec <;> decide +kernel

theorem textless_pollingBaseReply :
    Textless (pollingBaseReply blank .zero) := by
  apply textless_of_head (j := 4)
  · decide +kernel
  · decide +kernel

theorem textless_dataDebugReply :
    Textless (dataDebugReply Answer.zero.debug) := by
  apply textless_of_head (j := 4)
  · decide +kernel
  · decide +kernel

/-- The counter of a section that is written is the answer's, also zero. -/
theorem boardCounters_answeredImage
    (sec : EepromSection) (m : Memory) :
    boardCounters (answeredImage blank .zero (writeEepromRequest sec m)) = [0, 0, 0, 0] := by
  have hok : Answer.zero.result = writeAccepted := rfl
  have hzero : ∀ counted : CountedSection,
      answeredImage blank .zero (writeEepromRequest sec m) counted.cntUpdateAddress = 0 := by
    intro counted
    have hmem := cntUpdateAddress_mem_range counted
    unfold answeredImage
    rw [if_pos hok]
    by_cases hsec : counted.eepromSection = sec
    · subst hsec
      rw [writtenImage_self _ _ _ _ hmem, if_pos rfl]
      rfl
    · rw [writtenImage_other _ hsec _ _ hmem]
      rfl
  unfold boardCounters CountedSection.all
  simp only [List.map_cons, List.map_nil, hzero]

theorem textless_writeEepromReply
    (sec : EepromSection) {m : Memory} (hcounters : boardCounters m = [0, 0, 0, 0]) :
    Textless (writeEepromReply m (UInt8.ofNat sec.startAddress) (UInt8.ofNat sec.count)
      writeAccepted) := by
  unfold writeEepromReply
  rw [hcounters]
  apply textless_of_head (j := 7)
  · cases sec <;> decide +kernel
  · cases sec <;> decide +kernel

/-- The reply to a question. -/
def Question.reply : Question → Reply
  | read _ => .readEeprom
  | write _ _ => .writeEeprom
  | polling _ => .pollingBase
  | debug _ _ => .dataDebug

/-- Every question has an answer that is read as its reply. -/
theorem exists_answer_of_question
    (q : Question) :
    ∃ eeprom' w, boardAnswer blank .zero q.frame = some (eeprom', w) ∧ Legible w ∧
      replyOf (ofBytes w ihm1TypeComand) = some q.reply := by
  have htext : Textless (q.answered blank .zero).2.frame := by
    cases q with
    | read sec => exact textless_readSectionReply sec.eepromSection
    | write sec m => exact textless_writeEepromReply sec (boardCounters_answeredImage sec m)
    | polling device => exact textless_pollingBaseReply
    | debug b c => exact textless_dataDebugReply
  have hreply : (q.answered blank .zero).2.reply = some q.reply := by
    cases q <;> rfl
  exact ⟨_, _, boardAnswer_question blank .zero q, Message.legible hreply htext⟩

/-- So has every request of the handshake. -/
theorem exists_answer_of_awaited
    (a : Awaited) (device : DeviceIdentity) :
    ∃ eeprom' w, boardAnswer blank .zero (a.request device) = some (eeprom', w) ∧
      Legible w := by
  cases a with
  | read sec =>
      refine ⟨_, _, boardAnswer_readEeprom blank .zero sec, wellFormed_readSectionReply blank sec,
        textless_readSectionReply sec, ?_⟩
      have := sec.count_le
      rw [length_readSectionReply]
      simp only [uart1RxCacheSize]
      omega
  | polling =>
      obtain ⟨eeprom', w, hanswer, hlegible, -⟩ := exists_answer_of_question (.polling device)
      exact ⟨eeprom', w, hanswer, hlegible⟩

/-! ## The handshake -/

/-- How many states of the handshake are still to come. -/
def handshakeRank : ConnectState → Nat
  | .init => 11
  | .linkConnecting => 10
  | .trySerialLink => 9
  | .linkConnected => 8
  | .readEepromInfo => 7
  | .readEepromConfiguration => 6
  | .readEepromSettingPar => 5
  | .readEepromSetTemp => 4
  | .readEepromDayProg => 3
  | .readEepromHwSetting => 2
  | .pollingBase => 1
  | _ => 0

/-- The handshake, its timeout not run out. -/
structure Connecting (n : Nat) (s : UnitState) : Prop where
  wbm : s.wbmComState = .wbmCommunicating
  linking : Linking s
  fresh : Fresh n s
  aside : ¬ InBootloader s.currentState

section Handshake

variable {n : Nat} {s : UnitState}

theorem Connecting.linking_next
    (h : Connecting n s) :
    Linking (connectToUnit (standing n) s) :=
  linking_connectToUnit (standing n) h.linking (by rw [h.wbm]; decide)

theorem step_connecting
    (h : Connecting n s) :
    step (.iterate (standing n)) s = connectToUnit (standing n) s := by
  simp only [step, unitEventTask, h.wbm]

theorem handshakeRank_next
    {c : ConnectState} {st : SectionStep} (h : sectionStep c = some st) :
    handshakeRank st.next < handshakeRank c ∧ ¬ InBootloader st.next := by
  cases c <;> simp only [sectionStep, Option.some.injEq, reduceCtorEq] at h <;> subst h <;>
    exact ⟨Nat.lt_succ_self _, by decide⟩

/-- What the states that wait do with a reply. -/
theorem connectToUnit_awaited
    (inp : IterationInput) {a : Awaited} (ha : awaited s.currentState = some a) :
    ∃ reply, connectToUnit inp s = awaitReply inp reply s ∧
      ∀ s₁, (reply s₁).port = s₁.port ∧ (reply s₁).wbmComState = s₁.wbmComState ∧
        (reply s₁).globalTimeoutMilliseconds = inp.millis 2 ∧
        handshakeRank (reply s₁).currentState < handshakeRank s.currentState ∧
        ¬ InBootloader (reply s₁).currentState := by
  rcases sectionStep_of_awaited ha with ⟨st, hst, -⟩ | ⟨hstate, -⟩
  · obtain ⟨hrank, haside⟩ := handshakeRank_next hst
    refine ⟨_, connectToUnit_sectionStep inp hst, fun s₁ => ⟨?_, ?_, rfl, hrank, haside⟩⟩
    · exact (sectionReply_facts inp st s₁).2.1
    · unfold sectionReply
      cases st.request <;> rfl
  · refine ⟨pollingReply inp, ?_, fun s₁ => ⟨rfl, rfl, rfl, ?_, nofun⟩⟩
    · simp only [connectToUnit, hstate]
    · rw [hstate]
      exact Nat.zero_lt_one

/-- The states that read. -/
def Reading (c : ConnectState) : Prop :=
  c = .trySerialLink ∨ (awaited c).isSome

instance (c : ConnectState) : Decidable (Reading c) :=
  inferInstanceAs (Decidable (_ ∨ _))

/-- The request whose reply is read. -/
theorem Connecting.exists_answer
    (h : Connecting n s) (hreading : Reading s.currentState) :
    ∃ w, AnswersLast w s ∧ Legible w := by
  have hrequest : ∃ a : Awaited, lastRequest s = some (a.request s.device) := by
    rcases hreading with htry | hsome
    · exact ⟨.polling, (h.linking.trying htry).2⟩
    · obtain ⟨a, ha⟩ := Option.isSome_iff_exists.mp hsome
      exact ⟨a, h.linking.awaiting a ha⟩
  obtain ⟨a, hlast⟩ := hrequest
  obtain ⟨eeprom', w, hanswer, hlegible⟩ := exists_answer_of_awaited a s.device
  exact ⟨w, ⟨_, hlast, blank, .zero, eeprom', hanswer⟩, hlegible⟩

/-- What a state that reads does with a message, and without. -/
structure ReadOn (n : Nat) (s s' : UnitState) : Prop where
  port : s'.port = (readMessage s.port).2
  wbm : s'.wbmComState = .wbmCommunicating
  fresh : Fresh n s'
  aside : ¬ InBootloader s'.currentState
  stays : (readMessage s.port).1 ≤ runDownload → s'.currentState = s.currentState
  goesOn : runDownload < (readMessage s.port).1 →
    handshakeRank s'.currentState < handshakeRank s.currentState

theorem Connecting.readOn
    (h : Connecting n s) (hreading : Reading s.currentState)
    (hmode : (readMessage s.port).2.bootloaderMode = s.port.bootloaderMode) :
    ReadOn n s (connectToUnit (standing n) s) := by
  have hexp : ¬ expired (standing n) 0 s.globalTimeoutMilliseconds timeoutMilliseconds = true := by
    rw [h.fresh]
    decide
  rcases hreading with htry | hsome
  · have hboot : ¬ (readMessage s.port).2.bootloaderMode = true := by
      rw [hmode, (h.linking.looking (Or.inr (Or.inr (Or.inr htry)))).2]
      decide
    simp only [connectToUnit, htry]
    have hcase := trySerialLink_case (standing n) s
    generalize trySerialLink (standing n) s = s' at hcase ⊢
    cases hcase with
    | anew hlate _ => exact absurd hlate hexp
    | again hlate _ => exact absurd hlate hexp
    | read _ next hnext =>
        rw [if_neg hboot] at hnext
        split at hnext
        · rename_i hgt
          have haside : ¬ InBootloader .linkConnected := by
            decide
          subst hnext
          exact ⟨rfl, h.wbm, h.fresh, haside, fun hle => absurd hgt (not_lt.mpr hle),
            fun _ => htry ▸ Nat.lt_succ_self 8⟩
        · rename_i hgt
          subst hnext
          exact ⟨rfl, h.wbm, h.fresh, h.aside, fun _ => rfl, fun hlt => absurd hlt hgt⟩
  · obtain ⟨a, ha⟩ := Option.isSome_iff_exists.mp hsome
    obtain ⟨reply, heq, hreply⟩ := connectToUnit_awaited (standing n) ha
    rw [heq]
    have hcase := awaitReply_case (standing n) s reply
    generalize awaitReply (standing n) reply s = s' at hcase ⊢
    cases hcase with
    | lost hlate => exact absurd hlate hexp
    | replied _ hgt =>
        obtain ⟨hport, hwbm, htimeout, hrank, haside⟩ := hreply
          { s with valRet := (readMessage s.port).1, port := (readMessage s.port).2 }
        exact ⟨hport, hwbm.trans h.wbm, fresh_of_restarted htimeout, haside,
          fun hle => absurd hgt (not_lt.mpr hle), fun _ => hrank⟩
    | waiting _ hle =>
        exact ⟨rfl, h.wbm, h.fresh, h.aside, fun _ => rfl, fun hlt => absurd hlt (not_lt.mpr hle)⟩

/-- Calls of `Read_Message` that come to a message take the handshake on. -/
theorem exists_read
    {command : UInt8} {p : SerialPort} (hcomes : Comes command p)
    (hport : s.port = p) (h : Connecting n s) (hreading : Reading s.currentState) :
    ∃ s', Reachable step (Calm n) s s' ∧ Connecting n s' ∧ s'.port.rxClaimLen = 0 ∧
      handshakeRank s'.currentState < handshakeRank s.currentState := by
  induction hcomes generalizing s with
  | @now p hgt hcommand hmode hclaim =>
      subst hport
      have hread := h.readOn hreading hmode
      rw [← step_connecting h] at hread
      refine ⟨_, (Reachable.refl _ _).tail (Or.inl rfl), ⟨hread.wbm, ?_, hread.fresh, hread.aside⟩,
        ?_, hread.goesOn hgt⟩
      · rw [step_connecting h]
        exact h.linking_next
      · rw [hread.port]
        exact hclaim
  | @later p hle hmode hrest ih =>
      subst hport
      have hread := h.readOn hreading hmode
      rw [← step_connecting h] at hread
      have hstays := hread.stays hle
      have hnext : Connecting n (step (.iterate (standing n)) s) := by
        refine ⟨hread.wbm, ?_, hread.fresh, hread.aside⟩
        rw [step_connecting h]
        exact h.linking_next
      obtain ⟨s', hreach, hconnecting, hclaim, hrank⟩ :=
        ih hread.port hnext (hstays ▸ hreading)
      exact ⟨s', hreach.head (Or.inl rfl), hconnecting, hclaim, hstays ▸ hrank⟩

/-- Before the states that read, each iteration takes the handshake on. -/
theorem exists_begun
    (h : Connecting n s)
    (hearly : s.currentState = .init ∨ s.currentState = .linkConnecting ∨
      s.currentState = .linkConnected) :
    Connecting n (step (.iterate (standing n)) s) ∧
      (step (.iterate (standing n)) s).port = s.port ∧
      handshakeRank (step (.iterate (standing n)) s).currentState <
        handshakeRank s.currentState := by
  have hlinking := h.linking_next
  rw [step_connecting h]
  rcases hearly with hc | hc | hc
  · have haside : ¬ InBootloader .linkConnecting := by
      decide
    simp only [connectToUnit, hc] at hlinking ⊢
    exact ⟨⟨h.wbm, hlinking, fresh_of_restarted rfl, haside⟩, trivial, Nat.lt_succ_self 10⟩
  · obtain ⟨-, hnext, htimeout⟩ := linking_linkConnecting (standing n) h.linking hc
    have hport : (linkConnecting (standing n) s).port = s.port ∧
        (linkConnecting (standing n) s).wbmComState = s.wbmComState := by
      have hcase := linkConnecting_case (standing n) s
      generalize linkConnecting (standing n) s = s' at hcase ⊢
      cases hcase with
      | sent _ => exact ⟨rfl, rfl⟩
      | silent _ => exact ⟨rfl, rfl⟩
    simp only [connectToUnit, hc] at hlinking ⊢
    refine ⟨⟨hport.2.trans h.wbm, hlinking, fresh_of_restarted htimeout, ?_⟩, hport.1, ?_⟩
    · rw [hnext]
      decide
    · rw [hnext]
      exact Nat.lt_succ_self 9
  · have haside : ¬ InBootloader .readEepromInfo := by
      decide
    simp only [connectToUnit, hc] at hlinking ⊢
    exact ⟨⟨h.wbm, hlinking, fresh_of_restarted rfl, haside⟩, rfl, Nat.lt_succ_self 7⟩

/-- The last state of the handshake connects with no request outstanding. -/
theorem synchronised_of_connected
    (h : Connecting n s) (hstate : s.currentState = .connected) :
    Synchronised (step (.iterate (standing n)) s) := by
  have hflag := h.linking_next.flag
  rw [step_connecting h]
  refine ⟨?_, hflag⟩
  simp only [connectToUnit, hstate]
  exact (connected_timers (standing n) s).1

theorem ConnectState.cases_of_aside
    {c : ConnectState} (h : ¬ InBootloader c) :
    c = .connected ∨ Reading c ∨ c = .init ∨ c = .linkConnecting ∨ c = .linkConnected := by
  cases c <;> revert h <;> decide

/-- A handshake that can read comes to an end. -/
theorem exists_synchronised_of_connecting
    (h : Connecting n s)
    (hclaim : s.currentState = .connected ∨ s.port.rxClaimLen ≠ uart1RxCacheSize) :
    ∃ s', Reachable step (Calm n) s s' ∧ Synchronised s' := by
  refine exists_reachable_of_rank
    (fun k s => Connecting n s ∧ handshakeRank s.currentState = k ∧
      (s.currentState = .connected ∨ s.port.rxClaimLen ≠ uart1RxCacheSize))
    ?_ ⟨h, rfl, hclaim⟩
  rintro k s ⟨h, rfl, hclaim⟩
  by_cases hconnected : s.currentState = .connected
  · exact ⟨_, (Reachable.refl _ _).head (Or.inl rfl),
      Or.inl (synchronised_of_connected h hconnected)⟩
  have hclaim' : s.port.rxClaimLen ≠ uart1RxCacheSize := hclaim.resolve_left hconnected
  rcases (ConnectState.cases_of_aside h.aside).resolve_left hconnected with hreading | hearly
  · obtain ⟨w, hanswer, hlegible⟩ := h.exists_answer hreading
    have hcomes := comes_of_arrival h.linking.settled hclaim' hlegible.wellFormed
      hlegible.textless hlegible.short
    have harrived : Connecting n (step (.uartData w) s) := by
      obtain ⟨hsettled, hservices, hflag, hlooking, hretries, htrying, hawaiting⟩ := h.linking
      exact ⟨h.wbm, ⟨hsettled.uartEventTask w, hservices, hflag, hlooking, hretries, htrying,
        hawaiting⟩, h.fresh, h.aside⟩
    obtain ⟨s', hreach, hnext, hnone, hrank⟩ := exists_read hcomes rfl harrived hreading
    refine ⟨s', hreach.head (Or.inr ⟨w, rfl, hanswer⟩), Or.inr ⟨_, hrank, hnext, rfl, Or.inr ?_⟩⟩
    rw [hnone]
    decide
  · obtain ⟨hnext, hport, hrank⟩ := exists_begun h hearly
    refine ⟨_, (Reachable.refl _ _).head (Or.inl rfl), Or.inr ⟨_, hrank, hnext, rfl, Or.inr ?_⟩⟩
    rw [hport]
    exact hclaim'

end Handshake

/-! ## Once connected -/

/-- Connected, the timeout not run out. -/
structure Serving (n : Nat) (s : UnitState) : Prop where
  wbm : s.wbmComState = .wbmConnected
  waiting : Waiting s
  fresh : Fresh n s

/-- What is pending: a write is worth the four reads that its reply may ask for,
and itself. -/
def backlog (index : BitVec 16) : Nat :=
  5 * writesPending index + readsPending index

/-- What may be pending once a question has been answered. -/
def Question.load (index : BitVec 16) : Question → Nat
  | read _ => backlog index
  | debug _ _ => backlog index
  | write _ _ => 5 * writesPending index + 4
  | polling _ => 5 * writesPending index + 4

theorem backlog_le_load
    (index : BitVec 16) (q : Question) :
    backlog index ≤ q.load index := by
  have hreads := readsPending_le index
  cases q with
  | read sec => exact le_rfl
  | debug b c => exact le_rfl
  | write sec m => exact Nat.add_le_add_left hreads _
  | polling device => exact Nat.add_le_add_left hreads _

/-- The question is outstanding. -/
structure Asking (q : Question) (s : UnitState) : Prop where
  flag : s.eepromDataReceived = true
  last : lastRequest s = some q.frame

/-- No request is outstanding, or one with less load. -/
def Lightened (n load : Nat) (s : UnitState) : Prop :=
  Synchronised s ∨
    (Serving n s ∧ ∃ q : Question, Asking q s ∧ q.load s.readEepromRequestIndex < load)

section Serve

variable {n : Nat} {s : UnitState}

/-- While a request is outstanding, the stages before the reception change
nothing but the timers. -/
theorem Serving.beforeReceive
    (h : Serving n s) (hflag : s.eepromDataReceived = true) :
    Serving n (beforeReceive (standing n) s) ∧
      (beforeReceive (standing n) s).port = s.port ∧
      (beforeReceive (standing n) s).eepromDataReceived = true ∧
      (beforeReceive (standing n) s).readEepromRequestIndex = s.readEepromRequestIndex ∧
      lastRequest (beforeReceive (standing n) s) = lastRequest s := by
  have hwaiting : Waiting (UnitComm.beforeReceive (standing n) s) :=
    ((((h.waiting.stage (standing n) .unitUpdateTrigger).stage (standing n)
      .clampLastReceived).stage (standing n) .debugRequest).stage (standing n)
      .pollingRequest).stage (standing n) .globalTimeout
  have hfresh : Fresh n (afterRequests (standing n) s) := by
    rcases afterRequests_globalTimeoutMilliseconds (standing n) s with hsame | hnow | hnow
    · exact h.fresh.congr hsame
    · exact fresh_of_restarted hnow
    · exact fresh_of_restarted hnow
  have hkept : UnitComm.beforeReceive (standing n) s = afterRequests (standing n) s := by
    have hexp : expired (standing n) 11 (afterRequests (standing n) s).globalTimeoutMilliseconds
        timeoutMilliseconds = false := hfresh
    rw [beforeReceive_eq]
    unfold globalTimeout
    rw [hexp]
    rfl
  obtain ⟨-, -, -, htrigger, -, -, -⟩ := unitUpdateTrigger_link (standing n) s
  obtain ⟨hwbm, hindex, -⟩ := afterRequests_link (standing n) s
  have hquiet := sends_unitUpdateTrigger (standing n) s
  rw [hkept] at hwaiting ⊢
  rcases (requested_afterRequests (standing n) s).sent with ⟨hout, hsame⟩ | ⟨w, -, hdown, -, -⟩
  · refine ⟨⟨hwbm.trans h.wbm, hwaiting, hfresh⟩, (sameData_afterRequests _ s).port,
      hsame.trans (htrigger.trans hflag), hindex, ?_⟩
    exact lastRequest_of_silent (hquiet.of_silent (sends_of_outputs_eq hout))
  · rw [htrigger, hflag] at hdown
    cases hdown

theorem Serving.receive
    (h : Serving n s) :
    Serving n (receive (standing n) s) := by
  refine ⟨(sameControl_receive (standing n) s).wbmComState.trans h.wbm,
    h.waiting.receive (standing n), ?_⟩
  rcases receive_globalTimeoutMilliseconds (standing n) s with hsame | hnow
  · exact h.fresh.congr hsame
  · exact fresh_of_restarted hnow

theorem Serving.scheduler
    (h : Serving n s) :
    Serving n (scheduler (standing n) s) := by
  have hsame := sameButImage_scheduler (standing n) s
  exact ⟨hsame.wbmComState.trans h.wbm, h.waiting.scheduler (standing n),
    h.fresh.congr hsame.globalTimeoutMilliseconds⟩

/-- The reply to a question leaves at most its load pending, and so does an error. -/
theorem backlog_receive_le
    (inp : IterationInput) (q : Question)
    (hreply : receivedReply s = none ∨ receivedReply s = some q.reply) :
    backlog (receive inp s).readEepromRequestIndex ≤ q.load s.readEepromRequestIndex := by
  have hindex := receive_index inp s
  have hwrites : writesPending (UnitComm.receive inp s).readEepromRequestIndex ≤
      writesPending s.readEepromRequestIndex :=
    writesPending_mono fun k hk hset => receive_index_le inp s hk hset
  have hreads := readsPending_le (UnitComm.receive inp s).readEepromRequestIndex
  have hkept : readsAsked s = 0 →
      backlog (UnitComm.receive inp s).readEepromRequestIndex ≤
        q.load s.readEepromRequestIndex := by
    intro hnone
    have hsame : s.readEepromRequestIndex ||| readsAsked s = s.readEepromRequestIndex := by
      rw [hnone]
      exact BitVec.or_zero
    rw [hindex, hsame]
    exact backlog_le_load _ q
  rcases hreply with hnone | hsome
  · apply hkept
    unfold readsAsked
    rw [hnone]
  · cases q with
    | read sec =>
        apply hkept
        unfold readsAsked
        rw [hsome]
        rfl
    | debug b c =>
        apply hkept
        unfold readsAsked
        rw [hsome]
        rfl
    | write sec m => exact Nat.add_le_add (Nat.mul_le_mul_left 5 hwrites) hreads
    | polling device => exact Nat.add_le_add (Nat.mul_le_mul_left 5 hwrites) hreads

/-- The scheduler sends one of the requests that are pending, if any. -/
theorem Serving.scheduled
    (h : Serving n s) (hdown : s.eepromDataReceived = false) :
    Lightened n (backlog s.readEepromRequestIndex) (UnitComm.scheduler (standing n) s) := by
  rcases scheduler_cases (standing n) s with ⟨hsame, -⟩ | ⟨bit, mask, service, -, hnext, hrun⟩
  · left
    rw [hsame]
    exact ⟨h.wbm, hdown⟩
  · refine Or.inr ⟨h.scheduler, ?_⟩
    have hindex : (UnitComm.scheduler (standing n) s).readEepromRequestIndex =
        s.readEepromRequestIndex &&& mask := by
      rw [hrun, ← (sendService_image (standing n) s service).2]
      rfl
    have hup : (UnitComm.scheduler (standing n) s).eepromDataReceived = true := by
      rw [hrun]
    have hlast : ∀ q : Question, serviceFrames service s.gRDEeprom = [q.frame] →
        lastRequest (UnitComm.scheduler (standing n) s) = some q.frame := by
      intro q hframes
      apply lastRequest_of_sends
      rw [← hframes, hrun]
      exact (sends_sendService (standing n) s service).then_silent (sends_of_outputs_eq rfl)
    have hmasked : ∀ k, (s.readEepromRequestIndex &&& mask).getLsbD k = true →
        s.readEepromRequestIndex.getLsbD k = true := by
      intro k hset
      rw [BitVec.getLsbD_and, Bool.and_eq_true] at hset
      exact hset.1
    have hreads := readsPending_mono (fun k _ => hmasked k)
    have hwrites := writesPending_mono (fun k _ => hmasked k)
    rcases question_of_service h.waiting.services hnext s.gRDEeprom with
      ⟨sec, rfl, hframes⟩ | ⟨sec, rfl, hframes⟩
    · have hpaid := pending_nextService_read hnext
      refine ⟨.read sec, ⟨hup, hlast _ hframes⟩, ?_⟩
      rw [hindex]
      exact (by omega : 5 * writesPending (s.readEepromRequestIndex &&& mask) +
        readsPending (s.readEepromRequestIndex &&& mask) <
          5 * writesPending s.readEepromRequestIndex + readsPending s.readEepromRequestIndex)
    · have hpaid := pending_nextService_write hnext
      refine ⟨.write sec s.gRDEeprom, ⟨hup, hlast _ hframes⟩, ?_⟩
      rw [hindex]
      exact (by omega : 5 * writesPending (s.readEepromRequestIndex &&& mask) + 4 <
        5 * writesPending s.readEepromRequestIndex + readsPending s.readEepromRequestIndex)

theorem step_serving
    (h : Serving n s) :
    step (.iterate (standing n)) s =
      UnitComm.scheduler (standing n)
        (UnitComm.receive (standing n) (UnitComm.beforeReceive (standing n) s)) :=
  unitEventTask_connected (standing n) h.wbm

variable {q : Question}

/-- A reply or an error ends the wait, and what was pending is sent. -/
theorem Serving.ended
    (h : Serving n s) (hasking : Asking q s)
    (hends : (readMessage s.port).1 < 0 ∨
      runDownload < (readMessage s.port).1 ∧
        replyOf ((readMessage s.port).2.buffSer1 ihm1TypeComand) = some q.reply) :
    Lightened n (q.load s.readEepromRequestIndex) (step (.iterate (standing n)) s) := by
  obtain ⟨hbefore, hport, -, hindex, -⟩ := h.beforeReceive hasking.flag
  rw [step_serving h, ← hindex]
  rw [← hport] at hends
  generalize UnitComm.beforeReceive (standing n) s = s₁ at *
  have hclears : clearingMessage s₁ = true ∧
      (receivedReply s₁ = none ∨ receivedReply s₁ = some q.reply) := by
    unfold clearingMessage receivedReply
    dsimp only
    rcases hends with hneg | ⟨hgt, hreply⟩
    · have hle := not_lt.mpr (le_runDownload_of_neg hneg)
      rw [if_neg hle, if_neg hle]
      exact ⟨decide_eq_true hneg, Or.inl rfl⟩
    · rw [if_pos hgt, if_pos hgt, hreply]
      exact ⟨rfl, Or.inr rfl⟩
  have hdown : (UnitComm.receive (standing n) s₁).eepromDataReceived = false := by
    have hstep := flagStep_receive (standing n) (s := s₁)
    rw [hclears.1] at hstep
    cases hstep with
    | cleared hsend hdown => exact hdown
  have hbacklog := backlog_receive_le (standing n) q hclears.2
  rcases hbefore.receive.scheduled hdown with hsync | ⟨hnext, q', hasking', hlt⟩
  · exact Or.inl hsync
  · exact Or.inr ⟨hnext, q', hasking', hlt.trans_le hbacklog⟩

/-- While a request is outstanding the scheduler does nothing. -/
theorem scheduler_of_outstanding
    (inp : IterationInput) (hflag : s.eepromDataReceived = true) :
    scheduler inp s = s := by
  rcases scheduler_cases inp s with ⟨hidle, -⟩ | ⟨bit, mask, service, hdown, -, -⟩
  · exact hidle
  · rw [hflag] at hdown
    cases hdown

/-- Without a message the wait goes on. -/
theorem Serving.waited
    (h : Serving n s) (hasking : Asking q s)
    (hle : (readMessage s.port).1 ≤ runDownload) (hnonneg : 0 ≤ (readMessage s.port).1) :
    Serving n (step (.iterate (standing n)) s) ∧
      Asking q (step (.iterate (standing n)) s) ∧
      (step (.iterate (standing n)) s).port = (readMessage s.port).2 ∧
      (step (.iterate (standing n)) s).readEepromRequestIndex = s.readEepromRequestIndex := by
  obtain ⟨hbefore, hport, hup, hindex, hsame⟩ := h.beforeReceive hasking.flag
  rw [step_serving h]
  generalize UnitComm.beforeReceive (standing n) s = s₁ at *
  rw [← hport] at hle hnonneg ⊢
  have hreceive := receive_nothing (standing n) hle hnonneg
  have hlast := (lastRequest_of_silent (sends_receive (standing n) s₁)).trans hsame
  have hreceived := hbefore.receive
  have hup' : (UnitComm.receive (standing n) s₁).eepromDataReceived = true := by
    rw [hreceive]
    exact hup
  rw [scheduler_of_outstanding (standing n) hup']
  refine ⟨hreceived, ⟨hup', hlast.trans hasking.last⟩, ?_, ?_⟩
  · rw [hreceive]
  · rw [hreceive]
    exact hindex

/-- Calls of `Read_Message` that come to the reply, or to an error, end the wait. -/
theorem exists_ended
    {command : UInt8} {p : SerialPort} (hends : Ends command p)
    (hport : s.port = p) (h : Serving n s) (hasking : Asking q s)
    (hcommand : replyOf command = some q.reply) :
    ∃ s', Reachable step (Calm n) s s' ∧ Lightened n (q.load s.readEepromRequestIndex) s' := by
  induction hends generalizing s with
  | @replied p hgt hcommand' =>
      subst hport
      rw [← hcommand'] at hcommand
      exact ⟨_, (Reachable.refl _ _).head (Or.inl rfl), h.ended hasking (Or.inr ⟨hgt, hcommand⟩)⟩
  | @rejected p hneg =>
      subst hport
      exact ⟨_, (Reachable.refl _ _).head (Or.inl rfl), h.ended hasking (Or.inl hneg)⟩
  | @later p hle hnonneg hrest ih =>
      subst hport
      obtain ⟨hnext, hasking', hport', hindex⟩ := h.waited hasking hle hnonneg
      obtain ⟨s', hreach, hlight⟩ := ih hport' hnext hasking'
      exact ⟨s', hreach.head (Or.inl rfl), hindex ▸ hlight⟩

/-- The answer to what is asked can arrive, or a claim that fills the cache is
dismissed; either ends the wait. -/
theorem Serving.exists_lightened
    (h : Serving n s) (hasking : Asking q s) :
    ∃ s', Reachable step (Calm n) s s' ∧ Lightened n (q.load s.readEepromRequestIndex) s' := by
  obtain ⟨eeprom', w, hanswer, hlegible, hcommand⟩ := exists_answer_of_question q
  have hsettled := h.waiting.settled
  by_cases hfull : s.port.rxClaimLen = uart1RxCacheSize
  · exact exists_ended (ends_of_full hsettled hfull _) rfl h hasking hcommand
  · have hcomes := comes_of_arrival hsettled hfull hlegible.wellFormed hlegible.textless
      hlegible.short
    have harrived : Serving n (step (.uartData w) s) :=
      ⟨h.wbm, ⟨hsettled.uartEventTask w, h.waiting.services, h.waiting.asked⟩, h.fresh⟩
    have hasking' : Asking q (step (.uartData w) s) := ⟨hasking.flag, hasking.last⟩
    obtain ⟨s', hreach, hlight⟩ := exists_ended hcomes.ends rfl harrived hasking' hcommand
    exact ⟨s', hreach.head (Or.inr ⟨w, rfl, _, hasking.last, blank, .zero, eeprom', hanswer⟩),
      hlight⟩

/-- A connected task comes to have no request outstanding. -/
theorem exists_synchronised_of_serving
    (h : Serving n s) :
    ∃ s', Reachable step (Calm n) s s' ∧ Synchronised s' := by
  cases hflag : s.eepromDataReceived with
  | false => exact ⟨s, Reachable.refl _ _, h.wbm, hflag⟩
  | true =>
      obtain ⟨q, hlast⟩ := h.waiting.asked hflag
      refine exists_reachable_of_rank
        (fun k s => Serving n s ∧
          ∃ q : Question, Asking q s ∧ q.load s.readEepromRequestIndex = k)
        ?_ ⟨h, q, ⟨hflag, hlast⟩, rfl⟩
      rintro k s ⟨h, q, hasking, rfl⟩
      obtain ⟨s', hreach, hsync | ⟨hnext, q', hasking', hlt⟩⟩ := h.exists_lightened hasking
      · exact ⟨s', hreach, Or.inl hsync⟩
      · exact ⟨s', hreach, Or.inr ⟨_, hlt, hnext, q', hasking', rfl⟩⟩

end Serve

/-! ## The states that do not recover -/

/-- The task has given up, or has a claim before the connection that fills the
cache. -/
def Stuck (s : UnitState) : Prop :=
  s.wbmComState = .wbmError ∨
    (Settled s.port ∧ s.port.rxClaimLen = uart1RxCacheSize ∧
      (s.wbmComState = .wbmInitialize ∨
        (s.wbmComState = .wbmCommunicating ∧ s.currentState ≠ .connected)))

section Stuckness

variable {s : UnitState}

/-- A claim that fills the cache stays, and the connection is not reached. -/
theorem connectToUnit_full
    (inp : IterationInput) (hsettled : Settled s.port)
    (hfull : s.port.rxClaimLen = uart1RxCacheSize) (hstate : s.currentState ≠ .connected) :
    (connectToUnit inp s).port.rxClaimLen = uart1RxCacheSize ∧
      ((connectToUnit inp s).wbmComState = .wbmError ∨
        (connectToUnit inp s).currentState ≠ .connected) := by
  obtain ⟨hclaim, -, -, -, -, hle⟩ := readMessage_full hsettled hfull
  constructor
  · rcases readOnce_connectToUnit inp s with hsame | ⟨ack, hread⟩
    · rw [hsame]
      exact hfull
    · rw [hread]
      exact hclaim
  · cases ha : awaited s.currentState with
    | some a =>
        obtain ⟨reply, heq, -⟩ := connectToUnit_awaited inp ha
        rw [heq]
        rcases awaitReply_cases inp reply s with hlost | ⟨-, hstays⟩ | ⟨hgt, -, -⟩
        · exact Or.inl hlost
        · rw [hstays]
          exact Or.inr hstate
        · exact absurd hgt (not_lt.mpr hle)
    | none =>
        right
        by_cases hlink : s.currentState = .linkConnected
        · simp only [connectToUnit, hlink]
          exact (by decide : ConnectState.readEepromInfo ≠ .connected)
        · exact (connectToUnit_elsewhere inp (elsewhere_of_awaited ha hstate) hlink).2.2

theorem stuck_iterate
    (inp : IterationInput) (h : Stuck s) :
    Stuck (unitEventTask inp s) := by
  rcases h with herror | ⟨hsettled, hfull, hinit | ⟨hcomm, hstate⟩⟩
  · simp only [unitEventTask, herror]
    exact Or.inl rfl
  · have hnext : ConnectState.init ≠ .connected := by
      decide
    simp only [unitEventTask, hinit]
    exact Or.inr ⟨hsettled, hfull, Or.inr ⟨rfl, hnext⟩⟩
  · have hs : s.wbmComState ≠ .wbmInitialize := by
      rw [hcomm]
      decide
    obtain ⟨hclaim, hnext⟩ := connectToUnit_full inp hsettled hfull hstate
    have hconnected := (handshakeTimers_connectToUnit inp hcomm).connected
    have hstarted := connectToUnit_ne_initial inp s hs
    have hsettled' := settled_connectToUnit inp hsettled
    simp only [unitEventTask, hcomm]
    cases hwbm : (connectToUnit inp s).wbmComState with
    | wbmInitialize => exact absurd hwbm hstarted
    | wbmCommunicating =>
        refine Or.inr ⟨hsettled', hclaim, Or.inr ⟨hwbm, hnext.resolve_left ?_⟩⟩
        rw [hwbm]
        decide
    | wbmConnected => exact absurd (hconnected hwbm).1 hstate
    | wbmError => exact Or.inl hwbm

theorem stuck_step
    (e : Event) (s : UnitState) (h : Stuck s) :
    Stuck (step e s) := by
  by_cases he : ∃ inp, e = .iterate inp
  · obtain ⟨inp, rfl⟩ := he
    exact stuck_iterate inp h
  · have he' : ∀ inp, e ≠ .iterate inp := fun inp heq => he ⟨inp, heq⟩
    obtain ⟨-, -, hwbm, -⟩ := step_around he' s
    have hlink := sameLink_around he' s
    unfold Stuck
    rw [hwbm, hlink.currentState, hlink.rxClaimLen]
    exact h.imp_right fun hrest => ⟨hlink.settled hrest.1, hrest.2⟩

theorem not_recovers_of_stuck
    {s : TimedState} (h : Stuck s.2) :
    ¬ Recovers s := by
  rintro ⟨s', hreach, hsync⟩
  have hstep : ∀ (e : TimedEvent) (s : TimedState),
      Cooperative e s → Stuck s.2 → Stuck (timedStep e s).2 :=
    fun e s _ hs => stuck_step e.1 s.2 hs
  have hstuck : Stuck s'.2 := hreach.invariant hstep h
  rcases hstuck with herror | ⟨-, -, hinit | ⟨hcomm, -⟩⟩
  · rw [hsync.1] at herror
    cases herror
  · rw [hsync.1] at hinit
    cases hinit
  · rw [hsync.1] at hcomm
    cases hcomm

end Stuckness

/-! ## Every reachable state -/

theorem stuck_of_not_recoverable
    {s : UnitState} (h : Attentive s) (hnot : ¬ Recoverable s) :
    Stuck s := by
  cases hwbm : s.wbmComState with
  | wbmError => exact Or.inl hwbm
  | wbmConnected =>
      exact absurd ⟨by rw [hwbm]; decide, fun _ => Or.inl hwbm⟩ hnot
  | wbmInitialize =>
      have hfull : s.port.rxClaimLen = uart1RxCacheSize := by
        by_contra hne
        exact hnot ⟨by rw [hwbm]; decide, fun hfull => absurd hfull hne⟩
      exact Or.inr ⟨(h.linking (Or.inl hwbm)).settled, hfull, Or.inl hwbm⟩
  | wbmCommunicating =>
      have hfull : s.port.rxClaimLen = uart1RxCacheSize := by
        by_contra hne
        exact hnot ⟨by rw [hwbm]; decide, fun hfull => absurd hfull hne⟩
      refine Or.inr ⟨(h.linking (Or.inr hwbm)).settled, hfull, Or.inr ⟨hwbm, fun hstate => ?_⟩⟩
      exact hnot ⟨by rw [hwbm]; decide, fun _ => Or.inr ⟨hwbm, hstate⟩⟩

/-- Starting up, the handshake begins. -/
theorem connecting_of_initialize
    {n : Nat} {s : UnitState} (h : Attentive s) (hwbm : s.wbmComState = .wbmInitialize)
    (hfresh : Fresh n s) :
    Connecting n (step (.iterate (standing n)) s) ∧
      (step (.iterate (standing n)) s).port = s.port := by
  have hnext := attentive_iterate (standing n) h
  have heq : step (.iterate (standing n)) s = unitEventTask (standing n) s := rfl
  have haside : ¬ InBootloader .init := by
    decide
  rw [heq]
  simp only [unitEventTask, hwbm] at hnext ⊢
  exact ⟨⟨rfl, hnext.linking (Or.inr rfl), hfresh, haside⟩, rfl⟩

/-- While the timeout has not run out the clock need not move. -/
theorem exists_synchronised
    {n : Nat} {s : UnitState} (h : Attentive s) (hrec : Recoverable s)
    (haside : ¬ InBootloader s.currentState) (hfresh : Fresh n s) :
    ∃ s', Reachable step (Calm n) s s' ∧ Synchronised s' := by
  obtain ⟨hne, hclaim⟩ := hrec
  cases hwbm : s.wbmComState with
  | wbmError => exact absurd hwbm hne
  | wbmConnected => exact exists_synchronised_of_serving ⟨hwbm, h.waiting hwbm, hfresh⟩
  | wbmCommunicating =>
      refine exists_synchronised_of_connecting ⟨hwbm, h.linking (Or.inr hwbm), hfresh, haside⟩ ?_
      by_cases hfull : s.port.rxClaimLen = uart1RxCacheSize
      · rcases hclaim hfull with hconn | ⟨-, hstate⟩
        · rw [hwbm] at hconn
          cases hconn
        · exact Or.inl hstate
      · exact Or.inr hfull
  | wbmInitialize =>
      have hnone : s.port.rxClaimLen ≠ uart1RxCacheSize := by
        intro hfull
        rcases hclaim hfull with hconn | ⟨hcomm, -⟩
        · rw [hwbm] at hconn
          cases hconn
        · rw [hwbm] at hcomm
          cases hcomm
      obtain ⟨hconnecting, hport⟩ := connecting_of_initialize h hwbm hfresh
      obtain ⟨s', hreach, hsync⟩ :=
        exists_synchronised_of_connecting hconnecting (Or.inr (hport.symm ▸ hnone))
      exact ⟨s', hreach.head (Or.inl rfl), hsync⟩

section Links

variable (device : DeviceIdentity) (firmwareBin : Option (List UInt8)) (partitionState : Bool)
variable (t₀ : Nat) (es : List TimedEvent)

theorem attentive_timedRun :
    Attentive (run timedStep es (timedBoot device firmwareBin partitionState t₀)).2 := by
  have hstep : ∀ (e : TimedEvent) (s : TimedState),
      True → Attentive s.2 → Attentive (timedStep e s).2 :=
    fun e s _ hs => attentive_step e.1 s.2 hs
  exact Along.invariant hstep (Along.of_forall fun _ _ => trivial)
    (attentive_boot device firmwareBin partitionState (tickReading t₀))

/-- From a reachable state outside the firmware transfer the unit's answers can
lead to a connection with no request outstanding exactly if the task has not
given up and its receiver is not full before the connection.  If the timeout has
not run out, the clock need not move; otherwise it has to come round. -/
theorem link_recovers_iff
    (haside : ¬ InBootloader
      (run timedStep es (timedBoot device firmwareBin partitionState t₀)).2.currentState) :
    let s := run timedStep es (timedBoot device firmwareBin partitionState t₀)
    (Recovers s ↔ Recoverable s.2) ∧
      (Recoverable s.2 → Fresh s.1 s.2 →
        ∃ s', Reachable step (Calm s.1) s.2 s' ∧ Synchronised s') := by
  intro s
  have hattentive := attentive_timedRun device firmwareBin partitionState t₀ es
  refine ⟨⟨fun hrecovers => ?_, fun hrec => ?_⟩, fun hrec hfresh => ?_⟩
  · by_contra hnot
    exact not_recovers_of_stuck (stuck_of_not_recoverable hattentive hnot) hrecovers
  · obtain ⟨n, ht, hfresh⟩ := exists_fresh s.1 s.2
    obtain ⟨s', hreach, hsync⟩ := exists_synchronised hattentive hrec haside hfresh
    exact recovers_of_calm ht hreach hsync
  · exact exists_synchronised hattentive hrec haside hfresh

/-- A gateway that has found its unit and asked for the first section. -/
def firstSectionAsked : TimedState :=
  run timedStep (eventsAt 0 untilReadEepromInfo) (timedBoot .zeroMac none false 0)

theorem firstSectionAsked_recovers :
    Recovers firstSectionAsked :=
  ((link_recovers_iff .zeroMac none false 0 (eventsAt 0 untilReadEepromInfo)
    (by decide +kernel)).1.mpr (by decide +kernel))

/-- If the first section does not arrive for fifteen seconds, the task gives up
for good, though the link has been found. -/
theorem handshake_timeout_not_recovers :
    let s := timedStep (iterateAt 15000, 15000) firstSectionAsked
    s.2.foundComLink = true ∧ ¬ InBootloader s.2.currentState ∧ ¬ Recovers s := by
  have hlost : (timedStep (iterateAt 15000, 15000) firstSectionAsked).2.wbmComState =
      .wbmError := by
    decide +kernel
  exact ⟨by decide +kernel, by decide +kernel, not_recovers_of_stuck (Or.inl hlost)⟩

end Links

end UnitComm
end AvensysEsp32
