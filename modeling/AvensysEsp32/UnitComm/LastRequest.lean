import AvensysEsp32.UnitComm.Quiescence
import AvensysEsp32.Serial.Arrival

/-!
# The request that was sent last

In every state that waits for the unit the request sent last is the one that is
waited for: a polling request while the link is tried, the request of each
state of the handshake, and once connected any request of the timers or the
scheduler.  Until the link is found the bootloader has not been named.
-/

namespace AvensysEsp32
namespace UnitComm

open Foundation Serial

/-- The message that was handed to `Uart_Write` last. -/
def lastRequest (s : UnitState) : Option (List UInt8) :=
  (uartWrites s.outputs).getLast?

theorem lastRequest_of_silent
    {s s' : UnitState} (h : Sends [] s s') :
    lastRequest s' = lastRequest s := by
  unfold lastRequest
  rw [h.uartWrites_eq]

theorem lastRequest_of_sends
    {s s' : UnitState} {w : List UInt8} (h : Sends [w] s s') :
    lastRequest s' = some w := by
  unfold lastRequest
  rw [h]
  exact List.getLast?_concat

/-! ## Once connected -/

/-- A reply that is waited for is the reply to the request sent last. -/
structure Waiting (s : UnitState) : Prop where
  settled : Settled s.port
  services : NoSilentService s.readEepromRequestIndex
  asked : s.eepromDataReceived = true → ∃ q : Question, lastRequest s = some q.frame

/-- The request of a service is a question: a read or a write. -/
theorem question_of_service
    {index bit mask : BitVec 16} {service : Service}
    (hservices : NoSilentService index) (hnext : nextService index = some (bit, mask, service))
    (m : Memory) :
    (∃ sec : CountedSection, service = .read sec.eepromSection ∧
        serviceFrames service m = [(Question.read sec).frame]) ∨
      ∃ sec, service = .write sec ∧ serviceFrames service m = [(Question.write sec m).frame] := by
  obtain ⟨w, hframes⟩ := hservices.serviceFrames hnext m
  cases service with
  | read sec =>
      obtain ⟨counted, rfl⟩ := counted_of_nextService hnext
      exact Or.inl ⟨counted, rfl, rfl⟩
  | write sec =>
      have hpending := writePending_of_nextService hnext
      exact Or.inr ⟨sec, rfl, serviceFrames_write (ne_configuration_of_pending hpending) m⟩
  | nothing => cases hframes

section Stages

variable (inp : IterationInput) {s : UnitState}

/-- A stage that sends at most the request of a timer. -/
theorem Waiting.requested
    {frames : List (List UInt8)} {s' : UnitState}
    (h : Waiting s) (hdata : SameData s s') (hstage : Requested frames s s')
    (hframes : ∀ w ∈ frames, ∃ q : Question, q.frame = w) :
    Waiting s' := by
  refine ⟨hdata.port ▸ h.settled, hstage.index ▸ h.services, fun hflag => ?_⟩
  rcases hstage.sent with ⟨hout, hsame⟩ | ⟨w, hw, -, -, hout⟩
  · rw [lastRequest_of_silent (sends_of_outputs_eq hout)]
    exact h.asked (hsame.symm.trans hflag)
  · obtain ⟨q, rfl⟩ := hframes w hw
    exact ⟨q, lastRequest_of_sends (sends_of_append hout)⟩

theorem settled_receive
    (h : Settled s.port) :
    Settled (receive inp s).port := by
  have hread := h.readMessage
  have hcase := receive_case inp s
  generalize receive inp s = s' at hcase
  cases hcase with
  | @reply reply hgt hreply =>
      obtain ⟨published, -, heq⟩ := handleReply_eq inp
        { s with
          valRet := (readMessage s.port).1
          port := (readMessage s.port).2
          globalTimeoutMilliseconds := inp.millis 13 } reply
      rw [heq]
      unfold parseReply
      cases reply with
      | pollingBase =>
          dsimp only
          rw [pollingBaseDataParse_eq]
          exact hread
      | dataDebug => exact hread
      | readEeprom => exact hread
      | writeEeprom =>
          dsimp only
          rw [writeEepromDataParse_eq]
          exact hread
  | unknown hgt hnone => exact hread
  | rejected hneg =>
      exact ⟨hread.unread, hread.availableFits, hread.claimFits, hread.pointer, hread.tail,
        hread.announced⟩
  | nothing hle hnonneg => exact hread

theorem Waiting.receive
    (h : Waiting s) :
    Waiting (receive inp s) := by
  refine ⟨settled_receive inp h.settled, h.services.stage inp .receive, fun hflag => ?_⟩
  rw [lastRequest_of_silent (sends_receive inp s)]
  have hstep := flagStep_receive inp (s := s)
  cases hstep' : clearingMessage s with
  | true =>
      rw [hstep'] at hstep
      cases hstep with
      | cleared hsend hdown =>
          rw [hdown] at hflag
          cases hflag
  | false =>
      rw [hstep'] at hstep
      cases hstep with
      | silent hsend hsame => exact h.asked (hsame.symm.trans hflag)
      | requested w hsend hbefore hafter =>
          have hnone := (sends_receive inp s).uartWrites_eq
          rw [hsend] at hnone
          simp at hnone
      | lost hsend hdown hlost =>
          rw [hdown] at hflag
          cases hflag

theorem Waiting.scheduler
    (h : Waiting s) :
    Waiting (scheduler inp s) := by
  refine ⟨?_, h.services.stage inp .scheduler, fun hflag => ?_⟩
  · rw [(sameButImage_scheduler inp s).port]
    exact h.settled
  · rcases scheduler_cases inp s with ⟨hsame, -⟩ | ⟨bit, mask, service, -, hnext, hrun⟩
    · rw [hsame] at hflag ⊢
      exact h.asked hflag
    · have hq : ∃ q : Question, serviceFrames service s.gRDEeprom = [q.frame] := by
        rcases question_of_service h.services hnext s.gRDEeprom with
          ⟨sec, -, hframes⟩ | ⟨sec, -, hframes⟩
        · exact ⟨_, hframes⟩
        · exact ⟨_, hframes⟩
      obtain ⟨q, hframes⟩ := hq
      have hsend : Sends [q.frame] s (UnitComm.scheduler inp s) := by
        rw [← hframes, hrun]
        exact (sends_sendService inp s service).then_silent
          (sends_clientWrites (sendService inp service s) inp.duringTx)
      exact ⟨q, lastRequest_of_sends hsend⟩

/-- Every stage of an iteration keeps the last request. -/
theorem Waiting.stage
    (h : Waiting s) (stage : IterationStage) :
    Waiting (stage.run inp s) := by
  cases stage with
  | unitUpdateTrigger =>
      obtain ⟨-, hindex, -, hflag, -⟩ := unitUpdateTrigger_link inp s
      refine ⟨(sameData_unitUpdateTrigger inp s).port ▸ h.settled, hindex ▸ h.services,
        fun hup => ?_⟩
      rw [IterationStage.run, lastRequest_of_silent (sends_unitUpdateTrigger inp s)]
      exact h.asked (hflag.symm.trans hup)
  | clampLastReceived =>
      exact h.requested (sameData_clampLastReceived inp s) (requested_clampLastReceived inp s)
        fun w hw => absurd hw List.not_mem_nil
  | debugRequest =>
      refine h.requested (sameData_debugRequest inp s) (requested_debugRequest inp s)
        fun w hw => ?_
      rw [List.mem_singleton.mp hw, comSendRequestDataDebug_eq]
      exact ⟨.debug _ _, rfl⟩
  | pollingRequest =>
      refine h.requested (sameData_pollingRequest inp s) (requested_pollingRequest inp s)
        fun w hw => ?_
      rw [List.mem_singleton.mp hw, comSendRequestPollingBase_eq]
      exact ⟨.polling s.device, rfl⟩
  | globalTimeout =>
      simp only [IterationStage.run, globalTimeout]
      split
      · exact ⟨h.settled, fun k _ _ => BitVec.getLsbD_zero,
          fun hflag => absurd hflag Bool.false_ne_true⟩
      · exact h
  | receive => exact h.receive inp
  | scheduler => exact h.scheduler inp

theorem Waiting.connectedIteration
    (h : Waiting s) :
    Waiting (connectedIteration inp s) :=
  ((((((h.stage inp .unitUpdateTrigger).stage inp .clampLastReceived).stage inp
    .debugRequest).stage inp .pollingRequest).stage inp .globalTimeout).stage inp
    .receive).stage inp .scheduler

end Stages

/-! ## Before the connection -/

/-- The states that look for the unit. -/
def Looking (c : ConnectState) : Prop :=
  c = .init ∨ c = .linkConnecting ∨ c = .trySerialLink

instance (c : ConnectState) : Decidable (Looking c) :=
  inferInstanceAs (Decidable (_ ∨ _))

/-- The states of the firmware transfer. -/
def InBootloader (c : ConnectState) : Prop :=
  c = .bootloaderState ∨ c = .bootloaderState1 ∨ c = .bootloaderStateEnd

instance (c : ConnectState) : Decidable (InBootloader c) :=
  inferInstanceAs (Decidable (_ ∨ _))

/-- What is asked for in each state of the handshake. -/
structure Linking (s : UnitState) : Prop where
  settled : Settled s.port
  services : NoSilentService s.readEepromRequestIndex
  flag : s.eepromDataReceived = false
  looking : s.wbmComState = .wbmInitialize ∨ Looking s.currentState →
    s.foundComLink = false ∧ s.port.bootloaderMode = false
  retries : s.currentState = .linkConnecting → s.retriesCounter < 2
  trying : s.currentState = .trySerialLink →
    s.retriesCounter ≤ 2 ∧ lastRequest s = some (pollingBaseRequest s.device)
  awaiting : ∀ a, awaited s.currentState = some a → lastRequest s = some (a.request s.device)

/-- Before the first state of the handshake nothing has been asked for. -/
theorem linking_of_init
    {s : UnitState} (hstate : s.currentState = .init) (hsettled : Settled s.port)
    (hservices : NoSilentService s.readEepromRequestIndex) (hflag : s.eepromDataReceived = false)
    (hlooking : s.foundComLink = false ∧ s.port.bootloaderMode = false) :
    Linking s := by
  refine ⟨hsettled, hservices, hflag, fun _ => hlooking, ?_, ?_, ?_⟩
  · rw [hstate]
    rintro ⟨⟩
  · rw [hstate]
    rintro ⟨⟩
  · rw [hstate]
    rintro a ⟨⟩

/-- What the states change in the link and the receiver. -/
structure LinkKept (s s' : UnitState) : Prop where
  settled : Settled s.port → Settled s'.port
  request : SameRequest s s'
  started : s'.wbmComState ≠ .wbmInitialize

section Connecting

variable (inp : IterationInput) {s : UnitState}

/-- A state that neither looks for the unit nor waits for it. -/
theorem Linking.of_aside
    {s' : UnitState} (h : Linking s) (hkept : LinkKept s s')
    (hlooking : ¬ Looking s'.currentState) (hawaited : awaited s'.currentState = none) :
    Linking s' where
  settled := hkept.settled h.settled
  services := h.services.mono fun k hk _ hset => hkept.request.index k hk hset
  flag := hkept.request.eepromDataReceived.trans h.flag
  looking := fun hlook => absurd hlook (not_or.mpr ⟨hkept.started, hlooking⟩)
  retries := fun hstate => absurd (Or.inr (Or.inl hstate)) hlooking
  trying := fun hstate => absurd (Or.inr (Or.inr hstate)) hlooking
  awaiting := fun a ha => by
    rw [hawaited] at ha
    cases ha

/-- A state that waits for the reply to what it has just sent. -/
theorem Linking.of_asked
    {s' : UnitState} {a : Awaited} (h : Linking s) (hkept : LinkKept s s')
    (hawaited : awaited s'.currentState = some a)
    (hlast : lastRequest s' = some (a.request s'.device)) :
    Linking s' := by
  have hlooking : ¬ Looking s'.currentState := by
    rintro (hc | hc | hc)
    · rw [hc] at hawaited
      cases hawaited
    · rw [hc] at hawaited
      cases hawaited
    · rw [hc] at hawaited
      cases hawaited
  refine ⟨hkept.settled h.settled,
    h.services.mono fun k hk _ hset => hkept.request.index k hk hset,
    hkept.request.eepromDataReceived.trans h.flag,
    fun hlook => absurd hlook (not_or.mpr ⟨hkept.started, hlooking⟩),
    fun hstate => absurd (Or.inr (Or.inl hstate)) hlooking,
    fun hstate => absurd (Or.inr (Or.inr hstate)) hlooking, fun a' ha' => ?_⟩
  rw [hawaited] at ha'
  cases ha'
  exact hlast

/-- What a state can do to the receiver: nothing, or one call of
`Read_Message`, after which the acknowledgement may be cleared. -/
def ReadOnce (p p' : SerialPort) : Prop :=
  p' = p ∨ ∃ ack, p' = { (readMessage p).2 with ackReceived := ack }

theorem readOnce_awaitReply
    (reply : UnitState → UnitState) (hreply : ∀ s, (reply s).port = s.port) :
    ReadOnce s.port (awaitReply inp reply s).port := by
  have hcase := awaitReply_case inp s reply
  generalize awaitReply inp reply s = s' at hcase ⊢
  cases hcase with
  | lost _ => exact Or.inl rfl
  | replied _ _ =>
      rw [hreply]
      exact Or.inr ⟨_, rfl⟩
  | waiting _ _ => exact Or.inr ⟨_, rfl⟩

theorem port_connected :
    (connected inp s).port = s.port := by
  obtain ⟨outputs, -, heq⟩ := connected_eq inp s
  rw [heq]

theorem readOnce_trySerialLink :
    ReadOnce s.port (trySerialLink inp s).port := by
  have hcase := trySerialLink_case inp s
  generalize trySerialLink inp s = s' at hcase ⊢
  cases hcase with
  | anew _ _ => exact Or.inl rfl
  | again _ _ => exact Or.inl rfl
  | read _ _ _ => exact Or.inr ⟨_, rfl⟩

theorem readOnce_bootloader :
    ReadOnce s.port (bootloaderState inp s).port ∧ ReadOnce s.port (bootloaderState1 s).port := by
  constructor
  · have hcase := bootloaderState_case inp s
    generalize bootloaderState inp s = s' at hcase ⊢
    cases hcase with
    | held _ => exact Or.inl rfl
    | header _ _ _ _ => exact Or.inl rfl
  · have hcase := bootloaderState1_case s
    generalize bootloaderState1 s = s' at hcase ⊢
    cases hcase with
    | waiting _ => exact Or.inr ⟨_, rfl⟩
    | acknowledged _ _ _ _ _ _ => exact Or.inr ⟨_, rfl⟩

theorem readOnce_connectToUnit
    (s : UnitState) :
    ReadOnce s.port (connectToUnit inp s).port := by
  unfold connectToUnit
  cases s.currentState with
  | init => exact Or.inl rfl
  | linkConnecting =>
      have hcase := linkConnecting_case inp s
      dsimp only
      generalize linkConnecting inp s = s' at hcase ⊢
      cases hcase with
      | sent _ => exact Or.inl rfl
      | silent _ => exact Or.inl rfl
  | trySerialLink => exact readOnce_trySerialLink inp
  | linkConnected => exact Or.inl rfl
  | readEepromInfo => exact readOnce_awaitReply inp _ fun _ => rfl
  | readEepromConfiguration => exact readOnce_awaitReply inp _ fun _ => rfl
  | readEepromSettingPar => exact readOnce_awaitReply inp _ fun _ => rfl
  | readEepromSetTemp => exact readOnce_awaitReply inp _ fun _ => rfl
  | readEepromDayProg => exact readOnce_awaitReply inp _ fun _ => rfl
  | readEepromHwSetting => exact readOnce_awaitReply inp _ fun _ => rfl
  | pollingBase => exact readOnce_awaitReply inp _ fun _ => rfl
  | connected => exact Or.inl (port_connected inp)
  | bootloaderState => exact (readOnce_bootloader inp).1
  | bootloaderState1 => exact (readOnce_bootloader inp).2
  | bootloaderStateEnd => exact Or.inl rfl

theorem settled_connectToUnit
    (h : Settled s.port) :
    Settled (connectToUnit inp s).port := by
  rcases readOnce_connectToUnit inp s with hsame | ⟨ack, hread⟩
  · rw [hsame]
    exact h
  · have hnext := h.readMessage
    rw [hread]
    exact ⟨hnext.unread, hnext.availableFits, hnext.claimFits, hnext.pointer, hnext.tail,
      hnext.announced⟩

theorem linkKept_connectToUnit
    (hs : s.wbmComState ≠ .wbmInitialize) :
    LinkKept s (connectToUnit inp s) :=
  ⟨settled_connectToUnit inp, sameRequest_connectToUnit inp s, connectToUnit_ne_initial inp s hs⟩

/-- The firmware transfer is not left. -/
theorem inBootloader_connectToUnit
    (h : InBootloader s.currentState) :
    InBootloader (connectToUnit inp s).currentState := by
  unfold connectToUnit
  cases hc : s.currentState <;> rw [hc] at h <;>
    first
      | exact absurd h (by decide)
      | skip
  case bootloaderState =>
      have hcase := bootloaderState_case inp s
      dsimp only
      generalize bootloaderState inp s = s' at hcase ⊢
      cases hcase with
      | held _ => exact hc ▸ h
      | header _ transfer next hnext =>
          rcases hnext with rfl | rfl
          · exact (by decide : InBootloader .bootloaderState1)
          · exact (by decide : InBootloader .bootloaderStateEnd)
  case bootloaderState1 =>
      have hcase := bootloaderState1_case s
      dsimp only
      generalize bootloaderState1 s = s' at hcase ⊢
      cases hcase with
      | waiting _ => exact hc ▸ h
      | acknowledged _ transfer next hnext outputs _ =>
          rcases hnext with rfl | rfl
          · exact hc ▸ h
          · exact (by decide : InBootloader .bootloaderStateEnd)
  case bootloaderStateEnd =>
      dsimp only
      rw [hc]
      exact h

theorem InBootloader.aside
    {c : ConnectState} (h : InBootloader c) :
    ¬ Looking c ∧ awaited c = none := by
  rcases h with rfl | rfl | rfl
  · decide
  · decide
  · decide

theorem linking_linkConnecting
    (h : Linking s) (hstate : s.currentState = .linkConnecting) :
    Linking (linkConnecting inp s) ∧
      (linkConnecting inp s).currentState = .trySerialLink ∧
      (linkConnecting inp s).globalTimeoutMilliseconds = inp.millis 0 := by
  obtain ⟨hfound, hmode⟩ := h.looking (Or.inr (Or.inr (Or.inl hstate)))
  have hretries := h.retries hstate
  have hcond : s.retriesCounter < 2 ∧ ¬ s.foundComLink := ⟨hretries, by rw [hfound]; decide⟩
  unfold linkConnecting
  dsimp only
  rw [if_pos hcond]
  refine ⟨⟨h.settled, h.services, h.flag, fun _ => ⟨hfound, hmode⟩, nofun, fun _ => ⟨?_, ?_⟩,
    nofun⟩, rfl, rfl⟩
  · exact Nat.succ_le_of_lt hretries
  · have hsilent : Sends [] (sendPollingBase inp s)
        { sendPollingBase inp s with
          retriesCounter := s.retriesCounter + 1
          globalTimeoutMilliseconds := inp.millis 0
          currentState := .trySerialLink } :=
      sends_of_outputs_eq rfl
    exact lastRequest_of_sends ((sends_sendPollingBase inp s).then_silent hsilent)

theorem linking_trySerialLink
    (h : Linking s) (hkept : LinkKept s (trySerialLink inp s))
    (hstate : s.currentState = .trySerialLink) :
    Linking (trySerialLink inp s) := by
  obtain ⟨hfound, hmode⟩ := h.looking (Or.inr (Or.inr (Or.inr hstate)))
  obtain ⟨hretries, hlast⟩ := h.trying hstate
  have hcase := trySerialLink_case inp s
  generalize trySerialLink inp s = s' at hcase hkept ⊢
  cases hcase with
  | anew _ _ =>
      exact ⟨h.settled, h.services, h.flag, fun _ => ⟨hfound, hmode⟩, nofun, nofun, nofun⟩
  | again _ htwo =>
      refine ⟨h.settled, h.services, h.flag, fun _ => ⟨hfound, hmode⟩, fun _ => ?_, nofun, nofun⟩
      exact lt_of_le_of_ne hretries htwo
  | read _ next hnext =>
      split at hnext
      · subst hnext
        exact h.of_aside hkept (by decide : ¬ Looking .bootloaderState) rfl
      · rename_i hboot
        split at hnext
        · subst hnext
          exact h.of_aside hkept (by decide : ¬ Looking .linkConnected) rfl
        · subst hnext
          refine ⟨h.settled.readMessage, h.services, h.flag,
            fun _ => ⟨hfound, Bool.eq_false_iff.mpr hboot⟩, ?_, fun _ => ⟨hretries, hlast⟩, ?_⟩
          · intro hc
            rw [hstate] at hc
            cases hc
          · intro a ha
            rw [hstate] at ha
            cases ha

/-- A state that waits for a reply. -/
theorem linking_awaiting
    {a : Awaited} (h : Linking s) (hkept : LinkKept s (connectToUnit inp s))
    (ha : awaited s.currentState = some a) :
    Linking (connectToUnit inp s) := by
  have hlast := h.awaiting a ha
  have hwaits : ∀ reply, connectToUnit inp s = awaitReply inp reply s →
      (∀ s₁, s₁.device = s.device → (reply s₁).device = s.device ∧
        (awaited (reply s₁).currentState = none ∧ ¬ Looking (reply s₁).currentState ∨
          ∃ a', awaited (reply s₁).currentState = some a' ∧
            lastRequest (reply s₁) = some (a'.request s.device))) →
      Linking (connectToUnit inp s) := by
    intro reply heq hreply
    rw [heq] at hkept ⊢
    have hcase := awaitReply_case inp s reply
    generalize awaitReply inp reply s = s' at hcase hkept ⊢
    cases hcase with
    | lost _ => exact h.of_asked hkept ha hlast
    | replied _ _ =>
        obtain ⟨hdevice, ⟨hnone, hlooking⟩ | ⟨a', ha', hlast'⟩⟩ := hreply
          { s with valRet := (readMessage s.port).1, port := (readMessage s.port).2 } rfl
        · exact h.of_aside hkept hlooking hnone
        · refine h.of_asked hkept ha' ?_
          rw [hdevice]
          exact hlast'
    | waiting _ _ => exact h.of_asked hkept ha hlast
  rcases sectionStep_of_awaited ha with ⟨st, hst, -⟩ | ⟨hstate, -⟩
  · refine hwaits _ (connectToUnit_sectionStep inp hst) fun s₁ hdevice => ?_
    obtain ⟨hnext, -, hdevice', -, -, hsend⟩ := sectionReply_facts inp st s₁
    refine ⟨hdevice'.trans hdevice, Or.inr ⟨st.request, ?_, ?_⟩⟩
    · rw [hnext]
      exact (sectionStep_sound hst).awaited_next
    · rw [← hdevice]
      exact lastRequest_of_sends hsend
  · refine hwaits (pollingReply inp) ?_ fun s₁ hdevice => ⟨hdevice, Or.inl ⟨rfl, ?_⟩⟩
    · simp only [connectToUnit, hstate]
    · exact (by decide : ¬ Looking .connected)

theorem connected_currentState :
    (connected inp s).currentState = s.currentState :=
  (sameControl_connected inp s).currentState

/-- Every state of the handshake. -/
theorem linking_connectToUnit
    (h : Linking s) (hs : s.wbmComState ≠ .wbmInitialize) :
    Linking (connectToUnit inp s) := by
  have hkept := linkKept_connectToUnit inp hs
  have hbootloader : InBootloader s.currentState → Linking (connectToUnit inp s) := by
    intro hboot
    obtain ⟨hlooking, hnone⟩ := (inBootloader_connectToUnit inp hboot).aside
    exact h.of_aside hkept hlooking hnone
  have hawaiting : ∀ a, awaited s.currentState = some a → Linking (connectToUnit inp s) :=
    fun a ha => linking_awaiting inp h hkept ha
  cases hc : s.currentState with
  | init =>
      obtain ⟨hfound, hmode⟩ := h.looking (Or.inr (Or.inl hc))
      simp only [connectToUnit, hc]
      refine ⟨h.settled, h.services, h.flag, fun _ => ⟨hfound, hmode⟩,
        fun _ => Nat.zero_lt_two, ?_, ?_⟩
      · rintro ⟨⟩
      · rintro a ⟨⟩
  | linkConnecting =>
      simp only [connectToUnit, hc]
      exact (linking_linkConnecting inp h hc).1
  | trySerialLink =>
      simp only [connectToUnit, hc] at hkept ⊢
      exact linking_trySerialLink inp h hkept hc
  | linkConnected =>
      simp only [connectToUnit, hc] at hkept ⊢
      refine h.of_asked (a := .read .info) hkept rfl ?_
      exact lastRequest_of_sends (sends_linkConnected inp s)
  | connected =>
      simp only [connectToUnit, hc] at hkept ⊢
      have hstate : (connected inp s).currentState = .connected :=
        (connected_currentState inp).trans hc
      refine h.of_aside hkept ?_ ?_
      · rw [hstate]
        decide
      · rw [hstate]
        rfl
  | readEepromInfo => exact hawaiting (.read .info) (by rw [hc]; rfl)
  | readEepromConfiguration => exact hawaiting (.read .configuration) (by rw [hc]; rfl)
  | readEepromSettingPar => exact hawaiting (.read .settingPar) (by rw [hc]; rfl)
  | readEepromSetTemp => exact hawaiting (.read .setTemp) (by rw [hc]; rfl)
  | readEepromDayProg => exact hawaiting (.read .dayProg) (by rw [hc]; rfl)
  | readEepromHwSetting => exact hawaiting (.read .hwSetting) (by rw [hc]; rfl)
  | pollingBase => exact hawaiting .polling (by rw [hc]; rfl)
  | bootloaderState => exact hbootloader (by rw [hc]; decide)
  | bootloaderState1 => exact hbootloader (by rw [hc]; decide)
  | bootloaderStateEnd => exact hbootloader (by rw [hc]; decide)

end Connecting

/-! ## Every run -/

/-- The request sent last is what the task waits for, whether connected or not. -/
structure Attentive (s : UnitState) : Prop where
  linking : s.wbmComState = .wbmInitialize ∨ s.wbmComState = .wbmCommunicating → Linking s
  waiting : s.wbmComState = .wbmConnected → Waiting s

theorem attentive_boot
    (device : DeviceIdentity) (firmwareBin : Option (List UInt8))
    (unitPartitionState : Bool) (millis : UInt32) :
    Attentive (UnitState.boot device firmwareBin unitPartitionState millis) where
  linking := fun _ =>
    linking_of_init rfl settled_boot (fun _ _ _ => BitVec.getLsbD_zero) rfl ⟨rfl, rfl⟩
  waiting := nofun

theorem attentive_iterate
    (inp : IterationInput) {s : UnitState} (h : Attentive s) :
    Attentive (unitEventTask inp s) := by
  cases hwbm : s.wbmComState with
  | wbmInitialize =>
      obtain ⟨hsettled, hservices, hflag, hlooking, -⟩ := h.linking (Or.inl hwbm)
      simp only [unitEventTask, hwbm]
      refine ⟨fun _ => linking_of_init rfl hsettled hservices hflag ?_, ?_⟩
      · exact hlooking (Or.inl hwbm)
      · rintro ⟨⟩
  | wbmCommunicating =>
      have hs : s.wbmComState ≠ .wbmInitialize := by
        rw [hwbm]
        decide
      have hlinking := linking_connectToUnit inp (h.linking (Or.inr hwbm)) hs
      simp only [unitEventTask, hwbm]
      refine ⟨fun _ => hlinking, fun _ => ⟨hlinking.settled, hlinking.services, fun hup => ?_⟩⟩
      rw [hlinking.flag] at hup
      cases hup
  | wbmConnected =>
      simp only [unitEventTask, hwbm]
      refine ⟨fun hlink => ?_, fun _ => (h.waiting hwbm).connectedIteration inp⟩
      have hbefore := wbmComState_before inp (s := s)
        (by rw [unitEventTask_connected inp hwbm]; exact hlink)
      rw [hwbm] at hbefore
      simp at hbefore
  | wbmError =>
      simp only [unitEventTask, hwbm]
      refine ⟨fun hlink => ?_, fun hconn => ?_⟩
      · simp [UnitState.emitAll] at hlink
      · simp [UnitState.emitAll] at hconn

/-- Two states with the same link. -/
structure SameLink (s s' : UnitState) : Prop where
  settled : Settled s.port → Settled s'.port
  bootloaderMode : s'.port.bootloaderMode = s.port.bootloaderMode
  rxClaimLen : s'.port.rxClaimLen = s.port.rxClaimLen
  device : s'.device = s.device
  currentState : s'.currentState = s.currentState
  foundComLink : s'.foundComLink = s.foundComLink
  retriesCounter : s'.retriesCounter = s.retriesCounter

theorem sameLink_clientWrite
    (w : ClientWrite) (s : UnitState) :
    SameLink s (clientWrite w s) := by
  unfold clientWrite
  split
  · split
    · exact ⟨id, rfl, rfl, rfl, rfl, rfl, rfl⟩
    · exact ⟨id, rfl, rfl, rfl, rfl, rfl, rfl⟩
  · split
    · exact ⟨id, rfl, rfl, rfl, rfl, rfl, rfl⟩
    · exact ⟨id, rfl, rfl, rfl, rfl, rfl, rfl⟩

/-- What happens around the task leaves the link alone. -/
theorem sameLink_around
    {e : Event} (he : ∀ inp, e ≠ .iterate inp) (s : UnitState) :
    SameLink s (step e s) := by
  cases e with
  | iterate inp => exact absurd rfl (he inp)
  | uartData data => exact ⟨fun h => h.uartEventTask data, rfl, rfl, rfl, rfl, rfl, rfl⟩
  | clientWrite w => exact sameLink_clientWrite w s
  | mqttReady ready => exact ⟨id, rfl, rfl, rfl, rfl, rfl, rfl⟩
  | unitUpdateTask running => exact ⟨id, rfl, rfl, rfl, rfl, rfl, rfl⟩
  | firmwareStored content => exact ⟨id, rfl, rfl, rfl, rfl, rfl, rfl⟩

theorem attentive_step
    (e : Event) (s : UnitState) (h : Attentive s) :
    Attentive (step e s) := by
  by_cases he : ∃ inp, e = .iterate inp
  · obtain ⟨inp, rfl⟩ := he
    exact attentive_iterate inp h
  · have he' : ∀ inp, e ≠ .iterate inp := fun inp heq => he ⟨inp, heq⟩
    obtain ⟨hsend, hflag, hwbm, hservices⟩ := step_around he' s
    have hlast := lastRequest_of_silent hsend
    have hlink := sameLink_around he' s
    refine ⟨fun hcomm => ?_, fun hconn => ?_⟩
    · have hlinking := h.linking (hwbm ▸ hcomm)
      refine ⟨hlink.settled hlinking.settled, hservices hlinking.services,
        hflag.trans hlinking.flag, ?_, ?_, ?_, ?_⟩
      · rw [hwbm, hlink.currentState, hlink.foundComLink, hlink.bootloaderMode]
        exact hlinking.looking
      · rw [hlink.currentState, hlink.retriesCounter]
        exact hlinking.retries
      · rw [hlink.currentState, hlink.retriesCounter, hlast, hlink.device]
        exact hlinking.trying
      · rw [hlink.currentState, hlast, hlink.device]
        exact hlinking.awaiting
    · have hwaiting := h.waiting (hwbm ▸ hconn)
      refine ⟨hlink.settled hwaiting.settled, hservices hwaiting.services, ?_⟩
      rw [hflag, hlast]
      exact hwaiting.asked

end UnitComm
end AvensysEsp32
