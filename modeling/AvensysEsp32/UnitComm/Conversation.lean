import AvensysEsp32.UnitComm.TransferMessages

/-!
# What the gateway says to the unit

Everything handed to `Uart_Write` since the start is one of three conversations.
The unit is polled until it answers, and is then asked for each section of its
EEPROM in turn and polled once more; after that requests follow one by one as
the timers and the scheduler want them.  Where the unit names its bootloader
instead, the messages of a firmware transfer follow and nothing else, and they
are sent in the states of the bootloader only.  An error ends a conversation
where it stands.
-/

namespace AvensysEsp32
namespace UnitComm

open Foundation Serial

/-! ## Conversations -/

/-- The requests of the handshake, in their order. -/
def handshakeRequests (device : DeviceIdentity) : List (List UInt8) :=
  handshakeSections.map readEepromRequest ++ [pollingBaseRequest device]

/-- A question of the connected task: it polls under its own name, and never
writes the configuration. -/
def Served (device : DeviceIdentity) : Question → Prop
  | .read _ => True
  | .write sec _ => sec ≠ .configuration
  | .polling named => named = device
  | .debug _ _ => True

/-- The conversations with a unit, where the firmware files are stored at one time
or another. -/
inductive Conversation (device : DeviceIdentity) (files : List (List UInt8)) :
    List (List UInt8) → Prop
  | silent : Conversation device files []
  | linking (polls n : Nat) :
      Conversation device files
        (List.replicate (polls + 1) (pollingBaseRequest device) ++
          (handshakeRequests device).take n)
  | serving (polls : Nat) (qs : List Question) (hqs : ∀ q ∈ qs, Served device q) :
      Conversation device files
        (List.replicate (polls + 1) (pollingBaseRequest device) ++
          handshakeRequests device ++ qs.map Question.frame)
  | transferring (polls : Nat) (ts : List (List UInt8)) (hts : TransferMessages files ts) :
      Conversation device files (List.replicate (polls + 1) (pollingBaseRequest device) ++ ts)

variable {files : List (List UInt8)}

/-! ## Their messages -/

theorem wellFormed_pollingBaseRequest (device : DeviceIdentity) :
    WellFormed (pollingBaseRequest device) := by
  have hfits := device.fits
  unfold pollingBaseRequest
  apply wellFormed_frameOf
  · rfl
  · rfl
  · have hpos : ofBytes ([protoStartMsg0, protoStartMsg1,
        UInt8.ofNat (device.serialNumberSize + 5), commandPollingBase, device.error] ++
          device.serialNumber) ihm1PosCrcLo = UInt8.ofNat (device.serialNumberSize + 5) := by
      rw [ofBytes_append_left (by simp)]
      rfl
    rw [hpos]
    simp only [DeviceIdentity.serialNumberSize, UInt8.toNat_ofNat', List.length_append,
      List.length_cons, List.length_nil]
    omega
  · simp

theorem wellFormed_readEepromRequest (sec : EepromSection) :
    WellFormed (readEepromRequest sec) := by
  unfold readEepromRequest
  apply wellFormed_frameOf
  · rfl
  · rfl
  · rfl
  · simp

theorem wellFormed_writeEepromRequest
    (sec : EepromSection) (m : Memory) :
    WellFormed (writeEepromRequest sec m) := by
  have hcount : (UInt8.ofNat sec.count).toNat ≤ 119 := by
    rw [sec.toNat_count]
    exact sec.count_le.trans (by decide)
  unfold writeEepromRequest
  apply wellFormed_frameOf
  · rfl
  · rfl
  · rw [ofBytes_append_left (by simp)]
    refine (toNat_six_add hcount).trans ?_
    rw [sec.toNat_count]
    simp only [List.length_append, List.length_cons, List.length_nil, length_readBytes]
  · simp

theorem wellFormed_question (q : Question) :
    WellFormed q.frame := by
  cases q with
  | read sec => exact wellFormed_readEepromRequest sec.eepromSection
  | write sec m => exact wellFormed_writeEepromRequest sec m
  | polling device => exact wellFormed_pollingBaseRequest device
  | debug b c =>
      apply wellFormed_frameOf
      · rfl
      · rfl
      · rfl
      · simp

theorem wellFormed_handshakeRequests
    {device : DeviceIdentity} {w : List UInt8} (hw : w ∈ handshakeRequests device) :
    WellFormed w := by
  unfold handshakeRequests at hw
  rcases List.mem_append.mp hw with hread | hpolling
  · obtain ⟨sec, -, rfl⟩ := List.mem_map.mp hread
    exact wellFormed_readEepromRequest sec
  · rw [List.mem_singleton.mp hpolling]
    exact wellFormed_pollingBaseRequest device

/-- Every message of a conversation is a complete frame, or part of a transfer. -/
theorem Conversation.messages
    {device : DeviceIdentity} {ws : List (List UInt8)} (h : Conversation device files ws) :
    ∀ w ∈ ws, WellFormed w ∨ TransferMessage files w := by
  have hpolls : ∀ {n w}, w ∈ List.replicate n (pollingBaseRequest device) → WellFormed w := by
    intro n w hw
    rw [List.eq_of_mem_replicate hw]
    exact wellFormed_pollingBaseRequest device
  intro w hw
  cases h with
  | silent => cases hw
  | linking polls n =>
      rcases List.mem_append.mp hw with hpoll | hasked
      · exact Or.inl (hpolls hpoll)
      · exact Or.inl (wellFormed_handshakeRequests (List.mem_of_mem_take hasked))
  | serving polls qs hqs =>
      rcases List.mem_append.mp hw with hbefore | hserved
      · rcases List.mem_append.mp hbefore with hpoll | hasked
        · exact Or.inl (hpolls hpoll)
        · exact Or.inl (wellFormed_handshakeRequests hasked)
      · obtain ⟨q, -, rfl⟩ := List.mem_map.mp hserved
        exact Or.inl (wellFormed_question q)
  | transferring polls ts hts =>
      rcases List.mem_append.mp hw with hpoll | hblock
      · exact Or.inl (hpolls hpoll)
      · exact Or.inr (hts.messages w hblock)

/-! ## Where a conversation stands -/

/-- How much of the handshake has been asked for in a state of
`Connect_To_Unit`. -/
def requestsSent : ConnectState → Option Nat
  | .init => some 0
  | .linkConnecting => some 0
  | .trySerialLink => some 0
  | .linkConnected => some 0
  | .readEepromInfo => some 1
  | .readEepromConfiguration => some 2
  | .readEepromSettingPar => some 3
  | .readEepromSetTemp => some 4
  | .readEepromDayProg => some 5
  | .readEepromHwSetting => some 6
  | .pollingBase => some 7
  | .connected => some 7
  | .bootloaderState => none
  | .bootloaderState1 => none
  | .bootloaderStateEnd => none

/-- Before the first poll nothing is sent. -/
def Unpolled (c : ConnectState) : Prop :=
  c = .init ∨ c = .linkConnecting

/-- What has been sent in each state of the task. -/
inductive Spoken
    (device : DeviceIdentity) (files : List (List UInt8)) (s : UnitState) : Prop
  | starting (hwbm : s.wbmComState = .wbmInitialize) (hsent : uartWrites s.outputs = [])
  | linking (hwbm : s.wbmComState = .wbmCommunicating) (polls n : Nat)
      (hn : requestsSent s.currentState = some n)
      (hpolls : Unpolled s.currentState ∨ 0 < polls)
      (hsent : uartWrites s.outputs =
        List.replicate polls (pollingBaseRequest device) ++ (handshakeRequests device).take n)
  | transferring (hwbm : s.wbmComState = .wbmCommunicating) (hboot : InBootloader s.currentState)
      (polls : Nat) (ts : List (List UInt8)) (hstage : TransferStage files ts s)
      (hsent : uartWrites s.outputs =
        List.replicate (polls + 1) (pollingBaseRequest device) ++ ts)
  | serving (hwbm : s.wbmComState = .wbmConnected) (polls : Nat) (qs : List Question)
      (hqs : ∀ q ∈ qs, Served device q)
      (hsent : uartWrites s.outputs =
        List.replicate (polls + 1) (pollingBaseRequest device) ++
          handshakeRequests device ++ qs.map Question.frame)
  | ended (hwbm : s.wbmComState = .wbmError)
      (hsent : Conversation device files (uartWrites s.outputs))

instance (c : ConnectState) : Decidable (Unpolled c) :=
  inferInstanceAs (Decidable (_ ∨ _))

theorem handshakeRequests_take
    (device : DeviceIdentity) : (handshakeRequests device).take 7 = handshakeRequests device :=
  rfl

/-- Polls alone, and polls with the beginning of a handshake, are conversations. -/
theorem conversation_polls
    (device : DeviceIdentity) (polls n : Nat) (h : polls = 0 → n = 0) :
    Conversation device files
      (List.replicate polls (pollingBaseRequest device) ++ (handshakeRequests device).take n) := by
  cases polls with
  | zero =>
      rw [h rfl]
      exact .silent
  | succ polls => exact .linking polls n

theorem Spoken.conversation
    {device : DeviceIdentity} {s : UnitState} (h : Spoken device files s) :
    Conversation device files (uartWrites s.outputs) := by
  cases h with
  | starting hwbm hsent =>
      rw [hsent]
      exact .silent
  | linking hwbm polls n hn hpolls hsent =>
      rw [hsent]
      apply conversation_polls
      rintro rfl
      rcases hpolls with hunpolled | hpos
      · rcases hunpolled with hc | hc
        · rw [hc] at hn
          exact (Option.some.inj hn).symm
        · rw [hc] at hn
          exact (Option.some.inj hn).symm
      · cases hpos
  | transferring hwbm hboot polls ts hstage hsent =>
      rw [hsent]
      exact .transferring polls ts hstage.messages
  | serving hwbm polls qs hqs hsent =>
      rw [hsent]
      exact .serving polls qs hqs
  | ended hwbm hsent => exact hsent

/-! ## Connecting -/

/-- Each state that reads a section asks for one thing more when it is left. -/
theorem requestsSent_sectionStep
    (device : DeviceIdentity) {c : ConnectState} {st : SectionStep}
    (h : sectionStep c = some st) :
    ∃ n, requestsSent c = some n ∧ requestsSent st.next = some (n + 1) ∧
      (handshakeRequests device).take (n + 1) =
        (handshakeRequests device).take n ++ [st.request.request device] := by
  cases c <;> simp only [sectionStep, Option.some.injEq, reduceCtorEq] at h <;> subst h <;>
    exact ⟨_, rfl, rfl, rfl⟩

section Connecting

variable (inp : IterationInput) {device : DeviceIdentity} {s : UnitState}

/-- Without a message the conversation stands where it stood. -/
theorem Spoken.linking_of_silent
    {s' : UnitState} {polls n : Nat} (hsend : Sends [] s s')
    (hwbm : s'.wbmComState = .wbmCommunicating) (hn : requestsSent s'.currentState = some n)
    (hpolls : Unpolled s'.currentState ∨ 0 < polls)
    (hsent : uartWrites s.outputs =
      List.replicate polls (pollingBaseRequest device) ++ (handshakeRequests device).take n) :
    Spoken device files s' :=
  .linking hwbm polls n hn hpolls (hsend.uartWrites_eq.trans hsent)

/-- A state that waits for a reply gives up, waits on, or goes on with the reply. -/
theorem spoken_awaitReply
    {reply : UnitState → UnitState} {polls n : Nat}
    (hwbm : s.wbmComState = .wbmCommunicating)
    (hn : requestsSent s.currentState = some n) (hpolls : 0 < polls)
    (hsent : uartWrites s.outputs =
      List.replicate polls (pollingBaseRequest device) ++ (handshakeRequests device).take n)
    (hreply : ∀ s₁ : UnitState, s₁.wbmComState = .wbmCommunicating → s₁.device = s.device →
      s₁.outputs = s.outputs → Spoken device files (reply s₁)) :
    Spoken device files (awaitReply inp reply s) := by
  have hcase := awaitReply_case inp s reply
  generalize awaitReply inp reply s = s' at hcase ⊢
  cases hcase with
  | lost _ =>
      refine .ended rfl ?_
      dsimp only
      rw [hsent]
      exact conversation_polls device polls n (fun hzero => absurd hzero (by omega))
  | replied _ _ => exact hreply _ hwbm rfl rfl
  | waiting _ _ =>
      exact Spoken.linking_of_silent (sends_of_outputs_eq rfl) hwbm hn (Or.inr hpolls) hsent

theorem spoken_linkConnecting
    {polls : Nat} (hdevice : s.device = device) (hlink : Linking s)
    (hwbm : s.wbmComState = .wbmCommunicating) (hstate : s.currentState = .linkConnecting)
    (hsent : uartWrites s.outputs = List.replicate polls (pollingBaseRequest device)) :
    Spoken device files (linkConnecting inp s) := by
  have hlooking := (hlink.looking (Or.inr (Or.inr (Or.inl hstate)))).1
  have hcase := linkConnecting_case inp s
  generalize linkConnecting inp s = s' at hcase ⊢
  cases hcase with
  | sent _ =>
      refine .linking hwbm (polls + 1) 0 rfl (Or.inr (Nat.succ_pos polls)) ?_
      dsimp only
      rw [uartWrites_append, hsent, comSendRequestPollingBase_eq, hdevice,
        List.replicate_succ', List.take_zero, List.append_nil]
      rfl
  | silent hretries =>
      -- the handshake is entered with a poll to spare
      exact absurd ⟨hlink.retries hstate, by rw [hlooking]; decide⟩ hretries

theorem spoken_trySerialLink
    {polls : Nat} (hwbm : s.wbmComState = .wbmCommunicating)
    (hstate : s.currentState = .trySerialLink) (hpolls : 0 < polls)
    (htransfered : s.transfer.bytesTransfered = 0)
    (hsent : uartWrites s.outputs = List.replicate polls (pollingBaseRequest device)) :
    Spoken device files (trySerialLink inp s) := by
  have hsend := sends_trySerialLink inp s
  have htake : uartWrites s.outputs =
      List.replicate polls (pollingBaseRequest device) ++ (handshakeRequests device).take 0 := by
    rw [hsent, List.take_zero, List.append_nil]
  have hcase := trySerialLink_case inp s
  generalize trySerialLink inp s = s' at hcase hsend ⊢
  cases hcase with
  | anew _ _ => exact Spoken.linking_of_silent hsend rfl rfl (Or.inr hpolls) htake
  | again _ _ => exact Spoken.linking_of_silent hsend hwbm rfl (Or.inr hpolls) htake
  | read _ next hnext =>
      by_cases hboot : (readMessage s.port).2.bootloaderMode = true
      · rw [if_pos hboot] at hnext
        subst hnext
        refine .transferring hwbm (Or.inl rfl) (polls - 1) [] (.waiting rfl rfl htransfered) ?_
        rw [List.append_nil, Nat.sub_add_cancel hpolls]
        exact hsent
      · rw [if_neg hboot] at hnext
        split at hnext
        · subst hnext
          exact Spoken.linking_of_silent hsend hwbm rfl (Or.inr hpolls) htake
        · subst hnext
          refine Spoken.linking_of_silent hsend hwbm ?_ (Or.inr hpolls) htake
          dsimp only
          rw [hstate]
          rfl

theorem spoken_bootloader
    {polls : Nat} {ts : List (List UInt8)}
    (hwbm : s.wbmComState = .wbmCommunicating) (hboot : InBootloader s.currentState)
    (hstored : ∀ content ∈ s.firmwareBin, content ∈ files)
    (hstage : TransferStage files ts s)
    (hsent : uartWrites s.outputs = List.replicate (polls + 1) (pollingBaseRequest device) ++ ts) :
    Spoken device files (connectToUnit inp s) := by
  obtain ⟨ws, hsend, hnext, hsame⟩ := transferStage_connectToUnit inp hstored hboot hstage
  refine .transferring (hsame.trans hwbm) (inBootloader_connectToUnit inp hboot) polls
    (ts ++ ws) hnext ?_
  rw [hsend, hsent, List.append_assoc]

theorem spoken_sectionStep
    {st : SectionStep} {polls n : Nat} (hst : sectionStep s.currentState = some st)
    (hdevice : s.device = device) (hwbm : s.wbmComState = .wbmCommunicating)
    (hn : requestsSent s.currentState = some n) (hpolls : 0 < polls)
    (hsent : uartWrites s.outputs =
      List.replicate polls (pollingBaseRequest device) ++ (handshakeRequests device).take n) :
    Spoken device files (connectToUnit inp s) := by
  obtain ⟨k, hk, hnext, htake⟩ := requestsSent_sectionStep device hst
  obtain rfl : k = n := Option.some.inj (hk.symm.trans hn)
  rw [connectToUnit_sectionStep inp hst]
  refine spoken_awaitReply inp hwbm hn hpolls hsent ?_
  intro s₁ hwbm₁ hdevice₁ hout
  obtain ⟨hstate, -, -, -, -, hsend⟩ := sectionReply_facts inp st s₁
  have hstill : (sectionReply inp st.field (st.request.send inp) st.next s₁).wbmComState =
      .wbmCommunicating := by
    unfold sectionReply storeSection Awaited.send
    cases st.request with
    | read sec => exact hwbm₁
    | polling => exact hwbm₁
  refine .linking hstill polls (k + 1) (hstate ▸ hnext) (Or.inr hpolls) ?_
  rw [hsend, hout, hsent, hdevice₁, hdevice, htake, List.append_assoc]

/-- One iteration of `Connect_To_Unit` carries the conversation on. -/
theorem spoken_connectToUnit
    {polls n : Nat} (hdevice : s.device = device) (hlink : Linking s)
    (huntransfered : Untransfered s)
    (hwbm : s.wbmComState = .wbmCommunicating) (hn : requestsSent s.currentState = some n)
    (hpolls : Unpolled s.currentState ∨ 0 < polls)
    (hsent : uartWrites s.outputs =
      List.replicate polls (pollingBaseRequest device) ++ (handshakeRequests device).take n) :
    Spoken device files (connectToUnit inp s) := by
  have hcount : ∀ {m : Nat}, requestsSent s.currentState = some m → m = n := by
    intro m hm
    exact Option.some.inj (hm.symm.trans hn)
  have hpolled : ¬ Unpolled s.currentState → 0 < polls := hpolls.resolve_left
  by_cases hsection : ∃ st, sectionStep s.currentState = some st
  · obtain ⟨st, hst⟩ := hsection
    have hasked : ¬ Unpolled s.currentState := by
      rintro (hc | hc) <;> rw [hc] at hst <;> cases hst
    exact spoken_sectionStep inp hst hdevice hwbm hn (hpolled hasked) hsent
  cases hc : s.currentState with
  | init =>
      simp only [connectToUnit, hc]
      rw [hc] at hn
      exact Spoken.linking_of_silent (sends_of_outputs_eq rfl) hwbm hn (Or.inl (Or.inr rfl)) hsent
  | linkConnecting =>
      obtain rfl : 0 = n := hcount (by rw [hc]; rfl)
      simp only [connectToUnit, hc]
      rw [List.take_zero, List.append_nil] at hsent
      exact spoken_linkConnecting inp hdevice hlink hwbm hc hsent
  | trySerialLink =>
      obtain rfl : 0 = n := hcount (by rw [hc]; rfl)
      simp only [connectToUnit, hc]
      rw [List.take_zero, List.append_nil] at hsent
      have htransfered :=
        huntransfered.connecting hwbm (by rw [hc]; decide) (by rw [hc]; decide)
      exact spoken_trySerialLink inp hwbm hc (hpolled (by rw [hc]; decide)) htransfered hsent
  | linkConnected =>
      obtain rfl : 0 = n := hcount (by rw [hc]; rfl)
      simp only [connectToUnit, hc]
      refine .linking hwbm polls 1 rfl (Or.inr (hpolled (by rw [hc]; decide))) ?_
      rw [sends_linkConnected inp s, hsent, List.take_zero, List.append_nil]
      rfl
  | readEepromInfo => exact absurd ⟨_, congrArg sectionStep hc⟩ hsection
  | readEepromConfiguration => exact absurd ⟨_, congrArg sectionStep hc⟩ hsection
  | readEepromSettingPar => exact absurd ⟨_, congrArg sectionStep hc⟩ hsection
  | readEepromSetTemp => exact absurd ⟨_, congrArg sectionStep hc⟩ hsection
  | readEepromDayProg => exact absurd ⟨_, congrArg sectionStep hc⟩ hsection
  | readEepromHwSetting => exact absurd ⟨_, congrArg sectionStep hc⟩ hsection
  | pollingBase =>
      have hpos : 0 < polls := hpolled (by rw [hc]; decide)
      simp only [connectToUnit, hc]
      refine spoken_awaitReply inp hwbm hn hpos hsent ?_
      intro s₁ hwbm₁ _ hout
      rw [hc] at hn
      refine Spoken.linking_of_silent (s := s₁) (sends_of_outputs_eq rfl) hwbm₁ hn (Or.inr hpos) ?_
      rw [hout]
      exact hsent
  | connected =>
      obtain rfl : 7 = n := hcount (by rw [hc]; rfl)
      have hpos : 0 < polls := hpolled (by rw [hc]; decide)
      have hconnected : (connected inp s).wbmComState = .wbmConnected := by
        obtain ⟨_, -, heq⟩ := connected_eq inp s
        rw [heq]
      simp only [connectToUnit, hc]
      refine .serving hconnected (polls - 1) [] (by simp) ?_
      rw [(sends_connected inp s).uartWrites_eq, hsent, handshakeRequests_take,
        Nat.sub_add_cancel hpos, List.map_nil, List.append_nil]
  | bootloaderState =>
      rw [hc] at hn
      cases hn
  | bootloaderState1 =>
      rw [hc] at hn
      cases hn
  | bootloaderStateEnd =>
      rw [hc] at hn
      cases hn

end Connecting

/-! ## Once connected -/

section Serving

variable (inp : IterationInput) {s : UnitState}

/-- A stage of the connected task asks questions only. -/
def Asks (device : DeviceIdentity) (s s' : UnitState) : Prop :=
  ∃ qs : List Question, Sends (qs.map Question.frame) s s' ∧ ∀ q ∈ qs, Served device q

theorem asks_of_silent
    {device : DeviceIdentity} {s s' : UnitState} (h : Sends [] s s') :
    Asks device s s' :=
  ⟨[], h, by simp⟩

theorem asks_single
    {device : DeviceIdentity} {s s' : UnitState} {q : Question}
    (h : Sends [q.frame] s s') (hq : Served device q) :
    Asks device s s' :=
  ⟨[q], h, by simpa using hq⟩

theorem Asks.trans
    {device : DeviceIdentity} {s₁ s₂ s₃ : UnitState}
    (h : Asks device s₁ s₂) (h' : Asks device s₂ s₃) :
    Asks device s₁ s₃ := by
  obtain ⟨qs, hsend, hqs⟩ := h
  obtain ⟨qs', hsend', hqs'⟩ := h'
  refine ⟨qs ++ qs', ?_, fun q hq => (List.mem_append.mp hq).elim (hqs q) (hqs' q)⟩
  rw [List.map_append]
  exact hsend.trans hsend'

theorem asks_beforeReceive :
    Asks s.device s (beforeReceive inp s) := by
  rcases sends_beforeReceive inp s with ⟨hsend, -⟩ | ⟨w, hw, -, -, hsend⟩
  · exact asks_of_silent hsend
  · rcases List.mem_cons.mp hw with rfl | hw
    · rw [comSendRequestDataDebug_eq] at hsend
      exact asks_single (q := .debug _ _) hsend trivial
    · rw [List.mem_singleton.mp hw, comSendRequestPollingBase_eq] at hsend
      exact asks_single (q := .polling _) hsend rfl

theorem asks_scheduler
    (device : DeviceIdentity) (hservices : NoSilentService s.readEepromRequestIndex) :
    Asks device s (scheduler inp s) := by
  rcases sends_scheduler inp s with hsend | ⟨bit, mask, service, hnext, hsend⟩
  · exact asks_of_silent hsend
  · rcases question_of_service hservices hnext s.gRDEeprom with
      ⟨sec, -, hframe⟩ | ⟨sec, hservice, hframe⟩
    · rw [hframe] at hsend
      exact asks_single hsend trivial
    · rw [hframe] at hsend
      subst hservice
      exact asks_single hsend (ne_configuration_of_pending (writePending_of_nextService hnext))

/-- One iteration of the connected task asks questions only. -/
theorem asks_connectedIteration
    (hservices : NoSilentService s.readEepromRequestIndex) :
    Asks s.device s (connectedIteration inp s) := by
  have hreceived : NoSilentService (receive inp (beforeReceive inp s)).readEepromRequestIndex :=
    (((((hservices.stage inp .unitUpdateTrigger).stage inp .clampLastReceived).stage inp
      .debugRequest).stage inp .pollingRequest).stage inp .globalTimeout).stage inp .receive
  exact ((asks_beforeReceive inp).trans (asks_of_silent (sends_receive inp _))).trans
    (asks_scheduler inp s.device hreceived)

end Serving

/-! ## What the gateway keeps -/

section Device

variable (inp : IterationInput) (s : UnitState)

/-- The gateway has the same name and the same stored file. -/
structure SameGateway (s s' : UnitState) : Prop where
  device : s'.device = s.device
  firmwareBin : s'.firmwareBin = s.firmwareBin

theorem sameGateway_awaitReply
    (reply : UnitState → UnitState) (hreply : ∀ s, SameGateway s (reply s)) :
    SameGateway s (awaitReply inp reply s) := by
  have hcase := awaitReply_case inp s reply
  generalize awaitReply inp reply s = s' at hcase ⊢
  cases hcase with
  | lost _ => exact ⟨rfl, rfl⟩
  | replied _ _ => exact ⟨(hreply _).device, (hreply _).firmwareBin⟩
  | waiting _ _ => exact ⟨rfl, rfl⟩

theorem sameGateway_sectionReply (st : SectionStep) :
    SameGateway s (sectionReply inp st.field (st.request.send inp) st.next s) := by
  cases hrequest : st.request with
  | read sec => exact ⟨rfl, rfl⟩
  | polling => exact ⟨rfl, rfl⟩

theorem sameGateway_connectToUnit :
    SameGateway s (connectToUnit inp s) := by
  by_cases hsection : ∃ st, sectionStep s.currentState = some st
  · obtain ⟨st, hst⟩ := hsection
    rw [connectToUnit_sectionStep inp hst]
    exact sameGateway_awaitReply inp s _ fun s₁ => sameGateway_sectionReply inp s₁ st
  unfold connectToUnit
  cases hc : s.currentState with
  | init => exact ⟨rfl, rfl⟩
  | linkConnecting =>
      have hcase := linkConnecting_case inp s
      dsimp only
      generalize linkConnecting inp s = s' at hcase ⊢
      cases hcase with
      | sent _ => exact ⟨rfl, rfl⟩
      | silent _ => exact ⟨rfl, rfl⟩
  | trySerialLink =>
      have hcase := trySerialLink_case inp s
      dsimp only
      generalize trySerialLink inp s = s' at hcase ⊢
      cases hcase with
      | anew _ _ => exact ⟨rfl, rfl⟩
      | again _ _ => exact ⟨rfl, rfl⟩
      | read _ _ _ => exact ⟨rfl, rfl⟩
  | linkConnected => exact ⟨rfl, rfl⟩
  | readEepromInfo => exact absurd ⟨_, congrArg sectionStep hc⟩ hsection
  | readEepromConfiguration => exact absurd ⟨_, congrArg sectionStep hc⟩ hsection
  | readEepromSettingPar => exact absurd ⟨_, congrArg sectionStep hc⟩ hsection
  | readEepromSetTemp => exact absurd ⟨_, congrArg sectionStep hc⟩ hsection
  | readEepromDayProg => exact absurd ⟨_, congrArg sectionStep hc⟩ hsection
  | readEepromHwSetting => exact absurd ⟨_, congrArg sectionStep hc⟩ hsection
  | pollingBase => exact sameGateway_awaitReply inp s _ fun _ => ⟨rfl, rfl⟩
  | connected =>
      obtain ⟨_, -, heq⟩ := connected_eq inp s
      dsimp only
      rw [heq]
      exact ⟨rfl, rfl⟩
  | bootloaderState =>
      have hcase := bootloaderState_case inp s
      dsimp only
      generalize bootloaderState inp s = s' at hcase ⊢
      cases hcase with
      | held _ => exact ⟨rfl, rfl⟩
      | header _ _ _ _ => exact ⟨rfl, rfl⟩
  | bootloaderState1 =>
      have hcase := bootloaderState1_case s
      dsimp only
      generalize bootloaderState1 s = s' at hcase ⊢
      cases hcase with
      | waiting _ => exact ⟨rfl, rfl⟩
      | acknowledged _ _ _ _ _ _ => exact ⟨rfl, rfl⟩
  | bootloaderStateEnd => exact ⟨rfl, rfl⟩

/-- The gateway keeps its name, and the task leaves the stored file alone. -/
theorem sameGateway_unitEventTask :
    SameGateway s (unitEventTask inp s) := by
  unfold unitEventTask
  cases s.wbmComState with
  | wbmInitialize => exact ⟨rfl, rfl⟩
  | wbmCommunicating => exact sameGateway_connectToUnit inp s
  | wbmConnected =>
      have hbefore := sameData_beforeReceive inp s
      have hreceive := sameControl_receive inp (beforeReceive inp s)
      have hscheduler := sameButImage_scheduler inp (receive inp (beforeReceive inp s))
      exact ⟨(hscheduler.device.trans hreceive.device).trans hbefore.device,
        (hscheduler.firmwareBin.trans hreceive.firmwareBin).trans hbefore.firmwareBin⟩
  | wbmError => exact ⟨rfl, rfl⟩

end Device

/-! ## Every run -/

/-- The firmware file that an event stores. -/
def storedBy : Event → List (List UInt8)
  | .firmwareStored content => content.toList
  | _ => []

/-- The firmware files that are stored at one time or another in a run. -/
def filesIn (firmwareBin : Option (List UInt8)) (es : List Event) : List (List UInt8) :=
  firmwareBin.toList ++ es.flatMap storedBy

/-- What the gateway has said so far, under its own name. -/
structure Speaking
    (device : DeviceIdentity) (files : List (List UInt8)) (s : UnitState) : Prop where
  named : s.device = device
  stored : ∀ content ∈ s.firmwareBin, content ∈ files
  attentive : Attentive s
  untransfered : Untransfered s
  spoken : Spoken device files s

section Run

variable (device : DeviceIdentity) (firmwareBin : Option (List UInt8)) (partitionState : Bool)
  (millis : UInt32)

theorem speaking_boot
    (hstored : ∀ content ∈ firmwareBin, content ∈ files) :
    Speaking device files (UnitState.boot device firmwareBin partitionState millis) where
  named := rfl
  stored := hstored
  attentive := attentive_boot device firmwareBin partitionState millis
  untransfered := ⟨fun _ => rfl, fun hcomm => by cases hcomm⟩
  spoken := .starting rfl rfl

/-- Before the handshake and after an error nothing is sent. -/
theorem sends_unitEventTask_aside
    (inp : IterationInput) {s : UnitState}
    (hwbm : s.wbmComState = .wbmInitialize ∨ s.wbmComState = .wbmError) :
    Sends [] s (unitEventTask inp s) := by
  rcases hwbm with hwbm | hwbm
  · simp only [unitEventTask, hwbm]
    exact sends_emitAll _ [.bleSetRuntimeReady false, .gpioSetWifiReady true]
  · simp only [unitEventTask, hwbm]
    exact sends_emitAll _ [.bleSetRuntimeReady false, .gpioSetWifiReady false]

theorem spoken_iterate
    {device : DeviceIdentity} (inp : IterationInput) {s : UnitState} (h : Speaking device files s) :
    Spoken device files (unitEventTask inp s) := by
  obtain ⟨hdevice, hstored, hattentive, huntransfered, hspoken⟩ := h
  cases hspoken with
  | starting hwbm hsent =>
      have hsaid := (sends_unitEventTask_aside inp (Or.inl hwbm)).uartWrites_eq.trans hsent
      simp only [unitEventTask, hwbm] at hsaid ⊢
      exact .linking rfl 0 0 rfl (Or.inl (Or.inl rfl)) hsaid
  | linking hwbm polls n hn hpolls hsent =>
      simp only [unitEventTask, hwbm]
      exact spoken_connectToUnit inp hdevice (hattentive.linking (Or.inr hwbm)) huntransfered hwbm
        hn hpolls hsent
  | transferring hwbm hboot polls ts hstage hsent =>
      simp only [unitEventTask, hwbm]
      exact spoken_bootloader inp hwbm hboot hstored hstage hsent
  | serving hwbm polls qs hqs hsent =>
      obtain ⟨qs', hsend, hqs'⟩ := asks_connectedIteration inp (hattentive.waiting hwbm).services
      have hserved : ∀ q ∈ qs ++ qs', Served device q :=
        fun q hq => (List.mem_append.mp hq).elim (hqs q) fun hq' => hdevice ▸ hqs' q hq'
      have hsaid : uartWrites (connectedIteration inp s).outputs =
          List.replicate (polls + 1) (pollingBaseRequest device) ++
            handshakeRequests device ++ (qs ++ qs').map Question.frame := by
        rw [hsend, hsent, List.map_append, List.append_assoc, List.append_assoc]
      simp only [unitEventTask, hwbm]
      rcases beforeReceive_wbmComState inp s with hsame | hlost
      · exact .serving ((connectedIteration_wbmComState inp s).trans (hsame.trans hwbm)) polls _
          hserved hsaid
      · refine .ended ((connectedIteration_wbmComState inp s).trans hlost) ?_
        rw [hsaid]
        exact .serving polls _ hserved
  | ended hwbm hconversation =>
      have hsame := (sends_unitEventTask_aside inp (Or.inr hwbm)).uartWrites_eq
      have herror : (unitEventTask inp s).wbmComState = .wbmError := by
        simp only [unitEventTask, hwbm, UnitState.emitAll]
      exact .ended herror (hsame ▸ hconversation)

/-- What the task says depends on its own iterations alone. -/
theorem Spoken.of_silent
    {device : DeviceIdentity} {s s' : UnitState} (h : Spoken device files s) (hsend : Sends [] s s')
    (hwbm : s'.wbmComState = s.wbmComState) (hstate : s'.currentState = s.currentState)
    (htransfer : s'.transfer = s.transfer) :
    Spoken device files s' := by
  have hsame := hsend.uartWrites_eq
  cases h with
  | starting hs hsent => exact .starting (hwbm.trans hs) (hsame.trans hsent)
  | linking hs polls n hn hpolls hsent =>
      exact .linking (hwbm.trans hs) polls n (hstate ▸ hn) (hstate ▸ hpolls) (hsame.trans hsent)
  | transferring hs hboot polls ts hstage hsent =>
      exact .transferring (hwbm.trans hs) (hstate ▸ hboot) polls ts
        (hstage.of_same hstate htransfer) (hsame.trans hsent)
  | serving hs polls qs hqs hsent =>
      exact .serving (hwbm.trans hs) polls qs hqs (hsame.trans hsent)
  | ended hs hconversation => exact .ended (hwbm.trans hs) (hsame ▸ hconversation)

/-- Nothing beside an iteration of the task concerns the transfer, and the file
that is stored is the one that was, or the one of the event. -/
theorem transfer_around
    {e : Event} (he : ∀ inp, e ≠ .iterate inp) (s : UnitState) :
    (step e s).transfer = s.transfer ∧
      ∀ content ∈ (step e s).firmwareBin, content ∈ s.firmwareBin ∨ content ∈ storedBy e := by
  cases e with
  | iterate inp => exact absurd rfl (he inp)
  | clientWrite w =>
      obtain ⟨hstored, htransfer⟩ := clientWrite_firmware w s
      refine ⟨htransfer, fun content hcontent => Or.inl ?_⟩
      rwa [step, hstored] at hcontent
  | uartData data => exact ⟨rfl, fun _ => Or.inl⟩
  | mqttReady ready => exact ⟨rfl, fun _ => Or.inl⟩
  | unitUpdateTask running => exact ⟨rfl, fun _ => Or.inl⟩
  | firmwareStored content => exact ⟨rfl, fun _ h => Or.inr (Option.mem_toList.mpr h)⟩

theorem speaking_step
    {device : DeviceIdentity} (e : Event) {s : UnitState} (hfiles : storedBy e ⊆ files)
    (h : Speaking device files s) :
    Speaking device files (step e s) := by
  have huntransfered := untransfered_step e s h.untransfered
  by_cases he : ∃ inp, e = .iterate inp
  · obtain ⟨inp, rfl⟩ := he
    have hsame := sameGateway_unitEventTask inp s
    refine ⟨hsame.device.trans h.named, ?_, attentive_step _ s h.attentive, huntransfered,
      spoken_iterate inp h⟩
    rw [step, hsame.firmwareBin]
    exact h.stored
  · have he' : ∀ inp, e ≠ .iterate inp := fun inp heq => he ⟨inp, heq⟩
    obtain ⟨hsend, -, hwbm, -⟩ := step_around he' s
    have hlink := sameLink_around he' s
    obtain ⟨htransfer, hstored⟩ := transfer_around he' s
    refine ⟨hlink.device.trans h.named, fun content hcontent => ?_,
      attentive_step e s h.attentive, huntransfered,
      h.spoken.of_silent hsend hwbm hlink.currentState htransfer⟩
    exact (hstored content hcontent).elim (h.stored content) fun hnew => hfiles hnew

/-- In the states of the bootloader only messages of a transfer are sent, and
elsewhere only complete frames. -/
def InPlace (files : List (List UInt8)) (e : Event) (s : UnitState) : Prop :=
  ∀ w ∈ sent e s,
    if s.wbmComState = .wbmCommunicating ∧ InBootloader s.currentState then
      TransferMessage files w
    else WellFormed w

theorem inPlace_of_sends
    {e : Event} {s : UnitState} {ws : List (List UInt8)} (h : Sends ws s (step e s))
    (hws : ∀ w ∈ ws,
      if s.wbmComState = .wbmCommunicating ∧ InBootloader s.currentState then
        TransferMessage files w
      else WellFormed w) :
    InPlace files e s := by
  unfold InPlace
  rwa [sent_eq h]

theorem wellFormed_linkMessage
    {device : DeviceIdentity} {w : List UInt8} (h : LinkMessage device w) :
    WellFormed w := by
  rcases h with rfl | ⟨sec, rfl⟩
  · exact wellFormed_pollingBaseRequest device
  · exact wellFormed_readEepromRequest sec

/-- Each message has its place. -/
theorem inPlace_step
    {device : DeviceIdentity} (e : Event) {s : UnitState} (h : Speaking device files s) :
    InPlace files e s := by
  by_cases he : ∃ inp, e = .iterate inp
  · obtain ⟨inp, rfl⟩ := he
    cases h.spoken with
    | starting hwbm hsent =>
        exact inPlace_of_sends (sends_unitEventTask_aside inp (Or.inl hwbm)) (by simp)
    | ended hwbm hsent =>
        exact inPlace_of_sends (sends_unitEventTask_aside inp (Or.inr hwbm)) (by simp)
    | linking hwbm polls n hn hpolls hsent =>
        have haside : ¬ InBootloader s.currentState := by
          rintro (hc | hc | hc) <;> rw [hc] at hn <;> cases hn
        obtain ⟨ws, hsend, hws⟩ := sends_connectToUnit_link inp s
          (fun hc => haside (Or.inl hc)) (fun hc => haside (Or.inr (Or.inl hc)))
        have hstep : Sends ws s (step (.iterate inp) s) := by
          simp only [step, unitEventTask, hwbm]
          exact hsend
        apply inPlace_of_sends hstep
        intro w hw
        rw [if_neg (fun hboot => haside hboot.2)]
        exact wellFormed_linkMessage (hws w hw)
    | transferring hwbm hboot polls ts hstage hsent =>
        obtain ⟨ws, hsend, hnext, -⟩ := transferStage_connectToUnit inp h.stored hboot hstage
        have hstep : Sends ws s (step (.iterate inp) s) := by
          simp only [step, unitEventTask, hwbm]
          exact hsend
        apply inPlace_of_sends hstep
        intro w hw
        rw [if_pos ⟨hwbm, hboot⟩]
        exact hnext.messages.messages w (List.mem_append_right ts hw)
    | serving hwbm polls qs hqs hsent =>
        obtain ⟨qs', hsend, -⟩ :=
          asks_connectedIteration inp (h.attentive.waiting hwbm).services
        have hstep : Sends (qs'.map Question.frame) s (step (.iterate inp) s) := by
          simp only [step, unitEventTask, hwbm]
          exact hsend
        apply inPlace_of_sends hstep
        intro w hw
        rw [if_neg (fun hboot => by rw [hwbm] at hboot; cases hboot.1)]
        obtain ⟨q, -, rfl⟩ := List.mem_map.mp hw
        exact wellFormed_question q
  · obtain ⟨hsend, -⟩ := step_around (fun inp heq => he ⟨inp, heq⟩) s
    exact inPlace_of_sends hsend (by simp)

end Run

end UnitComm
end AvensysEsp32
