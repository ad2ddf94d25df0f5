import AvensysEsp32.UnitComm.LinkTimeout
import AvensysEsp32.UnitComm.Link

/-!
# The handshake with a unit

Each state of the handshake that waits has one request outstanding: from the
moment the first section is requested there is at most one message on the
line, the reply to that request.  It fails only at the start, where the two
polling requests that look for the unit may both be answered late.

What a section read from the board is worth is left open: `View sec m U` says
that the section `sec` of the image `m` is an acceptable view of the board's
image `U`, and `Pending` that the section will be dealt with later.  With exact
agreement the handshake loads the board's image; a weaker view serves while the
image changes under the handshake.
-/

namespace AvensysEsp32
namespace UnitComm

open Foundation Serial

/-! ## What each state waits for -/

/-- What a waiting state has asked for. -/
inductive Awaited
  | read (sec : EepromSection)
  | polling
deriving DecidableEq, Repr

def awaited : ConnectState → Option Awaited
  | .readEepromInfo => some (.read .info)
  | .readEepromConfiguration => some (.read .configuration)
  | .readEepromSettingPar => some (.read .settingPar)
  | .readEepromSetTemp => some (.read .setTemp)
  | .readEepromDayProg => some (.read .dayProg)
  | .readEepromHwSetting => some (.read .hwSetting)
  | .pollingBase => some .polling
  | _ => none

/-- The sections stored by the time a state is reached.  The configuration is
stored twice, and counts from the second time, as hardware setting. -/
def loaded : ConnectState → List EepromSection
  | .readEepromConfiguration => [.info]
  | .readEepromSettingPar => [.info]
  | .readEepromSetTemp => [.info, .settingPar]
  | .readEepromDayProg => [.info, .settingPar, .setTemp]
  | .readEepromHwSetting => [.info, .settingPar, .setTemp, .dayProg]
  | .pollingBase => writtenSections
  | .connected => writtenSections
  | _ => []

/-- The request a waiting state has sent. -/
def Awaited.request (device : DeviceIdentity) : Awaited → List UInt8
  | .read sec => readEepromRequest sec
  | .polling => pollingBaseRequest device

/-- How that request is sent. -/
def Awaited.send (inp : IterationInput) : Awaited → UnitState → UnitState
  | .read sec => sendReadEeprom inp sec
  | .polling => sendPollingBase inp

/-- A state that reads a section: the section, the field it is stored from, and
the state and the request that follow. -/
structure SectionStep where
  sec : EepromSection
  field : EepromField
  next : ConnectState
  request : Awaited

def sectionStep : ConnectState → Option SectionStep
  | .readEepromInfo => some ⟨.info, .addrUnit, .readEepromConfiguration, .read .configuration⟩
  | .readEepromConfiguration =>
      some ⟨.configuration, .numMotors, .readEepromSettingPar, .read .settingPar⟩
  | .readEepromSettingPar =>
      some ⟨.settingPar, .setPowerOn, .readEepromSetTemp, .read .setTemp⟩
  | .readEepromSetTemp =>
      some ⟨.setTemp, .bypassMinTempExt, .readEepromDayProg, .read .dayProg⟩
  | .readEepromDayProg => some ⟨.dayProg, .sDayProg, .readEepromHwSetting, .read .hwSetting⟩
  | .readEepromHwSetting => some ⟨.hwSetting, .numMotors, .pollingBase, .polling⟩
  | _ => none

/-- Two sections have no address in common. -/
def Apart (a b : EepromSection) : Prop :=
  a.startAddress + a.count ≤ b.startAddress ∨ b.startAddress + b.count ≤ a.startAddress

instance (a b : EepromSection) : Decidable (Apart a b) :=
  inferInstanceAs (Decidable (_ ∨ _))

/-- What the table of the states that read a section says. -/
structure SectionStep.Sound (c : ConnectState) (st : SectionStep) : Prop where
  awaited : awaited c = some (.read st.sec)
  sectionField : sectionField c = some st.field
  field : st.field.offsetof = st.sec.startAddress
  awaited_next : UnitComm.awaited st.next = some st.request
  loaded_next : ∀ sec ∈ loaded st.next, sec = st.sec ∨ (sec ∈ loaded c ∧ Apart sec st.sec)
  next_ne : st.next ≠ .linkConnected ∧ st.next ≠ .connected

theorem sectionStep_sound
    {c : ConnectState} {st : SectionStep}
    (h : sectionStep c = some st) :
    st.Sound c := by
  cases c <;> simp only [sectionStep, Option.some.injEq, reduceCtorEq] at h <;> subst h <;>
    exact ⟨rfl, rfl, by decide, rfl, by decide, by decide⟩

/-- A state that waits reads a section, or is the last. -/
theorem sectionStep_of_awaited
    {c : ConnectState} {a : Awaited}
    (h : awaited c = some a) :
    (∃ st, sectionStep c = some st ∧ a = .read st.sec) ∨ (c = .pollingBase ∧ a = .polling) := by
  cases c <;> simp only [awaited, Option.some.injEq, reduceCtorEq] at h <;> subst h <;>
    first
      | exact Or.inl ⟨_, rfl, rfl⟩
      | exact Or.inr ⟨rfl, rfl⟩

theorem connectToUnit_sectionStep
    (inp : IterationInput) {s : UnitState} {st : SectionStep}
    (h : sectionStep s.currentState = some st) :
    connectToUnit inp s = readEeprom inp st.field (st.request.send inp) st.next s := by
  unfold connectToUnit
  cases hc : s.currentState <;> rw [hc] at h <;>
    simp only [sectionStep, Option.some.injEq, reduceCtorEq] at h <;> subst h <;> rfl

/-- A state that waits stays as it is without a message, gives up on a timeout,
and goes on with a message. -/
theorem awaitReply_cases
    (inp : IterationInput) (reply : UnitState → UnitState) (s : UnitState) :
    (awaitReply inp reply s).wbmComState = .wbmError ∨
      ((readMessage s.port).1 ≤ runDownload ∧
        awaitReply inp reply s =
          { s with valRet := (readMessage s.port).1, port := (readMessage s.port).2 }) ∨
      (runDownload < (readMessage s.port).1 ∧
        expired inp 0 s.globalTimeoutMilliseconds timeoutMilliseconds = false ∧
        awaitReply inp reply s =
          reply { s with valRet := (readMessage s.port).1, port := (readMessage s.port).2 }) := by
  have hcase := awaitReply_case inp s reply
  generalize awaitReply inp reply s = s' at hcase ⊢
  cases hcase with
  | lost _ => exact Or.inl rfl
  | replied hexp hgt => exact Or.inr (Or.inr ⟨hgt, hexp, rfl⟩)
  | waiting _ hle => exact Or.inr (Or.inl ⟨hle, rfl⟩)

/-! ## One request at a time -/

section Pairing

variable (View : EepromSection → Memory → Memory → Prop)

/-- A message is the reply to what is awaited: a section of an image that is an
acceptable view of the board's, or a polling reply. -/
def Shows (board : Memory) : Awaited → List UInt8 → Prop
  | .read sec, w => ∃ m, View sec m board ∧ w = readSectionReply m sec
  | .polling, w => ∃ m measures, w = pollingBaseReply m measures

/-- A corrupted message that `Read_Message` recognises as such. -/
structure Rejected (w : List UInt8) : Prop where
  pos : 0 < w.length
  short : w.length < rxBufferSize
  verdict : verdict w < 0

/-- Of what is awaited there is nothing left on the line, or the request, or
the reply, or the reply corrupted; and nothing else. -/
def Paired (a : Awaited) (sys : System) : Prop :=
  Quiet sys ∨ Asked (a.request sys.gateway.device) sys ∨
    ∃ w, Replied w sys ∧ (Shows View sys.board a w ∨ Rejected w)

/-- The board's answer to what is awaited. -/
theorem boardAnswer_request
    (board : Memory) (a : Answer) (device : DeviceIdentity) (awaited : Awaited) :
    ∃ w, boardAnswer board a (awaited.request device) = some (board, w) ∧
      ((∀ sec, View sec board board) → Shows View board awaited w) := by
  cases awaited with
  | read sec =>
      exact ⟨_, boardAnswer_readEeprom board a sec, fun hrefl => ⟨board, hrefl sec, rfl⟩⟩
  | polling =>
      exact ⟨_, boardAnswer_pollingBase board a device, fun _ => ⟨board, a.measures, rfl⟩⟩

variable {View}

/-- Replies of the board are complete frames and fit the receiver. -/
theorem Shows.wellFormed
    {board : Memory} {a : Awaited} {w : List UInt8}
    (h : Shows View board a w) :
    WellFormed w ∧ w.length < rxBufferSize := by
  cases a with
  | read sec =>
      obtain ⟨m, -, rfl⟩ := h
      refine ⟨wellFormed_readSectionReply m sec, ?_⟩
      have := sec.count_le
      rw [length_readSectionReply]
      simp only [rxBufferSize]
      omega
  | polling =>
      obtain ⟨m, measures, rfl⟩ := h
      refine ⟨wellFormed_pollingBaseReply m measures, ?_⟩
      rw [length_pollingBaseReply]
      decide

/-- A call of `Read_Message` in a waiting state: it reports nothing, and the
pairing stands; or it returns the awaited reply, and the line is quiet. -/
theorem Paired.read
    {a : Awaited} {sys : System}
    (h : Paired View a sys) :
    ((readMessage sys.gateway.port).1 ≤ runDownload ∧
        ∀ gateway : UnitState, gateway.port = (readMessage sys.gateway.port).2 →
          gateway.device = sys.gateway.device → Paired View a { sys with gateway := gateway }) ∨
      ∃ w, Shows View sys.board a w ∧
        readMessage sys.gateway.port = ((w.length : Int), sys.gateway.port.received w) ∧
        sys.requests = [] ∧ sys.replies = [] ∧ Idle (sys.gateway.port.received w) := by
  rcases h with hquiet | hasked | ⟨w, ⟨hrequests, htransit⟩, hw⟩
  · left
    have hempty : (readMessage sys.gateway.port).1 ≤ runDownload := by
      rw [readMessage_idle hquiet.port]
      exact (by decide : bufferRxEmpy ≤ runDownload)
    refine ⟨hempty, fun gateway hport _ => ?_⟩
    exact Or.inl ⟨hquiet.requests, hquiet.replies, hport ▸ hquiet.port.readMessage⟩
  · left
    have hempty : (readMessage sys.gateway.port).1 ≤ runDownload := by
      rw [readMessage_idle hasked.port]
      exact (by decide : bufferRxEmpy ≤ runDownload)
    refine ⟨hempty, fun gateway hport hdevice => ?_⟩
    refine Or.inr (Or.inl ⟨?_, hasked.replies, hport ▸ hasked.port.readMessage⟩)
    rw [hdevice]
    exact hasked.requests
  · have hbounds : 0 < w.length ∧ w.length < rxBufferSize := by
      rcases hw with hshows | hrejected
      · exact ⟨by have := hshows.wellFormed.1.long; omega, hshows.wellFormed.2⟩
      · exact ⟨hrejected.pos, hrejected.short⟩
    rcases htransit.readMessage hbounds.1 hbounds.2 with ⟨hval, hstill⟩ | ⟨hread, hreplies, hidle⟩
    · left
      refine ⟨?_, fun gateway hport _ => ?_⟩
      · rcases hval with hval | hval
        · rw [hval]
          decide
        · rw [hval]
      · exact Or.inr (Or.inr ⟨w, ⟨hrequests, hport ▸ hstill⟩, hw⟩)
    · rcases hw with hshows | hrejected
      · right
        rw [verdict_of_wellFormed hshows.wellFormed.1] at hread
        exact ⟨w, hshows, hread, hrequests, hreplies, hidle⟩
      · left
        have hverdict := hrejected.verdict
        have hnone : (readMessage sys.gateway.port).1 ≤ runDownload := by
          rw [hread]
          exact le_runDownload_of_neg hverdict
        refine ⟨hnone, fun gateway hport _ => ?_⟩
        rw [hread] at hport
        exact Or.inl ⟨hrequests, hreplies, hport ▸ hidle⟩

/-- The board's answer keeps the pairing and the board's image. -/
theorem Paired.answer
    {awaited : Awaited} {sys : System}
    (hrefl : ∀ sec m, View sec m m)
    (h : Paired View awaited sys) (a : Answer) :
    Paired View awaited (systemStep (.answer a) sys) ∧
      (systemStep (.answer a) sys).board = sys.board ∧
      (systemStep (.answer a) sys).gateway = sys.gateway := by
  rcases h with hquiet | hasked | ⟨w, hreplied, hw⟩
  · rw [systemStep_answer_of_none a hquiet.requests]
    exact ⟨Or.inl hquiet, rfl, rfl⟩
  · obtain ⟨w, hanswer, hshows⟩ :=
      boardAnswer_request View sys.board a sys.gateway.device awaited
    obtain ⟨hreplied, hboard, hgateway⟩ := hasked.answer a hanswer
    refine ⟨Or.inr (Or.inr ⟨w, hreplied, Or.inl ?_⟩), hboard, hgateway⟩
    rw [hboard]
    exact hshows fun sec => hrefl sec sys.board
  · rw [systemStep_answer_of_none a hreplied.requests]
    exact ⟨Or.inr (Or.inr ⟨w, hreplied, hw⟩), rfl, rfl⟩

/-- The arrival of the message, intact or corrupted, keeps the pairing. -/
theorem Paired.arrive
    {awaited : Awaited} {sys : System} {e : SystemEvent}
    (h : Paired View awaited sys)
    (he : e = .deliver ∨ ∃ bytes, e = .corrupt bytes ∧ Rejected bytes) :
    Paired View awaited (systemStep e sys) := by
  have hnone : sys.replies = [] → systemStep e sys = sys := by
    intro hreplies
    rcases he with rfl | ⟨bytes, rfl, -⟩
    · exact systemStep_deliver_of_none hreplies
    · exact systemStep_corrupt_of_none bytes hreplies
  rcases h with hquiet | hasked | ⟨w, hreplied, hw⟩
  · rw [hnone hquiet.replies]
    exact Or.inl hquiet
  · rw [hnone hasked.replies]
    exact Or.inr (Or.inl hasked)
  · have hlen : w.length ≤ uart1RxCacheSize := by
      rcases hw with hshows | hrejected
      · exact Nat.le_of_lt hshows.wellFormed.2
      · exact Nat.le_of_lt hrejected.short
    rcases he with rfl | ⟨bytes, rfl, hrejected⟩
    · obtain ⟨port, -, hboard, -⟩ := deliver_gateway .deliver (Or.inl rfl) sys
      refine Or.inr (Or.inr ⟨w, hreplied.deliver hlen, ?_⟩)
      rw [hboard]
      exact hw
    · rcases hreplied.corrupt (Nat.le_of_lt hrejected.short) with hcorrupted | hsame
      · exact Or.inr (Or.inr ⟨bytes, hcorrupted, Or.inr hrejected⟩)
      · rw [hsame]
        exact Or.inr (Or.inr ⟨w, hreplied, hw⟩)

end Pairing

/-! ## Storing a section -/

/-- Storing a board's reply puts the section of the board's image in the
mirror, and leaves the sections apart from it alone. -/
theorem storeSection_readSectionReply
    {field : EepromField} {sec : EepromSection} {m : Memory} {s : UnitState}
    (hfield : field.offsetof = sec.startAddress)
    (hbuffer : ∀ i < rxBufferSize, s.port.buffSer1 i = ofBytes (readSectionReply m sec) i) :
    Set.EqOn (storeSection field s).gRDEeprom m sec.range ∧
      ∀ sec', Apart sec' sec →
        Set.EqOn (storeSection field s).gRDEeprom s.gRDEeprom sec'.range := by
  have hlimit := sec.count_le
  have hcount : (s.port.buffSer1 irsrAddrNumByteEep).toNat = sec.count := by
    rw [hbuffer _ (by decide), (readSectionReply_address m sec).2, sec.toNat_count]
  have himage : (storeSection field s).gRDEeprom =
      memcpy s.gRDEeprom sec.startAddress s.port.buffSer1 irsrStartDataEeprom sec.count := by
    unfold storeSection
    dsimp only
    rw [hcount, hfield]
  rw [himage]
  constructor
  · apply memcpy_eqOn_of_source
    intro i hi
    rw [hbuffer _ (by simp only [irsrStartDataEeprom, rxBufferSize]; omega)]
    exact readSectionReply_data m sec hi
  · intro sec' hapart
    apply memcpy_eqOn_of_disjoint
    rw [Set.disjoint_left]
    intro i hi hin
    have h₁ := hi.1
    have h₂ := hi.2
    have h₃ := hin.1
    have h₄ := hin.2
    rcases hapart with hapart | hapart
    · omega
    · omega

/-- Sending a request leaves the receiver and the image alone. -/
theorem Awaited.send_frame
    (inp : IterationInput) (a : Awaited) (s : UnitState) :
    (a.send inp s).port = s.port ∧ (a.send inp s).device = s.device ∧
      (a.send inp s).readEepromRequestIndex = s.readEepromRequestIndex ∧
      (a.send inp s).gRDEeprom = s.gRDEeprom ∧
      Sends [a.request s.device] s (a.send inp s) := by
  cases a with
  | read sec => exact ⟨rfl, rfl, rfl, rfl, sends_sendReadEeprom inp s sec⟩
  | polling => exact ⟨rfl, rfl, rfl, rfl, sends_sendPollingBase inp s⟩

/-- What follows a section's reply: the next request is sent from the next state. -/
theorem sectionReply_facts
    (inp : IterationInput) (st : SectionStep) (s : UnitState) :
    let s' := sectionReply inp st.field (st.request.send inp) st.next s
    s'.currentState = st.next ∧ s'.port = s.port ∧ s'.device = s.device ∧
      s'.readEepromRequestIndex = s.readEepromRequestIndex ∧
      s'.gRDEeprom = (storeSection st.field s).gRDEeprom ∧
      Sends [st.request.request s.device] s s' := by
  obtain ⟨hport, hdevice, hindex, himage, hsend⟩ :=
    Awaited.send_frame inp st.request (storeSection st.field s)
  exact ⟨rfl, hport, hdevice, hindex, himage,
    sends_sectionReply inp s st.field (st.request.send inp) st.next hsend⟩

/-! ## The invariant -/

/-- What a view of the board's image has to be: a matter of the section's own
bytes, and true of the board's image itself. -/
structure ViewRules (View : EepromSection → Memory → Memory → Prop) : Prop where
  refl : ∀ sec m, View sec m m
  congr : ∀ sec m m' board, Set.EqOn m' m sec.range → View sec m board → View sec m' board

section Invariant

variable (View : EepromSection → Memory → Memory → Prop)
variable (Pending : EepromSection → BitVec 16 → Prop)

structure HandshakeInv (sys : System) : Prop where
  paired :
    sys.gateway.wbmComState = .wbmCommunicating →
      ∀ a, awaited sys.gateway.currentState = some a → Paired View a sys
  asked :
    sys.gateway.wbmComState = .wbmCommunicating →
      ∀ a, awaited sys.gateway.currentState = some a →
        (uartWrites sys.gateway.outputs).getLast? = some (a.request sys.gateway.device)
  image :
    sys.gateway.wbmComState = .wbmCommunicating →
      ∀ sec ∈ loaded sys.gateway.currentState,
        View sec sys.gateway.gRDEeprom sys.board ∨
          Pending sec sys.gateway.readEepromRequestIndex
  quiet :
    sys.gateway.wbmComState = .wbmCommunicating →
      sys.gateway.currentState = .connected → Quiet sys

/-- When the first section is requested nothing is outstanding; a client's write
and a change of the board's image leave what is stored acceptable. -/
def HandshakeEvent (e : SystemEvent) (sys : System) : Prop :=
  match e with
  | .gateway (.iterate _) =>
      sys.gateway.wbmComState = .wbmCommunicating →
        sys.gateway.currentState = .linkConnected → Quiet sys
  | .gateway (.clientWrite w) =>
      241 ≤ w.payload.length →
        ∀ sec m board index, View sec m board ∨ Pending sec (index ||| fullEepromWrite)
  | .gateway (.uartData _) => False
  | .change eeprom =>
      (∀ sec ∈ loaded sys.gateway.currentState, View sec sys.gateway.gRDEeprom sys.board →
          View sec sys.gateway.gRDEeprom eeprom ∨
            Pending sec sys.gateway.readEepromRequestIndex) ∧
        ∀ a w, Replied w sys → Shows View sys.board a w → Shows View eeprom a w
  | .corrupt bytes => Rejected bytes
  | _ => True

variable {View Pending} {sys : System}

theorem HandshakeInv.of_not_communicating
    (h : sys.gateway.wbmComState ≠ .wbmCommunicating) :
    HandshakeInv View Pending sys where
  paired := fun hcomm => absurd hcomm h
  asked := fun hcomm => absurd hcomm h
  image := fun hcomm => absurd hcomm h
  quiet := fun hcomm => absurd hcomm h

/-- A state before the first request, or of the firmware transfer. -/
def Elsewhere (c : ConnectState) : Prop :=
  awaited c = none ∧ loaded c = [] ∧ c ≠ .connected

instance (c : ConnectState) : Decidable (Elsewhere c) :=
  inferInstanceAs (Decidable (_ ∧ _))

theorem elsewhere_of_awaited
    {c : ConnectState}
    (ha : awaited c = none) (hc : c ≠ .connected) :
    Elsewhere c := by
  refine ⟨ha, ?_, hc⟩
  cases c <;>
    first
      | rfl
      | exact absurd rfl hc
      | cases ha

theorem HandshakeInv.of_elsewhere
    (h : Elsewhere sys.gateway.currentState) :
    HandshakeInv View Pending sys where
  paired := fun _ a ha => by
    rw [h.1] at ha
    cases ha
  asked := fun _ a ha => by
    rw [h.1] at ha
    cases ha
  image := fun _ sec hsec => by
    rw [h.2.1] at hsec
    cases hsec
  quiet := fun _ hc => absurd hc h.2.2

/-- The states that wait for nothing lead to one another, or request the first
section. -/
theorem connectToUnit_elsewhere
    (inp : IterationInput) {s : UnitState}
    (h : Elsewhere s.currentState) (hne : s.currentState ≠ .linkConnected) :
    Elsewhere (connectToUnit inp s).currentState := by
  unfold connectToUnit
  cases hc : s.currentState <;> rw [hc] at h hne <;>
    first
      | exact absurd h (by decide)
      | exact absurd rfl hne
      | skip
  case init => exact (by decide : Elsewhere .linkConnecting)
  case linkConnecting => exact (by decide : Elsewhere .trySerialLink)
  case trySerialLink =>
      have hcase := trySerialLink_case inp s
      dsimp only
      generalize trySerialLink inp s = s' at hcase ⊢
      cases hcase with
      | anew _ _ => exact (by decide : Elsewhere .init)
      | again _ _ => exact (by decide : Elsewhere .linkConnecting)
      | read _ next hnext =>
          dsimp only
          rw [hnext]
          split
          · exact (by decide : Elsewhere .bootloaderState)
          · split
            · exact (by decide : Elsewhere .linkConnected)
            · exact hc ▸ h
  case bootloaderState =>
      have hcase := bootloaderState_case inp s
      dsimp only
      generalize bootloaderState inp s = s' at hcase ⊢
      cases hcase with
      | held _ => exact hc ▸ h
      | header _ transfer next hnext =>
          rcases hnext with rfl | rfl
          · exact (by decide : Elsewhere .bootloaderState1)
          · exact (by decide : Elsewhere .bootloaderStateEnd)
  case bootloaderState1 =>
      have hcase := bootloaderState1_case s
      dsimp only
      generalize bootloaderState1 s = s' at hcase ⊢
      cases hcase with
      | waiting _ => exact hc ▸ h
      | acknowledged _ transfer next hnext outputs _ =>
          rcases hnext with rfl | rfl
          · exact hc ▸ h
          · exact (by decide : Elsewhere .bootloaderStateEnd)
  case bootloaderStateEnd =>
      dsimp only
      rw [hc]
      exact h

/-- An iteration of the gateway, with what it sends. -/
theorem systemStep_iterate
    (inp : IterationInput)
    (hcomm : sys.gateway.wbmComState = .wbmCommunicating)
    {ws : List (List UInt8)}
    (hsend : Sends ws sys.gateway (connectToUnit inp sys.gateway)) :
    systemStep (.gateway (.iterate inp)) sys =
      { sys with
        gateway := connectToUnit inp sys.gateway
        requests := sys.requests ++ ws } := by
  have hstep : step (.iterate inp) sys.gateway = connectToUnit inp sys.gateway := by
    simp only [step, unitEventTask, hcomm]
  have hsent : sent (.iterate inp) sys.gateway = ws := sent_eq (hstep ▸ hsend)
  simp only [systemStep, hsent, hstep]

/-- The first section is requested while nothing is outstanding. -/
theorem handshakeInv_linkConnected
    (inp : IterationInput)
    (hcomm : sys.gateway.wbmComState = .wbmCommunicating)
    (hstate : sys.gateway.currentState = .linkConnected)
    (hquiet : Quiet sys) :
    HandshakeInv View Pending (systemStep (.gateway (.iterate inp)) sys) := by
  have hconnect : connectToUnit inp sys.gateway = linkConnected inp sys.gateway := by
    simp only [connectToUnit, hstate]
  have hsend := sends_linkConnected inp sys.gateway
  rw [systemStep_iterate inp hcomm (hconnect ▸ hsend), hconnect]
  have hawaited : ∀ a, awaited (linkConnected inp sys.gateway).currentState = some a →
      a = .read .info := by
    intro a ha
    exact (Option.some.inj ha).symm
  refine ⟨fun _ a ha => ?_, fun _ a ha => ?_, fun _ sec hsec => ?_, fun _ hc => ?_⟩
  · rw [hawaited a ha]
    refine Or.inr (Or.inl ⟨?_, hquiet.replies, hquiet.port⟩)
    rw [hquiet.requests]
    rfl
  · rw [hawaited a ha]
    dsimp only
    rw [hsend]
    exact List.getLast?_concat
  · cases hsec
  · cases hc

variable (View Pending sys) in
/-- With the awaited reply in the receiver, `reply` takes the gateway to a state
in which the invariant holds again. -/
def GoesOn (a : Awaited) (reply : UnitState → UnitState) : Prop :=
  ∀ w, Shows View sys.board a w →
    sys.requests = [] → sys.replies = [] → Idle (sys.gateway.port.received w) →
    ∀ s : UnitState, s.port = sys.gateway.port.received w →
      s.device = sys.gateway.device → s.gRDEeprom = sys.gateway.gRDEeprom →
      s.readEepromRequestIndex = sys.gateway.readEepromRequestIndex →
      ∃ ws, Sends ws s (reply s) ∧
        HandshakeInv View Pending
          { sys with gateway := reply s, requests := sys.requests ++ ws }

/-- A state that reads a section stores it and requests the next. -/
theorem goesOn_sectionReply
    (hrules : ViewRules View)
    (inp : IterationInput) (h : HandshakeInv View Pending sys)
    (hcomm : sys.gateway.wbmComState = .wbmCommunicating)
    {st : SectionStep} (hst : sectionStep sys.gateway.currentState = some st) :
    GoesOn View Pending sys (.read st.sec)
      (sectionReply inp st.field (st.request.send inp) st.next) := by
  have hsound := sectionStep_sound hst
  rintro w ⟨m, hview, rfl⟩ hrequests hreplies hidle s hport hdevice hmirror hindex
  have hbuffer : ∀ i < rxBufferSize,
      s.port.buffSer1 i = ofBytes (readSectionReply m st.sec) i := by
    intro i hi
    rw [hport]
    exact downloaded_apply _ _ hi
  obtain ⟨hstored, hkept⟩ := storeSection_readSectionReply hsound.field hbuffer
  obtain ⟨hnext, hport', hdevice', hindex', hmirror', hsend⟩ := sectionReply_facts inp st s
  have hawaited : ∀ a', awaited (sectionReply inp st.field (st.request.send inp) st.next
      s).currentState = some a' → a' = st.request := by
    intro a' ha'
    rw [hnext, hsound.awaited_next] at ha'
    exact (Option.some.inj ha').symm
  refine ⟨_, hsend, ⟨fun _ a' ha' => ?_, fun _ a' ha' => ?_, fun _ sec hsec => ?_,
    fun _ hc => ?_⟩⟩
  · rw [hawaited a' ha']
    refine Or.inr (Or.inl ⟨?_, hreplies, ?_⟩)
    · dsimp only
      rw [hrequests, hdevice']
      rfl
    · dsimp only
      rw [hport', hport]
      exact hidle
  · rw [hawaited a' ha']
    dsimp only
    rw [hsend, hdevice']
    exact List.getLast?_concat
  · dsimp only at hsec ⊢
    rw [hnext] at hsec
    rw [hmirror', hindex', hindex]
    rcases hsound.loaded_next sec hsec with rfl | ⟨hbefore, hapart⟩
    · exact Or.inl (hrules.congr _ m _ _ hstored hview)
    · rcases h.image hcomm sec hbefore with hview' | hpending
      · refine Or.inl (hrules.congr _ _ _ _ ?_ hview')
        rw [← hmirror]
        exact hkept sec hapart
      · exact Or.inr hpending
  · dsimp only at hc
    rw [hnext] at hc
    exact absurd hc hsound.next_ne.2

/-- The second polling reply leads to the last state, the line quiet. -/
theorem goesOn_pollingReply
    (inp : IterationInput) (h : HandshakeInv View Pending sys)
    (hcomm : sys.gateway.wbmComState = .wbmCommunicating)
    (hstate : sys.gateway.currentState = .pollingBase) :
    GoesOn View Pending sys .polling (pollingReply inp) := by
  intro w _ hrequests hreplies hidle s hport _ hmirror hindex
  refine ⟨[], sends_of_outputs_eq rfl, ⟨fun _ a' ha' => ?_, fun _ a' ha' => ?_,
    fun _ sec hsec => ?_, fun _ _ => ?_⟩⟩
  · cases ha'
  · cases ha'
  · have himage := h.image hcomm sec (by rw [hstate]; exact hsec)
    rw [← hmirror, ← hindex] at himage
    exact himage
  · refine ⟨by rw [hrequests]; rfl, hreplies, ?_⟩
    show Idle s.port
    rw [hport]
    exact hidle

/-- A state that waits stays, gives up, or goes on with the reply it waits for. -/
theorem handshakeInv_awaiting
    (hrules : ViewRules View)
    (inp : IterationInput) (h : HandshakeInv View Pending sys)
    (hcomm : sys.gateway.wbmComState = .wbmCommunicating)
    {a : Awaited} (ha : awaited sys.gateway.currentState = some a) :
    HandshakeInv View Pending (systemStep (.gateway (.iterate inp)) sys) := by
  obtain ⟨reply, hconnect, hgoes⟩ :
      ∃ reply, connectToUnit inp sys.gateway = awaitReply inp reply sys.gateway ∧
        GoesOn View Pending sys a reply := by
    rcases sectionStep_of_awaited ha with ⟨st, hst, rfl⟩ | ⟨hstate, rfl⟩
    · exact ⟨_, connectToUnit_sectionStep inp hst, goesOn_sectionReply hrules inp h hcomm hst⟩
    · exact ⟨_, by simp only [connectToUnit, hstate], goesOn_pollingReply inp h hcomm hstate⟩
  rcases awaitReply_cases inp reply sys.gateway with herror | ⟨hle, hsame⟩ | ⟨hgt, -, hgo⟩
  · apply HandshakeInv.of_not_communicating
    have hstep : (systemStep (.gateway (.iterate inp)) sys).gateway =
        connectToUnit inp sys.gateway := by
      simp only [systemStep, step, unitEventTask, hcomm]
    rw [hstep, hconnect, herror]
    decide
  · have hsame' := hconnect.trans hsame
    have hsend : Sends [] sys.gateway (connectToUnit inp sys.gateway) := by
      rw [hsame']
      exact sends_of_outputs_eq rfl
    rw [systemStep_iterate inp hcomm hsend, hsame', List.append_nil]
    rcases (h.paired hcomm a ha).read with ⟨-, hpaired⟩ | ⟨w, hshows, hread, -⟩
    · refine ⟨fun _ a' ha' => ?_, h.asked, h.image, fun _ hc => ?_⟩
      · have haa : a' = a := by
          have : some a' = some a := ha'.symm.trans ha
          exact Option.some.inj this
        rw [haa]
        exact hpaired _ rfl rfl
      · dsimp only at hc
        rw [hc] at ha
        cases ha
    · have := hshows.wellFormed.1.runDownload_lt
      rw [hread] at hle
      exact absurd hle (not_le.mpr this)
  · rcases (h.paired hcomm a ha).read with ⟨hle, -⟩ | ⟨w, hshows, hread, hreq, hrep, hidle⟩
    · exact absurd hgt (not_lt.mpr hle)
    · obtain ⟨ws, hsend, hinv⟩ := hgoes w hshows hreq hrep hidle
        { sys.gateway with
          valRet := (readMessage sys.gateway.port).1
          port := (readMessage sys.gateway.port).2 }
        (by rw [hread]) rfl rfl rfl
      have hgo' := hconnect.trans hgo
      have hsend' : Sends ws sys.gateway (connectToUnit inp sys.gateway) := by
        rw [hgo']
        exact Sends.of_silent (sends_of_outputs_eq rfl) hsend
      rw [systemStep_iterate inp hcomm hsend', hgo']
      exact hinv

/-- One iteration of the handshake keeps the invariant. -/
theorem handshakeInv_iterate
    (hrules : ViewRules View)
    (inp : IterationInput) (h : HandshakeInv View Pending sys)
    (hquiet : sys.gateway.wbmComState = .wbmCommunicating →
      sys.gateway.currentState = .linkConnected → Quiet sys) :
    HandshakeInv View Pending (systemStep (.gateway (.iterate inp)) sys) := by
  have hgateway : (systemStep (.gateway (.iterate inp)) sys).gateway =
      unitEventTask inp sys.gateway := by
    rfl
  cases hwbm : sys.gateway.wbmComState with
  | wbmInitialize =>
      apply HandshakeInv.of_elsewhere
      rw [hgateway]
      simp only [unitEventTask, hwbm]
      exact (by decide : Elsewhere .init)
  | wbmCommunicating =>
      by_cases hlink : sys.gateway.currentState = .linkConnected
      · exact handshakeInv_linkConnected inp hwbm hlink (hquiet hwbm hlink)
      cases ha : awaited sys.gateway.currentState with
      | some a => exact handshakeInv_awaiting hrules inp h hwbm ha
      | none =>
          by_cases hconn : sys.gateway.currentState = .connected
          · apply HandshakeInv.of_not_communicating
            rw [hgateway]
            simp only [unitEventTask, hwbm, connectToUnit, hconn]
            rw [(connected_timers inp sys.gateway).1]
            decide
          · apply HandshakeInv.of_elsewhere
            rw [hgateway]
            simp only [unitEventTask, hwbm]
            exact connectToUnit_elsewhere inp (elsewhere_of_awaited ha hconn) hlink
  | wbmConnected =>
      apply HandshakeInv.of_not_communicating
      rw [hgateway, unitEventTask_connected inp hwbm, connectedIteration_wbmComState]
      rcases beforeReceive_wbmComState inp sys.gateway with hsame | hlost
      · rw [hsame, hwbm]
        decide
      · rw [hlost]
        decide
  | wbmError =>
      apply HandshakeInv.of_not_communicating
      rw [hgateway]
      simp [unitEventTask, hwbm, UnitState.emitAll]

/-- Replacing parts of the gateway that the invariant does not look at. -/
theorem HandshakeInv.of_same
    (h : HandshakeInv View Pending sys) {gateway : UnitState}
    (hwbm : gateway.wbmComState = sys.gateway.wbmComState)
    (hstate : gateway.currentState = sys.gateway.currentState)
    (hport : gateway.port = sys.gateway.port)
    (hdevice : gateway.device = sys.gateway.device)
    (hsend : Sends [] sys.gateway gateway)
    (himage : ∀ sec ∈ loaded sys.gateway.currentState,
      View sec sys.gateway.gRDEeprom sys.board ∨
          Pending sec sys.gateway.readEepromRequestIndex →
        View sec gateway.gRDEeprom sys.board ∨ Pending sec gateway.readEepromRequestIndex) :
    HandshakeInv View Pending { sys with gateway := gateway } where
  paired := by
    intro hcomm a ha
    dsimp only at hcomm ha
    rw [hwbm] at hcomm
    rw [hstate] at ha
    rcases h.paired hcomm a ha with hquiet | hasked | ⟨w, hreplied, hw⟩
    · exact Or.inl ⟨hquiet.requests, hquiet.replies, hport ▸ hquiet.port⟩
    · refine Or.inr (Or.inl ⟨?_, hasked.replies, hport ▸ hasked.port⟩)
      dsimp only
      rw [hdevice]
      exact hasked.requests
    · exact Or.inr (Or.inr ⟨w, ⟨hreplied.requests, hport ▸ hreplied.transit⟩, hw⟩)
  asked := by
    intro hcomm a ha
    dsimp only at hcomm ha ⊢
    rw [hwbm] at hcomm
    rw [hstate] at ha
    rw [hsend, List.append_nil, hdevice]
    exact h.asked hcomm a ha
  image := by
    intro hcomm sec hsec
    dsimp only at hcomm hsec ⊢
    rw [hwbm] at hcomm
    rw [hstate] at hsec
    exact himage sec hsec (h.image hcomm sec hsec)
  quiet := by
    intro hcomm hc
    dsimp only at hcomm hc
    rw [hwbm] at hcomm
    rw [hstate] at hc
    have hquiet := h.quiet hcomm hc
    exact ⟨hquiet.requests, hquiet.replies, hport ▸ hquiet.port⟩

/-- A client's write keeps the invariant. -/
theorem handshakeInv_clientWrite
    (w : ClientWrite) (h : HandshakeInv View Pending sys)
    (hwrite : 241 ≤ w.payload.length →
      ∀ sec m board index, View sec m board ∨ Pending sec (index ||| fullEepromWrite)) :
    HandshakeInv View Pending (systemStep (.gateway (.clientWrite w)) sys) := by
  have hsame := sameButImage_clientWrite w sys.gateway
  rw [systemStep_gateway_of_silent (sends_clientWrite sys.gateway w)]
  apply h.of_same hsame.wbmComState hsame.currentState hsame.port hsame.device
    (sends_clientWrite sys.gateway w)
  intro sec _ hgood
  by_cases hlong : 241 ≤ w.payload.length
  · rw [(clientWrite_accepted w sys.gateway hlong).2]
    exact hwrite hlong sec _ _ _
  · rw [clientWrite_rejected w sys.gateway (by omega)]
    exact hgood

/-- The board's answer keeps the invariant: what a waiting state has asked for
does not change the board's image. -/
theorem handshakeInv_answer
    (hrules : ViewRules View)
    (a : Answer) (h : HandshakeInv View Pending sys) :
    HandshakeInv View Pending (systemStep (.answer a) sys) := by
  have hgateway := systemStep_answer_gateway a sys
  by_cases hcomm : sys.gateway.wbmComState = .wbmCommunicating
  · cases ha : awaited sys.gateway.currentState with
    | some awaited =>
        obtain ⟨hpaired, hboard, -⟩ := (h.paired hcomm awaited ha).answer hrules.refl a
        refine ⟨fun _ a' ha' => ?_, fun hcomm' a' ha' => ?_, fun hcomm' sec hsec => ?_,
          fun _ hc => ?_⟩
        · rw [hgateway] at ha'
          have haa : awaited = a' := Option.some.inj (ha.symm.trans ha')
          exact haa ▸ hpaired
        · rw [hgateway] at hcomm' ha' ⊢
          exact h.asked hcomm' a' ha'
        · rw [hgateway] at hcomm' hsec ⊢
          rw [hboard]
          exact h.image hcomm' sec hsec
        · rw [hgateway] at hc
          rw [hc] at ha
          cases ha
    | none =>
        by_cases hconn : sys.gateway.currentState = .connected
        · rw [systemStep_answer_of_none a (h.quiet hcomm hconn).requests]
          exact h
        · apply HandshakeInv.of_elsewhere
          rw [hgateway]
          exact elsewhere_of_awaited ha hconn
  · apply HandshakeInv.of_not_communicating
    rw [hgateway]
    exact hcomm

/-- The handshake's invariant over every event. -/
theorem handshakeInv_step
    (hrules : ViewRules View)
    (e : SystemEvent) (sys : System)
    (he : HandshakeEvent View Pending e sys) (h : HandshakeInv View Pending sys) :
    HandshakeInv View Pending (systemStep e sys) := by
  have hother : ∀ e, Sends [] sys.gateway (step e sys.gateway) →
      HandshakeInv View Pending { sys with gateway := step e sys.gateway } →
        HandshakeInv View Pending (systemStep (.gateway e) sys) := by
    intro e hsend hinv
    rw [systemStep_gateway_of_silent hsend]
    exact hinv
  have harrive : ∀ e, (e = .deliver ∨ ∃ bytes, e = .corrupt bytes ∧ Rejected bytes) →
      HandshakeInv View Pending (systemStep e sys) := by
    intro e he
    obtain ⟨port, hgateway, hboard, -⟩ := deliver_gateway e
      (he.imp_right fun ⟨bytes, hbytes, _⟩ => ⟨bytes, hbytes⟩) sys
    refine ⟨fun hcomm a ha => ?_, fun hcomm a ha => ?_, fun hcomm sec hsec => ?_,
      fun hcomm hc => ?_⟩
    · rw [hgateway] at hcomm ha
      exact (h.paired hcomm a ha).arrive he
    · rw [hgateway] at hcomm ha ⊢
      exact h.asked hcomm a ha
    · rw [hgateway] at hcomm hsec ⊢
      rw [hboard]
      exact h.image hcomm sec hsec
    · rw [hgateway] at hcomm hc
      have hquiet := h.quiet hcomm hc
      have hsame : systemStep e sys = sys := by
        rcases he with rfl | ⟨bytes, rfl, -⟩
        · exact systemStep_deliver_of_none hquiet.replies
        · exact systemStep_corrupt_of_none bytes hquiet.replies
      rw [hsame]
      exact hquiet
  cases e with
  | gateway e =>
      cases e with
      | iterate inp => exact handshakeInv_iterate hrules inp h he
      | uartData data => exact he.elim
      | clientWrite w => exact handshakeInv_clientWrite w h he
      | mqttReady ready =>
          exact hother _ (sends_of_outputs_eq rfl)
            (h.of_same rfl rfl rfl rfl (sends_of_outputs_eq rfl) fun _ _ hgood => hgood)
      | unitUpdateTask running =>
          exact hother _ (sends_of_outputs_eq rfl)
            (h.of_same rfl rfl rfl rfl (sends_of_outputs_eq rfl) fun _ _ hgood => hgood)
      | firmwareStored content =>
          exact hother _ (sends_of_outputs_eq rfl)
            (h.of_same rfl rfl rfl rfl (sends_of_outputs_eq rfl) fun _ _ hgood => hgood)
  | answer a => exact handshakeInv_answer hrules a h
  | change eeprom =>
      obtain ⟨himage, hline⟩ := he
      refine ⟨fun hcomm a ha => ?_, h.asked, fun hcomm sec hsec => ?_, fun hcomm hc =>
        ⟨(h.quiet hcomm hc).requests, (h.quiet hcomm hc).replies, (h.quiet hcomm hc).port⟩⟩
      · rcases h.paired hcomm a ha with hquiet | hasked | ⟨w, hreplied, hw⟩
        · exact Or.inl ⟨hquiet.requests, hquiet.replies, hquiet.port⟩
        · exact Or.inr (Or.inl ⟨hasked.requests, hasked.replies, hasked.port⟩)
        · exact Or.inr (Or.inr ⟨w, ⟨hreplied.requests, hreplied.transit⟩,
            hw.imp_left (hline a w hreplied)⟩)
      · rcases h.image hcomm sec hsec with hview | hpending
        · exact himage sec hsec hview
        · exact Or.inr hpending
  | deliver => exact harrive _ (Or.inl rfl)
  | corrupt bytes => exact harrive _ (Or.inr ⟨bytes, rfl, he⟩)

end Invariant

end UnitComm
end AvensysEsp32
