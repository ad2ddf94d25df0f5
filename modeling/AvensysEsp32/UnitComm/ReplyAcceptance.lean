import AvensysEsp32.UnitComm.Task

/-!
# Which messages are acted on

A message is acted on as a reply when, once connected, one of the parse
functions is called on it, or when it makes the handshake go on.  Every caller
of `Read_Message` takes a result greater than `RUN_DOWNLOAD` for an accepted
frame; the two texts that `Read_Message` searches for are accepted without
being frames.
-/

namespace AvensysEsp32
namespace UnitComm

open Foundation Serial

/-! ## Acting on a message -/

/-- The states of the handshake that wait for the reply to a request. -/
def AwaitsReply (c : ConnectState) : Prop :=
  c ∈ [.readEepromInfo, .readEepromConfiguration, .readEepromSettingPar,
    .readEepromSetTemp, .readEepromDayProg, .readEepromHwSetting, ConnectState.pollingBase]

instance (c : ConnectState) : Decidable (AwaitsReply c) :=
  inferInstanceAs (Decidable (c ∈ _))

/-- The task takes messages for replies. -/
def Receiving (s : UnitState) : Prop :=
  s.wbmComState = .wbmConnected ∨
    (s.wbmComState = .wbmCommunicating ∧ AwaitsReply s.currentState)

instance (s : UnitState) : Decidable (Receiving s) :=
  inferInstanceAs (Decidable (_ ∨ _))

/-- The reply that the next iteration handles once connected. -/
def receivedReply (s : UnitState) : Option Reply :=
  let message := readMessage s.port
  if message.1 > runDownload then replyOf (message.2.buffSer1 ihm1TypeComand) else none

/-- The next iteration acts on a message: it parses it as a reply, or goes on
with the handshake. -/
def ActedOn (inp : IterationInput) (s : UnitState) : Prop :=
  (s.wbmComState = .wbmConnected ∧ (receivedReply s).isSome) ∨
    (s.wbmComState = .wbmCommunicating ∧ AwaitsReply s.currentState ∧
      (connectToUnit inp s).currentState ≠ s.currentState)

instance (inp : IterationInput) (s : UnitState) : Decidable (ActedOn inp s) :=
  inferInstanceAs (Decidable (_ ∨ _))

/-- The step from `s` to `s'` stores nothing of a message and sets no
attribute from one. -/
structure NothingStored (s s' : UnitState) : Prop where
  gRDEeprom : s'.gRDEeprom = s.gRDEeprom
  gKTSData : s'.gKTSData = s.gKTSData
  gKTSDebugData : s'.gKTSDebugData = s.gKTSDebugData
  outputs : s'.outputs = s.outputs

/-- The iteration from `s` leaves the message alone: once connected its
reception stores nothing, and in the handshake the whole iteration. -/
def LeftAlone (inp : IterationInput) (s : UnitState) : Prop :=
  (s.wbmComState = .wbmConnected →
      NothingStored (beforeReceive inp s) (receive inp (beforeReceive inp s))) ∧
    (s.wbmComState = .wbmCommunicating → AwaitsReply s.currentState →
      NothingStored s (connectToUnit inp s))

/-- Without a reply to handle, the reception leaves the mirror, the received
data and the attributes alone. -/
theorem receive_of_no_reply
    (inp : IterationInput) (s : UnitState)
    (h : receivedReply s = none) :
    NothingStored s (receive inp s) := by
  have hcase := receive_case inp s
  generalize receive inp s = s' at hcase
  cases hcase with
  | reply hgt hreply =>
      unfold receivedReply at h
      dsimp only at h
      rw [if_pos hgt, hreply] at h
      cases h
  | unknown hgt hnone => exact ⟨rfl, rfl, rfl, rfl⟩
  | rejected hneg => exact ⟨rfl, rfl, rfl, rfl⟩
  | nothing hle hnonneg => exact ⟨rfl, rfl, rfl, rfl⟩

/-- The reads that the next message asks for. -/
def readsAsked (s : UnitState) : BitVec 16 :=
  let message := readMessage s.port
  match receivedReply s with
  | some .pollingBase =>
      changeRequests (pollingBaseData message.2.buffSer1).cntUpdate s.knownCounters
  | some .writeEeprom =>
      changeRequests (fun sec => message.2.buffSer1 sec.irswCntUpdate)
        fun sec => s.gRDEeprom sec.cntUpdateAddress
  | _ => 0

/-- The reception sets the bits that the message asks for. -/
theorem receive_index
    (inp : IterationInput) (s : UnitState) :
    (receive inp s).readEepromRequestIndex = s.readEepromRequestIndex ||| readsAsked s := by
  have hcase := receive_case inp s
  unfold readsAsked receivedReply
  dsimp only
  generalize receive inp s = s' at hcase
  cases hcase with
  | @reply reply hgt hreply =>
      obtain ⟨published, -, heq⟩ := handleReply_eq inp
        { s with
          valRet := (readMessage s.port).1
          port := (readMessage s.port).2
          globalTimeoutMilliseconds := inp.millis 13 } reply
      rw [heq, if_pos hgt, hreply]
      unfold parseReply
      cases reply with
      | pollingBase =>
          dsimp only
          rw [pollingBaseDataParse_eq]
          rfl
      | dataDebug => exact (BitVec.or_zero).symm
      | readEeprom => exact (BitVec.or_zero).symm
      | writeEeprom =>
          dsimp only
          rw [writeEepromDataParse_eq]
  | unknown hgt hnone =>
      rw [if_pos hgt, hnone]
      exact (BitVec.or_zero).symm
  | rejected hneg =>
      rw [if_neg (not_lt.mpr (le_runDownload_of_neg hneg))]
      exact (BitVec.or_zero).symm
  | nothing hle hnonneg =>
      rw [if_neg (not_lt.mpr hle)]
      exact (BitVec.or_zero).symm

/-- What each state that waits for a reply does with it, and where it goes on. -/
def handshakeReply (inp : IterationInput) : ConnectState → (UnitState → UnitState) × ConnectState
  | .readEepromInfo =>
      (sectionReply inp .addrUnit (sendReadEeprom inp .configuration)
        .readEepromConfiguration, .readEepromConfiguration)
  | .readEepromConfiguration =>
      (sectionReply inp .numMotors (sendReadEeprom inp .settingPar)
        .readEepromSettingPar, .readEepromSettingPar)
  | .readEepromSettingPar =>
      (sectionReply inp .setPowerOn (sendReadEeprom inp .setTemp)
        .readEepromSetTemp, .readEepromSetTemp)
  | .readEepromSetTemp =>
      (sectionReply inp .bypassMinTempExt (sendReadEeprom inp .dayProg)
        .readEepromDayProg, .readEepromDayProg)
  | .readEepromDayProg =>
      (sectionReply inp .sDayProg (sendReadEeprom inp .hwSetting)
        .readEepromHwSetting, .readEepromHwSetting)
  | .readEepromHwSetting =>
      (sectionReply inp .numMotors (sendPollingBase inp) .pollingBase, .pollingBase)
  | .pollingBase => (pollingReply inp, .connected)
  | c => (id, c)

/-- The states that wait for a reply differ only in what they do with it. -/
theorem connectToUnit_awaitsReply
    (inp : IterationInput) {s : UnitState}
    (h : AwaitsReply s.currentState) :
    ∃ (reply : UnitState → UnitState) (next : ConnectState),
      next ≠ s.currentState ∧
        connectToUnit inp s = awaitReply inp reply s ∧
        ∀ s', (reply s').currentState = next := by
  refine ⟨(handshakeReply inp s.currentState).1, (handshakeReply inp s.currentState).2, ?_⟩
  unfold connectToUnit
  cases hc : s.currentState <;>
    first
      | exact absurd h (by rw [hc]; decide)
      | exact ⟨by simp [handshakeReply], rfl, fun _ => rfl⟩

/-- A handshake that is not made to go on leaves the mirror and the attributes
alone. -/
theorem connectToUnit_of_not_actedOn
    (inp : IterationInput) {s : UnitState}
    (hawaits : AwaitsReply s.currentState)
    (h : (connectToUnit inp s).currentState = s.currentState) :
    NothingStored s (connectToUnit inp s) := by
  obtain ⟨reply, next, hne, heq, hnext⟩ := connectToUnit_awaitsReply inp hawaits
  rw [heq] at h ⊢
  have hcase := awaitReply_case inp s reply
  generalize awaitReply inp reply s = s' at hcase h ⊢
  cases hcase with
  | lost _ => exact ⟨rfl, rfl, rfl, rfl⟩
  | replied _ _ => exact absurd ((hnext _).symm.trans h) hne
  | waiting _ _ => exact ⟨rfl, rfl, rfl, rfl⟩

/-- What is not acted on is left alone. -/
theorem leftAlone_of_not_actedOn
    (inp : IterationInput) {s : UnitState}
    (h : ¬ ActedOn inp s) :
    LeftAlone inp s := by
  refine ⟨fun hconn => ?_, fun hcomm hawaits => ?_⟩
  · apply receive_of_no_reply
    have hnone : receivedReply s = none := by
      by_contra hsome
      exact h (Or.inl ⟨hconn, Option.isSome_iff_ne_none.mpr hsome⟩)
    unfold receivedReply at hnone ⊢
    rw [(sameData_beforeReceive inp s).port]
    exact hnone
  · apply connectToUnit_of_not_actedOn inp hawaits
    by_contra hgoes
    exact h (Or.inr ⟨hcomm, hawaits, hgoes⟩)

/-! ## The two iterations that receive a message -/

section Reception

variable {w : List UInt8} {s : UnitState}

/-- The iteration that notices a message leaves a connected task connected,
unless the unit is lost, and the receiver holding the message. -/
theorem connectedIteration_arrived
    (inp : IterationInput)
    (harr : Arrived w s.port)
    (hpos : 0 < w.length) (hlen : w.length < rxBufferSize) :
    Holding w (connectedIteration inp s).port ∧
      (connectedIteration inp s).wbmComState = (beforeReceive inp s).wbmComState := by
  have hport : (beforeReceive inp s).port = s.port := (sameData_beforeReceive inp s).port
  have hread := readMessage_arrived harr hpos (Nat.le_of_lt hlen)
  have hreceive : receive inp (beforeReceive inp s) =
      { beforeReceive inp s with valRet := runDownload, port := s.port.noticed w.length } := by
    unfold receive
    rw [hport, hread]
    rfl
  unfold connectedIteration
  rw [hreceive]
  have hsched := sameButImage_scheduler inp
    { beforeReceive inp s with valRet := runDownload, port := s.port.noticed w.length }
  exact ⟨hsched.port ▸ harr.noticed, hsched.wbmComState⟩

theorem awaitReply_arrived
    (inp : IterationInput) (reply : UnitState → UnitState)
    (harr : Arrived w s.port)
    (hpos : 0 < w.length) (hlen : w.length < rxBufferSize)
    (hexp : expired inp 0 s.globalTimeoutMilliseconds timeoutMilliseconds = false) :
    awaitReply inp reply s =
      { s with valRet := runDownload, port := s.port.noticed w.length } := by
  unfold awaitReply
  rw [hexp, readMessage_arrived harr hpos (Nat.le_of_lt hlen)]
  rfl

/-- When a held message is acted on. -/
theorem actedOn_iff_of_holding
    (inp : IterationInput)
    (hhold : Holding w s.port)
    (hpos : 0 < w.length) (hlen : w.length < rxBufferSize) :
    ActedOn inp s ↔
      runDownload < verdict w ∧
        ((s.wbmComState = .wbmConnected ∧
            (replyOf (ofBytes w ihm1TypeComand)).isSome) ∨
          (s.wbmComState = .wbmCommunicating ∧ AwaitsReply s.currentState ∧
            expired inp 0 s.globalTimeoutMilliseconds timeoutMilliseconds = false)) := by
  have hread := readMessage_holding hhold hpos hlen
  have hcommand : downloaded w s.port.buffSer1 ihm1TypeComand = ofBytes w ihm1TypeComand :=
    downloaded_apply w s.port.buffSer1 (by decide)
  have hreply : (receivedReply s).isSome ↔
      runDownload < verdict w ∧ (replyOf (ofBytes w ihm1TypeComand)).isSome := by
    unfold receivedReply
    rw [hread]
    dsimp only [SerialPort.received]
    rw [hcommand]
    split
    · rename_i hgt
      exact ⟨fun h => ⟨hgt, h⟩, fun h => h.2⟩
    · rename_i hgt
      exact ⟨fun h => absurd h (by simp), fun h => absurd h.1 hgt⟩
  have hadvance : AwaitsReply s.currentState →
      ((connectToUnit inp s).currentState ≠ s.currentState ↔
        runDownload < verdict w ∧
          expired inp 0 s.globalTimeoutMilliseconds timeoutMilliseconds = false) := by
    intro hawaits
    obtain ⟨reply, next, hne, heq, hnext⟩ := connectToUnit_awaitsReply inp hawaits
    rw [heq]
    unfold awaitReply
    rw [hread]
    dsimp only
    split
    · rename_i hexp
      exact ⟨fun h => absurd rfl h, fun h => absurd (hexp.symm.trans h.2) (by simp)⟩
    · rename_i hexp
      split
      · rename_i hgt
        rw [hnext]
        exact ⟨fun _ => ⟨hgt, Bool.eq_false_iff.mpr hexp⟩, fun _ => hne⟩
      · rename_i hgt
        exact ⟨fun h => absurd rfl h, fun h => absurd h.1 hgt⟩
  unfold ActedOn
  constructor
  · rintro (⟨hconn, hsome⟩ | ⟨hcomm, hawaits, hadv⟩)
    · obtain ⟨hgt, hsome⟩ := hreply.1 hsome
      exact ⟨hgt, Or.inl ⟨hconn, hsome⟩⟩
    · obtain ⟨hgt, hexp⟩ := (hadvance hawaits).1 hadv
      exact ⟨hgt, Or.inr ⟨hcomm, hawaits, hexp⟩⟩
  · rintro ⟨hgt, ⟨hconn, hsome⟩ | ⟨hcomm, hawaits, hexp⟩⟩
    · exact Or.inl ⟨hconn, hreply.2 ⟨hgt, hsome⟩⟩
    · exact Or.inr ⟨hcomm, hawaits, (hadvance hawaits).2 ⟨hgt, hexp⟩⟩

end Reception

/-! ## Only complete frames, or the two texts -/

section Acceptance

variable (s : UnitState) (w : List UInt8)

/-- Whatever the clock does, a message that is acted on is accepted by
`Read_Message` and, once connected, names a reply. -/
theorem verdict_of_actedOn
    (hrec : Receiving s) (hidle : Idle s.port)
    (hpos : 0 < w.length) (hlen : w.length < rxBufferSize)
    (i₁ i₂ : IterationInput)
    (h : ActedOn i₂ (step (.iterate i₁) (step (.uartData w) s))) :
    runDownload < verdict w ∧
      (s.wbmComState = .wbmConnected → replyOf (ofBytes w ihm1TypeComand) ≠ none) := by
  have harr : Arrived w (step (.uartData w) s).port :=
    hidle.uartEventTask (Nat.le_of_lt hlen)
  generalize hs' : step (.uartData w) s = s' at harr h
  have hwbm : s'.wbmComState = s.wbmComState := by rw [← hs']; rfl
  have hstate : s'.currentState = s.currentState := by rw [← hs']; rfl
  rcases hrec with hconn | ⟨hcomm, hawaits⟩
  · have hstep : step (.iterate i₁) s' = connectedIteration i₁ s' := by
      simp only [step, unitEventTask, hwbm, hconn]
    rw [hstep] at h
    obtain ⟨hhold, hkept⟩ := connectedIteration_arrived i₁ harr hpos hlen
    obtain ⟨hgt, hcases⟩ := (actedOn_iff_of_holding i₂ hhold hpos hlen).1 h
    refine ⟨hgt, fun _ => ?_⟩
    rcases hcases with ⟨-, hsome⟩ | ⟨hcomm', -, -⟩
    · exact Option.isSome_iff_ne_none.mp hsome
    · rw [hkept] at hcomm'
      rcases beforeReceive_wbmComState i₁ s' with hb | hb
      · rw [hb, hwbm, hconn] at hcomm'
        cases hcomm'
      · rw [hb] at hcomm'
        cases hcomm'
  · have hstep : step (.iterate i₁) s' = connectToUnit i₁ s' := by
      simp only [step, unitEventTask, hwbm, hcomm]
    obtain ⟨reply, next, -, heq, -⟩ :=
      connectToUnit_awaitsReply i₁ (hstate ▸ hawaits)
    rw [hstep, heq] at h
    refine ⟨?_, fun hconn => by rw [hcomm] at hconn; cases hconn⟩
    cases hexp : expired i₁ 0 s'.globalTimeoutMilliseconds timeoutMilliseconds with
    | false =>
        rw [awaitReply_arrived i₁ reply harr hpos hlen hexp] at h
        have hhold : Holding w ({ s' with
            valRet := runDownload
            port := s'.port.noticed w.length } : UnitState).port :=
          harr.noticed
        exact ((actedOn_iff_of_holding i₂ hhold hpos hlen).1 h).1
    | true =>
        have herr : (awaitReply i₁ reply s').wbmComState = .wbmError := by
          unfold awaitReply
          rw [if_pos hexp]
        rcases h with ⟨hconn, -⟩ | ⟨hcomm', -⟩
        · rw [herr] at hconn
          cases hconn
        · rw [herr] at hcomm'
          cases hcomm'

/-- While the clock stands still, an accepted message that, once connected,
names a reply is acted on by the second iteration. -/
theorem actedOn_still
    (hrec : Receiving s) (hidle : Idle s.port)
    (hpos : 0 < w.length) (hlen : w.length < rxBufferSize)
    (hgt : runDownload < verdict w)
    (hreply : s.wbmComState = .wbmConnected → replyOf (ofBytes w ihm1TypeComand) ≠ none) :
    ActedOn (.still s.globalTimeoutMilliseconds)
      (step (.iterate (.still s.globalTimeoutMilliseconds)) (step (.uartData w) s)) := by
  have harr : Arrived w (step (.uartData w) s).port :=
    hidle.uartEventTask (Nat.le_of_lt hlen)
  have hstill := beforeReceive_still (step (.uartData w) s)
  generalize hs' : step (.uartData w) s = s' at harr hstill
  have hwbm : s'.wbmComState = s.wbmComState := by rw [← hs']; rfl
  have hstate : s'.currentState = s.currentState := by rw [← hs']; rfl
  have htimer : s'.globalTimeoutMilliseconds = s.globalTimeoutMilliseconds := by
    rw [← hs']; rfl
  rw [htimer] at hstill
  rcases hrec with hconn | ⟨hcomm, hawaits⟩
  · have hstep : step (.iterate (.still s.globalTimeoutMilliseconds)) s' =
        connectedIteration (.still s.globalTimeoutMilliseconds) s' := by
      simp only [step, unitEventTask, hwbm, hconn]
    obtain ⟨hhold, hkept⟩ := connectedIteration_arrived
      (.still s.globalTimeoutMilliseconds) harr hpos hlen
    rw [hstep]
    refine (actedOn_iff_of_holding _ hhold hpos hlen).2 ⟨hgt, Or.inl ⟨?_, ?_⟩⟩
    · rw [hkept, hstill, hwbm, hconn]
    · exact Option.isSome_iff_ne_none.mpr (hreply hconn)
  · have hstep : step (.iterate (.still s.globalTimeoutMilliseconds)) s' =
        connectToUnit (.still s.globalTimeoutMilliseconds) s' := by
      simp only [step, unitEventTask, hwbm, hcomm]
    obtain ⟨reply, next, -, heq, -⟩ :=
      connectToUnit_awaitsReply (.still s.globalTimeoutMilliseconds) (hstate ▸ hawaits)
    have hexp := expired_still s.globalTimeoutMilliseconds timeoutMilliseconds 0 (by decide)
    rw [hstep, heq, awaitReply_arrived _ reply harr hpos hlen (by rw [htimer]; exact hexp)]
    refine (actedOn_iff_of_holding _ harr.noticed hpos hlen).2 ⟨hgt, Or.inr ⟨?_, ?_, ?_⟩⟩
    · exact hwbm.trans hcomm
    · exact hstate ▸ hawaits
    · exact htimer ▸ hexp

/-- What is not acted on is left alone, in every state; and for every state that
receives replies and every message from the unit: the message is acted on only
if it is a complete frame, whatever the clock does, exactly when it spells
neither of the two texts, or is a complete frame, or arrives once connected and
names no reply. -/
theorem actedOn_only_wellFormed_iff
    (hrec : Receiving s) (hidle : Idle s.port)
    (hpos : 0 < w.length) (hlen : w.length < rxBufferSize) :
    (∀ (inp : IterationInput) (t : UnitState), ¬ ActedOn inp t → LeftAlone inp t) ∧
    ((∀ i₁ i₂ : IterationInput,
        ActedOn i₂ (step (.iterate i₁) (step (.uartData w) s)) → WellFormed w) ↔
      (strstr w bootloaderText = false ∧ strstr w ackText = false) ∨
        WellFormed w ∨
        (s.wbmComState = .wbmConnected ∧ replyOf (ofBytes w ihm1TypeComand) = none)) := by
  refine ⟨fun inp _ => leftAlone_of_not_actedOn inp, ?_⟩
  constructor
  · intro h
    by_contra hcond
    simp only [not_or, not_and, Bool.not_eq_false] at hcond
    obtain ⟨htexts, hwf, hreply⟩ := hcond
    have hgt : runDownload < verdict w := by
      rw [runDownload_lt_verdict_iff]
      cases hb : strstr w bootloaderText with
      | true =>
          exact Or.inl rfl
      | false =>
          exact Or.inr (Or.inl (htexts hb))
    exact hwf (h _ _ (actedOn_still s w hrec hidle hpos hlen hgt hreply))
  · intro hcond i₁ i₂ hacted
    obtain ⟨hgt, hreply⟩ := verdict_of_actedOn s w hrec hidle hpos hlen i₁ i₂ hacted
    rcases hcond with ⟨hb, ha⟩ | hwf | ⟨hconn, hnone⟩
    · rcases (runDownload_lt_verdict_iff w).1 hgt with hb' | ha' | hwf
      · rw [hb] at hb'
        cases hb'
      · rw [ha] at ha'
        cases ha'
      · exact hwf
    · exact hwf
    · exact absurd hnone (hreply hconn)

end Acceptance

/-- A message of six bytes with a wrong checksum does not make the handshake
of a fresh board go on. -/
theorem wrongChecksum_not_actedOn :
    ¬ ActedOn (.still 0) (step (iterateAt 0) (step (.uartData [115, 109, 4, 82, 0, 0])
        (run step untilReadEepromInfo freshBoard))) := by
  intro h
  have hwf := (actedOn_only_wellFormed_iff (run step untilReadEepromInfo freshBoard)
    [115, 109, 4, 82, 0, 0] (by decide +kernel) (by decide +kernel)
    (by decide) (by decide)).2.2 (Or.inl (by decide)) _ _ h
  exact absurd hwf (by decide)

/-- The three bytes `ACK` make the handshake of a fresh board go on: they are
stored as its first section. -/
theorem ackText_actedOn :
    Receiving (run step untilReadEepromInfo freshBoard) ∧
      Idle (run step untilReadEepromInfo freshBoard).port ∧
      ActedOn (.still 0)
        (run step [.uartData ackText, iterateAt 0]
          (run step untilReadEepromInfo freshBoard)) ∧
      ¬ WellFormed ackText := by
  decide +kernel

end UnitComm
end AvensysEsp32
