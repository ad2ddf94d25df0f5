import AvensysEsp32.UnitComm.Mirror
import AvensysEsp32.UnitComm.LoadedImage

/-!
# The mirror of a changing unit

From the start of the gateway, through the handshake and every order of polls,
reads, writes and changes: whenever the gateway is connected, nothing is due or
outstanding, and the last counters polled are the board's, the mirror shows the
board's sections.

Three things can spoil it.  The corruption of the reply to a read, whose bit has
been cleared already; a refused write that the counters do not give away; and a
handshake that stores late replies.
-/

namespace AvensysEsp32
namespace UnitComm

open Foundation Serial

/-! ## The unit and the link -/

/-- The next counters that the gateway compares differ from the section's: those
of the polling reply on its way, or else those it knows. -/
def ChangeShows (sec : CountedSection) (board : Memory) (sys : System) : Prop :=
  (∃ m measures, Replied (pollingBaseReply m measures) sys ∧
      m sec.cntUpdateAddress ≠ board sec.cntUpdateAddress) ∨
    (∀ m measures, ¬ Replied (pollingBaseReply m measures) sys) ∧ Ahead sec sys.gateway board

/-- The section is going to be read or written. -/
def Attended (sec : CountedSection) (sys : System) : Prop :=
  Due sec sys.gateway.readEepromRequestIndex ∨
    readEepromRequest sec.eepromSection ∈ sys.requests ∨
    ∃ m, writeEepromRequest sec.eepromSection m ∈ sys.requests

/-- What the handshake has of the section, in the mirror or on its way, has
another counter. -/
def StaysDistinct (sec : CountedSection) (board : Memory) (sys : System) : Prop :=
  (sec.eepromSection ∈ loaded sys.gateway.currentState →
      sys.gateway.gRDEeprom sec.cntUpdateAddress ≠ board sec.cntUpdateAddress ∨
        writePending sys.gateway.readEepromRequestIndex sec.eepromSection = true) ∧
    ∀ m, Replied (readSectionReply m sec.eepromSection) sys →
      m sec.cntUpdateAddress ≠ board sec.cntUpdateAddress

/-- A section that changes gets a counter that tells the change: less than 256
changes of it lie between two polls. -/
def FreshCounters (board : Memory) (sys : System) : Prop :=
  ∀ sec : CountedSection, Set.EqOn board sys.board sec.eepromSection.range ∨
    match sys.gateway.wbmComState with
    | .wbmConnected => Attended sec sys ∨ ChangeShows sec board sys
    | .wbmCommunicating => StaysDistinct sec board sys
    | _ => True

/-- The unit counts the changes of its sections, nothing but its replies
arrives, and corrupted replies are recognised as such. -/
def CountingUnit (e : SystemEvent) (sys : System) : Prop :=
  match e with
  | .gateway (.uartData _) => False
  | .change board => FreshCounters board sys
  | .corrupt bytes => sys.replies ≠ [] → Rejected bytes
  | _ => True

/-- Once connected no corrupted reply and no refused write leaves a section
uncovered, and no client's image arrives while a section is being written. -/
def NothingLost (e : SystemEvent) (sys : System) : Prop :=
  sys.gateway.wbmComState = .wbmConnected →
    match e with
    | .gateway (.iterate inp) =>
        ∀ w ∈ inp.duringTx, 241 ≤ w.payload.length →
          ∀ sec, writePending sys.gateway.readEepromRequestIndex sec = false
    | .answer a =>
        a.result ≠ writeAccepted →
          ∀ (sec : CountedSection) (m : Memory),
            writeEepromRequest sec.eepromSection m ∈ sys.requests →
              Covered sec sys.gateway sys.board ∨
                sys.board sec.cntUpdateAddress ≠ sys.gateway.gRDEeprom sec.cntUpdateAddress
    | .corrupt _ =>
        sys.replies ≠ [] → ∀ sec, Covered sec sys.gateway sys.board
    | _ => True

/-- With nothing due or outstanding and the board's counters polled last, the
mirror shows the counted sections of the board. -/
def Converged (sys : System) : Prop :=
  sys.gateway.wbmComState = .wbmConnected →
    sys.gateway.readEepromRequestIndex = 0 →
      sys.gateway.eepromDataReceived = false →
        (∀ sec, sys.gateway.gKTSData.cntUpdate sec = sys.board sec.cntUpdateAddress) →
          ∀ sec : CountedSection,
            Set.EqOn sys.gateway.gRDEeprom sys.board sec.eepromSection.range

/-! ## The connected state -/

section Connected

variable {sys : System}

theorem Mirrored.converged
    (h : sys.gateway.wbmComState = .wbmConnected → Mirrored sys) :
    Converged sys := by
  intro hconn hindex hflag hpolled sec
  obtain ⟨-, line, -, hcovers, hquiet⟩ := h hconn
  have hnone := hquiet hflag
  subst hnone
  rcases hcovers sec with hshown | ⟨hahead, -⟩ | hdue
  · exact hshown
  · exact absurd (hpolled sec) hahead
  · rw [hindex] at hdue
    rcases hdue with hread | hwrite
    · simp at hread
    · unfold writePending at hwrite
      cases hbit : writeBit sec.eepromSection with
      | none =>
          rw [hbit] at hwrite
          cases hwrite
      | some k =>
          rw [hbit] at hwrite
          simp at hwrite

/-- A client's image makes every section due. -/
theorem mirrored_clientWrite
    (h : Mirrored sys) (w : ClientWrite) :
    Mirrored (systemStep (.gateway (.clientWrite w)) sys) := by
  rw [systemStep_gateway_of_silent (sends_clientWrite sys.gateway w)]
  by_cases hlong : 241 ≤ w.payload.length
  · obtain ⟨hinit, line, hline, -, hquiet⟩ := h
    have hbut := sameButImage_clientWrite w sys.gateway
    refine ⟨?_, line, hline.congr rfl rfl hbut.port, fun sec => Line.Covers.of_due ?_,
      fun hflag => hquiet (hbut.eepromDataReceived ▸ hflag)⟩
    · have hext := hbut.extCnt
      show (clientWrite w sys.gateway).extCnt.initialized = true
      rw [hext]
      exact hinit
    · show Due sec (clientWrite w sys.gateway).readEepromRequestIndex
      rw [(clientWrite_accepted w sys.gateway hlong).2]
      exact due_or_fullEepromWrite sec _
  · have hsame : step (.clientWrite w) sys.gateway = sys.gateway :=
      clientWrite_rejected w sys.gateway (by omega)
    rw [hsame]
    exact h

theorem mirrored_answer
    (h : Mirrored sys) (a : Answer)
    (hrefused : a.result ≠ writeAccepted → ∀ (sec : CountedSection) (m : Memory),
      writeEepromRequest sec.eepromSection m ∈ sys.requests →
        Covered sec sys.gateway sys.board ∨
          sys.board sec.cntUpdateAddress ≠ sys.gateway.gRDEeprom sec.cntUpdateAddress) :
    Mirrored (systemStep (.answer a) sys) := by
  obtain ⟨hinit, line, hline, hcovers, hquiet⟩ := id h
  cases line with
  | quiet =>
      rw [systemStep_answer_of_none a (Quiet.requests hline)]
      exact h
  | replied msg =>
      rw [systemStep_answer_of_none a (Replied.requests hline)]
      exact h
  | asked q =>
      have hasked : Asked q.frame sys := hline
      obtain ⟨hreplied, hboard, hgateway⟩ :=
        hasked.answer a (boardAnswer_question sys.board a q)
      refine ⟨by rw [hgateway]; exact hinit, .replied (q.answered sys.board a).2, hreplied,
        fun sec => ?_, fun hflag => ?_⟩
      · rw [hgateway, hboard]
        apply Question.covers_answered (hcovers sec) a
        rintro hresult m rfl
        apply hrefused hresult sec m
        rw [hasked.requests]
        exact List.mem_singleton_self _
      · rw [hgateway] at hflag
        cases hquiet hflag

/-- A change that shows in the counters, on the line. -/
theorem Line.On.shows
    {line : Line} (h : line.On sys) {sec : CountedSection} {board : Memory}
    (hshows : ChangeShows sec board sys) :
    line.Shows sec sys.gateway board := by
  rcases hshows with ⟨m, measures, hreplied, hne⟩ | ⟨hnone, hahead⟩
  · obtain ⟨msg, rfl, hframe⟩ := h.of_replied hreplied (by simp)
    obtain ⟨m', measures', rfl, hcnt⟩ := Message.polling_of_frame hframe
    show m' sec.cntUpdateAddress ≠ board sec.cntUpdateAddress
    rw [hcnt]
    exact hne
  · cases line with
    | quiet => exact hahead
    | asked q => exact hahead
    | replied msg =>
        cases msg with
        | polling m measures => exact absurd h (hnone m measures)
        | read sec' m => exact hahead
        | written sec' m result => exact hahead
        | debug data => exact hahead
        | rejected w hw => exact hahead

theorem mirrored_change
    (h : Mirrored sys) (board : Memory)
    (hfresh : ∀ sec : CountedSection, Set.EqOn board sys.board sec.eepromSection.range ∨
      Attended sec sys ∨ ChangeShows sec board sys) :
    Mirrored (systemStep (.change board) sys) := by
  obtain ⟨hinit, line, hline, hcovers, hquiet⟩ := h
  refine ⟨hinit, line, hline.congr rfl rfl rfl, fun sec => ?_, hquiet⟩
  apply (hcovers sec).change
  rcases hfresh sec with hsame | (hdue | hread | ⟨m, hwrite⟩) | hshows
  · exact Or.inl hsame
  · exact Or.inr (Or.inl hdue)
  · obtain ⟨q, rfl, hq⟩ := hline.question_of_mem hread
    exact Or.inr (Or.inr (Or.inl (Question.reaches (Or.inl hq))))
  · obtain ⟨q, rfl, hq⟩ := hline.question_of_mem hwrite
    exact Or.inr (Or.inr (Or.inl (Question.reaches (Or.inr ⟨m, hq⟩))))
  · exact Or.inr (Or.inr (Or.inr (hline.shows hshows)))

/-- The arrival of a reply, intact or corrupted while nothing depends on it. -/
theorem mirrored_arrive
    (h : Mirrored sys) {e : SystemEvent}
    (he : e = .deliver ∨ ∃ bytes, e = .corrupt bytes ∧ (sys.replies ≠ [] →
      Rejected bytes ∧ ∀ sec, Covered sec sys.gateway sys.board)) :
    Mirrored (systemStep e sys) := by
  by_cases hreplies : sys.replies = []
  · have hsame : systemStep e sys = sys := by
      rcases he with rfl | ⟨bytes, rfl, -⟩
      · exact systemStep_deliver_of_none hreplies
      · exact systemStep_corrupt_of_none bytes hreplies
    rw [hsame]
    exact h
  · obtain ⟨hinit, line, hline, hcovers, hquiet⟩ := id h
    obtain ⟨port, hgateway, hboard, -⟩ := deliver_gateway e
      (he.imp_right fun ⟨bytes, hbytes, _⟩ => ⟨bytes, hbytes⟩) sys
    have hshadow : SameShadow sys.gateway (systemStep e sys).gateway := by
      rw [hgateway]
      exact ⟨rfl, rfl, rfl, rfl⟩
    have hafter : ∀ msg : Message, Replied msg.frame (systemStep e sys) →
        (∀ sec, (Line.replied msg).Covers sec sys.gateway sys.board) →
          sys.gateway.eepromDataReceived = true → Mirrored (systemStep e sys) := by
      intro msg hreplied hcovers' hflag
      refine ⟨by rw [hgateway]; exact hinit, .replied msg, hreplied, fun sec => ?_,
        fun hfalse => ?_⟩
      · rw [hboard]
        exact hshadow.covers (hcovers' sec)
      · rw [hgateway] at hfalse
        rw [hflag] at hfalse
        cases hfalse
    cases line with
    | quiet => exact absurd (Quiet.replies hline) hreplies
    | asked q => exact absurd (Asked.replies hline) hreplies
    | replied msg =>
        have hreplied : Replied msg.frame sys := hline
        have hflag : sys.gateway.eepromDataReceived = true := by
          rw [← Bool.not_eq_false]
          intro hfalse
          cases hquiet hfalse
        rcases he with rfl | ⟨bytes, rfl, hcorrupt⟩
        · have hlen := msg.frame_bounds.2
          exact hafter msg (hreplied.deliver (Nat.le_of_lt hlen)) hcovers hflag
        · obtain ⟨hrejected, hcovered⟩ := hcorrupt hreplies
          rcases hreplied.corrupt (Nat.le_of_lt hrejected.short) with hgone | hsame
          · exact hafter (.rejected bytes hrejected) hgone hcovered hflag
          · rw [hsame]
            exact h

end Connected

/-! ## The way to the connected state -/

/-- What the handshake has of a counted section: the board's bytes, or another
counter. -/
def CountedView (sec : EepromSection) (m board : Memory) : Prop :=
  ∀ counted : CountedSection, counted.eepromSection = sec →
    Set.EqOn m board sec.range ∨ m counted.cntUpdateAddress ≠ board counted.cntUpdateAddress

/-- The section is to be written. -/
def ToBeWritten (sec : EepromSection) (index : BitVec 16) : Prop :=
  writePending index sec = true

theorem viewRules_counted :
    ViewRules CountedView where
  refl := fun _ _ _ _ => Or.inl fun _ _ => rfl
  congr := by
    rintro sec m m' board heq hview counted rfl
    rcases hview counted rfl with hsame | hne
    · exact Or.inl (heq.trans hsame)
    · right
      rw [heq (cntUpdateAddress_mem_range counted)]
      exact hne

section Connecting

variable {sys : System}

/-- The view of a changed board, when the counters tell the change. -/
theorem countedView_change
    {sec : EepromSection} {m board board' : Memory}
    (h : CountedView sec m board)
    (hchange : ∀ counted : CountedSection, counted.eepromSection = sec →
      Set.EqOn board' board sec.range ∨
        m counted.cntUpdateAddress ≠ board' counted.cntUpdateAddress) :
    CountedView sec m board' := by
  rintro counted rfl
  rcases hchange counted rfl with hsame | hne
  · rcases h counted rfl with hexact | hne
    · exact Or.inl (hexact.trans hsame.symm)
    · right
      rw [hsame (cntUpdateAddress_mem_range counted)]
      exact hne
  · exact Or.inr hne

/-- The unit, the link and the start of the handshake meet what the handshake
needs to keep acceptable views. -/
theorem handshakeInv_countingUnit
    (e : SystemEvent)
    (hunit : CountingUnit e sys) (hquiet : NothingOutstanding e sys)
    (h : HandshakeInv CountedView ToBeWritten sys) :
    HandshakeInv CountedView ToBeWritten (systemStep e sys) := by
  have hstep : HandshakeEvent CountedView ToBeWritten e sys →
      HandshakeInv CountedView ToBeWritten (systemStep e sys) :=
    fun he => handshakeInv_step viewRules_counted e sys he h
  cases e with
  | gateway e =>
      cases e with
      | iterate inp => exact hstep hquiet
      | uartData data => exact hunit.elim
      | clientWrite w =>
          apply hstep
          intro _ sec m board index
          by_cases hcounted : ∃ counted : CountedSection, counted.eepromSection = sec
          · obtain ⟨counted, rfl⟩ := hcounted
            right
            unfold ToBeWritten writePending
            cases counted <;>
              simp [CountedSection.eepromSection, writeBit, BitVec.getLsbD_or, fullEepromWrite]
          · exact Or.inl fun counted heq => absurd ⟨counted, heq⟩ hcounted
      | mqttReady ready => exact hstep trivial
      | unitUpdateTask running => exact hstep trivial
      | firmwareStored content => exact hstep trivial
  | answer a => exact hstep trivial
  | deliver => exact hstep trivial
  | corrupt bytes =>
      by_cases hreplies : sys.replies = []
      · rw [systemStep_corrupt_of_none bytes hreplies]
        exact h
      · exact hstep (hunit hreplies)
  | change board =>
      by_cases hcomm : sys.gateway.wbmComState = .wbmCommunicating
      · have hfresh : ∀ sec : CountedSection,
            Set.EqOn board sys.board sec.eepromSection.range ∨ StaysDistinct sec board sys := by
          intro sec
          have hsec := hunit sec
          rw [hcomm] at hsec
          exact hsec
        apply hstep
        refine ⟨fun sec hsec hview => ?_, fun a w hreplied hshows => ?_⟩
        · by_cases hpending : writePending sys.gateway.readEepromRequestIndex sec = true
          · exact Or.inr hpending
          · refine Or.inl (countedView_change hview ?_)
            rintro counted rfl
            refine (hfresh counted).imp_right fun hdistinct => ?_
            rcases hdistinct.1 hsec with hne | hwrite
            · exact hne
            · exact absurd hwrite hpending
        · cases a with
          | polling => exact hshows
          | read sec =>
              obtain ⟨m, hview, rfl⟩ := hshows
              refine ⟨m, countedView_change hview ?_, rfl⟩
              rintro counted rfl
              exact (hfresh counted).imp_right fun hdistinct => hdistinct.2 m hreplied
      · exact HandshakeInv.of_not_communicating hcomm

/-- What `connected` sets: the polled counters, and the mirror's as the shadow. -/
theorem connected_shadow
    (inp : IterationInput) (s : UnitState) :
    (connected inp s).gKTSData.cntUpdate = (pollingBaseData s.port.buffSer1).cntUpdate ∧
      (connected inp s).extCnt =
        { initialized := true, cnt := fun sec => s.gRDEeprom sec.cntUpdateAddress } ∧
      (connected inp s).port = s.port ∧
      (connected inp s).eepromDataReceived = s.eepromDataReceived := by
  obtain ⟨outputs, -, heq⟩ := connected_eq inp s
  rw [heq]
  exact ⟨rfl, rfl, rfl, rfl⟩

/-- The gateway connects with every section covered. -/
theorem mirrored_connected
    (inp : IterationInput) (h : HandshakeInv CountedView ToBeWritten sys)
    (hcomm : sys.gateway.wbmComState = .wbmCommunicating)
    (hstate : sys.gateway.currentState = .connected)
    (hinit : sys.gateway.extCnt.initialized = false) :
    Mirrored (systemStep (.gateway (.iterate inp)) sys) := by
  have htask : unitEventTask inp sys.gateway = connected inp sys.gateway := by
    simp only [unitEventTask, hcomm, connectToUnit, hstate]
  obtain ⟨himage, hindex⟩ := connected_image inp sys.gateway
  obtain ⟨hpolled, hext, hport, -⟩ := connected_shadow inp sys.gateway
  have hknown := knownCounters_of_uninitialized hinit
  have hquiet : Line.quiet.On sys := h.quiet hcomm hstate
  have hsend := sends_connected inp sys.gateway
  have hloaded : ∀ sec : CountedSection,
      sec.eepromSection ∈ loaded sys.gateway.currentState := by
    intro sec
    rw [hstate]
    cases sec <;> decide
  apply Keeps.iterate
  rw [Keeps, htask]
  generalize connected inp sys.gateway = s at *
  refine ⟨[], hsend, ?_⟩
  rw [List.append_nil]
  refine ⟨by rw [hext], .quiet, hquiet.congr rfl rfl hport, fun sec => ?_, fun _ => rfl⟩
  show Covered sec s sys.board
  rcases h.image hcomm _ (hloaded sec) with hview | hwrite
  · rcases hview sec rfl with hsame | hne
    · left
      unfold Shown
      rw [himage]
      exact hsame
    · by_cases hread : (pollingBaseData sys.gateway.port.buffSer1).cntUpdate sec =
          sys.gateway.gRDEeprom sec.cntUpdateAddress
      · right
        left
        unfold Ahead
        rw [hpolled, hext, hread]
        exact ⟨hne, hne⟩
      · right
        right
        left
        rw [hindex, hknown, BitVec.getLsbD_or, Bool.or_eq_true]
        right
        rw [getLsbD_changeRequests_readRequestBit]
        exact hread
  · right
    right
    rw [hindex]
    exact Due.or (Or.inr hwrite) _

/-- The shadow counters are left alone until the task connects. -/
theorem connectToUnit_extCnt
    (inp : IterationInput) {s : UnitState} (hstate : s.currentState ≠ .connected) :
    (connectToUnit inp s).extCnt = s.extCnt := by
  by_cases htransfer : s.currentState = .bootloaderState
  · simp only [connectToUnit, htransfer]
    exact (bootloader_extCnt inp s).1
  · by_cases htransfer1 : s.currentState = .bootloaderState1
    · simp only [connectToUnit, htransfer1]
      exact (bootloader_extCnt inp s).2
    · exact (sameAside_connectToUnit inp s hstate htransfer htransfer1).extCnt

end Connecting

/-! ## Runs -/

/-- What holds from the start of the gateway. -/
structure MirrorInv (sys : System) : Prop where
  handshake : HandshakeInv CountedView ToBeWritten sys
  /-- There is no shadow before the connection. -/
  fresh :
    sys.gateway.wbmComState = .wbmInitialize ∨ sys.gateway.wbmComState = .wbmCommunicating →
      sys.gateway.extCnt.initialized = false
  mirrored : sys.gateway.wbmComState = .wbmConnected → Mirrored sys

section Runs

variable {sys : System}

/-- Only a handshake connects. -/
theorem not_connected_step
    (e : SystemEvent)
    (hcomm : sys.gateway.wbmComState ≠ .wbmCommunicating)
    (hconn : sys.gateway.wbmComState ≠ .wbmConnected) :
    (systemStep e sys).gateway.wbmComState ≠ .wbmConnected := by
  have hkept : (systemStep e sys).gateway.wbmComState = sys.gateway.wbmComState →
      (systemStep e sys).gateway.wbmComState ≠ .wbmConnected := by
    intro hsame
    rw [hsame]
    exact hconn
  cases e with
  | gateway e =>
      cases e with
      | iterate inp =>
          rw [systemStep_iterate_gateway]
          cases hwbm : sys.gateway.wbmComState with
          | wbmInitialize => simp [unitEventTask, hwbm, UnitState.emitAll]
          | wbmCommunicating => exact absurd hwbm hcomm
          | wbmConnected => exact absurd hwbm hconn
          | wbmError => simp [unitEventTask, hwbm, UnitState.emitAll]
      | uartData data => exact hkept rfl
      | clientWrite w => exact hkept (sameButImage_clientWrite w sys.gateway).wbmComState
      | mqttReady ready => exact hkept rfl
      | unitUpdateTask running => exact hkept rfl
      | firmwareStored content => exact hkept rfl
  | answer a => exact hkept (by rw [systemStep_answer_gateway])
  | change board => exact hkept rfl
  | deliver =>
      obtain ⟨port, hgateway, -⟩ := deliver_gateway .deliver (Or.inl rfl) sys
      exact hkept (by rw [hgateway])
  | corrupt bytes =>
      obtain ⟨port, hgateway, -⟩ := deliver_gateway (.corrupt bytes) (Or.inr ⟨bytes, rfl⟩) sys
      exact hkept (by rw [hgateway])

theorem fresh_step
    (e : SystemEvent) (h : MirrorInv sys)
    (hafter : (systemStep e sys).gateway.wbmComState = .wbmInitialize ∨
      (systemStep e sys).gateway.wbmComState = .wbmCommunicating) :
    (systemStep e sys).gateway.extCnt.initialized = false := by
  have hkept : (systemStep e sys).gateway.extCnt = sys.gateway.extCnt →
      (systemStep e sys).gateway.wbmComState = sys.gateway.wbmComState →
        (systemStep e sys).gateway.extCnt.initialized = false := by
    intro hext hwbm
    rw [hwbm] at hafter
    rw [hext]
    exact h.fresh hafter
  cases e with
  | gateway e =>
      cases e with
      | iterate inp =>
          have hbefore := wbmComState_before inp hafter
          have hinit := h.fresh hbefore
          rw [systemStep_iterate_gateway] at hafter ⊢
          rcases hbefore with hwbm | hwbm
          · simp only [unitEventTask, hwbm, UnitState.emitAll]
            exact hinit
          · simp only [unitEventTask, hwbm] at hafter ⊢
            by_cases hstate : sys.gateway.currentState = .connected
            · have hconnect : connectToUnit inp sys.gateway = connected inp sys.gateway := by
                simp only [connectToUnit, hstate]
              rw [hconnect, (connected_timers inp sys.gateway).1] at hafter
              rcases hafter with hafter | hafter
              · cases hafter
              · cases hafter
            · rw [connectToUnit_extCnt inp hstate]
              exact hinit
      | uartData data => exact hkept rfl rfl
      | clientWrite w =>
          have hbut := sameButImage_clientWrite w sys.gateway
          exact hkept hbut.extCnt hbut.wbmComState
      | mqttReady ready => exact hkept rfl rfl
      | unitUpdateTask running => exact hkept rfl rfl
      | firmwareStored content => exact hkept rfl rfl
  | answer a =>
      have hgateway := systemStep_answer_gateway a sys
      exact hkept (by rw [hgateway]) (by rw [hgateway])
  | change board => exact hkept rfl rfl
  | deliver =>
      obtain ⟨port, hgateway, -⟩ := deliver_gateway .deliver (Or.inl rfl) sys
      exact hkept (by rw [hgateway]) (by rw [hgateway])
  | corrupt bytes =>
      obtain ⟨port, hgateway, -⟩ := deliver_gateway (.corrupt bytes) (Or.inr ⟨bytes, rfl⟩) sys
      exact hkept (by rw [hgateway]) (by rw [hgateway])

/-- Once connected, every event that loses nothing keeps the invariant. -/
theorem mirrored_step
    (e : SystemEvent) (h : Mirrored sys)
    (hconn : sys.gateway.wbmComState = .wbmConnected)
    (hunit : CountingUnit e sys) (hlost : NothingLost e sys)
    (hstill : (systemStep e sys).gateway.wbmComState = .wbmConnected) :
    Mirrored (systemStep e sys) := by
  have hother : ∀ e, Sends [] sys.gateway (step e sys.gateway) →
      Mirrored { sys with gateway := step e sys.gateway } →
        Mirrored (systemStep (.gateway e) sys) := by
    intro e hsend hinv
    rw [systemStep_gateway_of_silent hsend]
    exact hinv
  have hlosing := hlost hconn
  cases e with
  | gateway e =>
      cases e with
      | iterate inp => exact mirrored_iterate h hconn hlosing hstill
      | uartData data => exact hunit.elim
      | clientWrite w => exact mirrored_clientWrite h w
      | mqttReady ready =>
          exact hother _ (sends_of_outputs_eq rfl)
            (h.of_sameShadow ⟨rfl, rfl, rfl, rfl⟩ rfl rfl rfl)
      | unitUpdateTask running =>
          exact hother _ (sends_of_outputs_eq rfl)
            (h.of_sameShadow ⟨rfl, rfl, rfl, rfl⟩ rfl rfl rfl)
      | firmwareStored content =>
          exact hother _ (sends_of_outputs_eq rfl)
            (h.of_sameShadow ⟨rfl, rfl, rfl, rfl⟩ rfl rfl rfl)
  | answer a => exact mirrored_answer h a hlosing
  | change board =>
      apply mirrored_change h board
      intro sec
      have hsec := hunit sec
      rw [hconn] at hsec
      exact hsec
  | deliver => exact mirrored_arrive h (Or.inl rfl)
  | corrupt bytes =>
      exact mirrored_arrive h (Or.inr ⟨bytes, rfl, fun hreplies =>
        ⟨hunit hreplies, hlosing hreplies⟩⟩)

theorem mirrorInv_step
    (e : SystemEvent) (sys : System)
    (he : (CountingUnit e sys ∧ NothingOutstanding e sys) ∧ NothingLost e sys)
    (h : MirrorInv sys) :
    MirrorInv (systemStep e sys) := by
  obtain ⟨⟨hunit, hquiet⟩, hlost⟩ := he
  refine ⟨handshakeInv_countingUnit e hunit hquiet h.handshake, fresh_step e h, fun hafter => ?_⟩
  cases hwbm : sys.gateway.wbmComState with
  | wbmConnected => exact mirrored_step e (h.mirrored hwbm) hwbm hunit hlost hafter
  | wbmCommunicating =>
      obtain ⟨hstate, inp, rfl, -⟩ := connects_image hwbm hafter
      exact mirrored_connected inp h.handshake hwbm hstate (h.fresh (Or.inr hwbm))
  | wbmInitialize =>
      have hnever : (systemStep e sys).gateway.wbmComState ≠ .wbmConnected :=
        not_connected_step e (by rw [hwbm]; decide) (by rw [hwbm]; decide)
      exact absurd hafter hnever
  | wbmError =>
      have hnever : (systemStep e sys).gateway.wbmComState ≠ .wbmConnected :=
        not_connected_step e (by rw [hwbm]; decide) (by rw [hwbm]; decide)
      exact absurd hafter hnever

end Runs

section Boot

variable (device : DeviceIdentity) (firmwareBin : Option (List UInt8)) (partitionState : Bool)
variable (millis : UInt32) (eeprom : Memory)

/-- From its start, in every run with a unit that counts its changes and in
which nothing is lost, the gateway's mirror converges. -/
theorem mirror_converges
    (es : List SystemEvent)
    (hunit : Along systemStep CountingUnit es
      (bootBeside device firmwareBin partitionState millis eeprom))
    (hquiet : Along systemStep NothingOutstanding es
      (bootBeside device firmwareBin partitionState millis eeprom))
    (hlost : Along systemStep NothingLost es
      (bootBeside device firmwareBin partitionState millis eeprom)) :
    Converged
      (run systemStep es (bootBeside device firmwareBin partitionState millis eeprom)) := by
  have hboot : MirrorInv (bootBeside device firmwareBin partitionState millis eeprom) := by
    refine ⟨HandshakeInv.of_not_communicating ?_, fun _ => rfl, fun hconn => ?_⟩
    · simp [bootBeside, System.boot, UnitState.boot]
    · cases hconn
  exact Mirrored.converged
    (Along.invariant mirrorInv_step ((hunit.and hquiet).and hlost) hboot).mirrored

end Boot

/-! ## A read reply, intact and corrupted -/

section Example

/-- Events that neither refuse nor corrupt anything, nor write during a
transmission. -/
def Accepting (e : SystemEvent) (_ : System) : Prop :=
  match e with
  | .gateway (.iterate inp) => inp.duringTx.isEmpty = true
  | .answer a => a.result = writeAccepted
  | .corrupt _ => False
  | _ => True

instance decidableAccepting (e : SystemEvent) (sys : System) :
    Decidable (Accepting e sys) :=
  match e with
  | .gateway (.iterate _) => inferInstanceAs (Decidable (_ = _))
  | .answer _ => inferInstanceAs (Decidable (_ = _))
  | .corrupt _ => isFalse id
  | .gateway (.uartData _) | .gateway (.clientWrite _) | .gateway (.mqttReady _)
  | .gateway (.unitUpdateTask _) | .gateway (.firmwareStored _) | .change _ | .deliver =>
      isTrue trivial

theorem nothingLost_of_accepting
    (e : SystemEvent) (sys : System)
    (h : Accepting e sys) :
    NothingLost e sys := by
  intro _
  cases e with
  | gateway e =>
      cases e with
      | iterate inp =>
          intro w hw
          have hnone : inp.duringTx = [] := List.isEmpty_iff.mp h
          rw [hnone] at hw
          cases hw
      | _ => trivial
  | answer a => exact fun hrefused => absurd h hrefused
  | corrupt bytes => exact h.elim
  | _ => trivial

theorem countingUnit_of_faithful
    (e : SystemEvent) (sys : System)
    (h : FaithfulUnit e sys) :
    CountingUnit e sys := by
  cases e with
  | gateway e =>
      cases e with
      | uartData data => exact h
      | _ => trivial
  | change board => exact h.elim
  | corrupt bytes => exact h.elim
  | _ => trivial

/-- The image of ones with another first section, and the counter that says so. -/
def infoChanged : Memory :=
  Function.update (Function.update (fun _ => 1) 0 2) 58 2

/-- The section changes, is polled and read; its reply arrives by `last`. -/
def readChanged (last : SystemEvent) : List SystemEvent :=
  [gatewayAt 1000, .answer .zero] ++ arriveAt 1000 ++
    [.answer .zero, last, gatewayAt 1000, gatewayAt 1000]

/-- The reply to the read with a byte corrupted. -/
def corruptedReply : List UInt8 :=
  (readSectionReply infoChanged .info).set 6 0

theorem infoChanged_eqOn
    (sec : CountedSection) (hsec : sec ≠ .info) :
    Set.EqOn infoChanged (fun _ => 1) sec.eepromSection.range := by
  intro i hi
  rw [EepromSection.mem_range_iff, EepromSection.startAddress_eq, EepromSection.count_eq] at hi
  have hlate : 58 < i := by
    cases sec
    · exact absurd rfl hsec
    all_goals
      simp only [CountedSection.eepromSection] at hi
      omega
  unfold infoChanged
  rw [Function.update_of_ne (by omega), Function.update_of_ne (by omega)]

/-- A gateway that has connected beside a unit whose image holds ones. -/
def connectedBesideOnes : System :=
  run systemStep promptHandshake besideOnes

/-- What the handshake up to then shows. -/
theorem connectedBesideOnes_facts :
    (run systemStep promptHandshake.dropLast besideOnes).gateway.wbmComState =
        .wbmCommunicating ∧
      Quiet connectedBesideOnes ∧ connectedBesideOnes.gateway.wbmComState = .wbmConnected ∧
      connectedBesideOnes.gateway.gKTSData.cntUpdate .info = 1 ∧
      connectedBesideOnes.gateway.extCnt.cnt .info = 1 := by
  decide +kernel

/-- A gateway that has heard of the unit leaves the image as it is. -/
theorem board_after_polled
    {es : List SystemEvent} (hfaithful : Along systemStep FaithfulUnit es besideOnes)
    (hcomm : (run systemStep es besideOnes).gateway.wbmComState = .wbmCommunicating) :
    (run systemStep (es ++ [gatewayAt 0]) besideOnes).board = fun _ => 1 := by
  have hkept : BoardKept (fun _ => 1) (run systemStep es besideOnes) :=
    Along.invariant boardKept_step hfaithful (fun _ => ⟨rfl, fun w hw => by cases hw⟩)
  rw [run_append]
  exact (hkept (Or.inr hcomm)).1

theorem board_connectedBesideOnes :
    connectedBesideOnes.board = fun _ => 1 := by
  have hrun : connectedBesideOnes = run systemStep promptHandshake besideOnes := rfl
  have hsplit : promptHandshake = promptHandshake.dropLast ++ [gatewayAt 0] := rfl
  have hfaithful := faithful_promptHandshake
  rw [hsplit, along_append] at hfaithful
  rw [hrun, hsplit]
  exact board_after_polled hfaithful.1 connectedBesideOnes_facts.1

/-- The change tells itself to the connected gateway. -/
theorem freshCounters_infoChanged :
    FreshCounters infoChanged connectedBesideOnes := by
  obtain ⟨-, hquiet, hconn, hpolled, hext⟩ := connectedBesideOnes_facts
  intro sec
  rw [hconn, board_connectedBesideOnes]
  by_cases hsec : sec = .info
  · subst hsec
    refine Or.inr (Or.inr (Or.inr ⟨fun m measures hreplied => ?_, ?_⟩))
    · have hline : Line.quiet.On connectedBesideOnes := hquiet
      obtain ⟨msg, hnone, -⟩ := hline.of_replied hreplied (by simp)
      cases hnone
    · unfold Ahead
      rw [hpolled, hext]
      decide
  · exact Or.inl (infoChanged_eqOn sec hsec)

/-- The environment of a run in which the changed section is read. -/
theorem countingUnit_readChanged
    {last : SystemEvent}
    (hlast : ∀ sys, CountingUnit last sys) :
    Along systemStep CountingUnit
      (promptHandshake ++ .change infoChanged :: readChanged last) besideOnes := by
  rw [along_append, along_cons]
  refine ⟨Along.mono countingUnit_of_faithful faithful_promptHandshake,
    freshCounters_infoChanged, ?_⟩
  generalize systemStep (.change infoChanged) (run systemStep promptHandshake besideOnes) = sys
  unfold readChanged
  rw [along_append]
  exact ⟨Along.mono countingUnit_of_faithful (along_faithfulUnit besideOnes (by decide)), trivial,
    hlast _,
    trivial, trivial, trivial⟩

/-- Read intact, the changed section is in the mirror. -/
theorem intactRead_converges :
    let sys := run systemStep (promptHandshake ++ .change infoChanged :: readChanged .deliver)
      besideOnes
    sys.gateway.wbmComState = .wbmConnected ∧ Converged sys := by
  intro sys
  obtain ⟨hconn, hquiet, haccepting⟩ : sys.gateway.wbmComState = .wbmConnected ∧
      Along systemStep NothingOutstanding
        (promptHandshake ++ .change infoChanged :: readChanged .deliver) besideOnes ∧
      Along systemStep Accepting
        (promptHandshake ++ .change infoChanged :: readChanged .deliver) besideOnes := by
    decide +kernel
  exact ⟨hconn,
    mirror_converges .zeroMac none false 0 (fun _ => 1) _
      (countingUnit_readChanged fun _ => trivial) hquiet
      (Along.mono nothingLost_of_accepting haccepting)⟩

/-- With its reply corrupted, the changed section is never in the mirror. -/
theorem corruptedRead_not_converged :
    let es := promptHandshake ++ .change infoChanged :: readChanged (.corrupt corruptedReply)
    Along systemStep CountingUnit es besideOnes ∧
      Along systemStep NothingOutstanding es besideOnes ∧
      ¬ Converged (run systemStep es besideOnes) := by
  have hrejected : Rejected corruptedReply :=
    ⟨by decide +kernel, by decide +kernel, by decide +kernel⟩
  intro es
  have hfacts : Along systemStep NothingOutstanding es besideOnes ∧
      (run systemStep es besideOnes).gateway.wbmComState = .wbmConnected ∧
      (run systemStep es besideOnes).gateway.readEepromRequestIndex = 0 ∧
      (run systemStep es besideOnes).gateway.eepromDataReceived = false ∧
      (∀ sec ∈ CountedSection.all, (run systemStep es besideOnes).gateway.gKTSData.cntUpdate sec =
        (run systemStep es besideOnes).board sec.cntUpdateAddress) ∧
      (run systemStep es besideOnes).gateway.gRDEeprom 0 ≠
        (run systemStep es besideOnes).board 0 := by
    decide +kernel
  obtain ⟨hquiet, hconn, hindex, hflag, hpolled, hdiffers⟩ := hfacts
  refine ⟨countingUnit_readChanged fun _ _ => hrejected, hquiet, fun hconverged => ?_⟩
  have hshown := hconverged hconn hindex hflag (fun sec => hpolled sec sec.mem_all) .info
  exact hdiffers (hshown ((EepromSection.info.mem_range_iff 0).mpr (by decide)))

end Example

end UnitComm
end AvensysEsp32
