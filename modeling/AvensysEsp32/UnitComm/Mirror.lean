import AvensysEsp32.UnitComm.MirrorLine

/-!
# The mirror in the connected state

Once connected, one question at most is on the line, and every counted section
of the mirror is covered with its help.  Each stage of an iteration keeps this:
the timers ask on a quiet line, the reception takes a message off the line and
covers what it was covering for, the scheduler asks for one of the sections
that are due.
-/

namespace AvensysEsp32
namespace UnitComm

open Foundation Serial

/-! ## What is on the line -/

section OnLine

variable {line : Line} {sys : System}

theorem Message.pos (msg : Message) :
    0 < msg.frame.length :=
  msg.frame_bounds.1

/-- What is on the line is a matter of the requests, the replies and the
receiver. -/
theorem Line.On.congr
    (h : line.On sys) {sys' : System}
    (hrequests : sys'.requests = sys.requests) (hreplies : sys'.replies = sys.replies)
    (hport : sys'.gateway.port = sys.gateway.port) :
    line.On sys' := by
  cases line with
  | quiet =>
      obtain ⟨h₁, h₂, h₃⟩ : Quiet sys := h
      exact ⟨hrequests.trans h₁, hreplies.trans h₂, hport ▸ h₃⟩
  | asked q =>
      obtain ⟨h₁, h₂, h₃⟩ : Asked q.frame sys := h
      exact ⟨hrequests.trans h₁, hreplies.trans h₂, hport ▸ h₃⟩
  | replied msg =>
      obtain ⟨h₁, h₂⟩ : Replied msg.frame sys := h
      exact ⟨hrequests.trans h₁, hport ▸ hreplies ▸ h₂⟩

/-- A reply on its way is what is on the line. -/
theorem Line.On.of_replied
    (h : line.On sys) {w : List UInt8} (hw : Replied w sys) (hpos : 0 < w.length) :
    ∃ msg, line = .replied msg ∧ msg.frame = w := by
  have hnotIdle : sys.replies = [] → ¬ Idle sys.gateway.port := by
    intro hreplies hidle
    cases hw.transit with
    | onLine hone hport =>
        rw [hreplies] at hone
        cases hone
    | cached _ hport =>
        have h₁ := hport.received
        have h₂ := hidle.nothingReceived
        omega
    | noticed _ hport =>
        have h₁ := hport.announced
        have h₂ := hidle.nothingAnnounced
        omega
  cases line with
  | quiet => exact absurd (Quiet.port h) (hnotIdle (Quiet.replies h))
  | asked q => exact absurd (Asked.port h) (hnotIdle (Asked.replies h))
  | replied msg =>
      refine ⟨msg, rfl, ?_⟩
      have hpos' := msg.pos
      have hsame : ∀ {n : Nat}, n = msg.frame.length → n = w.length →
          (∀ i < msg.frame.length, sys.gateway.port.rxCache i = ofBytes msg.frame i) →
          (∀ i < w.length, sys.gateway.port.rxCache i = ofBytes w i) → msg.frame = w := by
        intro n h₁ h₂ hc₁ hc₂
        apply List.ext_getElem (by omega)
        intro i hi₁ hi₂
        rw [← ofBytes_of_lt hi₁, ← ofBytes_of_lt hi₂, ← hc₁ i hi₁, hc₂ i hi₂]
      cases h.transit with
      | onLine hone hport =>
          cases hw.transit with
          | onLine hone' _ => exact List.singleton_inj.mp (hone.symm.trans hone')
          | cached hnone _ => rw [hnone] at hone; cases hone
          | noticed hnone _ => rw [hnone] at hone; cases hone
      | cached hnone hport =>
          cases hw.transit with
          | onLine hone _ => rw [hnone] at hone; cases hone
          | cached _ hport' => exact hsame hport.received hport'.received hport.cached hport'.cached
          | noticed _ hport' =>
              have h₁ := hport.received
              have h₂ := hport'.nothingReceived
              omega
      | noticed hnone hport =>
          cases hw.transit with
          | onLine hone _ => rw [hnone] at hone; cases hone
          | cached _ hport' =>
              have h₁ := hport.nothingReceived
              have h₂ := hport'.received
              omega
          | noticed _ hport' =>
              exact hsame hport.announced hport'.announced hport.cached hport'.cached

/-- A message with the frame of a polling reply is one, with the same counters. -/
theorem Message.polling_of_frame
    {msg : Message} {m : Memory} {measures : Measures}
    (h : msg.frame = pollingBaseReply m measures) :
    ∃ m' measures', msg = .polling m' measures' ∧
      ∀ sec : CountedSection, m' sec.cntUpdateAddress = m sec.cntUpdateAddress := by
  have hwf := wellFormed_pollingBaseReply m measures
  have hreply : msg.reply = some .pollingBase := by
    rcases msg.verdict_frame with ⟨reply, hreply, -, -, hcommand⟩ | ⟨-, hneg⟩
    · rw [h, pollingBaseReply_command] at hcommand
      rw [hreply, ← hcommand]
      rfl
    · rw [h, verdict_of_wellFormed hwf] at hneg
      omega
  cases msg with
  | polling m' measures' =>
      refine ⟨m', measures', rfl, fun sec => ?_⟩
      rw [← pollingBaseReply_counter m' measures' sec, ← pollingBaseReply_counter m measures sec]
      exact congrArg (fun w => ofBytes w sec.irspCntUpdate) h
  | read sec m' => cases hreply
  | written sec m' result => cases hreply
  | debug data => cases hreply
  | rejected w hw => cases hreply

theorem Line.On.question_of_mem
    (h : line.On sys) {w : List UInt8} (hw : w ∈ sys.requests) :
    ∃ q, line = .asked q ∧ q.frame = w := by
  cases line with
  | quiet =>
      have hnone := Quiet.requests h
      rw [hnone] at hw
      cases hw
  | asked q =>
      have hone := Asked.requests h
      rw [hone, List.mem_singleton] at hw
      exact ⟨q, rfl, hw.symm⟩
  | replied msg =>
      have hnone := Replied.requests h
      rw [hnone] at hw
      cases hw

/-- The command byte of a question. -/
def Question.command : Question → UInt8
  | .read _ => commandReadEeprom
  | .write _ _ => commandWriteEeprom
  | .polling _ => commandPollingBase
  | .debug _ _ => commandDataDebug

theorem Question.frame_command
    (q : Question) :
    ofBytes q.frame ihm1TypeComand = q.command := by
  cases q with
  | read sec => exact readEepromRequest_command sec.eepromSection
  | write sec m => exact writeEepromRequest_head sec m (by decide)
  | polling device => exact pollingBaseRequest_command device
  | debug b c => rfl

/-- The address byte tells a counted section from the others. -/
theorem eq_of_address
    {sec : EepromSection} {counted : CountedSection}
    (h : UInt8.ofNat sec.startAddress = UInt8.ofNat counted.eepromSection.startAddress) :
    sec = counted.eepromSection := by
  revert h
  cases sec <;> cases counted <;> decide

/-- A request for a section is the question for it. -/
theorem Question.reaches
    {q : Question} {sec : CountedSection}
    (h : q.frame = readEepromRequest sec.eepromSection ∨
      ∃ m, q.frame = writeEepromRequest sec.eepromSection m) :
    (Line.asked q).Reaches sec := by
  have hcommand := q.frame_command
  rcases h with h | ⟨m, h⟩
  · have hread : q.command = commandReadEeprom := by
      rw [← hcommand, h, readEepromRequest_command]
    have haddress := congrArg (fun w => ofBytes w irqrAddrByteStartEep) h
    cases q with
    | read sec' =>
        exact (CountedSection.eepromSection_injective (eq_of_address haddress)).symm
    | write sec' m => cases hread
    | polling device => cases hread
    | debug b c => cases hread
  · have hhead : ∀ {i}, i < 6 → ofBytes q.frame i = ofBytes [protoStartMsg0, protoStartMsg1,
        6 + UInt8.ofNat sec.eepromSection.count, commandWriteEeprom,
        UInt8.ofNat sec.eepromSection.startAddress, UInt8.ofNat sec.eepromSection.count] i := by
      intro i hi
      rw [h]
      exact writeEepromRequest_head sec.eepromSection m hi
    have hwrite : q.command = commandWriteEeprom :=
      hcommand.symm.trans (hhead (by decide))
    cases q with
    | read sec' => cases hwrite
    | write sec' m' =>
        have haddress := (writeEepromRequest_head sec' m' (i := 4) (by decide)).symm.trans
          (hhead (by decide))
        exact (eq_of_address haddress).symm
    | polling device => cases hwrite
    | debug b c => cases hwrite

end OnLine

/-! ## Handling a reply -/

section Handling

variable {s : UnitState} {board : Memory} {sec : CountedSection}

/-- A section read from the board is stored in the mirror, and nowhere else. -/
theorem readEepromDataParse_section
    {m : Memory} (sec sec' : CountedSection)
    (hbuffer : ∀ i < rxBufferSize,
      s.port.buffSer1 i = ofBytes (readSectionReply m sec'.eepromSection) i) :
    Set.EqOn (readEepromDataParse s.port.buffSer1 s).gRDEeprom m sec'.eepromSection.range ∧
      (sec ≠ sec' → Set.EqOn (readEepromDataParse s.port.buffSer1 s).gRDEeprom s.gRDEeprom
        sec.eepromSection.range) := by
  obtain ⟨haddress, hcount⟩ := readSectionReply_address m sec'.eepromSection
  have hstart : (s.port.buffSer1 irsrAddrByteStartEep).toNat =
      sec'.eepromSection.startAddress := by
    rw [hbuffer _ (by decide), haddress, EepromSection.toNat_startAddress]
  have hnum : (s.port.buffSer1 irsrAddrNumByteEep).toNat = sec'.eepromSection.count := by
    rw [hbuffer _ (by decide), hcount, EepromSection.toNat_count]
  have hlimit := sec'.eepromSection.count_le
  unfold readEepromDataParse
  dsimp only
  rw [hstart, hnum]
  constructor
  · apply memcpy_eqOn_of_source
    intro i hi
    rw [hbuffer _ (by simp only [irsrStartDataEeprom, rxBufferSize]; omega)]
    exact readSectionReply_data m sec'.eepromSection hi
  · intro hne i hi
    apply memcpy_outside
    rw [EepromSection.mem_range_iff, EepromSection.startAddress_eq,
      EepromSection.count_eq] at hi
    rw [EepromSection.startAddress_eq, EepromSection.count_eq]
    rintro ⟨h₁, h₂⟩
    cases sec <;> cases sec' <;>
      first
        | exact hne rfl
        | (simp only [CountedSection.eepromSection] at hi h₁ h₂; omega)

/-- The counters of the other sections lie outside a section. -/
theorem cntUpdateAddress_not_mem
    {sec' : CountedSection} (hne : sec' ≠ sec) :
    sec'.cntUpdateAddress ∉ sec.eepromSection.range := by
  rw [EepromSection.mem_range_iff, EepromSection.startAddress_eq, EepromSection.count_eq,
    CountedSection.cntUpdateAddress_eq]
  cases sec <;> cases sec' <;>
    first
      | exact absurd rfl hne
      | decide

/-- With the counter it has, a section is not changed by the counters of a
reply to a write. -/
theorem withCounters_eqOn
    {rxBuffer m : Memory}
    (hcnt : rxBuffer sec.irswCntUpdate = m sec.cntUpdateAddress) :
    Set.EqOn (withCounters rxBuffer m) m sec.eepromSection.range := by
  intro i hi
  by_cases hown : i = sec.cntUpdateAddress
  · rw [hown, withCounters_cntUpdateAddress, hcnt]
  · apply withCounters_of_ne
    intro sec' heq
    by_cases hsec : sec' = sec
    · exact hown (hsec ▸ heq)
    · exact cntUpdateAddress_not_mem hsec (heq ▸ hi)

/-- The counters that a polling reply carries are those of the board that sent
it. -/
theorem pollingBaseData_cntUpdate
    {m : Memory} {measures : Measures}
    (hbuffer : ∀ i < rxBufferSize,
      s.port.buffSer1 i = ofBytes (pollingBaseReply m measures) i) :
    (pollingBaseData s.port.buffSer1).cntUpdate = fun sec => m sec.cntUpdateAddress := by
  funext sec
  have hinside : sec.irspCntUpdate < rxBufferSize := by
    cases sec <;> decide
  show s.port.buffSer1 sec.irspCntUpdate = _
  rw [hbuffer _ hinside]
  exact pollingBaseReply_counter m measures sec

section Replies

variable (inp : IterationInput) (s : UnitState)

/-- The polled counters become the shadow, and a section is due when its
counter differs from the one known before. -/
theorem handleReply_pollingBase :
    (handleReply inp .pollingBase s).gRDEeprom = s.gRDEeprom ∧
      (handleReply inp .pollingBase s).readEepromRequestIndex = s.readEepromRequestIndex |||
        changeRequests (pollingBaseData s.port.buffSer1).cntUpdate s.knownCounters ∧
      (handleReply inp .pollingBase s).gKTSData.cntUpdate =
        (pollingBaseData s.port.buffSer1).cntUpdate ∧
      (handleReply inp .pollingBase s).extCnt =
        { initialized := true, cnt := (pollingBaseData s.port.buffSer1).cntUpdate } := by
  obtain ⟨published, -, heq⟩ := handleReply_eq inp s .pollingBase
  unfold parseReply at heq
  dsimp only at heq
  rw [heq, pollingBaseDataParse_eq]
  exact ⟨rfl, rfl, rfl, rfl⟩

/-- What the handling of a reply leaves on the line: nothing outstanding. -/
theorem handleReply_line (reply : Reply) :
    (handleReply inp reply s).eepromDataReceived = false ∧
      (handleReply inp reply s).port = s.port := by
  obtain ⟨published, -, heq⟩ := handleReply_eq inp s reply
  rw [heq]
  unfold parseReply
  cases reply with
  | pollingBase => simp only [pollingBaseDataParse_eq, and_self]
  | dataDebug => exact ⟨rfl, rfl⟩
  | readEeprom => exact ⟨rfl, rfl⟩
  | writeEeprom => simp only [writeEepromDataParse_eq, and_self]

end Replies

variable (inp : IterationInput)

/-- After the reply has been handled the section is covered without it. -/
theorem covered_handleReply
    {msg : Message} {reply : Reply} (hreply : msg.reply = some reply)
    (hbuffer : ∀ i < rxBufferSize, s.port.buffSer1 i = ofBytes msg.frame i)
    (hinit : s.extCnt.initialized = true)
    (h : (Line.replied msg).Covers sec s board) :
    Covered sec (handleReply inp reply s) board := by
  cases msg with
  | rejected w hw => cases hreply
  | debug data =>
      cases hreply
      obtain ⟨published, -, heq⟩ := handleReply_eq inp s .dataDebug
      rw [heq]
      exact (SameShadow.mk rfl rfl rfl rfl).covered h
  | read sec' m =>
      cases hreply
      obtain ⟨hself, hother⟩ := readEepromDataParse_section sec sec' hbuffer
      obtain ⟨published, -, heq⟩ := handleReply_eq inp s .readEeprom
      have hcovered : Covered sec (readEepromDataParse s.port.buffSer1 s) board := by
        by_cases hsec : sec = sec'
        · subst hsec
          rcases (if_pos rfl).mp h with himage | hahead | hdue
          · exact Or.inl (hself.trans himage)
          · exact Or.inr (Or.inl hahead)
          · exact Or.inr (Or.inr hdue)
        · rcases (if_neg hsec).mp h with hshown | hahead | hdue
          · exact Or.inl ((hother hsec).trans hshown)
          · exact Or.inr (Or.inl hahead)
          · exact Or.inr (Or.inr hdue)
      rw [heq]
      exact (SameShadow.mk rfl rfl rfl rfl).covered hcovered
  | written sec' m result =>
      cases hreply
      have hcnt : ∀ sec : CountedSection,
          s.port.buffSer1 sec.irswCntUpdate = m sec.cntUpdateAddress := by
        intro sec
        have hinside : sec.irswCntUpdate < rxBufferSize := by
          cases sec <;> decide
        rw [hbuffer _ hinside]
        exact writeEepromReply_counter m _ _ result sec
      have hafter : handleReply inp .writeEeprom s =
          { writeEepromDataParse s.port.buffSer1 s with eepromDataReceived := false } := rfl
      rw [hafter, writeEepromDataParse_eq]
      by_cases hsame : m sec.cntUpdateAddress = s.gRDEeprom sec.cntUpdateAddress
      · have himage : Set.EqOn (withCounters s.port.buffSer1 s.gRDEeprom) s.gRDEeprom
            sec.eepromSection.range :=
          withCounters_eqOn ((hcnt sec).trans hsame)
        rcases h with hcovered | hne
        · rcases hcovered with hshown | hahead | hdue
          · exact Or.inl (himage.trans hshown)
          · exact Or.inr (Or.inl hahead)
          · exact Or.inr (Or.inr (hdue.or _))
        · exact absurd hsame hne
      · refine Or.inr (Or.inr (Or.inl ?_))
        dsimp only
        rw [BitVec.getLsbD_or, Bool.or_eq_true]
        right
        rw [getLsbD_changeRequests_readRequestBit, hcnt]
        exact hsame
  | polling m measures =>
      cases hreply
      obtain ⟨himage, hindex, hpolled, hext⟩ := handleReply_pollingBase inp s
      rw [knownCounters_of_initialized hinit] at hindex
      rw [pollingBaseData_cntUpdate hbuffer] at hindex hpolled hext
      rcases h with hshown | hdue | hboard | hshadow
      · left
        unfold Shown
        rw [himage]
        exact hshown
      · right
        right
        rw [hindex]
        exact hdue.or _
      · right
        left
        unfold Ahead
        rw [hpolled, hext]
        exact ⟨hboard, hboard⟩
      · right
        right
        left
        rw [hindex, BitVec.getLsbD_or, Bool.or_eq_true]
        right
        rw [getLsbD_changeRequests_readRequestBit]
        exact hshadow.symm

/-- The shadow stays in use. -/
theorem handleReply_initialized
    (reply : Reply) (hinit : s.extCnt.initialized = true) :
    (handleReply inp reply s).extCnt.initialized = true := by
  obtain ⟨published, -, heq⟩ := handleReply_eq inp s reply
  rw [heq]
  unfold parseReply
  cases reply with
  | pollingBase => simp only [pollingBaseDataParse_eq]
  | dataDebug => exact hinit
  | readEeprom => exact hinit
  | writeEeprom =>
      dsimp only
      rw [writeEepromDataParse_eq]
      exact hinit

end Handling

/-! ## The invariant of the connected state -/

/-- Every counted section is covered with the help of what is on the line, and
nothing is on the line unless something is outstanding. -/
structure Mirrored (sys : System) : Prop where
  initialized : sys.gateway.extCnt.initialized = true
  line :
    ∃ line : Line, line.On sys ∧
      (∀ sec, line.Covers sec sys.gateway sys.board) ∧
      (sys.gateway.eepromDataReceived = false → line = .quiet)

/-- A stage of the task sends its requests and keeps the invariant. -/
def Keeps (stage : UnitState → UnitState) (sys : System) : Prop :=
  ∃ ws, Sends ws sys.gateway (stage sys.gateway) ∧
    Mirrored
      { sys with
        gateway := stage sys.gateway
        requests := sys.requests ++ ws }

section Stages

variable {sys : System} {inp : IterationInput}

theorem Keeps.trans
    {stage stage' : UnitState → UnitState}
    (h : Keeps stage sys)
    (h' : ∀ sys' : System, sys'.gateway = stage sys.gateway → Mirrored sys' →
      Keeps stage' sys') :
    Keeps (fun s => stage' (stage s)) sys := by
  obtain ⟨ws, hsend, hinv⟩ := h
  obtain ⟨ws', hsend', hinv'⟩ := h' _ rfl hinv
  refine ⟨ws ++ ws', hsend.trans hsend', ?_⟩
  rw [← List.append_assoc]
  exact hinv'

theorem Keeps.iterate
    (h : Keeps (unitEventTask inp) sys) :
    Mirrored (systemStep (.gateway (.iterate inp)) sys) := by
  obtain ⟨ws, hsend, hinv⟩ := h
  have hsent : sent (.iterate inp) sys.gateway = ws := sent_eq hsend
  have hstep : systemStep (.gateway (.iterate inp)) sys =
      { sys with
        gateway := unitEventTask inp sys.gateway
        requests := sys.requests ++ ws } := by
    simp only [systemStep, step, hsent]
  rw [hstep]
  exact hinv

/-- A stage that sends nothing, and keeps what decides whether a section is
covered, keeps the invariant. -/
theorem Mirrored.of_sameShadow
    (h : Mirrored sys) {gateway : UnitState}
    (hshadow : SameShadow sys.gateway gateway)
    (hport : gateway.port = sys.gateway.port)
    (hflag : gateway.eepromDataReceived = sys.gateway.eepromDataReceived)
    (hinit : gateway.extCnt.initialized = sys.gateway.extCnt.initialized) :
    Mirrored { sys with gateway := gateway } := by
  obtain ⟨hinitialized, line, hline, hcovers, hquiet⟩ := h
  exact ⟨hinit.trans hinitialized, line, hline.congr rfl rfl hport,
    fun sec => hshadow.covers (hcovers sec), fun hfalse => hquiet (hflag ▸ hfalse)⟩

/-- The requests of the timers are questions that need not be covered for. -/
theorem question_of_timerRequests
    {s : UnitState} {w : List UInt8} (hw : w ∈ timerRequests inp s) :
    ∃ q : Question, q.frame = w ∧
      ∀ sec s board, Covered sec s board → (Line.asked q).Covers sec s board := by
  rcases List.mem_cons.mp hw with rfl | hw
  · exact ⟨.debug _ _, (comSendRequestDataDebug_eq inp.stack).symm, fun _ _ _ h => h⟩
  · rw [List.mem_singleton] at hw
    subst hw
    exact ⟨.polling s.device, (comSendRequestPollingBase_eq _ _).symm, fun _ _ _ h => h⟩

/-- The timers ask at most one question, on a quiet line. -/
theorem keeps_beforeReceive
    (h : Mirrored sys)
    (hstill : (beforeReceive inp sys.gateway).wbmComState = .wbmConnected) :
    Keeps (beforeReceive inp) sys := by
  have hafter := beforeReceive_of_connected inp sys.gateway hstill
  have hdata := sameData_afterRequests inp sys.gateway
  obtain ⟨-, hindex, hext⟩ := afterRequests_link inp sys.gateway
  have hshadow : SameShadow sys.gateway (afterRequests inp sys.gateway) :=
    ⟨hdata.gRDEeprom, hindex, congrArg _ hdata.gKTSData, hdata.cnt⟩
  rcases sends_beforeReceive inp sys.gateway with ⟨hsend, hflag⟩ | ⟨w, hw, hfalse, htrue, hsend⟩
  · refine ⟨[], hsend, ?_⟩
    rw [List.append_nil, hafter]
    exact h.of_sameShadow hshadow hdata.port hflag (congrArg _ hext)
  · refine ⟨[w], hsend, ?_⟩
    rw [hafter]
    generalize afterRequests inp sys.gateway = s at hdata hext hshadow htrue ⊢
    obtain ⟨hinit, line, hline, hcovers, hquiet⟩ := h
    have hnone := hquiet hfalse
    subst hnone
    obtain ⟨hrequests, hreplies, hidle⟩ : Quiet sys := hline
    obtain ⟨q, rfl, hq⟩ := question_of_timerRequests hw
    refine ⟨hext ▸ hinit, .asked q, ⟨?_, hreplies, hdata.port ▸ hidle⟩,
      fun sec => hq sec _ _ (hshadow.covered (hcovers sec)), fun hflag => ?_⟩
    · dsimp only
      rw [hrequests]
      rfl
    · rw [htrue] at hflag
      cases hflag

/-! ## Reception -/

/-- While the receiver is idle nothing is received. -/
theorem receive_idle
    {s : UnitState} (inp : IterationInput) (h : Idle s.port) :
    receive inp s =
        { s with valRet := (readMessage s.port).1, port := (readMessage s.port).2 } ∧
      Idle (readMessage s.port).2 := by
  refine ⟨receive_nothing inp ?_ ?_, h.readMessage⟩
  · rw [readMessage_idle h]
    exact (by decide : bufferRxEmpy ≤ runDownload)
  · rw [readMessage_idle h]

/-- A message that is downloaded is parsed as the reply it is, or refused. -/
theorem receive_message
    {s : UnitState} (inp : IterationInput) {msg : Message}
    (hread : readMessage s.port = (verdict msg.frame, s.port.received msg.frame)) :
    (∀ i < rxBufferSize, (readMessage s.port).2.buffSer1 i = ofBytes msg.frame i) ∧
      ((∃ reply, msg.reply = some reply ∧
          receive inp s =
            handleReply inp reply
              { s with
                valRet := (readMessage s.port).1
                port := (readMessage s.port).2
                globalTimeoutMilliseconds := inp.millis 13 }) ∨
        msg.reply = none ∧
          receive inp s =
            receiveError
              { s with valRet := (readMessage s.port).1, port := (readMessage s.port).2 }) := by
  have hbuffer : ∀ i < rxBufferSize,
      (readMessage s.port).2.buffSer1 i = ofBytes msg.frame i := by
    intro i hi
    rw [hread]
    exact downloaded_apply _ _ hi
  refine ⟨hbuffer, ?_⟩
  rcases msg.verdict_frame with ⟨reply, hreply, hverdict, hwf, hcommand⟩ | ⟨hnone, hneg⟩
  · have hgt : runDownload < (readMessage s.port).1 := by
      rw [hread, hverdict]
      exact hwf.runDownload_lt
    exact Or.inl ⟨reply, hreply,
      receive_reply inp hgt (by rw [hbuffer _ (by decide)]; exact hcommand)⟩
  · exact Or.inr ⟨hnone, receive_rejected inp (by rw [hread]; exact hneg)⟩

/-- Clearing the receiver's buffer leaves it idle. -/
theorem idle_receiveError
    {s : UnitState} (h : Idle s.port) :
    Idle (receiveError s).port :=
  ⟨h.nothingReceived, h.nothingClaimed, h.nothingAnnounced⟩

/-- At most one message is taken off the line, and what it was covered for is
covered without it. -/
theorem keeps_receive
    (h : Mirrored sys) :
    Keeps (receive inp) sys := by
  refine ⟨[], sends_receive inp sys.gateway, ?_⟩
  rw [List.append_nil]
  obtain ⟨hinit, line, hline, hcovers, hquiet⟩ := h
  cases line with
  | quiet =>
      obtain ⟨hrequests, hreplies, hport⟩ : Quiet sys := hline
      obtain ⟨hreceive, hport'⟩ := receive_idle inp hport
      rw [hreceive]
      exact ⟨hinit, .quiet, ⟨hrequests, hreplies, hport'⟩,
        fun sec => (SameShadow.mk rfl rfl rfl rfl).covers (hcovers sec), fun _ => rfl⟩
  | asked q =>
      obtain ⟨hrequests, hreplies, hport⟩ : Asked q.frame sys := hline
      obtain ⟨hreceive, hport'⟩ := receive_idle inp hport
      rw [hreceive]
      exact ⟨hinit, .asked q, ⟨hrequests, hreplies, hport'⟩,
        fun sec => (SameShadow.mk rfl rfl rfl rfl).covers (hcovers sec), hquiet⟩
  | replied msg =>
      obtain ⟨hpos, hshort⟩ := msg.frame_bounds
      obtain ⟨hrequests, htransit⟩ : Replied msg.frame sys := hline
      rcases htransit.readMessage hpos hshort with ⟨hval, hstill⟩ | ⟨hread, hreplies, hport⟩
      · have hsilent : (readMessage sys.gateway.port).1 ≤ runDownload ∧
            0 ≤ (readMessage sys.gateway.port).1 := by
          rcases hval with hval | hval
          · exact hval ▸ (by decide : bufferRxEmpy ≤ runDownload ∧ 0 ≤ bufferRxEmpy)
          · exact hval ▸ (by decide : runDownload ≤ runDownload ∧ 0 ≤ runDownload)
        rw [receive_nothing inp hsilent.1 hsilent.2]
        exact ⟨hinit, .replied msg, ⟨hrequests, hstill⟩,
          fun sec => (SameShadow.mk rfl rfl rfl rfl).covers (hcovers sec), hquiet⟩
      · have hport' : Idle (readMessage sys.gateway.port).2 := by
          rw [hread]
          exact hport
        obtain ⟨hbuffer, ⟨reply, hreply, hreceive⟩ | ⟨hnone, hreceive⟩⟩ :=
          receive_message inp hread
        · rw [hreceive]
          refine ⟨handleReply_initialized inp reply hinit, .quiet, ⟨hrequests, hreplies, ?_⟩,
            fun sec => ?_, fun _ => rfl⟩
          · dsimp only
            rw [(handleReply_line inp _ reply).2]
            exact hport'
          · exact covered_handleReply inp hreply hbuffer hinit
              ((SameShadow.mk rfl rfl rfl rfl).covers (hcovers sec))
        · rw [hreceive]
          refine ⟨hinit, .quiet, ⟨hrequests, hreplies, idle_receiveError hport'⟩,
            fun sec => ?_, fun _ => rfl⟩
          have hcovered : Covered sec sys.gateway sys.board := by
            cases msg with
            | rejected w hw => exact hcovers sec
            | read sec' m => cases hnone
            | written sec' m result => cases hnone
            | polling m measures => cases hnone
            | debug data => cases hnone
          exact (SameShadow.mk rfl rfl rfl rfl).covered hcovered

/-! ## The scheduler -/

/-- A reply sets no write bit. -/
theorem receive_index_le
    (inp : IterationInput) (s : UnitState) {k : Nat} (hk : 4 ≤ k)
    (h : (receive inp s).readEepromRequestIndex.getLsbD k = true) :
    s.readEepromRequestIndex.getLsbD k = true := by
  have hreply : ∀ (reply : Reply) (s : UnitState),
      (handleReply inp reply s).readEepromRequestIndex.getLsbD k = true →
        s.readEepromRequestIndex.getLsbD k = true := by
    intro reply s h
    obtain ⟨published, -, heq⟩ := handleReply_eq inp s reply
    rw [heq] at h
    unfold parseReply at h
    cases reply with
    | pollingBase =>
        dsimp only at h
        rw [pollingBaseDataParse_eq] at h
        exact getLsbD_or_changeRequests _ _ _ hk h
    | dataDebug => exact h
    | readEeprom => exact h
    | writeEeprom =>
        dsimp only at h
        rw [writeEepromDataParse_eq] at h
        exact getLsbD_or_changeRequests _ _ _ hk h
  have hcase := receive_case inp s
  generalize receive inp s = s' at hcase h
  cases hcase with
  | reply hgt hreply' =>
      have hset := hreply _ _ h
      exact hset
  | unknown hgt hnone => exact h
  | rejected hneg => exact h
  | nothing hle hnonneg => exact h

/-- Clearing the bit of a service leaves every section due that the service
neither reads nor writes. -/
theorem due_mask
    {index bit mask : BitVec 16} {service : Service}
    (hservice : nextService index = some (bit, mask, service))
    {sec : CountedSection} {index' : BitVec 16}
    (hread : service ≠ .read sec.eepromSection) (hwrite : service ≠ .write sec.eepromSection)
    (h : Due sec index') :
    Due sec (index' &&& mask) := by
  have hkept : ∀ entry ∈ schedule, ∀ sec ∈ CountedSection.all,
      (entry.2.2 ≠ .read sec.eepromSection →
          entry.2.1.getLsbD (readRequestBit sec) = true) ∧
        (entry.2.2 ≠ .write sec.eepromSection →
          (writeBit sec.eepromSection).any (fun k => entry.2.1.getLsbD k) = true) := by
    decide
  obtain ⟨hreadBit, hwriteBit⟩ :=
    hkept _ (List.mem_of_find?_eq_some hservice) sec sec.mem_all
  rcases h with h | h
  · left
    rw [BitVec.getLsbD_and, h, hreadBit hread]
    rfl
  · right
    unfold writePending at *
    have hmask := hwriteBit hwrite
    cases hbit : writeBit sec.eepromSection with
    | none =>
        rw [hbit] at h
        cases h
    | some k =>
        rw [hbit] at h hmask
        simp only [Option.any_some] at h hmask ⊢
        rw [BitVec.getLsbD_and, h, hmask]
        rfl

/-- The sections that the scheduler reads are counted. -/
theorem counted_of_nextService
    {index bit mask : BitVec 16} {sec : EepromSection}
    (h : nextService index = some (bit, mask, .read sec)) :
    ∃ counted : CountedSection, sec = counted.eepromSection := by
  have hall : ∀ entry ∈ schedule, ∀ sec, entry.2.2 = .read sec →
      ∃ counted ∈ CountedSection.all, sec = counted.eepromSection := by
    have hdecide : ∀ entry ∈ schedule, ∀ sec ∈ EepromSection.configuration :: writtenSections,
        entry.2.2 = .read sec → ∃ counted ∈ CountedSection.all,
          sec = counted.eepromSection := by
      decide
    intro entry hentry sec
    apply hdecide entry hentry sec
    cases sec <;> decide
  obtain ⟨counted, -, hcounted⟩ := hall _ (List.mem_of_find?_eq_some h) sec rfl
  exact ⟨counted, hcounted⟩

/-- Clients' images leave the gateway alone, or make every section due. -/
theorem clientWrites_cases
    (ws : List ClientWrite) (s : UnitState) :
    ws.foldl (fun s w => clientWrite w s) s = s ∧ (∀ w ∈ ws, w.payload.length < 241) ∨
      (∃ w ∈ ws, 241 ≤ w.payload.length) ∧
        (ws.foldl (fun s w => clientWrite w s) s).readEepromRequestIndex =
          s.readEepromRequestIndex ||| fullEepromWrite := by
  induction ws generalizing s with
  | nil => exact Or.inl ⟨rfl, fun w hw => by cases hw⟩
  | cons w ws ih =>
      by_cases hw : 241 ≤ w.payload.length
      · right
        refine ⟨⟨w, List.mem_cons_self, hw⟩, ?_⟩
        have hindex := (clientWrite_accepted w s hw).2
        rcases ih (clientWrite w s) with ⟨hsame, -⟩ | ⟨-, hmore⟩
        · rw [List.foldl_cons, hsame, hindex]
        · rw [List.foldl_cons, hmore, hindex, BitVec.or_assoc, BitVec.or_self]
      · have hrejected := clientWrite_rejected w s (by omega)
        rw [List.foldl_cons, hrejected]
        rcases ih s with ⟨hsame, hshort⟩ | ⟨⟨w', hw', hlong⟩, hindex⟩
        · refine Or.inl ⟨hsame, fun w' hw' => ?_⟩
          rcases List.mem_cons.mp hw' with rfl | hw'
          · omega
          · exact hshort w' hw'
        · exact Or.inr ⟨⟨w', List.mem_cons_of_mem w hw', hlong⟩, hindex⟩

theorem due_or_fullEepromWrite
    (sec : CountedSection) (index : BitVec 16) :
    Due sec (index ||| fullEepromWrite) := by
  right
  unfold writePending
  cases sec <;>
    simp [CountedSection.eepromSection, writeBit, BitVec.getLsbD_or, fullEepromWrite]

/-- The sections that a service is not about stay covered while it is carried
out. -/
theorem covered_service
    (inp : IterationInput) {s : UnitState} {board : Memory} {sec : CountedSection}
    {bit mask : BitVec 16} {service : Service}
    (hnext : nextService s.readEepromRequestIndex = some (bit, mask, service))
    (h : Covered sec s board)
    (hread : service ≠ .read sec.eepromSection) (hwrite : service ≠ .write sec.eepromSection) :
    Covered sec
      { inp.duringTx.foldl (fun s w => clientWrite w s) (sendService inp service s) with
        eepromDataReceived := true
        readEepromRequestIndex :=
          (inp.duringTx.foldl (fun s w => clientWrite w s)
            (sendService inp service s)).readEepromRequestIndex &&& mask }
      board := by
  have hbut := (sameButImage_sendService inp service s).trans
    (sameButImage_clientWrites inp.duringTx _)
  obtain ⟨himage, hindex⟩ := sendService_image inp s service
  rcases clientWrites_cases inp.duringTx (sendService inp service s) with
    ⟨hkept, -⟩ | ⟨-, hall⟩
  · rcases h with hshown | hahead | hdue
    · left
      unfold Shown
      dsimp only
      rw [hkept, himage]
      exact hshown
    · right
      left
      unfold Ahead
      dsimp only
      rw [hbut.gKTSData, hbut.extCnt]
      exact hahead
    · refine Or.inr (Or.inr (due_mask hnext hread hwrite ?_))
      rw [hkept, hindex]
      exact hdue
  · refine Or.inr (Or.inr (due_mask hnext hread hwrite ?_))
    rw [hall]
    exact due_or_fullEepromWrite sec _

/-- The scheduler asks at most one question, on a quiet line, and what it is not
about stays covered.  An image accepted while a section is being written would
be lost with the bit of that section. -/
theorem keeps_scheduler
    (h : Mirrored sys)
    (hwrites : ∀ w ∈ inp.duringTx, 241 ≤ w.payload.length →
      ∀ sec, writePending sys.gateway.readEepromRequestIndex sec = false) :
    Keeps (scheduler inp) sys := by
  rcases scheduler_cases inp sys.gateway with
    ⟨hsame, -⟩ | ⟨bit, mask, service, hfalse, hnext, hrun⟩
  · refine ⟨[], ?_, ?_⟩
    · rw [hsame]
      exact sends_of_outputs_eq rfl
    · rw [hsame, List.append_nil]
      exact h
  have hsend : Sends (serviceFrames service sys.gateway.gRDEeprom) sys.gateway
      (scheduler inp sys.gateway) := by
    rw [hrun]
    exact (sends_sendService inp sys.gateway service).then_silent
      (sends_clientWrites (sendService inp service sys.gateway) inp.duringTx)
  refine ⟨_, hsend, ?_⟩
  obtain ⟨hinit, line, hline, hcovers, hquiet⟩ := h
  have hnone := hquiet hfalse
  subst hnone
  obtain ⟨hrequests, hreplies, hidle⟩ : Quiet sys := hline
  have hbut := (sameButImage_sendService inp service sys.gateway).trans
    (sameButImage_clientWrites inp.duringTx _)
  obtain ⟨himage, -⟩ := sendService_image inp sys.gateway service
  have hothers := fun sec => covered_service inp hnext (hcovers sec)
  generalize hs : inp.duringTx.foldl (fun s w => clientWrite w s)
    (sendService inp service sys.gateway) = s at hrun hbut hothers
  rw [hrun]
  have hport := hbut.port
  have hinit' : s.extCnt.initialized = true := by
    rw [hbut.extCnt]
    exact hinit
  cases service with
  | read sec =>
      obtain ⟨counted, rfl⟩ := counted_of_nextService hnext
      refine ⟨hinit', .asked (.read counted), ⟨?_, hreplies, ?_⟩, fun sec hne => ?_,
        fun hflag => by cases hflag⟩
      · dsimp only
        rw [hrequests]
        rfl
      · exact hport ▸ hidle
      · refine hothers sec ?_ (by simp)
        intro heq
        exact hne (CountedSection.eepromSection_injective (Service.read.inj heq)).symm
  | write sec =>
      have hpending := writePending_of_nextService hnext
      have hkept : s.gRDEeprom = sys.gateway.gRDEeprom := by
        rcases clientWrites_cases inp.duringTx (sendService inp (.write sec) sys.gateway) with
          ⟨hkept, -⟩ | ⟨⟨w, hw, hlong⟩, -⟩
        · rw [← hs, hkept, himage]
        · have hfree := hwrites w hw hlong sec
          rw [hfree] at hpending
          cases hpending
      have hframes := serviceFrames_write (ne_configuration_of_pending hpending)
        sys.gateway.gRDEeprom
      refine ⟨hinit', .asked (.write sec sys.gateway.gRDEeprom), ⟨?_, hreplies, ?_⟩,
        fun counted => ?_, fun hflag => by cases hflag⟩
      · dsimp only
        rw [hrequests, hframes]
        rfl
      · exact hport ▸ hidle
      · unfold Line.Covers
        dsimp only
        split
        · left
          intro i _ _
          dsimp only
          rw [hkept]
        · rename_i hsec
          refine hothers counted (by simp) ?_
          intro heq
          exact hsec (Service.write.inj heq).symm
  | nothing =>
      refine ⟨hinit', .quiet, ⟨?_, hreplies, ?_⟩, fun sec => hothers sec (by simp) (by simp),
        fun _ => rfl⟩
      · dsimp only
        rw [hrequests]
        rfl
      · exact hport ▸ hidle

/-- An iteration keeps the invariant, or loses the unit. -/
theorem mirrored_iterate
    (h : Mirrored sys)
    (hconn : sys.gateway.wbmComState = .wbmConnected)
    (hwrites : ∀ w ∈ inp.duringTx, 241 ≤ w.payload.length →
      ∀ sec, writePending sys.gateway.readEepromRequestIndex sec = false)
    (hstill : (systemStep (.gateway (.iterate inp)) sys).gateway.wbmComState =
      .wbmConnected) :
    Mirrored (systemStep (.gateway (.iterate inp)) sys) := by
  have htask : unitEventTask inp sys.gateway =
      scheduler inp (receive inp (beforeReceive inp sys.gateway)) :=
    unitEventTask_connected inp hconn
  have hbefore : (beforeReceive inp sys.gateway).wbmComState = .wbmConnected := by
    rw [← connectedIteration_wbmComState, ← unitEventTask_connected inp hconn]
    exact hstill
  have hthen : ∀ sys' : System, sys'.gateway = beforeReceive inp sys.gateway → Mirrored sys' →
      Keeps (fun s => scheduler inp (receive inp s)) sys' := by
    intro sys' hgateway hinv
    refine (keeps_receive hinv).trans fun sys'' hgateway' hinv' => ?_
    apply keeps_scheduler hinv'
    intro w hw hlong sec
    rw [Bool.eq_false_iff]
    intro hpending
    rw [hgateway', hgateway] at hpending
    have hpending' : writePending sys.gateway.readEepromRequestIndex sec = true :=
      writePending_mono
        (fun k hk hset => beforeReceive_index_le inp sys.gateway (receive_index_le inp _ hk hset))
        hpending
    rw [hwrites w hw hlong sec] at hpending'
    cases hpending'
  have hkeeps := (keeps_beforeReceive h hbefore).trans hthen
  apply Keeps.iterate
  obtain ⟨ws, hsend, hinv⟩ := hkeeps
  refine ⟨ws, ?_, ?_⟩
  · rw [htask]
    exact hsend
  · rw [htask]
    exact hinv

end Stages

end UnitComm
end AvensysEsp32
