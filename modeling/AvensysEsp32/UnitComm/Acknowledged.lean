import AvensysEsp32.Foundation.Grants
import AvensysEsp32.UnitComm.LastRequest
import AvensysEsp32.UnitComm.Transfer

/-!
# One block for each acknowledgement

`Read_Message` sets `Ack_Received` in whatever state a message with "ACK" in it
is downloaded, and only `Bootloader_State1` tests and clears it.  The states
before the transfer never pass it on: where the gateway looks for the unit, such
a message leads away from the transfer, for good.  So a block is sent only in
the iteration that downloads the acknowledgement.

A message counts as received when `Read_Message` downloads it.  Until then it
lies in the cache of the UART, and whatever arrives there next replaces it.
-/

namespace AvensysEsp32
namespace UnitComm

open Foundation Serial

/-! ## The receiver -/

/-- The call downloads a message that contains "ACK". -/
def AckMessage (p : SerialPort) : Prop :=
  Completes p ∧ strstr (downloadedBytes p) ackText = true

instance (p : SerialPort) : Decidable (AckMessage p) :=
  inferInstanceAs (Decidable (_ ∧ _))

section Receiver

variable {p : SerialPort}

/-- The message of no bytes that a full cache is dismissed with contains nothing. -/
theorem ackReceived_dismissed
    (p : SerialPort) :
    (classifyMessage 0
      { p with rxBufTail := 0, buffSer1 := memset p.buffSer1 0 0 rxBufferSize }).2.ackReceived =
        p.ackReceived := by
  have hnone : ∀ text, text ≠ [] →
      strstr (readBytes (memset p.buffSer1 0 0 rxBufferSize) 0 rxBufferSize) text = false := by
    intro text htext
    have hsame := strstr_downloaded (w := []) p.buffSer1 text (Nat.zero_le _)
    rw [downloaded, List.length_nil, memcpy_zero] at hsame
    rw [hsame, Bool.eq_false_iff]
    intro hcontains
    exact htext (List.length_eq_zero_iff.mp (Nat.le_zero.mp (length_le_of_strstr hcontains)))
  unfold classifyMessage
  dsimp only
  rw [hnone bootloaderText (List.cons_ne_nil _ _), hnone ackText (List.cons_ne_nil _ _)]
  rfl

/-- `Ack_Received` is set by a message that contains "ACK" and does not name the
bootloader; the call reports its length. -/
theorem readMessage_ackReceived
    (h : Settled p) (hbefore : p.ackReceived = false)
    (hafter : (readMessage p).2.ackReceived = true) :
    AckMessage p ∧ runDownload < (readMessage p).1 ∧
      (readMessage p).2.bootloaderMode = p.bootloaderMode := by
  rcases Nat.eq_zero_or_pos p.rxClaimLen with hclaim | hclaim
  · exfalso
    rcases Nat.eq_zero_or_pos p.rxAvailable with havailable | havailable
    · rw [readMessage_nothing h hclaim havailable] at hafter
      exact absurd (hbefore.symm.trans hafter) Bool.false_ne_true
    · rw [readMessage_notice h hclaim havailable] at hafter
      exact absurd (hbefore.symm.trans hafter) Bool.false_ne_true
  rcases Nat.lt_or_ge p.rxClaimLen uart1RxCacheSize with hlt | hge
  · have hread := readMessage_claim h hclaim hlt
    have hcontains : strstr (claimedMessage p) bootloaderText = false ∧
        strstr (claimedMessage p) ackText = true := by
      rw [hread] at hafter
      simpa [SerialPort.received, hbefore] using hafter
    have hbytes := downloadedBytes_claim h hclaim hlt
    refine ⟨⟨?_, ?_⟩, ?_, ?_⟩
    · unfold Completes
      rw [hread]
      exact verdict_ne _
    · rw [hbytes]
      exact hcontains.2
    · rw [hread]
      exact (runDownload_lt_verdict_iff _).mpr (Or.inr (Or.inl hcontains.2))
    · rw [hread]
      simp [SerialPort.received, hcontains.1]
  · exfalso
    have hfull := le_antisymm h.claimFits hge
    rcases h.tail with htail | htail
    · rw [readMessage_announce h hfull htail] at hafter
      exact absurd (hbefore.symm.trans hafter) Bool.false_ne_true
    · rw [readMessage_dismiss h hfull (htail.trans hfull), ackReceived_dismissed] at hafter
      exact absurd (hbefore.symm.trans hafter) Bool.false_ne_true

end Receiver

/-! ## The course of a transfer -/

/-- The iteration calls `Read_Message`. -/
def reads (inp : IterationInput) (s : UnitState) : Bool :=
  match s.wbmComState with
  | .wbmInitialize => false
  | .wbmCommunicating =>
      match s.currentState with
      | .init | .linkConnecting | .linkConnected | .connected => false
      | .trySerialLink | .readEepromInfo | .readEepromConfiguration | .readEepromSettingPar
      | .readEepromSetTemp | .readEepromDayProg | .readEepromHwSetting | .pollingBase =>
          !expired inp 0 s.globalTimeoutMilliseconds timeoutMilliseconds
      | .bootloaderState1 => true
      | .bootloaderState | .bootloaderStateEnd => false
  | .wbmConnected => true
  | .wbmError => false

/-- A message that contains "ACK" is received. -/
def ReceivesAck (e : Event) (s : UnitState) : Prop :=
  match e with
  | .iterate inp => reads inp s = true ∧ AckMessage s.port
  | _ => False

instance (e : Event) (s : UnitState) : Decidable (ReceivesAck e s) :=
  match e with
  | .iterate inp => inferInstanceAs (Decidable (reads inp s = true ∧ AckMessage s.port))
  | .uartData _ | .clientWrite _ | .mqttReady _ | .unitUpdateTask _ | .firmwareStored _ =>
      isFalse id

/-- What happens in a transfer: messages with "ACK" are received, the size of
the file and its blocks are sent. -/
inductive TransferMark
  | acknowledgement
  | header
  | block
deriving DecidableEq, Repr

/-- What a message sent in this state is to the bootloader. -/
def writeMark (s : UnitState) : Option TransferMark :=
  if s.wbmComState = .wbmCommunicating then
    match s.currentState with
    | .bootloaderState => some .header
    | .bootloaderState1 => some .block
    | _ => none
  else none

/-- What an event adds to the course of the transfer.  `Read_Message` is called
before anything is sent. -/
def marksOf (e : Event) (s : UnitState) : List TransferMark :=
  (if ReceivesAck e s then [.acknowledgement] else []) ++
    (sent e s).filterMap fun _ => writeMark s

/-- The course of the transfer in a run. -/
def transferMarks : List Event → UnitState → List TransferMark
  | [], _ => []
  | e :: es, s => marksOf e s ++ transferMarks es (step e s)

/-- Every block comes after the header, and after an acknowledgement that was
received since the header or the last block was sent. -/
structure Paced (marks : List TransferMark) : Prop where
  headed : Granted (· = .header) (· = .block) (fun _ => False) marks
  acknowledged : Granted (· = .acknowledgement) (· = .block) (· ≠ .acknowledgement) marks

/-! ## One iteration -/

/-- The states that must not be entered with an acknowledgement: those that look
for the unit, and those that send the firmware. -/
def AckFree (c : ConnectState) : Prop :=
  Looking c ∨ c = .bootloaderState ∨ c = .bootloaderState1

instance (c : ConnectState) : Decidable (AckFree c) :=
  inferInstanceAs (Decidable (_ ∨ _))

section Iteration

variable (inp : IterationInput) {s : UnitState}

/-- A state that waits for a reply leads only to its next state. -/
theorem not_ackFree_awaitReply
    (reply : UnitState → UnitState) (hreply : ∀ s, ¬ AckFree (reply s).currentState)
    (h : ¬ AckFree s.currentState) :
    ¬ AckFree (awaitReply inp reply s).currentState := by
  have hcase := awaitReply_case inp s reply
  generalize awaitReply inp reply s = s' at hcase ⊢
  cases hcase with
  | lost _ => exact h
  | replied _ _ => exact hreply _
  | waiting _ _ => exact h

/-- Past the search for the unit, the transfer is not entered. -/
theorem not_ackFree_connectToUnit
    (h : ¬ AckFree s.currentState) :
    ¬ AckFree (connectToUnit inp s).currentState := by
  have hsection : ∀ field request next, ¬ AckFree next →
      ¬ AckFree (readEeprom inp field request next s).currentState :=
    fun _ _ _ hnext => not_ackFree_awaitReply inp _ (fun _ => hnext) h
  cases hc : s.currentState with
  | init => exact absurd (by rw [hc]; decide) h
  | linkConnecting => exact absurd (by rw [hc]; decide) h
  | trySerialLink => exact absurd (by rw [hc]; decide) h
  | bootloaderState => exact absurd (by rw [hc]; decide) h
  | bootloaderState1 => exact absurd (by rw [hc]; decide) h
  | linkConnected =>
      simp only [connectToUnit, hc]
      exact (by decide : ¬ AckFree .readEepromInfo)
  | readEepromInfo =>
      simp only [connectToUnit, hc]
      exact hsection _ _ _ (by decide)
  | readEepromConfiguration =>
      simp only [connectToUnit, hc]
      exact hsection _ _ _ (by decide)
  | readEepromSettingPar =>
      simp only [connectToUnit, hc]
      exact hsection _ _ _ (by decide)
  | readEepromSetTemp =>
      simp only [connectToUnit, hc]
      exact hsection _ _ _ (by decide)
  | readEepromDayProg =>
      simp only [connectToUnit, hc]
      exact hsection _ _ _ (by decide)
  | readEepromHwSetting =>
      simp only [connectToUnit, hc]
      exact hsection _ _ _ (by decide)
  | pollingBase =>
      simp only [connectToUnit, hc]
      exact not_ackFree_awaitReply inp _ (fun _ => (by decide : ¬ AckFree .connected)) h
  | connected =>
      simp only [connectToUnit, hc]
      rw [connected_currentState, hc]
      decide
  | bootloaderStateEnd =>
      simp only [connectToUnit, hc]
      decide

/-- A message that sets `Ack_Received` while the unit is looked for connects the
link. -/
theorem ackReceived_trySerialLink
    (hsettled : Settled s.port) (hmode : s.port.bootloaderMode = false)
    (hack : s.port.ackReceived = false)
    (hafter : AckFree (trySerialLink inp s).currentState) :
    (trySerialLink inp s).port.ackReceived = false := by
  by_contra hset
  rw [Bool.not_eq_false] at hset
  have hcase := trySerialLink_case inp s
  generalize trySerialLink inp s = s' at hcase hset hafter
  cases hcase with
  | anew _ _ => exact absurd (hack.symm.trans hset) Bool.false_ne_true
  | again _ _ => exact absurd (hack.symm.trans hset) Bool.false_ne_true
  | read _ next hnext =>
      obtain ⟨-, hgt, hsame⟩ := readMessage_ackReceived hsettled hack hset
      rw [hsame, hmode, if_neg Bool.false_ne_true, if_pos hgt] at hnext
      subst hnext
      exact absurd hafter (by decide : ¬ AckFree .linkConnected)

theorem sends_uartWrite
    {s' : UnitState} {w : List UInt8} {os : List Output}
    (h : s'.outputs = s.outputs ++ .uartWrite w :: os) (hos : uartWrites os = []) :
    Sends [w] s s' := by
  have hsend := sends_of_append h
  rwa [show uartWrites (.uartWrite w :: os) = w :: uartWrites os from rfl, hos] at hsend

/-- The header is sent, or nothing. -/
theorem bootloaderState_sends :
    ((bootloaderState inp s).port = s.port) ∧
      ((bootloaderState inp s = s) ∨ ∃ w, Sends [w] s (bootloaderState inp s)) := by
  have hcase := bootloaderState_case inp s
  generalize bootloaderState inp s = s' at hcase ⊢
  cases hcase with
  | held _ => exact ⟨rfl, Or.inl rfl⟩
  | header _ _ _ _ => exact ⟨rfl, Or.inr ⟨_, sends_uartWrite rfl rfl⟩⟩

/-- A block is sent only if `Read_Message` has just set `Ack_Received`, which is
cleared. -/
theorem bootloaderState1_sends :
    (bootloaderState1 s).port.ackReceived = false ∧
      (Sends [] s (bootloaderState1 s) ∨
        (readMessage s.port).2.ackReceived = true ∧ ∃ w, Sends [w] s (bootloaderState1 s)) := by
  have hcase := bootloaderState1_case s
  generalize bootloaderState1 s = s' at hcase ⊢
  cases hcase with
  | waiting hack => exact ⟨hack, Or.inl (sends_of_outputs_eq rfl)⟩
  | acknowledged hack transfer next _ outputs houtputs =>
      refine ⟨rfl, ?_⟩
      have hsend := uartWrites_append s.outputs outputs
      rcases houtputs with hsilent | ⟨w, hsent⟩
      · rw [hsilent] at hsend
        exact Or.inl hsend
      · rw [hsent] at hsend
        exact Or.inr ⟨hack, w, hsend⟩

end Iteration

/-! ## Every run -/

/-- No acknowledgement waits where one would release a block, and no block can be
sent before the header. -/
structure Awaiting (marks : List TransferMark) (s : UnitState) : Prop where
  attentive : Attentive s
  clear :
    s.wbmComState = .wbmInitialize ∨ s.wbmComState = .wbmCommunicating ∧ AckFree s.currentState →
      s.port.ackReceived = false
  headed :
    s.wbmComState = .wbmCommunicating → s.currentState = .bootloaderState1 → .header ∈ marks

section Runs

variable {marks : List TransferMark} {s : UnitState}

theorem awaiting_boot
    (device : DeviceIdentity) (firmwareBin : Option (List UInt8))
    (unitPartitionState : Bool) (millis : UInt32) :
    Awaiting [] (UnitState.boot device firmwareBin unitPartitionState millis) where
  attentive := attentive_boot device firmwareBin unitPartitionState millis
  clear := fun _ => rfl
  headed := nofun

/-- Around the task nothing is received or sent, and the receiver's flags stay. -/
theorem around_transfer
    {e : Event} (he : ∀ inp, e ≠ .iterate inp) (s : UnitState) :
    marksOf e s = [] ∧ (step e s).port.ackReceived = s.port.ackReceived := by
  constructor
  · have hno : ¬ ReceivesAck e s := by
      cases e with
      | iterate inp => exact absurd rfl (he inp)
      | uartData data => exact id
      | clientWrite w => exact id
      | mqttReady ready => exact id
      | unitUpdateTask running => exact id
      | firmwareStored content => exact id
    unfold marksOf
    rw [if_neg hno, sent_eq (step_around he s).1]
    rfl
  · cases e with
    | iterate inp => exact absurd rfl (he inp)
    | uartData data => rfl
    | clientWrite w => exact congrArg SerialPort.ackReceived (sameButImage_clientWrite w s).port
    | mqttReady ready => rfl
    | unitUpdateTask running => rfl
    | firmwareStored content => rfl

/-- Only a message sent by `Bootloader_State1` is a block. -/
theorem writeMark_eq_block_iff :
    writeMark s = some .block ↔
      s.wbmComState = .wbmCommunicating ∧ s.currentState = .bootloaderState1 := by
  unfold writeMark
  split
  · rename_i hcomm
    rw [and_iff_right hcomm]
    cases s.currentState <;> simp
  · rename_i hcomm
    simp [hcomm]

/-- A block is sent by `Bootloader_State1` only, and in the iteration that
receives the acknowledgement. -/
theorem marksOf_cases
    (h : Awaiting marks s) (e : Event) :
    .block ∉ marksOf e s ∨
      marksOf e s = [.acknowledgement, .block] ∧ s.wbmComState = .wbmCommunicating ∧
        s.currentState = .bootloaderState1 := by
  by_cases hblock : writeMark s = some .block
  · obtain ⟨hcomm, hstate⟩ := writeMark_eq_block_iff.mp hblock
    by_cases he : ∃ inp, e = .iterate inp
    · obtain ⟨inp, rfl⟩ := he
      have hack := h.clear (Or.inr ⟨hcomm, by rw [hstate]; decide⟩)
      have hstep : step (.iterate inp) s = bootloaderState1 s := by
        simp only [step, unitEventTask, hcomm, connectToUnit, hstate]
      rcases bootloaderState1_sends (s := s) with ⟨-, hsend | ⟨hread, w, hsend⟩⟩
      · left
        rw [← hstep] at hsend
        unfold marksOf
        rw [sent_eq hsend]
        split <;> simp
      · right
        have hlinking := h.attentive.linking (Or.inr hcomm)
        have hmessage := (readMessage_ackReceived hlinking.settled hack hread).1
        have hreceives : ReceivesAck (.iterate inp) s := by
          refine ⟨?_, hmessage⟩
          simp only [reads, hcomm, hstate]
        rw [← hstep] at hsend
        unfold marksOf
        rw [sent_eq hsend, if_pos hreceives]
        simp [hblock, hcomm, hstate]
    · left
      rw [(around_transfer (fun inp heq => he ⟨inp, heq⟩) s).1]
      simp
  · left
    unfold marksOf
    rw [List.mem_append]
    rintro (hmem | hmem)
    · split at hmem
      · simp at hmem
      · simp at hmem
    · obtain ⟨w, -, hw⟩ := List.mem_filterMap.mp hmem
      exact hblock hw

/-- The states that look for the unit do not lead past the header. -/
theorem looking_ne_bootloaderState1
    (inp : IterationInput) (h : Looking s.currentState) :
    (connectToUnit inp s).currentState ≠ .bootloaderState1 := by
  rcases h with hc | hc | hc
  · simp only [connectToUnit, hc]
    rintro ⟨⟩
  · simp only [connectToUnit, hc]
    rintro ⟨⟩
  · simp only [connectToUnit, hc]
    have hcase := trySerialLink_case inp s
    generalize trySerialLink inp s = s' at hcase ⊢
    cases hcase with
    | anew _ _ => rintro ⟨⟩
    | again _ _ => rintro ⟨⟩
    | read _ next hnext =>
        dsimp only
        rw [hnext]
        split
        · rintro ⟨⟩
        · split
          · rintro ⟨⟩
          · rw [hc]
            rintro ⟨⟩

/-- An iteration passes no acknowledgement on to a transfer. -/
theorem clear_iterate
    (inp : IterationInput) (h : Awaiting marks s)
    (hafter : (unitEventTask inp s).wbmComState = .wbmInitialize ∨
      (unitEventTask inp s).wbmComState = .wbmCommunicating ∧
        AckFree (unitEventTask inp s).currentState) :
    (unitEventTask inp s).port.ackReceived = false := by
  obtain ⟨hcomm, hfree⟩ := hafter.resolve_left (unitEventTask_ne_initial inp s)
  rcases wbmComState_before inp (Or.inr hcomm) with hwbm | hwbm
  · have hack := h.clear (Or.inl hwbm)
    simp only [unitEventTask, hwbm]
    exact hack
  · simp only [unitEventTask, hwbm] at hfree ⊢
    by_cases hbefore : AckFree s.currentState
    · have hack := h.clear (Or.inr ⟨hwbm, hbefore⟩)
      rcases hbefore with (hc | hc | hc) | hc | hc
      · simp only [connectToUnit, hc]
        exact hack
      · simp only [connectToUnit, hc]
        have hcase := linkConnecting_case inp s
        generalize linkConnecting inp s = s' at hcase ⊢
        cases hcase with
        | sent _ => exact hack
        | silent _ => exact hack
      · have hlinking := h.attentive.linking (Or.inr hwbm)
        have hmode := (hlinking.looking (Or.inr (Or.inr (Or.inr hc)))).2
        simp only [connectToUnit, hc] at hfree ⊢
        exact ackReceived_trySerialLink inp hlinking.settled hmode hack hfree
      · simp only [connectToUnit, hc]
        rw [(bootloaderState_sends inp).1]
        exact hack
      · simp only [connectToUnit, hc]
        exact bootloaderState1_sends.1
    · exact absurd hfree (not_ackFree_connectToUnit inp hbefore)

/-- Where blocks are sent the header has been. -/
theorem headed_iterate
    (inp : IterationInput) (h : Awaiting marks s)
    (hcomm : (unitEventTask inp s).wbmComState = .wbmCommunicating)
    (hstate : (unitEventTask inp s).currentState = .bootloaderState1) :
    .header ∈ marks ++ marksOf (.iterate inp) s := by
  rcases wbmComState_before inp (Or.inr hcomm) with hwbm | hwbm
  · simp only [unitEventTask, hwbm] at hstate
    cases hstate
  by_cases hbefore : s.currentState = .bootloaderState1
  · exact List.mem_append_left _ (h.headed hwbm hbefore)
  have hstep : step (.iterate inp) s = connectToUnit inp s := by
    simp only [step, unitEventTask, hwbm]
  simp only [unitEventTask, hwbm] at hstate
  by_cases hheader : s.currentState = .bootloaderState
  · have hrun : connectToUnit inp s = bootloaderState inp s := by
      simp only [connectToUnit, hheader]
    rw [hrun] at hstep hstate
    rcases (bootloaderState_sends inp (s := s)).2 with hsame | ⟨w, hsend⟩
    · rw [hsame] at hstate
      exact absurd hstate hbefore
    · apply List.mem_append_right
      rw [← hstep] at hsend
      unfold marksOf
      rw [sent_eq hsend]
      simp [writeMark, hwbm, hheader]
  · by_cases hlooking : Looking s.currentState
    · exact absurd hstate (looking_ne_bootloaderState1 inp hlooking)
    · have hnot : ¬ AckFree s.currentState := by
        rintro (hc | hc | hc)
        · exact hlooking hc
        · exact hheader hc
        · exact hbefore hc
      exact absurd (by rw [hstate]; decide) (not_ackFree_connectToUnit inp hnot)

theorem awaiting_step
    (h : Awaiting marks s) (e : Event) :
    Awaiting (marks ++ marksOf e s) (step e s) := by
  have hattentive := attentive_step e s h.attentive
  by_cases he : ∃ inp, e = .iterate inp
  · obtain ⟨inp, rfl⟩ := he
    exact ⟨hattentive, clear_iterate inp h, headed_iterate inp h⟩
  · have he' : ∀ inp, e ≠ .iterate inp := fun inp heq => he ⟨inp, heq⟩
    obtain ⟨hmarks, hack⟩ := around_transfer he' s
    have hwbm := (step_around he' s).2.2.1
    have hstate := (sameLink_around he' s).currentState
    refine ⟨hattentive, ?_, ?_⟩
    · rw [hwbm, hstate, hack]
      exact h.clear
    · rw [hwbm, hstate, hmarks, List.append_nil]
      exact h.headed

/-- One step of a run adds a block only behind its acknowledgement. -/
theorem paced_step
    (h : Awaiting marks s) (hpaced : Paced marks) (e : Event) :
    Paced (marks ++ marksOf e s) := by
  rcases marksOf_cases h e with hno | ⟨hmarks, hcomm, hstate⟩
  · have hunused : ∀ m ∈ marksOf e s, ¬ m = TransferMark.block := by
      rintro m hm rfl
      exact hno hm
    exact ⟨hpaced.headed.append_of_unused hunused, hpaced.acknowledged.append_of_unused hunused⟩
  · have hack : ∀ m ∈ [TransferMark.acknowledgement], ¬ m = TransferMark.block := by
      decide
    have hsplit : marks ++ marksOf e s = (marks ++ [.acknowledgement]) ++ [.block] := by
      rw [hmarks, List.append_assoc]
      rfl
    obtain ⟨before, between, hheader⟩ := List.append_of_mem (h.headed hcomm hstate)
    have hheaded : marks ++ [.acknowledgement] =
        before ++ .header :: (between ++ [.acknowledgement]) := by
      rw [hheader, List.append_assoc]
      rfl
    rw [hsplit]
    exact ⟨(hpaced.headed.append_of_unused hack).append_use _ hheaded rfl fun _ _ => id,
      (hpaced.acknowledged.append_of_unused hack).append_use _
        (rfl : marks ++ [.acknowledgement] = marks ++ .acknowledgement :: []) rfl nofun⟩

theorem paced_run
    (es : List Event) (h : Awaiting marks s) (hpaced : Paced marks) :
    Paced (marks ++ transferMarks es s) := by
  induction es generalizing marks s with
  | nil =>
      rw [transferMarks, List.append_nil]
      exact hpaced
  | cons e es ih =>
      rw [transferMarks, ← List.append_assoc]
      exact ih (awaiting_step h e) (paced_step h hpaced e)

/-- The iteration that sends a block receives an acknowledgement. -/
theorem receivesAck_of_block
    (h : Awaiting marks s) {e : Event} (hblock : .block ∈ marksOf e s) :
    ReceivesAck e s := by
  rcases marksOf_cases h e with hno | ⟨hmarks, -, -⟩
  · exact absurd hblock hno
  by_contra hreceives
  have hack : TransferMark.acknowledgement ∈ marksOf e s := by
    rw [hmarks]
    exact List.mem_cons_self
  unfold marksOf at hack hblock
  rw [if_neg hreceives, List.nil_append] at hack hblock
  -- All that one event sends is of one kind.
  obtain ⟨w, -, hw⟩ := List.mem_filterMap.mp hack
  obtain ⟨w', -, hw'⟩ := List.mem_filterMap.mp hblock
  rw [hw] at hw'
  cases hw'

end Runs

section Boot

variable (device : DeviceIdentity) (firmwareBin : Option (List UInt8))
variable (unitPartitionState : Bool) (millis : UInt32) (es : List Event)

/-- In every run of a gateway each block of the firmware comes after an
acknowledgement that was received since the header or the last block was sent,
and is sent in the very iteration that receives one. -/
theorem oneBlock_perAcknowledgement :
    Paced (transferMarks es (UnitState.boot device firmwareBin unitPartitionState millis)) ∧
      Along step (fun e s => .block ∈ marksOf e s → ReceivesAck e s) es
        (UnitState.boot device firmwareBin unitPartitionState millis) := by
  have hboot := awaiting_boot device firmwareBin unitPartitionState millis
  constructor
  · exact paced_run es hboot ⟨granted_nil, granted_nil⟩
  · have hstep : ∀ e s, True → (∃ marks, Awaiting marks s) → ∃ marks, Awaiting marks (step e s) :=
      fun e s _ ⟨marks, h⟩ => ⟨marks ++ marksOf e s, awaiting_step h e⟩
    refine Along.of_invariant hstep ?_ (Along.of_forall fun _ _ => trivial) ⟨[], hboot⟩
    rintro e s - ⟨marks, h⟩ hblock
    exact receivesAck_of_block h hblock

/-- A file of one word is sent for one acknowledgement. -/
example :
    transferMarks (untilBootloader ++ oneAcknowledgement)
        (UnitState.boot .zeroMac (some [1, 2, 3, 4]) false 0) =
      [.header, .acknowledgement, .block] := by
  decide +kernel

end Boot

end UnitComm
end AvensysEsp32
