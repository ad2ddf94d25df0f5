import AvensysEsp32.UnitComm.Handshake

/-!
# What is due for each section of the mirror

Once connected, the mirror of a counted section is the board's section, or the
board's counter has moved on from both counters that the next polling reply is
compared with, or a read or a write of the section is pending.  A section may
also be in the hands of the message on the line: the reply to a read that is on
its way, a write that has not been answered, the reply to a write whose
counters differ from the mirror's.
-/

namespace AvensysEsp32
namespace UnitComm

open Foundation Serial

/-! ## A section at rest -/

/-- The mirror shows the board's section. -/
def Shown (sec : CountedSection) (s : UnitState) (board : Memory) : Prop :=
  Set.EqOn s.gRDEeprom board sec.eepromSection.range

/-- The board's counter differs from the last one polled and from the shadow. -/
def Ahead (sec : CountedSection) (s : UnitState) (board : Memory) : Prop :=
  s.gKTSData.cntUpdate sec ≠ board sec.cntUpdateAddress ∧
    s.extCnt.cnt sec ≠ board sec.cntUpdateAddress

/-- A read or a write of the section is pending. -/
def Due (sec : CountedSection) (index : BitVec 16) : Prop :=
  index.getLsbD (readRequestBit sec) = true ∨ writePending index sec.eepromSection = true

/-- The section is the board's, or will be noticed or dealt with. -/
def Covered (sec : CountedSection) (s : UnitState) (board : Memory) : Prop :=
  Shown sec s board ∨ Ahead sec s board ∨ Due sec s.readEepromRequestIndex

theorem cntUpdateAddress_mem_range
    (sec : CountedSection) :
    sec.cntUpdateAddress ∈ sec.eepromSection.range := by
  have hlast := sec.cntUpdateAddress_eq_last
  rw [EepromSection.mem_range_iff]
  have hpos : 0 < sec.eepromSection.count := by
    cases sec <;> decide
  omega

section AtRest

variable {sec : CountedSection} {s s' : UnitState} {board board' : Memory}

theorem Due.or
    {index : BitVec 16} (h : Due sec index) (more : BitVec 16) :
    Due sec (index ||| more) := by
  rcases h with h | h
  · left
    rw [BitVec.getLsbD_or, h, Bool.true_or]
  · right
    exact writePending_mono (fun k _ hk => by rw [BitVec.getLsbD_or, hk, Bool.true_or]) h

/-- The parts of the gateway that decide whether a section is covered. -/
structure SameShadow (s s' : UnitState) : Prop where
  gRDEeprom : s'.gRDEeprom = s.gRDEeprom
  index : s'.readEepromRequestIndex = s.readEepromRequestIndex
  cntUpdate : s'.gKTSData.cntUpdate = s.gKTSData.cntUpdate
  cnt : s'.extCnt.cnt = s.extCnt.cnt

theorem SameShadow.shown
    (h : SameShadow s s') (hshown : Shown sec s board) :
    Shown sec s' board := by
  unfold Shown
  rw [h.gRDEeprom]
  exact hshown

theorem SameShadow.ahead
    (h : SameShadow s s') (hahead : Ahead sec s board) :
    Ahead sec s' board := by
  unfold Ahead
  rw [h.cntUpdate, h.cnt]
  exact hahead

theorem SameShadow.covered
    (h : SameShadow s s') (hcovered : Covered sec s board) :
    Covered sec s' board := by
  rcases hcovered with hshown | hahead | hdue
  · exact Or.inl (h.shown hshown)
  · exact Or.inr (Or.inl (h.ahead hahead))
  · exact Or.inr (Or.inr (h.index ▸ hdue))

/-- On a board that shows the same section, a section stays covered. -/
theorem Covered.of_eqOn
    (h : Covered sec s board)
    (hboard : Set.EqOn board' board sec.eepromSection.range) :
    Covered sec s board' := by
  have hcnt := hboard (cntUpdateAddress_mem_range sec)
  rcases h with hshown | hahead | hdue
  · exact Or.inl fun i hi => (hshown hi).trans (hboard hi).symm
  · refine Or.inr (Or.inl ?_)
    unfold Ahead
    rw [hcnt]
    exact hahead
  · exact Or.inr (Or.inr hdue)

end AtRest

/-! ## Questions and messages -/

/-- A request to the board. -/
inductive Question
  | read (sec : CountedSection)
  | write (sec : EepromSection) (m : Memory)
  | polling (device : DeviceIdentity)
  | debug (b c : UInt8)

def Question.frame : Question → List UInt8
  | read sec => readEepromRequest sec.eepromSection
  | write sec m => writeEepromRequest sec m
  | polling device => pollingBaseRequest device
  | debug b c => frameOf [protoStartMsg0, protoStartMsg1, 6, commandDataDebug, b, c]

/-- A message to the gateway: a reply made from the image `m`, or one that was
corrupted on its way. -/
inductive Message
  | read (sec : CountedSection) (m : Memory)
  | written (sec : EepromSection) (m : Memory) (result : UInt8)
  | polling (m : Memory) (measures : Measures)
  | debug (data : DebugData)
  | rejected (w : List UInt8) (h : Rejected w)

def Message.frame : Message → List UInt8
  | read sec m => readSectionReply m sec.eepromSection
  | written sec m result =>
      writeEepromReply m (UInt8.ofNat sec.startAddress) (UInt8.ofNat sec.count) result
  | polling m measures => pollingBaseReply m measures
  | debug data => dataDebugReply data
  | rejected w _ => w

/-- The reply that a message is taken for. -/
def Message.reply : Message → Option Reply
  | read _ _ => some .readEeprom
  | written _ _ _ => some .writeEeprom
  | polling _ _ => some .pollingBase
  | debug _ => some .dataDebug
  | rejected _ _ => none

/-- The board's answer to a question. -/
def Question.answered (board : Memory) (a : Answer) : Question → Memory × Message
  | read sec => (board, .read sec board)
  | write sec m =>
      let board' := answeredImage board a (writeEepromRequest sec m)
      (board', .written sec board' a.result)
  | polling _ => (board, .polling board a.measures)
  | debug _ _ => (board, .debug a.debug)

theorem boardAnswer_question
    (board : Memory) (a : Answer) (q : Question) :
    boardAnswer board a q.frame =
      some ((q.answered board a).1, (q.answered board a).2.frame) := by
  cases q with
  | read sec => exact boardAnswer_readEeprom board a sec.eepromSection
  | write sec m => exact boardAnswer_writeEeprom board a sec m
  | polling device => exact boardAnswer_pollingBase board a device
  | debug b c => exact boardAnswer_dataDebug board a b c

theorem Message.frame_bounds
    (msg : Message) :
    0 < msg.frame.length ∧ msg.frame.length < rxBufferSize := by
  cases msg with
  | read sec m =>
      have := sec.eepromSection.count_le
      simp only [frame, length_readSectionReply, rxBufferSize]
      omega
  | written sec m result =>
      simp only [frame, length_writeEepromReply, rxBufferSize]
      omega
  | polling m measures =>
      simp only [frame, length_pollingBaseReply, rxBufferSize]
      omega
  | debug data =>
      simp only [frame, length_dataDebugReply, rxBufferSize]
      omega
  | rejected w h => exact ⟨h.pos, h.short⟩

/-- What `Read_Message` makes of a message: a reply of the kind it is, or an
error. -/
theorem Message.verdict_frame
    (msg : Message) :
    (∃ reply, msg.reply = some reply ∧ verdict msg.frame = msg.frame.length ∧
        WellFormed msg.frame ∧ replyOf (ofBytes msg.frame ihm1TypeComand) = some reply) ∨
      (msg.reply = none ∧ verdict msg.frame < 0) := by
  cases msg with
  | read sec m =>
      have hwf := wellFormed_readSectionReply m sec.eepromSection
      refine Or.inl ⟨.readEeprom, rfl, verdict_of_wellFormed hwf, hwf, ?_⟩
      simp only [frame, readSectionReply_command]
      decide
  | written sec m result =>
      have hwf := wellFormed_writeEepromReply m (UInt8.ofNat sec.startAddress)
        (UInt8.ofNat sec.count) result
      refine Or.inl ⟨.writeEeprom, rfl, verdict_of_wellFormed hwf, hwf, ?_⟩
      simp only [frame, writeEepromReply_command]
      decide
  | polling m measures =>
      have hwf := wellFormed_pollingBaseReply m measures
      refine Or.inl ⟨.pollingBase, rfl, verdict_of_wellFormed hwf, hwf, ?_⟩
      simp only [frame, pollingBaseReply_command]
      decide
  | debug data =>
      have hwf := wellFormed_dataDebugReply data
      refine Or.inl ⟨.dataDebug, rfl, verdict_of_wellFormed hwf, hwf, ?_⟩
      simp only [frame, dataDebugReply_command]
      decide
  | rejected w h => exact Or.inr ⟨rfl, h.verdict⟩

/-! ## The line -/

/-- What is on the line. -/
inductive Line
  | quiet
  | asked (q : Question)
  | replied (msg : Message)

def Line.On (sys : System) : Line → Prop
  | quiet => Quiet sys
  | asked q => Asked q.frame sys
  | replied msg => Replied msg.frame sys

/-- The mirror and the image `m` have the same data in a section, its counter
apart. -/
def SameContents (sec : CountedSection) (s : UnitState) (m : Memory) : Prop :=
  ∀ i ∈ sec.eepromSection.range, i ≠ sec.cntUpdateAddress → s.gRDEeprom i = m i

/-- A section is covered, with the help of what is on the line. -/
def Line.Covers (sec : CountedSection) (s : UnitState) (board : Memory) : Line → Prop
  | asked (.read sec') => sec ≠ sec' → Covered sec s board
  | asked (.write sec' m) =>
      if sec.eepromSection = sec' then
        SameContents sec s m ∨ Due sec s.readEepromRequestIndex
      else Covered sec s board
  | replied (.read sec' m) =>
      if sec = sec' then
        Set.EqOn m board sec.eepromSection.range ∨ Ahead sec s board ∨
          Due sec s.readEepromRequestIndex
      else Covered sec s board
  | replied (.written _ m _) =>
      Covered sec s board ∨ m sec.cntUpdateAddress ≠ s.gRDEeprom sec.cntUpdateAddress
  | replied (.polling m _) =>
      Shown sec s board ∨ Due sec s.readEepromRequestIndex ∨
        m sec.cntUpdateAddress ≠ board sec.cntUpdateAddress ∨
        s.extCnt.cnt sec ≠ m sec.cntUpdateAddress
  | _ => Covered sec s board

/-- A change of the section on the board will show in the next counters that
the gateway compares. -/
def Line.Shows (sec : CountedSection) (s : UnitState) (board : Memory) : Line → Prop
  | replied (.polling m _) => m sec.cntUpdateAddress ≠ board sec.cntUpdateAddress
  | _ => Ahead sec s board

/-- The section is about to be read or written on the board. -/
def Line.Reaches (sec : CountedSection) : Line → Prop
  | asked (.read sec') => sec = sec'
  | asked (.write sec' _) => sec.eepromSection = sec'
  | _ => False

section Line

variable {sec : CountedSection} {s s' : UnitState} {board board' : Memory} {line : Line}

/-- A section that is due is covered whatever is on the line. -/
theorem Line.Covers.of_due
    (h : Due sec s.readEepromRequestIndex) :
    line.Covers sec s board := by
  have hcovered : Covered sec s board := Or.inr (Or.inr h)
  unfold Line.Covers
  split
  · exact fun _ => hcovered
  · split
    · exact Or.inr h
    · exact hcovered
  · split
    · exact Or.inr (Or.inr h)
    · exact hcovered
  · exact Or.inl hcovered
  · exact Or.inr (Or.inl h)
  · exact hcovered

theorem SameShadow.covers
    (h : SameShadow s s') (hcovers : line.Covers sec s board) :
    line.Covers sec s' board := by
  unfold Line.Covers at *
  split
  · exact fun hne => h.covered (hcovers hne)
  · dsimp only at hcovers
    split
    · rename_i hsec
      rw [if_pos hsec] at hcovers
      rcases hcovers with hsame | hdue
      · left
        unfold SameContents
        rw [h.gRDEeprom]
        exact hsame
      · exact Or.inr (h.index ▸ hdue)
    · rename_i hsec
      rw [if_neg hsec] at hcovers
      exact h.covered hcovers
  · dsimp only at hcovers
    split
    · rename_i hsec
      rw [if_pos hsec] at hcovers
      exact hcovers.imp_right (Or.imp h.ahead fun hdue => h.index ▸ hdue)
    · rename_i hsec
      rw [if_neg hsec] at hcovers
      exact h.covered hcovers
  · dsimp only at hcovers
    rw [h.gRDEeprom]
    exact hcovers.imp_left h.covered
  · dsimp only at hcovers
    rw [h.index, h.cnt]
    exact hcovers.imp_left h.shown
  · exact h.covered (by simpa using hcovers)

/-- The board's answer keeps a section covered; when it refuses a write, the
section must differ from the mirror in its counter, or be covered as it is. -/
theorem Question.covers_answered
    {q : Question} (h : (Line.asked q).Covers sec s board) (a : Answer)
    (hrefused : a.result ≠ writeAccepted → ∀ m, q = .write sec.eepromSection m →
      Covered sec s board ∨
        board sec.cntUpdateAddress ≠ s.gRDEeprom sec.cntUpdateAddress) :
    (Line.replied (q.answered board a).2).Covers sec s (q.answered board a).1 := by
  cases q with
  | read sec' =>
      by_cases hsec : sec = sec'
      · exact (if_pos hsec).mpr (Or.inl fun _ _ => rfl)
      · exact (if_neg hsec).mpr (h hsec)
  | polling device =>
      rcases h with hshown | ⟨-, hext⟩ | hdue
      · exact Or.inl hshown
      · exact Or.inr (Or.inr (Or.inr hext))
      · exact Or.inr (Or.inl hdue)
  | debug b c => exact h
  | write sec' m =>
      by_cases haccepted : a.result = writeAccepted
      · have himage : answeredImage board a (writeEepromRequest sec' m) =
            writtenImage board (writeEepromRequest sec' m) a.counter := by
          exact if_pos haccepted
        simp only [Question.answered, Line.Covers, himage]
        by_cases hsec : sec.eepromSection = sec'
        · subst hsec
          rcases (if_pos rfl).mp h with hsame | hdue
          · have hwritten := fun i => writtenImage_self board sec m a.counter (i := i)
            by_cases hcounter : a.counter = s.gRDEeprom sec.cntUpdateAddress
            · refine Or.inl (Or.inl fun i hi => ?_)
              rw [hwritten i hi]
              by_cases hcnt : i = sec.cntUpdateAddress
              · rw [if_pos hcnt, hcnt, hcounter]
              · rw [if_neg hcnt]
                exact hsame i hi hcnt
            · right
              rw [hwritten _ (cntUpdateAddress_mem_range sec), if_pos rfl]
              exact hcounter
          · exact Or.inl (Or.inr (Or.inr hdue))
        · have hcovered : Covered sec s board := (if_neg hsec).mp h
          exact Or.inl (hcovered.of_eqOn (writtenImage_other board hsec m a.counter))
      · have himage : answeredImage board a (writeEepromRequest sec' m) = board := by
          exact if_neg haccepted
        simp only [Question.answered, Line.Covers, himage]
        by_cases hsec : sec.eepromSection = sec'
        · exact hrefused haccepted m (by rw [hsec])
        · exact Or.inl ((if_neg hsec).mp h)

/-- A change on the board keeps a section covered that it leaves alone, that is
due or reached, or whose counter will show the change. -/
theorem Line.Covers.change
    (h : line.Covers sec s board)
    (hchange : Set.EqOn board' board sec.eepromSection.range ∨
      Due sec s.readEepromRequestIndex ∨ line.Reaches sec ∨ line.Shows sec s board') :
    line.Covers sec s board' := by
  rcases hchange with hsame | hdue | hreach | hshows
  · have hcnt := hsame (cntUpdateAddress_mem_range sec)
    unfold Line.Covers at *
    split
    · exact fun hne => (h hne).of_eqOn hsame
    · dsimp only at h
      split
      · rename_i hsec
        exact (if_pos hsec).mp h
      · rename_i hsec
        exact ((if_neg hsec).mp h).of_eqOn hsame
    · dsimp only at h
      split
      · rename_i hsec
        rcases (if_pos hsec).mp h with himage | hahead | hdue
        · exact Or.inl fun i hi => (himage hi).trans (hsame hi).symm
        · refine Or.inr (Or.inl ?_)
          unfold Ahead
          rw [hcnt]
          exact hahead
        · exact Or.inr (Or.inr hdue)
      · rename_i hsec
        exact ((if_neg hsec).mp h).of_eqOn hsame
    · exact h.imp_left fun hcovered => hcovered.of_eqOn hsame
    · dsimp only at h
      rw [hcnt]
      exact h.imp_left fun hshown i hi => (hshown hi).trans (hsame hi).symm
    · exact Covered.of_eqOn (by simpa using h) hsame
  · exact Line.Covers.of_due hdue
  · unfold Line.Reaches at hreach
    split at hreach
    · exact fun hne => absurd hreach hne
    · rename_i sec' m
      have hown := (if_pos hreach).mp h
      exact (if_pos hreach).mpr hown
    · exact hreach.elim
  · unfold Line.Shows at hshows
    split at hshows
    · exact Or.inr (Or.inr (Or.inl hshows))
    · rename_i hother
      have hcovered : Covered sec s board' := Or.inr (Or.inl hshows)
      unfold Line.Covers
      split
      · exact fun _ => hcovered
      · rename_i sec' m
        split
        · rename_i hsec
          exact (if_pos hsec).mp h
        · exact hcovered
      · split
        · exact Or.inr (Or.inl hshows)
        · exact hcovered
      · exact Or.inl hcovered
      · exact absurd rfl (hother _ _)
      · exact hcovered

end Line

end UnitComm
end AvensysEsp32
