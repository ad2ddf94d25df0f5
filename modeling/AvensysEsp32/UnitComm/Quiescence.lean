import AvensysEsp32.Foundation.Trace
import AvensysEsp32.UnitComm.OneRequest

/-!
# The synchronisation comes to rest

A reply to a write can ask for sections to be read, and so can a polling reply;
a section that is read changes the counters that are compared.  None of this
goes on for ever: a write still to be sent is worth nine reads, for the counters
of its reply and those polled after it ask for four each at most, and every
request sent for the EEPROM is paid for.  What is pending is sent at the next
reply, or at once when nothing is on the line.
-/

namespace AvensysEsp32
namespace UnitComm

open Foundation Serial

/-! ## What is pending -/

/-- The update counters of an image. -/
def counters (m : Memory) (sec : CountedSection) : UInt8 :=
  m sec.cntUpdateAddress

/-- How many sections have another counter. -/
def mismatches (cnt known : CountedSection → UInt8) : Nat :=
  CountedSection.all.countP fun sec => cnt sec ≠ known sec

def readsPending (index : BitVec 16) : Nat :=
  CountedSection.all.countP fun sec => index.getLsbD (readRequestBit sec)

def writesPending (index : BitVec 16) : Nat :=
  writtenSections.countP (writePending index)

/-- How many reads a polling reply with the given counters may ask for. -/
def readsOfPoll (s : UnitState) (cnt : CountedSection → UInt8) : Nat :=
  if s.extCnt.initialized then mismatches cnt s.extCnt.cnt else 4

theorem mismatches_le
    (cnt known : CountedSection → UInt8) :
    mismatches cnt known ≤ 4 :=
  List.countP_le_length

theorem mismatches_self (cnt : CountedSection → UInt8) :
    mismatches cnt cnt = 0 := by
  simp [mismatches]

theorem readsPending_le (index : BitVec 16) :
    readsPending index ≤ 4 :=
  List.countP_le_length

theorem writesPending_le (index : BitVec 16) :
    writesPending index ≤ 5 :=
  List.countP_le_length

theorem readsOfPoll_le
    (s : UnitState) (cnt : CountedSection → UInt8) :
    readsOfPoll s cnt ≤ 4 := by
  unfold readsOfPoll
  split
  · exact mismatches_le _ _
  · exact le_rfl

/-- The counters that a polling reply is compared with are the shadow, or any. -/
theorem mismatches_knownCounters_le
    (s : UnitState) (cnt : CountedSection → UInt8) :
    mismatches cnt s.knownCounters ≤ readsOfPoll s cnt := by
  unfold readsOfPoll
  split
  · rename_i hinit
    rw [knownCounters_of_initialized hinit]
  · exact mismatches_le _ _

section Index

variable {index bit mask : BitVec 16}

/-- A change of counters asks for one read a section. -/
theorem readsPending_changeRequests_le
    (index : BitVec 16) (cnt known : CountedSection → UInt8) :
    readsPending (index ||| changeRequests cnt known) ≤
      readsPending index + mismatches cnt known := by
  apply countP_le_add
  intro sec _ hset
  rw [BitVec.getLsbD_or, Bool.or_eq_true] at hset
  refine hset.imp_right fun hchange => ?_
  rw [getLsbD_changeRequests_readRequestBit] at hchange
  exact decide_eq_true hchange

theorem writesPending_mono
    {index' : BitVec 16}
    (h : ∀ k, 4 ≤ k → index'.getLsbD k = true → index.getLsbD k = true) :
    writesPending index' ≤ writesPending index :=
  List.countP_mono_left fun _ _ hpending => writePending_mono h hpending

theorem readsPending_mono
    {index' : BitVec 16}
    (h : ∀ k, k < 4 → index'.getLsbD k = true → index.getLsbD k = true) :
    readsPending index' ≤ readsPending index := by
  apply List.countP_mono_left
  intro sec _
  apply h
  cases sec <;> decide

/-- A request that is sent is no longer pending. -/
theorem pending_nextService_read
    {sec : CountedSection}
    (hnext : nextService index = some (bit, mask, .read sec.eepromSection)) :
    readsPending (index &&& mask) + 1 ≤ readsPending index := by
  have hmem : (bit, mask, Service.read sec.eepromSection) ∈ schedule :=
    List.mem_of_find?_eq_some hnext
  have hset : index &&& bit = bit := by
    simpa using List.find?_some hnext
  have hbits : ∀ entry ∈ schedule, ∀ sec ∈ CountedSection.all,
      entry.2.2 = .read sec.eepromSection →
        entry.1.getLsbD (readRequestBit sec) = true ∧
          entry.2.1.getLsbD (readRequestBit sec) = false := by
    decide
  obtain ⟨hbit, hmask⟩ := hbits _ hmem sec sec.mem_all rfl
  refine countP_lt (a := sec) (fun other _ hother => ?_) sec.mem_all ?_ ?_
  · rw [BitVec.getLsbD_and, Bool.and_eq_true] at hother
    exact hother.1
  · rw [← hset, BitVec.getLsbD_and, Bool.and_eq_true] at hbit
    exact hbit.1
  · rw [BitVec.getLsbD_and, hmask, Bool.and_false]

theorem pending_nextService_write
    {sec : EepromSection}
    (hnext : nextService index = some (bit, mask, .write sec)) :
    writesPending (index &&& mask) + 1 ≤ writesPending index := by
  have hmem : (bit, mask, Service.write sec) ∈ schedule :=
    List.mem_of_find?_eq_some hnext
  have hpending := writePending_of_nextService hnext
  have hwritten : sec ∈ writtenSections := by
    cases sec <;> first | decide | cases hpending
  have hbits : ∀ entry ∈ schedule, ∀ sec ∈ writtenSections,
      entry.2.2 = .write sec → writePending entry.2.1 sec = false := by
    decide
  have hmask : writePending mask sec = false := hbits _ hmem sec hwritten rfl
  refine countP_lt (a := sec) (fun other _ hother => ?_) hwritten hpending ?_
  · refine writePending_mono (fun k _ hk => ?_) hother
    rw [BitVec.getLsbD_and, Bool.and_eq_true] at hk
    exact hk.1
  · rw [Bool.eq_false_iff]
    intro hset
    have hmasked : writePending mask sec = true := by
      refine writePending_mono (fun k _ hk => ?_) hset
      rw [BitVec.getLsbD_and, Bool.and_eq_true] at hk
      exact hk.2
    rw [hmask] at hmasked
    cases hmasked

/-- While no bit is cleared something stays pending. -/
theorem ne_zero_of_kept
    {index' : BitVec 16}
    (h : ∀ k, index.getLsbD k = true → index'.getLsbD k = true) (hne : index ≠ 0) :
    index' ≠ 0 := by
  intro hzero
  apply hne
  apply BitVec.eq_of_getLsbD_eq
  intro k _
  have hclear : (0 : BitVec 16).getLsbD k = false := BitVec.getLsbD_zero
  rw [hclear, Bool.eq_false_iff]
  intro hset
  have hset' := h k hset
  rw [hzero, hclear] at hset'
  cases hset'

/-- While a bit is set the scheduler has something to do. -/
theorem NoSilentService.exists_nextService
    (h : NoSilentService index) (hne : index ≠ 0) :
    ∃ bit mask service, nextService index = some (bit, mask, service) := by
  cases hnext : nextService index with
  | some entry => exact ⟨entry.1, entry.2.1, entry.2.2, rfl⟩
  | none =>
      exfalso
      apply hne
      have hentries : ∀ k < 16, (k < 4 ∨ 11 ≤ k) →
          ∃ entry ∈ schedule, entry.1 = BitVec.twoPow 16 k := by
        decide
      apply BitVec.eq_of_getLsbD_eq
      intro k hk
      have hzero : (0 : BitVec 16).getLsbD k = false := BitVec.getLsbD_zero
      rw [hzero]
      by_cases hscheduled : k < 4 ∨ 11 ≤ k
      · obtain ⟨entry, hmem, hbit⟩ := hentries k hk hscheduled
        have hclear := List.find?_eq_none.mp hnext entry hmem
        rw [hbit, BitVec.and_twoPow] at hclear
        rw [Bool.eq_false_iff]
        intro hset
        exact hclear (by simp [hset])
      · exact h k (by omega) (by omega)

end Index

/-! ## The exchange with the unit -/

/-- How far an exchange with the unit has come: a question is with the unit, or
its reply is on the line, in the receiver, noticed. -/
inductive Exchange
  | idle
  | asked (q : Question)
  | onLine (msg : Message)
  | cached (msg : Message)
  | noticed (msg : Message)

/-- The message is a reply that the gateway takes. -/
def Message.Valid (msg : Message) : Prop :=
  ∃ reply, msg.reply = some reply

/-- Nothing else is asked, on its way or in the receiver. -/
def Exchange.On (sys : System) : Exchange → Prop
  | idle => sys.requests = [] ∧ sys.replies = [] ∧ Idle sys.gateway.port
  | asked q => sys.requests = [q.frame] ∧ sys.replies = [] ∧ Idle sys.gateway.port
  | onLine msg =>
      msg.Valid ∧ sys.requests = [] ∧ sys.replies = [msg.frame] ∧ Idle sys.gateway.port
  | cached msg =>
      msg.Valid ∧ sys.requests = [] ∧ sys.replies = [] ∧ Arrived msg.frame sys.gateway.port
  | noticed msg =>
      msg.Valid ∧ sys.requests = [] ∧ sys.replies = [] ∧ Holding msg.frame sys.gateway.port

/-- How many events of the right kind the next request for the EEPROM is away,
while one is pending. -/
def Exchange.rank : Exchange → Nat
  | idle => 5
  | asked _ => 4
  | onLine _ => 3
  | cached _ => 2
  | noticed _ => 1

/-- The event brings the exchange on. -/
def Exchange.Helped (e : SystemEvent) : Exchange → Prop
  | asked _ => ∃ a, e = .answer a
  | onLine _ => e = .deliver
  | _ => ∃ inp, e = .gateway (.iterate inp)

/-- The reads that a reply to a question may ask for. -/
def Question.debt (s : UnitState) (board : Memory) : Question → Nat
  | write _ _ => 8
  | _ => readsOfPoll s (counters board)

/-- The reads that a message may ask for, and after it the next polling reply. -/
def Message.debt (s : UnitState) (board : Memory) : Message → Nat
  | written _ _ _ => 4 + readsOfPoll s (counters board)
  | polling m _ => readsOfPoll s (counters m) + mismatches (counters board) (counters m)
  | _ => readsOfPoll s (counters board)

/-- The reads that what is on the line may ask for. -/
def Exchange.debt (s : UnitState) (board : Memory) : Exchange → Nat
  | idle => readsOfPoll s (counters board)
  | asked q => q.debt s board
  | onLine msg => msg.debt s board
  | cached msg => msg.debt s board
  | noticed msg => msg.debt s board

/-- The requests for the EEPROM that are still to come, at most. -/
def Exchange.potential (sys : System) (x : Exchange) : Nat :=
  9 * writesPending sys.gateway.readEepromRequestIndex +
    readsPending sys.gateway.readEepromRequestIndex + x.debt sys.gateway sys.board

/-- One exchange at most is going on, the flag tells of it, and only the bits
that ask for a request are set. -/
structure Synchronising (sys : System) (x : Exchange) : Prop where
  on : x.On sys
  flag : sys.gateway.eepromDataReceived = false ↔ x = .idle
  services : NoSilentService sys.gateway.readEepromRequestIndex

theorem Question.debt_le
    (q : Question) (s : UnitState) (board : Memory) :
    q.debt s board ≤ 8 := by
  have hpoll := readsOfPoll_le s (counters board)
  cases q with
  | write sec m => exact le_rfl
  | read sec => exact hpoll.trans (by decide)
  | polling device => exact hpoll.trans (by decide)
  | debug b c => exact hpoll.trans (by decide)

theorem Message.debt_le
    (msg : Message) (s : UnitState) (board : Memory) :
    msg.debt s board ≤ 8 := by
  have hpoll := readsOfPoll_le s (counters board)
  cases msg with
  | written sec m result => exact Nat.add_le_add_left hpoll 4
  | polling m measures =>
      exact Nat.add_le_add (readsOfPoll_le s (counters m)) (mismatches_le _ _)
  | read sec m => exact hpoll.trans (by decide)
  | debug data => exact hpoll.trans (by decide)
  | rejected w h => exact hpoll.trans (by decide)

theorem Exchange.potential_le
    (sys : System) (x : Exchange) :
    x.potential sys ≤ 57 := by
  have hdebt : x.debt sys.gateway sys.board ≤ 8 := by
    cases x with
    | idle => exact (readsOfPoll_le _ _).trans (by decide)
    | asked q => exact q.debt_le _ _
    | onLine msg => exact msg.debt_le _ _
    | cached msg => exact msg.debt_le _ _
    | noticed msg => exact msg.debt_le _ _
  have hwrites := writesPending_le sys.gateway.readEepromRequestIndex
  have hreads := readsPending_le sys.gateway.readEepromRequestIndex
  unfold Exchange.potential
  omega

/-! ## What leaves an exchange alone -/

section Congr

variable {sys sys' : System} {x : Exchange}

theorem Exchange.On.congr
    (h : x.On sys)
    (hrequests : sys'.requests = sys.requests) (hreplies : sys'.replies = sys.replies)
    (hport : sys'.gateway.port = sys.gateway.port) :
    x.On sys' := by
  cases x with
  | idle =>
      obtain ⟨h₁, h₂, h₃⟩ := h
      exact ⟨hrequests.trans h₁, hreplies.trans h₂, hport ▸ h₃⟩
  | asked q =>
      obtain ⟨h₁, h₂, h₃⟩ := h
      exact ⟨hrequests.trans h₁, hreplies.trans h₂, hport ▸ h₃⟩
  | onLine msg =>
      obtain ⟨hvalid, h₁, h₂, h₃⟩ := h
      exact ⟨hvalid, hrequests.trans h₁, hreplies.trans h₂, hport ▸ h₃⟩
  | cached msg =>
      obtain ⟨hvalid, h₁, h₂, h₃⟩ := h
      exact ⟨hvalid, hrequests.trans h₁, hreplies.trans h₂, hport ▸ h₃⟩
  | noticed msg =>
      obtain ⟨hvalid, h₁, h₂, h₃⟩ := h
      exact ⟨hvalid, hrequests.trans h₁, hreplies.trans h₂, hport ▸ h₃⟩

theorem readsOfPoll_congr
    {s s' : UnitState} (h : s'.extCnt = s.extCnt) (cnt : CountedSection → UInt8) :
    readsOfPoll s' cnt = readsOfPoll s cnt := by
  unfold readsOfPoll
  rw [h]

theorem Message.debt_congr
    {s s' : UnitState} {board board' : Memory} (msg : Message)
    (hext : s'.extCnt = s.extCnt) (hboard : counters board' = counters board) :
    msg.debt s' board' = msg.debt s board := by
  unfold Message.debt
  cases msg with
  | read sec m => exact hboard ▸ readsOfPoll_congr hext _
  | written sec m result => exact congrArg (4 + ·) (hboard ▸ readsOfPoll_congr hext _)
  | polling m measures =>
      dsimp only
      rw [hboard, readsOfPoll_congr hext]
  | debug data => exact hboard ▸ readsOfPoll_congr hext _
  | rejected w h => exact hboard ▸ readsOfPoll_congr hext _

theorem Question.debt_congr
    {s s' : UnitState} {board board' : Memory} (q : Question)
    (hext : s'.extCnt = s.extCnt) (hboard : counters board' = counters board) :
    q.debt s' board' = q.debt s board := by
  unfold Question.debt
  cases q with
  | write sec m => rfl
  | read sec => exact hboard ▸ readsOfPoll_congr hext _
  | polling device => exact hboard ▸ readsOfPoll_congr hext _
  | debug b c => exact hboard ▸ readsOfPoll_congr hext _

theorem Exchange.potential_congr
    (hindex : sys'.gateway.readEepromRequestIndex = sys.gateway.readEepromRequestIndex)
    (hext : sys'.gateway.extCnt = sys.gateway.extCnt)
    (hboard : counters sys'.board = counters sys.board) (x : Exchange) :
    x.potential sys' = x.potential sys := by
  have hdebt : x.debt sys'.gateway sys'.board = x.debt sys.gateway sys.board := by
    cases x with
    | idle =>
        unfold Exchange.debt
        dsimp only
        rw [hboard, readsOfPoll_congr hext]
    | asked q => exact q.debt_congr hext hboard
    | onLine msg => exact msg.debt_congr hext hboard
    | cached msg => exact msg.debt_congr hext hboard
    | noticed msg => exact msg.debt_congr hext hboard
  unfold Exchange.potential
  rw [hindex, hdebt]

end Congr

/-! ## Requests for the EEPROM -/

/-- A request to read or to write a section. -/
def isEepromRequest (w : List UInt8) : Bool :=
  ofBytes w ihm1TypeComand = commandReadEeprom ∨ ofBytes w ihm1TypeComand = commandWriteEeprom

theorem isEepromRequest_frame (q : Question) :
    isEepromRequest q.frame = true ↔
      q.command = commandReadEeprom ∨ q.command = commandWriteEeprom := by
  unfold isEepromRequest
  rw [q.frame_command]
  exact decide_eq_true_iff

/-- The requests for the EEPROM that an event leads to. -/
def eepromRequests (e : SystemEvent) (sys : System) : Nat :=
  match e with
  | .gateway e => (sent e sys.gateway).countP isEepromRequest
  | _ => 0

/-- The gateway has gone on to `s` and sent `ws`. -/
def System.goOn (sys : System) (ws : List (List UInt8)) (s : UnitState) : System :=
  { sys with
    gateway := s
    requests := sys.requests ++ ws }

@[simp] theorem System.goOn_gateway (sys : System) (ws : List (List UInt8)) (s : UnitState) :
    (sys.goOn ws s).gateway = s := by
  rfl

@[simp] theorem System.goOn_requests (sys : System) (ws : List (List UInt8)) (s : UnitState) :
    (sys.goOn ws s).requests = sys.requests ++ ws := by
  rfl

@[simp] theorem System.goOn_replies (sys : System) (ws : List (List UInt8)) (s : UnitState) :
    (sys.goOn ws s).replies = sys.replies := by
  rfl

@[simp] theorem System.goOn_board (sys : System) (ws : List (List UInt8)) (s : UnitState) :
    (sys.goOn ws s).board = sys.board := by
  rfl

theorem Exchange.potential_goOn
    {sys : System} {s : UnitState} (ws : List (List UInt8)) (x : Exchange)
    (hindex : s.readEepromRequestIndex = sys.gateway.readEepromRequestIndex)
    (hext : s.extCnt = sys.gateway.extCnt) :
    x.potential (sys.goOn ws s) = x.potential sys := by
  apply Exchange.potential_congr
  · exact hindex
  · exact hext
  · rfl

/-! ## The stages of an iteration -/

section Stages

variable {sys : System} {x : Exchange} (inp : IterationInput)

/-- A gateway that has sent nothing, with the same flag and receiver. -/
theorem Synchronising.goOn_silent
    (h : Synchronising sys x) {s : UnitState}
    (hport : s.port = sys.gateway.port)
    (hflag : s.eepromDataReceived = sys.gateway.eepromDataReceived)
    (hservices : NoSilentService s.readEepromRequestIndex) :
    Synchronising (sys.goOn [] s) x where
  on := h.on.congr (List.append_nil _) rfl hport
  flag := by
    rw [System.goOn_gateway, hflag]
    exact h.flag
  services := hservices

/-- A gateway that has asked a question, with nothing else going on. -/
theorem Synchronising.goOn_asked
    (h : Synchronising sys .idle) {s : UnitState} (q : Question)
    (hport : s.port = sys.gateway.port) (hflag : s.eepromDataReceived = true)
    (hservices : NoSilentService s.readEepromRequestIndex) :
    Synchronising (sys.goOn [q.frame] s) (.asked q) := by
  obtain ⟨hrequests, hreplies, hidle⟩ := h.on
  refine ⟨⟨?_, hreplies, ?_⟩, ?_, hservices⟩
  · rw [System.goOn_requests, hrequests]
    rfl
  · rw [System.goOn_gateway, hport]
    exact hidle
  · rw [System.goOn_gateway, hflag]
    exact iff_of_false (by simp) (by simp)

/-- The requests of the timers ask nothing of the EEPROM. -/
theorem question_of_timer
    {s : UnitState} {w : List UInt8} (hw : w ∈ timerRequests inp s) :
    ∃ q : Question, q.frame = w ∧ isEepromRequest w = false ∧
      ∀ s board, q.debt s board = readsOfPoll s (counters board) := by
  have hother : ∀ q : Question, q.command ≠ commandReadEeprom →
      q.command ≠ commandWriteEeprom → isEepromRequest q.frame = false := by
    intro q hread hwrite
    rw [Bool.eq_false_iff, ne_eq, isEepromRequest_frame]
    rintro (h | h)
    · exact hread h
    · exact hwrite h
  have hdebug : commandDataDebug ≠ commandReadEeprom ∧
      commandDataDebug ≠ commandWriteEeprom := by
    decide
  have hpolling : commandPollingBase ≠ commandReadEeprom ∧
      commandPollingBase ≠ commandWriteEeprom := by
    decide
  rcases List.mem_cons.mp hw with rfl | hw
  · rw [comSendRequestDataDebug_eq]
    exact ⟨.debug _ _, rfl, hother (.debug _ _) hdebug.1 hdebug.2, fun _ _ => rfl⟩
  · rw [List.mem_singleton] at hw
    subst hw
    rw [comSendRequestPollingBase_eq]
    exact ⟨.polling s.device, rfl, hother (.polling _) hpolling.1 hpolling.2, fun _ _ => rfl⟩

/-- Before the reception a timer may ask, if nothing else is going on. -/
theorem synchronising_beforeReceive
    (h : Synchronising sys x)
    (hstill : (beforeReceive inp sys.gateway).wbmComState = .wbmConnected) :
    ∃ ws y, Sends ws sys.gateway (beforeReceive inp sys.gateway) ∧
      ws.countP isEepromRequest = 0 ∧
      Synchronising (sys.goOn ws (beforeReceive inp sys.gateway)) y ∧
      y.potential (sys.goOn ws (beforeReceive inp sys.gateway)) = x.potential sys ∧
      (beforeReceive inp sys.gateway).readEepromRequestIndex =
        sys.gateway.readEepromRequestIndex ∧
      (y = x ∨ x = .idle ∧ ∃ q, y = .asked q) := by
  have hafter := beforeReceive_of_connected inp sys.gateway hstill
  have hdata := sameData_afterRequests inp sys.gateway
  obtain ⟨-, hindex, hext⟩ := afterRequests_link inp sys.gateway
  have hservices : NoSilentService (afterRequests inp sys.gateway).readEepromRequestIndex := by
    rw [hindex]
    exact h.services
  rw [hafter]
  have hsends := sends_beforeReceive inp sys.gateway
  rw [hafter] at hsends
  rcases hsends with ⟨hsend, hflag⟩ | ⟨w, hw, hfalse, htrue, hsend⟩
  · exact ⟨[], x, hsend, rfl, h.goOn_silent hdata.port hflag hservices,
      x.potential_goOn [] hindex hext, hindex, Or.inl rfl⟩
  · obtain ⟨q, rfl, hother, hdebt⟩ := question_of_timer inp hw
    have hidle : x = .idle := h.flag.mp hfalse
    subst hidle
    refine ⟨[q.frame], .asked q, hsend, by simp [hother],
      h.goOn_asked q hdata.port htrue hservices, ?_, hindex, Or.inr ⟨rfl, q, rfl⟩⟩
    unfold Exchange.potential Exchange.debt
    simp only [System.goOn_gateway, System.goOn_board]
    rw [hindex, hdebt, readsOfPoll_congr hext]

/-- What a change of counters adds to the bits and the debt it leaves. -/
theorem pending_or_changeRequests_le
    (index : BitVec 16) (cnt known : CountedSection → UInt8) :
    9 * writesPending (index ||| changeRequests cnt known) +
        readsPending (index ||| changeRequests cnt known) ≤
      9 * writesPending index + readsPending index + mismatches cnt known := by
  have hreads := readsPending_changeRequests_le index cnt known
  have hwrites : writesPending (index ||| changeRequests cnt known) ≤ writesPending index :=
    writesPending_mono fun k hk hset => getLsbD_or_changeRequests index cnt known hk hset
  omega

/-- The reads that a reply asks for are paid out of its debt. -/
theorem handleReply_paid
    {s : UnitState} (board : Memory) {msg : Message} {reply : Reply}
    (hreply : msg.reply = some reply)
    (hbuffer : ∀ i < rxBufferSize, s.port.buffSer1 i = ofBytes msg.frame i) :
    9 * writesPending (handleReply inp reply s).readEepromRequestIndex +
          readsPending (handleReply inp reply s).readEepromRequestIndex +
          readsOfPoll (handleReply inp reply s) (counters board) ≤
        9 * writesPending s.readEepromRequestIndex + readsPending s.readEepromRequestIndex +
          msg.debt s board ∧
      ∀ k, s.readEepromRequestIndex.getLsbD k = true →
        (handleReply inp reply s).readEepromRequestIndex.getLsbD k = true := by
  cases msg with
  | rejected w hw => cases hreply
  | debug data =>
      cases hreply
      obtain ⟨published, -, heq⟩ := handleReply_eq inp s .dataDebug
      rw [heq]
      exact ⟨le_rfl, fun _ hset => hset⟩
  | read sec m =>
      cases hreply
      obtain ⟨published, -, heq⟩ := handleReply_eq inp s .readEeprom
      rw [heq]
      exact ⟨le_rfl, fun _ hset => hset⟩
  | written sec m result =>
      cases hreply
      obtain ⟨published, -, heq⟩ := handleReply_eq inp s .writeEeprom
      unfold parseReply at heq
      dsimp only at heq
      rw [writeEepromDataParse_eq] at heq
      have hindex : (handleReply inp .writeEeprom s).readEepromRequestIndex =
          s.readEepromRequestIndex ||| changeRequests
            (fun sec => s.port.buffSer1 sec.irswCntUpdate)
            (fun sec => s.gRDEeprom sec.cntUpdateAddress) := by
        rw [heq]
      have hext : (handleReply inp .writeEeprom s).extCnt = s.extCnt := by
        rw [heq]
      rw [hindex, readsOfPoll_congr hext]
      constructor
      · have hpending := pending_or_changeRequests_le s.readEepromRequestIndex
          (fun sec => s.port.buffSer1 sec.irswCntUpdate)
          (fun sec => s.gRDEeprom sec.cntUpdateAddress)
        have hchanged := mismatches_le (fun sec => s.port.buffSer1 sec.irswCntUpdate)
          (fun sec => s.gRDEeprom sec.cntUpdateAddress)
        unfold Message.debt
        dsimp only
        omega
      · intro k hset
        rw [BitVec.getLsbD_or, hset, Bool.true_or]
  | polling m measures =>
      cases hreply
      obtain ⟨-, hindex, -, hext⟩ := handleReply_pollingBase inp s
      have hcnt : (pollingBaseData s.port.buffSer1).cntUpdate = counters m :=
        pollingBaseData_cntUpdate hbuffer
      rw [hcnt] at hindex hext
      rw [hindex]
      constructor
      · have hpending := pending_or_changeRequests_le s.readEepromRequestIndex (counters m)
          s.knownCounters
        have hpolled := mismatches_knownCounters_le s (counters m)
        have hpoll : readsOfPoll (handleReply inp .pollingBase s) (counters board) =
            mismatches (counters board) (counters m) := by
          unfold readsOfPoll
          rw [hext, if_pos rfl]
        rw [hpoll]
        unfold Message.debt
        dsimp only
        omega
      · intro k hset
        rw [BitVec.getLsbD_or, hset, Bool.true_or]

/-- What a call of `Read_Message` makes of an exchange. -/
def Exchange.received : Exchange → Exchange
  | cached msg => noticed msg
  | noticed _ => idle
  | x => x

/-- The reception takes the exchange on, and pays for the reads that a reply
asks for. -/
theorem synchronising_receive
    (h : Synchronising sys x) :
    Synchronising (sys.goOn [] (receive inp sys.gateway)) x.received ∧
      x.received.potential (sys.goOn [] (receive inp sys.gateway)) ≤ x.potential sys ∧
      (sys.gateway.readEepromRequestIndex ≠ 0 →
        (receive inp sys.gateway).readEepromRequestIndex ≠ 0) := by
  have hsilent : ∀ (y : Exchange) (port : SerialPort) (val : Int),
      y.debt sys.gateway sys.board = x.debt sys.gateway sys.board →
      receive inp sys.gateway = { sys.gateway with valRet := val, port := port } →
      Synchronising (sys.goOn [] { sys.gateway with valRet := val, port := port }) y →
        Synchronising (sys.goOn [] (receive inp sys.gateway)) y ∧
          y.potential (sys.goOn [] (receive inp sys.gateway)) ≤ x.potential sys ∧
          (sys.gateway.readEepromRequestIndex ≠ 0 →
            (receive inp sys.gateway).readEepromRequestIndex ≠ 0) := by
    intro y port val hdebt hreceive hsync
    have hsame : y.potential (sys.goOn [] { sys.gateway with valRet := val, port := port }) =
        y.potential sys :=
      y.potential_goOn [] rfl rfl
    rw [hreceive, hsame]
    refine ⟨hsync, ?_, fun hne => hne⟩
    unfold Exchange.potential
    rw [hdebt]
  obtain ⟨hon, hflag, hservices⟩ := h
  cases x with
  | idle =>
      obtain ⟨hrequests, hreplies, hport⟩ := hon
      obtain ⟨hreceive, hstill⟩ := receive_idle inp hport
      exact hsilent .idle _ _ rfl hreceive
        ⟨⟨(List.append_nil _).trans hrequests, hreplies, hstill⟩, hflag, hservices⟩
  | asked q =>
      obtain ⟨hrequests, hreplies, hport⟩ := hon
      obtain ⟨hreceive, hstill⟩ := receive_idle inp hport
      exact hsilent (.asked q) _ _ rfl hreceive
        ⟨⟨(List.append_nil _).trans hrequests, hreplies, hstill⟩, hflag, hservices⟩
  | onLine msg =>
      obtain ⟨hvalid, hrequests, hreplies, hport⟩ := hon
      obtain ⟨hreceive, hstill⟩ := receive_idle inp hport
      exact hsilent (.onLine msg) _ _ rfl hreceive
        ⟨⟨hvalid, (List.append_nil _).trans hrequests, hreplies, hstill⟩, hflag, hservices⟩
  | cached msg =>
      obtain ⟨hvalid, hrequests, hreplies, hport⟩ := hon
      obtain ⟨hpos, hshort⟩ := msg.frame_bounds
      have hup : sys.gateway.eepromDataReceived = false ↔
          (Exchange.noticed msg) = .idle := by
        rw [hflag]
        simp
      have hread := readMessage_arrived hport hpos (Nat.le_of_lt hshort)
      have hreceive := receive_nothing (s := sys.gateway) inp (by rw [hread])
        (by rw [hread]; exact (by decide : 0 ≤ runDownload))
      rw [hread] at hreceive
      exact hsilent (.noticed msg) _ _ rfl hreceive
        ⟨⟨hvalid, (List.append_nil _).trans hrequests, hreplies, hport.noticed⟩, hup, hservices⟩
  | noticed msg =>
      obtain ⟨⟨reply, hreply⟩, hrequests, hreplies, hport⟩ := hon
      obtain ⟨hpos, hshort⟩ := msg.frame_bounds
      have hread := readMessage_holding hport hpos hshort
      obtain ⟨hbuffer, ⟨reply', hreply', hreceive⟩ | ⟨hnone, -⟩⟩ := receive_message inp hread
      · have hsame : reply' = reply := Option.some.inj (hreply'.symm.trans hreply)
        subst hsame
        rw [hreceive]
        generalize hs : ({ sys.gateway with
          valRet := (readMessage sys.gateway.port).1
          port := (readMessage sys.gateway.port).2
          globalTimeoutMilliseconds := inp.millis 13 } : UnitState) = s
        have hindex : s.readEepromRequestIndex = sys.gateway.readEepromRequestIndex := by
          rw [← hs]
        have hext : s.extCnt = sys.gateway.extCnt := by
          rw [← hs]
        have hport' : s.port = (readMessage sys.gateway.port).2 := by
          rw [← hs]
        obtain ⟨hdown, hsameport⟩ := handleReply_line inp s reply'
        have hbuffer' : ∀ i < rxBufferSize, s.port.buffSer1 i = ofBytes msg.frame i := by
          rw [hport']
          exact hbuffer
        obtain ⟨hpaid, hkept⟩ := handleReply_paid inp sys.board hreply hbuffer'
        rw [hindex] at hpaid hkept
        have hservices' :
            NoSilentService (handleReply inp reply' s).readEepromRequestIndex := by
          have hstage := hservices.stage inp .receive
          simp only [IterationStage.run, hreceive, hs] at hstage
          exact hstage
        refine ⟨⟨⟨(List.append_nil _).trans hrequests, hreplies, ?_⟩,
          iff_of_true hdown rfl, hservices'⟩, ?_, ne_zero_of_kept hkept⟩
        · rw [System.goOn_gateway, hsameport, hport', hread]
          exact idle_received hport
        · have hdebt : msg.debt s sys.board = msg.debt sys.gateway sys.board :=
            msg.debt_congr hext rfl
          rw [hdebt] at hpaid
          exact hpaid
      · rw [hnone] at hreply
        cases hreply

/-- What the scheduler does to an exchange: it pays for what it sends; with
nothing going on it sends what is pending, and else it does nothing. -/
structure Scheduled (sys : System) (x y : Exchange) (ws : List (List UInt8)) : Prop where
  sends : Sends ws sys.gateway (scheduler inp sys.gateway)
  synchronising : Synchronising (sys.goOn ws (scheduler inp sys.gateway)) y
  paid : y.potential (sys.goOn ws (scheduler inp sys.gateway)) + ws.countP isEepromRequest ≤
    x.potential sys
  serves : x = .idle → sys.gateway.readEepromRequestIndex ≠ 0 → 0 < ws.countP isEepromRequest
  waits : x ≠ .idle → y = x ∧ (scheduler inp sys.gateway).readEepromRequestIndex =
    sys.gateway.readEepromRequestIndex

/-- A question of the scheduler is paid for by the bit that is cleared. -/
theorem Scheduled.asked
    {q : Question} {mask : BitVec 16}
    (h : Synchronising sys .idle)
    (hport : (scheduler inp sys.gateway).port = sys.gateway.port)
    (hflag : (scheduler inp sys.gateway).eepromDataReceived = true)
    (hindex : (scheduler inp sys.gateway).readEepromRequestIndex =
      sys.gateway.readEepromRequestIndex &&& mask)
    (hsend : Sends [q.frame] sys.gateway (scheduler inp sys.gateway))
    (hrequest : isEepromRequest q.frame = true)
    (hpaid : 9 * writesPending (sys.gateway.readEepromRequestIndex &&& mask) +
        readsPending (sys.gateway.readEepromRequestIndex &&& mask) +
        q.debt (scheduler inp sys.gateway) sys.board + 1 ≤
      Exchange.idle.potential sys) :
    Scheduled inp sys .idle (.asked q) [q.frame] := by
  have hone : [q.frame].countP isEepromRequest = 1 := by
    simp [hrequest]
  have hservices : NoSilentService (scheduler inp sys.gateway).readEepromRequestIndex :=
    h.services.stage inp .scheduler
  refine ⟨hsend, h.goOn_asked q hport hflag hservices, ?_, fun _ _ => ?_,
    fun hne => absurd rfl hne⟩
  · rw [hone]
    unfold Exchange.potential Exchange.debt at *
    simp only [System.goOn_gateway, System.goOn_board, hindex] at hpaid ⊢
    exact hpaid
  · rw [hone]
    exact Nat.one_pos

/-- With nothing going on the scheduler sends what is pending, and pays for it. -/
theorem exists_scheduled
    (h : Synchronising sys x) (hinp : ∀ w ∈ inp.duringTx, w.payload.length < 241) :
    ∃ ws y, Scheduled inp sys x y ws := by
  rcases scheduler_cases inp sys.gateway with
    ⟨hsame, hnothing⟩ | ⟨bit, mask, service, hfalse, hnext, hrun⟩
  · refine ⟨[], x, sends_of_outputs_eq (by rw [hsame]), ?_, ?_, fun hidle hne => ?_,
      fun _ => ⟨rfl, by rw [hsame]⟩⟩
    · rw [hsame]
      exact h.goOn_silent rfl rfl h.services
    · rw [hsame]
      exact (x.potential_goOn [] rfl rfl).le
    · rcases hnothing with hzero | htrue | hnone
      · exact absurd hzero hne
      · rw [h.flag.mpr hidle] at htrue
        cases htrue
      · obtain ⟨bit, mask, service, hsome⟩ := h.services.exists_nextService hne
        rw [hnone] at hsome
        cases hsome
  · have hidle : x = .idle := h.flag.mp hfalse
    subst hidle
    have hwrites : inp.duringTx.foldl (fun s w => clientWrite w s)
        (sendService inp service sys.gateway) = sendService inp service sys.gateway := by
      rcases clientWrites_cases inp.duringTx (sendService inp service sys.gateway) with
        ⟨hsame, -⟩ | ⟨⟨w, hw, hlong⟩, -⟩
      · exact hsame
      · have hshort := hinp w hw
        omega
    rw [hwrites] at hrun
    have hbut := sameButImage_sendService inp service sys.gateway
    have hindex : (scheduler inp sys.gateway).readEepromRequestIndex =
        sys.gateway.readEepromRequestIndex &&& mask := by
      rw [hrun]
      dsimp only
      rw [(sendService_image inp sys.gateway service).2]
    have hext : (scheduler inp sys.gateway).extCnt = sys.gateway.extCnt := by
      rw [hrun]
      exact hbut.extCnt
    have hport : (scheduler inp sys.gateway).port = sys.gateway.port := by
      rw [hrun]
      exact hbut.port
    have hflag : (scheduler inp sys.gateway).eepromDataReceived = true := by
      rw [hrun]
    have hsend : Sends (serviceFrames service sys.gateway.gRDEeprom) sys.gateway
        (scheduler inp sys.gateway) := by
      rw [hrun]
      exact (sends_sendService inp sys.gateway service).then_silent (sends_of_outputs_eq rfl)
    have hmasked : ∀ k, (sys.gateway.readEepromRequestIndex &&& mask).getLsbD k = true →
        sys.gateway.readEepromRequestIndex.getLsbD k = true := by
      intro k hset
      rw [BitVec.getLsbD_and, Bool.and_eq_true] at hset
      exact hset.1
    have hreads := readsPending_mono fun k _ => hmasked k
    have hwrites := writesPending_mono fun k _ => hmasked k
    have hpoll := readsOfPoll_congr hext (counters sys.board)
    have hdebt : Exchange.idle.potential sys =
        9 * writesPending sys.gateway.readEepromRequestIndex +
          readsPending sys.gateway.readEepromRequestIndex +
          readsOfPoll sys.gateway (counters sys.board) := rfl
    cases service with
    | read sec =>
        obtain ⟨counted, rfl⟩ := counted_of_nextService hnext
        have hpaid := pending_nextService_read hnext
        refine ⟨_, _, .asked (q := .read counted) inp h hport hflag hindex hsend ?_ ?_⟩
        · exact (isEepromRequest_frame (.read counted)).mpr (Or.inl rfl)
        · rw [hdebt]
          unfold Question.debt
          dsimp only
          omega
    | write sec =>
        have hpaid := pending_nextService_write hnext
        have hpending := writePending_of_nextService hnext
        rw [serviceFrames_write (ne_configuration_of_pending hpending)] at hsend
        refine ⟨_, _, .asked (q := .write sec sys.gateway.gRDEeprom) inp h hport hflag hindex
          hsend ?_ ?_⟩
        · exact (isEepromRequest_frame (.write sec _)).mpr (Or.inr rfl)
        · rw [hdebt]
          unfold Question.debt
          dsimp only
          omega
    | nothing =>
        obtain ⟨w, hframes⟩ := h.services.serviceFrames hnext sys.gateway.gRDEeprom
        cases hframes

end Stages

/-! ## Events -/

/-- The unit answers with what it has and nothing else arrives, no client's
image is accepted, and the unit's counters change only while it has a request
to write. -/
def Undisturbed (e : SystemEvent) (sys : System) : Prop :=
  match e with
  | .gateway (.iterate inp) => ∀ w ∈ inp.duringTx, w.payload.length < 241
  | .gateway (.clientWrite w) => w.payload.length < 241
  | .gateway (.uartData _) => False
  | .change board =>
      (∃ w ∈ sys.requests, ofBytes w ihm1TypeComand = commandWriteEeprom) ∨
        ∀ sec : CountedSection, board sec.cntUpdateAddress = sys.board sec.cntUpdateAddress
  | .corrupt _ => False
  | _ => True

/-- What an event does: it pays for the requests it leads to, and while
something is pending it leads to one or keeps the exchange going, and takes it
on if it can. -/
structure Advance (e : SystemEvent) (sys : System) (x y : Exchange) : Prop where
  synchronising : Synchronising (systemStep e sys) y
  paid : y.potential (systemStep e sys) + eepromRequests e sys ≤ x.potential sys
  moves : sys.gateway.readEepromRequestIndex ≠ 0 →
    0 < eepromRequests e sys ∨
      (systemStep e sys).gateway.readEepromRequestIndex ≠ 0 ∧ y.rank ≤ x.rank ∧
        (x.Helped e → y.rank < x.rank)

section Events

variable {sys : System} {x : Exchange}

/-- An iteration, if the unit is not lost. -/
theorem exists_advance_iterate
    (inp : IterationInput) (h : Synchronising sys x)
    (hinp : ∀ w ∈ inp.duringTx, w.payload.length < 241)
    (hconn : sys.gateway.wbmComState = .wbmConnected)
    (hstill : (systemStep (.gateway (.iterate inp)) sys).gateway.wbmComState =
      .wbmConnected) :
    ∃ y, Advance (.gateway (.iterate inp)) sys x y := by
  have htask : unitEventTask inp sys.gateway =
      scheduler inp (receive inp (beforeReceive inp sys.gateway)) :=
    unitEventTask_connected inp hconn
  have hbefore : (beforeReceive inp sys.gateway).wbmComState = .wbmConnected := by
    rw [← connectedIteration_wbmComState, ← unitEventTask_connected inp hconn]
    exact hstill
  obtain ⟨ws, x₁, hsend₁, hnone, hsync₁, hpaid₁, hindex₁, hexchange₁⟩ :=
    synchronising_beforeReceive inp h hbefore
  obtain ⟨hsync₂, hpaid₂, hindex₂⟩ := synchronising_receive inp hsync₁
  obtain ⟨ws', y, hsend₃, hsync₃, hpaid₃, hsends, hkeeps⟩ :=
    exists_scheduled inp hsync₂ hinp
  simp only [System.goOn_gateway] at hsync₂ hpaid₂ hindex₂ hsend₃ hsync₃ hpaid₃ hsends hkeeps
  have hsend : Sends (ws ++ ws') sys.gateway (step (.iterate inp) sys.gateway) := by
    have hstep : step (.iterate inp) sys.gateway =
        scheduler inp (receive inp (beforeReceive inp sys.gateway)) := htask
    rw [hstep]
    exact (hsend₁.then_silent (sends_receive inp _)).trans hsend₃
  have hstep : systemStep (.gateway (.iterate inp)) sys =
      ((sys.goOn ws (beforeReceive inp sys.gateway)).goOn []
        (receive inp (beforeReceive inp sys.gateway))).goOn ws'
          (scheduler inp (receive inp (beforeReceive inp sys.gateway))) := by
    simp only [systemStep, sent_eq hsend]
    simp only [System.goOn, step, htask, List.append_nil, List.append_assoc]
  have hcost : eepromRequests (.gateway (.iterate inp)) sys = ws'.countP isEepromRequest := by
    unfold eepromRequests
    dsimp only
    rw [sent_eq hsend, List.countP_append, hnone, Nat.zero_add]
  refine ⟨y, ?_, ?_, fun hne => ?_⟩
  · rw [hstep]
    exact hsync₃
  · rw [hstep, hcost]
    omega
  · have hne₂ := hindex₂ (hindex₁ ▸ hne)
    rw [hstep, hcost, System.goOn_gateway]
    by_cases hidle : x₁.received = .idle
    · exact Or.inl (hsends hidle hne₂)
    · obtain ⟨rfl, hindex₃⟩ := hkeeps hidle
      refine Or.inr ⟨hindex₃ ▸ hne₂, ?_⟩
      rcases hexchange₁ with rfl | ⟨rfl, q, rfl⟩
      · cases x₁ with
        | idle => exact absurd rfl hidle
        | asked q =>
            refine ⟨le_rfl, ?_⟩
            rintro ⟨a, ⟨⟩⟩
        | onLine msg => exact ⟨le_rfl, fun he => by cases he⟩
        | cached msg =>
            exact ⟨by simp [Exchange.rank, Exchange.received],
              fun _ => by simp [Exchange.rank, Exchange.received]⟩
        | noticed msg => exact absurd rfl hidle
      · exact ⟨by simp [Exchange.rank, Exchange.received],
          fun _ => by simp [Exchange.rank, Exchange.received]⟩

/-- An event that leaves the exchange where it is. -/
theorem Advance.of_same
    {e : SystemEvent} (hsync : Synchronising (systemStep e sys) x)
    (hpotential : x.potential (systemStep e sys) = x.potential sys)
    (hcost : eepromRequests e sys = 0)
    (hindex : (systemStep e sys).gateway.readEepromRequestIndex =
      sys.gateway.readEepromRequestIndex)
    (hhelped : ¬ x.Helped e) :
    Advance e sys x x where
  synchronising := hsync
  paid := by
    rw [hpotential, hcost]
    exact le_rfl
  moves := fun hne => Or.inr ⟨hindex ▸ hne, le_rfl, fun he => absurd he hhelped⟩

/-- What happens around the task and does not concern the exchange. -/
theorem advance_around
    {e : Event} (h : Synchronising sys x) (he : ∀ inp, e ≠ .iterate inp)
    (hport : (step e sys.gateway).port = sys.gateway.port)
    (hindex : (step e sys.gateway).readEepromRequestIndex =
      sys.gateway.readEepromRequestIndex)
    (hext : (step e sys.gateway).extCnt = sys.gateway.extCnt) :
    Advance (.gateway e) sys x x := by
  obtain ⟨hsend, hflag, -, -⟩ := step_around he sys.gateway
  have hstep : systemStep (.gateway e) sys = sys.goOn [] (step e sys.gateway) := by
    rw [systemStep_gateway_of_silent hsend]
    simp only [System.goOn, List.append_nil]
  refine .of_same ?_ ?_ ?_ ?_ ?_
  · rw [hstep]
    exact h.goOn_silent hport hflag (hindex ▸ h.services)
  · rw [hstep]
    exact x.potential_goOn [] hindex hext
  · unfold eepromRequests
    dsimp only
    rw [sent_eq hsend]
    rfl
  · rw [hstep]
    exact hindex
  · intro hhelped
    unfold Exchange.Helped at hhelped
    cases x with
    | asked q =>
        obtain ⟨a, ha⟩ := hhelped
        cases ha
    | onLine msg => cases hhelped
    | idle =>
        obtain ⟨inp, hinp⟩ := hhelped
        exact he inp (SystemEvent.gateway.inj hinp)
    | cached msg =>
        obtain ⟨inp, hinp⟩ := hhelped
        exact he inp (SystemEvent.gateway.inj hinp)
    | noticed msg =>
        obtain ⟨inp, hinp⟩ := hhelped
        exact he inp (SystemEvent.gateway.inj hinp)

/-- A question is answered with its reply. -/
theorem exists_advance_answer
    (h : Synchronising sys x) (a : Answer) :
    ∃ y, Advance (.answer a) sys x y := by
  have hnone : sys.requests = [] → ¬ x.Helped (.answer a) → ∃ y, Advance (.answer a) sys x y := by
    intro hrequests hhelped
    have hstep := systemStep_answer_of_none a hrequests
    refine ⟨x, .of_same ?_ ?_ rfl ?_ hhelped⟩
    · rw [hstep]
      exact h
    · rw [hstep]
    · rw [hstep]
  cases x with
  | idle => exact hnone h.on.1 (fun ⟨_, he⟩ => by cases he)
  | onLine msg => exact hnone h.on.2.1 (fun he => by cases he)
  | cached msg => exact hnone h.on.2.1 (fun ⟨_, he⟩ => by cases he)
  | noticed msg => exact hnone h.on.2.1 (fun ⟨_, he⟩ => by cases he)
  | asked q =>
      obtain ⟨hrequests, hreplies, hport⟩ := h.on
      have hstep : systemStep (.answer a) sys =
          { sys with
            board := (q.answered sys.board a).1
            requests := []
            replies := [(q.answered sys.board a).2.frame] } := by
        unfold systemStep
        rw [hrequests]
        dsimp only
        rw [boardAnswer_question, hreplies]
        rfl
      have hvalid : (q.answered sys.board a).2.Valid := by
        cases q with
        | read sec => exact ⟨_, rfl⟩
        | write sec m => exact ⟨_, rfl⟩
        | polling device => exact ⟨_, rfl⟩
        | debug b c => exact ⟨_, rfl⟩
      have hdebt : (q.answered sys.board a).2.debt sys.gateway (q.answered sys.board a).1 ≤
          q.debt sys.gateway sys.board := by
        cases q with
        | read sec => exact le_rfl
        | write sec m => exact Nat.add_le_add_left (readsOfPoll_le _ _) 4
        | polling device =>
            show readsOfPoll sys.gateway (counters sys.board) +
              mismatches (counters sys.board) (counters sys.board) ≤ _
            rw [mismatches_self]
            exact le_rfl
        | debug b c => exact le_rfl
      have hup : sys.gateway.eepromDataReceived = false ↔
          Exchange.onLine (q.answered sys.board a).2 = .idle := by
        rw [h.flag]
        simp
      refine ⟨.onLine (q.answered sys.board a).2, ?_, ?_, fun hne => Or.inr ?_⟩
      · rw [hstep]
        exact ⟨⟨hvalid, rfl, rfl, hport⟩, hup, h.services⟩
      · rw [hstep]
        exact Nat.add_le_add_left hdebt _
      · rw [hstep]
        exact ⟨hne, by simp [Exchange.rank], fun _ => by simp [Exchange.rank]⟩

/-- A reply on the line arrives. -/
theorem exists_advance_deliver
    (h : Synchronising sys x) :
    ∃ y, Advance .deliver sys x y := by
  have hnone : sys.replies = [] → ¬ x.Helped .deliver → ∃ y, Advance .deliver sys x y := by
    intro hreplies hhelped
    have hstep := systemStep_deliver_of_none hreplies
    refine ⟨x, .of_same ?_ ?_ rfl ?_ hhelped⟩
    · rw [hstep]
      exact h
    · rw [hstep]
    · rw [hstep]
  cases x with
  | idle => exact hnone h.on.2.1 (fun ⟨_, he⟩ => by cases he)
  | asked q => exact hnone h.on.2.1 (fun ⟨_, he⟩ => by cases he)
  | cached msg => exact hnone h.on.2.2.1 (fun ⟨_, he⟩ => by cases he)
  | noticed msg => exact hnone h.on.2.2.1 (fun ⟨_, he⟩ => by cases he)
  | onLine msg =>
      obtain ⟨hvalid, hrequests, hreplies, hport⟩ := h.on
      have hlen := msg.frame_bounds.2
      have hstep : systemStep .deliver sys =
          { sys with gateway := step (.uartData msg.frame) sys.gateway, replies := [] } := by
        unfold systemStep
        rw [hreplies]
      have hup : sys.gateway.eepromDataReceived = false ↔ Exchange.cached msg = .idle := by
        rw [h.flag]
        simp
      refine ⟨.cached msg, ?_, ?_, fun hne => Or.inr ?_⟩
      · rw [hstep]
        exact ⟨⟨hvalid, hrequests, rfl, hport.uartEventTask (Nat.le_of_lt hlen)⟩, hup,
          h.services⟩
      · rw [hstep]
        exact le_rfl
      · rw [hstep]
        exact ⟨hne, by simp [Exchange.rank], fun _ => by simp [Exchange.rank]⟩

/-- The image on the board changes: the counters do so only while a write is
being served, whose debt covers any counters. -/
theorem advance_change
    (h : Synchronising sys x) {board : Memory} (hboard : Undisturbed (.change board) sys) :
    Advance (.change board) sys x x := by
  have hpotential : x.potential (systemStep (.change board) sys) = x.potential sys := by
    rcases hboard with ⟨w, hw, hwrite⟩ | hcounters
    · have hasked : ∃ sec m, x = .asked (.write sec m) := by
        cases x with
        | idle => rw [h.on.1] at hw; cases hw
        | onLine msg => rw [h.on.2.1] at hw; cases hw
        | cached msg => rw [h.on.2.1] at hw; cases hw
        | noticed msg => rw [h.on.2.1] at hw; cases hw
        | asked q =>
            rw [h.on.1, List.mem_singleton] at hw
            subst hw
            rw [q.frame_command] at hwrite
            cases q with
            | write sec m => exact ⟨sec, m, rfl⟩
            | read sec => cases hwrite
            | polling device => cases hwrite
            | debug b c => cases hwrite
      obtain ⟨sec, m, rfl⟩ := hasked
      rfl
    · apply Exchange.potential_congr
      · rfl
      · rfl
      · exact funext hcounters
  refine .of_same ⟨h.on.congr rfl rfl rfl, h.flag, h.services⟩ hpotential rfl rfl ?_
  intro hhelped
  unfold Exchange.Helped at hhelped
  cases x with
  | asked q =>
      obtain ⟨a, ha⟩ := hhelped
      cases ha
  | onLine msg => cases hhelped
  | idle =>
      obtain ⟨inp, hinp⟩ := hhelped
      cases hinp
  | cached msg =>
      obtain ⟨inp, hinp⟩ := hhelped
      cases hinp
  | noticed msg =>
      obtain ⟨inp, hinp⟩ := hhelped
      cases hinp

/-- Every event that does not disturb takes the exchange on. -/
theorem exists_advance
    {e : SystemEvent} (h : Synchronising sys x) (he : Undisturbed e sys)
    (hconn : sys.gateway.wbmComState = .wbmConnected)
    (hstill : (systemStep e sys).gateway.wbmComState = .wbmConnected) :
    ∃ y, Advance e sys x y := by
  cases e with
  | gateway e =>
      cases e with
      | iterate inp => exact exists_advance_iterate inp h he hconn hstill
      | uartData data => exact he.elim
      | clientWrite w =>
          have hsame : step (.clientWrite w) sys.gateway = sys.gateway :=
            clientWrite_rejected w sys.gateway he
          refine ⟨x, advance_around h (by simp) ?_ ?_ ?_⟩
          · rw [hsame]
          · rw [hsame]
          · rw [hsame]
      | mqttReady ready => exact ⟨x, advance_around h (by simp) rfl rfl rfl⟩
      | unitUpdateTask running => exact ⟨x, advance_around h (by simp) rfl rfl rfl⟩
      | firmwareStored content => exact ⟨x, advance_around h (by simp) rfl rfl rfl⟩
  | answer a => exact exists_advance_answer h a
  | change board => exact ⟨x, advance_change h he⟩
  | deliver => exact exists_advance_deliver h
  | corrupt bytes => exact he.elim

end Events

/-! ## Endless runs -/

/-- The task does not stop, the unit answers what it is asked, and its replies
arrive. -/
structure Fair (events : Nat → SystemEvent) (sys : System) : Prop where
  iterates : ∀ n, ∃ m, n ≤ m ∧ ∃ inp, events m = .gateway (.iterate inp)
  answers : ∀ n, (trace systemStep events sys n).requests ≠ [] →
    ∃ m, n ≤ m ∧ ∃ a, events m = .answer a
  arrives : ∀ n, (trace systemStep events sys n).replies ≠ [] →
    ∃ m, n ≤ m ∧ events m = .deliver

/-- An event that takes the exchange on will come. -/
theorem Fair.helped
    {events : Nat → SystemEvent} {sys : System} (h : Fair events sys) {n : Nat} {x : Exchange}
    (hx : Synchronising (trace systemStep events sys n) x) :
    ∃ m, n ≤ m ∧ ∀ y : Exchange, y.rank = x.rank → y.Helped (events m) := by
  cases x with
  | asked q =>
      have hrequests : (trace systemStep events sys n).requests ≠ [] := by
        rw [hx.on.1]
        simp
      obtain ⟨m, hm, ha⟩ := h.answers n hrequests
      refine ⟨m, hm, fun y hy => ?_⟩
      cases y <;> first | exact ha | (simp [Exchange.rank] at hy)
  | onLine msg =>
      have hreplies : (trace systemStep events sys n).replies ≠ [] := by
        rw [hx.on.2.2.1]
        simp
      obtain ⟨m, hm, he⟩ := h.arrives n hreplies
      refine ⟨m, hm, fun y hy => ?_⟩
      cases y <;> first | exact he | (simp [Exchange.rank] at hy)
  | idle =>
      obtain ⟨m, hm, hi⟩ := h.iterates n
      refine ⟨m, hm, fun y hy => ?_⟩
      cases y <;> first | exact hi | (simp [Exchange.rank] at hy)
  | cached msg =>
      obtain ⟨m, hm, hi⟩ := h.iterates n
      refine ⟨m, hm, fun y hy => ?_⟩
      cases y <;> first | exact hi | (simp [Exchange.rank] at hy)
  | noticed msg =>
      obtain ⟨m, hm, hi⟩ := h.iterates n
      refine ⟨m, hm, fun y hy => ?_⟩
      cases y <;> first | exact hi | (simp [Exchange.rank] at hy)

/-- The requests for the EEPROM that are still to come fit a budget. -/
def Within (budget : Nat) (sys : System) : Prop :=
  ∃ x, Synchronising sys x ∧ x.potential sys ≤ budget

/-- Something is pending, and the next request has come this close. -/
def PendingAt (rank : Nat) (sys : System) : Prop :=
  ∃ x, Synchronising sys x ∧ sys.gateway.readEepromRequestIndex ≠ 0 ∧ x.rank = rank

theorem within_start
    {sys : System} (h : ∃ x, Synchronising sys x) :
    Within 57 sys := by
  obtain ⟨x, hx⟩ := h
  exact ⟨x, hx, x.potential_le sys⟩

/-- While the unit answers every request and nobody disturbs, no more than 57
requests are sent for the EEPROM, whatever is pending and whatever the counters
are; from some point on none is sent, and nothing is pending. -/
theorem synchronisation_quiesces
    (events : Nat → SystemEvent) (sys : System)
    (hstart : ∃ x, Synchronising sys x)
    (hunit : ∀ n, Undisturbed (events n) (trace systemStep events sys n))
    (hconn : ∀ n, (trace systemStep events sys n).gateway.wbmComState = .wbmConnected)
    (hfair : Fair events sys) :
    (∀ n, totalCost
        (fun k => eepromRequests (events k) (trace systemStep events sys k)) n ≤ 57) ∧
      ∃ N, ∀ n, N ≤ n →
        eepromRequests (events n) (trace systemStep events sys n) = 0 ∧
          (trace systemStep events sys n).gateway.readEepromRequestIndex = 0 := by
  have hadvance : ∀ n x, Synchronising (trace systemStep events sys n) x →
      ∃ y, Advance (events n) (trace systemStep events sys n) x y :=
    fun n x hx => exists_advance hx (hunit n) (hconn n) (hconn (n + 1))
  have hpays : ∀ n budget, Within budget (trace systemStep events sys n) →
      ∃ rest, rest + eepromRequests (events n) (trace systemStep events sys n) ≤ budget ∧
        Within rest (trace systemStep events sys (n + 1)) := by
    rintro n budget ⟨x, hx, hle⟩
    obtain ⟨y, hy⟩ := hadvance n x hx
    exact ⟨_, hy.paid.trans hle, y, hy.synchronising, le_rfl⟩
  have hkeep : ∀ n rank, PendingAt rank (trace systemStep events sys n) →
      0 < eepromRequests (events n) (trace systemStep events sys n) ∨
        ∃ rank' ≤ rank, PendingAt rank' (trace systemStep events sys (n + 1)) := by
    rintro n rank ⟨x, hx, hne, rfl⟩
    obtain ⟨y, hy⟩ := hadvance n x hx
    rcases hy.moves hne with hcost | ⟨hne', hle, -⟩
    · exact Or.inl hcost
    · exact Or.inr ⟨y.rank, hle, y, hy.synchronising, hne', rfl⟩
  have hhelp : ∀ n rank, PendingAt rank (trace systemStep events sys n) →
      ∃ m, n ≤ m ∧ (PendingAt rank (trace systemStep events sys m) →
        0 < eepromRequests (events m) (trace systemStep events sys m) ∨
          ∃ rank' < rank, PendingAt rank' (trace systemStep events sys (m + 1))) := by
    rintro n rank ⟨x, hx, -, rfl⟩
    obtain ⟨m, hm, hhelped⟩ := hfair.helped hx
    refine ⟨m, hm, ?_⟩
    rintro ⟨x', hx', hne', hrank⟩
    obtain ⟨y, hy⟩ := hadvance m x' hx'
    rcases hy.moves hne' with hcost | ⟨hne'', -, hlt⟩
    · exact Or.inl hcost
    · exact Or.inr ⟨y.rank, hrank ▸ hlt (hhelped x' hrank), y, hy.synchronising, hne'', rfl⟩
  have hrun : ∀ n, ∃ x, Synchronising (trace systemStep events sys n) x := by
    intro n
    induction n with
    | zero => exact hstart
    | succ n ih =>
        obtain ⟨x, hx⟩ := ih
        obtain ⟨y, hy⟩ := hadvance n x hx
        exact ⟨y, hy.synchronising⟩
  have hleads : ∀ n, (trace systemStep events sys n).gateway.readEepromRequestIndex ≠ 0 →
      ∃ m, n ≤ m ∧ 0 < eepromRequests (events m) (trace systemStep events sys m) := by
    intro n hne
    obtain ⟨x, hx⟩ := hrun n
    exact exists_goal_of_rank hkeep hhelp ⟨x, hx, hne, rfl⟩
  have hbudget := totalCost_le_of_budget hpays (within_start hstart)
  obtain ⟨N, hN⟩ := eventually_not_of_budget hbudget hleads
  exact ⟨hbudget, N, fun n hn => ⟨(hN n hn).1, not_not.mp (hN n hn).2⟩⟩

/-! ## A gateway with everything pending -/

/-- A connected gateway with every section to be read and to be written, whose
counters are not those of the unit. -/
def busySystem : System where
  gateway :=
    { freshBoard with
      wbmComState := .wbmConnected
      currentState := .connected
      readEepromRequestIndex := 0xF80F
      extCnt := { initialized := true, cnt := fun _ => 7 } }
  board := fun _ => 1
  requests := []
  replies := []

/-- The task, the unit and the line in turn, while the clock stands still. -/
def inTurn (n : Nat) : SystemEvent :=
  if n % 3 = 0 then .gateway (iterateAt 0)
  else if n % 3 = 1 then .answer .zero
  else .deliver

/-- Connected, and the timeout restarted at the present reading of the clock. -/
def StandsStill (sys : System) : Prop :=
  sys.gateway.wbmComState = .wbmConnected ∧ sys.gateway.globalTimeoutMilliseconds = 0

theorem standsStill_iterate
    {s : UnitState} (hconn : s.wbmComState = .wbmConnected)
    (htimer : s.globalTimeoutMilliseconds = 0) :
    (unitEventTask (.still 0) s).wbmComState = .wbmConnected ∧
      (unitEventTask (.still 0) s).globalTimeoutMilliseconds = 0 := by
  have hbefore : (beforeReceive (.still 0) s).wbmComState = .wbmConnected := by
    have hstill := beforeReceive_still s
    rw [htimer] at hstill
    exact hstill.trans hconn
  have htimers := afterRequests_globalTimeoutMilliseconds (.still 0) s
  rw [← beforeReceive_of_connected _ _ hbefore] at htimers
  simp only [IterationInput.millis_still, htimer, or_self] at htimers
  have hreceive := receive_globalTimeoutMilliseconds (.still 0) (beforeReceive (.still 0) s)
  simp only [IterationInput.millis_still, htimers, or_self] at hreceive
  have hscheduler : ∀ s', (scheduler (.still 0) s').globalTimeoutMilliseconds =
      s'.globalTimeoutMilliseconds :=
    fun s' => (sameButImage_scheduler (.still 0) s').globalTimeoutMilliseconds
  rw [unitEventTask_connected _ hconn]
  refine ⟨(connectedIteration_wbmComState _ s).trans hbefore, ?_⟩
  unfold connectedIteration
  rw [hscheduler]
  exact hreceive

theorem standsStill_inTurn (n : Nat) :
    StandsStill (trace systemStep inTurn busySystem n) := by
  have hstep : ∀ e sys, (∃ n, e = inTurn n) → StandsStill sys → StandsStill (systemStep e sys) := by
    rintro e sys ⟨n, rfl⟩ ⟨hconn, htimer⟩
    unfold inTurn
    split
    · exact standsStill_iterate hconn htimer
    · split
      · unfold StandsStill
        rw [systemStep_answer_gateway]
        exact ⟨hconn, htimer⟩
      · obtain ⟨port, hgateway, -, -⟩ := deliver_gateway .deliver (Or.inl rfl) sys
        unfold StandsStill
        rw [hgateway]
        exact ⟨hconn, htimer⟩
  exact trace_invariant hstep (fun k => ⟨k, rfl⟩) ⟨rfl, rfl⟩ n

theorem fair_inTurn :
    Fair inTurn busySystem where
  iterates := fun n => ⟨3 * n, by omega, .still 0, by simp [inTurn, iterateAt]⟩
  answers := fun n _ =>
    ⟨3 * n + 1, by omega, .zero, by simp [inTurn, Nat.add_mod]⟩
  arrives := fun n _ =>
    ⟨3 * n + 2, by omega, by simp [inTurn, Nat.add_mod]⟩

/-- All that is pending is carried out, and the requests that the counters of
the unit lead to. -/
theorem busySystem_quiesces :
    busySystem.gateway.readEepromRequestIndex = 0xF80F ∧
      ∃ N, ∀ n, N ≤ n →
        eepromRequests (inTurn n) (trace systemStep inTurn busySystem n) = 0 ∧
          (trace systemStep inTurn busySystem n).gateway.readEepromRequestIndex = 0 := by
  have hstart : Synchronising busySystem .idle := by
    refine ⟨⟨rfl, rfl, by decide⟩, iff_of_true rfl rfl, ?_⟩
    intro k hk hk'
    have hclear : ∀ k < 11, 4 ≤ k → (0xF80F : BitVec 16).getLsbD k = false := by
      decide
    exact hclear k hk' hk
  have hunit : ∀ n, Undisturbed (inTurn n) (trace systemStep inTurn busySystem n) := by
    intro n
    unfold inTurn
    split
    · exact fun w hw => by cases hw
    · split
      · trivial
      · trivial
  exact ⟨rfl, (synchronisation_quiesces inTurn busySystem ⟨.idle, hstart⟩ hunit
    (fun n => (standsStill_inTurn n).1) fair_inTurn).2⟩

end UnitComm
end AvensysEsp32
