import AvensysEsp32.UnitComm.OneRequest
import AvensysEsp32.UnitComm.ReplyAcceptance

/-!
# What becomes of a section request

The scheduler clears a bit of `Read_Eeprom_Request_Index` when it sends the
request, and every recognised message and every error takes
`Eeprom_Data_received` down, whatever was asked for.  Beside the flight stands
the section request that no valid reply has answered yet.  It is dropped when
the unit is polled, or another section requested, while its bit is clear.
-/

namespace AvensysEsp32
namespace UnitComm

open Foundation Serial

/-! ## Section requests and their replies -/

/-- A request the scheduler has sent, and the bit it has cleared for it. -/
structure SectionRequest where
  bit : BitVec 16
  service : Service
deriving DecidableEq, Repr

/-- The section request that the scheduler sends, if any. -/
def scheduledRequest (s : UnitState) : Option SectionRequest :=
  if s.eepromDataReceived then none
  else
    match nextService s.readEepromRequestIndex with
    | some (_, _, .nothing) => none
    | some (bit, _, service) => some { bit := bit, service := service }
    | none => none

/-- The message in the buffer is a valid reply: it has the command and the start
address of the request, and a write was accepted. -/
def Service.repliedBy (buffer : Memory) : Service → Bool
  | .read sec =>
      buffer ihm1TypeComand = commandReadEeprom ∧
        buffer irsrAddrByteStartEep = UInt8.ofNat sec.startAddress
  | .write sec =>
      buffer ihm1TypeComand = commandWriteEeprom ∧
        buffer irswAddrByteStartEep = UInt8.ofNat sec.startAddress ∧
        buffer irswResultW = writeAccepted
  | .nothing => false

/-- The next call of `Read_Message` returns a valid reply to the request. -/
def SectionRequest.answered (request : SectionRequest) (s : UnitState) : Bool :=
  let message := readMessage s.port
  message.1 > runDownload ∧ request.service.repliedBy message.2.buffSer1

/-- The bit of the request is set. -/
def SectionRequest.due (request : SectionRequest) (index : BitVec 16) : Prop :=
  index &&& request.bit = request.bit

instance (request : SectionRequest) (index : BitVec 16) : Decidable (request.due index) :=
  inferInstanceAs (Decidable (_ = _))

/-! ## Runs -/

/-- The task in the middle of an iteration, and the section request that is
neither answered nor followed by another. -/
structure Tracked where
  flight : Flight
  request : Option SectionRequest

/-- What an iteration of the task does to the section request: the reception
may answer it, and the scheduler may send another. -/
def Tracked.follow (t : Tracked) : Option SectionRequest :=
  match t.flight.stage with
  | .receive => t.request.filter fun request => !request.answered t.flight.task
  | .scheduler => (scheduledRequest t.flight.task).or t.request
  | _ => t.request

def trackedStep (e : Event) (t : Tracked) : Tracked where
  flight := flightStep e t.flight
  request :=
    match e with
    | .iterate _ => t.follow
    | _ => t.request

/-- The task before its first iteration. -/
def Tracked.boot (device : DeviceIdentity) (firmwareBin : Option (List UInt8))
    (unitPartitionState : Bool) (millis : UInt32) : Tracked where
  flight := Flight.boot device firmwareBin unitPartitionState millis
  request := none

/-- The step polls the unit or requests a section. -/
def Resumes (e : Event) (f : Flight) : Prop :=
  (f.stage = .pollingRequest ∨ f.stage = .scheduler) ∧
    written f.task (flightStep e f).task ≠ []

instance (e : Event) (f : Flight) : Decidable (Resumes e f) :=
  inferInstanceAs (Decidable (_ ∧ _))

/-- While connected, the step polls the unit or requests a section, and a
section request is neither answered nor due again. -/
def Drops (e : Event) (t : Tracked) : Prop :=
  t.flight.task.wbmComState = .wbmConnected ∧ Resumes e t.flight ∧
    ∃ request ∈ t.request, ¬ request.due t.flight.task.readEepromRequestIndex

instance (e : Event) (t : Tracked) : Decidable (Drops e t) :=
  inferInstanceAs (Decidable (_ ∧ _ ∧ ∃ request ∈ t.request, _))

/-! ## What ends the wait for a section -/

/-- A message that ends the wait for a section is the valid reply, or the
section is due again, by a client's write or by the counters of the message. -/
def EndsAnswered (e : Event) (t : Tracked) : Prop :=
  match e with
  | .iterate _ =>
      t.flight.stage = .receive → t.flight.task.wbmComState = .wbmConnected →
        clearingMessage t.flight.task = true →
          ∀ request ∈ t.request, request.answered t.flight.task = true ∨
            request.due (t.flight.task.readEepromRequestIndex ||| readsAsked t.flight.task)
  | _ => True

instance (e : Event) (t : Tracked) : Decidable (EndsAnswered e t) :=
  match e with
  | .iterate _ => inferInstanceAs (Decidable (_ → _ → _ → ∀ request ∈ t.request, _ ∨ _))
  | .uartData _ | .clientWrite _ | .mqttReady _ | .unitUpdateTask _ | .firmwareStored _ =>
      isTrue trivial

theorem SectionRequest.due.or
    {request : SectionRequest} {index : BitVec 16}
    (h : request.due index) (more : BitVec 16) :
    request.due (index ||| more) := by
  unfold SectionRequest.due at *
  rw [BitVec.and_or_distrib_right, h]
  ext k
  simp

/-! ## Open requests -/

/-- The reply to the request is waited for, or the section is due again. -/
def SectionRequest.Open (request : SectionRequest) (s : UnitState) : Prop :=
  s.eepromDataReceived = true ∨ request.due s.readEepromRequestIndex

section Stages

variable (inp : IterationInput) {s : UnitState} {request : SectionRequest}

/-- A stage that sends at most the request of a timer. -/
theorem SectionRequest.Open.requested
    {frames : List (List UInt8)} {s' : UnitState}
    (h : request.Open s) (hstage : Requested frames s s') :
    request.Open s' := by
  rcases h with hflag | hdue
  · rcases hstage.sent with ⟨-, hsame⟩ | ⟨w, -, -, htrue, -⟩
    · exact Or.inl (hsame.trans hflag)
    · exact Or.inl htrue
  · right
    rw [hstage.index]
    exact hdue

theorem SectionRequest.Open.receive
    (h : request.Open s) (hconn : s.wbmComState = .wbmConnected)
    (hends : clearingMessage s = true →
      request.due (s.readEepromRequestIndex ||| readsAsked s)) :
    request.Open (receive inp s) := by
  unfold SectionRequest.Open
  rw [receive_index]
  have hflag := flagStep_receive inp (s := s)
  cases hclears : clearingMessage s with
  | true => exact Or.inr (hends hclears)
  | false =>
      rw [hclears] at hflag
      cases hflag with
      | silent hsend hsame =>
          rcases h with hwaited | hdue
          · exact Or.inl (hsame.trans hwaited)
          · exact Or.inr (hdue.or _)
      | requested w hsend hbefore hafter => exact Or.inl hafter
      | lost hsend hdown hlost =>
          rw [(sameControl_receive inp s).wbmComState, hconn] at hlost
          cases hlost

/-- When the scheduler sends, it waits for the reply. -/
theorem scheduler_of_request
    (hrequest : scheduledRequest s = some request) :
    (scheduler inp s).eepromDataReceived = true := by
  rcases scheduler_cases inp s with ⟨-, hnone⟩ | ⟨bit, mask, service, -, -, hrun⟩
  · exfalso
    unfold scheduledRequest at hrequest
    rcases hnone with hzero | hflag | hnone
    · have hnext : nextService 0 = none := by decide
      rw [hzero, hnext] at hrequest
      split at hrequest
      · cases hrequest
      · cases hrequest
    · rw [if_pos hflag] at hrequest
      cases hrequest
    · rw [hnone] at hrequest
      split at hrequest
      · cases hrequest
      · cases hrequest
  · rw [hrun]

theorem SectionRequest.Open.scheduler
    (h : request.Open s) :
    request.Open (scheduler inp s) := by
  rcases scheduler_cases inp s with ⟨hsame, -⟩ | ⟨bit, mask, service, -, -, hrun⟩
  · rw [hsame]
    exact h
  · left
    rw [hrun]

end Stages

/-! ## The invariant -/

/-- Once connected, the section request is open; before, there is none. -/
structure Undropped (t : Tracked) : Prop where
  flight : OneInFlight t.flight
  connecting : t.flight.task.wbmComState = .wbmInitialize ∨
    t.flight.task.wbmComState = .wbmCommunicating → t.request = none
  connected : t.flight.task.wbmComState = .wbmConnected →
    ∀ request ∈ t.request, request.Open t.flight.task

theorem undropped_boot
    (device : DeviceIdentity) (firmwareBin : Option (List UInt8))
    (unitPartitionState : Bool) (millis : UInt32) :
    Undropped (Tracked.boot device firmwareBin unitPartitionState millis) where
  flight := oneInFlight_boot device firmwareBin unitPartitionState millis
  connecting := fun _ => rfl
  connected := fun hconn => by cases hconn

section Invariant

variable {t : Tracked} (inp : IterationInput)

/-- A stage of an iteration leaves the section request open, unless it loses
the unit. -/
theorem Undropped.follow
    (h : Undropped t) (hends : EndsAnswered (.iterate inp) t)
    (hbefore : t.flight.task.wbmComState = .wbmConnected)
    (hconn : (t.flight.stage.run inp t.flight.task).wbmComState = .wbmConnected) :
    ∀ request ∈ t.follow, request.Open (t.flight.stage.run inp t.flight.task) := by
  have hopen := h.connected hbefore
  intro request hrequest
  unfold Tracked.follow at hrequest
  cases hstage : t.flight.stage with
  | unitUpdateTrigger =>
      rw [hstage] at hrequest
      obtain ⟨-, hindex, -, hflag, -⟩ := unitUpdateTrigger_link inp t.flight.task
      rcases hopen request hrequest with hwaited | hdue
      · exact Or.inl (hflag.trans hwaited)
      · exact Or.inr (hindex ▸ hdue)
  | clampLastReceived =>
      rw [hstage] at hrequest
      exact (hopen request hrequest).requested (requested_clampLastReceived inp _)
  | debugRequest =>
      rw [hstage] at hrequest
      exact (hopen request hrequest).requested (requested_debugRequest inp _)
  | pollingRequest =>
      rw [hstage] at hrequest
      exact (hopen request hrequest).requested (requested_pollingRequest inp _)
  | globalTimeout =>
      rw [hstage] at hrequest hconn
      simp only [IterationStage.run, globalTimeout] at hconn ⊢
      split at hconn
      · cases hconn
      · rename_i hexpired
        rw [if_neg hexpired]
        exact hopen request hrequest
  | receive =>
      rw [hstage] at hrequest
      obtain ⟨hmem, hunanswered⟩ := Option.mem_filter_iff.mp hrequest
      have hunanswered' : request.answered t.flight.task = false := by
        simpa using hunanswered
      refine (hopen request hmem).receive inp hbefore fun hclears => ?_
      rcases hends hstage hbefore hclears request hmem with hanswered | hdue
      · rw [hunanswered'] at hanswered
        cases hanswered
      · exact hdue
  | scheduler =>
      rw [hstage] at hrequest
      rcases Option.or_eq_some_iff.mp hrequest with hnew | ⟨-, hold⟩
      · exact Or.inl (scheduler_of_request inp hnew)
      · exact (hopen request hold).scheduler inp

/-- An iteration, or a stage of one. -/
theorem Undropped.goOn
    (h : Undropped t) (hends : EndsAnswered (.iterate inp) t) :
    Undropped (trackedStep (.iterate inp) t) := by
  have hflight := oneInFlight_flightStep (.iterate inp) h.flight
  by_cases hmiddle : t.flight.stage = .unitUpdateTrigger ∧
      t.flight.task.wbmComState ≠ .wbmConnected
  · have htask : (trackedStep (.iterate inp) t).flight.task =
        unitEventTask inp t.flight.task :=
      congrArg Flight.task (if_pos hmiddle)
    have hsame : (trackedStep (.iterate inp) t).request = t.request := by
      simp only [trackedStep, Tracked.follow, hmiddle.1]
    refine ⟨hflight, fun hcomm => ?_, fun hconn => ?_⟩
    · rw [htask] at hcomm
      rw [hsame]
      exact h.connecting (wbmComState_before inp hcomm)
    · rw [htask] at hconn
      obtain ⟨-, hcomm⟩ := sends_unitEventTask_of_connects inp t.flight.task hmiddle.2 hconn
      intro request hrequest
      rw [hsame, h.connecting (Or.inr hcomm)] at hrequest
      cases hrequest
  · have htask : (trackedStep (.iterate inp) t).flight.task =
        t.flight.stage.run inp t.flight.task :=
      congrArg Flight.task (if_neg hmiddle)
    refine ⟨hflight, fun hcomm => ?_, fun hconn => ?_⟩
    · exfalso
      rw [htask] at hcomm
      rcases t.flight.stage.run_wbmComState inp with hsame | hlost
      · rw [hsame] at hcomm
        refine hmiddle ⟨(h.flight.connecting hcomm).2, fun hconn => ?_⟩
        rw [hconn] at hcomm
        simp at hcomm
      · rw [hlost] at hcomm
        simp at hcomm
    · rw [htask] at hconn ⊢
      refine h.follow inp hends ?_ hconn
      rcases t.flight.stage.run_wbmComState inp with hsame | hlost
      · exact hsame.symm.trans hconn
      · rw [hlost] at hconn
        cases hconn

/-- What happens around the task clears no bit. -/
theorem SectionRequest.Open.around
    {request : SectionRequest} {s : UnitState} (h : request.Open s)
    {e : Event} (he : ∀ inp, e ≠ .iterate inp) :
    request.Open (step e s) := by
  rcases h with hwaited | hdue
  · exact Or.inl ((step_around he s).2.1.trans hwaited)
  · right
    cases e with
    | iterate inp => exact absurd rfl (he inp)
    | uartData data => exact hdue
    | clientWrite w =>
        rcases clientWrites_cases [w] s with ⟨hsame, -⟩ | ⟨-, hindex⟩
        · have hsame' : step (.clientWrite w) s = s := hsame
          rw [hsame']
          exact hdue
        · have hindex' : (step (.clientWrite w) s).readEepromRequestIndex =
              s.readEepromRequestIndex ||| fullEepromWrite := hindex
          rw [hindex']
          exact hdue.or _
    | mqttReady ready => exact hdue
    | unitUpdateTask running => exact hdue
    | firmwareStored content => exact hdue

theorem trackedStep_around
    {e : Event} (he : ∀ inp, e ≠ .iterate inp) (t : Tracked) :
    (trackedStep e t).flight.task = step e t.flight.task ∧
      (trackedStep e t).request = t.request := by
  cases e with
  | iterate inp => exact absurd rfl (he inp)
  | uartData data => exact ⟨rfl, rfl⟩
  | clientWrite w => exact ⟨rfl, rfl⟩
  | mqttReady ready => exact ⟨rfl, rfl⟩
  | unitUpdateTask running => exact ⟨rfl, rfl⟩
  | firmwareStored content => exact ⟨rfl, rfl⟩

/-- Every step that meets the condition keeps the invariant. -/
theorem undropped_trackedStep
    (e : Event) (t : Tracked) (hends : EndsAnswered e t) (h : Undropped t) :
    Undropped (trackedStep e t) := by
  by_cases he : ∃ inp, e = .iterate inp
  · obtain ⟨inp, rfl⟩ := he
    exact h.goOn inp hends
  · have he' : ∀ inp, e ≠ .iterate inp := fun inp heq => he ⟨inp, heq⟩
    obtain ⟨htask, hrequest⟩ := trackedStep_around he' t
    obtain ⟨-, -, hwbm, -⟩ := step_around he' t.flight.task
    refine ⟨oneInFlight_flightStep e h.flight, ?_, ?_⟩
    · rw [htask, hrequest, hwbm]
      exact h.connecting
    · rw [htask, hrequest, hwbm]
      intro hconn request hmem
      exact (h.connected hconn request hmem).around he'

/-- A step that drops a section request meets one that is not open. -/
theorem Undropped.not_drops
    (h : Undropped t) (e : Event) :
    ¬ Drops e t := by
  rintro ⟨hconn, ⟨-, hwritten⟩, request, hmem, hnotDue⟩
  obtain ⟨task, cleared, stage, hstep, hflag⟩ := flightStep_connected e h.flight hconn
  have htask : (flightStep e t.flight).task = task t.flight.task := by
    rw [hstep]
    rfl
  rw [htask] at hwritten
  rcases h.connected hconn request hmem with hwaited | hdue
  · cases hflag with
    | silent hsend hsame => exact hwritten (written_eq hsend)
    | requested w hsend hbefore hafter =>
        rw [hwaited] at hbefore
        cases hbefore
    | cleared hsend hdown => exact hwritten (written_eq hsend)
    | lost hsend hdown hlost => exact hwritten (written_eq hsend)
  · exact hnotDue hdue

end Invariant

/-- Where every message that ends the wait for a section is its valid reply, or
leaves the section due again, no step of the run drops a section request. -/
theorem section_request_not_dropped
    (device : DeviceIdentity) (firmwareBin : Option (List UInt8))
    (unitPartitionState : Bool) (millis : UInt32) (es : List Event)
    (hends : Along trackedStep EndsAnswered es
      (Tracked.boot device firmwareBin unitPartitionState millis)) (e : Event) :
    ¬ Drops e (run trackedStep es
      (Tracked.boot device firmwareBin unitPartitionState millis)) := by
  have hinv := Along.invariant undropped_trackedStep hends
    (undropped_boot device firmwareBin unitPartitionState millis)
  exact hinv.not_drops e

/-- A client's image makes a connected board write the first section, and the
unit gives the reply. -/
def firstSectionWritten (result : UInt8) : List Event :=
  untilConnected (fun _ => 0) ++
    [.clientWrite { overBle := false, payload := List.replicate 241 0 }] ++
    List.replicate 7 (iterateAt 0) ++
    [.uartData (writeEepromReply (fun _ => 0) 0 59 result)] ++
    List.replicate 13 (iterateAt 0)

theorem accepted_write_not_dropped :
    ¬ Drops (iterateAt 0) (run trackedStep (firstSectionWritten writeAccepted)
      (Tracked.boot .zeroMac none false 0)) := by
  have hends : Along trackedStep EndsAnswered (firstSectionWritten writeAccepted)
      (Tracked.boot .zeroMac none false 0) := by
    decide +kernel
  exact section_request_not_dropped .zeroMac none false 0 _ hends (iterateAt 0)

/-- The unit is busy (`'3'`), and the board goes on to the next section. -/
theorem busy_write_dropped :
    Drops (iterateAt 0) (run trackedStep (firstSectionWritten 51)
      (Tracked.boot .zeroMac none false 0)) := by
  decide +kernel

end UnitComm
end AvensysEsp32
