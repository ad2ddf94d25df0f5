import AvensysEsp32.UnitComm.LinkTimeout
import AvensysEsp32.UnitComm.Mirror

/-!
# One request in flight

`Eeprom_Data_received` is raised with every request that is sent once
connected, and lowered when a reply has been handled or a message rejected.
Here an iteration of the connected state is taken apart into its stages, and
what happens around the task may happen between any two of them.  Beside the
task stand the requests sent since the flag was last lowered: the flag tells
whether there is one, and there is never a second.
-/

namespace AvensysEsp32
namespace UnitComm

open Foundation Serial

/-! ## The stages of an iteration -/

/-- The stages of an iteration once connected, in the order of the source. -/
inductive IterationStage
  | unitUpdateTrigger
  | clampLastReceived
  | debugRequest
  | pollingRequest
  | globalTimeout
  | receive
  | scheduler
deriving DecidableEq, Repr

/-- The stage that follows; after the last the next iteration begins. -/
def IterationStage.next : IterationStage → IterationStage
  | unitUpdateTrigger => clampLastReceived
  | clampLastReceived => debugRequest
  | debugRequest => pollingRequest
  | pollingRequest => globalTimeout
  | globalTimeout => receive
  | receive => scheduler
  | scheduler => unitUpdateTrigger

def IterationStage.run (inp : IterationInput) : IterationStage → UnitState → UnitState
  | unitUpdateTrigger => UnitComm.unitUpdateTrigger inp
  | clampLastReceived => UnitComm.clampLastReceived inp
  | debugRequest => UnitComm.debugRequest inp
  | pollingRequest => UnitComm.pollingRequest inp
  | globalTimeout => UnitComm.globalTimeout inp
  | receive => UnitComm.receive inp
  | scheduler => UnitComm.scheduler inp

/-- The next call of `Read_Message` returns a frame with one of the four
commands, or an error. -/
def clearingMessage (s : UnitState) : Bool :=
  let message := readMessage s.port
  if message.1 > runDownload then (replyOf (message.2.buffSer1 ihm1TypeComand)).isSome
  else message.1 < 0

/-- The stage meets a message that ends the wait for a reply. -/
def IterationStage.clears : IterationStage → UnitState → Bool
  | receive, s => clearingMessage s
  | _, _ => false

/-! ## Requests in flight -/

/-- The task in the middle of an iteration, and the requests it has sent since
the last clearing event: a reply, an error, or the entry to the connected state. -/
structure Flight where
  task : UnitState
  /-- The stage that comes next. -/
  stage : IterationStage
  inFlight : List (List UInt8)

/-- The messages written between two states. -/
def written (s s' : UnitState) : List (List UInt8) :=
  (uartWrites s'.outputs).drop (uartWrites s.outputs).length

theorem written_eq
    {s s' : UnitState} {ws : List (List UInt8)}
    (h : Sends ws s s') :
    written s s' = ws := by
  unfold written
  rw [h, List.drop_left]

/-- The task runs up to the given stage. -/
def Flight.advance (run : UnitState → UnitState) (cleared : Bool) (stage : IterationStage)
    (f : Flight) : Flight where
  task := run f.task
  stage := stage
  inFlight := (if cleared then [] else f.inFlight) ++ written f.task (run f.task)

/-- The task goes on: by one stage in an iteration of the connected state, by a
whole iteration in the others. -/
def Flight.goOn (inp : IterationInput) (f : Flight) : Flight :=
  if f.stage = .unitUpdateTrigger ∧ f.task.wbmComState ≠ .wbmConnected then
    f.advance (unitEventTask inp)
      ((unitEventTask inp f.task).wbmComState = .wbmConnected) f.stage
  else f.advance (f.stage.run inp) (f.stage.clears f.task) f.stage.next

/-- The effect of an event on a task that may be in the middle of an iteration. -/
def flightStep (e : Event) (f : Flight) : Flight :=
  match e with
  | .iterate inp => f.goOn inp
  | e => f.advance (step e) false f.stage

/-- The task before its first iteration. -/
def Flight.boot (device : DeviceIdentity) (firmwareBin : Option (List UInt8))
    (unitPartitionState : Bool) (millis : UInt32) : Flight where
  task := UnitState.boot device firmwareBin unitPartitionState millis
  stage := .unitUpdateTrigger
  inFlight := []

/-- Seven stages make up an iteration of the connected state. -/
theorem run_flightStep_connected
    (inp : IterationInput) {f : Flight}
    (hstage : f.stage = .unitUpdateTrigger)
    (hconn : f.task.wbmComState = .wbmConnected) :
    (run flightStep (List.replicate 7 (.iterate inp)) f).task = unitEventTask inp f.task ∧
      (run flightStep (List.replicate 7 (.iterate inp)) f).stage = .unitUpdateTrigger := by
  obtain ⟨task, stage, inFlight⟩ := f
  dsimp only at hstage hconn
  subst hstage
  have htask : unitEventTask inp task = connectedIteration inp task := by
    simp only [unitEventTask, hconn]
  rw [htask]
  simp [flightStep, Flight.goOn, Flight.advance, hconn, IterationStage.next, IterationStage.run,
    connectedIteration, beforeReceive]

/-- Every run of whole iterations is a run of stages. -/
theorem exists_run_flightStep
    (es : List Event) {f : Flight} (hstage : f.stage = .unitUpdateTrigger) :
    ∃ fs, (run flightStep fs f).task = run step es f.task ∧
      (run flightStep fs f).stage = .unitUpdateTrigger := by
  have hone : ∀ (e : Event) (f : Flight), f.stage = .unitUpdateTrigger →
      ∃ fs, (run flightStep fs f).task = step e f.task ∧
        (run flightStep fs f).stage = .unitUpdateTrigger := by
    intro e f hstage
    cases e with
    | iterate inp =>
        by_cases hconn : f.task.wbmComState = .wbmConnected
        · exact ⟨_, run_flightStep_connected inp hstage hconn⟩
        · have hgoOn : flightStep (.iterate inp) f = f.advance (unitEventTask inp)
              ((unitEventTask inp f.task).wbmComState = .wbmConnected) f.stage :=
            if_pos ⟨hstage, hconn⟩
          refine ⟨[.iterate inp], ?_, ?_⟩
          · rw [run_cons, run_nil, hgoOn]
            rfl
          · rw [run_cons, run_nil, hgoOn]
            exact hstage
    | uartData data => exact ⟨[.uartData data], rfl, hstage⟩
    | clientWrite w => exact ⟨[.clientWrite w], rfl, hstage⟩
    | mqttReady ready => exact ⟨[.mqttReady ready], rfl, hstage⟩
    | unitUpdateTask running => exact ⟨[.unitUpdateTask running], rfl, hstage⟩
    | firmwareStored content => exact ⟨[.firmwareStored content], rfl, hstage⟩
  induction es generalizing f with
  | nil => exact ⟨[], rfl, hstage⟩
  | cons e es ih =>
      obtain ⟨fs, htask, hstage'⟩ := hone e f hstage
      obtain ⟨fs', htask', hstage''⟩ := ih hstage'
      refine ⟨fs ++ fs', ?_, ?_⟩
      · rw [run_append, htask', htask]
        rfl
      · rw [run_append]
        exact hstage''

/-! ## What a step does to the flag -/

/-- What a step of the connected task does to the flag, the last index telling
whether it meets a message that ends the wait. -/
inductive FlagStep (s s' : UnitState) : Bool → Prop
  | silent (hsend : Sends [] s s')
      (hflag : s'.eepromDataReceived = s.eepromDataReceived) : FlagStep s s' false
  | requested (w : List UInt8) (hsend : Sends [w] s s')
      (hbefore : s.eepromDataReceived = false)
      (hafter : s'.eepromDataReceived = true) : FlagStep s s' false
  | cleared (hsend : Sends [] s s')
      (hflag : s'.eepromDataReceived = false) : FlagStep s s' true
  | lost (hsend : Sends [] s s')
      (hflag : s'.eepromDataReceived = false)
      (hlost : s'.wbmComState = .wbmError) : FlagStep s s' false

/-- The flag tells whether a request is in flight. -/
def FlagTells (f : Flight) : Prop :=
  (f.task.eepromDataReceived = false ∧ f.inFlight = []) ∨
    (f.task.eepromDataReceived = true ∧ ∃ w, f.inFlight = [w])

theorem FlagTells.iff
    {f : Flight} (h : FlagTells f) :
    (f.task.eepromDataReceived = true ↔ f.inFlight.length = 1) ∧
      (f.task.eepromDataReceived = false ↔ f.inFlight.length = 0) := by
  rcases h with ⟨hflag, hnone⟩ | ⟨hflag, w, hone⟩
  · simp [hflag, hnone]
  · simp [hflag, hone]

section Advance

variable {f : Flight} {task : UnitState → UnitState} {cleared : Bool} {stage : IterationStage}

/-- A step after which the task is still connected. -/
theorem FlagTells.advance
    (h : FlagTells f) (hstep : FlagStep f.task (task f.task) cleared)
    (hconn : (task f.task).wbmComState = .wbmConnected) :
    FlagTells (f.advance task cleared stage) := by
  cases hstep with
  | silent hsend hflag =>
      unfold FlagTells Flight.advance
      dsimp only
      rw [written_eq hsend, hflag, if_neg Bool.false_ne_true, List.append_nil]
      exact h
  | requested w hsend hbefore hafter =>
      have hnone : f.inFlight = [] := by
        rcases h with ⟨-, hnone⟩ | ⟨htrue, -⟩
        · exact hnone
        · rw [hbefore] at htrue
          cases htrue
      refine Or.inr ⟨hafter, w, ?_⟩
      unfold Flight.advance
      dsimp only
      rw [written_eq hsend, hnone]
      rfl
  | cleared hsend hflag =>
      refine Or.inl ⟨hflag, ?_⟩
      unfold Flight.advance
      dsimp only
      rw [written_eq hsend]
      rfl
  | lost hsend hflag hlost =>
      rw [hlost] at hconn
      cases hconn

/-- No step sends a request while another one is in flight. -/
theorem FlagTells.length_advance_le
    (h : FlagTells f) (hstep : FlagStep f.task (task f.task) cleared) :
    (f.advance task cleared stage).inFlight.length ≤ 1 := by
  have hle : f.inFlight.length ≤ 1 := by
    rcases h with ⟨-, hnone⟩ | ⟨-, w, hone⟩
    · simp [hnone]
    · simp [hone]
  unfold Flight.advance
  dsimp only
  cases hstep with
  | silent hsend hflag =>
      rw [written_eq hsend]
      simpa using hle
  | requested w hsend hbefore hafter =>
      have hnone : f.inFlight = [] := by
        rcases h with ⟨-, hnone⟩ | ⟨htrue, -⟩
        · exact hnone
        · rw [hbefore] at htrue
          cases htrue
      rw [written_eq hsend, hnone]
      exact le_rfl
  | cleared hsend hflag =>
      rw [written_eq hsend]
      exact Nat.zero_le 1
  | lost hsend hflag hlost =>
      rw [written_eq hsend]
      simpa using hle

/-- The flag is raised with a request only. -/
theorem FlagTells.length_advance_of_raised
    (h : FlagTells f) (hstep : FlagStep f.task (task f.task) cleared)
    (hbefore : f.task.eepromDataReceived = false)
    (hafter : (task f.task).eepromDataReceived = true) :
    (f.advance task cleared stage).inFlight.length = 1 := by
  have hnone : f.inFlight = [] := by
    rcases h with ⟨-, hnone⟩ | ⟨htrue, -⟩
    · exact hnone
    · rw [hbefore] at htrue
      cases htrue
  cases hstep with
  | silent hsend hflag =>
      rw [hflag, hbefore] at hafter
      cases hafter
  | requested w hsend _ _ =>
      unfold Flight.advance
      dsimp only
      rw [written_eq hsend, hnone]
      rfl
  | cleared hsend hflag =>
      rw [hflag] at hafter
      cases hafter
  | lost hsend hflag hlost =>
      rw [hflag] at hafter
      cases hafter

end Advance

/-! ## The request bits -/

/-- The bits whose requests are commented out are clear. -/
def NoSilentService (index : BitVec 16) : Prop :=
  ∀ k, 4 ≤ k → k < 11 → index.getLsbD k = false

theorem NoSilentService.mono
    {index index' : BitVec 16} (h : NoSilentService index)
    (hle : ∀ k, 4 ≤ k → k < 11 → index'.getLsbD k = true → index.getLsbD k = true) :
    NoSilentService index' := by
  intro k hk hk'
  rw [Bool.eq_false_iff]
  intro hset
  have hbefore := hle k hk hk' hset
  rw [h k hk hk'] at hbefore
  cases hbefore

/-- The other bits ask for a request each. -/
theorem NoSilentService.serviceFrames
    {index bit mask : BitVec 16} {service : Service}
    (h : NoSilentService index) (hnext : nextService index = some (bit, mask, service))
    (m : Memory) :
    ∃ w, serviceFrames service m = [w] := by
  have hmem : (bit, mask, service) ∈ schedule := List.mem_of_find?_eq_some hnext
  have hset : index &&& bit = bit := by
    simpa using List.find?_some hnext
  cases service with
  | read sec => exact ⟨_, rfl⟩
  | write sec =>
      cases sec with
      | configuration =>
          have hnone : ∀ entry ∈ schedule, entry.2.2 ≠ .write .configuration := by
            decide
          exact absurd rfl (hnone _ hmem)
      | info => exact ⟨_, rfl⟩
      | settingPar => exact ⟨_, rfl⟩
      | setTemp => exact ⟨_, rfl⟩
      | dayProg => exact ⟨_, rfl⟩
      | hwSetting => exact ⟨_, rfl⟩
  | nothing =>
      have hbits : ∀ entry ∈ schedule, entry.2.2 = .nothing →
          ∃ k, k < 11 ∧ 4 ≤ k ∧ entry.1.getLsbD k = true := by
        decide
      obtain ⟨k, hk', hk, hbit⟩ := hbits _ hmem rfl
      have hindex : index.getLsbD k = true := by
        rw [← hset, BitVec.getLsbD_and, Bool.and_eq_true] at hbit
        exact hbit.1
      rw [h k hk hk'] at hindex
      cases hindex

/-- A client asks for writes only. -/
theorem getLsbD_or_fullEepromWrite
    (index : BitVec 16) {k : Nat} (hk : k < 11) :
    (index ||| fullEepromWrite).getLsbD k = index.getLsbD k := by
  have hclear : ∀ k < 11, fullEepromWrite.getLsbD k = false := by
    decide
  rw [BitVec.getLsbD_or, hclear k hk, Bool.or_false]

theorem NoSilentService.clientWrites
    {s : UnitState} (h : NoSilentService s.readEepromRequestIndex) (ws : List ClientWrite) :
    NoSilentService (ws.foldl (fun s w => clientWrite w s) s).readEepromRequestIndex := by
  rcases clientWrites_cases ws s with ⟨hsame, -⟩ | ⟨-, hindex⟩
  · rw [hsame]
    exact h
  · rw [hindex]
    exact h.mono fun k _ hk' hset => by rwa [getLsbD_or_fullEepromWrite _ hk'] at hset

/-! ## The stages -/

section Stages

variable (inp : IterationInput) {s : UnitState}

theorem FlagStep.of_requested
    {frames : List (List UInt8)} {s' : UnitState} (h : Requested frames s s') :
    FlagStep s s' false := by
  rcases h.sent with ⟨hout, hflag⟩ | ⟨w, -, hbefore, hafter, hout⟩
  · exact .silent (sends_of_outputs_eq hout) hflag
  · exact .requested w (sends_of_append hout) hbefore hafter

theorem flagStep_globalTimeout :
    FlagStep s (globalTimeout inp s) false := by
  unfold globalTimeout
  split
  · exact .lost (sends_of_outputs_eq rfl) rfl rfl
  · exact .silent (sends_of_outputs_eq rfl) rfl

theorem flagStep_receive :
    FlagStep s (receive inp s) (clearingMessage s) := by
  have hsend := sends_receive inp s
  have hcase := receive_case inp s
  unfold clearingMessage
  dsimp only
  generalize receive inp s = s' at hcase hsend
  cases hcase with
  | @reply reply hgt hreply =>
      rw [if_pos hgt, hreply]
      exact .cleared hsend (handleReply_line inp _ reply).1
  | unknown hgt hnone =>
      rw [if_pos hgt, hnone]
      exact .silent hsend rfl
  | rejected hneg =>
      rw [if_neg (not_lt.mpr (le_runDownload_of_neg hneg)), decide_eq_true hneg]
      exact .cleared hsend rfl
  | nothing hle hnonneg =>
      rw [if_neg (not_lt.mpr hle), decide_eq_false (not_lt.mpr hnonneg)]
      exact .silent hsend rfl

theorem flagStep_scheduler
    (h : NoSilentService s.readEepromRequestIndex) :
    FlagStep s (scheduler inp s) false := by
  rcases scheduler_cases inp s with ⟨hsame, -⟩ | ⟨bit, mask, service, hflag, hnext, hrun⟩
  · rw [hsame]
    exact .silent (sends_of_outputs_eq rfl) rfl
  · obtain ⟨w, hframes⟩ := h.serviceFrames hnext s.gRDEeprom
    have hsend : Sends (serviceFrames service s.gRDEeprom) s (scheduler inp s) := by
      rw [hrun]
      exact (sends_sendService inp s service).then_silent
        (sends_clientWrites (sendService inp service s) inp.duringTx)
    rw [hframes] at hsend
    refine .requested w hsend hflag ?_
    rw [hrun]

/-- Each stage lowers the flag with a message that ends the wait, raises it
with a request, or leaves it alone. -/
theorem IterationStage.flagStep
    (stage : IterationStage) (h : NoSilentService s.readEepromRequestIndex) :
    FlagStep s (stage.run inp s) (stage.clears s) := by
  cases stage with
  | unitUpdateTrigger =>
      exact .silent (sends_unitUpdateTrigger inp s) (unitUpdateTrigger_link inp s).2.2.2.1
  | clampLastReceived => exact .of_requested (requested_clampLastReceived inp s)
  | debugRequest => exact .of_requested (requested_debugRequest inp s)
  | pollingRequest => exact .of_requested (requested_pollingRequest inp s)
  | globalTimeout => exact flagStep_globalTimeout inp
  | receive => exact flagStep_receive inp
  | scheduler => exact flagStep_scheduler inp h

theorem IterationStage.run_wbmComState (stage : IterationStage) :
    (stage.run inp s).wbmComState = s.wbmComState ∨
      (stage.run inp s).wbmComState = .wbmError := by
  cases stage with
  | unitUpdateTrigger => exact Or.inl (unitUpdateTrigger_link inp s).1
  | clampLastReceived => exact Or.inl (requested_clampLastReceived inp s).wbmComState
  | debugRequest => exact Or.inl (requested_debugRequest inp s).wbmComState
  | pollingRequest => exact Or.inl (requested_pollingRequest inp s).wbmComState
  | globalTimeout =>
      simp only [IterationStage.run, UnitComm.globalTimeout]
      split
      · exact Or.inr rfl
      · exact Or.inl rfl
  | receive => exact Or.inl (sameControl_receive inp s).wbmComState
  | scheduler => exact Or.inl (sameButImage_scheduler inp s).wbmComState

theorem NoSilentService.stage
    (h : NoSilentService s.readEepromRequestIndex) (stage : IterationStage) :
    NoSilentService (stage.run inp s).readEepromRequestIndex := by
  cases stage with
  | unitUpdateTrigger =>
      have hindex := (unitUpdateTrigger_link inp s).2.1
      exact hindex ▸ h
  | clampLastReceived => exact (requested_clampLastReceived inp s).index ▸ h
  | debugRequest => exact (requested_debugRequest inp s).index ▸ h
  | pollingRequest => exact (requested_pollingRequest inp s).index ▸ h
  | globalTimeout =>
      simp only [IterationStage.run, UnitComm.globalTimeout]
      split
      · exact fun k _ _ => BitVec.getLsbD_zero
      · exact h
  | receive => exact h.mono fun k hk _ hset => receive_index_le inp s hk hset
  | scheduler =>
      simp only [IterationStage.run]
      rcases scheduler_cases inp s with ⟨hsame, -⟩ | ⟨bit, mask, service, -, -, hrun⟩
      · rw [hsame]
        exact h
      · rw [hrun]
        have hservice : NoSilentService (sendService inp service s).readEepromRequestIndex := by
          rw [(sendService_image inp s service).2]
          exact h
        refine (hservice.clientWrites inp.duringTx).mono fun k _ _ hset => ?_
        rw [BitVec.getLsbD_and, Bool.and_eq_true] at hset
        exact hset.1

end Stages

/-! ## Before the connection -/

/-- Two states with the same flag and the same request bits but those for reads. -/
structure SameRequest (s s' : UnitState) : Prop where
  eepromDataReceived : s'.eepromDataReceived = s.eepromDataReceived
  index : ∀ k, 4 ≤ k → s'.readEepromRequestIndex.getLsbD k = true →
    s.readEepromRequestIndex.getLsbD k = true

section Connecting

variable (inp : IterationInput) (s : UnitState)

theorem sameRequest_awaitReply
    (reply : UnitState → UnitState) (hreply : ∀ s, SameRequest s (reply s)) :
    SameRequest s (awaitReply inp reply s) := by
  have hcase := awaitReply_case inp s reply
  generalize awaitReply inp reply s = s' at hcase ⊢
  cases hcase with
  | lost _ => exact ⟨rfl, fun _ _ hset => hset⟩
  | replied _ _ =>
      have h := hreply
        { s with valRet := (readMessage s.port).1, port := (readMessage s.port).2 }
      exact ⟨h.eepromDataReceived, h.index⟩
  | waiting _ _ => exact ⟨rfl, fun _ _ hset => hset⟩

theorem sameRequest_connected :
    SameRequest s (connected inp s) := by
  refine ⟨?_, fun k hk hset => ?_⟩
  · obtain ⟨outputs, -, heq⟩ := connected_eq inp s
    rw [heq]
  · rw [(connected_image inp s).2] at hset
    exact getLsbD_or_changeRequests _ _ _ hk hset

theorem connectToUnit_eepromDataReceived_link :
    (linkConnecting inp s).eepromDataReceived = s.eepromDataReceived ∧
      (trySerialLink inp s).eepromDataReceived = s.eepromDataReceived := by
  constructor
  · have hcase := linkConnecting_case inp s
    generalize linkConnecting inp s = s' at hcase ⊢
    cases hcase with
    | sent _ => rfl
    | silent _ => rfl
  · have hcase := trySerialLink_case inp s
    generalize trySerialLink inp s = s' at hcase ⊢
    cases hcase with
    | anew _ _ => rfl
    | again _ _ => rfl
    | read _ _ _ => rfl

theorem bootloader_eepromDataReceived :
    (bootloaderState inp s).eepromDataReceived = s.eepromDataReceived ∧
      (bootloaderState1 s).eepromDataReceived = s.eepromDataReceived := by
  constructor
  · have hcase := bootloaderState_case inp s
    generalize bootloaderState inp s = s' at hcase ⊢
    cases hcase with
    | held _ => rfl
    | header _ _ _ _ => rfl
  · have hcase := bootloaderState1_case s
    generalize bootloaderState1 s = s' at hcase ⊢
    cases hcase with
    | waiting _ => rfl
    | acknowledged _ _ _ _ _ _ => rfl

theorem sameRequest_connectToUnit :
    SameRequest s (connectToUnit inp s) := by
  have hsame : ∀ {s' : UnitState}, s'.eepromDataReceived = s.eepromDataReceived →
      s'.readEepromRequestIndex = s.readEepromRequestIndex → SameRequest s s' :=
    fun hflag hindex => ⟨hflag, fun _ _ hset => hindex ▸ hset⟩
  have hreply : ∀ reply : UnitState → UnitState,
      (∀ s, (reply s).eepromDataReceived = s.eepromDataReceived) →
      (∀ s, (reply s).readEepromRequestIndex = s.readEepromRequestIndex) →
        SameRequest s (awaitReply inp reply s) := by
    intro reply hflag hindex
    exact sameRequest_awaitReply inp s reply fun s =>
      ⟨hflag s, fun _ _ hset => hindex s ▸ hset⟩
  unfold connectToUnit
  cases s.currentState with
  | init => exact hsame rfl rfl
  | linkConnecting =>
      exact hsame (connectToUnit_eepromDataReceived_link inp s).1 (link_image inp s).1.2
  | trySerialLink =>
      exact hsame (connectToUnit_eepromDataReceived_link inp s).2 (link_image inp s).2.2
  | linkConnected => exact hsame rfl rfl
  | readEepromInfo => exact hreply _ (fun _ => rfl) fun _ => rfl
  | readEepromConfiguration => exact hreply _ (fun _ => rfl) fun _ => rfl
  | readEepromSettingPar => exact hreply _ (fun _ => rfl) fun _ => rfl
  | readEepromSetTemp => exact hreply _ (fun _ => rfl) fun _ => rfl
  | readEepromDayProg => exact hreply _ (fun _ => rfl) fun _ => rfl
  | readEepromHwSetting => exact hreply _ (fun _ => rfl) fun _ => rfl
  | pollingBase => exact hreply _ (fun _ => rfl) fun _ => rfl
  | connected => exact sameRequest_connected inp s
  | bootloaderState =>
      exact hsame (bootloader_eepromDataReceived inp s).1 (bootloader_image inp s).1.2
  | bootloaderState1 =>
      exact hsame (bootloader_eepromDataReceived inp s).2 (bootloader_image inp s).2.2
  | bootloaderStateEnd => exact hsame rfl rfl

/-- An iteration that finds the task unconnected. -/
theorem sameRequest_unitEventTask
    (hs : s.wbmComState ≠ .wbmConnected) :
    SameRequest s (unitEventTask inp s) := by
  unfold unitEventTask
  cases hwbm : s.wbmComState with
  | wbmInitialize => exact ⟨rfl, fun _ _ hset => hset⟩
  | wbmCommunicating => exact sameRequest_connectToUnit inp s
  | wbmConnected => exact absurd hwbm hs
  | wbmError => exact ⟨rfl, fun _ _ hset => hset⟩

/-- The iteration that connects sends nothing. -/
theorem sends_unitEventTask_of_connects
    (hs : s.wbmComState ≠ .wbmConnected)
    (hconn : (unitEventTask inp s).wbmComState = .wbmConnected) :
    Sends [] s (unitEventTask inp s) ∧ s.wbmComState = .wbmCommunicating := by
  cases hwbm : s.wbmComState with
  | wbmInitialize =>
      simp [unitEventTask, hwbm, UnitState.emitAll] at hconn
  | wbmCommunicating =>
      have htask : unitEventTask inp s = connectToUnit inp s := by
        simp only [unitEventTask, hwbm]
      rw [htask] at hconn ⊢
      have hstate := ((handshakeTimers_connectToUnit inp hwbm).connected hconn).1
      have hconnect : connectToUnit inp s = connected inp s := by
        simp only [connectToUnit, hstate]
      rw [hconnect]
      exact ⟨sends_connected inp s, rfl⟩
  | wbmConnected => exact absurd hwbm hs
  | wbmError =>
      simp [unitEventTask, hwbm, UnitState.emitAll] at hconn

end Connecting

/-! ## The invariant -/

/-- Once connected the flag tells whether a request is in flight; before, it is
down, and the task is between two iterations. -/
structure OneInFlight (f : Flight) : Prop where
  services : NoSilentService f.task.readEepromRequestIndex
  connecting : f.task.wbmComState = .wbmInitialize ∨ f.task.wbmComState = .wbmCommunicating →
    f.task.eepromDataReceived = false ∧ f.stage = .unitUpdateTrigger
  connected : f.task.wbmComState = .wbmConnected → FlagTells f

theorem oneInFlight_boot
    (device : DeviceIdentity) (firmwareBin : Option (List UInt8))
    (unitPartitionState : Bool) (millis : UInt32) :
    OneInFlight (Flight.boot device firmwareBin unitPartitionState millis) where
  services := fun _ _ _ => BitVec.getLsbD_zero
  connecting := fun _ => ⟨rfl, rfl⟩
  connected := fun hconn => by cases hconn

section Invariant

variable {f : Flight} (inp : IterationInput)

/-- A whole iteration that finds the task unconnected. -/
theorem OneInFlight.goOn_unconnected
    (h : OneInFlight f) (hstage : f.stage = .unitUpdateTrigger)
    (hs : f.task.wbmComState ≠ .wbmConnected) :
    OneInFlight (f.goOn inp) := by
  have hgoOn : f.goOn inp = f.advance (unitEventTask inp)
      ((unitEventTask inp f.task).wbmComState = .wbmConnected) f.stage :=
    if_pos ⟨hstage, hs⟩
  have hsame := sameRequest_unitEventTask inp f.task hs
  rw [hgoOn]
  refine ⟨?_, ?_, ?_⟩
  · exact h.services.mono fun k hk _ hset => hsame.index k hk hset
  · intro hcomm
    obtain ⟨hflag, -⟩ := h.connecting (wbmComState_before inp hcomm)
    exact ⟨hsame.eepromDataReceived.trans hflag, hstage⟩
  · intro hconn
    have hconn' : (unitEventTask inp f.task).wbmComState = .wbmConnected := hconn
    obtain ⟨hsend, hcomm⟩ := sends_unitEventTask_of_connects inp f.task hs hconn'
    obtain ⟨hflag, -⟩ := h.connecting (Or.inr hcomm)
    refine Or.inl ⟨hsame.eepromDataReceived.trans hflag, ?_⟩
    unfold Flight.advance
    dsimp only
    rw [written_eq hsend, hconn']
    rfl

/-- A stage of an iteration. -/
theorem OneInFlight.goOn_stage
    (h : OneInFlight f)
    (hmiddle : ¬ (f.stage = .unitUpdateTrigger ∧ f.task.wbmComState ≠ .wbmConnected)) :
    OneInFlight (f.goOn inp) := by
  have hgoOn : f.goOn inp =
      f.advance (f.stage.run inp) (f.stage.clears f.task) f.stage.next :=
    if_neg hmiddle
  rw [hgoOn]
  refine ⟨h.services.stage inp f.stage, ?_, ?_⟩
  · intro hcomm
    exfalso
    have hcomm' : (f.stage.run inp f.task).wbmComState = .wbmInitialize ∨
        (f.stage.run inp f.task).wbmComState = .wbmCommunicating := hcomm
    rcases f.stage.run_wbmComState inp with hsame | hlost
    · rw [hsame] at hcomm'
      refine hmiddle ⟨(h.connecting hcomm').2, ?_⟩
      rcases hcomm' with hwbm | hwbm
      · rw [hwbm]
        decide
      · rw [hwbm]
        decide
    · rw [hlost] at hcomm'
      rcases hcomm' with hwbm | hwbm
      · cases hwbm
      · cases hwbm
  · intro hconn
    have hconn' : (f.stage.run inp f.task).wbmComState = .wbmConnected := hconn
    have hbefore : f.task.wbmComState = .wbmConnected := by
      rcases f.stage.run_wbmComState inp with hsame | hlost
      · exact hsame.symm.trans hconn'
      · rw [hlost] at hconn'
        cases hconn'
    exact (h.connected hbefore).advance (f.stage.flagStep inp h.services) hconn'

/-- What happens around the task touches neither its control nor the flag. -/
theorem step_around
    {e : Event} (he : ∀ inp, e ≠ .iterate inp) (s : UnitState) :
    Sends [] s (step e s) ∧ (step e s).eepromDataReceived = s.eepromDataReceived ∧
      (step e s).wbmComState = s.wbmComState ∧
      (NoSilentService s.readEepromRequestIndex →
        NoSilentService (step e s).readEepromRequestIndex) := by
  cases e with
  | iterate inp => exact absurd rfl (he inp)
  | uartData data => exact ⟨sends_of_outputs_eq rfl, rfl, rfl, fun h => h⟩
  | clientWrite w =>
      have hsame := sameButImage_clientWrite w s
      exact ⟨sends_clientWrite s w, hsame.eepromDataReceived, hsame.wbmComState,
        fun h => h.clientWrites [w]⟩
  | mqttReady ready => exact ⟨sends_of_outputs_eq rfl, rfl, rfl, fun h => h⟩
  | unitUpdateTask running => exact ⟨sends_of_outputs_eq rfl, rfl, rfl, fun h => h⟩
  | firmwareStored content => exact ⟨sends_of_outputs_eq rfl, rfl, rfl, fun h => h⟩

theorem flightStep_around
    {e : Event} (he : ∀ inp, e ≠ .iterate inp) (f : Flight) :
    flightStep e f = f.advance (step e) false f.stage := by
  cases e with
  | iterate inp => exact absurd rfl (he inp)
  | uartData data => rfl
  | clientWrite w => rfl
  | mqttReady ready => rfl
  | unitUpdateTask running => rfl
  | firmwareStored content => rfl

/-- A step from a connected state, as a step of the flag. -/
theorem flightStep_connected
    (e : Event) (h : OneInFlight f) (hconn : f.task.wbmComState = .wbmConnected) :
    ∃ task cleared stage, flightStep e f = f.advance task cleared stage ∧
      FlagStep f.task (task f.task) cleared := by
  by_cases he : ∃ inp, e = .iterate inp
  · obtain ⟨inp, rfl⟩ := he
    exact ⟨_, _, _, if_neg fun hmiddle => hmiddle.2 hconn, f.stage.flagStep inp h.services⟩
  · have he' : ∀ inp, e ≠ .iterate inp := fun inp heq => he ⟨inp, heq⟩
    obtain ⟨hsend, hflag, -, -⟩ := step_around he' f.task
    exact ⟨_, _, _, flightStep_around he' f, .silent hsend hflag⟩

/-- Every step keeps the invariant. -/
theorem oneInFlight_flightStep
    (e : Event) (h : OneInFlight f) :
    OneInFlight (flightStep e f) := by
  by_cases he : ∃ inp, e = .iterate inp
  · obtain ⟨inp, rfl⟩ := he
    by_cases hmiddle : f.stage = .unitUpdateTrigger ∧ f.task.wbmComState ≠ .wbmConnected
    · exact h.goOn_unconnected inp hmiddle.1 hmiddle.2
    · exact h.goOn_stage inp hmiddle
  · have he' : ∀ inp, e ≠ .iterate inp := fun inp heq => he ⟨inp, heq⟩
    obtain ⟨hsend, hflag, hwbm, hservices⟩ := step_around he' f.task
    rw [flightStep_around he' f]
    refine ⟨hservices h.services, ?_, ?_⟩
    · intro hcomm
      obtain ⟨hdown, hstage⟩ := h.connecting (hwbm ▸ hcomm)
      exact ⟨hflag.trans hdown, hstage⟩
    · intro hconn
      have hconn' : (step e f.task).wbmComState = .wbmConnected := hconn
      exact (h.connected (hwbm ▸ hconn)).advance (.silent hsend hflag) hconn'

end Invariant

theorem oneInFlight_run
    (es : List Event) {f : Flight} (h : OneInFlight f) :
    OneInFlight (run flightStep es f) := by
  induction es generalizing f with
  | nil => exact h
  | cons e es ih => exact ih (oneInFlight_flightStep e h)

/-- Once connected, at any point of any run, the flag is up exactly when one
request has been sent since the last clearing event, and down exactly when none
has.  The next step leaves one at most, and if it raises the flag, one.  The
runs of whole iterations are among these runs. -/
theorem one_request_in_flight
    (device : DeviceIdentity) (firmwareBin : Option (List UInt8))
    (unitPartitionState : Bool) (millis : UInt32) (es : List Event) (e : Event)
    (hconn : (run flightStep es
      (Flight.boot device firmwareBin unitPartitionState millis)).task.wbmComState =
        .wbmConnected) :
    let f := run flightStep es (Flight.boot device firmwareBin unitPartitionState millis)
    (f.task.eepromDataReceived = true ↔ f.inFlight.length = 1) ∧
      (f.task.eepromDataReceived = false ↔ f.inFlight.length = 0) ∧
      (flightStep e f).inFlight.length ≤ 1 ∧
      (f.task.eepromDataReceived = false → (flightStep e f).task.eepromDataReceived = true →
        (flightStep e f).inFlight.length = 1) ∧
      ∀ whole : List Event, ∃ stages : List Event,
        (run flightStep stages
            (Flight.boot device firmwareBin unitPartitionState millis)).task =
          run step whole (UnitState.boot device firmwareBin unitPartitionState millis) := by
  have hinv := oneInFlight_run es
    (oneInFlight_boot device firmwareBin unitPartitionState millis)
  intro f
  have htells : FlagTells f := hinv.connected hconn
  obtain ⟨task, cleared, stage, hstep, hflag⟩ := flightStep_connected e hinv hconn
  have hstep' : flightStep e f = f.advance task cleared stage := hstep
  rw [hstep']
  refine ⟨htells.iff.1, htells.iff.2, htells.length_advance_le hflag,
    fun hbefore hafter => htells.length_advance_of_raised hflag hbefore hafter, fun whole => ?_⟩
  obtain ⟨stages, htask, -⟩ := exists_run_flightStep whole
    (f := Flight.boot device firmwareBin unitPartitionState millis) rfl
  exact ⟨stages, htask⟩

/-- Five seconds after it has connected, a fresh board asks a unit that is off
for its data. -/
def untilPollingSent : List Event :=
  untilConnected (fun _ => 0) ++ List.replicate 4 (iterateAt 5000)

theorem polled_one_in_flight :
    (run flightStep untilPollingSent
        (Flight.boot .zeroMac none false 0)).task.eepromDataReceived = true ∧
      (run flightStep untilPollingSent
        (Flight.boot .zeroMac none false 0)).inFlight.length = 1 := by
  obtain ⟨hconn, hflag⟩ :
      (run flightStep untilPollingSent
          (Flight.boot .zeroMac none false 0)).task.wbmComState = .wbmConnected ∧
        (run flightStep untilPollingSent
          (Flight.boot .zeroMac none false 0)).task.eepromDataReceived = true := by
    decide +kernel
  exact ⟨hflag,
    (one_request_in_flight .zeroMac none false 0 untilPollingSent (iterateAt 5000) hconn).1.1
      hflag⟩

end UnitComm
end AvensysEsp32
