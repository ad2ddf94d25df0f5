import AvensysEsp32.Foundation.Simulation
import AvensysEsp32.UnitComm.Transfer
import AvensysEsp32.UnitUpdate.Exclusion
import AvensysEsp32.UnitUpdate.Sessions

/-!
# From the server to the unit's bootloader

The update tasks, the HTTP client that a running task waits for, and the unit
task, which transfers the stored file.  While no trigger and no transfer races
with a task that has not started, nothing writes the file once the transfer has
opened it; so what the bootloader receives is the image of the last check.
-/

namespace AvensysEsp32
namespace UnitUpdate

open Foundation Serial UnitComm

/-! ## State -/

structure DeliveryState where
  /-- The tasks, the flags and the unit task. -/
  update : ExclusionState
  /-- The variables of `_http1_event_handler`, and the file. -/
  http : UpdateState

/-- The state in which the tasks are started. -/
def DeliveryState.boot (device : DeviceIdentity) (firmwareBin : Option (List UInt8))
    (unitPartitionState : Bool) (millis : UInt32) (behindBuffer : Memory) : DeliveryState where
  update := .boot device firmwareBin unitPartitionState millis
  http := .boot firmwareBin behindBuffer

/-- `Unit_Update_task` is in `esp_http_client_perform`. -/
def downloading (s : DeliveryState) : Bool :=
  s.update.tasks.any UpdateTask.started

/-- The unit task finds the file as it is stored now. -/
def withFile (s : DeliveryState) : ExclusionState :=
  { s.update with gateway := { s.update.gateway with firmwareBin := s.http.firmwareBin } }

inductive DeliveryEvent
  | task (e : ExclusionEvent)
  /-- An event of the HTTP client. -/
  | http (evt : HttpEvent)

/-- The effect of an event. -/
def deliveryStep (e : DeliveryEvent) (s : DeliveryState) : DeliveryState :=
  match e with
  | .task e => { s with update := exclusionStep e (withFile s) }
  | .http evt => if downloading s then { s with http := http1EventHandler evt s.http } else s

/-- `fseek` finds the end of an open file. -/
def FileFound (e : ExclusionEvent) : Prop :=
  match e with
  | .unit (.iterate inp) _ => inp.fseekOk = true
  | _ => True

instance (s : ExclusionState) : Decidable (NoneWaiting s) :=
  inferInstanceAs (Decidable (∀ task ∈ s.tasks, task.started = true))

instance (e : ExclusionEvent) (s : ExclusionState) : Decidable (NoRace e s) := by
  unfold NoRace
  split <;> infer_instance

instance (e : ExclusionEvent) : Decidable (FileFound e) := by
  unfold FileFound
  split <;> infer_instance

/-- No trigger and no transfer races with a waiting task. -/
def Undisturbed (e : DeliveryEvent) (s : DeliveryState) : Prop :=
  match e with
  | .task e => NoRace e (withFile s) ∧ FileFound e
  | .http _ => True

instance (e : DeliveryEvent) (s : DeliveryState) : Decidable (Undisturbed e s) := by
  unfold Undisturbed
  split <;> infer_instance

/-- What the event is to the HTTP handler. -/
def handlerEvents (e : DeliveryEvent) (s : DeliveryState) : List HttpEvent :=
  match e with
  | .task _ => []
  | .http evt => if downloading s then [evt] else []

theorem http_simulation :
    Simulation deliveryStep http1EventHandler (fun _ _ => True)
      (fun s h => s.http = h) handlerEvents where
  step := by
    rintro e s _ - rfl
    cases e with
    | task e => rfl
    | http evt =>
        unfold deliveryStep handlerEvents
        dsimp only
        split
        · rfl
        · rfl

/-! ## The transfer has the file for itself -/

section Steps

variable {s : DeliveryState}

/-- What a step is to the unit task: nothing, or one of its own events. -/
theorem gateway_exclusionStep
    (e : ExclusionEvent) (u : ExclusionState) (he : FileFound e) :
    (exclusionStep e u).gateway = u.gateway ∨
      ∃ e', (exclusionStep e u).gateway = step e' u.gateway ∧
        (FirmwareKept e' u.gateway ∨ ∃ content, e' = .firmwareStored content) := by
  have htrigger : ∀ created, (trigger created u).gateway = u.gateway := by
    intro created
    unfold trigger
    split
    · exact (createUnitUpdateTask_same created u).2
    · rfl
  cases e with
  | unit e created =>
      cases e with
      | iterate inp =>
          refine Or.inr ⟨.iterate inp, ?_, Or.inl he⟩
          show (unitIteration inp created u).gateway = unitEventTask inp u.gateway
          unfold unitIteration
          dsimp only
          split
          · rw [(createUnitUpdateTask_same created u).2]
          · rfl
      | uartData data => exact Or.inr ⟨.uartData data, rfl, Or.inl trivial⟩
      | clientWrite w => exact Or.inr ⟨.clientWrite w, rfl, Or.inl trivial⟩
      | mqttReady ready => exact Or.inr ⟨.mqttReady ready, rfl, Or.inl trivial⟩
      | unitUpdateTask running => exact Or.inl rfl
      | firmwareStored content => exact Or.inr ⟨.firmwareStored content, rfl, Or.inr ⟨content, rfl⟩⟩
  | mqttConnected created => exact Or.inl (htrigger created)
  | mqttError created => exact Or.inl (htrigger created)
  | otaDisconnected created => exact Or.inl (htrigger created)
  | started k =>
      unfold exclusionStep
      dsimp only
      split
      · exact Or.inr ⟨.unitUpdateTask true, rfl, Or.inl trivial⟩
      · exact Or.inl rfl
  | ended k =>
      unfold exclusionStep
      dsimp only
      split
      · exact Or.inr ⟨.unitUpdateTask false, rfl, Or.inl trivial⟩
      · exact Or.inl rfl

/-- The header has been sent. -/
def Headed (g : UnitState) : Prop :=
  g.currentState = .bootloaderState1 ∨ g.currentState = .bootloaderStateEnd

/-- The transfer is left for its end only. -/
theorem headed_step
    (e : Event) {g : UnitState} (hcomm : g.wbmComState = .wbmCommunicating) (h : Headed g) :
    Headed (step e g) := by
  cases e with
  | uartData data => exact h
  | mqttReady ready => exact h
  | unitUpdateTask running => exact h
  | firmwareStored content => exact h
  | clientWrite w =>
      have hsame := (sameButImage_clientWrite w g).currentState
      exact h.imp hsame.trans hsame.trans
  | iterate inp =>
      have hstep : step (.iterate inp) g = connectToUnit inp g := by
        simp only [step, unitEventTask, hcomm]
      rw [hstep]
      rcases h with hstate | hstate
      · have hconnect : connectToUnit inp g = bootloaderState1 g := by
          simp only [connectToUnit, hstate]
        rw [hconnect]
        exact bootloaderState1_currentState hstate
      · have hconnect : connectToUnit inp g = g := by
          simp only [connectToUnit, hstate]
        rw [hconnect]
        exact Or.inr hstate

/-- The file of the transfer, and how far it has been sent. -/
structure Opened (content : List UInt8) (s : DeliveryState) : Prop where
  stored : s.http.firmwareBin = some content
  sent : content.length < 2 ^ 24 →
    ∃ base k, Transferring content base k (withFile s).gateway ∧ Headed s.update.gateway

/-- What holds in every run without a race. -/
structure Delivering (s : DeliveryState) : Prop where
  exclusion : ExclusionInvariant s.update
  untransfered : Untransfered s.update.gateway
  opened : s.update.opened = true → ∃ content, Opened content s

/-- Once the transfer has opened the file, no task runs. -/
theorem Delivering.not_downloading
    (h : Delivering s) (hopened : s.update.opened = true) :
    downloading s = false := by
  have hnone : s.update.tasks = [] := by
    rw [List.eq_nil_iff_forall_not_mem]
    intro task htask
    have hafter := h.exclusion.noneFromBefore hopened task htask
    exact Bool.false_ne_true ((h.exclusion.before task htask).symm.trans hafter)
  unfold downloading
  rw [hnone]
  rfl

/-- The unit task's next state, with the file as it is stored. -/
theorem transferring_withFile
    {content : List UInt8} {base : List (List UInt8)} {k : Nat} {gateway : UnitState}
    (h : Transferring content base k gateway) {firmwareBin : Option (List UInt8)}
    (hstored : firmwareBin = some content) :
    Transferring content base k { gateway with firmwareBin := firmwareBin } :=
  h.of_same rfl rfl (hstored.trans h.stored.symm) rfl rfl

/-- A step of the transfer. -/
theorem Opened.step
    {content : List UInt8} (h : Opened content s) {e : ExclusionEvent} (he : FileFound e) :
    Opened content (deliveryStep (.task e) s) := by
  refine ⟨h.stored, fun hlen => ?_⟩
  obtain ⟨base, k, htransferring, hheaded⟩ := h.sent hlen
  show ∃ base k, Transferring content base k
      { (exclusionStep e (withFile s)).gateway with firmwareBin := s.http.firmwareBin } ∧
    Headed (exclusionStep e (withFile s)).gateway
  rcases gateway_exclusionStep e (withFile s) he with hsame | ⟨e', hstep, hkept⟩
  · rw [hsame]
    exact ⟨base, k, transferring_withFile htransferring h.stored, hheaded⟩
  · rw [hstep]
    have hheaded' := headed_step e' htransferring.communicating hheaded
    rcases hkept with hkept | ⟨content', rfl⟩
    · have hnext := transferring_step hlen e' htransferring hkept
      exact ⟨base, _, transferring_withFile hnext h.stored, hheaded'⟩
    · exact ⟨base, k, htransferring, hheaded'⟩

/-- Only an iteration of the unit task opens the file. -/
theorem opensFile_of_opened
    {e : ExclusionEvent} {u : ExclusionState} (hclosed : u.opened = false)
    (hopened : (exclusionStep e u).opened = true) :
    ∃ inp created, e = .unit (.iterate inp) created ∧ opensFile u.gateway = true := by
  have hkeeps : (exclusionStep e u).opened = u.opened →
      ∃ inp created, e = .unit (.iterate inp) created ∧ opensFile u.gateway = true := by
    intro hsame
    rw [hsame, hclosed] at hopened
    cases hopened
  have htrigger : ∀ created, (trigger created u).opened = u.opened := by
    intro created
    unfold trigger
    split
    · exact (createUnitUpdateTask_same created u).1
    · rfl
  cases e with
  | unit e created =>
      cases e with
      | iterate inp =>
          refine ⟨inp, created, rfl, ?_⟩
          change (unitIteration inp created u).opened = true at hopened
          unfold unitIteration at hopened
          dsimp only at hopened
          rwa [hclosed, Bool.false_or] at hopened
      | uartData data => exact hkeeps rfl
      | clientWrite w => exact hkeeps rfl
      | mqttReady ready => exact hkeeps rfl
      | unitUpdateTask running => exact hkeeps rfl
      | firmwareStored content => exact hkeeps rfl
  | mqttConnected created => exact hkeeps (htrigger created)
  | mqttError created => exact hkeeps (htrigger created)
  | otaDisconnected created => exact hkeeps (htrigger created)
  | started k =>
      apply hkeeps
      unfold exclusionStep
      dsimp only
      split
      · rfl
      · rfl
  | ended k =>
      apply hkeeps
      unfold exclusionStep
      dsimp only
      split
      · rfl
      · rfl

/-- The transfer opens the file: the header is sent. -/
theorem opened_of_opensFile
    {inp : IterationInput} {created : Bool} (h : Delivering s)
    (hopens : opensFile (withFile s).gateway = true) (hseek : inp.fseekOk = true) :
    ∃ content, Opened content (deliveryStep (.task (.unit (.iterate inp) created)) s) := by
  obtain ⟨henters, hsome⟩ := Bool.and_eq_true_iff.mp hopens
  obtain ⟨hwbm, hcurrent, hflag⟩ := of_decide_eq_true henters
  obtain ⟨content, hstored⟩ := Option.isSome_iff_exists.mp hsome
  refine ⟨content, hstored, fun hlen => ?_⟩
  have hclosed := h.untransfered.connecting hwbm
    (by rw [show s.update.gateway.currentState = .bootloaderState from hcurrent]; decide)
    (by rw [show s.update.gateway.currentState = .bootloaderState from hcurrent]; decide)
  have hwaiting : Transferring content (uartWrites (withFile s).gateway.outputs) 0
      (withFile s).gateway :=
    ⟨hwbm, hstored, .waiting hcurrent hclosed rfl rfl⟩
  have hgateway : (deliveryStep (.task (.unit (.iterate inp) created)) s).update.gateway =
      bootloaderState inp (withFile s).gateway := by
    show (unitIteration inp created (withFile s)).gateway = _
    have heq : unitEventTask inp (withFile s).gateway =
        bootloaderState inp (withFile s).gateway := by
      simp only [unitEventTask, hwbm, connectToUnit, hcurrent]
    rw [← heq]
    unfold unitIteration
    dsimp only
    split
    · rw [(createUnitUpdateTask_same created _).2]
    · rfl
  have hnext := transferring_bootloaderState hseek hlen hwaiting hclosed rfl
  refine ⟨_, 0, transferring_withFile (hgateway ▸ hnext) hstored, ?_⟩
  rw [hgateway]
  unfold bootloaderState
  rw [if_neg (by simp [hflag]), hstored]
  dsimp only
  rw [if_pos hseek]
  exact Or.inl rfl

/-- A step without a race. -/
theorem delivering_deliveryStep
    (e : DeliveryEvent) (h : Delivering s) (hundisturbed : Undisturbed e s) :
    Delivering (deliveryStep e s) := by
  cases e with
  | http evt =>
      unfold deliveryStep
      dsimp only
      split
      · rename_i hrunning
        refine ⟨h.exclusion, h.untransfered, fun hopened => ?_⟩
        rw [h.not_downloading hopened] at hrunning
        cases hrunning
      · exact h
  | task e =>
      obtain ⟨hrace, hfound⟩ := hundisturbed
      have hexclusion : ExclusionInvariant (withFile s) := h.exclusion.gateway (.of_eq rfl rfl)
      have huntransfered : Untransfered (withFile s).gateway :=
        untransfered_step (.firmwareStored s.http.firmwareBin) s.update.gateway h.untransfered
      obtain ⟨hiff, hkept⟩ := exclusionStep_spec hexclusion e
      refine ⟨hkept (hiff.mpr hrace), ?_, fun hopened => ?_⟩
      · show Untransfered (exclusionStep e (withFile s)).gateway
        rcases gateway_exclusionStep e (withFile s) hfound with hsame | ⟨e', hstep, -⟩
        · rw [hsame]
          exact huntransfered
        · rw [hstep]
          exact untransfered_step e' _ huntransfered
      · by_cases hbefore : s.update.opened = true
        · obtain ⟨content, hcontent⟩ := h.opened hbefore
          exact ⟨content, hcontent.step hfound⟩
        · obtain ⟨inp, created, rfl, hopens⟩ :=
            opensFile_of_opened (u := withFile s) (Bool.eq_false_iff.mpr hbefore) hopened
          exact opened_of_opensFile h hopens hfound

end Steps

theorem delivering_boot
    (device : DeviceIdentity) (firmwareBin : Option (List UInt8)) (unitPartitionState : Bool)
    (millis : UInt32) (behindBuffer : Memory) :
    Delivering (.boot device firmwareBin unitPartitionState millis behindBuffer) where
  exclusion := by
    refine ⟨⟨Nat.zero_le _, fun _ _ hmem => nomatch hmem⟩, ?_, fun hopened => ?_,
      fun _ hmem => nomatch hmem⟩
    · exact iff_of_false Bool.false_ne_true fun ⟨_, hmem, _⟩ => nomatch hmem
    · cases hopened
  untransfered := ⟨fun _ => rfl, fun hcomm => by cases hcomm⟩
  opened := nofun

/-! ## The image of the last check -/

section Checks

variable {s : UpdateState}

/-- Images with the same version are the same. -/
def Versioned (images : List (List UInt8)) : Prop :=
  ∀ image ∈ images, ∀ image' ∈ images, versionBytes image = versionBytes image' → image = image'

/-- A check whose image has a version of its own leaves that image. -/
theorem sessionStep_stored
    {session : Session} (hcounter : s.loadCounter = 0) (hreplaceable : Replaceable session s)
    (hversions : ∀ content, s.firmwareBin = some content →
      versionBytes content = versionBytes session.body → content = session.body) :
    (sessionStep session s).firmwareBin = some session.body := by
  have hreproduced := (reproduced_iff_replaceable session hcounter).mpr hreplaceable
  unfold Reproduced at hreproduced
  cases hfile : s.firmwareBin with
  | none =>
      rw [hfile] at hreproduced
      exact hreproduced
  | some content =>
      rw [hfile] at hreproduced
      dsimp only at hreproduced
      split at hreproduced
      · rename_i hsame
        rw [hreproduced, hversions content hfile hsame]
      · exact hreproduced

/-- After whole checks the image of the last is stored. -/
theorem run_sessionStep_stored
    {sessions : List Session} {last : Session} (hcounter : s.loadCounter = 0)
    (hversions : Versioned (s.firmwareBin.toList ++ (sessions ++ [last]).map Session.body))
    (hreplaceable : Along sessionStep Replaceable (sessions ++ [last]) s) :
    (run sessionStep (sessions ++ [last]) s).firmwareBin = some last.body := by
  induction sessions generalizing s with
  | nil =>
      refine sessionStep_stored hcounter hreplaceable.1 fun content hfile hsame => ?_
      refine hversions content ?_ last.body ?_ hsame
      · simp [hfile]
      · simp
  | cons session sessions ih =>
      have hstored : (sessionStep session s).firmwareBin = some session.body := by
        refine sessionStep_stored hcounter hreplaceable.1 fun content hfile hsame => ?_
        refine hversions content ?_ session.body ?_ hsame
        · simp [hfile]
        · simp
      refine ih (sessionStep_loadCounter session s hcounter) ?_ hreplaceable.2
      intro image himage image' himage'
      refine hversions image ?_ image' ?_
      · rw [hstored] at himage
        exact List.mem_append_right _ himage
      · rw [hstored] at himage'
        exact List.mem_append_right _ himage'

theorem run_flatMap_events (sessions : List Session) (s : UpdateState) :
    run http1EventHandler (sessions.flatMap Session.events) s = run sessionStep sessions s := by
  induction sessions generalizing s with
  | nil => rfl
  | cons session sessions ih =>
      rw [List.flatMap_cons, run_append, ih]
      rfl

end Checks

/-! ## End to end -/

/-- What the bootloader has been sent of an image: what announces it, and then
the beginning of it; at the end all of it, if it consists of whole words. -/
structure Delivered (image : List UInt8) (g : UnitState) : Prop where
  sent :
    ∃ base header data, uartWrites g.outputs = base ++ header :: data ∧
      decodeHeader header = some (image.length, firstWord image) ∧
      (g.currentState = .bootloaderState1 →
        ∃ k, decodeWords data.flatten = some (image.take (16 * k))) ∧
      (g.currentState = .bootloaderStateEnd →
        (decodeWords data.flatten = some image ↔ 4 ∣ image.length))

theorem transferring_delivered
    {image : List UInt8} {base : List (List UInt8)} {k : Nat} {g : UnitState}
    (h : Transferring image base k g) (hheaded : Headed g) (hlong : 4 ≤ image.length) :
    Delivered image g := by
  cases h.stage with
  | waiting state =>
      rcases hheaded with hstate | hstate
      · rw [state] at hstate
        cases hstate
      · rw [state] at hstate
        cases hstate
  | empty _ _ _ length => omega
  | sending header state transfered filesize position more announced writes =>
      refine ⟨base, header, dataWrites image k, writes, announced hlong, fun _ => ⟨k, ?_⟩,
        fun hend => ?_⟩
      · have hdecoded := decodeWords_dataWrites image more.le []
        rw [List.append_nil] at hdecoded
        rw [hdecoded, show decodeWords [] = some [] from rfl, Option.map_some, List.append_nil]
      · rw [state] at hend
        cases hend
  | ended header state closed pos acks announced writes =>
      refine ⟨base, header, dataWrites image k, writes, announced hlong, fun hsending => ?_,
        fun _ => ?_⟩
      · rw [state] at hsending
        cases hsending
      · rw [acks]
        exact decodeWords_dataWrites_iff pos

/-- A check that downloads an image, and then a bootloader that names itself and
is sent the header. -/
def oneDelivery : List DeliveryEvent :=
  [.task (.mqttConnected true), .task (.started 0)] ++
    (imageOf 1).events.map .http ++ [.task (.ended 0)] ++
    (untilBootloader ++ [iterateAt 0]).map fun e => .task (.unit e true)

end UnitUpdate
end AvensysEsp32
