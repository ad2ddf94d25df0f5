import AvensysEsp32.UnitComm.Task

/-!
# Who has the firmware file

`Unit_Update_task` writes the file that the transfer to the unit's bootloader
reads.  Four places create the task after a test of three flags, and the
transfer tests one of them before it opens the file; but the flag of the task is
set by the task itself, when it starts.
-/

namespace AvensysEsp32
namespace UnitUpdate

open Foundation Serial UnitComm

/-- A task between its creation and its end. -/
structure UpdateTask where
  /-- It has set `Unit_Update_task_Flag`. -/
  started : Bool
  /-- The transfer had opened the file when the task was created. -/
  afterOpening : Bool
deriving DecidableEq, Repr

structure ExclusionState where
  /-- The flags and the unit task. -/
  gateway : UnitState
  /-- The update tasks that exist, the oldest first. -/
  tasks : List UpdateTask
  /-- The transfer has opened the file. -/
  opened : Bool

/-- The state in which the tasks are started. -/
def ExclusionState.boot (device : DeviceIdentity) (firmwareBin : Option (List UInt8))
    (unitPartitionState : Bool) (millis : UInt32) : ExclusionState :=
  ⟨.boot device firmwareBin unitPartitionState millis, [], false⟩

/-- The test before each `xTaskCreate` of `Unit_Update_task`. -/
def updateAllowed (s : UnitState) : Bool :=
  s.unitPartitionState && !s.unitUpdateTaskFlag && !s.bootloaderStateFlag

/-- `xTaskCreate` of `Unit_Update_task`; `created` is whether it succeeds. -/
def createUnitUpdateTask (created : Bool) (s : ExclusionState) : ExclusionState :=
  if created then { s with tasks := s.tasks ++ [⟨false, s.opened⟩] } else s

/-- The trigger of the MQTT and HTTP events. -/
def trigger (created : Bool) (s : ExclusionState) : ExclusionState :=
  if updateAllowed s.gateway then createUnitUpdateTask created s else s

/-- The trigger of the unit task passes its test in this iteration. -/
def dayTriggers (inp : IterationInput) (s : UnitState) : Bool :=
  s.wbmComState = .wbmConnected ∧
    86400000 ≤ s.unitUpdateCounter + tickReading inp.updateTicks ∧ updateAllowed s = true

/-- The case `Bootloader_State` passes its test in this iteration. -/
def entersTransfer (s : UnitState) : Bool :=
  s.wbmComState = .wbmCommunicating ∧ s.currentState = .bootloaderState ∧
    s.unitUpdateTaskFlag = false

/-- `Bootloader_State` opens the file, if there is one. -/
def opensFile (s : UnitState) : Bool :=
  entersTransfer s && s.firmwareBin.isSome

inductive ExclusionEvent
  /-- The unit task or what it meets; `created` is for its trigger. -/
  | unit (e : Event) (created : Bool)
  /-- `MQTT_EVENT_CONNECTED` -/
  | mqttConnected (created : Bool)
  /-- `MQTT_EVENT_ERROR` -/
  | mqttError (created : Bool)
  /-- `HTTP_EVENT_DISCONNECTED` of the OTA check -/
  | otaDisconnected (created : Bool)
  /-- A task that has been created starts. -/
  | started (k : Nat)
  /-- A task that runs ends. -/
  | ended (k : Nat)

/-- One iteration of the unit task. -/
def unitIteration (inp : IterationInput) (created : Bool) (s : ExclusionState) : ExclusionState :=
  let opened := s.opened || opensFile s.gateway
  let s := if dayTriggers inp s.gateway then createUnitUpdateTask created s else s
  { s with gateway := unitEventTask inp s.gateway, opened := opened }

/-- The effect of an event; the flag of the update task is changed by the tasks
alone. -/
def exclusionStep (e : ExclusionEvent) (s : ExclusionState) : ExclusionState :=
  match e with
  | .unit (.iterate inp) created => unitIteration inp created s
  | .unit (.unitUpdateTask _) _ => s
  | .unit e _ => { s with gateway := step e s.gateway }
  | .mqttConnected created | .mqttError created | .otaDisconnected created => trigger created s
  | .started k =>
      match s.tasks[k]? with
      | some ⟨false, afterOpening⟩ =>
          { s with
            tasks := s.tasks.set k ⟨true, afterOpening⟩
            gateway := { s.gateway with unitUpdateTaskFlag := true } }
      | _ => s
  | .ended k =>
      match s.tasks[k]? with
      | some ⟨true, _⟩ =>
          { s with
            tasks := s.tasks.eraseIdx k
            gateway := { s.gateway with unitUpdateTaskFlag := false } }
      | _ => s

/-! ## Exclusion -/

/-- One task exists at most, and when the file has been opened, none from before
is left. -/
structure Exclusive (s : ExclusionState) : Prop where
  atMostOne : s.tasks.length ≤ 1
  noneFromBefore : s.opened = true → ∀ task ∈ s.tasks, task.afterOpening = true

/-- Every task that has been created has started. -/
def NoneWaiting (s : ExclusionState) : Prop :=
  ∀ task ∈ s.tasks, task.started = true

/-- No trigger that passes its test creates a task, and no transfer that passes
its test opens the file, while a task that has been created has not started. -/
def NoRace (e : ExclusionEvent) (s : ExclusionState) : Prop :=
  match e with
  | .unit (.iterate inp) created =>
      (dayTriggers inp s.gateway = true ∧ created = true ∨ opensFile s.gateway = true) →
        NoneWaiting s
  | .mqttConnected created | .mqttError created | .otaDisconnected created =>
      updateAllowed s.gateway = true ∧ created = true → NoneWaiting s
  | _ => True

/-- What is carried along a run. -/
structure ExclusionInvariant (s : ExclusionState) : Prop extends Exclusive s where
  flag_iff : s.gateway.unitUpdateTaskFlag = true ↔ ∃ task ∈ s.tasks, task.started = true
  blocked : s.opened = true → s.gateway.bootloaderStateFlag = true
  before : ∀ task ∈ s.tasks, task.afterOpening = false

/-! ## The flags in an iteration -/

/-- The flag of the task stays, and that of the transfer is not taken down. -/
structure KeepsFlags (s s' : UnitState) : Prop where
  unitUpdateTaskFlag : s'.unitUpdateTaskFlag = s.unitUpdateTaskFlag
  bootloaderStateFlag : s.bootloaderStateFlag = true → s'.bootloaderStateFlag = true

section Flags

variable {s s' s'' : UnitState}

theorem KeepsFlags.of_eq
    (htask : s'.unitUpdateTaskFlag = s.unitUpdateTaskFlag)
    (htransfer : s'.bootloaderStateFlag = s.bootloaderStateFlag) :
    KeepsFlags s s' :=
  ⟨htask, fun h => htransfer.trans h⟩

theorem KeepsFlags.refl (s : UnitState) :
    KeepsFlags s s :=
  .of_eq rfl rfl

theorem KeepsFlags.trans
    (h : KeepsFlags s s') (h' : KeepsFlags s' s'') :
    KeepsFlags s s'' :=
  ⟨h'.unitUpdateTaskFlag.trans h.unitUpdateTaskFlag,
    fun hflag => h'.bootloaderStateFlag (h.bootloaderStateFlag hflag)⟩

variable (s) (inp : IterationInput)

theorem keepsFlags_awaitReply
    (reply : UnitState → UnitState) (hreply : ∀ s, KeepsFlags s (reply s)) :
    KeepsFlags s (awaitReply inp reply s) := by
  have hcase := awaitReply_case inp s reply
  generalize awaitReply inp reply s = s' at hcase ⊢
  cases hcase with
  | lost _ => exact .of_eq rfl rfl
  | replied _ _ =>
      have h := hreply
        { s with valRet := (readMessage s.port).1, port := (readMessage s.port).2 }
      exact ⟨h.unitUpdateTaskFlag, h.bootloaderStateFlag⟩
  | waiting _ _ => exact .of_eq rfl rfl

theorem keepsFlags_link :
    KeepsFlags s (linkConnecting inp s) ∧ KeepsFlags s (trySerialLink inp s) := by
  constructor
  · have hcase := linkConnecting_case inp s
    generalize linkConnecting inp s = s' at hcase ⊢
    cases hcase with
    | sent _ => exact .of_eq rfl rfl
    | silent _ => exact .of_eq rfl rfl
  · have hcase := trySerialLink_case inp s
    generalize trySerialLink inp s = s' at hcase ⊢
    cases hcase with
    | anew _ _ => exact .of_eq rfl rfl
    | again _ _ => exact .of_eq rfl rfl
    | read _ _ _ => exact .of_eq rfl rfl

theorem keepsFlags_connected :
    KeepsFlags s (connected inp s) := by
  unfold connected announceConnected
  dsimp only
  rw [pollingBaseDataParse_eq]
  split
  · exact .of_eq rfl rfl
  · exact .of_eq rfl rfl

theorem keepsFlags_bootloaderState1 :
    KeepsFlags s (bootloaderState1 s) := by
  have hcase := bootloaderState1_case s
  generalize bootloaderState1 s = s' at hcase ⊢
  cases hcase with
  | waiting _ => exact .of_eq rfl rfl
  | acknowledged _ _ _ _ _ _ => exact .of_eq rfl rfl

/-- The transfer is entered unless an update task runs. -/
theorem bootloaderState_flags :
    KeepsFlags s (bootloaderState inp s) ∧
      (s.unitUpdateTaskFlag = false → (bootloaderState inp s).bootloaderStateFlag = true) := by
  have hcase := bootloaderState_case inp s
  generalize bootloaderState inp s = s' at hcase ⊢
  cases hcase with
  | held hrunning =>
      exact ⟨.refl s, fun h => absurd (h.symm.trans hrunning) Bool.false_ne_true⟩
  | header _ _ _ _ => exact ⟨⟨rfl, fun _ => rfl⟩, fun _ => rfl⟩

theorem keepsFlags_connectToUnit :
    KeepsFlags s (connectToUnit inp s) := by
  have hsection : ∀ field request next, (∀ s : UnitState, KeepsFlags s (request s)) →
      KeepsFlags s (readEeprom inp field request next s) := by
    intro field request next hrequest
    apply keepsFlags_awaitReply
    intro s
    have h := hrequest (storeSection field s)
    exact ⟨h.unitUpdateTaskFlag, h.bootloaderStateFlag⟩
  unfold connectToUnit
  cases s.currentState with
  | init => exact .of_eq rfl rfl
  | linkConnecting => exact (keepsFlags_link s inp).1
  | trySerialLink => exact (keepsFlags_link s inp).2
  | linkConnected => exact .of_eq rfl rfl
  | readEepromInfo => exact hsection _ _ _ fun _ => .of_eq rfl rfl
  | readEepromConfiguration => exact hsection _ _ _ fun _ => .of_eq rfl rfl
  | readEepromSettingPar => exact hsection _ _ _ fun _ => .of_eq rfl rfl
  | readEepromSetTemp => exact hsection _ _ _ fun _ => .of_eq rfl rfl
  | readEepromDayProg => exact hsection _ _ _ fun _ => .of_eq rfl rfl
  | readEepromHwSetting => exact hsection _ _ _ fun _ => .of_eq rfl rfl
  | pollingBase => exact keepsFlags_awaitReply s inp _ fun _ => .of_eq rfl rfl
  | connected => exact keepsFlags_connected s inp
  | bootloaderState => exact (bootloaderState_flags s inp).1
  | bootloaderState1 => exact keepsFlags_bootloaderState1 s
  | bootloaderStateEnd => exact .refl s

theorem keepsFlags_beforeReceive :
    KeepsFlags s (beforeReceive inp s) := by
  have htrigger : KeepsFlags s (unitUpdateTrigger inp s) := by
    unfold unitUpdateTrigger
    dsimp only
    split
    · split
      · exact .of_eq rfl rfl
      · exact .of_eq rfl rfl
    · exact .of_eq rfl rfl
  have hclamp : ∀ s, KeepsFlags s (clampLastReceived inp s) := by
    intro s
    unfold clampLastReceived
    split
    · exact .of_eq rfl rfl
    · exact .refl s
  have hdebug : ∀ s, KeepsFlags s (debugRequest inp s) := by
    intro s
    unfold debugRequest
    split
    · split
      · dsimp only
        split
        · exact .of_eq rfl rfl
        · exact .of_eq rfl rfl
      · exact .refl s
    · exact .refl s
  have hpolling : ∀ s, KeepsFlags s (pollingRequest inp s) := by
    intro s
    unfold pollingRequest
    split
    · split
      · dsimp only
        split
        · exact .of_eq rfl rfl
        · exact .of_eq rfl rfl
      · exact .refl s
    · exact .refl s
  have htimeout : ∀ s, KeepsFlags s (globalTimeout inp s) := by
    intro s
    unfold globalTimeout
    split
    · exact .of_eq rfl rfl
    · exact .refl s
  unfold beforeReceive
  exact (((htrigger.trans (hclamp _)).trans (hdebug _)).trans (hpolling _)).trans (htimeout _)

theorem keepsFlags_parseReply (reply : Reply) :
    KeepsFlags s (parseReply inp s reply) := by
  unfold parseReply
  cases reply with
  | pollingBase =>
      dsimp only
      rw [pollingBaseDataParse_eq]
      exact .of_eq rfl rfl
  | dataDebug => exact .of_eq rfl rfl
  | readEeprom => exact .of_eq rfl rfl
  | writeEeprom =>
      dsimp only
      rw [writeEepromDataParse_eq]
      exact .of_eq rfl rfl

theorem keepsFlags_receive :
    KeepsFlags s (receive inp s) := by
  have hcase := receive_case inp s
  generalize receive inp s = s' at hcase
  cases hcase with
  | @reply reply hgt hreply =>
      obtain ⟨published, -, heq⟩ := handleReply_eq inp
        { s with
          valRet := (readMessage s.port).1
          port := (readMessage s.port).2
          globalTimeoutMilliseconds := inp.millis 13 } reply
      have h := keepsFlags_parseReply
        { s with
          valRet := (readMessage s.port).1
          port := (readMessage s.port).2
          globalTimeoutMilliseconds := inp.millis 13 } inp reply
      rw [heq]
      exact ⟨h.unitUpdateTaskFlag, h.bootloaderStateFlag⟩
  | unknown hgt hnone => exact .of_eq rfl rfl
  | rejected hneg => exact .of_eq rfl rfl
  | nothing hle hnonneg => exact .of_eq rfl rfl

theorem keepsFlags_clientWrite (w : ClientWrite) :
    KeepsFlags s (clientWrite w s) := by
  unfold clientWrite
  split
  · split
    · exact .of_eq rfl rfl
    · exact .refl s
  · split
    · exact .of_eq rfl rfl
    · exact .refl s

theorem keepsFlags_scheduler :
    KeepsFlags s (scheduler inp s) := by
  have hwrites : ∀ (ws : List ClientWrite) (s : UnitState),
      KeepsFlags s (ws.foldl (fun s w => clientWrite w s) s) := by
    intro ws
    induction ws with
    | nil => exact .refl
    | cons w ws ih =>
        intro s
        exact (keepsFlags_clientWrite s w).trans (ih _)
  have hsend : ∀ service, KeepsFlags s (sendService inp service s) := by
    intro service
    cases service with
    | read sec => exact .of_eq rfl rfl
    | write sec =>
        unfold sendService sendWriteEeprom
        dsimp only
        split
        · exact .of_eq rfl rfl
        · exact .refl s
    | nothing => exact .refl s
  unfold scheduler
  split
  · split
    · rename_i mask service _
      have h := (hsend service).trans (hwrites inp.duringTx _)
      exact ⟨h.unitUpdateTaskFlag, h.bootloaderStateFlag⟩
    · exact .refl s
  · exact .refl s

/-- An iteration keeps the flags, and sets that of the transfer when it opens
the file. -/
theorem unitEventTask_flags :
    KeepsFlags s (unitEventTask inp s) ∧
      (opensFile s = true → (unitEventTask inp s).bootloaderStateFlag = true) := by
  constructor
  · unfold unitEventTask
    cases s.wbmComState with
    | wbmInitialize => exact .of_eq rfl rfl
    | wbmCommunicating => exact keepsFlags_connectToUnit s inp
    | wbmConnected =>
        exact ((keepsFlags_beforeReceive s inp).trans (keepsFlags_receive _ inp)).trans
          (keepsFlags_scheduler _ inp)
    | wbmError => exact .of_eq rfl rfl
  · intro hopens
    obtain ⟨henters, -⟩ := Bool.and_eq_true_iff.mp hopens
    obtain ⟨hwbm, hcurrent, hflag⟩ := of_decide_eq_true henters
    have heq : unitEventTask inp s = bootloaderState inp s := by
      simp only [unitEventTask, hwbm, connectToUnit, hcurrent]
    rw [heq]
    exact (bootloaderState_flags s inp).2 hflag

/-- The test of the unit task's trigger is the one made in the iteration. -/
theorem unitUpdateTrigger_outputs
    (hwbm : s.wbmComState = .wbmConnected) :
    (unitUpdateTrigger inp s).outputs =
      s.outputs ++ if dayTriggers inp s then [.createUnitUpdateTask] else [] := by
  unfold unitUpdateTrigger dayTriggers updateAllowed
  by_cases hday : 86400000 ≤ s.unitUpdateCounter + tickReading inp.updateTicks
  · by_cases hallowed : s.unitPartitionState ∧ ¬ s.unitUpdateTaskFlag ∧ ¬ s.bootloaderStateFlag
    · dsimp only
      rw [if_pos hday, if_pos hallowed]
      simp [hwbm, hday, hallowed, UnitState.emit]
    · dsimp only
      rw [if_pos hday, if_neg hallowed]
      simp [hwbm, hday]
      simpa using hallowed
  · dsimp only
    rw [if_neg hday]
    simp [hwbm, hday]

end Flags

/-! ## Steps -/

section Steps

variable {s : ExclusionState}

/-- While no task runs, a task that has not started is any task. -/
theorem ExclusionInvariant.noneWaiting_iff
    (h : ExclusionInvariant s) (hflag : s.gateway.unitUpdateTaskFlag = false) :
    NoneWaiting s ↔ s.tasks = [] := by
  constructor
  · intro hnone
    rw [List.eq_nil_iff_forall_not_mem]
    intro task htask
    have hrunning := h.flag_iff.mpr ⟨task, htask, hnone task htask⟩
    exact Bool.false_ne_true (hflag.symm.trans hrunning)
  · intro hnil task htask
    rw [hnil] at htask
    cases htask

theorem updateAllowed_flags
    {gateway : UnitState} (hallowed : updateAllowed gateway = true) :
    gateway.unitUpdateTaskFlag = false ∧ gateway.bootloaderStateFlag = false := by
  unfold updateAllowed at hallowed
  simp only [Bool.and_eq_true, Bool.not_eq_true'] at hallowed
  exact ⟨hallowed.1.2, hallowed.2⟩

/-- A task that is created is the only one if none was waiting. -/
theorem exclusive_created
    (h : ExclusionInvariant s) (hallowed : updateAllowed s.gateway = true) :
    (Exclusive { s with tasks := s.tasks ++ [⟨false, s.opened⟩] } ↔ NoneWaiting s) ∧
      s.opened = false := by
  obtain ⟨hflag, htransfer⟩ := updateAllowed_flags hallowed
  have hclosed : s.opened = false := by
    rw [Bool.eq_false_iff]
    intro hopened
    exact Bool.false_ne_true (htransfer.symm.trans (h.blocked hopened))
  refine ⟨?_, hclosed⟩
  rw [h.noneWaiting_iff hflag]
  constructor
  · intro hexclusive
    have hlength := hexclusive.atMostOne
    rw [List.length_append, List.length_singleton] at hlength
    exact List.length_eq_zero_iff.mp (by omega)
  · intro hnil
    refine ⟨?_, fun hopened => absurd (hclosed.symm.trans hopened) Bool.false_ne_true⟩
    rw [hnil]
    exact le_refl 1

/-- The invariant after a task has been created. -/
theorem ExclusionInvariant.created
    (h : ExclusionInvariant s) (hallowed : updateAllowed s.gateway = true)
    (hexclusive : Exclusive { s with tasks := s.tasks ++ [⟨false, s.opened⟩] }) :
    ExclusionInvariant { s with tasks := s.tasks ++ [⟨false, s.opened⟩] } where
  toExclusive := hexclusive
  flag_iff := by
    rw [h.flag_iff]
    simp
  blocked := h.blocked
  before := by
    intro task htask
    rcases List.mem_append.mp htask with hold | hnew
    · exact h.before task hold
    · rw [List.mem_singleton.mp hnew]
      exact (exclusive_created h hallowed).2

theorem trigger_spec
    (h : ExclusionInvariant s) (created : Bool) :
    (Exclusive (trigger created s) ↔
        (updateAllowed s.gateway = true ∧ created = true → NoneWaiting s)) ∧
      (Exclusive (trigger created s) → ExclusionInvariant (trigger created s)) := by
  unfold trigger createUnitUpdateTask
  split
  · rename_i hallowed
    split
    · rename_i hcreated
      refine ⟨?_, h.created hallowed⟩
      rw [(exclusive_created h hallowed).1]
      exact ⟨fun hnone _ => hnone, fun hnone => hnone ⟨hallowed, hcreated⟩⟩
    · rename_i hcreated
      exact ⟨iff_of_true h.toExclusive fun hboth => absurd hboth.2 hcreated, fun _ => h⟩
  · rename_i hallowed
    exact ⟨iff_of_true h.toExclusive fun hboth => absurd hboth.1 hallowed, fun _ => h⟩

/-- The unit task goes on, and the flags with it. -/
theorem ExclusionInvariant.gateway
    (h : ExclusionInvariant s) {gateway : UnitState} (hkeeps : KeepsFlags s.gateway gateway) :
    ExclusionInvariant { s with gateway := gateway } where
  toExclusive := ⟨h.atMostOne, h.noneFromBefore⟩
  flag_iff := by
    rw [hkeeps.unitUpdateTaskFlag]
    exact h.flag_iff
  blocked := fun hopened => hkeeps.bootloaderStateFlag (h.blocked hopened)
  before := h.before

/-- The unit task has its trigger in one state and opens the file in another. -/
theorem dayTriggers_of_opensFile
    (inp : IterationInput) {gateway : UnitState} (hopens : opensFile gateway = true) :
    dayTriggers inp gateway = false ∧ gateway.unitUpdateTaskFlag = false := by
  obtain ⟨hwbm, -, hflag⟩ := of_decide_eq_true (Bool.and_eq_true_iff.mp hopens).1
  refine ⟨decide_eq_false ?_, hflag⟩
  rintro ⟨hconnected, -⟩
  rw [hwbm] at hconnected
  cases hconnected

/-- The creation of a task leaves the gateway and the opened file alone. -/
theorem createUnitUpdateTask_same
    (created : Bool) (s : ExclusionState) :
    (createUnitUpdateTask created s).opened = s.opened ∧
      (createUnitUpdateTask created s).gateway = s.gateway := by
  unfold createUnitUpdateTask
  split
  · exact ⟨rfl, rfl⟩
  · exact ⟨rfl, rfl⟩

theorem unitIteration_spec
    (h : ExclusionInvariant s) (inp : IterationInput) (created : Bool) :
    (Exclusive (unitIteration inp created s) ↔
        NoRace (.unit (.iterate inp) created) s) ∧
      (Exclusive (unitIteration inp created s) →
        ExclusionInvariant (unitIteration inp created s)) := by
  obtain ⟨hkeeps, hblocks⟩ := unitEventTask_flags s.gateway inp
  show (_ ↔ (dayTriggers inp s.gateway = true ∧ created = true ∨ opensFile s.gateway = true →
    NoneWaiting s)) ∧ _
  unfold unitIteration
  dsimp only
  cases hopens : opensFile s.gateway with
  | true =>
      obtain ⟨hday, hflag⟩ := dayTriggers_of_opensFile inp hopens
      rw [hday, if_neg Bool.false_ne_true, Bool.or_true]
      have hnext : ExclusionInvariant { s with gateway := unitEventTask inp s.gateway } :=
        h.gateway hkeeps
      constructor
      · rw [h.noneWaiting_iff hflag]
        constructor
        · intro hexclusive _
          rw [List.eq_nil_iff_forall_not_mem]
          intro task htask
          have hafter := hexclusive.noneFromBefore rfl task htask
          exact Bool.false_ne_true ((h.before task htask).symm.trans hafter)
        · intro hnone
          refine ⟨h.atMostOne, fun _ task htask => ?_⟩
          rw [show s.tasks = [] from hnone (Or.inr rfl)] at htask
          cases htask
      · intro hexclusive
        exact ⟨hexclusive, hnext.flag_iff, fun _ => hblocks hopens, h.before⟩
  | false =>
      rw [Bool.or_false]
      by_cases hday : dayTriggers inp s.gateway = true
      · have hallowed : updateAllowed s.gateway = true := (of_decide_eq_true hday).2.2
        obtain ⟨hiff, hnext⟩ := trigger_spec h created
        have htrigger : trigger created s = createUnitUpdateTask created s := if_pos hallowed
        have hopened := createUnitUpdateTask_same created s
        rw [htrigger] at hiff hnext
        rw [if_pos hday, hday, hopened.2, ← hopened.1]
        have hsame : Exclusive
            { createUnitUpdateTask created s with gateway := unitEventTask inp s.gateway } ↔
              Exclusive (createUnitUpdateTask created s) :=
          ⟨fun h => ⟨h.atMostOne, h.noneFromBefore⟩, fun h => ⟨h.atMostOne, h.noneFromBefore⟩⟩
        constructor
        · refine (hsame.trans hiff).trans ?_
          simp [hallowed]
        · intro hexclusive
          exact (hnext (hsame.mp hexclusive)).gateway (hopened.2.symm ▸ hkeeps)
      · rw [if_neg hday]
        have hnext : ExclusionInvariant { s with gateway := unitEventTask inp s.gateway } :=
          h.gateway hkeeps
        refine ⟨iff_of_true hnext.toExclusive ?_, fun _ => hnext⟩
        rintro (⟨hday', -⟩ | hopens')
        · exact absurd hday' hday
        · cases hopens'

/-- A task starts: it is the only one, and its flag is set. -/
theorem ExclusionInvariant.started
    (h : ExclusionInvariant s) {k : Nat} {task : UpdateTask} (hk : s.tasks[k]? = some task) :
    ExclusionInvariant
      { s with
        tasks := s.tasks.set k ⟨true, task.afterOpening⟩
        gateway := { s.gateway with unitUpdateTaskFlag := true } } := by
  have hmem : task ∈ s.tasks := List.mem_of_getElem? hk
  have hlt : k < s.tasks.length := (List.getElem?_eq_some_iff.mp hk).1
  have hset : ∀ {other}, other ∈ s.tasks.set k ⟨true, task.afterOpening⟩ →
      other ∈ s.tasks ∨ other = ⟨true, task.afterOpening⟩ := List.mem_or_eq_of_mem_set
  constructor
  · refine ⟨?_, fun hopened other hother => ?_⟩
    · rw [List.length_set]
      exact h.atMostOne
    · rcases hset hother with hold | rfl
      · exact h.noneFromBefore hopened other hold
      · exact h.noneFromBefore hopened task hmem
  · exact iff_of_true rfl ⟨_, List.mem_set hlt _, rfl⟩
  · exact h.blocked
  · intro other hother
    rcases hset hother with hold | rfl
    · exact h.before other hold
    · exact h.before task hmem

/-- A task ends: none is left, and the flag is cleared. -/
theorem ExclusionInvariant.ended
    (h : ExclusionInvariant s) {k : Nat} (hk : k < s.tasks.length) :
    ExclusionInvariant
      { s with
        tasks := s.tasks.eraseIdx k
        gateway := { s.gateway with unitUpdateTaskFlag := false } } := by
  have hnone : s.tasks.eraseIdx k = [] := by
    have hone := h.atMostOne
    rw [← List.length_eq_zero_iff, List.length_eraseIdx_of_lt hk]
    omega
  rw [hnone]
  exact ⟨⟨Nat.zero_le _, fun _ _ hmem => nomatch hmem⟩, by simp, h.blocked,
    fun _ hmem => nomatch hmem⟩

/-- A step keeps the exclusion exactly when it races with no waiting task. -/
theorem exclusionStep_spec
    (h : ExclusionInvariant s) (e : ExclusionEvent) :
    (Exclusive (exclusionStep e s) ↔ NoRace e s) ∧
      (Exclusive (exclusionStep e s) → ExclusionInvariant (exclusionStep e s)) := by
  have hkept : ∀ {s' : ExclusionState}, ExclusionInvariant s' →
      (Exclusive s' ↔ True) ∧ (Exclusive s' → ExclusionInvariant s') :=
    fun h' => ⟨iff_of_true h'.toExclusive trivial, fun _ => h'⟩
  cases e with
  | unit e created =>
      cases e with
      | iterate inp => exact unitIteration_spec h inp created
      | unitUpdateTask running => exact hkept h
      | uartData data => exact hkept (h.gateway (.of_eq rfl rfl))
      | clientWrite w => exact hkept (h.gateway (keepsFlags_clientWrite s.gateway w))
      | mqttReady ready => exact hkept (h.gateway (.of_eq rfl rfl))
      | firmwareStored content => exact hkept (h.gateway (.of_eq rfl rfl))
  | mqttConnected created => exact trigger_spec h created
  | mqttError created => exact trigger_spec h created
  | otaDisconnected created => exact trigger_spec h created
  | started k =>
      show (Exclusive (match s.tasks[k]? with | some ⟨false, _⟩ => _ | _ => s) ↔ True) ∧ _
      unfold exclusionStep
      dsimp only
      split
      · rename_i afterOpening hk
        exact hkept (h.started hk)
      · exact hkept h
  | ended k =>
      show (_ ↔ True) ∧ _
      unfold exclusionStep
      dsimp only
      split
      · rename_i afterOpening hk
        exact hkept (h.ended (List.getElem?_eq_some_iff.mp hk).1)
      · exact hkept h

end Steps

/-- The test of the day's trigger is the unit task's; and from the start of the
gateway, in every interleaving of the triggers, the tasks and the unit task, the
file has one owner at a time exactly when no trigger and no transfer passes its
test while a created task has not started. -/
theorem firmware_exclusive_iff
    (device : DeviceIdentity) (firmwareBin : Option (List UInt8)) (unitPartitionState : Bool)
    (millis : UInt32) (es : List ExclusionEvent) :
    (∀ (inp : IterationInput) (s : UnitState), s.wbmComState = .wbmConnected →
      (unitUpdateTrigger inp s).outputs =
        s.outputs ++ if dayTriggers inp s then [.createUnitUpdateTask] else []) ∧
      (Along exclusionStep (fun e s => Exclusive (exclusionStep e s)) es
          (.boot device firmwareBin unitPartitionState millis) ↔
        Along exclusionStep NoRace es (.boot device firmwareBin unitPartitionState millis)) := by
  refine ⟨fun inp s => unitUpdateTrigger_outputs s inp, ?_⟩
  have hboot : ExclusionInvariant (.boot device firmwareBin unitPartitionState millis) := by
    refine ⟨⟨Nat.zero_le _, fun _ _ hmem => nomatch hmem⟩, ?_, fun hopened => ?_,
      fun _ hmem => nomatch hmem⟩
    · exact iff_of_false Bool.false_ne_true fun ⟨_, hmem, _⟩ => nomatch hmem
    · cases hopened
  exact along_congr_of_invariant (fun e s h hexclusive => (exclusionStep_spec h e).2 hexclusive)
    (fun e s h => (exclusionStep_spec h e).1) es hboot

/-- Two triggers pass their test before the first task has started. -/
theorem two_updates_created :
    ¬ Along exclusionStep (fun e s => Exclusive (exclusionStep e s))
      [.mqttConnected true, .mqttError true] (.boot .zeroMac none true 0) := by
  rintro ⟨-, hsecond, -⟩
  exact absurd hsecond.atMostOne (by decide)

end UnitUpdate
end AvensysEsp32
