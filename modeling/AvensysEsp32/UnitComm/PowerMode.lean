import AvensysEsp32.UnitComm.ClientUpdate

/-!
# The running mode and the power setting

`RunningMode` decides how often the unit is polled and whether debug data is
asked for.  It is taken from `Set_Power_ON` when the handshake ends, and not
again: what clients and replies store there afterwards changes the mirror alone.

The run is recorded beside the state: what `Set_Power_ON` was when the
handshake ended, and what was last stored there.
-/

namespace AvensysEsp32
namespace UnitComm

open Foundation Serial

/-! ## What polling owes to the mirror -/

/-- Where `Set_Power_ON` lies in the image. -/
abbrev setPowerOnAddress : Nat := EepromField.setPowerOn.offsetof

/-- The mode that a value of `Set_Power_ON` asks for. -/
def modeOf (setPowerOn : UInt8) : RunningMode :=
  if setPowerOn = 0 then .powerOff else .running

/-- The unit is polled as the power setting of the mirror asks for: the mode,
the polling period, and the debug requests. -/
structure PollsByPower (s : UnitState) : Prop where
  mode : s.gKTSGlobal.runningMode = powerMode s.gRDEeprom
  period :
    pollingBaseMilliseconds s.gKTSGlobal.runningMode =
      if s.gRDEeprom setPowerOnAddress = 0 then pollingBasePowerOffMilliseconds
      else pollingBasePowerOnSerialMilliseconds
  notDebugged : s.gRDEeprom setPowerOnAddress = 0 → ∀ inp, debugRequest inp s = s
  debugged :
    s.gRDEeprom setPowerOnAddress ≠ 0 → s.eepromDataReceived = false → ∀ inp,
      expired inp 2 s.gKTSGlobal.pollingDebugDataTimer pollingDebugDataMilliseconds = true →
        (debugRequest inp s).outputs =
          s.outputs ++ [.uartWrite (comSendRequestDataDebug inp.stack)]

/-- An iteration that ends connected leaves the polling as the mirror asks for. -/
def ModeFollows (e : Event) (s : UnitState) : Prop :=
  match e with
  | .iterate _ => (step e s).wbmComState = .wbmConnected → PollsByPower (step e s)
  | _ => True

theorem powerMode_eq (m : Memory) :
    powerMode m = modeOf (m setPowerOnAddress) := by
  rfl

theorem modeOf_eq_iff (v v' : UInt8) :
    modeOf v = modeOf v' ↔ (v = 0 ↔ v' = 0) := by
  unfold modeOf
  by_cases hv : v = 0 <;> by_cases hv' : v' = 0 <;> simp [hv, hv']

/-- The period and the debug requests follow from the mode. -/
theorem pollsByPower_iff (s : UnitState) :
    PollsByPower s ↔ s.gKTSGlobal.runningMode = powerMode s.gRDEeprom := by
  constructor
  · exact PollsByPower.mode
  · intro hmode
    rw [powerMode_eq] at hmode
    refine ⟨hmode, ?_, fun hoff inp => ?_, fun hon hidle inp hexpired => ?_⟩
    · rw [hmode]
      unfold modeOf
      by_cases hoff : s.gRDEeprom setPowerOnAddress = 0
      · rw [if_pos hoff, if_pos hoff]
        rfl
      · rw [if_neg hoff, if_neg hoff]
        rfl
    · have hstopped : ¬ s.gKTSGlobal.runningMode = .running := by
        rw [hmode, modeOf, if_pos hoff]
        decide
      unfold debugRequest
      rw [if_neg hstopped]
    · have hrunning : s.gKTSGlobal.runningMode = .running := by
        rw [hmode, modeOf, if_neg hon]
      unfold debugRequest
      rw [if_pos hrunning, if_pos hexpired, if_neg (by simp [hidle])]
      rfl

/-! ## What is stored at the power setting -/

/-- What a client's write stores there, if it is accepted. -/
def ClientWrite.setPowerOn (w : ClientWrite) : Option UInt8 :=
  if w.payload.length < 241 then none else some (ofBytes w.payload setPowerOnAddress)

/-- What a block stores there, if it reaches it. -/
def StoredBlock.setPowerOn (b : StoredBlock) : Option UInt8 :=
  if b.start ≤ setPowerOnAddress ∧ setPowerOnAddress < b.start + b.count then
    some (b.buffer (irsrStartDataEeprom + (setPowerOnAddress - b.start)))
  else none

/-- What an event stores at the power setting, in order: a reply, and the
clients' images. -/
def powerStores (e : Event) (s : UnitState) : List UInt8 :=
  match e with
  | .iterate inp =>
      ((storedBlock inp s).bind StoredBlock.setPowerOn).toList ++
        if Transmits inp s then inp.duringTx.filterMap ClientWrite.setPowerOn else []
  | .clientWrite w => w.setPowerOn.toList
  | _ => []

/-- The handshake ends in an event. -/
def EndsHandshake (e : Event) (s : UnitState) : Prop :=
  match e with
  | .iterate _ => s.wbmComState = .wbmCommunicating ∧ s.currentState = .connected
  | _ => False

instance decidableEndsHandshake (e : Event) (s : UnitState) : Decidable (EndsHandshake e s) :=
  match e with
  | .iterate _ => inferInstanceAs (Decidable (_ ∧ _))
  | .uartData _ | .clientWrite _ | .mqttReady _ | .unitUpdateTask _ | .firmwareStored _ =>
      isFalse id

/-! ## The record -/

/-- What was stored at the power setting. -/
structure PowerRecord where
  /-- what was there when the handshake ended -/
  atConnection : UInt8
  /-- what was stored last -/
  latest : UInt8

/-- A record, and the state. -/
abbrev RecordedState := PowerRecord × UnitState

def recordedStep (e : Event) (s : RecordedState) : RecordedState :=
  ({ atConnection := if EndsHandshake e s.2 then s.1.latest else s.1.atConnection
     latest := (powerStores e s.2).getLastD s.1.latest },
    step e s.2)

/-- An iteration that ends connected ends with a value last stored that means
the same as the value at the end of the handshake. -/
def PowerKept (e : Event) (s : RecordedState) : Prop :=
  match e with
  | .iterate _ =>
      (step e s.2).wbmComState = .wbmConnected →
        ((recordedStep e s).1.latest = 0 ↔ (recordedStep e s).1.atConnection = 0)
  | _ => True

/-! ## Storing -/

section Storing

variable (inp : IterationInput) {s : UnitState}

/-- The power setting is none of the counters. -/
theorem setPowerOnAddress_ne_cntUpdateAddress (c : CountedSection) :
    setPowerOnAddress ≠ c.cntUpdateAddress := by
  cases c <;> decide

theorem power_clientWrite (w : ClientWrite) (s : UnitState) :
    (clientWrite w s).gRDEeprom setPowerOnAddress =
      w.setPowerOn.toList.getLastD (s.gRDEeprom setPowerOnAddress) := by
  unfold ClientWrite.setPowerOn
  by_cases hshort : w.payload.length < 241
  · rw [clientWrite_rejected w s hshort, if_pos hshort]
    rfl
  · have hlong : 241 ≤ w.payload.length := Nat.le_of_not_lt hshort
    have hcopied := copyEepromPayload_eqOn hlong s.gRDEeprom .settingPar
      ((EepromSection.mem_range_iff .settingPar setPowerOnAddress).mpr (by decide))
    rw [(clientWrite_accepted w s hlong).1, if_neg hshort, hcopied]
    rfl

theorem power_clientWrites (ws : List ClientWrite) (s : UnitState) :
    (ws.foldl (fun s w => clientWrite w s) s).gRDEeprom setPowerOnAddress =
      (ws.filterMap ClientWrite.setPowerOn).getLastD (s.gRDEeprom setPowerOnAddress) := by
  induction ws generalizing s with
  | nil => rfl
  | cons w ws ih =>
      rw [List.foldl_cons, ih, power_clientWrite, List.filterMap_cons]
      cases w.setPowerOn with
      | none => rfl
      | some v => exact (List.getLastD_cons ..).symm

theorem power_memcpy (m : Memory) (b : StoredBlock) :
    memcpy m b.start b.buffer irsrStartDataEeprom b.count setPowerOnAddress =
      b.setPowerOn.toList.getLastD (m setPowerOnAddress) := by
  unfold memcpy StoredBlock.setPowerOn
  split
  · rfl
  · rfl

/-- A reply stores what its block does; those to a write request change the
counters alone. -/
theorem power_receive
    (hconn : s.wbmComState = .wbmConnected) :
    (receive inp (beforeReceive inp s)).gRDEeprom setPowerOnAddress =
      ((storedBlock inp s).bind StoredBlock.setPowerOn).toList.getLastD
        (s.gRDEeprom setPowerOnAddress) := by
  have hport : (beforeReceive inp s).port = s.port := (sameData_beforeReceive inp s).port
  have hmirror : (beforeReceive inp s).gRDEeprom = s.gRDEeprom :=
    (sameData_beforeReceive inp s).gRDEeprom
  have hcase := receive_case inp (beforeReceive inp s)
  generalize receive inp (beforeReceive inp s) = s' at hcase
  unfold storedBlock
  dsimp only
  rw [hconn]
  cases hcase with
  | @reply reply hgt hreply =>
      rw [hport] at hgt hreply
      obtain ⟨published, -, heq⟩ := handleReply_eq inp
        { beforeReceive inp s with
          valRet := (readMessage (beforeReceive inp s).port).1
          port := (readMessage (beforeReceive inp s).port).2
          globalTimeoutMilliseconds := inp.millis 13 } reply
      rw [heq, if_pos hgt, hreply, hport]
      unfold parseReply
      cases reply with
      | pollingBase =>
          dsimp only
          rw [pollingBaseDataParse_eq, if_neg (by decide)]
          exact congrFun hmirror _
      | dataDebug =>
          dsimp only
          rw [if_neg (by decide)]
          exact congrFun hmirror _
      | readEeprom =>
          dsimp only
          rw [if_pos rfl, ← hmirror]
          exact power_memcpy _
            { start := ((readMessage s.port).2.buffSer1 irsrAddrByteStartEep).toNat
              count := ((readMessage s.port).2.buffSer1 irsrAddrNumByteEep).toNat
              buffer := (readMessage s.port).2.buffSer1 }
      | writeEeprom =>
          dsimp only
          rw [writeEepromDataParse_eq, if_neg (by decide)]
          dsimp only
          rw [withCounters_of_ne _ _ setPowerOnAddress_ne_cntUpdateAddress, hmirror]
          rfl
  | unknown hgt hnone =>
      rw [hport] at hgt hnone
      rw [if_pos hgt, hnone, if_neg (by decide)]
      exact congrFun hmirror _
  | rejected hneg =>
      rw [hport] at hneg
      rw [if_neg (not_lt.mpr (le_runDownload_of_neg hneg))]
      exact congrFun hmirror _
  | nothing hle hnonneg =>
      rw [hport] at hle
      rw [if_neg (not_lt.mpr hle)]
      exact congrFun hmirror _

/-- A section of the handshake stores what its block does. -/
theorem power_readEeprom
    (field : EepromField) (request : UnitState → UnitState) (next : ConnectState)
    (hcomm : s.wbmComState = .wbmCommunicating)
    (hfield : sectionField s.currentState = some field)
    (hrequest : ∀ s', (request s').gRDEeprom = s'.gRDEeprom) :
    (readEeprom inp field request next s).gRDEeprom setPowerOnAddress =
      ((storedBlock inp s).bind StoredBlock.setPowerOn).toList.getLastD
        (s.gRDEeprom setPowerOnAddress) := by
  unfold readEeprom awaitReply storedBlock
  dsimp only
  rw [hcomm, hfield]
  split
  · simp
  · split
    · unfold sectionReply
      dsimp only
      rw [hrequest]
      exact power_memcpy s.gRDEeprom
        { start := field.offsetof
          count := ((readMessage s.port).2.buffSer1 irsrAddrNumByteEep).toNat
          buffer := (readMessage s.port).2.buffSer1 }
    · rfl

theorem power_connectToUnit
    (hcomm : s.wbmComState = .wbmCommunicating) :
    (connectToUnit inp s).gRDEeprom setPowerOnAddress =
      ((storedBlock inp s).bind StoredBlock.setPowerOn).toList.getLastD
        (s.gRDEeprom setPowerOnAddress) := by
  have hkept : sectionField s.currentState = none →
      ((storedBlock inp s).bind StoredBlock.setPowerOn).toList.getLastD
        (s.gRDEeprom setPowerOnAddress) = s.gRDEeprom setPowerOnAddress := by
    intro hnone
    have hblock : storedBlock inp s = none := by
      simp [storedBlock, hcomm, hnone]
    rw [hblock]
    rfl
  unfold connectToUnit
  cases hstate : s.currentState with
  | init =>
      rw [hkept (by rw [hstate]; rfl)]
  | linkConnecting =>
      rw [hkept (by rw [hstate]; rfl)]
      exact congrFun (link_image inp s).1.1 _
  | trySerialLink =>
      rw [hkept (by rw [hstate]; rfl)]
      exact congrFun (link_image inp s).2.1 _
  | linkConnected =>
      rw [hkept (by rw [hstate]; rfl)]
      rfl
  | readEepromInfo =>
      exact power_readEeprom inp _ _ _ hcomm (by rw [hstate]; rfl) fun _ => rfl
  | readEepromConfiguration =>
      exact power_readEeprom inp _ _ _ hcomm (by rw [hstate]; rfl) fun _ => rfl
  | readEepromSettingPar =>
      exact power_readEeprom inp _ _ _ hcomm (by rw [hstate]; rfl) fun _ => rfl
  | readEepromSetTemp =>
      exact power_readEeprom inp _ _ _ hcomm (by rw [hstate]; rfl) fun _ => rfl
  | readEepromDayProg =>
      exact power_readEeprom inp _ _ _ hcomm (by rw [hstate]; rfl) fun _ => rfl
  | readEepromHwSetting =>
      exact power_readEeprom inp _ _ _ hcomm (by rw [hstate]; rfl) fun _ => rfl
  | pollingBase =>
      rw [hkept (by rw [hstate]; rfl)]
      have hcase := awaitReply_case inp s (pollingReply inp)
      dsimp only
      generalize awaitReply inp (pollingReply inp) s = s' at hcase ⊢
      cases hcase with
      | lost _ => rfl
      | replied _ _ => rfl
      | waiting _ _ => rfl
  | connected =>
      rw [hkept (by rw [hstate]; rfl)]
      exact congrFun (connected_image inp s).1 _
  | bootloaderState =>
      rw [hkept (by rw [hstate]; rfl)]
      exact congrFun (bootloader_image inp s).1.1 _
  | bootloaderState1 =>
      rw [hkept (by rw [hstate]; rfl)]
      exact congrFun (bootloader_image inp s).2.1 _
  | bootloaderStateEnd =>
      rw [hkept (by rw [hstate]; rfl)]

theorem getLastD_append
    {α : Type*} (l l' : List α) (a : α) :
    (l ++ l').getLastD a = l'.getLastD (l.getLastD a) := by
  induction l generalizing a with
  | nil => rfl
  | cons b l ih =>
      rw [List.cons_append, List.getLastD_cons, List.getLastD_cons, ih]

/-- While the scheduler transmits, clients store there. -/
theorem power_connectedIteration
    (hconn : s.wbmComState = .wbmConnected) :
    (connectedIteration inp s).gRDEeprom setPowerOnAddress =
      (powerStores (.iterate inp) s).getLastD (s.gRDEeprom setPowerOnAddress) := by
  have hreceive := power_receive inp hconn
  unfold connectedIteration powerStores
  dsimp only
  rw [getLastD_append, ← hreceive]
  generalize hs' : receive inp (beforeReceive inp s) = s' at hreceive
  rcases scheduler_cases inp s' with ⟨hsame, hidle⟩ | ⟨bit, mask, service, hflag, hnext, hrun⟩
  · have hquiet : ¬ Transmits inp s := by
      rintro ⟨-, hflag, hnext⟩
      rw [hs'] at hflag hnext
      rcases hidle with hzero | hbusy | hnone
      · rw [hzero] at hnext
        exact absurd hnext (by decide)
      · rw [hflag] at hbusy
        cases hbusy
      · rw [hnone] at hnext
        cases hnext
    rw [hsame, if_neg hquiet]
    rfl
  · have htransmits : Transmits inp s := by
      refine ⟨hconn, ?_, ?_⟩
      · rw [hs']
        exact hflag
      · rw [hs', hnext]
        rfl
    rw [hrun, if_pos htransmits]
    dsimp only
    rw [power_clientWrites, (sendService_image inp s' service).1]

/-- What every event leaves at the power setting is what it stores there last. -/
theorem power_step (e : Event) (s : UnitState) :
    (step e s).gRDEeprom setPowerOnAddress =
      (powerStores e s).getLastD (s.gRDEeprom setPowerOnAddress) := by
  cases e with
  | iterate inp =>
      simp only [step]
      cases hwbm : s.wbmComState with
      | wbmInitialize =>
          simp [unitEventTask, hwbm, powerStores, storedBlock, Transmits, UnitState.emitAll]
      | wbmCommunicating =>
          have hquiet : ¬ Transmits inp s := fun h => absurd (hwbm.symm.trans h.1) (by decide)
          simp only [unitEventTask, hwbm, powerStores, if_neg hquiet, List.append_nil]
          exact power_connectToUnit inp hwbm
      | wbmConnected =>
          rw [unitEventTask_connected inp hwbm]
          exact power_connectedIteration inp hwbm
      | wbmError =>
          simp [unitEventTask, hwbm, powerStores, storedBlock, Transmits, UnitState.emitAll]
  | clientWrite w => exact power_clientWrite w s
  | uartData data => rfl
  | mqttReady ready => rfl
  | unitUpdateTask running => rfl
  | firmwareStored content => rfl

end Storing

/-! ## The mode -/

/-- Two states between which the unit has not been connected, with the same mode. -/
structure StaysUnconnected (s s' : UnitState) : Prop where
  unconnected : s'.wbmComState ≠ .wbmConnected
  runningMode : s'.gKTSGlobal.runningMode = s.gKTSGlobal.runningMode

section Mode

variable (inp : IterationInput) {s : UnitState}

theorem StaysUnconnected.of_communicating
    {s' : UnitState} (hcomm : s'.wbmComState = .wbmCommunicating)
    (hmode : s'.gKTSGlobal = s.gKTSGlobal) :
    StaysUnconnected s s' := by
  refine ⟨?_, by rw [hmode]⟩
  rw [hcomm]
  decide

theorem staysUnconnected_awaitReply
    (reply : UnitState → UnitState)
    (hcomm : s.wbmComState = .wbmCommunicating)
    (hstate : ∀ s', (reply s').wbmComState = s'.wbmComState)
    (hmode : ∀ s', (reply s').gKTSGlobal = s'.gKTSGlobal) :
    StaysUnconnected s (awaitReply inp reply s) := by
  have hcase := awaitReply_case inp s reply
  generalize awaitReply inp reply s = s' at hcase ⊢
  cases hcase with
  | lost _ => exact ⟨by rintro ⟨⟩, rfl⟩
  | replied _ _ => exact .of_communicating ((hstate _).trans hcomm) (hmode _)
  | waiting _ _ => exact .of_communicating hcomm rfl

theorem staysUnconnected_readEeprom
    (field : EepromField) (request : UnitState → UnitState) (next : ConnectState)
    (hcomm : s.wbmComState = .wbmCommunicating)
    (hrequest : ∀ s', (request s').wbmComState = s'.wbmComState ∧
      (request s').gKTSGlobal = s'.gKTSGlobal) :
    StaysUnconnected s (readEeprom inp field request next s) :=
  staysUnconnected_awaitReply inp _ hcomm (fun s' => (hrequest (storeSection field s')).1)
    fun s' => (hrequest (storeSection field s')).2

theorem staysUnconnected_link
    (hcomm : s.wbmComState = .wbmCommunicating) :
    StaysUnconnected s (linkConnecting inp s) ∧ StaysUnconnected s (trySerialLink inp s) := by
  constructor
  · have hcase := linkConnecting_case inp s
    generalize linkConnecting inp s = s' at hcase ⊢
    cases hcase with
    | sent _ => exact .of_communicating hcomm rfl
    | silent _ => exact .of_communicating hcomm rfl
  · have hcase := trySerialLink_case inp s
    generalize trySerialLink inp s = s' at hcase ⊢
    cases hcase with
    | anew _ _ => exact .of_communicating rfl rfl
    | again _ _ => exact .of_communicating hcomm rfl
    | read _ _ _ => exact .of_communicating hcomm rfl

theorem staysUnconnected_bootloader
    (hcomm : s.wbmComState = .wbmCommunicating) :
    StaysUnconnected s (bootloaderState inp s) ∧ StaysUnconnected s (bootloaderState1 s) := by
  constructor
  · have hcase := bootloaderState_case inp s
    generalize bootloaderState inp s = s' at hcase ⊢
    cases hcase with
    | held _ => exact .of_communicating hcomm rfl
    | header _ _ _ _ => exact .of_communicating hcomm rfl
  · have hcase := bootloaderState1_case s
    generalize bootloaderState1 s = s' at hcase ⊢
    cases hcase with
    | waiting _ => exact .of_communicating hcomm rfl
    | acknowledged _ _ _ _ _ _ => exact .of_communicating hcomm rfl

/-- Only the last state of the handshake connects and sets the mode. -/
theorem staysUnconnected_connectToUnit
    (hcomm : s.wbmComState = .wbmCommunicating) (hstate : s.currentState ≠ .connected) :
    StaysUnconnected s (connectToUnit inp s) := by
  unfold connectToUnit
  cases hc : s.currentState with
  | init => exact .of_communicating hcomm rfl
  | linkConnecting => exact (staysUnconnected_link inp hcomm).1
  | trySerialLink => exact (staysUnconnected_link inp hcomm).2
  | linkConnected => exact .of_communicating hcomm rfl
  | readEepromInfo => exact staysUnconnected_readEeprom inp _ _ _ hcomm fun _ => ⟨rfl, rfl⟩
  | readEepromConfiguration =>
      exact staysUnconnected_readEeprom inp _ _ _ hcomm fun _ => ⟨rfl, rfl⟩
  | readEepromSettingPar =>
      exact staysUnconnected_readEeprom inp _ _ _ hcomm fun _ => ⟨rfl, rfl⟩
  | readEepromSetTemp => exact staysUnconnected_readEeprom inp _ _ _ hcomm fun _ => ⟨rfl, rfl⟩
  | readEepromDayProg => exact staysUnconnected_readEeprom inp _ _ _ hcomm fun _ => ⟨rfl, rfl⟩
  | readEepromHwSetting =>
      exact staysUnconnected_readEeprom inp _ _ _ hcomm fun _ => ⟨rfl, rfl⟩
  | pollingBase => exact staysUnconnected_awaitReply inp _ hcomm (fun _ => rfl) fun _ => rfl
  | connected => exact absurd hc hstate
  | bootloaderState => exact (staysUnconnected_bootloader inp hcomm).1
  | bootloaderState1 => exact (staysUnconnected_bootloader inp hcomm).2
  | bootloaderStateEnd => exact .of_communicating hcomm rfl

theorem connected_runningMode (s : UnitState) :
    (connected inp s).gKTSGlobal.runningMode = powerMode s.gRDEeprom := by
  obtain ⟨outputs, -, heq⟩ := connected_eq inp s
  rw [heq]
  exact (noteEvents_control (pollingBaseData s.port.buffSer1).events
    (enterConnected inp s).gKTSGlobal).1

theorem connectedIteration_runningMode (s : UnitState) :
    (connectedIteration inp s).gKTSGlobal.runningMode = s.gKTSGlobal.runningMode := by
  unfold connectedIteration
  rw [(sameButImage_scheduler inp _).gKTSGlobal, ← (sameData_beforeReceive inp s).runningMode]
  exact (sameControl_receive inp (beforeReceive inp s)).runningMode

/-- The mode is set by the event that ends the handshake, and by no other. -/
theorem runningMode_step (e : Event) (s : UnitState) :
    (step e s).gKTSGlobal.runningMode =
      if EndsHandshake e s then powerMode s.gRDEeprom else s.gKTSGlobal.runningMode := by
  cases e with
  | iterate inp =>
      simp only [step]
      by_cases hends : EndsHandshake (.iterate inp) s
      · rw [if_pos hends]
        simp only [unitEventTask, hends.1, connectToUnit, hends.2]
        exact connected_runningMode inp s
      · rw [if_neg hends]
        cases hwbm : s.wbmComState with
        | wbmInitialize => simp [unitEventTask, hwbm, UnitState.emitAll]
        | wbmCommunicating =>
            simp only [unitEventTask, hwbm]
            have hstate : s.currentState ≠ .connected := fun hc => hends ⟨hwbm, hc⟩
            exact (staysUnconnected_connectToUnit inp hwbm hstate).runningMode
        | wbmConnected =>
            rw [unitEventTask_connected inp hwbm]
            exact connectedIteration_runningMode inp s
        | wbmError => simp [unitEventTask, hwbm, UnitState.emitAll]
  | clientWrite w =>
      rw [if_neg (show ¬ EndsHandshake (.clientWrite w) s from id)]
      exact congrArg ClktsGlobal.runningMode (sameButImage_clientWrite w s).gKTSGlobal
  | uartData data => exact (if_neg (show ¬ EndsHandshake (.uartData data) s from id)).symm
  | mqttReady ready => exact (if_neg (show ¬ EndsHandshake (.mqttReady ready) s from id)).symm
  | unitUpdateTask running =>
      exact (if_neg (show ¬ EndsHandshake (.unitUpdateTask running) s from id)).symm
  | firmwareStored content =>
      exact (if_neg (show ¬ EndsHandshake (.firmwareStored content) s from id)).symm

/-- Only the end of the handshake connects. -/
theorem connected_before
    (e : Event) (hafter : (step e s).wbmComState = .wbmConnected) :
    s.wbmComState = .wbmConnected ∨ EndsHandshake e s := by
  cases e with
  | iterate inp =>
      cases hwbm : s.wbmComState with
      | wbmInitialize => simp [step, unitEventTask, hwbm, UnitState.emitAll] at hafter
      | wbmCommunicating =>
          right
          refine ⟨hwbm, ?_⟩
          by_contra hstate
          simp only [step, unitEventTask, hwbm] at hafter
          exact (staysUnconnected_connectToUnit inp hwbm hstate).unconnected hafter
      | wbmConnected => exact Or.inl rfl
      | wbmError => simp [step, unitEventTask, hwbm, UnitState.emitAll] at hafter
  | clientWrite w => exact Or.inl ((sameButImage_clientWrite w s).wbmComState.symm.trans hafter)
  | uartData data => exact Or.inl hafter
  | mqttReady ready => exact Or.inl hafter
  | unitUpdateTask running => exact Or.inl hafter
  | firmwareStored content => exact Or.inl hafter

end Mode

/-! ## Runs -/

/-- The record tells the mirror and, once connected, the mode. -/
structure RecordTells (s : RecordedState) : Prop where
  latest : s.2.gRDEeprom setPowerOnAddress = s.1.latest
  mode :
    s.2.wbmComState = .wbmConnected → s.2.gKTSGlobal.runningMode = modeOf s.1.atConnection

/-- The gateway as it is started: nothing has been stored. -/
def recordedBoot (device : DeviceIdentity) (firmwareBin : Option (List UInt8))
    (partitionState : Bool) (millis : UInt32) : RecordedState :=
  ({ atConnection := 0, latest := 0 }, .boot device firmwareBin partitionState millis)

theorem recordTells_step
    (e : Event) {s : RecordedState} (h : RecordTells s) :
    RecordTells (recordedStep e s) where
  latest := by
    unfold recordedStep
    dsimp only
    rw [power_step, h.latest]
  mode := by
    intro hconn
    unfold recordedStep at *
    dsimp only at *
    rw [runningMode_step]
    by_cases hends : EndsHandshake e s.2
    · rw [if_pos hends, if_pos hends, powerMode_eq, h.latest]
    · rw [if_neg hends, if_neg hends]
      exact h.mode ((connected_before e hconn).resolve_right hends)

/-- An event leaves the polling as the mirror asks for exactly when the record
says that nothing of another meaning was stored last. -/
theorem modeFollows_iff
    (e : Event) {s : RecordedState} (h : RecordTells s) :
    ModeFollows e s.2 ↔ PowerKept e s := by
  have hnext := recordTells_step e h
  cases e with
  | iterate inp =>
      refine forall_congr' fun hconn => ?_
      have hmode := hnext.mode hconn
      have hlatest := hnext.latest
      generalize hs' : recordedStep (.iterate inp) s = s' at hmode hlatest ⊢
      have hstep : step (.iterate inp) s.2 = s'.2 := by
        rw [← hs']
        rfl
      rw [hstep, pollsByPower_iff, hmode, powerMode_eq, hlatest, modeOf_eq_iff]
      exact iff_comm
  | uartData data => exact Iff.rfl
  | clientWrite w => exact Iff.rfl
  | mqttReady ready => exact Iff.rfl
  | unitUpdateTask running => exact Iff.rfl
  | firmwareStored content => exact Iff.rfl

/-- In every iteration of a run that ends connected the unit is polled as the
power setting of the mirror asks for if and only if at the end of every such
iteration the value last stored there means the same, off or on, as the value
at the end of the handshake. -/
theorem runningMode_follows_iff
    (device : DeviceIdentity) (firmwareBin : Option (List UInt8)) (partitionState : Bool)
    (millis : UInt32) (es : List Event) :
    Along step ModeFollows es (.boot device firmwareBin partitionState millis) ↔
      Along recordedStep PowerKept es
        (recordedBoot device firmwareBin partitionState millis) := by
  have hboot : RecordTells (recordedBoot device firmwareBin partitionState millis) :=
    ⟨rfl, by rintro ⟨⟩⟩
  have hstate : ∀ e s, (recordedStep e s).2 = step e s.2 := fun _ _ => rfl
  rw [← along_congr_of_invariant (p := fun e s => ModeFollows e s.2)
    (fun e s h _ => recordTells_step e h) (fun e s h => modeFollows_iff e h) es hboot]
  exact (along_snd hstate ModeFollows es
    (recordedBoot device firmwareBin partitionState millis)).symm

section Example

/-- A client's image that turns the unit off: ones elsewhere. -/
def turnedOff : ClientWrite where
  overBle := true
  payload := (List.replicate 243 1).set setPowerOnAddress 0

/-- A client turns the unit off, and the gateway goes on as if it were running. -/
theorem turnedOff_mode_running :
    ¬ Along step ModeFollows
      (untilConnected (fun _ => 1) ++ [.clientWrite turnedOff, iterateAt 0]) freshBoard := by
  rw [along_append]
  generalize hs : run step (untilConnected fun _ => 1) freshBoard = s
  have hrunning : (step (iterateAt 0) (step (.clientWrite turnedOff) s)).wbmComState =
        .wbmConnected ∧
      (step (iterateAt 0) (step (.clientWrite turnedOff) s)).gKTSGlobal.runningMode ≠
        powerMode (step (iterateAt 0) (step (.clientWrite turnedOff) s)).gRDEeprom := by
    subst hs
    decide +kernel
  rintro ⟨-, -, hlast, -⟩
  exact hrunning.2 (hlast hrunning.1).mode

end Example

end UnitComm
end AvensysEsp32
