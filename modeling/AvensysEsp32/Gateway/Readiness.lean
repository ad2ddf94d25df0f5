import AvensysEsp32.Gateway.Refinement

/-!
# What BLE clients are told of the unit

`s_runtime_ready` is set by calls from the unit task alone.  While the unit is
connected BLE says so; BLE says so without a connection only until the unit task
comes round after it has lost the unit, and never again after that.
-/

namespace AvensysEsp32
namespace Gateway

open Foundation Serial UnitComm Ble Wifi Mqtt

/-- BLE is told that the unit is connected when it is; it may not yet have been
told that the unit is lost. -/
structure ReadinessTold (g : GatewayState) : Prop where
  connected : g.unit.wbmComState = .wbmConnected → g.ble.runtimeReady = true
  ready : g.ble.runtimeReady = true →
    g.unit.wbmComState = .wbmConnected ∨ g.unit.wbmComState = .wbmError

section Steps

variable (handles : HandleTable)

/-- The other tasks do not touch the flag. -/
theorem bleStep_runtimeReady
    {e : BleEvent} (he : ∀ ready, e ≠ .setRuntimeReady ready) (s : BleState) :
    (bleStep handles e s).runtimeReady = s.runtimeReady := by
  have happlied : ∀ payload s, (applyEepromPayload payload s).runtimeReady = s.runtimeReady :=
    fun payload s => (sameServer_applyEepromPayload payload s).runtimeReady
  have hwrite : ∀ inp allocated param,
      (Ble.handleWriteEvent handles inp allocated param s).runtimeReady = s.runtimeReady := by
    intro inp allocated param
    unfold Ble.handleWriteEvent
    dsimp only
    split
    · exact happlied _ _
    · split
      · rfl
      · split
        · rfl
        · split
          · rfl
          · rfl
  cases e with
  | gatts event =>
      cases event with
      | connect => rfl
      | disconnect => rfl
      | write inp allocated param =>
          show (gattsWrite handles inp allocated param s).runtimeReady = _
          unfold gattsWrite
          split
          · split
            · rfl
            · exact hwrite inp allocated param
          · exact hwrite inp allocated param
      | prepareWrite allocated param => rfl
      | execWrite exec => exact (sameServer_execWrite exec s).runtimeReady
  | provTimeout =>
      unfold bleStep
      dsimp only
      split
      · rfl
      · rfl
  | setRuntimeReady ready => exact absurd rfl (he ready)
  | task inp => rfl
  | gotIp => rfl
  | staDisconnected => rfl

theorem taskStep_runtimeReady (e : TaskEvent) (g : GatewayState) :
    (taskStep handles e g).ble.runtimeReady = g.ble.runtimeReady := by
  cases e with
  | gatts event => exact bleStep_runtimeReady handles (fun _ => by simp) g.ble
  | provTimeout => exact bleStep_runtimeReady handles (fun _ => by simp) g.ble
  | mqttTask inp => rfl
  | gotIp => rfl
  | staDisconnected => rfl
  | mqttStarted reads => rfl
  | maintenance inp => rfl
  | mqttClient tick event => rfl

theorem tasks_runtimeReady (es : List TaskEvent) (g : GatewayState) :
    (run (taskStep handles) es g).ble.runtimeReady = g.ble.runtimeReady := by
  induction es generalizing g with
  | nil => rfl
  | cons e es ih => exact (ih _).trans (taskStep_runtimeReady handles e g)

theorem taskStep_wbmComState (e : TaskEvent) (g : GatewayState) :
    (taskStep handles e g).unit.wbmComState = g.unit.wbmComState := by
  have hwrites := (sameButImage_clientWrites (clientWrites handles e g) g.unit).wbmComState
  cases e <;> exact hwrites

/-- Outputs that say nothing of readiness leave the flag alone. -/
theorem delivered_runtimeReady
    (os : List Output) (hos : ∀ o ∈ os, NotReadiness o) (g : GatewayState) :
    (os.foldl (deliver handles) g).ble.runtimeReady = g.ble.runtimeReady := by
  induction os generalizing g with
  | nil => rfl
  | cons o os ih =>
      rw [List.foldl_cons, ih (fun o ho => hos o (List.mem_cons_of_mem _ ho))]
      have ho := hos o List.mem_cons_self
      cases o with
      | bleSetRuntimeReady ready => exact absurd rfl (ho ready)
      | setAttrValue characteristic length value => cases characteristic <;> rfl
      | mqttSubscribeAppTopics address => rfl
      | uartWrite bytes => rfl
      | uart1Initialize1 => rfl
      | gpioSetWifiReady level => rfl
      | mqttPublish characteristic address value => rfl
      | createUnitUpdateTask => rfl

/-- The first output says whether the gateway is ready, the others do not. -/
theorem unitAt_runtimeReady_of_told
    {g : GatewayState} {unit : UnitState} {ready : Bool} {os : List Output}
    (hout : unit.outputs = g.unit.outputs ++ .bleSetRuntimeReady ready :: os)
    (hos : ∀ o ∈ os, NotReadiness o) :
    (unitAt handles unit g).ble.runtimeReady = ready := by
  unfold unitAt
  rw [newOutputs_eq hout, List.foldl_cons, delivered_runtimeReady handles os hos]
  rfl

theorem unitAt_runtimeReady_of_silent
    {g : GatewayState} {unit : UnitState} (h : EmitsOnly NotReadiness g.unit unit) :
    (unitAt handles unit g).ble.runtimeReady = g.ble.runtimeReady :=
  delivered_runtimeReady handles _ h.newOutputs _

/-- Only the end of the handshake connects. -/
theorem connectToUnit_not_connected
    (inp : IterationInput) {s : UnitState} (hwbm : s.wbmComState = .wbmCommunicating)
    (hs : s.currentState ≠ .connected) :
    (connectToUnit inp s).wbmComState ≠ .wbmConnected := by
  have hne : s.wbmComState ≠ .wbmConnected := by
    rw [hwbm]
    simp
  have hawait : ∀ reply : UnitState → UnitState,
      (∀ s, (reply s).wbmComState = s.wbmComState) →
      (awaitReply inp reply s).wbmComState ≠ .wbmConnected := by
    intro reply hreply
    have hcase := awaitReply_case inp s reply
    generalize awaitReply inp reply s = s' at hcase ⊢
    cases hcase with
    | lost _ => simp
    | replied _ _ =>
        rw [hreply]
        exact hne
    | waiting _ _ => exact hne
  unfold connectToUnit
  cases hc : s.currentState with
  | init => exact hne
  | linkConnecting =>
      have hcase := linkConnecting_case inp s
      dsimp only
      generalize linkConnecting inp s = s' at hcase ⊢
      cases hcase with
      | sent _ => exact hne
      | silent _ => exact hne
  | trySerialLink =>
      have hcase := trySerialLink_case inp s
      dsimp only
      generalize trySerialLink inp s = s' at hcase ⊢
      cases hcase with
      | anew _ _ => simp
      | again _ _ => exact hne
      | read _ _ _ => exact hne
  | linkConnected => exact hne
  | readEepromInfo => exact hawait _ fun _ => rfl
  | readEepromConfiguration => exact hawait _ fun _ => rfl
  | readEepromSettingPar => exact hawait _ fun _ => rfl
  | readEepromSetTemp => exact hawait _ fun _ => rfl
  | readEepromDayProg => exact hawait _ fun _ => rfl
  | readEepromHwSetting => exact hawait _ fun _ => rfl
  | pollingBase => exact hawait _ fun _ => rfl
  | connected => exact absurd hc hs
  | bootloaderState =>
      have hcase := bootloaderState_case inp s
      dsimp only
      generalize bootloaderState inp s = s' at hcase ⊢
      cases hcase with
      | held _ => exact hne
      | header _ _ _ _ => exact hne
  | bootloaderState1 =>
      have hcase := bootloaderState1_case s
      dsimp only
      generalize bootloaderState1 s = s' at hcase ⊢
      cases hcase with
      | waiting _ => exact hne
      | acknowledged _ _ _ _ _ _ => exact hne
  | bootloaderStateEnd => exact hne

/-- In `WBM_Connected` an iteration goes on or loses the unit, and the flag
stays up. -/
theorem connectedTask_readiness
    (inp : IterationInput) (during : List TaskEvent) {g : GatewayState}
    (hwbm : g.unit.wbmComState = .wbmConnected) :
    ((connectedTask handles inp during g).unit.wbmComState = .wbmConnected ∨
        (connectedTask handles inp during g).unit.wbmComState = .wbmError) ∧
      (connectedTask handles inp during g).ble.runtimeReady = g.ble.runtimeReady := by
  constructor
  · have hscheduled : (connectedTask handles inp during g).unit.wbmComState =
        (beforeReceive inp g.unit).wbmComState := by
      refine ((sameButImage_scheduler _ _).wbmComState.trans ?_).trans
        (sameControl_receive inp _).wbmComState
      show (beforeScheduler handles inp g).unit.wbmComState = _
      unfold beforeScheduler
      rw [unitAt_unit]
    rw [hscheduled]
    rcases beforeReceive_wbmComState inp g.unit with hsame | hlost
    · exact Or.inl (hsame.trans hwbm)
    · exact Or.inr hlost
  · refine (tasks_runtimeReady handles _ _).trans ?_
    exact unitAt_runtimeReady_of_silent handles
      ((emits_beforeReceive inp g.unit).notReadiness.trans (emits_receive inp _))

/-- The unit has been lost, and BLE knows. -/
structure LossTold (g : GatewayState) : Prop where
  lost : g.unit.wbmComState = .wbmError
  told : g.ble.runtimeReady = false

/-- After an error every iteration tells BLE that the unit is not there. -/
theorem unitTask_error
    (inp : IterationInput) (during : List TaskEvent) {g : GatewayState}
    (hwbm : g.unit.wbmComState = .wbmError) :
    LossTold (unitTask handles inp during g) := by
  have hstep : unitTask handles inp during g = unitAt handles (unitEventTask inp g.unit) g := by
    unfold unitTask
    rw [hwbm]
    rfl
  have hiterated : unitEventTask inp g.unit =
      { g.unit with extCnt := { g.unit.extCnt with initialized := false } }.emitAll
        [.bleSetRuntimeReady false, .gpioSetWifiReady false] := by
    simp only [unitEventTask, hwbm]
  rw [hstep]
  constructor
  · rw [unitAt_unit, hiterated]
    exact hwbm
  · have hout : (unitEventTask inp g.unit).outputs =
        g.unit.outputs ++ .bleSetRuntimeReady false :: [.gpioSetWifiReady false] := by
      rw [hiterated]
      rfl
    exact unitAt_runtimeReady_of_told handles hout (by simp [NotReadiness])

/-- Every step keeps BLE told. -/
theorem readinessTold_unitTask
    (inp : IterationInput) (during : List TaskEvent) {g : GatewayState} (h : ReadinessTold g) :
    ReadinessTold (unitTask handles inp during g) := by
  cases hwbm : g.unit.wbmComState with
  | wbmInitialize =>
      have hstep : unitTask handles inp during g = unitAt handles (unitEventTask inp g.unit) g := by
        unfold unitTask
        rw [hwbm]
        rfl
      have hiterated : unitEventTask inp g.unit =
          { g.unit with
            wbmComState := .wbmCommunicating
            currentState := .init
          }.emitAll [.bleSetRuntimeReady false, .gpioSetWifiReady true] := by
        simp only [unitEventTask, hwbm]
      have hready : (unitTask handles inp during g).ble.runtimeReady = false := by
        have hout : (unitEventTask inp g.unit).outputs =
            g.unit.outputs ++ .bleSetRuntimeReady false :: [.gpioSetWifiReady true] := by
          rw [hiterated]
          rfl
        rw [hstep]
        exact unitAt_runtimeReady_of_told handles hout (by simp [NotReadiness])
      constructor
      · intro hconnected
        rw [hstep, unitAt_unit, hiterated] at hconnected
        cases hconnected
      · intro htrue
        rw [hready] at htrue
        cases htrue
  | wbmCommunicating =>
      have hstep : unitTask handles inp during g = unitAt handles (connectToUnit inp g.unit) g := by
        unfold unitTask unitEventTask
        rw [hwbm]
        rfl
      have hdown : g.ble.runtimeReady = false := by
        rw [Bool.eq_false_iff]
        intro hready
        rcases h.ready hready with hcon | herr
        · rw [hwbm] at hcon
          cases hcon
        · rw [hwbm] at herr
          cases herr
      rw [hstep]
      by_cases hc : g.unit.currentState = .connected
      · have hconnects : connectToUnit inp g.unit = connected inp g.unit := by
          unfold connectToUnit
          rw [hc]
        obtain ⟨announced, hout, hquiet⟩ := connected_outputs inp g.unit
        have hready := unitAt_runtimeReady_of_told handles hout fun o ho => (hquiet o ho).1
        have hwbm' : (connected inp g.unit).wbmComState = .wbmConnected := by
          obtain ⟨outputs, -, heq⟩ := connected_eq inp g.unit
          rw [heq]
        rw [hconnects]
        exact ⟨fun _ => hready, fun _ => Or.inl (by rw [unitAt_unit, hwbm'])⟩
      · have hready := unitAt_runtimeReady_of_silent handles (g := g)
          (emits_connectToUnit inp hc).notReadiness
        constructor
        · intro hconnected
          rw [unitAt_unit] at hconnected
          exact absurd hconnected (connectToUnit_not_connected inp hwbm hc)
        · intro htrue
          rw [hready, hdown] at htrue
          cases htrue
  | wbmConnected =>
      have hstep : unitTask handles inp during g = connectedTask handles inp during g :=
        if_pos hwbm
      obtain ⟨hstate, hready⟩ := connectedTask_readiness handles inp during hwbm
      rw [hstep]
      exact ⟨fun _ => hready.trans (h.connected hwbm), fun _ => hstate⟩
  | wbmError =>
      obtain ⟨hstate, hready⟩ := unitTask_error handles inp during hwbm
      constructor
      · intro hconnected
        rw [hstate] at hconnected
        cases hconnected
      · exact fun _ => Or.inr hstate

theorem readinessTold_gatewayStep
    (e : GatewayEvent) {g : GatewayState} (h : ReadinessTold g) :
    ReadinessTold (gatewayStep handles e g) := by
  cases e with
  | unitTask inp during => exact readinessTold_unitTask handles inp during h
  | uartData data => exact ⟨h.connected, h.ready⟩
  | task e =>
      have hready := taskStep_runtimeReady handles e g
      have hwbm := taskStep_wbmComState handles e g
      constructor
      · intro hconnected
        exact hready.trans (h.connected (hwbm.symm.trans hconnected))
      · intro htrue
        have hold := h.ready (hready.symm.trans htrue)
        rw [← hwbm] at hold
        exact hold
  | unitUpdateTask running => exact ⟨h.connected, h.ready⟩
  | firmwareStored content => exact ⟨h.connected, h.ready⟩

/-- Once BLE has been told of the loss, it stays told. -/
theorem lossTold_gatewayStep
    (e : GatewayEvent) {g : GatewayState} (h : LossTold g) :
    LossTold (gatewayStep handles e g) := by
  cases e with
  | unitTask inp during => exact unitTask_error handles inp during h.lost
  | uartData data => exact ⟨h.lost, h.told⟩
  | task e =>
      exact ⟨(taskStep_wbmComState handles e g).trans h.lost,
        (taskStep_runtimeReady handles e g).trans h.told⟩
  | unitUpdateTask running => exact ⟨h.lost, h.told⟩
  | firmwareStored content => exact ⟨h.lost, h.told⟩

end Steps

/-! ## Runs -/

/-- Whatever the order of the gateway's steps, BLE says that the unit is there
while it is connected; when the unit has been lost, BLE says so from the next
iteration of the unit task on. -/
theorem readiness_told
    (handles : HandleTable) (device : DeviceIdentity) (firmwareBin : Option (List UInt8))
    (unitPartitionState : Bool) (millis : UInt32) (nvsSsid nvsPass : Option (List UInt8))
    (efuseMac : Option (Vector UInt8 6)) (nvs : EndpointNvs) (es : List GatewayEvent) :
    let g := run (gatewayStep handles) es
      (GatewayState.boot device firmwareBin unitPartitionState millis nvsSsid nvsPass efuseMac nvs)
    ReadinessTold g ∧
      ∀ (inp : IterationInput) (during : List TaskEvent) (es' : List GatewayEvent),
        g.unit.wbmComState = .wbmError →
        (run (gatewayStep handles) (.unitTask inp during :: es') g).ble.runtimeReady = false := by
  intro g
  constructor
  · have hany : Along (gatewayStep handles) (fun _ _ => True) es
        (GatewayState.boot device firmwareBin unitPartitionState millis nvsSsid nvsPass efuseMac
          nvs) :=
      Along.of_forall fun _ _ => trivial
    refine hany.invariant (fun e _ _ h => readinessTold_gatewayStep handles e h) ?_
    refine ⟨fun hconnected => ?_, fun hready => ?_⟩
    · cases hconnected
    · cases hready
  · intro inp during es' hlost
    have hany : Along (gatewayStep handles) (fun _ _ => True) es' (unitTask handles inp during g) :=
      Along.of_forall fun _ _ => trivial
    have hstart : LossTold (unitTask handles inp during g) :=
      unitTask_error handles inp during hlost
    have hrun : LossTold (run (gatewayStep handles) es' (unitTask handles inp during g)) :=
      hany.invariant (fun e _ _ h => lossTold_gatewayStep handles e h) hstart
    exact hrun.told

end Gateway
end AvensysEsp32
