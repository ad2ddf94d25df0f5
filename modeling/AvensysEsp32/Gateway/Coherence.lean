import AvensysEsp32.Gateway.Composition

/-!
# The parts agree on what they share

Each part of the gateway has its own account of what a client's image does to
the mirror, and its own copy of the flags.  In every state that the gateway
reaches, whatever the order of its steps, the copies agree: the gateway is one
machine over shared variables.
-/

namespace AvensysEsp32
namespace Gateway

open Foundation Serial UnitComm Ble Wifi Mqtt

/-- The copies of the shared variables agree. -/
structure Coherent (g : GatewayState) : Prop where
  image : g.ble.image = unitImage g.unit
  mirror : g.mqtt.gRDEeprom = g.unit.gRDEeprom
  ready : g.unit.isMqttReady = g.mqtt.isMqttReady
  wifi : g.mqtt.wifiConnectedFlag = g.ble.wifi.wifiConnectedFlag

/-! ## Images from clients -/

/-- What several payloads make of an image, one after the other. -/
def writeAll (payloads : List (List UInt8)) (image : EepromImage) : EepromImage :=
  payloads.foldl (fun image payload => image.write payload) image

@[simp] theorem writeAll_nil (image : EepromImage) :
    writeAll [] image = image := by
  rfl

@[simp] theorem writeAll_one (payload : List UInt8) (image : EepromImage) :
    writeAll [payload] image = image.write payload := by
  rfl

theorem writeAll_append (payloads payloads' : List (List UInt8)) (image : EepromImage) :
    writeAll (payloads ++ payloads') image = writeAll payloads' (writeAll payloads image) :=
  List.foldl_append

/-- The mirror that payloads lead to does not depend on the bits. -/
theorem writeAll_gRDEeprom
    (payloads : List (List UInt8)) {image image' : EepromImage}
    (h : image.gRDEeprom = image'.gRDEeprom) :
    (writeAll payloads image).gRDEeprom = (writeAll payloads image').gRDEeprom := by
  induction payloads generalizing image image' with
  | nil => exact h
  | cons payload payloads ih =>
      apply ih
      show (image.write payload).gRDEeprom = (image'.write payload).gRDEeprom
      unfold EepromImage.write
      split
      · exact h
      · rw [h]

section Parts

variable (handles : HandleTable)

theorem execWrite_image (exec : Bool) (s : BleState) :
    (execWriteEventEnv handles exec s).image =
      writeAll (blePayload handles (.execWrite exec) s).toList s.image := by
  rw [execWriteEventEnv_image]
  cases exec with
  | false => rfl
  | true =>
      unfold executed blePayload
      rw [if_pos rfl]
      dsimp only
      by_cases hhandle : s.prepareWriteEnv.prepareHandle = handles.eepromData
      · rw [if_pos hhandle]
        cases s.prepareWriteEnv.prepareBuf with
        | none => rfl
        | some buf => exact if_pos hhandle
      · rw [if_neg hhandle]
        cases s.prepareWriteEnv.prepareBuf with
        | none => rfl
        | some buf => exact if_neg hhandle

theorem gattsWrite_other_image
    {param : WriteParam} (hhandle : param.handle ≠ handles.eepromData)
    (inp : EnqueueInput) (allocated : Bool) (s : BleState) :
    (gattsWrite handles inp allocated param s).image = s.image := by
  have hwrite := handleWriteEvent_image handles inp allocated param s
  rw [if_neg hhandle] at hwrite
  unfold gattsWrite
  split
  · split
    · rfl
    · exact hwrite
  · exact hwrite

/-- What the BLE stack makes of the image. -/
theorem gatts_image (event : GattsEvent) (s : BleState) :
    (bleStep handles (.gatts event) s).image =
      writeAll (blePayload handles event s).toList s.image := by
  cases event with
  | connect => rfl
  | disconnect => rfl
  | write inp allocated param =>
      unfold blePayload
      by_cases hhandle : param.handle = handles.eepromData
      · dsimp only
        rw [if_pos hhandle]
        exact gattsWrite_image hhandle inp allocated s
      · dsimp only
        rw [if_neg hhandle]
        exact gattsWrite_other_image handles hhandle inp allocated s
  | prepareWrite allocated param => rfl
  | execWrite exec => exact execWrite_image handles exec s

/-- What the unit task makes of the images of clients. -/
theorem clientWrites_image (ws : List ClientWrite) (s : UnitState) :
    unitImage (ws.foldl (fun s w => clientWrite w s) s) =
      writeAll (ws.map ClientWrite.payload) (unitImage s) := by
  induction ws generalizing s with
  | nil => rfl
  | cons w ws ih =>
      rw [List.foldl_cons, ih, clientWrite_image]
      rfl

theorem clientWrites_isMqttReady (ws : List ClientWrite) (s : UnitState) :
    (ws.foldl (fun s w => clientWrite w s) s).isMqttReady = s.isMqttReady := by
  induction ws generalizing s with
  | nil => rfl
  | cons w ws ih =>
      rw [List.foldl_cons, ih]
      unfold clientWrite
      split
      · split
        · rfl
        · rfl
      · split
        · rfl
        · rfl

/-! ## The MQTT manager -/

theorem refresh_shared (force : Bool) (s : MqttState) :
    (mqttRefreshAppSubscriptions force s).gRDEeprom = s.gRDEeprom ∧
      (mqttRefreshAppSubscriptions force s).wifiConnectedFlag = s.wifiConnectedFlag := by
  obtain ⟨client, last, subscribed, heq, -⟩ := mqttRefreshAppSubscriptions_frame force s
  rw [heq]
  exact ⟨rfl, rfl⟩

theorem startSelected_shared (inp : PassInput) (s : MqttState) :
    (startSelected inp s).1.gRDEeprom = s.gRDEeprom ∧
      (startSelected inp s).1.wifiConnectedFlag = s.wifiConnectedFlag := by
  cases hvalid : mqttEndpointIsValid s.selectedEndpoint with
  | false =>
      rw [startSelected_invalid inp hvalid]
      exact ⟨rfl, rfl⟩
  | true =>
      rw [startSelected_valid inp hvalid]
      split
      · exact ⟨rfl, rfl⟩
      · exact ⟨rfl, rfl⟩

theorem keptUp_shared
    {s s₁ s' : MqttState} (h₁ : SameConnection (noticed s) s₁)
    (h : SameConnection (keptUp s s₁) s') :
    s'.gRDEeprom = s.gRDEeprom ∧ s'.wifiConnectedFlag = s.wifiConnectedFlag := by
  have hkept : (keptUp s s₁).gRDEeprom = s₁.gRDEeprom := by
    unfold keptUp
    split
    · exact (refresh_shared false s₁).1
    · rfl
  exact ⟨h.gRDEeprom.trans (hkept.trans h₁.gRDEeprom),
    h.wifiConnectedFlag.trans ((keptUp_wifiConnectedFlag s s₁).trans h₁.wifiConnectedFlag)⟩

/-- A pass of the maintenance leaves the mirror and the state of Wi-Fi alone. -/
theorem maintenance_shared (inp : PassInput) (s : MqttState) :
    (mqttConnectionMaintenance inp s).1.gRDEeprom = s.gRDEeprom ∧
      (mqttConnectionMaintenance inp s).1.wifiConnectedFlag = s.wifiConnectedFlag := by
  have hcase := mqttConnectionMaintenance_case inp s
  generalize mqttConnectionMaintenance inp s = pass at hcase
  have hstarted : ∀ {s'}, SameConnection (noticed s) s' →
      (startSelected inp s').1.gRDEeprom = s.gRDEeprom ∧
        (startSelected inp s').1.wifiConnectedFlag = s.wifiConnectedFlag := by
    intro s' hsame
    obtain ⟨hmirror, hwifi⟩ := startSelected_shared inp s'
    exact ⟨hmirror.trans hsame.gRDEeprom, hwifi.trans hsame.wifiConnectedFlag⟩
  cases hcase with
  | idle hsame _ => exact ⟨hsame.gRDEeprom, hsame.wifiConnectedFlag⟩
  | kept _ _ _ hsame₁ hsame _ => exact keptUp_shared hsame₁ hsame
  | @restarted s₁ s' hsame₁ hsame _ _ =>
      obtain ⟨hmirror, hwifi⟩ := startSelected_shared inp s'
      obtain ⟨hmirror', hwifi'⟩ := keptUp_shared hsame₁ hsame
      exact ⟨hmirror.trans hmirror', hwifi.trans hwifi'⟩
  | started _ _ hsame => exact hstarted hsame
  | recreated _ _ _ _ _ hsame => exact hstarted hsame
  | reconnected _ _ _ _ _ hsame _ =>
      split
      · exact ⟨hsame.gRDEeprom, hsame.wifiConnectedFlag⟩
      · exact ⟨hsame.gRDEeprom, hsame.wifiConnectedFlag⟩

theorem refreshIfChanged_wifi (s : MqttState) :
    (refreshIfChanged s).wifiConnectedFlag = s.wifiConnectedFlag := by
  unfold refreshIfChanged
  rw [mqttUpdateActiveSerialFromEeprom_eq]
  dsimp only
  split
  · exact (refresh_shared false _).2
  · rfl

theorem connectionLost_shared (error : MqttError) (tick : UInt32) (s : MqttState) :
    (connectionLost error tick s).gRDEeprom = s.gRDEeprom ∧
      (connectionLost error tick s).wifiConnectedFlag = s.wifiConnectedFlag :=
  ⟨rfl, rfl⟩

theorem subscribed_shared (tick : UInt32) (s : MqttState) :
    (mqttEventHandler tick .subscribed s).gRDEeprom = s.gRDEeprom ∧
      (mqttEventHandler tick .subscribed s).wifiConnectedFlag = s.wifiConnectedFlag := by
  rw [mqttEventHandler_eq]
  dsimp only
  split
  · exact ⟨rfl, rfl⟩
  · exact ⟨rfl, rfl⟩

theorem connected_shared (tick : UInt32) (s : MqttState) :
    (mqttEventHandler tick .connected s).gRDEeprom = s.gRDEeprom ∧
      (mqttEventHandler tick .connected s).wifiConnectedFlag = s.wifiConnectedFlag := by
  rw [mqttEventHandler_eq]
  dsimp only
  generalize hnoticed : ({ noticed s with
      mqttConnected := true
      mqttConsecutiveFailures := 0
      mqttReconnectAttempts := 0
      nextMqttRetryTick := 0
      lastError := .none
      hwIdSubscribed := false
      lastSerialSubscribed := [] } : MqttState) = s₁
  have hpublished := sameConnection_publish true tick (mqttRefreshAppSubscriptions true s₁)
  obtain ⟨hmirror, hwifi⟩ := refresh_shared true s₁
  subst hnoticed
  exact ⟨hpublished.gRDEeprom.trans hmirror, hpublished.wifiConnectedFlag.trans hwifi⟩

theorem writeEeprom_wifi (tick : UInt32) (payload : List UInt8) (s : MqttState) :
    (writeEeprom tick payload s).wifiConnectedFlag = s.wifiConnectedFlag := by
  unfold writeEeprom
  split
  · rfl
  · exact refreshIfChanged_wifi _

theorem data_shared (tick : UInt32) (topic payload : List UInt8) (s : MqttState) :
    (mqttEventHandler tick (.data topic payload) s).gRDEeprom =
        (writeAll (mqttPayload (.data topic payload) s).toList (mqttImage s)).gRDEeprom ∧
      (mqttEventHandler tick (.data topic payload) s).wifiConnectedFlag =
        s.wifiConnectedFlag := by
  have hhandled : mqttEventHandler tick (.data topic payload) s =
      if isEepromTopic topic (noticed s) then writeEeprom tick payload (noticed s)
      else noticed s :=
    mqttEventHandler_eq tick (.data topic payload) s
  have hpayload : mqttPayload (.data topic payload) s =
      if isEepromTopic topic (noticed s) then some payload else none := by
    unfold mqttPayload
    rw [mqttUpdateActiveSerialFromEeprom_eq]
    rfl
  rw [hhandled, hpayload]
  by_cases htopic : isEepromTopic topic (noticed s)
  · rw [if_pos htopic, if_pos htopic]
    exact ⟨congrArg EepromImage.gRDEeprom (writeEeprom_image tick payload (noticed s)),
      writeEeprom_wifi tick payload (noticed s)⟩
  · rw [if_neg htopic, if_neg htopic]
    exact ⟨rfl, rfl⟩

/-- What the client's events make of the mirror. -/
theorem mqttEventHandler_shared (tick : UInt32) (event : ClientEvent) (s : MqttState) :
    (mqttEventHandler tick event s).gRDEeprom =
        (writeAll (mqttPayload event s).toList (mqttImage s)).gRDEeprom ∧
      (mqttEventHandler tick event s).wifiConnectedFlag = s.wifiConnectedFlag := by
  cases event with
  | connected => exact connected_shared tick s
  | disconnected =>
      rw [mqttEventHandler_eq]
      exact connectionLost_shared .mqttDisconnected tick (noticed s)
  | subscribed => exact subscribed_shared tick s
  | unsubscribed =>
      rw [mqttEventHandler_eq]
      exact ⟨rfl, rfl⟩
  | published =>
      rw [mqttEventHandler_eq]
      exact ⟨rfl, rfl⟩
  | data topic payload => exact data_shared tick topic payload s
  | error =>
      rw [mqttEventHandler_eq]
      exact connectionLost_shared .mqttTransportError tick (noticed s)
  | other =>
      rw [mqttEventHandler_eq]
      exact ⟨rfl, rfl⟩

/-- The topics do not depend on the client. -/
theorem mqttPayload_client (event : ClientEvent) (client : Option MqttClient) (s : MqttState) :
    mqttPayload event { s with client := client } = mqttPayload event s := by
  unfold mqttPayload
  rw [mqttUpdateActiveSerialFromEeprom_eq, mqttUpdateActiveSerialFromEeprom_eq]
  cases event with
  | data topic payload => rfl
  | connected => rfl
  | disconnected => rfl
  | subscribed => rfl
  | unsubscribed => rfl
  | published => rfl
  | error => rfl
  | other => rfl

/-- A client that has been destroyed brings no image. -/
theorem mqttClient_shared (tick : UInt32) (event : ClientEvent) (s : MqttState) :
    (mqttStep (.client tick event) s).gRDEeprom =
        (writeAll (if s.client = none then [] else (mqttPayload event s).toList)
          (mqttImage s)).gRDEeprom ∧
      (mqttStep (.client tick event) s).wifiConnectedFlag = s.wifiConnectedFlag := by
  unfold mqttStep
  dsimp only
  cases hclient : s.client with
  | none => exact ⟨rfl, rfl⟩
  | some client =>
      rw [if_neg (by simp), ← mqttPayload_client event (some (client.after event)) s]
      exact mqttEventHandler_shared tick event { s with client := some (client.after event) }

/-! ## The unit task -/

theorem awaitReply_isMqttReady
    (inp : IterationInput) (s : UnitState) (reply : UnitState → UnitState)
    (hreply : ∀ s, (reply s).isMqttReady = s.isMqttReady) :
    (awaitReply inp reply s).isMqttReady = s.isMqttReady := by
  have hcase := awaitReply_case inp s reply
  generalize awaitReply inp reply s = s' at hcase ⊢
  cases hcase with
  | lost _ => rfl
  | replied _ _ => exact hreply _
  | waiting _ _ => rfl

theorem readEeprom_isMqttReady
    (inp : IterationInput) (s : UnitState) (field : EepromField)
    (request : UnitState → UnitState) (next : ConnectState)
    (hrequest : ∀ s, (request s).isMqttReady = s.isMqttReady) :
    (readEeprom inp field request next s).isMqttReady = s.isMqttReady :=
  awaitReply_isMqttReady inp s _ fun s => hrequest (storeSection field s)

theorem connectToUnit_isMqttReady (inp : IterationInput) (s : UnitState) :
    (connectToUnit inp s).isMqttReady = s.isMqttReady := by
  unfold connectToUnit
  cases hc : s.currentState with
  | init => rfl
  | linkConnecting =>
      have hcase := linkConnecting_case inp s
      dsimp only
      generalize linkConnecting inp s = s' at hcase ⊢
      cases hcase with
      | sent _ => rfl
      | silent _ => rfl
  | trySerialLink =>
      have hcase := trySerialLink_case inp s
      dsimp only
      generalize trySerialLink inp s = s' at hcase ⊢
      cases hcase with
      | anew _ _ => rfl
      | again _ _ => rfl
      | read _ _ _ => rfl
  | linkConnected => rfl
  | readEepromInfo => exact readEeprom_isMqttReady inp s _ _ _ fun _ => rfl
  | readEepromConfiguration => exact readEeprom_isMqttReady inp s _ _ _ fun _ => rfl
  | readEepromSettingPar => exact readEeprom_isMqttReady inp s _ _ _ fun _ => rfl
  | readEepromSetTemp => exact readEeprom_isMqttReady inp s _ _ _ fun _ => rfl
  | readEepromDayProg => exact readEeprom_isMqttReady inp s _ _ _ fun _ => rfl
  | readEepromHwSetting => exact readEeprom_isMqttReady inp s _ _ _ fun _ => rfl
  | pollingBase => exact awaitReply_isMqttReady inp s (pollingReply inp) fun _ => rfl
  | connected =>
      dsimp only
      obtain ⟨outputs, -, heq⟩ := connected_eq inp s
      rw [heq]
  | bootloaderState =>
      have hcase := bootloaderState_case inp s
      dsimp only
      generalize bootloaderState inp s = s' at hcase ⊢
      cases hcase with
      | held _ => rfl
      | header _ _ _ _ => rfl
  | bootloaderState1 =>
      have hcase := bootloaderState1_case s
      dsimp only
      generalize bootloaderState1 s = s' at hcase ⊢
      cases hcase with
      | waiting _ => rfl
      | acknowledged _ _ _ _ _ _ => rfl
  | bootloaderStateEnd => rfl

theorem receive_isMqttReady (inp : IterationInput) (s : UnitState) :
    (receive inp s).isMqttReady = s.isMqttReady := by
  have hcase := receive_case inp s
  generalize receive inp s = s' at hcase
  cases hcase with
  | @reply reply hgt hreply =>
      obtain ⟨published, -, heq⟩ := handleReply_eq inp
        { s with
          valRet := (readMessage s.port).1
          port := (readMessage s.port).2
          globalTimeoutMilliseconds := inp.millis 13 } reply
      rw [heq]
      cases reply with
      | pollingBase =>
          unfold parseReply
          dsimp only
          rw [pollingBaseDataParse_eq]
      | dataDebug => rfl
      | readEeprom => rfl
      | writeEeprom =>
          unfold parseReply
          dsimp only
          rw [writeEepromDataParse_eq]
  | unknown hgt hnone => rfl
  | rejected hneg => rfl
  | nothing hle hnonneg => rfl

theorem beforeScheduler_isMqttReady (inp : IterationInput) (s : UnitState) :
    (receive inp (beforeReceive inp s)).isMqttReady = s.isMqttReady :=
  (receive_isMqttReady inp _).trans (sameData_beforeReceive inp s).isMqttReady

/-- What the scheduler makes of the mirror: only clients change it. -/
theorem scheduler_gRDEeprom (inp : IterationInput) (s : UnitState) :
    (scheduler inp s).gRDEeprom =
      if requestDue s then
        (writeAll (inp.duringTx.map ClientWrite.payload) (unitImage s)).gRDEeprom
      else s.gRDEeprom := by
  rcases scheduler_cases inp s with ⟨hsame, hidle⟩ | ⟨bit, mask, service, hflag, hnext, hrun⟩
  · have hnone : requestDue s = false := by
      unfold requestDue
      rcases hidle with hzero | htrue | hnone
      · simp [hzero]
      · simp [htrue]
      · simp [hnone]
    rw [hsame, hnone]
    rfl
  · have hdue : requestDue s = true := by
      have hne : ¬ s.readEepromRequestIndex = 0#16 := by
        intro hzero
        have hnothing : nextService 0#16 = none := by decide
        rw [hzero, hnothing] at hnext
        cases hnext
      simp [requestDue, hne, hflag, hnext]
    rw [hrun, hdue, if_pos rfl]
    have hsent : unitImage (sendService inp service s) = unitImage s :=
      EepromImage.ext (sendService_image inp s service).1 (sendService_image inp s service).2
    rw [← hsent, ← clientWrites_image]
    rfl

/-! ## The steps of the gateway -/

theorem map_payload (overBle : Bool) (payload : Option (List UInt8)) :
    ((payload.map (ClientWrite.mk overBle)).toList).map ClientWrite.payload = payload.toList := by
  cases payload <;> rfl

/-- The images that come from clients are what the unit task stores. -/
theorem clientWrites_gRDEeprom
    {g : GatewayState} {image : EepromImage} (h : image.gRDEeprom = g.unit.gRDEeprom)
    (ws : List ClientWrite) :
    (writeAll (ws.map ClientWrite.payload) image).gRDEeprom =
      (ws.foldl (fun s w => clientWrite w s) g.unit).gRDEeprom := by
  have hstored := congrArg EepromImage.gRDEeprom (clientWrites_image ws g.unit)
  have hsame : image.gRDEeprom = (unitImage g.unit).gRDEeprom := h
  rw [writeAll_gRDEeprom _ hsame]
  exact hstored.symm

theorem coherent_bleTaskStep
    {g : GatewayState} {e : BleEvent} {ws : List ClientWrite} (h : Coherent g)
    (hble : (bleStep handles e g.ble).image =
      writeAll (ws.map ClientWrite.payload) g.ble.image) :
    Coherent (bleTaskStep handles ws e g) := by
  have himage : (bleTaskStep handles ws e g).ble.image =
      unitImage (bleTaskStep handles ws e g).unit := by
    show (bleStep handles e g.ble).image = unitImage (ws.foldl (fun s w => clientWrite w s) g.unit)
    rw [hble, clientWrites_image, h.image]
  refine ⟨himage, congrArg EepromImage.gRDEeprom himage, ?_, rfl⟩
  exact (clientWrites_isMqttReady ws g.unit).trans h.ready

theorem coherent_mqttManagerStep
    {g : GatewayState} {e : MqttEvent} {ws : List ClientWrite} (h : Coherent g)
    (hmqtt : (mqttStep e g.mqtt).gRDEeprom =
      (writeAll (ws.map ClientWrite.payload) (mqttImage g.mqtt)).gRDEeprom)
    (hwifi : (mqttStep e g.mqtt).wifiConnectedFlag = g.mqtt.wifiConnectedFlag) :
    Coherent (mqttManagerStep ws e g) := by
  have hmirror : (mqttStep e g.mqtt).gRDEeprom =
      (ws.foldl (fun s w => clientWrite w s) g.unit).gRDEeprom :=
    hmqtt.trans (clientWrites_gRDEeprom h.mirror ws)
  exact ⟨EepromImage.ext hmirror rfl, hmirror, rfl, hwifi.trans h.wifi⟩

/-- Passes and calls of the unit task bring no image. -/
theorem coherent_mqttManagerStep_nil
    {g : GatewayState} {e : MqttEvent} (h : Coherent g)
    (hshared : (mqttStep e g.mqtt).gRDEeprom = g.mqtt.gRDEeprom ∧
      (mqttStep e g.mqtt).wifiConnectedFlag = g.mqtt.wifiConnectedFlag) :
    Coherent (mqttManagerStep [] e g) :=
  coherent_mqttManagerStep h hshared.1 hshared.2

theorem taskStarted_shared (reads : NvsReads) (s : MqttState) :
    (mqttStep (.taskStarted reads) s).gRDEeprom = s.gRDEeprom ∧
      (mqttStep (.taskStarted reads) s).wifiConnectedFlag = s.wifiConnectedFlag := by
  unfold mqttStep
  dsimp only
  rw [mqttUpdateActiveSerialFromEeprom_eq]
  have hinit := sameConnection_endpointInitOnce reads
    { mqttInitHwIdOnce s with activeSerial := serialIn s.gRDEeprom }
  exact ⟨hinit.gRDEeprom, hinit.wifiConnectedFlag⟩

theorem provTimeout_image (s : BleState) :
    (bleStep handles .provTimeout s).image = s.image := by
  unfold bleStep
  dsimp only
  split
  · rfl
  · rfl

/-- A step of another task keeps the copies in agreement. -/
theorem coherent_taskStep
    {g : GatewayState} (e : TaskEvent) (h : Coherent g) :
    Coherent (taskStep handles e g) := by
  cases e with
  | gatts event =>
      apply coherent_bleTaskStep handles h
      rw [gatts_image]
      exact congrArg (writeAll · g.ble.image) (map_payload true _).symm
  | provTimeout => exact coherent_bleTaskStep handles h (provTimeout_image handles g.ble)
  | mqttTask inp => exact coherent_bleTaskStep handles h rfl
  | gotIp => exact coherent_bleTaskStep handles h rfl
  | staDisconnected => exact coherent_bleTaskStep handles h rfl
  | mqttStarted reads => exact coherent_mqttManagerStep_nil h (taskStarted_shared reads g.mqtt)
  | maintenance inp => exact coherent_mqttManagerStep_nil h (maintenance_shared inp g.mqtt)
  | mqttClient tick event =>
      obtain ⟨hmirror, hwifi⟩ := mqttClient_shared tick event g.mqtt
      refine coherent_mqttManagerStep h (hmirror.trans ?_) hwifi
      unfold clientWrites
      dsimp only
      split
      · rfl
      · rw [map_payload]

theorem taskStep_unitImage (e : TaskEvent) (g : GatewayState) :
    unitImage (taskStep handles e g).unit =
      writeAll ((clientWrites handles e g).map ClientWrite.payload) (unitImage g.unit) := by
  rw [← clientWrites_image]
  cases e <;> rfl

/-- While a request goes out, the images of clients are what changes the mirror. -/
theorem run_taskStep_unitImage (es : List TaskEvent) (g : GatewayState) :
    unitImage (run (taskStep handles) es g).unit =
      writeAll ((images (taskStep handles) (clientWrites handles) es g).map ClientWrite.payload)
        (unitImage g.unit) := by
  induction es generalizing g with
  | nil => rfl
  | cons e es ih =>
      rw [run_cons, ih, taskStep_unitImage, images, List.map_append, writeAll_append]

theorem coherent_tasks
    (es : List TaskEvent) {g : GatewayState} (h : Coherent g) :
    Coherent (run (taskStep handles) es g) := by
  induction es generalizing g with
  | nil => exact h
  | cons e es ih => exact ih (coherent_taskStep handles e h)

theorem coherent_deliver
    (o : Output) {g : GatewayState} (h : Coherent g) :
    Coherent (deliver handles g o) := by
  unfold deliver
  split
  · exact ⟨h.image, h.mirror, h.ready, h.wifi⟩
  · exact ⟨h.image, h.mirror, h.ready, h.wifi⟩
  · obtain ⟨hmirror, hwifi⟩ := refresh_shared false g.mqtt
    exact ⟨h.image, hmirror.trans h.mirror,
      h.ready.trans (sameSession_refresh false g.mqtt).isMqttReady.symm, hwifi.trans h.wifi⟩
  · exact h

/-- The unit task's new mirror is given to the others, and its calls carried out. -/
theorem coherent_unitAt
    {g : GatewayState} {unit : UnitState} (h : Coherent g)
    (hready : unit.isMqttReady = g.unit.isMqttReady) :
    Coherent (unitAt handles unit g) := by
  have hdelivered : ∀ (os : List Output) (g : GatewayState), Coherent g →
      Coherent (os.foldl (deliver handles) g) := by
    intro os
    induction os with
    | nil => exact fun _ h => h
    | cons o os ih => exact fun _ h => ih _ (coherent_deliver handles o h)
  apply hdelivered
  exact ⟨rfl, rfl, hready.trans h.ready, h.wifi⟩

theorem unitAt_unit (unit : UnitState) (g : GatewayState) :
    (unitAt handles unit g).unit = unit := by
  have hdelivered : ∀ (os : List Output) (g : GatewayState),
      (os.foldl (deliver handles) g).unit = g.unit := by
    intro os
    induction os with
    | nil => exact fun _ => rfl
    | cons o os ih =>
        intro g
        rw [List.foldl_cons, ih]
        unfold deliver
        split <;> rfl
  exact hdelivered _ _

theorem coherent_connectedTask
    (inp : IterationInput) (during : List TaskEvent) {g : GatewayState} (h : Coherent g) :
    Coherent (connectedTask handles inp during g) := by
  have hbefore : Coherent (beforeScheduler handles inp g) :=
    coherent_unitAt handles h (beforeScheduler_isMqttReady inp g.unit)
  have hothers := coherent_tasks handles (meanwhile handles inp during g) hbefore
  have hstored := run_taskStep_unitImage handles (meanwhile handles inp during g)
    (beforeScheduler handles inp g)
  have hmirror : (run (taskStep handles) (meanwhile handles inp during g)
        (beforeScheduler handles inp g)).unit.gRDEeprom =
      (scheduler { inp with duringTx := duringTx handles inp during g }
        (beforeScheduler handles inp g).unit).gRDEeprom := by
    rw [scheduler_gRDEeprom]
    split
    · exact congrArg EepromImage.gRDEeprom hstored
    · rename_i hidle
      unfold meanwhile
      rw [if_neg hidle]
      rfl
  refine ⟨EepromImage.ext ?_ rfl, ?_, rfl, hothers.wifi⟩
  · exact (congrArg EepromImage.gRDEeprom hothers.image).trans hmirror
  · exact hothers.mirror.trans hmirror

theorem unitEventTask_isMqttReady
    (inp : IterationInput) {s : UnitState} (hs : s.wbmComState ≠ .wbmConnected) :
    (unitEventTask inp s).isMqttReady = s.isMqttReady := by
  unfold unitEventTask
  cases hwbm : s.wbmComState with
  | wbmInitialize => rfl
  | wbmCommunicating => exact connectToUnit_isMqttReady inp s
  | wbmConnected => exact absurd hwbm hs
  | wbmError => rfl

/-- Every step of the gateway keeps the copies in agreement. -/
theorem coherent_gatewayStep
    (e : GatewayEvent) {g : GatewayState} (h : Coherent g) :
    Coherent (gatewayStep handles e g) := by
  cases e with
  | unitTask inp during =>
      unfold gatewayStep unitTask
      dsimp only
      split
      · exact coherent_connectedTask handles inp during h
      · rename_i hwbm
        exact coherent_unitAt handles h (unitEventTask_isMqttReady inp hwbm)
  | uartData data => exact ⟨h.image, h.mirror, h.ready, h.wifi⟩
  | task e => exact coherent_taskStep handles e h
  | unitUpdateTask running => exact ⟨h.image, h.mirror, h.ready, h.wifi⟩
  | firmwareStored content => exact ⟨h.image, h.mirror, h.ready, h.wifi⟩

end Parts

/-! ## Runs -/

section Runs

variable (device : DeviceIdentity) (firmwareBin : Option (List UInt8))
variable (unitPartitionState : Bool) (millis : UInt32) (nvsSsid nvsPass : Option (List UInt8))
variable (efuseMac : Option (Vector UInt8 6)) (nvs : EndpointNvs)

theorem coherent_boot :
    Coherent (GatewayState.boot device firmwareBin unitPartitionState millis nvsSsid nvsPass
      efuseMac nvs) :=
  ⟨rfl, rfl, rfl, rfl⟩

end Runs

end Gateway
end AvensysEsp32
