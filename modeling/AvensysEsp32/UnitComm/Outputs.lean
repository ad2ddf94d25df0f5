import AvensysEsp32.UnitComm.Sending

/-!
# What the task does outside its memory

The outputs of an iteration follow those made before.  Beside the messages to
the unit they are what the task tells BLE, MQTT and the board; whether the
gateway is ready is told when the task starts, when the handshake ends, and
again and again after an error, and at no other time.  What a polling or debug
reply has measured is told where the reply is handled, and nowhere else.
-/

namespace AvensysEsp32
namespace UnitComm

open Foundation Serial

/-- Between the two states only outputs with the property are made. -/
def EmitsOnly (p : Output → Prop) (s s' : UnitState) : Prop :=
  ∃ os, s'.outputs = s.outputs ++ os ∧ ∀ o ∈ os, p o

/-- The outputs made between two states. -/
def newOutputs (s s' : UnitState) : List Output :=
  s'.outputs.drop s.outputs.length

theorem newOutputs_eq
    {s s' : UnitState} {os : List Output} (h : s'.outputs = s.outputs ++ os) :
    newOutputs s s' = os := by
  unfold newOutputs
  rw [h, List.drop_left]

section EmitsOnly

variable {p : Output → Prop} {s s₁ s₂ s₃ : UnitState}

theorem EmitsOnly.newOutputs
    (h : EmitsOnly p s₁ s₂) :
    ∀ o ∈ newOutputs s₁ s₂, p o := by
  obtain ⟨os, hos, hp⟩ := h
  rw [newOutputs_eq hos]
  exact hp

theorem emitsOnly_of_outputs_eq
    (h : s₂.outputs = s₁.outputs) :
    EmitsOnly p s₁ s₂ :=
  ⟨[], by rw [h, List.append_nil], by simp⟩

theorem emitsOnly_of_append
    {os : List Output} (h : s₂.outputs = s₁.outputs ++ os) (hp : ∀ o ∈ os, p o) :
    EmitsOnly p s₁ s₂ :=
  ⟨os, h, hp⟩

theorem emitsOnly_of_append_one
    {o : Output} (h : s₂.outputs = s₁.outputs ++ [o]) (hp : p o) :
    EmitsOnly p s₁ s₂ :=
  ⟨[o], h, by simpa using hp⟩

theorem EmitsOnly.mono
    {q : Output → Prop} (h : EmitsOnly p s₁ s₂) (hpq : ∀ o, p o → q o) :
    EmitsOnly q s₁ s₂ := by
  obtain ⟨os, hos, hp⟩ := h
  exact ⟨os, hos, fun o ho => hpq o (hp o ho)⟩

theorem EmitsOnly.trans
    (h : EmitsOnly p s₁ s₂) (h' : EmitsOnly p s₂ s₃) :
    EmitsOnly p s₁ s₃ := by
  obtain ⟨os, hos, hp⟩ := h
  obtain ⟨os', hos', hp'⟩ := h'
  refine ⟨os ++ os', by rw [hos', hos, List.append_assoc], ?_⟩
  intro o ho
  rcases List.mem_append.mp ho with ho | ho
  · exact hp o ho
  · exact hp' o ho

end EmitsOnly

/-- An output that does not say whether the gateway is ready. -/
def NotReadiness (o : Output) : Prop :=
  ∀ ready, o ≠ .bleSetRuntimeReady ready

/-- The output carries what a polling or a debug reply has measured. -/
def carriesMeasures : Output → Bool
  | .setAttrValue characteristic _ _ => characteristic != .eepromData
  | .mqttPublish characteristic _ _ => characteristic != .eepromData
  | _ => false

/-- An output that tells neither readiness nor measures. -/
def Plain (o : Output) : Prop :=
  NotReadiness o ∧ carriesMeasures o = false

theorem EmitsOnly.notReadiness
    {s s' : UnitState} (h : EmitsOnly Plain s s') :
    EmitsOnly NotReadiness s s' :=
  h.mono fun _ ho => ho.1

section Stages

variable (inp : IterationInput) (s : UnitState)

theorem emits_beforeReceive :
    EmitsOnly Plain s (beforeReceive inp s) := by
  have htrigger : EmitsOnly Plain s (unitUpdateTrigger inp s) := by
    obtain ⟨-, -, -, -, -, -, hout | hout⟩ := unitUpdateTrigger_link inp s
    · exact emitsOnly_of_outputs_eq hout
    · exact emitsOnly_of_append_one hout ⟨fun _ => by simp, rfl⟩
  have hrequests : EmitsOnly Plain (unitUpdateTrigger inp s) (afterRequests inp s) := by
    rcases (requested_afterRequests inp s).sent with ⟨hout, -⟩ | ⟨w, -, -, -, hout⟩
    · exact emitsOnly_of_outputs_eq hout
    · exact emitsOnly_of_append_one hout ⟨fun _ => by simp, rfl⟩
  have htimeout : EmitsOnly Plain (afterRequests inp s) (beforeReceive inp s) := by
    rw [beforeReceive_eq]
    unfold globalTimeout
    split
    · exact emitsOnly_of_outputs_eq rfl
    · exact emitsOnly_of_outputs_eq rfl
  exact (htrigger.trans hrequests).trans htimeout

theorem emits_publishReply
    (characteristic : BleAttribute) (minLength : Nat) :
    EmitsOnly NotReadiness s (publishReply characteristic minLength s) := by
  have hpublished : EmitsOnly NotReadiness s
      (if s.isMqttReady then
        s.emit (.mqttPublish characteristic s.address (replyData s.port.buffSer1)) else s) := by
    split
    · exact emitsOnly_of_append_one rfl (fun _ => by simp)
    · exact emitsOnly_of_outputs_eq rfl
  unfold publishReply
  dsimp only
  split
  · exact hpublished.trans (emitsOnly_of_append_one rfl (fun _ => by simp))
  · exact hpublished.trans (emitsOnly_of_append_one rfl (fun _ => by simp))

theorem emits_publishEeprom :
    EmitsOnly Plain s (publishEeprom s) := by
  have hpublished : EmitsOnly Plain s
      (if s.isMqttReady then
        s.emit (.mqttPublish .eepromData s.address (eepromBytes s.gRDEeprom)) else s) := by
    split
    · exact emitsOnly_of_append_one rfl ⟨fun _ => by simp, rfl⟩
    · exact emitsOnly_of_outputs_eq rfl
  exact hpublished.trans (emitsOnly_of_append_one rfl ⟨fun _ => by simp, rfl⟩)

/-- A reply on the EEPROM measures nothing. -/
theorem emits_handleReply_eeprom
    {reply : Reply} (hreply : reply = .readEeprom ∨ reply = .writeEeprom) :
    EmitsOnly Plain s (handleReply inp reply s) := by
  rcases hreply with rfl | rfl
  · have hparsed : EmitsOnly Plain s (readEepromDataParse s.port.buffSer1 s) :=
      emitsOnly_of_outputs_eq rfl
    exact (hparsed.trans (emits_publishEeprom _)).trans (emitsOnly_of_outputs_eq rfl)
  · refine emitsOnly_of_outputs_eq ?_
    unfold handleReply
    dsimp only
    rw [writeEepromDataParse_eq]

theorem emits_handleReply (reply : Reply) :
    EmitsOnly NotReadiness s (handleReply inp reply s) := by
  cases reply with
  | pollingBase =>
      refine (emits_publishReply s .polling 40).trans (emitsOnly_of_outputs_eq ?_)
      unfold handleReply
      dsimp only
      rw [pollingBaseDataParse_eq]
  | dataDebug =>
      exact (emits_publishReply s .debugData 48).trans (emitsOnly_of_outputs_eq rfl)
  | readEeprom => exact (emits_handleReply_eeprom inp s (Or.inl rfl)).notReadiness
  | writeEeprom => exact (emits_handleReply_eeprom inp s (Or.inr rfl)).notReadiness

theorem emits_receive :
    EmitsOnly NotReadiness s (receive inp s) := by
  have hcase := receive_case inp s
  generalize receive inp s = s' at hcase
  cases hcase with
  | reply hgt hreply =>
      refine EmitsOnly.trans ?_ (emits_handleReply inp _ _)
      exact emitsOnly_of_outputs_eq rfl
  | unknown hgt hnone => exact emitsOnly_of_outputs_eq rfl
  | rejected hneg => exact emitsOnly_of_outputs_eq rfl
  | nothing hle hnonneg => exact emitsOnly_of_outputs_eq rfl

/-! ## The scheduler and the clients -/

theorem emits_clientWrite (w : ClientWrite) :
    EmitsOnly Plain s (clientWrite w s) := by
  unfold clientWrite
  split
  · split
    · exact emitsOnly_of_append_one rfl ⟨fun _ => by simp, rfl⟩
    · exact emitsOnly_of_outputs_eq rfl
  · split
    · exact emitsOnly_of_outputs_eq rfl
    · exact emitsOnly_of_outputs_eq rfl

theorem emits_clientWrites (ws : List ClientWrite) :
    EmitsOnly Plain s (ws.foldl (fun s w => clientWrite w s) s) := by
  induction ws generalizing s with
  | nil =>
      exact emitsOnly_of_outputs_eq rfl
  | cons w ws ih =>
      exact (emits_clientWrite s w).trans (ih (clientWrite w s))

theorem emits_sendService (service : Service) :
    EmitsOnly Plain s (sendService inp service s) := by
  cases service with
  | read sec => exact emitsOnly_of_append_one rfl ⟨fun _ => by simp, rfl⟩
  | write sec =>
      simp only [sendService, sendWriteEeprom]
      split
      · exact emitsOnly_of_append_one rfl ⟨fun _ => by simp, rfl⟩
      · exact emitsOnly_of_outputs_eq rfl
  | nothing => exact emitsOnly_of_outputs_eq rfl

theorem emits_scheduler :
    EmitsOnly Plain s (scheduler inp s) := by
  rcases scheduler_cases inp s with ⟨hsame, -⟩ | ⟨bit, mask, service, -, -, hrun⟩
  · exact emitsOnly_of_outputs_eq (congrArg UnitState.outputs hsame)
  · refine ((emits_sendService inp s service).trans (emits_clientWrites _ inp.duringTx)).trans ?_
    exact emitsOnly_of_outputs_eq (by rw [hrun])

/-! ## The handshake -/

theorem emits_awaitReply
    (reply : UnitState → UnitState) (hreply : ∀ s, EmitsOnly Plain s (reply s)) :
    EmitsOnly Plain s (awaitReply inp reply s) := by
  have hcase := awaitReply_case inp s reply
  generalize awaitReply inp reply s = s' at hcase ⊢
  cases hcase with
  | lost _ => exact emitsOnly_of_outputs_eq rfl
  | replied _ _ =>
      refine EmitsOnly.trans ?_ (hreply _)
      exact emitsOnly_of_outputs_eq rfl
  | waiting _ _ => exact emitsOnly_of_outputs_eq rfl

theorem emits_sendBlock :
    EmitsOnly Plain s (sendBlock s) := by
  unfold sendBlock
  dsimp only
  split
  · exact emitsOnly_of_append_one rfl ⟨fun _ => by simp, rfl⟩
  · split
    · exact emitsOnly_of_append rfl (by simp [Plain, NotReadiness, carriesMeasures])
    · exact emitsOnly_of_outputs_eq rfl

theorem emits_bootloaderState1 :
    EmitsOnly Plain s (bootloaderState1 s) := by
  unfold bootloaderState1
  dsimp only
  split
  · refine EmitsOnly.trans ?_ (emits_sendBlock _)
    exact emitsOnly_of_outputs_eq rfl
  · exact emitsOnly_of_outputs_eq rfl

/-- A state of the handshake that reads a section sends at most the next request. -/
theorem emits_readEeprom
    (field : EepromField) (request : UnitState → UnitState) (next : ConnectState)
    (hrequest : ∀ s, EmitsOnly Plain s (request s)) :
    EmitsOnly Plain s (readEeprom inp field request next s) := by
  apply emits_awaitReply
  intro s
  refine (EmitsOnly.trans ?_ (hrequest (storeSection field s))).trans ?_
  · exact emitsOnly_of_outputs_eq rfl
  · exact emitsOnly_of_outputs_eq rfl

theorem emits_sendReadEeprom (sec : EepromSection) :
    EmitsOnly Plain s (sendReadEeprom inp sec s) :=
  emitsOnly_of_append_one rfl ⟨fun _ => by simp, rfl⟩

theorem emits_sendPollingBase :
    EmitsOnly Plain s (sendPollingBase inp s) :=
  emitsOnly_of_append_one rfl ⟨fun _ => by simp, rfl⟩

/-- Until the handshake ends, neither readiness nor measures are mentioned. -/
theorem emits_connectToUnit
    {s : UnitState} (hs : s.currentState ≠ .connected) :
    EmitsOnly Plain s (connectToUnit inp s) := by
  unfold connectToUnit
  cases hc : s.currentState with
  | init => exact emitsOnly_of_outputs_eq rfl
  | linkConnecting =>
      have hcase := linkConnecting_case inp s
      dsimp only
      generalize linkConnecting inp s = s' at hcase ⊢
      cases hcase with
      | sent _ => exact emitsOnly_of_append_one rfl ⟨fun _ => by simp, rfl⟩
      | silent _ => exact emitsOnly_of_outputs_eq rfl
  | trySerialLink =>
      have hcase := trySerialLink_case inp s
      dsimp only
      generalize trySerialLink inp s = s' at hcase ⊢
      cases hcase with
      | anew _ _ => exact emitsOnly_of_append_one rfl ⟨fun _ => by simp, rfl⟩
      | again _ _ => exact emitsOnly_of_outputs_eq rfl
      | read _ _ _ => exact emitsOnly_of_outputs_eq rfl
  | linkConnected => exact emitsOnly_of_append_one rfl ⟨fun _ => by simp, rfl⟩
  | readEepromInfo => exact emits_readEeprom inp s _ _ _ fun s => emits_sendReadEeprom inp s _
  | readEepromConfiguration =>
      exact emits_readEeprom inp s _ _ _ fun s => emits_sendReadEeprom inp s _
  | readEepromSettingPar =>
      exact emits_readEeprom inp s _ _ _ fun s => emits_sendReadEeprom inp s _
  | readEepromSetTemp => exact emits_readEeprom inp s _ _ _ fun s => emits_sendReadEeprom inp s _
  | readEepromDayProg => exact emits_readEeprom inp s _ _ _ fun s => emits_sendReadEeprom inp s _
  | readEepromHwSetting => exact emits_readEeprom inp s _ _ _ fun s => emits_sendPollingBase inp s
  | pollingBase => exact emits_awaitReply inp s _ fun _ => emitsOnly_of_outputs_eq rfl
  | connected => exact absurd hc hs
  | bootloaderState =>
      have hcase := bootloaderState_case inp s
      dsimp only
      generalize bootloaderState inp s = s' at hcase ⊢
      cases hcase with
      | held _ => exact emitsOnly_of_outputs_eq rfl
      | header _ _ _ _ => exact emitsOnly_of_append_one rfl ⟨fun _ => by simp, rfl⟩
  | bootloaderState1 => exact emits_bootloaderState1 s
  | bootloaderStateEnd => exact emitsOnly_of_outputs_eq rfl

/-- At its end BLE is told that the gateway is ready, and the clients are given
the image. -/
theorem connected_outputs :
    ∃ announced, (connected inp s).outputs =
        s.outputs ++ .bleSetRuntimeReady true :: announced ∧
      ∀ o ∈ announced, Plain o := by
  have hannounced : ∀ s', EmitsOnly Plain s' (announceConnected s') := by
    intro s'
    unfold announceConnected seedExternalCounters UnitState.emit
    dsimp only
    split
    · rw [List.append_assoc, List.append_assoc]
      exact emitsOnly_of_append rfl (by simp [Plain, NotReadiness, carriesMeasures])
    · rw [List.append_assoc]
      exact emitsOnly_of_append rfl (by simp [Plain, NotReadiness, carriesMeasures])
  obtain ⟨announced, hout, hp⟩ := hannounced
    (pollingBaseDataParse (inp.millis 2) s.port.buffSer1 (enterConnected inp s))
  refine ⟨announced, ?_, hp⟩
  unfold connected
  rw [hout, pollingBaseDataParse_eq]
  unfold enterConnected UnitState.emit
  dsimp only
  rw [List.append_assoc, List.singleton_append]

end Stages

end UnitComm
end AvensysEsp32
