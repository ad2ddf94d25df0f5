import AvensysEsp32.UnitComm.Task

/-!
# What the task sends

The messages that each stage of the task hands to `Uart_Write`.  Only the
requests of the timers, the scheduler and the handshake reach the unit; the
firmware transfer sends characters that never begin a frame.
-/

namespace AvensysEsp32
namespace UnitComm

open Foundation Serial

/-- Between the two states the messages `ws` are sent. -/
def Sends (ws : List (List UInt8)) (s s' : UnitState) : Prop :=
  uartWrites s'.outputs = uartWrites s.outputs ++ ws

/-- The messages sent while an event takes effect. -/
def sent (e : Event) (s : UnitState) : List (List UInt8) :=
  (uartWrites (step e s).outputs).drop (uartWrites s.outputs).length

theorem sent_eq
    {e : Event} {s : UnitState} {ws : List (List UInt8)}
    (h : Sends ws s (step e s)) :
    sent e s = ws := by
  unfold sent
  rw [h, List.drop_left]

theorem sends_of_outputs_eq
    {s s' : UnitState}
    (h : s'.outputs = s.outputs) :
    Sends [] s s' := by
  unfold Sends
  rw [h, List.append_nil]

theorem sends_of_append
    {s s' : UnitState} {os : List Output}
    (h : s'.outputs = s.outputs ++ os) :
    Sends (uartWrites os) s s' := by
  unfold Sends
  rw [h, uartWrites_append]

theorem Sends.trans
    {s₁ s₂ s₃ : UnitState} {ws ws' : List (List UInt8)}
    (h : Sends ws s₁ s₂) (h' : Sends ws' s₂ s₃) :
    Sends (ws ++ ws') s₁ s₃ := by
  unfold Sends at *
  rw [h', h, List.append_assoc]

theorem sends_emit
    (s : UnitState) (o : Output) :
    Sends (uartWrites [o]) s (s.emit o) :=
  sends_of_append rfl

theorem sends_emitAll
    (s : UnitState) (os : List Output) :
    Sends (uartWrites os) s (s.emitAll os) :=
  sends_of_append rfl

theorem sends_emit_uartWrite
    (s : UnitState) (w : List UInt8) :
    Sends [w] s (s.emit (.uartWrite w)) :=
  sends_emit s (.uartWrite w)

/-- Stages that send nothing may come before. -/
theorem Sends.of_silent
    {s₁ s₂ s₃ : UnitState} {ws : List (List UInt8)}
    (h : Sends [] s₁ s₂) (h' : Sends ws s₂ s₃) :
    Sends ws s₁ s₃ :=
  h.trans h'

/-- Stages that send nothing may follow. -/
theorem Sends.then_silent
    {s₁ s₂ s₃ : UnitState} {ws : List (List UInt8)}
    (h : Sends ws s₁ s₂) (h' : Sends [] s₂ s₃) :
    Sends ws s₁ s₃ := by
  have hall := h.trans h'
  rwa [List.append_nil] at hall

theorem Sends.uartWrites_eq
    {s s' : UnitState} (h : Sends [] s s') :
    uartWrites s'.outputs = uartWrites s.outputs :=
  Eq.trans h (List.append_nil _)

/-! ## The connected state -/

section Connected

variable (inp : IterationInput) (s : UnitState)

theorem sends_unitUpdateTrigger :
    Sends [] s (unitUpdateTrigger inp s) := by
  obtain ⟨-, -, -, -, -, -, hout | hout⟩ := unitUpdateTrigger_link inp s
  · exact sends_of_outputs_eq hout
  · exact sends_of_append hout

/-- Before the reception at most one request is sent, a timer's, and only when
none was outstanding. -/
theorem sends_beforeReceive :
    (Sends [] s (beforeReceive inp s) ∧
        (afterRequests inp s).eepromDataReceived = s.eepromDataReceived) ∨
      ∃ w ∈ timerRequests inp s, s.eepromDataReceived = false ∧
        (afterRequests inp s).eepromDataReceived = true ∧ Sends [w] s (beforeReceive inp s) := by
  have htrigger := sends_unitUpdateTrigger inp s
  have hflag := (unitUpdateTrigger_link inp s).2.2.2.1
  have htimeout : Sends [] (afterRequests inp s) (beforeReceive inp s) := by
    rw [beforeReceive_eq]
    unfold globalTimeout
    split
    · exact sends_of_outputs_eq rfl
    · exact sends_of_outputs_eq rfl
  rcases (requested_afterRequests inp s).sent with ⟨hout, hsame⟩ | ⟨w, hw, hfalse, htrue, hout⟩
  · left
    exact ⟨(htrigger.of_silent (sends_of_outputs_eq hout)).then_silent htimeout,
      hsame.trans hflag⟩
  · right
    have hsend : Sends [w] (unitUpdateTrigger inp s) (afterRequests inp s) := sends_of_append hout
    exact ⟨w, hw, hflag ▸ hfalse, htrue, (htrigger.of_silent hsend).then_silent htimeout⟩

theorem sends_handleReply (reply : Reply) :
    Sends [] s (handleReply inp reply s) := by
  obtain ⟨published, hnone, heq⟩ := handleReply_eq inp s reply
  unfold Sends
  rw [heq, uartWrites_append, hnone]

theorem sends_receive :
    Sends [] s (receive inp s) := by
  have hcase := receive_case inp s
  generalize receive inp s = s' at hcase
  cases hcase with
  | reply hgt hreply =>
      refine Sends.of_silent ?_ (sends_handleReply inp _ _)
      exact sends_of_outputs_eq rfl
  | unknown hgt hnone => exact sends_of_outputs_eq rfl
  | rejected hneg => exact sends_of_outputs_eq rfl
  | nothing hle hnonneg => exact sends_of_outputs_eq rfl

/-- The request of a service. -/
def serviceFrames (service : Service) (gRDEeprom : Memory) : List (List UInt8) :=
  match service with
  | .read sec => [readEepromRequest sec]
  | .write .configuration => []
  | .write sec => [writeEepromRequest sec gRDEeprom]
  | .nothing => []

theorem serviceFrames_write
    {sec : EepromSection} (hsec : sec ≠ .configuration) (m : Memory) :
    serviceFrames (.write sec) m = [writeEepromRequest sec m] := by
  cases sec <;>
    first
      | exact absurd rfl hsec
      | rfl

theorem sends_sendService
    (service : Service) :
    Sends (serviceFrames service s.gRDEeprom) s (sendService inp service s) := by
  cases service with
  | read sec =>
      simp only [sendService, sendReadEeprom, comSendRequestReadEeprom1_eq, serviceFrames]
      exact sends_emit_uartWrite s _
  | write sec =>
      by_cases hsec : sec = .configuration
      · subst hsec
        exact sends_of_outputs_eq rfl
      · simp only [sendService, sendWriteEeprom, comSendRequestWriteEeprom1_eq hsec,
          serviceFrames_write hsec]
        exact sends_emit_uartWrite s _
  | nothing =>
      exact sends_of_outputs_eq rfl

theorem sends_clientWrite
    (w : ClientWrite) :
    Sends [] s (clientWrite w s) := by
  unfold clientWrite
  split
  · split
    · exact Sends.of_silent (sends_of_outputs_eq rfl) (sends_emit _ (.setAttrValue _ _ _))
    · exact sends_of_outputs_eq rfl
  · split
    · exact sends_of_outputs_eq rfl
    · exact sends_of_outputs_eq rfl

theorem sends_clientWrites
    (ws : List ClientWrite) :
    Sends [] s (ws.foldl (fun s w => clientWrite w s) s) := by
  induction ws generalizing s with
  | nil =>
      exact sends_of_outputs_eq rfl
  | cons w ws ih =>
      exact (sends_clientWrite s w).of_silent (ih (clientWrite w s))

/-- The scheduler does nothing, or carries out the next service. -/
theorem scheduler_cases :
    (scheduler inp s = s ∧
        (s.readEepromRequestIndex = 0 ∨ s.eepromDataReceived = true ∨
          nextService s.readEepromRequestIndex = none)) ∨
      ∃ bit mask service,
        s.eepromDataReceived = false ∧
        nextService s.readEepromRequestIndex = some (bit, mask, service) ∧
        scheduler inp s =
          { inp.duringTx.foldl (fun s w => clientWrite w s) (sendService inp service s) with
            eepromDataReceived := true
            readEepromRequestIndex :=
              (inp.duringTx.foldl (fun s w => clientWrite w s)
                (sendService inp service s)).readEepromRequestIndex &&& mask } := by
  unfold scheduler
  split
  · rename_i hcond
    have hflag : s.eepromDataReceived = false := Bool.eq_false_iff.mpr hcond.2
    split
    · rename_i bit mask service hnext
      exact Or.inr ⟨bit, mask, service, hflag, hnext, rfl⟩
    · rename_i hnext
      exact Or.inl ⟨rfl, Or.inr (Or.inr hnext)⟩
  · rename_i hcond
    refine Or.inl ⟨rfl, ?_⟩
    by_cases hindex : s.readEepromRequestIndex = 0
    · exact Or.inl hindex
    · right
      left
      by_contra hflag
      exact hcond ⟨hindex, hflag⟩

/-- The scheduler sends the request of the next service, if any. -/
theorem sends_scheduler :
    Sends [] s (scheduler inp s) ∨
      ∃ bit mask service,
        nextService s.readEepromRequestIndex = some (bit, mask, service) ∧
        Sends (serviceFrames service s.gRDEeprom) s (scheduler inp s) := by
  rcases scheduler_cases inp s with ⟨hsame, -⟩ | ⟨bit, mask, service, -, hnext, hrun⟩
  · left
    rw [hsame]
    exact sends_of_outputs_eq rfl
  · right
    refine ⟨bit, mask, service, hnext, ?_⟩
    rw [hrun]
    exact (sends_sendService inp s service).then_silent
      (sends_clientWrites (sendService inp service s) inp.duringTx)

end Connected

/-! ## The handshake -/

/-- A message that cannot be taken for the beginning of a frame. -/
def Unframed (w : List UInt8) : Prop :=
  ofBytes w ihm1StartMsg0 ≠ protoStartMsg0

/-- The messages `Connect_To_Unit` sends. -/
def HandshakeMessage (device : DeviceIdentity) (w : List UInt8) : Prop :=
  w = pollingBaseRequest device ∨ (∃ sec, w = readEepromRequest sec) ∨ Unframed w

/-- Those it sends outside of the firmware transfer. -/
def LinkMessage (device : DeviceIdentity) (w : List UInt8) : Prop :=
  w = pollingBaseRequest device ∨ ∃ sec, w = readEepromRequest sec

section Handshake

variable (inp : IterationInput) (s : UnitState)

theorem sends_sendPollingBase :
    Sends [pollingBaseRequest s.device] s (sendPollingBase inp s) := by
  unfold sendPollingBase
  rw [comSendRequestPollingBase_eq]
  exact sends_emit_uartWrite s _

theorem sends_sendReadEeprom
    (sec : EepromSection) :
    Sends [readEepromRequest sec] s (sendReadEeprom inp sec s) := by
  unfold sendReadEeprom
  rw [comSendRequestReadEeprom1_eq]
  exact sends_emit_uartWrite s _

/-- The character of a nibble is not the first of a frame. -/
theorem nibbleChar_ne
    {value : Nat} (h : value ≤ 15) :
    UInt8.ofNat (value + 48) ≠ protoStartMsg0 := by
  intro heq
  have hnat := congrArg UInt8.toNat heq
  simp only [UInt8.toNat_ofNat', protoStartMsg0, UInt8.reduceToNat] at hnat
  omega

theorem highNibbleChar_ne
    (value : Nat) :
    highNibbleChar value ≠ protoStartMsg0 := by
  apply nibbleChar_ne
  have hand : value &&& 0xF0 ≤ 0xF0 := Nat.and_le_right
  rw [Nat.shiftRight_eq_div_pow]
  omega

theorem unframed_readBytes
    {m : Memory} {count : Nat}
    (h : m 0 ≠ protoStartMsg0) :
    Unframed (readBytes m 0 count) := by
  unfold Unframed
  by_cases hcount : 0 < count
  · rw [ofBytes_of_lt (by simpa using hcount), getElem_readBytes]
    exact h
  · rw [ofBytes_of_le (by simp; omega)]
    decide

/-- Encoded words begin with the character of a nibble, or there are none. -/
theorem unframed_encodeWords
    (tempBuffer sendBuffer : Memory) (words count : Nat)
    (h : sendBuffer 0 ≠ protoStartMsg0) :
    Unframed (readBytes (encodeWords tempBuffer words sendBuffer) 0 count) := by
  apply unframed_readBytes
  by_cases hwords : 0 < words
  · have hfirst := encodeWords_inside tempBuffer sendBuffer hwords (j := 0) (by decide)
    rw [Nat.zero_mul, Nat.zero_add] at hfirst
    rw [hfirst]
    exact highNibbleChar_ne _
  · rw [encodeWords_beyond tempBuffer sendBuffer (by omega)]
    exact h

/-- Between the two states only messages with the property `p` are sent. -/
def SendsOnly (p : List UInt8 → Prop) (s s' : UnitState) : Prop :=
  ∃ ws, Sends ws s s' ∧ ∀ w ∈ ws, p w

theorem SendsOnly.of_silent
    {p : List UInt8 → Prop} {s s' : UnitState}
    (h : Sends [] s s') :
    SendsOnly p s s' :=
  ⟨[], h, by simp⟩

theorem SendsOnly.single
    {p : List UInt8 → Prop} {s s' : UnitState} {w : List UInt8}
    (h : Sends [w] s s') (hw : p w) :
    SendsOnly p s s' :=
  ⟨[w], h, by simpa using hw⟩

theorem SendsOnly.mono
    {p q : List UInt8 → Prop} {s s' : UnitState}
    (hpq : ∀ w, p w → q w) (h : SendsOnly p s s') :
    SendsOnly q s s' := by
  obtain ⟨ws, hsend, hws⟩ := h
  exact ⟨ws, hsend, fun w hw => hpq w (hws w hw)⟩

theorem sends_linkConnecting :
    Sends [] s (linkConnecting inp s) ∨
      Sends [pollingBaseRequest s.device] s (linkConnecting inp s) := by
  unfold linkConnecting
  dsimp only
  split
  · right
    exact (sends_sendPollingBase inp s).then_silent (sends_of_outputs_eq rfl)
  · left
    exact sends_of_outputs_eq rfl

theorem sends_trySerialLink :
    Sends [] s (trySerialLink inp s) := by
  have hcase := trySerialLink_case inp s
  generalize trySerialLink inp s = s' at hcase ⊢
  cases hcase with
  | anew _ _ => exact uartWrites_append s.outputs [.uart1Initialize1]
  | again _ _ => exact sends_of_outputs_eq rfl
  | read _ _ _ => exact sends_of_outputs_eq rfl

theorem sends_linkConnected :
    Sends [readEepromRequest .info] s (linkConnected inp s) := by
  have hsend := sends_sendReadEeprom inp { s with foundComLink := true } .info
  unfold linkConnected Sends
  exact hsend

/-- A state that waits for a reply sends nothing until it has one. -/
theorem sends_awaitReply
    {p : List UInt8 → Prop} (reply : UnitState → UnitState)
    (hreply : ∀ s', s'.device = s.device → SendsOnly p s' (reply s')) :
    SendsOnly p s (awaitReply inp reply s) := by
  have hcase := awaitReply_case inp s reply
  generalize awaitReply inp reply s = s' at hcase ⊢
  cases hcase with
  | lost _ => exact .of_silent (sends_of_outputs_eq rfl)
  | replied _ _ =>
      have h := hreply
        { s with valRet := (readMessage s.port).1, port := (readMessage s.port).2 } rfl
      obtain ⟨ws, hsend, hws⟩ := h
      refine ⟨ws, Sends.of_silent ?_ hsend, hws⟩
      exact sends_of_outputs_eq rfl
  | waiting _ _ => exact .of_silent (sends_of_outputs_eq rfl)

/-- A section's reply is followed by the next request. -/
theorem sends_sectionReply
    (field : EepromField) (request : UnitState → UnitState) (next : ConnectState)
    {w : List UInt8}
    (hrequest : Sends [w] (storeSection field s) (request (storeSection field s))) :
    Sends [w] s (sectionReply inp field request next s) := by
  unfold sectionReply
  dsimp only
  refine Sends.then_silent (Sends.of_silent ?_ hrequest) ?_
  · exact sends_of_outputs_eq rfl
  · exact sends_of_outputs_eq rfl

theorem sends_connected :
    Sends [] s (connected inp s) := by
  obtain ⟨outputs, hsilent, heq⟩ := connected_eq inp s
  unfold Sends
  rw [heq]
  dsimp only
  rw [uartWrites_append, hsilent]

theorem sends_bootloaderState :
    SendsOnly Unframed s (bootloaderState inp s) := by
  have hzeros : ∀ m, Unframed (readBytes (memset m 0 48 sendBufferSize) 0 14) := by
    intro m
    apply unframed_readBytes
    rw [memset_inside _ _ _ (by simp)]
    decide
  unfold bootloaderState
  split
  · exact .of_silent (sends_of_outputs_eq rfl)
  · dsimp only
    split
    · refine .single (Sends.of_silent ?_ (sends_emit_uartWrite _ _)) (hzeros _)
      exact sends_of_outputs_eq rfl
    · split
      · refine .single (Sends.of_silent ?_ (sends_emit_uartWrite _ _)) ?_
        · exact sends_of_outputs_eq rfl
        · apply unframed_readBytes
          unfold store
          rw [memcpy_outside _ _ _ _ _ (by simp), memcpy_inside _ _ _ _ _ (by simp [filesizeChars])]
          exact nibbleChar_ne Nat.and_le_right
      · refine .single (Sends.of_silent ?_ (sends_emit_uartWrite _ _)) (hzeros _)
        exact sends_of_outputs_eq rfl

theorem sends_sendBlock :
    SendsOnly Unframed s (sendBlock s) := by
  have hcleared : ∀ m : Memory, memset m 0 0 sendBufferSize 0 ≠ protoStartMsg0 := by
    intro m
    rw [memset_inside _ _ _ (by simp)]
    decide
  unfold sendBlock
  dsimp only
  split
  · refine .single (Sends.of_silent ?_ (sends_emit_uartWrite _ _)) ?_
    · exact sends_of_outputs_eq rfl
    · exact unframed_encodeWords _ _ _ _ (hcleared _)
  · split
    · refine .single (Sends.of_silent ?_ (sends_emitAll _ [.uartWrite _, _])) ?_
      · exact sends_of_outputs_eq rfl
      · exact unframed_encodeWords _ _ _ _ (hcleared _)
    · exact .of_silent (sends_of_outputs_eq rfl)

theorem sends_bootloaderState1 :
    SendsOnly Unframed s (bootloaderState1 s) := by
  unfold bootloaderState1
  dsimp only
  split
  · obtain ⟨ws, hsend, hws⟩ := sends_sendBlock
      { s with
        valRet := (readMessage s.port).1
        port := { (readMessage s.port).2 with ackReceived := false } }
    refine ⟨ws, Sends.of_silent ?_ hsend, hws⟩
    exact sends_of_outputs_eq rfl
  · exact .of_silent (sends_of_outputs_eq rfl)

/-- Outside of the firmware transfer an iteration of `Connect_To_Unit` polls, or
asks for a section. -/
theorem sends_connectToUnit_link
    (hstate : s.currentState ≠ .bootloaderState) (hstate1 : s.currentState ≠ .bootloaderState1) :
    SendsOnly (LinkMessage s.device) s (connectToUnit inp s) := by
  have hread : ∀ field sec next,
      SendsOnly (LinkMessage s.device) s
        (readEeprom inp field (sendReadEeprom inp sec) next s) := by
    intro field sec next
    apply sends_awaitReply
    intro s' _
    exact .single (sends_sectionReply inp s' field _ next (sends_sendReadEeprom inp _ sec))
      (Or.inr ⟨sec, rfl⟩)
  unfold connectToUnit
  cases hc : s.currentState with
  | init => exact .of_silent (sends_of_outputs_eq rfl)
  | linkConnecting =>
      rcases sends_linkConnecting inp s with h | h
      · exact .of_silent h
      · exact .single h (Or.inl rfl)
  | trySerialLink => exact .of_silent (sends_trySerialLink inp s)
  | linkConnected => exact .single (sends_linkConnected inp s) (Or.inr ⟨_, rfl⟩)
  | readEepromInfo => exact hread _ _ _
  | readEepromConfiguration => exact hread _ _ _
  | readEepromSettingPar => exact hread _ _ _
  | readEepromSetTemp => exact hread _ _ _
  | readEepromDayProg => exact hread _ _ _
  | readEepromHwSetting =>
      apply sends_awaitReply
      intro s' hdevice
      refine .single (sends_sectionReply inp s' .numMotors (sendPollingBase inp) .pollingBase
        (sends_sendPollingBase inp _)) (Or.inl ?_)
      exact congrArg pollingBaseRequest hdevice
  | pollingBase =>
      apply sends_awaitReply
      intro s' _
      exact .of_silent (sends_of_outputs_eq rfl)
  | connected => exact .of_silent (sends_connected inp s)
  | bootloaderState => exact absurd hc hstate
  | bootloaderState1 => exact absurd hc hstate1
  | bootloaderStateEnd => exact .of_silent (sends_of_outputs_eq rfl)

/-- The messages of one iteration of `Connect_To_Unit`. -/
theorem sends_connectToUnit :
    SendsOnly (HandshakeMessage s.device) s (connectToUnit inp s) := by
  have htransfer : ∀ {s'}, SendsOnly Unframed s s' →
      SendsOnly (HandshakeMessage s.device) s s' :=
    fun h => h.mono fun w hw => Or.inr (Or.inr hw)
  by_cases hstate : s.currentState = .bootloaderState
  · simp only [connectToUnit, hstate]
    exact htransfer (sends_bootloaderState inp s)
  · by_cases hstate1 : s.currentState = .bootloaderState1
    · simp only [connectToUnit, hstate1]
      exact htransfer (sends_bootloaderState1 s)
    · exact (sends_connectToUnit_link inp s hstate hstate1).mono
        fun w hw => hw.imp_right Or.inl

end Handshake

end UnitComm
end AvensysEsp32
