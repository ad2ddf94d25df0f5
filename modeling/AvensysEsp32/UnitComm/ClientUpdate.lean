import AvensysEsp32.UnitComm.Image

/-!
# A client's update of the image

A client's image is copied into the mirror at once, and five bits of
`Read_Eeprom_Request_Index` ask for its sections to be written to the unit,
one after another.  Until then the mirror is also where the replies to read
requests are stored.  What is written is the client's image as long as every
block stored in between agrees with it on the sections still to be written.
-/

namespace AvensysEsp32
namespace UnitComm

open Foundation Serial

/-! ## The data of a section -/

/-- An address holds the update counter of the section itself. -/
def ownCounter (sec : EepromSection) (i : Nat) : Bool :=
  CountedSection.all.any fun c => c.eepromSection = sec ∧ c.cntUpdateAddress = i

/-- The addresses of a section besides its own counter. -/
def dataAddresses (sec : EepromSection) : Set Nat :=
  {i | i ∈ sec.range ∧ ownCounter sec i = false}

/-- No counter lies among the data of a section. -/
theorem ne_cntUpdateAddress_of_data
    {sec : EepromSection} {i : Nat}
    (hi : i ∈ dataAddresses sec) (c : CountedSection) :
    i ≠ c.cntUpdateAddress := by
  obtain ⟨hrange, hown⟩ := hi
  rw [EepromSection.mem_range_iff, EepromSection.startAddress_eq,
    EepromSection.count_eq] at hrange
  rintro rfl
  by_cases hsec : c.eepromSection = sec
  · have : ownCounter sec c.cntUpdateAddress = true :=
      List.any_eq_true.mpr ⟨c, c.mem_all, by simp [hsec]⟩
    rw [this] at hown
    cases hown
  · rw [CountedSection.cntUpdateAddress_eq] at hrange
    cases c <;> cases sec <;>
      first
        | exact hsec rfl
        | (simp only at hrange; omega)

/-! ## Agreement with a client's image -/

/-- The mirror holds the client's data in every section still to be written. -/
def PendingAgree (x : List UInt8) (s : UnitState) : Prop :=
  ∀ sec, writePending s.readEepromRequestIndex sec = true →
    Set.EqOn s.gRDEeprom (ofBytes x) (dataAddresses sec)

/-- The block holds the client's data in every section still to be written. -/
def BlockAgrees (x : List UInt8) (index : BitVec 16) (b : StoredBlock) : Prop :=
  ∀ sec, writePending index sec = true →
    ∀ i ∈ dataAddresses sec, i ∈ block b.start b.count →
      b.buffer (irsrStartDataEeprom + (i - b.start)) = ofBytes x i

section Agreement

variable {x : List UInt8} {s s' : UnitState}

/-- Agreement survives when no write bit is added and only counters change. -/
theorem PendingAgree.mono
    (h : PendingAgree x s)
    (hindex : ∀ k, 4 ≤ k → s'.readEepromRequestIndex.getLsbD k = true →
      s.readEepromRequestIndex.getLsbD k = true)
    (himage : ∀ i, (∀ c : CountedSection, i ≠ c.cntUpdateAddress) →
      s'.gRDEeprom i = s.gRDEeprom i) :
    PendingAgree x s' := by
  intro sec hpending i hi
  rw [himage i (ne_cntUpdateAddress_of_data hi)]
  exact h sec (writePending_mono hindex hpending) hi

theorem PendingAgree.of_eq
    (h : PendingAgree x s)
    (hindex : s'.readEepromRequestIndex = s.readEepromRequestIndex)
    (himage : s'.gRDEeprom = s.gRDEeprom) :
    PendingAgree x s' :=
  h.mono (fun k _ hk => hindex ▸ hk) (fun i _ => by rw [himage])

/-- Agreement survives the storing of a block that agrees. -/
theorem PendingAgree.store
    (h : PendingAgree x s) (b : StoredBlock)
    (hblock : BlockAgrees x s.readEepromRequestIndex b)
    (hindex : s'.readEepromRequestIndex = s.readEepromRequestIndex)
    (himage : s'.gRDEeprom =
      memcpy s.gRDEeprom b.start b.buffer irsrStartDataEeprom b.count) :
    PendingAgree x s' := by
  intro sec hpending i hi
  rw [hindex] at hpending
  rw [himage]
  by_cases hin : i ∈ block b.start b.count
  · rw [memcpy_inside _ _ _ _ _ hin]
    exact hblock sec hpending i hi hin
  · rw [memcpy_outside _ _ _ _ _ hin]
    exact h sec hpending hi

end Agreement

/-- After a client's write the mirror agrees with it. -/
theorem pendingAgree_clientWrite
    (w : ClientWrite) (s : UnitState)
    (hw : 241 ≤ w.payload.length) :
    PendingAgree w.payload (clientWrite w s) := by
  have hmirror := (clientWrite_accepted w s hw).1
  intro sec _ i hi
  rw [hmirror]
  exact copyEepromPayload_eqOn hw s.gRDEeprom sec hi.1

/-! ## Acceptance -/

/-- The scheduler transmits a request in an iteration, while which clients may
write. -/
def Transmits (inp : IterationInput) (s : UnitState) : Prop :=
  s.wbmComState = .wbmConnected ∧
    (receive inp (beforeReceive inp s)).eepromDataReceived = false ∧
    (nextService (receive inp (beforeReceive inp s)).readEepromRequestIndex).isSome = true

instance (inp : IterationInput) (s : UnitState) : Decidable (Transmits inp s) :=
  inferInstanceAs (Decidable (_ ∧ _ ∧ _))

/-- The writes of clients that are accepted. -/
def acceptedWrites (ws : List ClientWrite) : List ClientWrite :=
  ws.filter fun w => 241 ≤ w.payload.length

/-- An event ends with the image `x` accepted: a client writes it between two
iterations, or as the last one while a request is being transmitted. -/
def Accepts (x : List UInt8) (e : Event) (s : UnitState) : Prop :=
  match e with
  | .clientWrite w => 241 ≤ w.payload.length ∧ w.payload = x
  | .iterate inp =>
      Transmits inp s ∧ ((acceptedWrites inp.duringTx).getLast?.map ClientWrite.payload) = some x
  | _ => False

instance decidableAccepts (x : List UInt8) (e : Event) (s : UnitState) :
    Decidable (Accepts x e s) := by
  unfold Accepts
  split <;> infer_instance

/-- Of the images that clients write one after another the last one accepted
is the mirror's. -/
theorem pendingAgree_clientWrites
    {ws : List ClientWrite} {x : List UInt8} (s : UnitState)
    (hlast : (acceptedWrites ws).getLast?.map ClientWrite.payload = some x) :
    PendingAgree x (ws.foldl (fun s w => clientWrite w s) s) := by
  induction ws using List.reverseRecOn with
  | nil => cases hlast
  | append_singleton ws w ih =>
      rw [List.foldl_concat]
      unfold acceptedWrites at hlast ih
      rw [List.filter_append] at hlast
      by_cases hw : 241 ≤ w.payload.length
      · rw [List.filter_cons_of_pos (by simpa using hw), List.filter_nil,
          List.getLast?_concat] at hlast
        cases hlast
        exact pendingAgree_clientWrite w _ hw
      · rw [List.filter_cons_of_neg (by simpa using hw), List.filter_nil,
          List.append_nil] at hlast
        rw [clientWrite_rejected w _ (Nat.lt_of_not_le hw)]
        exact ih hlast

/-- The bits of the request that was transmitted are cleared afterwards. -/
theorem pendingAgree_accepts
    {x : List UInt8} {e : Event} {s : UnitState}
    (h : Accepts x e s) :
    PendingAgree x (step e s) := by
  cases e with
  | clientWrite w =>
      obtain ⟨hlong, rfl⟩ := h
      exact pendingAgree_clientWrite w s hlong
  | iterate inp =>
      obtain ⟨⟨hconn, hfree, hsome⟩, hlast⟩ := h
      simp only [step, unitEventTask, hconn, connectedIteration]
      generalize receive inp (beforeReceive inp s) = t at hfree hsome ⊢
      rcases scheduler_cases inp t with
        ⟨-, hzero | hbusy | hnothing⟩ | ⟨bit, mask, service, -, -, hrun⟩
      · rw [hzero] at hsome
        cases hsome
      · exact absurd (hfree.symm.trans hbusy) (by decide)
      · rw [hnothing] at hsome
        cases hsome
      · have hagree := pendingAgree_clientWrites (sendService inp service t) hlast
        rw [hrun]
        refine hagree.mono (fun k _ hbit => ?_) (fun i _ => rfl)
        rw [BitVec.getLsbD_and, Bool.and_eq_true] at hbit
        exact hbit.1
  | uartData data => exact h.elim
  | mqttReady ready => exact h.elim
  | unitUpdateTask running => exact h.elim
  | firmwareStored content => exact h.elim

/-! ## Steps -/

/-- No client writes, and what is stored agrees with the client's image on the
sections still to be written. -/
def StoresAgree (x : List UInt8) (e : Event) (s : UnitState) : Prop :=
  match e with
  | .iterate inp =>
      inp.duringTx = [] ∧
        ∀ b, storedBlock inp s = some b → BlockAgrees x s.readEepromRequestIndex b
  | .clientWrite _ => False
  | _ => True

section Stages

variable {x : List UInt8} {inp : IterationInput} {s : UnitState}

theorem pendingAgree_beforeReceive
    (h : PendingAgree x s) :
    PendingAgree x (beforeReceive inp s) :=
  h.mono (fun _ _ hk => beforeReceive_index_le inp s hk)
    (fun i _ => by rw [(sameData_beforeReceive inp s).gRDEeprom])

/-- A reply keeps the agreement; only a reply to a read request could break it. -/
theorem pendingAgree_handleReply
    (reply : Reply)
    (h : PendingAgree x s)
    (hblock : reply = .readEeprom →
      BlockAgrees x s.readEepromRequestIndex
        { start := (s.port.buffSer1 irsrAddrByteStartEep).toNat
          count := (s.port.buffSer1 irsrAddrNumByteEep).toNat
          buffer := s.port.buffSer1 }) :
    PendingAgree x (handleReply inp reply s) := by
  obtain ⟨published, -, heq⟩ := handleReply_eq inp s reply
  rw [heq]
  unfold parseReply
  cases reply with
  | pollingBase =>
      dsimp only
      rw [pollingBaseDataParse_eq]
      exact h.mono (fun k hk hbit => getLsbD_or_changeRequests _ _ _ hk hbit) fun i _ => rfl
  | dataDebug => exact h.of_eq rfl rfl
  | readEeprom => exact h.store _ (hblock rfl) rfl rfl
  | writeEeprom =>
      dsimp only
      rw [writeEepromDataParse_eq]
      refine h.mono (fun k hk hbit => ?_) (fun i hi => ?_)
      · exact getLsbD_or_changeRequests _ _ _ hk hbit
      · exact withCounters_of_ne _ _ hi

theorem pendingAgree_receive
    (h : PendingAgree x s)
    (hblock : (readMessage s.port).1 > runDownload →
      replyOf ((readMessage s.port).2.buffSer1 ihm1TypeComand) = some .readEeprom →
        BlockAgrees x s.readEepromRequestIndex
          { start := ((readMessage s.port).2.buffSer1 irsrAddrByteStartEep).toNat
            count := ((readMessage s.port).2.buffSer1 irsrAddrNumByteEep).toNat
            buffer := (readMessage s.port).2.buffSer1 }) :
    PendingAgree x (receive inp s) := by
  have hcase := receive_case inp s
  generalize receive inp s = s' at hcase
  cases hcase with
  | reply hgt hreply =>
      apply pendingAgree_handleReply
      · exact h
      · intro hread
        exact hblock hgt (hread ▸ hreply)
  | unknown hgt hnone => exact h
  | rejected hneg => exact h
  | nothing hle hnonneg => exact h

/-- The scheduler without clients clears bits and leaves the mirror alone. -/
theorem pendingAgree_scheduler
    (hnone : inp.duringTx = [])
    (h : PendingAgree x s) :
    PendingAgree x (scheduler inp s) := by
  rcases scheduler_cases inp s with ⟨hsame, -⟩ | ⟨bit, mask, service, -, -, hrun⟩
  · rw [hsame]
    exact h
  · have hservice := sendService_image inp s service
    rw [hrun, hnone]
    refine h.mono (fun k _ hbit => ?_) (fun i _ => congrFun hservice.1 i)
    simp only [List.foldl_nil, BitVec.getLsbD_and, Bool.and_eq_true] at hbit
    rw [← hservice.2]
    exact hbit.1

/-- A state of the handshake that reads a section keeps the agreement if the
message it stores agrees. -/
theorem pendingAgree_readEeprom
    (field : EepromField) (request : UnitState → UnitState) (next : ConnectState)
    (h : PendingAgree x s)
    (hrequest : ∀ s', (request s').gRDEeprom = s'.gRDEeprom ∧
      (request s').readEepromRequestIndex = s'.readEepromRequestIndex)
    (hblock : expired inp 0 s.globalTimeoutMilliseconds timeoutMilliseconds = false →
      (readMessage s.port).1 > runDownload →
        BlockAgrees x s.readEepromRequestIndex
          { start := field.offsetof
            count := ((readMessage s.port).2.buffSer1 irsrAddrNumByteEep).toNat
            buffer := (readMessage s.port).2.buffSer1 }) :
    PendingAgree x (readEeprom inp field request next s) := by
  have hcase := awaitReply_case inp s (sectionReply inp field request next)
  unfold readEeprom
  generalize awaitReply inp (sectionReply inp field request next) s = s' at hcase ⊢
  cases hcase with
  | lost _ => exact h
  | replied hexp hgt =>
      obtain ⟨himage, hindex⟩ := hrequest (storeSection field
        { s with valRet := (readMessage s.port).1, port := (readMessage s.port).2 })
      exact h.store _ (hblock hexp hgt) hindex himage
  | waiting _ _ => exact h

/-- The handshake keeps the agreement if what it stores agrees. -/
theorem pendingAgree_connectToUnit
    (hcomm : s.wbmComState = .wbmCommunicating)
    (hblock : ∀ b, storedBlock inp s = some b → BlockAgrees x s.readEepromRequestIndex b)
    (h : PendingAgree x s) :
    PendingAgree x (connectToUnit inp s) := by
  have hread : ∀ {field}, sectionField s.currentState = some field →
      ∀ request next,
        (∀ s', (request s').gRDEeprom = s'.gRDEeprom ∧
          (request s').readEepromRequestIndex = s'.readEepromRequestIndex) →
        PendingAgree x (readEeprom inp field request next s) := by
    intro field hfield request next hrequest
    apply pendingAgree_readEeprom field request next h hrequest
    intro hexp hgt
    apply hblock
    unfold storedBlock
    simp [hcomm, hexp, hgt, hfield]
  unfold connectToUnit
  cases hstate : s.currentState with
  | init => exact h
  | linkConnecting => exact h.of_eq (link_image inp s).1.2 (link_image inp s).1.1
  | trySerialLink => exact h.of_eq (link_image inp s).2.2 (link_image inp s).2.1
  | linkConnected => exact h
  | readEepromInfo => exact hread (by rw [hstate]; rfl) _ _ fun _ => ⟨rfl, rfl⟩
  | readEepromConfiguration => exact hread (by rw [hstate]; rfl) _ _ fun _ => ⟨rfl, rfl⟩
  | readEepromSettingPar => exact hread (by rw [hstate]; rfl) _ _ fun _ => ⟨rfl, rfl⟩
  | readEepromSetTemp => exact hread (by rw [hstate]; rfl) _ _ fun _ => ⟨rfl, rfl⟩
  | readEepromDayProg => exact hread (by rw [hstate]; rfl) _ _ fun _ => ⟨rfl, rfl⟩
  | readEepromHwSetting => exact hread (by rw [hstate]; rfl) _ _ fun _ => ⟨rfl, rfl⟩
  | pollingBase =>
      have hcase := awaitReply_case inp s (pollingReply inp)
      dsimp only
      generalize awaitReply inp (pollingReply inp) s = s' at hcase ⊢
      cases hcase with
      | lost _ => exact h
      | replied _ _ => exact h
      | waiting _ _ => exact h
  | connected =>
      obtain ⟨himage, hindex⟩ := connected_image inp s
      dsimp only
      generalize connected inp s = s' at himage hindex ⊢
      refine h.mono (fun k hk hbit => ?_) (fun i _ => congrFun himage i)
      rw [hindex] at hbit
      exact getLsbD_or_changeRequests _ _ _ hk hbit
  | bootloaderState =>
      exact h.of_eq (bootloader_image inp s).1.2 (bootloader_image inp s).1.1
  | bootloaderState1 =>
      exact h.of_eq (bootloader_image inp s).2.2 (bootloader_image inp s).2.1
  | bootloaderStateEnd => exact h

/-- The connected state keeps the agreement if what it stores agrees, up to the
scheduler and through it. -/
theorem pendingAgree_connected
    (hconn : s.wbmComState = .wbmConnected)
    (hblock : ∀ b, storedBlock inp s = some b → BlockAgrees x s.readEepromRequestIndex b)
    (h : PendingAgree x s) :
    PendingAgree x (receive inp (beforeReceive inp s)) := by
  apply pendingAgree_receive (pendingAgree_beforeReceive h)
  have hport : (beforeReceive inp s).port = s.port := (sameData_beforeReceive inp s).port
  rw [hport]
  intro hgt hreply sec hpending
  have hagrees := hblock _ (by
    unfold storedBlock
    dsimp only
    rw [if_pos hgt, hconn]
    exact if_pos hreply)
  exact hagrees sec (writePending_mono (fun _ _ hk => beforeReceive_index_le inp s hk) hpending)

/-- Whatever happens, the agreement is kept if what is stored agrees. -/
theorem pendingAgree_step
    (e : Event) (s : UnitState)
    (hstores : StoresAgree x e s) (h : PendingAgree x s) :
    PendingAgree x (step e s) := by
  cases e with
  | iterate inp =>
      obtain ⟨hnone, hblock⟩ := hstores
      simp only [step, unitEventTask]
      cases hwbm : s.wbmComState with
      | wbmInitialize => exact h
      | wbmCommunicating => exact pendingAgree_connectToUnit hwbm hblock h
      | wbmConnected =>
          exact pendingAgree_scheduler hnone (pendingAgree_connected hwbm hblock h)
      | wbmError => exact h
  | clientWrite w => exact hstores.elim
  | uartData data => exact h
  | mqttReady ready => exact h
  | unitUpdateTask running => exact h
  | firmwareStored content => exact h

end Stages

/-! ## What is written -/

/-- A request to write the EEPROM. -/
def WriteRequest (w : List UInt8) : Prop :=
  ofBytes w ihm1StartMsg0 = protoStartMsg0 ∧ ofBytes w ihm1StartMsg1 = protoStartMsg1 ∧
    ofBytes w ihm1TypeComand = commandWriteEeprom

instance (w : List UInt8) : Decidable (WriteRequest w) :=
  inferInstanceAs (Decidable (_ ∧ _))

/-- A frame writes a section with the client's bytes at all its addresses but
that of its own counter. -/
def CarriesUpdate (x w : List UInt8) : Prop :=
  ∃ sec ∈ writtenSections,
    ofBytes w irqwAddrByteStartEep = UInt8.ofNat sec.startAddress ∧
      ofBytes w irqwAddrNumByteEep = UInt8.ofNat sec.count ∧
      w.length = irqwStartDataEeprom + sec.count + 2 ∧
      ∀ k < sec.count, ownCounter sec (sec.startAddress + k) = false →
        ofBytes w (irqwStartDataEeprom + k) = ofBytes x (sec.startAddress + k)

instance (x w : List UInt8) : Decidable (CarriesUpdate x w) :=
  inferInstanceAs (Decidable (∃ _ ∈ _, _))

/-- The requests to write that an event sends carry the client's bytes. -/
def WritesCarry (x : List UInt8) (e : Event) (s : UnitState) : Prop :=
  ∀ w ∈ sent e s, WriteRequest w → CarriesUpdate x w

instance decidableWritesCarry (x : List UInt8) (e : Event) (s : UnitState) :
    Decidable (WritesCarry x e s) :=
  inferInstanceAs (Decidable (∀ w ∈ _, _))

section Writes

variable {x : List UInt8} {inp : IterationInput} {s : UnitState}

theorem writesCarry_of_sends
    {e : Event} (ws : List (List UInt8))
    (hsend : Sends ws s (step e s))
    (h : ∀ w ∈ ws, WriteRequest w → CarriesUpdate x w) :
    WritesCarry x e s := by
  unfold WritesCarry
  rw [sent_eq hsend]
  exact h

/-- A frame whose command is another is no request to write. -/
theorem not_writeRequest_of_command
    {w : List UInt8} {command : UInt8}
    (hcommand : ofBytes w ihm1TypeComand = command)
    (hne : command ≠ commandWriteEeprom) :
    ¬ WriteRequest w :=
  fun h => hne (hcommand.symm.trans h.2.2)

theorem not_writeRequest_of_handshake
    {device : DeviceIdentity} {w : List UInt8}
    (h : HandshakeMessage device w) :
    ¬ WriteRequest w := by
  rcases h with rfl | ⟨sec, rfl⟩ | htransfer
  · exact not_writeRequest_of_command (pollingBaseRequest_command device) (by decide)
  · exact not_writeRequest_of_command (readEepromRequest_command sec) (by decide)
  · exact fun hwrite => htransfer hwrite.1

theorem not_writeRequest_of_timer
    {w : List UInt8}
    (h : w ∈ timerRequests inp s) :
    ¬ WriteRequest w := by
  simp only [timerRequests, List.mem_cons, List.not_mem_nil, or_false] at h
  rcases h with rfl | rfl
  · have hcommand : ofBytes (comSendRequestDataDebug inp.stack) ihm1TypeComand =
        commandDataDebug := by
      rw [comSendRequestDataDebug_eq]
      rfl
    exact not_writeRequest_of_command hcommand (by decide)
  · rw [comSendRequestPollingBase_eq]
    exact not_writeRequest_of_command (pollingBaseRequest_command s.device) (by decide)

/-- A section written from a mirror that agrees carries the client's bytes. -/
theorem carriesUpdate_writeEepromRequest
    {sec : EepromSection} {m : Memory}
    (hsec : sec ∈ writtenSections)
    (h : Set.EqOn m (ofBytes x) (dataAddresses sec)) :
    CarriesUpdate x (writeEepromRequest sec m) := by
  refine ⟨sec, hsec, ?_, ?_, ?_, ?_⟩
  · rw [writeEepromRequest_head _ _ (by decide)]
    rfl
  · rw [writeEepromRequest_head _ _ (by decide)]
    rfl
  · simp [writeEepromRequest]
    omega
  · intro k hk hown
    rw [writeEepromRequest_data sec m hk]
    exact h ⟨⟨by omega, by omega⟩, hown⟩

/-- What the scheduler writes carries the client's bytes if the mirror agrees. -/
theorem carriesUpdate_service
    {bit mask : BitVec 16} {service : Service}
    (h : PendingAgree x s)
    (hnext : nextService s.readEepromRequestIndex = some (bit, mask, service)) :
    ∀ w ∈ serviceFrames service s.gRDEeprom, WriteRequest w → CarriesUpdate x w := by
  intro w hw hwrite
  cases service with
  | read sec =>
      simp only [serviceFrames, List.mem_singleton] at hw
      subst hw
      exact absurd hwrite (not_writeRequest_of_command (readEepromRequest_command sec) (by decide))
  | write sec =>
      have hpending := writePending_of_nextService hnext
      have hw' : sec ∈ writtenSections ∧ w = writeEepromRequest sec s.gRDEeprom := by
        cases sec <;> simp only [serviceFrames, List.mem_singleton, List.not_mem_nil] at hw <;>
          exact ⟨by decide, hw⟩
      rw [hw'.2]
      exact carriesUpdate_writeEepromRequest hw'.1 (h sec hpending)
  | nothing =>
      simp [serviceFrames] at hw

/-- Whatever is written in a step carries the client's bytes if what is stored
agrees. -/
theorem writesCarry_step
    (e : Event) (s : UnitState)
    (hstores : StoresAgree x e s) (h : PendingAgree x s) :
    WritesCarry x e s := by
  cases e with
  | iterate inp =>
      obtain ⟨hnone, hblock⟩ := hstores
      cases hwbm : s.wbmComState with
      | wbmInitialize =>
          apply writesCarry_of_sends []
          · simp only [step, unitEventTask, hwbm]
            exact Sends.of_silent (sends_of_outputs_eq rfl) (sends_emitAll _ [_, _])
          · simp
      | wbmCommunicating =>
          obtain ⟨ws, hsend, hws⟩ := sends_connectToUnit inp s
          apply writesCarry_of_sends ws
          · simp only [step, unitEventTask, hwbm]
            exact hsend
          · exact fun w hw hwrite => absurd hwrite (not_writeRequest_of_handshake (hws w hw))
      | wbmConnected =>
          have hagree := pendingAgree_connected hwbm hblock h
          have hstep : step (.iterate inp) s =
              scheduler inp (receive inp (beforeReceive inp s)) := by
            simp only [step, unitEventTask, hwbm, connectedIteration]
          have hbefore : SendsOnly (· ∈ timerRequests inp s) s
              (receive inp (beforeReceive inp s)) := by
            rcases sends_beforeReceive inp s with ⟨hsend, -⟩ | ⟨w, hw, -, -, hsend⟩
            · exact .of_silent (hsend.then_silent (sends_receive inp _))
            · exact .single (hsend.then_silent (sends_receive inp _)) hw
          obtain ⟨ws, hsend, hws⟩ := hbefore
          have htimers : ∀ w ∈ ws, WriteRequest w → CarriesUpdate x w :=
            fun w hw hwrite => absurd hwrite (not_writeRequest_of_timer (hws w hw))
          rcases sends_scheduler inp (receive inp (beforeReceive inp s))
            with hsched | ⟨bit, mask, service, hnext, hsched⟩
          · exact writesCarry_of_sends _ (hstep ▸ hsend.then_silent hsched) htimers
          · refine writesCarry_of_sends _ (hstep ▸ hsend.trans hsched) fun w hw => ?_
            rcases List.mem_append.mp hw with hw | hw
            · exact htimers w hw
            · exact carriesUpdate_service hagree hnext w hw
      | wbmError =>
          apply writesCarry_of_sends []
          · simp only [step, unitEventTask, hwbm]
            exact Sends.of_silent (sends_of_outputs_eq rfl) (sends_emitAll _ [_, _])
          · simp
  | clientWrite w => exact hstores.elim
  | uartData data => exact writesCarry_of_sends [] (sends_of_outputs_eq rfl) (by simp)
  | mqttReady ready => exact writesCarry_of_sends [] (sends_of_outputs_eq rfl) (by simp)
  | unitUpdateTask running => exact writesCarry_of_sends [] (sends_of_outputs_eq rfl) (by simp)
  | firmwareStored content => exact writesCarry_of_sends [] (sends_of_outputs_eq rfl) (by simp)

end Writes

/-- After a client's image is accepted in any state, between two iterations or
while a request is being transmitted, every request to write that the task
sends from then on carries the client's bytes, in every run without another
client's write in which what is stored in the mirror agrees with them on the
sections still to be written. -/
theorem writes_carry_client_update
    (s : UnitState) (x : List UInt8) (e : Event) (es : List Event)
    (haccepts : Accepts x e s)
    (hes : Along step (StoresAgree x) es (step e s)) :
    Along step (WritesCarry x) es (step e s) :=
  hes.of_invariant pendingAgree_step writesCarry_step (pendingAgree_accepts haccepts)

section Example

/-- The image a client writes: sevens everywhere. -/
def sevens : ClientWrite where
  overBle := true
  payload := List.replicate 243 7

/-- A gateway connected to a unit whose EEPROM holds ones everywhere, a second
later: it has polled the unit, and the reply says that the counter of the first
section is now two. -/
def untilCounterChanged : List Event :=
  untilConnected (fun _ => 1) ++
    iterateAt 1000 ::
      exchangeAt 1000
        (pollingBaseReply (Function.update (fun _ => 1) CountedSection.info.cntUpdateAddress 2)
          .zero)

/-- Once connected the client's image is written: a first section of sevens. -/
theorem writes_carry_sevens :
    Along step (WritesCarry sevens.payload) [iterateAt 0]
      (step (.clientWrite sevens) (run step (untilConnected fun _ => 1) freshBoard)) := by
  have hlength : sevens.payload.length = 243 := List.length_replicate
  refine writes_carry_client_update (run step (untilConnected fun _ => 1) freshBoard)
    sevens.payload (.clientWrite sevens) [iterateAt 0] ⟨by omega, rfl⟩ ⟨⟨rfl, ?_⟩, trivial⟩
  have hnothing : storedBlock (.still 0)
      (step (.clientWrite sevens) (run step (untilConnected fun _ => 1) freshBoard)) = none := by
    have hread : ¬ (readMessage (step (.clientWrite sevens)
        (run step (untilConnected fun _ => 1) freshBoard)).port).1 > runDownload := by
      decide +kernel
    unfold storedBlock
    exact if_neg hread
  intro b hb
  rw [hnothing] at hb
  cases hb

/-- The client's image is lost: the reply to the read that the change of the
counter asked for arrives after it, is stored over it, and the first section is
written with the old ones. -/
theorem old_image_written :
    (run step untilCounterChanged freshBoard).wbmComState = .wbmConnected ∧
      ¬ Along step (WritesCarry sevens.payload)
        (exchangeAt 1000
          (readEepromReply (Function.update (fun _ => 1) CountedSection.info.cntUpdateAddress 2)
            (UInt8.ofNat EepromSection.info.startAddress) (UInt8.ofNat EepromSection.info.count)))
        (step (.clientWrite sevens) (run step untilCounterChanged freshBoard)) := by
  decide +kernel

end Example

end UnitComm
end AvensysEsp32
