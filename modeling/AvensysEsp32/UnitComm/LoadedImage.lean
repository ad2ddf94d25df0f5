import AvensysEsp32.UnitComm.Handshake

/-!
# The image that the handshake loads

With a unit whose image stays as it is, and whose replies arrive intact and in
order after any delay, the handshake loads the board's image, provided that
nothing is outstanding when the first section is requested.  Both polling
requests of `TrySerialLink` may be answered; the second reply is then stored as
the first section, and every later reply as the section after its own.
-/

namespace AvensysEsp32
namespace UnitComm

open Foundation Serial

/-- A section of the image is the board's. -/
def Exact (sec : EepromSection) (m board : Memory) : Prop :=
  Set.EqOn m board sec.range

theorem viewRules_exact :
    ViewRules Exact where
  refl := fun _ _ _ _ => rfl
  congr := fun _ _ _ _ heq hexact _ hi => (heq hi).trans (hexact hi)

/-- Nothing is put off. -/
def NotPutOff (_ : EepromSection) (_ : BitVec 16) : Prop :=
  False

/-! ## Runs with a unit that answers -/

/-- The unit's image stays as it is, its replies arrive intact, and no client
writes. -/
def FaithfulUnit (e : SystemEvent) (_ : System) : Prop :=
  match e with
  | .gateway (.uartData _) => False
  | .gateway (.clientWrite _) => False
  | .change _ => False
  | .corrupt _ => False
  | _ => True

/-- When the first section is requested, no earlier request is unanswered and
no reply is on its way or in the receiver. -/
def NothingOutstanding (e : SystemEvent) (sys : System) : Prop :=
  match e with
  | .gateway (.iterate _) =>
      sys.gateway.wbmComState = .wbmCommunicating →
        sys.gateway.currentState = .linkConnected → Quiet sys
  | _ => True

instance decidableFaithfulUnit (e : SystemEvent) (sys : System) :
    Decidable (FaithfulUnit e sys) := by
  unfold FaithfulUnit
  split <;> infer_instance

/-- Whether the unit is faithful is seen from the events. -/
theorem along_faithfulUnit
    {es : List SystemEvent} {sys : System}
    (sys' : System) (h : ∀ e ∈ es, FaithfulUnit e sys') :
    Along systemStep FaithfulUnit es sys :=
  Along.mono (fun _ _ he => he) (Along.of_mem h)

instance decidableNothingOutstanding (e : SystemEvent) (sys : System) :
    Decidable (NothingOutstanding e sys) := by
  unfold NothingOutstanding
  split <;> infer_instance

/-- If the event connects the gateway, its mirror agrees with `eeprom` on every
section. -/
def LoadsImage (eeprom : Memory) (e : SystemEvent) (sys : System) : Prop :=
  sys.gateway.wbmComState = .wbmCommunicating →
    (systemStep e sys).gateway.wbmComState = .wbmConnected →
      ∀ sec : EepromSection, Set.EqOn (systemStep e sys).gateway.gRDEeprom eeprom sec.range

/-- If the event makes the handshake store a message, it is the reply to the
read request sent last, and is stored at that section. -/
def StoresRequested (e : SystemEvent) (sys : System) : Prop :=
  ∀ inp b, e = .gateway (.iterate inp) → sys.gateway.wbmComState = .wbmCommunicating →
    storedBlock inp sys.gateway = some b →
      ∃ sec : EepromSection,
        (uartWrites sys.gateway.outputs).getLast? = some (readEepromRequest sec) ∧
          b.start = sec.startAddress ∧ b.count = sec.count ∧
          b.buffer ihm1TypeComand = commandReadEeprom ∧
          b.buffer irsrAddrByteStartEep = UInt8.ofNat sec.startAddress ∧
          b.buffer irsrAddrNumByteEep = UInt8.ofNat sec.count

/-! ## The board's image -/

/-- Before it is connected the gateway has asked for nothing that changes the
board's image. -/
def BoardKept (eeprom : Memory) (sys : System) : Prop :=
  sys.gateway.wbmComState = .wbmInitialize ∨ sys.gateway.wbmComState = .wbmCommunicating →
    sys.board = eeprom ∧ ∀ w ∈ sys.requests, ∃ device, HandshakeMessage device w

/-- The board answers the messages of the handshake from its image, which they
leave as it is. -/
theorem boardAnswer_handshake
    {device : DeviceIdentity} {w : List UInt8} (h : HandshakeMessage device w)
    (eeprom : Memory) (a : Answer) :
    ∀ board reply, boardAnswer eeprom a w = some (board, reply) → board = eeprom := by
  intro board reply hanswer
  rcases h with rfl | ⟨sec, rfl⟩ | htransfer
  · rw [boardAnswer_pollingBase] at hanswer
    cases hanswer
    rfl
  · rw [boardAnswer_readEeprom] at hanswer
    cases hanswer
    rfl
  · unfold boardAnswer at hanswer
    dsimp only at hanswer
    have hhead : ofBytes w ihm1StartMsg0 ≠ protoStartMsg0 := htransfer
    rw [if_pos hhead] at hanswer
    cases hanswer

theorem boardKept_step
    {eeprom : Memory} (e : SystemEvent) (sys : System)
    (he : FaithfulUnit e sys) (h : BoardKept eeprom sys) :
    BoardKept eeprom (systemStep e sys) := by
  have hother : ∀ e, (step e sys.gateway).outputs = sys.gateway.outputs →
      (step e sys.gateway).wbmComState = sys.gateway.wbmComState →
        BoardKept eeprom (systemStep (.gateway e) sys) := by
    intro e hout hwbm hafter
    rw [systemStep_gateway_of_silent (sends_of_outputs_eq hout)] at hafter ⊢
    rw [hwbm] at hafter
    exact h hafter
  cases e with
  | gateway e =>
      cases e with
      | iterate inp =>
          intro hafter
          have hbefore := wbmComState_before inp hafter
          obtain ⟨hboard, hrequests⟩ := h hbefore
          refine ⟨hboard, fun w hw => ?_⟩
          rcases List.mem_append.mp hw with hw | hw
          · exact hrequests w hw
          · rcases hbefore with hwbm | hwbm
            · have hsend : Sends [] sys.gateway (step (.iterate inp) sys.gateway) := by
                simp only [step, unitEventTask, hwbm]
                exact Sends.of_silent (sends_of_outputs_eq rfl) (sends_emitAll _ [_, _])
              rw [sent_eq hsend] at hw
              cases hw
            · obtain ⟨ws, hsend, hws⟩ := sends_connectToUnit inp sys.gateway
              have hsend' : Sends ws sys.gateway (step (.iterate inp) sys.gateway) := by
                simp only [step, unitEventTask, hwbm]
                exact hsend
              rw [sent_eq hsend'] at hw
              exact ⟨_, hws w hw⟩
      | uartData data => exact he.elim
      | clientWrite w => exact he.elim
      | mqttReady ready => exact hother _ rfl rfl
      | unitUpdateTask running => exact hother _ rfl rfl
      | firmwareStored content => exact hother _ rfl rfl
  | answer a =>
      intro hafter
      rw [systemStep_answer_gateway] at hafter
      obtain ⟨hboard, hrequests⟩ := h hafter
      unfold systemStep
      dsimp only
      cases hreq : sys.requests with
      | nil =>
          dsimp only
          rw [hreq]
          exact ⟨hboard, fun w hw => by cases hw⟩
      | cons request requests =>
          have hrest : ∀ w ∈ requests, ∃ device, HandshakeMessage device w :=
            fun w hw => hrequests w (hreq ▸ List.mem_cons_of_mem request hw)
          obtain ⟨device, hmessage⟩ := hrequests request (hreq ▸ List.mem_cons_self)
          dsimp only
          cases hanswer : boardAnswer sys.board a request with
          | none => exact ⟨hboard, hrest⟩
          | some answered =>
              obtain ⟨board, reply⟩ := answered
              have hsame := boardAnswer_handshake hmessage sys.board a board reply hanswer
              exact ⟨hsame.trans hboard, hrest⟩
  | change eeprom' => exact he.elim
  | deliver =>
      obtain ⟨port, hgateway, hboard, hrequests⟩ :=
        deliver_gateway .deliver (Or.inl rfl) sys
      intro hafter
      rw [hgateway] at hafter
      rw [hboard, hrequests]
      exact h hafter
  | corrupt bytes => exact he.elim

/-! ## Loading -/

section Loading

variable {eeprom : Memory} {sys : System}

/-- Only the last state of the handshake connects, and it keeps the mirror. -/
theorem connects_image
    {e : SystemEvent}
    (hcomm : sys.gateway.wbmComState = .wbmCommunicating)
    (hconn : (systemStep e sys).gateway.wbmComState = .wbmConnected) :
    sys.gateway.currentState = .connected ∧
      ∃ inp, e = .gateway (.iterate inp) ∧
        (systemStep e sys).gateway = connected inp sys.gateway := by
  have hkeeps : (systemStep e sys).gateway.wbmComState = sys.gateway.wbmComState →
      sys.gateway.currentState = .connected ∧
        ∃ inp, e = .gateway (.iterate inp) ∧
          (systemStep e sys).gateway = connected inp sys.gateway := by
    intro hsame
    rw [hsame, hcomm] at hconn
    cases hconn
  cases e with
  | gateway e =>
      cases e with
      | iterate inp =>
          have hstep : (systemStep (.gateway (.iterate inp)) sys).gateway =
              connectToUnit inp sys.gateway := by
            simp only [systemStep, step, unitEventTask, hcomm]
          rw [hstep] at hconn ⊢
          have hstate := ((handshakeTimers_connectToUnit inp hcomm).connected hconn).1
          exact ⟨hstate, inp, rfl, by simp only [connectToUnit, hstate]⟩
      | uartData data => exact hkeeps rfl
      | clientWrite w => exact hkeeps (sameButImage_clientWrite w sys.gateway).wbmComState
      | mqttReady ready => exact hkeeps rfl
      | unitUpdateTask running => exact hkeeps rfl
      | firmwareStored content => exact hkeeps rfl
  | answer a => exact hkeeps (by rw [systemStep_answer_gateway])
  | change eeprom' => exact hkeeps rfl
  | deliver =>
      obtain ⟨port, hgateway, -⟩ := deliver_gateway .deliver (Or.inl rfl) sys
      exact hkeeps (by rw [hgateway])
  | corrupt bytes =>
      obtain ⟨port, hgateway, -⟩ := deliver_gateway (.corrupt bytes) (Or.inr ⟨bytes, rfl⟩) sys
      exact hkeeps (by rw [hgateway])

/-- The invariant gives the board's image to the mirror that connects. -/
theorem loadsImage_of_inv
    (e : SystemEvent)
    (h : HandshakeInv Exact NotPutOff sys) (hboard : BoardKept eeprom sys) :
    LoadsImage eeprom e sys := by
  intro hcomm hconn sec
  obtain ⟨hstate, inp, -, hgateway⟩ := connects_image hcomm hconn
  rw [hgateway, (connected_image inp sys.gateway).1]
  have hexact : ∀ sec ∈ writtenSections, Exact sec sys.gateway.gRDEeprom eeprom := by
    intro sec hsec
    rw [← (hboard (Or.inr hcomm)).1]
    rcases h.image hcomm sec (hstate ▸ hsec) with hview | hnever
    · exact hview
    · exact hnever.elim
  by_cases hsec : sec = .configuration
  · -- The configuration and the hardware setting are the same bytes.
    subst hsec
    have hrange : EepromSection.configuration.range = EepromSection.hwSetting.range := by
      rfl
    rw [hrange]
    exact hexact .hwSetting (by decide)
  · apply hexact
    cases sec <;> first | exact absurd rfl hsec | decide

/-- The invariant pairs what is stored with the request sent last. -/
theorem storesRequested_of_inv
    (e : SystemEvent)
    (h : HandshakeInv Exact NotPutOff sys) :
    StoresRequested e sys := by
  rintro inp b - hcomm hstored
  unfold storedBlock at hstored
  dsimp only at hstored
  split at hstored
  · rename_i hgt
    rw [hcomm] at hstored
    dsimp only at hstored
    split at hstored
    · cases hstored
    · obtain ⟨field, hfield, rfl⟩ := Option.map_eq_some_iff.mp hstored
      obtain ⟨st, hst⟩ : ∃ st, sectionStep sys.gateway.currentState = some st := by
        cases hc : sys.gateway.currentState <;> rw [hc] at hfield <;>
          first
            | exact ⟨_, rfl⟩
            | cases hfield
      have hsound := sectionStep_sound hst
      have hfield' : field = st.field := Option.some.inj (hfield.symm.trans hsound.sectionField)
      rcases (h.paired hcomm _ hsound.awaited).read with ⟨hle, -⟩ | ⟨w, hshows, hread, -⟩
      · exact absurd hgt (not_lt.mpr hle)
      · obtain ⟨m, -, rfl⟩ := hshows
        have hbuffer : ∀ i < rxBufferSize, (readMessage sys.gateway.port).2.buffSer1 i =
            ofBytes (readSectionReply m st.sec) i := by
          intro i hi
          rw [hread]
          exact downloaded_apply _ _ hi
        obtain ⟨haddress, hcount⟩ := readSectionReply_address m st.sec
        refine ⟨st.sec, h.asked hcomm _ hsound.awaited, ?_, ?_, ?_, ?_, ?_⟩
        · rw [hfield']
          exact hsound.field
        · dsimp only
          rw [hbuffer _ (by decide), hcount, st.sec.toNat_count]
        · dsimp only
          rw [hbuffer _ (by decide)]
          exact readSectionReply_command m st.sec
        · dsimp only
          rw [hbuffer _ (by decide)]
          exact haddress
        · dsimp only
          rw [hbuffer _ (by decide)]
          exact hcount
  · cases hstored

end Loading

/-- What holds on the way to the connection. -/
def LoadInv (eeprom : Memory) (sys : System) : Prop :=
  HandshakeInv Exact NotPutOff sys ∧ BoardKept eeprom sys

section Boot

variable (device : DeviceIdentity) (firmwareBin : Option (List UInt8)) (partitionState : Bool)
variable (millis : UInt32) (eeprom : Memory)

/-- A gateway that is started beside a unit with the given image. -/
def bootBeside : System :=
  System.boot (UnitState.boot device firmwareBin partitionState millis) eeprom

/-- From its start, the gateway loads the image of every unit that answers its
requests, and stores nothing but the replies to its read requests, in every run
in which nothing is outstanding when the first section is requested. -/
theorem handshake_loads_image
    (es : List SystemEvent)
    (hunit : Along systemStep FaithfulUnit es
      (bootBeside device firmwareBin partitionState millis eeprom))
    (hquiet : Along systemStep NothingOutstanding es
      (bootBeside device firmwareBin partitionState millis eeprom)) :
    Along systemStep (fun e sys => LoadsImage eeprom e sys ∧ StoresRequested e sys) es
      (bootBeside device firmwareBin partitionState millis eeprom) := by
  have hevent : ∀ e sys, FaithfulUnit e sys ∧ NothingOutstanding e sys →
      HandshakeEvent Exact NotPutOff e sys := by
    rintro e sys ⟨hfaithful, hnothing⟩
    cases e with
    | gateway e =>
        cases e with
        | iterate inp => exact hnothing
        | uartData data => exact hfaithful.elim
        | clientWrite w => exact hfaithful.elim
        | _ => trivial
    | change eeprom' => exact hfaithful.elim
    | corrupt bytes => exact hfaithful.elim
    | _ => trivial
  have hstep : ∀ e sys, FaithfulUnit e sys ∧ NothingOutstanding e sys →
      LoadInv eeprom sys → LoadInv eeprom (systemStep e sys) := by
    rintro e sys he ⟨hinv, hboard⟩
    exact ⟨handshakeInv_step viewRules_exact e sys (hevent e sys he) hinv,
      boardKept_step e sys he.1 hboard⟩
  refine Along.of_invariant hstep ?_ (hunit.and hquiet) ⟨?_, ?_⟩
  · rintro e sys - ⟨hinv, hboard⟩
    exact ⟨loadsImage_of_inv e hinv hboard, storesRequested_of_inv e hinv⟩
  · apply HandshakeInv.of_not_communicating
    simp [bootBeside, System.boot, UnitState.boot]
  · intro _
    exact ⟨rfl, fun w hw => by cases hw⟩

end Boot

/-! ## Two handshakes -/

section Example

/-- An iteration of the gateway while the clock stands still. -/
def gatewayAt (reading : UInt32) : SystemEvent :=
  .gateway (iterateAt reading)

/-- A reply arrives, is noticed and is read. -/
def arriveAt (reading : UInt32) : List SystemEvent :=
  [.deliver, gatewayAt reading, gatewayAt reading]

/-- The board answers its oldest request, and the reply arrives. -/
def answeredAt (reading : UInt32) : List SystemEvent :=
  .answer .zero :: arriveAt reading

/-- The events up to the first polling request. -/
def untilPolling : List SystemEvent :=
  [gatewayAt 0, gatewayAt 0, gatewayAt 0]

/-- A handshake in which every request is answered at once. -/
def promptHandshake : List SystemEvent :=
  untilPolling ++ answeredAt 0 ++ gatewayAt 0 ::
    (List.replicate 7 (answeredAt 0)).flatten ++ [gatewayAt 0]

/-- A handshake in which the first polling request is answered only after the
second has been sent. -/
def lateHandshake : List SystemEvent :=
  untilPolling ++ [gatewayAt 15000, gatewayAt 15000, .answer .zero, .answer .zero] ++
    arriveAt 15000 ++ gatewayAt 15000 :: arriveAt 15000 ++
    (List.replicate 6 (answeredAt 15000)).flatten ++ [gatewayAt 15000]

/-- A gateway beside a unit whose image holds ones everywhere. -/
def besideOnes : System :=
  bootBeside .zeroMac none false 0 fun _ => 1

theorem faithful_promptHandshake :
    Along systemStep FaithfulUnit promptHandshake besideOnes :=
  along_faithfulUnit besideOnes (by decide)

/-- Answered at once, the handshake loads the ones. -/
theorem promptHandshake_loads_ones :
    (run systemStep promptHandshake besideOnes).gateway.wbmComState = .wbmConnected ∧
      Along systemStep (fun e sys => LoadsImage (fun _ => 1) e sys ∧ StoresRequested e sys)
        promptHandshake besideOnes := by
  obtain ⟨hconn, hquiet⟩ :
      (run systemStep promptHandshake besideOnes).gateway.wbmComState = .wbmConnected ∧
        Along systemStep NothingOutstanding promptHandshake besideOnes := by
    decide +kernel
  exact ⟨hconn,
    handshake_loads_image .zeroMac none false 0 (fun _ => 1) promptHandshake
      faithful_promptHandshake hquiet⟩

/-- Answered late, the handshake connects with a polling reply for the first
section. -/
theorem lateHandshake_loads_polling :
    Along systemStep FaithfulUnit lateHandshake besideOnes ∧
      (run systemStep lateHandshake besideOnes).gateway.wbmComState = .wbmConnected ∧
      ¬ Set.EqOn (run systemStep lateHandshake besideOnes).gateway.gRDEeprom (fun _ => 1)
        EepromSection.info.range := by
  obtain ⟨hconn, hzero⟩ :
      (run systemStep lateHandshake besideOnes).gateway.wbmComState = .wbmConnected ∧
        (run systemStep lateHandshake besideOnes).gateway.gRDEeprom 0 = 0 := by
    decide +kernel
  refine ⟨along_faithfulUnit besideOnes (by decide), hconn, fun hones => ?_⟩
  have hone : (run systemStep lateHandshake besideOnes).gateway.gRDEeprom 0 = 1 :=
    hones ((EepromSection.info.mem_range_iff 0).mpr (by decide))
  rw [hzero] at hone
  cases hone

end Example

end UnitComm
end AvensysEsp32
