import AvensysEsp32.UnitComm.State

/-!
# Parsing the unit's replies

The four parse functions of `unit_comm.c`.  Each is called with `buff_ser1`
whenever `Read_Message` has returned more than `RUN_DOWNLOAD` and the command
byte names the reply.
-/

namespace AvensysEsp32
namespace UnitComm

open Foundation Serial

/-- `MAKEWORD` -/
def makeWord (buffer : Memory) (hiIndex loIndex : Nat) : Nat :=
  (buffer hiIndex).toNat <<< 8 ||| (buffer loIndex).toNat

/-- `MAKESHORT` -/
def makeShort (buffer : Memory) (hiIndex loIndex : Nat) : Int :=
  (BitVec.ofNat 16 (makeWord buffer hiIndex loIndex)).toInt

/-- The bit of `Read_Eeprom_Request_Index` that asks for a section to be read. -/
def readRequest : CountedSection → BitVec 16
  | .info => 0x1
  | .settingPar => 0x2
  | .setTemp => 0x4
  | .dayProg => 0x8

/-- `unit_comm_seed_external_counters` -/
def seedExternalCounters (s : UnitState) : UnitState :=
  { s with
    extCnt :=
      { initialized := true
        cnt := fun sec => s.gRDEeprom sec.cntUpdateAddress } }

/-! ## Polling replies -/

/-- The measures and counters of a polling reply. -/
def pollingBaseData (rxBuffer : Memory) : ClktsData where
  measureTemp
    | 0 => makeShort rxBuffer irspMeasureTemp1Hi irspMeasureTemp1Lo
    | 1 => makeShort rxBuffer irspMeasureTemp2Hi irspMeasureTemp2Lo
    | 2 => makeShort rxBuffer irspMeasureTemp3Hi irspMeasureTemp3Lo
    | 3 => makeShort rxBuffer irspMeasureTemp4Hi irspMeasureTemp4Lo
  measureRhMax := (rxBuffer irspMeasureRhSens).toNat
  measureCo2Max := makeWord rxBuffer irspMeasureCo2SensHi irspMeasureCo2SensLo
  measureVocMax := makeWord rxBuffer irspMeasureVocSensHi irspMeasureVocSensLo
  measureTempAwp := makeShort rxBuffer irspMeasureAwpSensHi irspMeasureAwpSensLo
  statusUnit := makeWord rxBuffer irspStatusUnitHi irspStatusUnitLo
  statusWeekly := rxBuffer irspStatusWeekly
  inputMeasure1 := rxBuffer irspMeasureIn1
  inputMeasure2 := rxBuffer irspMeasureIn2
  events := fun i => rxBuffer (irspEventByte00 + i)
  increaseSpeedRhCo2 := rxBuffer irspIncreaseSpeedRhCo2
  cntUpdate := fun sec => rxBuffer sec.irspCntUpdate

/-- What one event byte does to the alarm flags. -/
def noteEvent (events : Memory) (g : ClktsGlobal) (eventsCounter : Nat) : ClktsGlobal :=
  if events eventsCounter = 0 then g
  else if eventsCounter = 10 then
    { g with
      filterInAlarm := decide (events eventsCounter &&& 0x20 ≠ 0)
      inAlarm := if events eventsCounter ≠ 0x20 then true else g.inAlarm }
  else { g with inAlarm := true }

/-- The alarm flags for the event bytes of a polling reply. -/
def noteEvents (events : Memory) (g : ClktsGlobal) : ClktsGlobal :=
  (List.range 13).foldl (noteEvent events) { g with inAlarm := false, filterInAlarm := false }

/-- Ask for a section to be read when its polled counter differs from the
shadow counter. -/
def noteExternalChange (s : UnitState) (sec : CountedSection) : UnitState :=
  if s.gKTSData.cntUpdate sec ≠ s.extCnt.cnt sec then
    { s with
      readEepromRequestIndex := s.readEepromRequestIndex ||| readRequest sec
      extCnt :=
        { s.extCnt with
          cnt := Function.update s.extCnt.cnt sec (s.gKTSData.cntUpdate sec) } }
  else s

/-- `WBM_Polling_Base_Data_Parse`, with the reading of `Millis()` at its end. -/
def pollingBaseDataParse (millis : UInt32) (rxBuffer : Memory) (s : UnitState) : UnitState :=
  let s := if s.extCnt.initialized then s else seedExternalCounters s
  let s := { s with gKTSData := pollingBaseData rxBuffer }
  let s := { s with gKTSGlobal := noteEvents s.gKTSData.events s.gKTSGlobal }
  let s := CountedSection.all.foldl noteExternalChange s
  { s with gKTSGlobal := { s.gKTSGlobal with lastReceivedPollingBaseTimer := millis } }

/-! ## Debug replies -/

/-- `WBM_Debug_Data_Parse` -/
def debugDataParse (rxBuffer : Memory) (s : UnitState) : UnitState :=
  { s with
    gKTSDebugData :=
      { preHeaterStatus := rxBuffer irsdStatusPreheater
        heaterStatus := rxBuffer irsdStatusHeater
        coolerStatus := rxBuffer irsdStatusCooler
        dscStatus := rxBuffer irsdStatusDsc
        caprLinkLevel := rxBuffer irsdLevLinkCapr
        capsLinkLevel := rxBuffer irsdLevLinkCaps
        caprStatus := rxBuffer irsdStatusCapr
        capsStatus := rxBuffer irsdStatusCaps
        measureAirflowCapr := makeWord rxBuffer irsdMeasurAfCaprHi irsdMeasurAfCaprLo
        measureAirflowCaps := makeWord rxBuffer irsdMeasurAfCapsHi irsdMeasurAfCapsLo
        measuresPressureCapr :=
          (rxBuffer irsdMeasurPaCaprHi).toNat <<< 8 + (rxBuffer irsdMeasurPaCaprLo).toNat
        measuresPressureCaps :=
          (rxBuffer irsdMeasurPaCapsHi).toNat <<< 8 + (rxBuffer irsdMeasurPaCapsLo).toNat } }

/-! ## Replies on the EEPROM -/

/-- `WBM_Read_Eeprom_Data_Parse` -/
def readEepromDataParse (rxBuffer : Memory) (s : UnitState) : UnitState :=
  { s with
    gRDEeprom :=
      memcpy s.gRDEeprom (rxBuffer irsrAddrByteStartEep).toNat
        rxBuffer irsrStartDataEeprom (rxBuffer irsrAddrNumByteEep).toNat }

/-- Ask for a section to be read when its counter in a reply to a write
differs from the mirror's, and take the counter over into the mirror. -/
def noteWriteCounter (rxBuffer : Memory) (s : UnitState) (sec : CountedSection) : UnitState :=
  let cnt := rxBuffer sec.irswCntUpdate
  let own := s.gRDEeprom sec.cntUpdateAddress
  { s with
    readEepromRequestIndex :=
      if max cnt.toNat own.toNat - min cnt.toNat own.toNat ≥ 1 then
        s.readEepromRequestIndex ||| readRequest sec
      else s.readEepromRequestIndex
    gRDEeprom := Function.update s.gRDEeprom sec.cntUpdateAddress cnt }

/-- `WBM_Write_Eeprom_Data_Parse`: the result of the write is only logged. -/
def writeEepromDataParse (rxBuffer : Memory) (s : UnitState) : UnitState :=
  CountedSection.all.foldl (noteWriteCounter rxBuffer) s

/-! ## What the parse functions do -/

/-- The bit number of `readRequest`. -/
def readRequestBit : CountedSection → Nat
  | .info => 0
  | .settingPar => 1
  | .setTemp => 2
  | .dayProg => 3

theorem getLsbD_readRequest
    (sec : CountedSection) (k : Nat) :
    (readRequest sec).getLsbD k = decide (k = readRequestBit sec) := by
  have htwo : readRequest sec = BitVec.twoPow 16 (readRequestBit sec) := by
    cases sec <;> decide
  have hlt : readRequestBit sec < 16 := by
    cases sec <;> decide
  rw [htwo, BitVec.getLsbD_twoPow]
  simp only [hlt, decide_true, Bool.true_and]
  exact decide_eq_decide.mpr eq_comm

theorem readRequestBit_injective :
    Function.Injective readRequestBit := by
  intro a b h
  cases a <;> cases b <;> first | rfl | cases h

/-- The reads asked for when the counters change from `known` to `cnt`. -/
def changeRequests (cnt known : CountedSection → UInt8) : BitVec 16 :=
  CountedSection.all.foldl
    (fun index sec => index ||| if cnt sec ≠ known sec then readRequest sec else 0) 0

theorem getLsbD_changeRequest
    (p : Prop) [Decidable p] (sec : CountedSection) (k : Nat) :
    (if p then readRequest sec else 0).getLsbD k = decide (p ∧ k = readRequestBit sec) := by
  by_cases hp : p
  · simp [hp, getLsbD_readRequest]
  · simp [hp]

/-- A read is asked for exactly for the sections whose counter changed. -/
theorem getLsbD_changeRequests_iff
    (cnt known : CountedSection → UInt8) (k : Nat) :
    (changeRequests cnt known).getLsbD k = true ↔
      ∃ sec, cnt sec ≠ known sec ∧ k = readRequestBit sec := by
  unfold changeRequests CountedSection.all
  simp only [List.foldl, BitVec.getLsbD_or, getLsbD_changeRequest, Bool.or_eq_true,
    decide_eq_true_eq]
  constructor
  · rintro ((((h | h) | h) | h) | h)
    · simp at h
    · exact ⟨_, h⟩
    · exact ⟨_, h⟩
    · exact ⟨_, h⟩
    · exact ⟨_, h⟩
  · rintro ⟨sec, h⟩
    cases sec with
    | info => exact Or.inl (Or.inl (Or.inl (Or.inr h)))
    | settingPar => exact Or.inl (Or.inl (Or.inr h))
    | setTemp => exact Or.inl (Or.inr h)
    | dayProg => exact Or.inr h

theorem getLsbD_changeRequests_readRequestBit
    (cnt known : CountedSection → UInt8) (sec : CountedSection) :
    (changeRequests cnt known).getLsbD (readRequestBit sec) = true ↔
      cnt sec ≠ known sec := by
  rw [getLsbD_changeRequests_iff]
  constructor
  · rintro ⟨sec', hne, hbit⟩
    rwa [readRequestBit_injective hbit]
  · intro h
    exact ⟨sec, h, rfl⟩

/-- Only the four lowest bits are ever asked for by a change of counters. -/
theorem getLsbD_changeRequests_of_four_le
    (cnt known : CountedSection → UInt8) {k : Nat}
    (hk : 4 ≤ k) :
    (changeRequests cnt known).getLsbD k = false := by
  rw [Bool.eq_false_iff, ne_eq, getLsbD_changeRequests_iff]
  rintro ⟨sec, -, h⟩
  cases sec <;> simp only [readRequestBit] at h <;> omega

theorem noteExternalChange_eq
    (s : UnitState) (sec : CountedSection) :
    noteExternalChange s sec =
      { s with
        readEepromRequestIndex := s.readEepromRequestIndex |||
          if s.gKTSData.cntUpdate sec ≠ s.extCnt.cnt sec then readRequest sec else 0
        extCnt :=
          { s.extCnt with
            cnt := Function.update s.extCnt.cnt sec (s.gKTSData.cntUpdate sec) } } := by
  unfold noteExternalChange
  by_cases h : s.gKTSData.cntUpdate sec = s.extCnt.cnt sec
  · simp [h]
  · simp [h]

/-- The shadow counters a polling reply is compared with. -/
def UnitState.knownCounters (s : UnitState) (sec : CountedSection) : UInt8 :=
  if s.extCnt.initialized then s.extCnt.cnt sec else s.gRDEeprom sec.cntUpdateAddress

theorem knownCounters_of_initialized
    {s : UnitState} (h : s.extCnt.initialized = true) :
    s.knownCounters = s.extCnt.cnt := by
  funext sec
  unfold UnitState.knownCounters
  rw [if_pos h]

theorem knownCounters_of_uninitialized
    {s : UnitState} (h : s.extCnt.initialized = false) :
    s.knownCounters = fun sec => s.gRDEeprom sec.cntUpdateAddress := by
  funext sec
  unfold UnitState.knownCounters
  rw [h]
  rfl

/-- A polling reply updates the measures, asks for the sections whose counter
differs from the shadow, and makes the polled counters the shadow. -/
theorem pollingBaseDataParse_eq
    (millis : UInt32) (rxBuffer : Memory) (s : UnitState) :
    pollingBaseDataParse millis rxBuffer s =
      { s with
        gKTSData := pollingBaseData rxBuffer
        gKTSGlobal :=
          { noteEvents (pollingBaseData rxBuffer).events s.gKTSGlobal with
            lastReceivedPollingBaseTimer := millis }
        readEepromRequestIndex := s.readEepromRequestIndex |||
          changeRequests (pollingBaseData rxBuffer).cntUpdate s.knownCounters
        extCnt := { initialized := true, cnt := (pollingBaseData rxBuffer).cntUpdate } } := by
  have hcnt : ∀ old cnt : CountedSection → UInt8,
      Function.update (Function.update (Function.update (Function.update old
        .info (cnt .info)) .settingPar (cnt .settingPar)) .setTemp (cnt .setTemp))
        .dayProg (cnt .dayProg) = cnt := by
    intro old cnt
    funext sec
    cases sec <;> simp
  cases hinit : s.extCnt.initialized <;>
  simp [pollingBaseDataParse, CountedSection.all, noteExternalChange_eq, hinit,
    seedExternalCounters, changeRequests, UnitState.knownCounters, hcnt, BitVec.or_assoc]

/-- The mirror with the counters that a reply to a write carries. -/
def withCounters (rxBuffer m : Memory) : Memory :=
  CountedSection.all.foldl
    (fun m sec => Function.update m sec.cntUpdateAddress (rxBuffer sec.irswCntUpdate)) m

theorem max_sub_min_pos_iff
    (a b : UInt8) :
    max a.toNat b.toNat - min a.toNat b.toNat ≥ 1 ↔ a ≠ b := by
  have hne : a ≠ b ↔ a.toNat ≠ b.toNat :=
    UInt8.toNat_inj.not.symm
  rw [hne]
  omega

theorem noteWriteCounter_eq
    (rxBuffer : Memory) (s : UnitState) (sec : CountedSection) :
    noteWriteCounter rxBuffer s sec =
      { s with
        readEepromRequestIndex := s.readEepromRequestIndex |||
          if rxBuffer sec.irswCntUpdate ≠ s.gRDEeprom sec.cntUpdateAddress
          then readRequest sec else 0
        gRDEeprom :=
          Function.update s.gRDEeprom sec.cntUpdateAddress (rxBuffer sec.irswCntUpdate) } := by
  unfold noteWriteCounter
  simp only [max_sub_min_pos_iff]
  by_cases h : rxBuffer sec.irswCntUpdate = s.gRDEeprom sec.cntUpdateAddress
  · simp [h]
  · simp [h]

/-- A reply to a write asks for the sections whose counter differs from the
mirror's, and changes nothing but the counters of the mirror. -/
theorem writeEepromDataParse_eq
    (rxBuffer : Memory) (s : UnitState) :
    writeEepromDataParse rxBuffer s =
      { s with
        readEepromRequestIndex := s.readEepromRequestIndex |||
          changeRequests (fun sec => rxBuffer sec.irswCntUpdate)
            (fun sec => s.gRDEeprom sec.cntUpdateAddress)
        gRDEeprom := withCounters rxBuffer s.gRDEeprom } := by
  simp [writeEepromDataParse, CountedSection.all, noteWriteCounter_eq, changeRequests,
    withCounters, BitVec.or_assoc, CountedSection.cntUpdateAddress_eq]

theorem withCounters_cntUpdateAddress
    (rxBuffer m : Memory) (sec : CountedSection) :
    withCounters rxBuffer m sec.cntUpdateAddress = rxBuffer sec.irswCntUpdate := by
  unfold withCounters CountedSection.all
  cases sec <;> simp [CountedSection.cntUpdateAddress_eq]

theorem withCounters_of_ne
    (rxBuffer m : Memory) {i : Nat}
    (h : ∀ sec : CountedSection, i ≠ sec.cntUpdateAddress) :
    withCounters rxBuffer m i = m i := by
  unfold withCounters CountedSection.all
  simp only [List.foldl]
  rw [Function.update_of_ne (h _), Function.update_of_ne (h _),
    Function.update_of_ne (h _), Function.update_of_ne (h _)]

end UnitComm
end AvensysEsp32
