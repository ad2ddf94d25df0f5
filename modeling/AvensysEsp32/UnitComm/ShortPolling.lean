import AvensysEsp32.Serial.Corruption
import AvensysEsp32.UnitComm.Connected

/-!
# Polling replies shorter than the parser expects

A polling reply goes to two readers.  The BLE characteristic gets its payload,
filled up with zeros to forty bytes.  `WBM_Polling_Base_Data_Parse` reads fixed
positions of `buff_ser1` up to the fortieth byte of the payload, however long
the payload is, and so meets the checksum of a shorter reply.
-/

namespace AvensysEsp32
namespace UnitComm

open Foundation Serial

/-! ## The two readers -/

/-- The payload of a reply as forty bytes: cut, or filled up with zeros. -/
def fortyBytes (buffer : Memory) : List UInt8 :=
  (replyData buffer ++ List.replicate 40 0).take 40

/-- A buffer with the payload where a reply has it. -/
def asReply (payload : List UInt8) : Memory :=
  store (fun _ => 0) ihm1StartData payload

/-- Two sets of measures with the same values and the same thirteen event bytes. -/
structure SameMeasures (d d' : ClktsData) : Prop where
  measureTemp : d.measureTemp = d'.measureTemp
  measureCo2Max : d.measureCo2Max = d'.measureCo2Max
  measureRhMax : d.measureRhMax = d'.measureRhMax
  measureVocMax : d.measureVocMax = d'.measureVocMax
  measureTempAwp : d.measureTempAwp = d'.measureTempAwp
  statusUnit : d.statusUnit = d'.statusUnit
  statusWeekly : d.statusWeekly = d'.statusWeekly
  events : ∀ i < 13, d.events i = d'.events i
  cntUpdate : d.cntUpdate = d'.cntUpdate
  inputMeasure1 : d.inputMeasure1 = d'.inputMeasure1
  inputMeasure2 : d.inputMeasure2 = d'.inputMeasure2
  increaseSpeedRhCo2 : d.increaseSpeedRhCo2 = d'.increaseSpeedRhCo2

/-- Two states in which a polling reply has been read alike: the same measures,
alarm flags and sections to be read. -/
structure SameReading (s s' : UnitState) : Prop where
  measures : SameMeasures s.gKTSData s'.gKTSData
  inAlarm : s.gKTSGlobal.inAlarm = s'.gKTSGlobal.inAlarm
  filterInAlarm : s.gKTSGlobal.filterInAlarm = s'.gKTSGlobal.filterInAlarm
  requests : s.readEepromRequestIndex = s'.readEepromRequestIndex

/-- The reply in `buff_ser1` is read as its payload would be, filled up with
zeros or cut to forty bytes. -/
def ReadAsPayload (millis : UInt32) (buff : Memory) (s : UnitState) : Prop :=
  SameReading (pollingBaseDataParse millis buff s)
    (pollingBaseDataParse millis (asReply (fortyBytes buff)) s)

/-- The two checksum bytes behind `crc` play no part in what is read. -/
def ChecksumUnread (millis : UInt32) (buff : Memory) (crc : Nat) (s : UnitState) : Prop :=
  ∀ lo hi : UInt8,
    SameReading
      (pollingBaseDataParse millis
        (Function.update (Function.update buff crc lo) (crc + 1) hi) s)
      (pollingBaseDataParse millis buff s)

/-- `IRSP_INFO_PROBE_AD` -/
@[simp] abbrev irspInfoProbeAd : Nat := 14

/-- `IRSP_NONE_0` -/
@[simp] abbrev irspNone0 : Nat := 36

/-- The positions that the parser reads. -/
def decodedPositions : Set Nat :=
  {i | ihm1StartData ≤ i ∧ i < irspCrcLo ∧ i ≠ irspInfoProbeAd ∧ i ≠ irspNone0}

section Decoding

variable {b b' : Memory}

theorem makeWord_inj
    {hi lo : Nat}
    (h : makeWord b hi lo = makeWord b' hi lo) :
    b hi = b' hi ∧ b lo = b' lo := by
  have hword : ∀ b : Memory, makeWord b hi lo = (b hi).toNat * 256 + (b lo).toNat := by
    intro b
    have hlo : (b lo).toNat < 2 ^ 8 := (b lo).toNat_lt
    unfold makeWord
    rw [← Nat.shiftLeft_add_eq_or_of_lt hlo, Nat.shiftLeft_eq]
  rw [hword, hword] at h
  have hlo : (b lo).toNat < 256 := (b lo).toNat_lt
  have hlo' : (b' lo).toNat < 256 := (b' lo).toNat_lt
  exact ⟨UInt8.toNat_inj.1 (by omega), UInt8.toNat_inj.1 (by omega)⟩

theorem makeWord_lt (b : Memory) (hi lo : Nat) :
    makeWord b hi lo < 2 ^ 16 := by
  have hhi : (b hi).toNat < 256 := (b hi).toNat_lt
  have hlo : (b lo).toNat < 2 ^ 8 := (b lo).toNat_lt
  unfold makeWord
  rw [← Nat.shiftLeft_add_eq_or_of_lt hlo, Nat.shiftLeft_eq]
  omega

theorem makeShort_inj
    {hi lo : Nat}
    (h : makeShort b hi lo = makeShort b' hi lo) :
    b hi = b' hi ∧ b lo = b' lo := by
  have hbits := congrArg BitVec.toNat (BitVec.toInt_inj.mp h)
  rw [BitVec.toNat_ofNat, BitVec.toNat_ofNat, Nat.mod_eq_of_lt (makeWord_lt b hi lo),
    Nat.mod_eq_of_lt (makeWord_lt b' hi lo)] at hbits
  exact makeWord_inj hbits

theorem makeWord_congr
    {hi lo : Nat} (hhi : b hi = b' hi) (hlo : b lo = b' lo) :
    makeWord b hi lo = makeWord b' hi lo := by
  unfold makeWord
  rw [hhi, hlo]

theorem makeShort_congr
    {hi lo : Nat} (hhi : b hi = b' hi) (hlo : b lo = b' lo) :
    makeShort b hi lo = makeShort b' hi lo := by
  unfold makeShort
  rw [makeWord_congr hhi hlo]

/-- The measures show every byte that is read, and no other. -/
theorem sameMeasures_iff :
    SameMeasures (pollingBaseData b) (pollingBaseData b') ↔ Set.EqOn b b' decodedPositions := by
  constructor
  · intro h i hi
    obtain ⟨hlow, hhigh, hprobe, hnone⟩ := hi
    simp only [ihm1StartData, irspCrcLo, irspInfoProbeAd, irspNone0] at hlow hhigh hprobe hnone
    by_cases hevent : 23 ≤ i ∧ i < 36
    · have hbyte : b (23 + (i - 23)) = b' (23 + (i - 23)) := h.events (i - 23) (by omega)
      rwa [Nat.add_sub_cancel' hevent.1] at hbyte
    obtain ⟨h5, h4⟩ := makeShort_inj (congrFun h.measureTemp 0)
    obtain ⟨h7, h6⟩ := makeShort_inj (congrFun h.measureTemp 1)
    obtain ⟨h9, h8⟩ := makeShort_inj (congrFun h.measureTemp 2)
    obtain ⟨h11, h10⟩ := makeShort_inj (congrFun h.measureTemp 3)
    have h12 := h.inputMeasure1
    have h13 := h.inputMeasure2
    have h15 : b 15 = b' 15 := UInt8.toNat_inj.1 h.measureRhMax
    obtain ⟨h17, h16⟩ := makeWord_inj h.measureCo2Max
    obtain ⟨h19, h18⟩ := makeWord_inj h.measureVocMax
    obtain ⟨h21, h20⟩ := makeWord_inj h.statusUnit
    have h22 := h.statusWeekly
    have h37 := h.increaseSpeedRhCo2
    have h38 := congrFun h.cntUpdate .info
    have h39 := congrFun h.cntUpdate .settingPar
    have h40 := congrFun h.cntUpdate .setTemp
    have h41 := congrFun h.cntUpdate .dayProg
    obtain ⟨h43, h42⟩ := makeShort_inj h.measureTempAwp
    interval_cases i <;> first | assumption | omega
  · intro h
    have hbyte : ∀ i, 4 ≤ i ∧ i < 44 ∧ i ≠ 14 ∧ i ≠ 36 → b i = b' i :=
      fun i hi => h hi
    constructor
    · funext k
      match k with
      | 0 => exact makeShort_congr (hbyte 5 (by decide)) (hbyte 4 (by decide))
      | 1 => exact makeShort_congr (hbyte 7 (by decide)) (hbyte 6 (by decide))
      | 2 => exact makeShort_congr (hbyte 9 (by decide)) (hbyte 8 (by decide))
      | 3 => exact makeShort_congr (hbyte 11 (by decide)) (hbyte 10 (by decide))
    · exact makeWord_congr (hbyte 17 (by decide)) (hbyte 16 (by decide))
    · exact congrArg UInt8.toNat (hbyte 15 (by decide))
    · exact makeWord_congr (hbyte 19 (by decide)) (hbyte 18 (by decide))
    · exact makeShort_congr (hbyte 43 (by decide)) (hbyte 42 (by decide))
    · exact makeWord_congr (hbyte 21 (by decide)) (hbyte 20 (by decide))
    · exact hbyte 22 (by decide)
    · intro i hi
      exact hbyte (23 + i) ⟨by omega, by omega, by omega, by omega⟩
    · funext sec
      cases sec with
      | info => exact hbyte 38 (by decide)
      | settingPar => exact hbyte 39 (by decide)
      | setTemp => exact hbyte 40 (by decide)
      | dayProg => exact hbyte 41 (by decide)
    · exact hbyte 12 (by decide)
    · exact hbyte 13 (by decide)
    · exact hbyte 37 (by decide)

/-- The alarm flags come from the thirteen event bytes. -/
theorem noteEvents_congr
    {events events' : Memory} (g : ClktsGlobal)
    (h : ∀ i < 13, events i = events' i) :
    noteEvents events g = noteEvents events' g := by
  have hone : ∀ (g : ClktsGlobal), ∀ i ∈ List.range 13,
      noteEvent events g i = noteEvent events' g i := by
    intro g i hi
    unfold noteEvent
    rw [h i (List.mem_range.mp hi)]
  unfold noteEvents
  exact List.foldl_ext _ _ _ fun g i hi => hone g i hi

/-- A reply is read alike exactly when the bytes read are the same. -/
theorem sameReading_iff
    (millis : UInt32) (s : UnitState) :
    SameReading (pollingBaseDataParse millis b s) (pollingBaseDataParse millis b' s) ↔
      Set.EqOn b b' decodedPositions := by
  rw [pollingBaseDataParse_eq, pollingBaseDataParse_eq, ← sameMeasures_iff]
  constructor
  · exact fun h => h.measures
  · intro h
    have hnote := noteEvents_congr s.gKTSGlobal h.events
    have hrequests := congrArg
      (fun cnt => s.readEepromRequestIndex ||| changeRequests cnt s.knownCounters) h.cntUpdate
    have halarm := congrArg ClktsGlobal.inAlarm hnote
    have hfilter := congrArg ClktsGlobal.filterInAlarm hnote
    exact ⟨h, halarm, hfilter, hrequests⟩

end Decoding

/-! ## Frames and their checksum -/

section Frames

variable {w : List UInt8} {p : SerialPort}

theorem toNat_sum_toUInt16_le (l : List UInt8) :
    (l.map UInt8.toUInt16).sum.toNat ≤ 255 * l.length := by
  induction l with
  | nil => exact le_refl 0
  | cons b l ih =>
      have hb : b.toNat < 256 := b.toNat_lt
      rw [List.map_cons, List.sum_cons, UInt16.toNat_add, List.length_cons]
      refine (Nat.mod_le _ _).trans ?_
      rw [UInt8.toNat_toUInt16]
      omega

/-- The high checksum byte of a frame is never zero. -/
theorem checksumHigh_ne_zero
    (hwf : WellFormed w) (hlen : w.length < rxBufferSize) :
    ofBytes w (w.length - 1) ≠ 0 := by
  intro hzero
  have hck := congrArg UInt16.toNat hwf.cksum
  have hsum := toNat_sum_toUInt16_le (readBytes (ofBytes w) 0 (w.length - 2))
  have hlow : (ofBytes w (w.length - 2)).toNat < 256 := (ofBytes w (w.length - 2)).toNat_lt
  rw [toNat_checksumBytes, hzero, calcCksum16_eq_sum, UInt16.toNat_not] at hck
  rw [length_readBytes] at hsum
  simp only [rxBufferSize] at hlen
  simp only [UInt8.toNat_zero, UInt16.size] at hck
  omega

/-- The payload as forty bytes shows the frame up to its checksum, and zeros. -/
theorem asReply_fortyBytes
    {buff : Memory} {crc i : Nat}
    (hcrc : (buff ihm1PosCrcLo).toNat = crc)
    (hlow : 4 ≤ i) (hhigh : i < 44) :
    asReply (fortyBytes buff) i = if i < crc then buff i else 0 := by
  have hlen : (fortyBytes buff).length = 40 := by
    simp [fortyBytes]
  have hinside : i ∈ block ihm1StartData (fortyBytes buff).length :=
    ⟨hlow, by simp only [ihm1StartData]; omega⟩
  have hindex : 0 + (i - ihm1StartData) < (fortyBytes buff).length := by
    simp only [ihm1StartData]
    omega
  unfold asReply store
  rw [memcpy_inside _ _ _ _ _ hinside, ofBytes_of_lt hindex]
  simp only [fortyBytes, replyData, List.getElem_take, List.getElem_append, length_readBytes,
    getElem_readBytes, List.getElem_replicate, hcrc, ihm1StartData]
  by_cases hin : i < crc
  · rw [dif_pos (by omega), if_pos hin]
    congr 1
    omega
  · rw [dif_neg (by omega), if_neg hin]

/-- The frame is read like its payload exactly when no checksum byte that is
not zero stands where the parser reads. -/
theorem eqOn_fortyBytes_iff
    (hwf : WellFormed w) (hlen : w.length < rxBufferSize)
    {buff : Memory} (hbuff : ∀ i < rxBufferSize, buff i = ofBytes w i) :
    Set.EqOn buff (asReply (fortyBytes buff)) decodedPositions ↔
      44 ≤ w.length - 2 ∨
        ((w.length - 2 = 13 ∨ w.length - 2 = 35 ∨ w.length - 2 = 43) ∧
          ofBytes w (w.length - 2) = 0) := by
  have hlong := hwf.long
  have hmax : w.length < 128 := hlen
  simp only [ihm1StartData] at hlong
  have hcrc : (buff ihm1PosCrcLo).toNat = w.length - 2 := by
    have := hwf.length
    rw [hbuff _ (by decide)]
    omega
  have hpayload : ∀ i, 4 ≤ i → i < 44 →
      (buff i = asReply (fortyBytes buff) i ↔ i < w.length - 2 ∨ ofBytes w i = 0) := by
    intro i hlow hhigh
    rw [asReply_fortyBytes hcrc hlow hhigh, hbuff i (by simp only [rxBufferSize]; omega)]
    split
    · rename_i hin
      exact ⟨fun _ => Or.inl hin, fun _ => rfl⟩
    · rename_i hout
      exact ⟨Or.inr, fun h => h.resolve_left hout⟩
  have hhighByte := checksumHigh_ne_zero hwf hlen
  constructor
  · intro heq
    by_contra hcond
    have hshort : w.length - 2 < 44 := by omega
    by_cases hnext : w.length - 1 = 44 ∨ w.length - 1 = 14 ∨ w.length - 1 = 36
    · -- The high byte is not read, the low byte is.
      have hlow : ofBytes w (w.length - 2) ≠ 0 := fun hzero => hcond (Or.inr ⟨by omega, hzero⟩)
      have hread : w.length - 2 ∈ decodedPositions :=
        ⟨by simp only [ihm1StartData]; omega, by simp only [irspCrcLo]; omega,
          by simp only [irspInfoProbeAd]; omega, by simp only [irspNone0]; omega⟩
      rcases (hpayload _ (by omega) (by omega)).1 (heq hread) with hlt | hzero
      · omega
      · exact hlow hzero
    · -- The high byte is read.
      have hread : w.length - 1 ∈ decodedPositions :=
        ⟨by simp only [ihm1StartData]; omega, by simp only [irspCrcLo]; omega,
          by simp only [irspInfoProbeAd]; omega, by simp only [irspNone0]; omega⟩
      rcases (hpayload _ (by omega) (by omega)).1 (heq hread) with hlt | hzero
      · omega
      · exact hhighByte hzero
  · intro hcond i hi
    obtain ⟨hlow, hhigh, hprobe, hnone⟩ := hi
    simp only [ihm1StartData, irspCrcLo, irspInfoProbeAd, irspNone0] at hlow hhigh hprobe hnone
    apply (hpayload i hlow hhigh).2
    by_cases hin : i < w.length - 2
    · exact Or.inl hin
    right
    rcases hcond with hfull | ⟨hends, hzero⟩
    · omega
    by_cases hcrcLow : i = w.length - 2
    · rw [hcrcLow]
      exact hzero
    · exact ofBytes_of_le (by omega)

theorem checksumUnread_iff
    (millis : UInt32) (buff : Memory) (crc : Nat) (s : UnitState) :
    ChecksumUnread millis buff crc s ↔
      crc ∉ decodedPositions ∧ crc + 1 ∉ decodedPositions := by
  have hother : ∀ b : UInt8, b + 1 ≠ b := by
    intro b h
    have hone : (1 : UInt8) = 0 := left_eq_add.mp h.symm
    exact absurd hone (by decide)
  unfold ChecksumUnread
  simp only [sameReading_iff]
  constructor
  · intro h
    constructor
    · intro hread
      have hbyte := h (buff crc + 1) (buff (crc + 1)) hread
      rw [Function.update_of_ne (by omega), Function.update_self] at hbyte
      exact hother _ hbyte
    · intro hread
      have hbyte := h (buff crc) (buff (crc + 1) + 1) hread
      rw [Function.update_self] at hbyte
      exact hother _ hbyte
  · rintro ⟨hlow, hhigh⟩ lo hi i hread
    have hne : i ≠ crc := fun h => hlow (h ▸ hread)
    have hne' : i ≠ crc + 1 := fun h => hhigh (h ▸ hread)
    rw [Function.update_of_ne hne', Function.update_of_ne hne]

theorem dataLength_eq
    {buff : Memory} (hpos : 4 ≤ (buff ihm1PosCrcLo).toNat) :
    (dataLength buff).toNat = (replyData buff).length := by
  unfold dataLength replyData
  rw [length_readBytes, UInt32.toNat_sub_of_le]
  · rfl
  · exact UInt32.le_iff_toNat_le.mpr hpos

/-- The bytes published for a polling reply begin with its forty bytes. -/
theorem publishReply_fortyBytes
    (s : UnitState) (hpos : 4 ≤ (s.port.buffSer1 ihm1PosCrcLo).toNat) :
    ∃ (before : List Output) (length : Nat) (data : List UInt8),
      (publishReply .polling 40 s).outputs =
          s.outputs ++ before ++ [.setAttrValue .polling length data] ∧
        data.take 40 = fortyBytes s.port.buffSer1 := by
  have hlength := dataLength_eq hpos
  have hmqtt : ∃ before : List Output,
      (if s.isMqttReady then
          s.emit (.mqttPublish .polling s.address (replyData s.port.buffSer1))
        else s).outputs = s.outputs ++ before := by
    split
    · exact ⟨_, rfl⟩
    · exact ⟨[], (List.append_nil _).symm⟩
  obtain ⟨before, hbefore⟩ := hmqtt
  unfold publishReply
  dsimp only
  rw [hlength]
  split
  · rename_i hshort
    refine ⟨before, 40, _, congrArg (· ++ [_]) hbefore, ?_⟩
    unfold fortyBytes
    rw [List.take_append, List.take_append, List.take_replicate, List.take_replicate]
    congr 2
    omega
  · rename_i hfull
    refine ⟨before, _, _, congrArg (· ++ [_]) hbefore, ?_⟩
    unfold fortyBytes
    rw [List.take_append_of_le_length (by omega)]

/-- A polling reply is read as its payload, filled up with zeros to forty bytes,
exactly when the payload has forty bytes or the checksum happens to look like
the zeros; and the parser reads no checksum byte exactly in the first case.
What is published of it begins with the forty bytes that are read. -/
theorem pollingReply_read_iff
    (hwf : WellFormed w) (hlen : w.length < rxBufferSize) (hclaim : Claimed w p)
    (millis : UInt32) (s : UnitState) :
    (ReadAsPayload millis (readMessage p).2.buffSer1 s ↔
      44 ≤ w.length - 2 ∨
        ((w.length - 2 = 13 ∨ w.length - 2 = 35 ∨ w.length - 2 = 43) ∧
          ofBytes w (w.length - 2) = 0)) ∧
      (ReadAsPayload millis (readMessage p).2.buffSer1 s ∧
          ChecksumUnread millis (readMessage p).2.buffSer1 (w.length - 2) s ↔
        44 ≤ w.length - 2) ∧
      ∀ t : UnitState, t.port = (readMessage p).2 → 6 ≤ w.length →
        ∃ (before : List Output) (length : Nat) (data : List UInt8),
          (publishReply .polling 40 t).outputs =
              t.outputs ++ before ++ [.setAttrValue .polling length data] ∧
            data.take 40 = fortyBytes (readMessage p).2.buffSer1 := by
  have hlong := hwf.long
  simp only [ihm1StartData] at hlong
  have hbuff : ∀ i < rxBufferSize, (readMessage p).2.buffSer1 i = ofBytes w i := by
    intro i hi
    rw [readMessage_claimed hclaim (by omega) hlen]
    exact downloaded_apply w p.buffSer1 hi
  have hread := eqOn_fortyBytes_iff hwf hlen hbuff
  unfold ReadAsPayload
  rw [sameReading_iff, checksumUnread_iff]
  refine ⟨hread, ?_, fun t hport hlength => ?_⟩
  · rw [hread]
    constructor
    · rintro ⟨hfull | ⟨hends, -⟩, hlow, -⟩
      · exact hfull
      · refine absurd ⟨?_, ?_, ?_, ?_⟩ hlow
        · simp only [ihm1StartData]
          omega
        · simp only [irspCrcLo]
          omega
        · simp only [irspInfoProbeAd]
          omega
        · simp only [irspNone0]
          omega
    · intro hfull
      refine ⟨Or.inl hfull, ?_, ?_⟩
      · intro hin
        have := hin.2.1
        simp only [irspCrcLo] at this
        omega
      · intro hin
        have := hin.2.1
        simp only [irspCrcLo] at this
        omega
  · rw [← hport]
    apply publishReply_fortyBytes
    have hcount := hwf.length
    rw [hport, hbuff _ (by decide)]
    omega

/-- A reply with a payload of forty bytes. -/
def fullPollingReply : List UInt8 :=
  frameOf ([protoStartMsg0, protoStartMsg1, 44, commandPollingBase] ++ List.replicate 40 1)

/-- The receiver that has noticed it. -/
def fullPollingReplyNoticed : SerialPort :=
  (uartEventTask fullPollingReply SerialPort.boot).noticed fullPollingReply.length

theorem length_fullPollingReply :
    fullPollingReply.length = 46 := by
  simp [fullPollingReply]

theorem wellFormed_fullPollingReply :
    WellFormed fullPollingReply :=
  wellFormed_frameOf rfl rfl (by simp [ofBytes]) (by simp)

theorem claimed_fullPollingReply :
    Claimed fullPollingReply fullPollingReplyNoticed :=
  (idle_boot.uartEventTask (w := fullPollingReply)
    (by rw [length_fullPollingReply]; decide)).noticed.isClaimed

theorem fullPollingReply_read :
    ReadAsPayload 0 (readMessage fullPollingReplyNoticed).2.buffSer1
        (UnitState.boot .zeroMac none false 0) ∧
      ChecksumUnread 0 (readMessage fullPollingReplyNoticed).2.buffSer1
        (fullPollingReply.length - 2) (UnitState.boot .zeroMac none false 0) :=
  (pollingReply_read_iff wellFormed_fullPollingReply
    (by rw [length_fullPollingReply]; decide) claimed_fullPollingReply 0 _).2.1.2
    (by rw [length_fullPollingReply])

/-- The checksum of a reply without a payload is taken for a temperature. -/
theorem emptyPollingReply_not_readAsPayload :
    WellFormed (frameOf [protoStartMsg0, protoStartMsg1, 4, commandPollingBase]) ∧
      ¬ ReadAsPayload 0
        (downloaded (frameOf [protoStartMsg0, protoStartMsg1, 4, commandPollingBase]) fun _ => 0)
        (UnitState.boot .zeroMac none false 0) := by
  refine ⟨by decide, ?_⟩
  intro h
  have htemp := congrFun h.measures.measureTemp 0
  exact absurd htemp (by decide)

end Frames

end UnitComm
end AvensysEsp32
