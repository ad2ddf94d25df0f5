import AvensysEsp32.Foundation.Footprint
import AvensysEsp32.Serial.Corruption
import AvensysEsp32.UnitComm.Task

/-!
# What the copies of a reply touch

The replies of the unit are copied out of `buff_ser1` at three kinds of places:
the sections of the handshake, the parser of the replies to a read, and the
payloads of the polling and debug replies.  How much is copied, and for a read
also where to, is said by two bytes of the reply, which no place compares with
the length of the frame or with the size of the image.

The header of a frame has been read by then: its command decides which copy is
made, and its third byte where the payload ends.
-/

namespace AvensysEsp32
namespace UnitComm

open Foundation Serial

/-! ## The copies -/

/-- The copies that are made of a reply. -/
inductive ReplyCopy
  /-- In a state `CLKTSConnectState_ReadEeprom_*`, to a field and those after it. -/
  | section (field : EepromField)
  /-- In `WBM_Read_Eeprom_Data_Parse`. -/
  | readEeprom
  /-- Of the payload of a polling or debug reply, to memory of its own. -/
  | payload
deriving DecidableEq, Repr

namespace ReplyCopy

/-- Where in the mirror the copy begins. -/
def start (buff : Memory) : ReplyCopy → Nat
  | .section field => field.offsetof
  | .readEeprom | .payload => (buff irsrAddrByteStartEep).toNat

/-- The number of bytes the reply says it carries. -/
def count (buff : Memory) : Nat :=
  (buff irsrAddrNumByteEep).toNat

/-- The bytes of the reply that say where and how much is copied. -/
def params : ReplyCopy → Set Nat
  | .section _ => {irsrAddrNumByteEep}
  | .readEeprom => {irsrAddrByteStartEep, irsrAddrNumByteEep}
  | .payload => ∅

/-- The bytes of the reply that a copy reads and the bytes of the mirror it
writes, for a reply whose checksum stands at `crc`. -/
def footprint (copy : ReplyCopy) (crc : Nat) (buff : Memory) : Footprint :=
  match copy with
  | .payload => ⟨block ihm1StartData (crc - 4), ∅⟩
  | copy =>
      ⟨copy.params ∪ block irsrStartDataEeprom (count buff), block (copy.start buff) (count buff)⟩

/-- The mirror after the copy. -/
def mirror (copy : ReplyCopy) (buff gRDEeprom : Memory) : Memory :=
  match copy with
  | .payload => gRDEeprom
  | copy => memcpy gRDEeprom (copy.start buff) buff irsrStartDataEeprom (count buff)

end ReplyCopy

/-- The copy that is made of a reply with the given command. -/
def replyCopy (s : UnitState) (command : UInt8) : Option ReplyCopy :=
  match s.wbmComState with
  | .wbmCommunicating => (sectionField s.currentState).map .section
  | .wbmConnected =>
      match replyOf command with
      | some .pollingBase | some .dataDebug => some .payload
      | some .readEeprom => some .readEeprom
      | _ => none
  | _ => none

section Copies

/-- The mirror after a copy comes from the bytes in its footprint. -/
theorem hasFootprint_mirror
    (copy : ReplyCopy) (crc : Nat) :
    HasFootprint copy.mirror (copy.footprint crc) := by
  cases copy with
  | «section» field =>
      apply hasFootprint_memcpy {irsrAddrNumByteEep} (fun _ => field.offsetof)
        (fun _ => irsrStartDataEeprom) ReplyCopy.count
      intro src src' heq
      refine ⟨rfl, rfl, ?_⟩
      unfold ReplyCopy.count
      rw [heq rfl]
  | readEeprom =>
      apply hasFootprint_memcpy {irsrAddrByteStartEep, irsrAddrNumByteEep}
        (fun src => (src irsrAddrByteStartEep).toNat) (fun _ => irsrStartDataEeprom)
        ReplyCopy.count
      intro src src' heq
      unfold ReplyCopy.count
      rw [heq (Or.inl rfl), heq (Or.inr rfl)]
      exact ⟨rfl, rfl, rfl⟩
  | payload =>
      exact ⟨fun _ => ⟨rfl, fun _ _ hi => hi.elim⟩, fun _ _ _ _ => rfl,
        fun _ _ _ _ hi => hi.elim⟩

/-- The payload given to the clients comes from its footprint too. -/
theorem replyData_congr
    {buff buff' : Memory}
    (hpos : buff' ihm1PosCrcLo = buff ihm1PosCrcLo)
    (heq : Set.EqOn buff buff'
      (ReplyCopy.payload.footprint (buff ihm1PosCrcLo).toNat buff).reads) :
    replyData buff = replyData buff' := by
  unfold replyData
  rw [hpos]
  apply readBytes_congr
  intro i hi
  exact heq ⟨Nat.le_add_right _ _, Nat.add_lt_add_left hi _⟩

end Copies

/-! ## The copies in the task -/

section Handling

variable (inp : IterationInput) {s : UnitState} {w : List UInt8}

/-- A section of the handshake is copied as the reply says. -/
theorem unitEventTask_sectionCopy
    {field : EepromField}
    (hwbm : s.wbmComState = .wbmCommunicating)
    (hfield : sectionField s.currentState = some field)
    (htime : expired inp 0 s.globalTimeoutMilliseconds timeoutMilliseconds = false)
    (hgt : runDownload < (readMessage s.port).1) :
    (unitEventTask inp s).gRDEeprom =
      (ReplyCopy.section field).mirror (readMessage s.port).2.buffSer1 s.gRDEeprom := by
  have hreply : ∀ (request : UnitState → UnitState) (next : ConnectState),
      (∀ s, (request s).gRDEeprom = s.gRDEeprom) →
      (readEeprom inp field request next s).gRDEeprom =
        (ReplyCopy.section field).mirror (readMessage s.port).2.buffSer1 s.gRDEeprom := by
    intro request next hrequest
    unfold readEeprom awaitReply
    rw [if_neg (by rw [htime]; decide)]
    dsimp only
    rw [if_pos hgt]
    exact hrequest _
  simp only [unitEventTask, hwbm, connectToUnit]
  cases hstate : s.currentState with
  | readEepromInfo =>
      rw [hstate] at hfield
      cases hfield
      exact hreply _ _ fun _ => rfl
  | readEepromConfiguration =>
      rw [hstate] at hfield
      cases hfield
      exact hreply _ _ fun _ => rfl
  | readEepromSettingPar =>
      rw [hstate] at hfield
      cases hfield
      exact hreply _ _ fun _ => rfl
  | readEepromSetTemp =>
      rw [hstate] at hfield
      cases hfield
      exact hreply _ _ fun _ => rfl
  | readEepromDayProg =>
      rw [hstate] at hfield
      cases hfield
      exact hreply _ _ fun _ => rfl
  | readEepromHwSetting =>
      rw [hstate] at hfield
      cases hfield
      exact hreply _ _ fun _ => rfl
  | _ =>
      rw [hstate] at hfield
      cases hfield

/-- Once connected, the reception changes the mirror by the copy of the reply,
unless the reply is one to a write. -/
theorem receive_replyCopy
    {copy : ReplyCopy}
    (hwbm : s.wbmComState = .wbmConnected)
    (hgt : runDownload < (readMessage s.port).1)
    (hcopy : replyCopy s ((readMessage s.port).2.buffSer1 ihm1TypeComand) = some copy) :
    (receive inp s).gRDEeprom = copy.mirror (readMessage s.port).2.buffSer1 s.gRDEeprom := by
  simp only [replyCopy, hwbm] at hcopy
  cases hreply : replyOf ((readMessage s.port).2.buffSer1 ihm1TypeComand) with
  | none =>
      rw [hreply] at hcopy
      cases hcopy
  | some reply =>
      rw [receive_reply inp hgt hreply]
      obtain ⟨published, -, heq⟩ := handleReply_eq inp
        { s with
          valRet := (readMessage s.port).1
          port := (readMessage s.port).2
          globalTimeoutMilliseconds := inp.millis 13 } reply
      rw [heq]
      rw [hreply] at hcopy
      cases reply with
      | pollingBase =>
          cases hcopy
          unfold parseReply
          dsimp only
          rw [pollingBaseDataParse_eq]
          rfl
      | dataDebug =>
          cases hcopy
          rfl
      | readEeprom =>
          cases hcopy
          rfl
      | writeEeprom => cases hcopy

end Handling

/-! ## Bounds -/

section Bounds

variable {s : UnitState} {w : List UInt8} {copy : ReplyCopy}

/-- The copy of the reply `w` in `buff_ser1` reads only its payload and writes
only the mirror, and its payload has a length. -/
structure InBounds (copy : ReplyCopy) (w : List UInt8) (buff : Memory) : Prop where
  within : (copy.footprint (w.length - 2) buff).Within
    (Set.Ico ihm1StartData (w.length - 2)) (Set.Ico 0 sizeofEeprom)
  payload : copy = .payload → 4 ≤ (buff ihm1PosCrcLo).toNat

/-- The copy is the one the code makes: the iteration that handles the message
changes the mirror by it, and what is made of the message comes from its
footprint. -/
structure Performed (copy : ReplyCopy) (crc : Nat) (s : UnitState) : Prop where
  footprint : HasFootprint copy.mirror (copy.footprint crc)
  connected : ∀ inp, s.wbmComState = .wbmConnected →
    (receive inp s).gRDEeprom = copy.mirror (readMessage s.port).2.buffSer1 s.gRDEeprom
  connecting : ∀ inp, s.wbmComState = .wbmCommunicating →
    expired inp 0 s.globalTimeoutMilliseconds timeoutMilliseconds = false →
      (unitEventTask inp s).gRDEeprom =
        copy.mirror (readMessage s.port).2.buffSer1 s.gRDEeprom
  payload : copy = .payload → ∀ buff buff' : Memory,
    buff' ihm1PosCrcLo = buff ihm1PosCrcLo →
      Set.EqOn buff buff' (copy.footprint (buff ihm1PosCrcLo).toNat buff).reads →
        replyData buff = replyData buff'

/-- What the reply must say for its copy to be in bounds: no more than the frame
carries, and nothing behind the image. -/
def FitsReply (copy : ReplyCopy) (w : List UInt8) : Prop :=
  copy = .payload ∨
    (6 + ReplyCopy.count (ofBytes w) ≤ w.length - 2 ∧
      (ReplyCopy.count (ofBytes w) = 0 ∨
        copy.start (ofBytes w) + ReplyCopy.count (ofBytes w) ≤ sizeofEeprom))

/-- A frame without room for a payload names no reply: its command byte is the
low byte of its checksum. -/
theorem replyOf_shortest
    (hwf : WellFormed w)
    (hlen : w.length = 5) :
    replyOf (ofBytes w ihm1TypeComand) = none := by
  have hpos : (ofBytes w ihm1PosCrcLo).toNat = 3 := by
    have := hwf.length
    omega
  have hbyte : ofBytes w ihm1PosCrcLo = 3 := UInt8.toNat_inj.1 hpos
  have hsum : calcCksum16 (ofBytes w) 3 = calcCksum16 (ofBytes [115, 109, 3]) 3 := by
    apply calcCksum16_congr
    intro i hi
    interval_cases i
    · exact hwf.head0
    · exact hwf.head1
    · exact hbyte
  have hck := hwf.cksum
  rw [hlen] at hck
  have hsplit : calcCksum16 (ofBytes w) 3 =
      (255 : UInt8).toUInt16 <<< 8 ||| (28 : UInt8).toUInt16 := by
    rw [hsum]
    decide
  obtain ⟨-, hlow⟩ := checksumBytes_inj (hck.trans hsplit)
  have hcommand : ofBytes w ihm1TypeComand = 28 := hlow
  rw [hcommand]
  decide

/-- A payload is copied only from a frame with room for one. -/
theorem six_le_length_of_payload
    (hwf : WellFormed w)
    (hcopy : replyCopy s (ofBytes w ihm1TypeComand) = some .payload) :
    6 ≤ w.length := by
  have hlong := hwf.long
  simp only [ihm1StartData] at hlong
  by_contra hshort
  have hnone := replyOf_shortest hwf (by omega)
  unfold replyCopy at hcopy
  rw [hnone] at hcopy
  cases hwbm : s.wbmComState <;> rw [hwbm] at hcopy
  · cases hcopy
  · cases hfield : sectionField s.currentState <;> rw [hfield] at hcopy <;> cases hcopy
  · cases hcopy
  · cases hcopy

theorem within_iff_of_params
    {params : Set Nat} {start count crc : Nat}
    (hcount : 5 ∈ params) (hparams : params ⊆ Set.Ico 4 6) :
    Footprint.Within ⟨params ∪ block 6 count, block start count⟩
        (Set.Ico 4 crc) (Set.Ico 0 sizeofEeprom) ↔
      6 + count ≤ crc ∧ (count = 0 ∨ start + count ≤ sizeofEeprom) := by
  constructor
  · rintro ⟨hreads, hstores⟩
    have hfive : 5 < crc := (hreads (Or.inl hcount)).2
    have hend : 6 + count ≤ crc := by
      by_cases hzero : count = 0
      · omega
      · have hlast : 6 + (count - 1) < crc := (hreads (Or.inr ⟨by omega, by omega⟩)).2
        omega
    refine ⟨hend, ?_⟩
    by_cases hzero : count = 0
    · exact Or.inl hzero
    · have hlast : start + (count - 1) < sizeofEeprom := (hstores ⟨by omega, by omega⟩).2
      exact Or.inr (by omega)
  · rintro ⟨hend, hstores⟩
    constructor
    · rintro i (hi | hi)
      · have hlo := (hparams hi).1
        have hhi := (hparams hi).2
        exact ⟨hlo, by omega⟩
      · have hlo := hi.1
        have hhi := hi.2
        exact ⟨by omega, by omega⟩
    · rintro i hi
      have hlo := hi.1
      have hhi := hi.2
      exact ⟨Nat.zero_le i, by omega⟩

theorem within_footprint_iff
    (hpayload : copy ≠ .payload)
    (crc : Nat) (buff : Memory) :
    (copy.footprint crc buff).Within (Set.Ico 4 crc) (Set.Ico 0 sizeofEeprom) ↔
      6 + ReplyCopy.count buff ≤ crc ∧
        (ReplyCopy.count buff = 0 ∨
          copy.start buff + ReplyCopy.count buff ≤ sizeofEeprom) := by
  cases copy with
  | «section» field =>
      refine within_iff_of_params rfl ?_
      rintro i rfl
      exact ⟨by decide, by decide⟩
  | readEeprom =>
      refine within_iff_of_params (Or.inr rfl) ?_
      rintro i (rfl | rfl)
      · exact ⟨by decide, by decide⟩
      · exact ⟨by decide, by decide⟩
  | payload => exact absurd rfl hpayload

/-- A message that has been noticed is copied as its command says. -/
theorem performed_of_claimed
    (hwf : WellFormed w)
    (hlen : w.length < rxBufferSize)
    (hclaim : Claimed w s.port)
    (hcopy : replyCopy s (ofBytes w ihm1TypeComand) = some copy) (crc : Nat) :
    Performed copy crc s := by
  have hpos : 0 < w.length := Nat.lt_of_le_of_lt (Nat.zero_le _) hwf.long
  have hgt : runDownload < (readMessage s.port).1 := by
    rw [readMessage_claimed hclaim hpos hlen, verdict_of_wellFormed hwf]
    exact hwf.runDownload_lt
  have hcommand : (readMessage s.port).2.buffSer1 ihm1TypeComand = ofBytes w ihm1TypeComand := by
    rw [readMessage_claimed hclaim hpos hlen]
    exact downloaded_apply w s.port.buffSer1 (by decide)
  refine ⟨hasFootprint_mirror copy crc, fun inp hwbm => ?_, fun inp hwbm htime => ?_, ?_⟩
  · exact receive_replyCopy inp hwbm hgt (hcommand ▸ hcopy)
  · simp only [replyCopy, hwbm] at hcopy
    obtain ⟨field, hfield, rfl⟩ := Option.map_eq_some_iff.mp hcopy
    exact unitEventTask_sectionCopy inp hwbm hfield htime hgt
  · rintro rfl buff buff' hpos heq
    exact replyData_congr hpos heq

/-- The copy of a complete frame is the one the code makes, and is in bounds
exactly when the frame carries as many bytes as it says and these fit the
image. -/
theorem inBounds_iff
    (hwf : WellFormed w)
    (hlen : w.length < rxBufferSize)
    (hclaim : Claimed w s.port)
    (hcopy : replyCopy s (ofBytes w ihm1TypeComand) = some copy) :
    Performed copy (w.length - 2) s ∧
      (InBounds copy w (readMessage s.port).2.buffSer1 ↔ FitsReply copy w) := by
  refine ⟨performed_of_claimed hwf hlen hclaim hcopy _, ?_⟩
  have hlong := hwf.long
  simp only [ihm1StartData] at hlong
  have hbuff : ∀ i < 6, (readMessage s.port).2.buffSer1 i = ofBytes w i := by
    intro i hi
    rw [readMessage_claimed hclaim (by omega) hlen]
    exact downloaded_apply w s.port.buffSer1 (by simp only [rxBufferSize]; omega)
  generalize (readMessage s.port).2.buffSer1 = buff at hbuff
  by_cases hpayload : copy = .payload
  · subst hpayload
    have hsix := six_le_length_of_payload hwf hcopy
    have hpos : (buff ihm1PosCrcLo).toNat + 2 = w.length := by
      rw [hbuff _ (by decide), hwf.length]
    constructor
    · intro _
      exact Or.inl rfl
    · intro _
      refine ⟨⟨?_, fun i hi => hi.elim⟩, fun _ => by omega⟩
      intro i hi
      have hlo := hi.1
      have hhi := hi.2
      simp only [ihm1StartData] at hlo hhi ⊢
      exact ⟨hlo, by omega⟩
  · have hcount : ReplyCopy.count buff = ReplyCopy.count (ofBytes w) := by
      unfold ReplyCopy.count
      rw [hbuff _ (by decide)]
    have hstart : copy.start buff = copy.start (ofBytes w) := by
      cases copy with
      | «section» field => rfl
      | _ => exact congrArg UInt8.toNat (hbuff _ (by decide))
    have hwithin := within_footprint_iff hpayload (w.length - 2) buff
    rw [hcount, hstart] at hwithin
    constructor
    · intro h
      exact Or.inr (hwithin.1 h.within)
    · rintro (h | h)
      · exact absurd h hpayload
      · exact ⟨hwithin.2 h, fun h => absurd h hpayload⟩

/-- A fresh board that waits for the first section, `w` noticed. -/
def sectionNoticed (w : List UInt8) : UnitState :=
  run step (untilReadEepromInfo ++ [.uartData w, iterateAt 0]) freshBoard

/-- A reply that carries one byte. -/
theorem inBounds_oneByte :
    InBounds (.section .addrUnit) (readEepromReply (fun _ => 7) 0 1)
      (readMessage (sectionNoticed (readEepromReply (fun _ => 7) 0 1)).port).2.buffSer1 :=
  (inBounds_iff (by decide) (by decide)
    ⟨by decide +kernel, by decide +kernel, by decide +kernel, by decide +kernel,
      by decide +kernel⟩
    (by decide +kernel)).2.2 (Or.inr (by decide))

/-- A complete frame of eight bytes that claims to carry 250 of them. -/
def overstatedReply : List UInt8 :=
  frameOf [protoStartMsg0, protoStartMsg1, 6, commandReadEeprom, 0, 250]

/-- Its copy reads behind the frame and writes behind the mirror. -/
theorem overstatedReply_not_inBounds :
    WellFormed overstatedReply ∧ overstatedReply.length = 8 ∧
      Holding overstatedReply (sectionNoticed overstatedReply).port ∧
      replyCopy (sectionNoticed overstatedReply) commandReadEeprom =
        some (.section .addrUnit) ∧
      ¬ InBounds (.section .addrUnit) overstatedReply
        (readMessage (sectionNoticed overstatedReply).port).2.buffSer1 := by
  have hholding : Holding overstatedReply (sectionNoticed overstatedReply).port :=
    ⟨by decide +kernel, by decide +kernel, by decide +kernel, by decide +kernel,
      by decide +kernel, by decide +kernel⟩
  refine ⟨by decide, by decide, hholding, by decide +kernel, ?_⟩
  rw [readMessage_holding hholding (by decide) (by decide)]
  intro h
  have hread := h.within.1 (Or.inr (⟨by decide, by decide⟩ : 200 ∈ block 6 250))
  exact absurd hread.2 (by decide)

end Bounds

end UnitComm
end AvensysEsp32
