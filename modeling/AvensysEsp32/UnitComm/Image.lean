import AvensysEsp32.UnitComm.Sending

/-!
# The mirror and the request bits

What each stage of the task does to `gRDEeprom` and to
`Read_Eeprom_Request_Index`.  The mirror changes when a reply is stored in it,
when a reply to a write brings new counters, and when a client writes; write
bits are set by clients alone.
-/

namespace AvensysEsp32
namespace UnitComm

open Foundation Serial

/-! ## Pending writes -/

/-- The bit that asks for a section to be written; the configuration has none. -/
def writeBit : EepromSection → Option Nat
  | .info => some 11
  | .settingPar => some 12
  | .setTemp => some 13
  | .dayProg => some 14
  | .hwSetting => some 15
  | .configuration => none

/-- The sections that are written. -/
def writtenSections : List EepromSection :=
  [.info, .settingPar, .setTemp, .dayProg, .hwSetting]

/-- A section is still to be written. -/
def writePending (index : BitVec 16) (sec : EepromSection) : Bool :=
  (writeBit sec).any fun k => index.getLsbD k

theorem writeBit_bounds
    {sec : EepromSection} {k : Nat}
    (h : writeBit sec = some k) :
    4 ≤ k ∧ sec ∈ writtenSections := by
  cases sec <;> simp only [writeBit, Option.some.injEq, reduceCtorEq] at h <;>
    subst h <;> exact ⟨by decide, by decide⟩

/-- Bits from the fifth on decide which sections are still to be written. -/
theorem writePending_mono
    {index index' : BitVec 16}
    (h : ∀ k, 4 ≤ k → index'.getLsbD k = true → index.getLsbD k = true)
    {sec : EepromSection}
    (hpending : writePending index' sec = true) :
    writePending index sec = true := by
  unfold writePending at *
  cases hbit : writeBit sec with
  | none =>
      rw [hbit] at hpending
      exact hpending
  | some k =>
      rw [hbit] at hpending
      exact h k (writeBit_bounds hbit).1 hpending

/-- The configuration is never written. -/
theorem ne_configuration_of_pending
    {index : BitVec 16} {sec : EepromSection} (h : writePending index sec = true) :
    sec ≠ .configuration := by
  rintro rfl
  cases h

/-- The scheduler writes a section only when its bit is set. -/
theorem writePending_of_nextService
    {index bit mask : BitVec 16} {sec : EepromSection}
    (h : nextService index = some (bit, mask, .write sec)) :
    writePending index sec = true := by
  have hset : index &&& bit = bit := by
    simpa using List.find?_some h
  have hmem : (bit, mask, Service.write sec) ∈ schedule := List.mem_of_find?_eq_some h
  have hbit : ∃ k, writeBit sec = some k ∧ bit.getLsbD k = true := by
    revert hmem
    unfold schedule
    simp only [List.mem_cons, Prod.mk.injEq, reduceCtorEq, and_false, false_or,
      Service.write.injEq, List.not_mem_nil, or_false]
    rintro (⟨rfl, -, rfl⟩ | ⟨rfl, -, rfl⟩ | ⟨rfl, -, rfl⟩ | ⟨rfl, -, rfl⟩ | ⟨rfl, -, rfl⟩)
    · exact ⟨11, rfl, by decide⟩
    · exact ⟨12, rfl, by decide⟩
    · exact ⟨13, rfl, by decide⟩
    · exact ⟨14, rfl, by decide⟩
    · exact ⟨15, rfl, by decide⟩
  obtain ⟨k, hk, hbitk⟩ := hbit
  have hindex : index.getLsbD k = true := by
    rw [← hset, BitVec.getLsbD_and, Bool.and_eq_true] at hbitk
    exact hbitk.1
  unfold writePending
  rw [hk]
  exact hindex

/-- The reads asked for by a change of counters are no writes. -/
theorem getLsbD_or_changeRequests
    (index : BitVec 16) (cnt known : CountedSection → UInt8) {k : Nat}
    (hk : 4 ≤ k)
    (h : (index ||| changeRequests cnt known).getLsbD k = true) :
    index.getLsbD k = true := by
  rw [BitVec.getLsbD_or, getLsbD_changeRequests_of_four_le cnt known hk, Bool.or_false] at h
  exact h

/-! ## Client images -/

/-- An accepted image is in the mirror with all its sections. -/
theorem copyEepromPayload_eqOn
    {x : List UInt8} (hx : 241 ≤ x.length) (m : Memory) (sec : EepromSection) :
    Set.EqOn (copyEepromPayload x m) (ofBytes x) sec.range := by
  intro i hi
  have hend := sec.end_le
  have hlt := hi.2
  unfold copyEepromPayload
  rw [memcpy_inside _ _ _ _ _ ⟨Nat.zero_le i, by rw [sizeofEeprom_eq]; omega⟩]
  simp

/-- The image in the old format of 242 bytes is never taken: the structure has
another size. -/
theorem bleApplyLegacy242Eeprom_eq_none
    (x : List UInt8) (m : Memory) :
    bleApplyLegacy242Eeprom x m = none := by
  unfold bleApplyLegacy242Eeprom
  rw [if_pos (Or.inl (by decide))]

theorem clientWrite_accepted
    (w : ClientWrite) (s : UnitState)
    (hw : 241 ≤ w.payload.length) :
    (clientWrite w s).gRDEeprom = copyEepromPayload w.payload s.gRDEeprom ∧
      (clientWrite w s).readEepromRequestIndex =
        s.readEepromRequestIndex ||| fullEepromWrite := by
  have hlong : ¬ w.payload.length < 241 := by omega
  unfold clientWrite bleApplyEepromPayload mqttApplyEepromPayload
  rw [bleApplyLegacy242Eeprom_eq_none, if_neg hlong]
  split
  · exact ⟨rfl, rfl⟩
  · exact ⟨rfl, rfl⟩

theorem clientWrite_rejected
    (w : ClientWrite) (s : UnitState)
    (hw : w.payload.length < 241) :
    clientWrite w s = s := by
  unfold clientWrite bleApplyEepromPayload mqttApplyEepromPayload
  rw [if_pos hw, if_pos hw]
  split
  · rfl
  · rfl

/-! ## What a step stores -/

/-- A block of a message, about to be stored from the address `start`. -/
structure StoredBlock where
  start : Nat
  count : Nat
  buffer : Memory

/-- The block of the pending message that the next iteration stores: the data
of a reply to a read request once connected, of any message in a state of the
handshake that reads a section. -/
def storedBlock (inp : IterationInput) (s : UnitState) : Option StoredBlock :=
  let message := readMessage s.port
  let buffer := message.2.buffSer1
  if message.1 > runDownload then
    match s.wbmComState with
    | .wbmConnected =>
        if replyOf (buffer ihm1TypeComand) = some .readEeprom then
          some
            { start := (buffer irsrAddrByteStartEep).toNat
              count := (buffer irsrAddrNumByteEep).toNat
              buffer := buffer }
        else none
    | .wbmCommunicating =>
        if expired inp 0 s.globalTimeoutMilliseconds timeoutMilliseconds then none
        else
          (sectionField s.currentState).map fun field =>
            { start := field.offsetof
              count := (buffer irsrAddrNumByteEep).toNat
              buffer := buffer }
    | _ => none
  else none

section Stages

variable (inp : IterationInput) (s : UnitState)

theorem beforeReceive_index :
    (beforeReceive inp s).readEepromRequestIndex = s.readEepromRequestIndex ∨
      (beforeReceive inp s).readEepromRequestIndex = 0 := by
  rcases beforeReceive_cases inp s with hafter | ⟨-, hzero⟩
  · rw [hafter]
    exact Or.inl (afterRequests_link inp s).2.1
  · exact Or.inr hzero

theorem beforeReceive_index_le
    {k : Nat}
    (h : (beforeReceive inp s).readEepromRequestIndex.getLsbD k = true) :
    s.readEepromRequestIndex.getLsbD k = true := by
  rcases beforeReceive_index inp s with hsame | hzero
  · rwa [hsame] at h
  · rw [hzero] at h
    simp at h

theorem sendService_image
    (service : Service) :
    (sendService inp service s).gRDEeprom = s.gRDEeprom ∧
      (sendService inp service s).readEepromRequestIndex = s.readEepromRequestIndex := by
  cases service with
  | read sec => exact ⟨rfl, rfl⟩
  | write sec =>
      simp only [sendService, sendWriteEeprom]
      split
      · exact ⟨rfl, rfl⟩
      · exact ⟨rfl, rfl⟩
  | nothing => exact ⟨rfl, rfl⟩

theorem connected_image :
    (connected inp s).gRDEeprom = s.gRDEeprom ∧
      (connected inp s).readEepromRequestIndex = s.readEepromRequestIndex |||
        changeRequests (pollingBaseData s.port.buffSer1).cntUpdate s.knownCounters := by
  obtain ⟨outputs, -, heq⟩ := connected_eq inp s
  rw [heq]
  exact ⟨rfl, rfl⟩

/-- The transfer of firmware leaves the mirror and the request bits alone. -/
theorem bootloader_image :
    ((bootloaderState inp s).gRDEeprom = s.gRDEeprom ∧
        (bootloaderState inp s).readEepromRequestIndex = s.readEepromRequestIndex) ∧
      ((bootloaderState1 s).gRDEeprom = s.gRDEeprom ∧
        (bootloaderState1 s).readEepromRequestIndex = s.readEepromRequestIndex) := by
  constructor
  · have hcase := bootloaderState_case inp s
    generalize bootloaderState inp s = s' at hcase ⊢
    cases hcase with
    | held _ => exact ⟨rfl, rfl⟩
    | header _ _ _ _ => exact ⟨rfl, rfl⟩
  · have hcase := bootloaderState1_case s
    generalize bootloaderState1 s = s' at hcase ⊢
    cases hcase with
    | waiting _ => exact ⟨rfl, rfl⟩
    | acknowledged _ _ _ _ _ _ => exact ⟨rfl, rfl⟩

theorem link_image :
    ((linkConnecting inp s).gRDEeprom = s.gRDEeprom ∧
        (linkConnecting inp s).readEepromRequestIndex = s.readEepromRequestIndex) ∧
      ((trySerialLink inp s).gRDEeprom = s.gRDEeprom ∧
        (trySerialLink inp s).readEepromRequestIndex = s.readEepromRequestIndex) := by
  constructor
  · have hcase := linkConnecting_case inp s
    generalize linkConnecting inp s = s' at hcase ⊢
    cases hcase with
    | sent _ => exact ⟨rfl, rfl⟩
    | silent _ => exact ⟨rfl, rfl⟩
  · have hcase := trySerialLink_case inp s
    generalize trySerialLink inp s = s' at hcase ⊢
    cases hcase with
    | anew _ _ => exact ⟨rfl, rfl⟩
    | again _ _ => exact ⟨rfl, rfl⟩
    | read _ _ _ => exact ⟨rfl, rfl⟩

end Stages

end UnitComm
end AvensysEsp32
