import AvensysEsp32.Serial.RoundTrip

/-!
# The unit board's side of the protocol

The unit board keeps the EEPROM image whose sections end with their update
counters, and answers each request with one frame.  The requests are stated
here as they reach it, and its replies with what the gateway finds in them.
-/

namespace AvensysEsp32
namespace Serial

open Foundation

/-! ## Requests -/

def pollingBaseRequest (device : DeviceIdentity) : List UInt8 :=
  frameOf ([protoStartMsg0, protoStartMsg1, UInt8.ofNat (device.serialNumberSize + 5),
    commandPollingBase, device.error] ++ device.serialNumber)

def readEepromRequest (sec : EepromSection) : List UInt8 :=
  frameOf [protoStartMsg0, protoStartMsg1, 6, commandReadEeprom,
    UInt8.ofNat sec.startAddress, UInt8.ofNat sec.count]

/-- The request to write a section of the image `m`. -/
def writeEepromRequest (sec : EepromSection) (m : Memory) : List UInt8 :=
  frameOf ([protoStartMsg0, protoStartMsg1, 6 + UInt8.ofNat sec.count, commandWriteEeprom,
    UInt8.ofNat sec.startAddress, UInt8.ofNat sec.count] ++
    readBytes m sec.startAddress sec.count)

theorem comSendRequestReadEeprom1_eq
    (sec : EepromSection) (stack : Memory) :
    comSendRequestReadEeprom1 sec stack = readEepromRequest sec :=
  comSendRequestReadEeprom_eq stack _ _

theorem EepromSection.toNat_startAddress
    (sec : EepromSection) :
    (UInt8.ofNat sec.startAddress).toNat = sec.startAddress := by
  cases sec <;> decide

theorem EepromSection.toNat_count
    (sec : EepromSection) :
    (UInt8.ofNat sec.count).toNat = sec.count := by
  cases sec <;> decide

/-- No section fills more than a frame. -/
theorem EepromSection.count_le
    (sec : EepromSection) :
    sec.count ≤ 85 := by
  cases sec <;> decide

/-- Every section but the configuration is written, and always fits. -/
theorem comSendRequestWriteEeprom1_eq
    {sec : EepromSection} (hsec : sec ≠ .configuration) (m stack : Memory) :
    comSendRequestWriteEeprom1 sec m stack = some (writeEepromRequest sec m) := by
  have hfits : (UInt8.ofNat sec.startAddress).toNat + (UInt8.ofNat sec.count).toNat ≤
      sizeofEeprom := by
    rw [sec.toNat_startAddress, sec.toNat_count, sizeofEeprom_eq]
    exact sec.end_le.trans (by decide)
  have hcount : (UInt8.ofNat sec.count).toNat ≤ 119 := by
    rw [sec.toNat_count]
    exact sec.count_le.trans (by decide)
  have hsend := comSendRequestWriteEeprom_eq stack m hfits hcount
  rw [sec.toNat_startAddress, sec.toNat_count] at hsend
  unfold writeEepromRequest
  rw [← hsend]
  cases sec <;> first | exact absurd rfl hsec | rfl

/-- What kind of request a frame is. -/
theorem pollingBaseRequest_command (device : DeviceIdentity) :
    ofBytes (pollingBaseRequest device) ihm1TypeComand = commandPollingBase := by
  unfold pollingBaseRequest
  rw [ofBytes_frameOf (by simp)]
  rfl

theorem readEepromRequest_command (sec : EepromSection) :
    ofBytes (readEepromRequest sec) ihm1TypeComand = commandReadEeprom := by
  rfl

section WriteRequest

variable (sec : EepromSection) (m : Memory)

theorem writeEepromRequest_head
    {i : Nat} (hi : i < 6) :
    ofBytes (writeEepromRequest sec m) i =
      ofBytes [protoStartMsg0, protoStartMsg1, 6 + UInt8.ofNat sec.count, commandWriteEeprom,
        UInt8.ofNat sec.startAddress, UInt8.ofNat sec.count] i := by
  unfold writeEepromRequest
  rw [ofBytes_frameOf (by simp; omega)]
  rw [ofBytes_of_lt (by simp; omega), ofBytes_of_lt (by simpa using hi),
    List.getElem_append_left (by simpa using hi)]

theorem writeEepromRequest_data
    {i : Nat} (hi : i < sec.count) :
    ofBytes (writeEepromRequest sec m) (irqwStartDataEeprom + i) = m (sec.startAddress + i) := by
  unfold writeEepromRequest
  rw [ofBytes_frameOf (by simp; omega), ofBytes_of_lt (by simp; omega),
    List.getElem_append_right (by simp)]
  rw [getElem_readBytes]
  simp

end WriteRequest

/-! ## Replies -/

/-- The reply to a read request. -/
def readEepromReply (eeprom : Memory) (startAddress count : UInt8) : List UInt8 :=
  frameOf ([protoStartMsg0, protoStartMsg1, 6 + count, commandReadEeprom, startAddress, count] ++
    readBytes eeprom startAddress.toNat count.toNat)

/-- The update counters, in the order of the replies that carry them. -/
def boardCounters (eeprom : Memory) : List UInt8 :=
  CountedSection.all.map fun sec => eeprom sec.cntUpdateAddress

/-- The reply to a write request. -/
def writeEepromReply (eeprom : Memory) (startAddress count result : UInt8) : List UInt8 :=
  frameOf ([protoStartMsg0, protoStartMsg1, 11, commandWriteEeprom, startAddress, count, result] ++
    boardCounters eeprom)

/-- The data of a polling reply besides the counters: those before and those
after them. -/
structure Measures where
  data : List UInt8
  length_data : data.length = 34
  awp : List UInt8
  length_awp : awp.length = 2

/-- The reply to a polling request. -/
def pollingBaseReply (eeprom : Memory) (measures : Measures) : List UInt8 :=
  frameOf ([protoStartMsg0, protoStartMsg1, 44, commandPollingBase] ++ measures.data ++
    boardCounters eeprom ++ measures.awp)

/-- The data of a debug reply. -/
structure DebugData where
  data : List UInt8
  length_data : data.length = 60

/-- The reply to a debug request. -/
def dataDebugReply (debug : DebugData) : List UInt8 :=
  frameOf ([protoStartMsg0, protoStartMsg1, 64, commandDataDebug] ++ debug.data)

/-- Measures that are all zero. -/
def Measures.zero : Measures where
  data := List.replicate 34 0
  length_data := by decide
  awp := List.replicate 2 0
  length_awp := by decide

/-! ## What the replies contain -/

section Contents

variable (eeprom : Memory)

theorem ofBytes_append_left
    {a b : List UInt8} {i : Nat}
    (hi : i < a.length) :
    ofBytes (a ++ b) i = ofBytes a i := by
  rw [ofBytes_of_lt (by simp; omega), ofBytes_of_lt hi, List.getElem_append_left hi]

theorem ofBytes_append_right
    (a b : List UInt8) (i : Nat) :
    ofBytes (a ++ b) (a.length + i) = ofBytes b i := by
  by_cases hi : i < b.length
  · rw [ofBytes_of_lt (by simp; omega), ofBytes_of_lt hi,
      List.getElem_append_right (by omega)]
    congr 1
    omega
  · rw [ofBytes_of_le (by simp; omega), ofBytes_of_le (by omega)]

@[simp] theorem length_boardCounters :
    (boardCounters eeprom).length = 4 := by
  rfl

theorem toNat_six_add
    {count : UInt8} (hcount : count.toNat ≤ 119) :
    (6 + count).toNat = 6 + count.toNat := by
  rw [UInt8.toNat_add]
  simp
  omega

section Read

variable {startAddress count : UInt8}

@[simp] theorem length_readEepromReply :
    (readEepromReply eeprom startAddress count).length = count.toNat + 8 := by
  simp [readEepromReply]

theorem wellFormed_readEepromReply
    (hcount : count.toNat ≤ 119) :
    WellFormed (readEepromReply eeprom startAddress count) := by
  apply wellFormed_frameOf
  · rfl
  · rfl
  · rw [ofBytes_append_left (by simp)]
    exact (toNat_six_add hcount).trans (by simp; omega)
  · simp

theorem readEepromReply_head
    {i : Nat} (hi : i < 6) :
    ofBytes (readEepromReply eeprom startAddress count) i =
      ofBytes [protoStartMsg0, protoStartMsg1, 6 + count, commandReadEeprom,
        startAddress, count] i := by
  unfold readEepromReply
  rw [ofBytes_frameOf (by simp; omega), ofBytes_append_left (by simpa using hi)]

theorem readEepromReply_data
    {i : Nat} (hi : i < count.toNat) :
    ofBytes (readEepromReply eeprom startAddress count) (irsrStartDataEeprom + i) =
      eeprom (startAddress.toNat + i) := by
  unfold readEepromReply
  rw [ofBytes_frameOf (by simp; omega)]
  rw [show irsrStartDataEeprom + i = List.length [protoStartMsg0, protoStartMsg1, 6 + count,
    commandReadEeprom, startAddress, count] + i from rfl]
  rw [ofBytes_append_right, ofBytes_of_lt (by simpa using hi), getElem_readBytes]

end Read

section Polling

variable (measures : Measures)

@[simp] theorem length_pollingBaseReply :
    (pollingBaseReply eeprom measures).length = 46 := by
  simp [pollingBaseReply, measures.length_data, measures.length_awp]

theorem wellFormed_pollingBaseReply :
    WellFormed (pollingBaseReply eeprom measures) := by
  apply wellFormed_frameOf
  · rfl
  · rfl
  · simp only [List.append_assoc]
    rw [ofBytes_append_left (by simp)]
    simp [measures.length_data, measures.length_awp, ofBytes]
  · simp [measures.length_data, measures.length_awp]

theorem pollingBaseReply_command :
    ofBytes (pollingBaseReply eeprom measures) ihm1TypeComand = commandPollingBase := by
  unfold pollingBaseReply
  rw [ofBytes_frameOf (by simp), List.append_assoc, List.append_assoc,
    ofBytes_append_left (by simp)]
  rfl

theorem pollingBaseReply_counter (sec : CountedSection) :
    ofBytes (pollingBaseReply eeprom measures) sec.irspCntUpdate = eeprom sec.cntUpdateAddress := by
  have hat : ∀ k < 4, ofBytes (pollingBaseReply eeprom measures) (38 + k) =
      ofBytes (boardCounters eeprom) k := by
    intro k hk
    unfold pollingBaseReply
    rw [ofBytes_frameOf (by simp [measures.length_data, measures.length_awp]; omega),
      ofBytes_append_left (by simp [measures.length_data]; omega)]
    have hlen : ([protoStartMsg0, protoStartMsg1, 44, commandPollingBase] ++
        measures.data).length = 38 := by
      simp [measures.length_data]
    rw [← hlen, ofBytes_append_right]
  cases sec with
  | info => exact hat 0 (by decide)
  | settingPar => exact hat 1 (by decide)
  | setTemp => exact hat 2 (by decide)
  | dayProg => exact hat 3 (by decide)

end Polling

section Write

variable (startAddress count result : UInt8)

@[simp] theorem length_writeEepromReply :
    (writeEepromReply eeprom startAddress count result).length = 13 := by
  rfl

theorem wellFormed_writeEepromReply :
    WellFormed (writeEepromReply eeprom startAddress count result) := by
  apply wellFormed_frameOf
  · rfl
  · rfl
  · rfl
  · simp

theorem writeEepromReply_command :
    ofBytes (writeEepromReply eeprom startAddress count result) ihm1TypeComand =
      commandWriteEeprom := by
  rfl

theorem writeEepromReply_counter (sec : CountedSection) :
    ofBytes (writeEepromReply eeprom startAddress count result) sec.irswCntUpdate =
      eeprom sec.cntUpdateAddress := by
  cases sec <;> rfl

end Write

section Debug

variable (debug : DebugData)

@[simp] theorem length_dataDebugReply :
    (dataDebugReply debug).length = 66 := by
  simp [dataDebugReply, debug.length_data]

theorem wellFormed_dataDebugReply :
    WellFormed (dataDebugReply debug) := by
  apply wellFormed_frameOf
  · rfl
  · rfl
  · rw [ofBytes_append_left (by simp)]
    simp [debug.length_data, ofBytes]
  · simp [debug.length_data]

theorem dataDebugReply_command :
    ofBytes (dataDebugReply debug) ihm1TypeComand = commandDataDebug := by
  unfold dataDebugReply
  rw [ofBytes_frameOf (by simp), ofBytes_append_left (by simp)]
  rfl

end Debug

end Contents

/-! ## Answers -/

/-- What the board adds of its own when it answers a request. -/
structure Answer where
  measures : Measures
  debug : DebugData
  /-- The result of a write: `'0'`, or an error code. -/
  result : UInt8
  /-- The update counter of the section after an accepted write. -/
  counter : UInt8

/-- An answer of zeros, that accepts what it is asked to write. -/
def Answer.zero : Answer where
  measures := .zero
  debug := ⟨List.replicate 60 0, List.length_replicate⟩
  result := writeAccepted
  counter := 0

/-- The counted section that begins at an address. -/
def countedSectionAt (startAddress : Nat) : Option CountedSection :=
  CountedSection.all.find? fun sec => sec.eepromSection.startAddress = startAddress

/-- The image after an accepted write. -/
def writtenImage (eeprom : Memory) (request : List UInt8) (counter : UInt8) : Memory :=
  let startAddress := (ofBytes request irqwAddrByteStartEep).toNat
  let count := (ofBytes request irqwAddrNumByteEep).toNat
  let stored := memcpy eeprom startAddress (ofBytes request) irqwStartDataEeprom count
  match countedSectionAt startAddress with
  | some sec => Function.update stored sec.cntUpdateAddress counter
  | none => stored

/-- The board's image and its reply, once it has answered a request.  What does
not begin as a frame does is no request. -/
def boardAnswer (eeprom : Memory) (a : Answer) (request : List UInt8) :
    Option (Memory × List UInt8) :=
  let command := ofBytes request ihm1TypeComand
  let startAddress := ofBytes request irqrAddrByteStartEep
  let count := ofBytes request irqrAddrNumByteEep
  if ofBytes request ihm1StartMsg0 ≠ protoStartMsg0 then none
  else if command = commandPollingBase then
    some (eeprom, pollingBaseReply eeprom a.measures)
  else if command = commandDataDebug then some (eeprom, dataDebugReply a.debug)
  else if command = commandReadEeprom then
    some (eeprom, readEepromReply eeprom startAddress count)
  else if command = commandWriteEeprom then
    let eeprom' :=
      if a.result = writeAccepted then writtenImage eeprom request a.counter else eeprom
    some (eeprom', writeEepromReply eeprom' startAddress count a.result)
  else none

section Answers

variable (eeprom : Memory) (a : Answer)

theorem boardAnswer_pollingBase
    (device : DeviceIdentity) :
    boardAnswer eeprom a (pollingBaseRequest device) =
      some (eeprom, pollingBaseReply eeprom a.measures) := by
  have hhead : ofBytes (pollingBaseRequest device) ihm1StartMsg0 = protoStartMsg0 := by
    unfold pollingBaseRequest
    rw [ofBytes_frameOf (by simp)]
    rfl
  unfold boardAnswer
  dsimp only
  rw [if_neg (not_not.mpr hhead), if_pos (pollingBaseRequest_command device)]

/-- The reply to a request for a whole section. -/
def readSectionReply (eeprom : Memory) (sec : EepromSection) : List UInt8 :=
  readEepromReply eeprom (UInt8.ofNat sec.startAddress) (UInt8.ofNat sec.count)

theorem boardAnswer_readEeprom
    (sec : EepromSection) :
    boardAnswer eeprom a (readEepromRequest sec) =
      some (eeprom, readSectionReply eeprom sec) := by
  rfl

theorem boardAnswer_dataDebug
    (b c : UInt8) :
    boardAnswer eeprom a
        (frameOf [protoStartMsg0, protoStartMsg1, 6, commandDataDebug, b, c]) =
      some (eeprom, dataDebugReply a.debug) := by
  rfl

/-- The image after a write request has been answered. -/
def answeredImage (eeprom : Memory) (a : Answer) (request : List UInt8) : Memory :=
  if a.result = writeAccepted then writtenImage eeprom request a.counter else eeprom

theorem boardAnswer_writeEeprom
    (sec : EepromSection) (m : Memory) :
    boardAnswer eeprom a (writeEepromRequest sec m) =
      some (answeredImage eeprom a (writeEepromRequest sec m),
        writeEepromReply (answeredImage eeprom a (writeEepromRequest sec m))
          (UInt8.ofNat sec.startAddress) (UInt8.ofNat sec.count) a.result) := by
  have hhead : ∀ i < 6, ofBytes (writeEepromRequest sec m) i =
      ofBytes [protoStartMsg0, protoStartMsg1, 6 + UInt8.ofNat sec.count, commandWriteEeprom,
        UInt8.ofNat sec.startAddress, UInt8.ofNat sec.count] i :=
    fun i hi => writeEepromRequest_head sec m hi
  unfold boardAnswer answeredImage
  rw [hhead 0 (by decide), hhead 3 (by decide), hhead 4 (by decide), hhead 5 (by decide)]
  rfl

/-- An accepted write puts the data in its section, and a new counter. -/
theorem writtenImage_self
    (sec : CountedSection) (m : Memory) (counter : UInt8) {i : Nat}
    (hi : i ∈ sec.eepromSection.range) :
    writtenImage eeprom (writeEepromRequest sec.eepromSection m) counter i =
      if i = sec.cntUpdateAddress then counter else m i := by
  have hat : countedSectionAt sec.eepromSection.startAddress = some sec := by
    cases sec <;> decide
  unfold writtenImage
  rw [writeEepromRequest_head _ _ (by decide), writeEepromRequest_head _ _ (by decide)]
  simp only [ofBytes, irqwAddrByteStartEep, irqwAddrNumByteEep, List.getD_cons_succ,
    List.getD_cons_zero, EepromSection.toNat_startAddress, EepromSection.toNat_count, hat]
  by_cases hcnt : i = sec.cntUpdateAddress
  · rw [if_pos hcnt, hcnt, Function.update_self]
  · rw [if_neg hcnt, Function.update_of_ne hcnt, memcpy_inside _ _ _ _ _ hi]
    have hlt : i - sec.eepromSection.startAddress < sec.eepromSection.count := by
      have h₁ := hi.1
      have h₂ := hi.2
      omega
    have hdata := writeEepromRequest_data sec.eepromSection m hlt
    have haddr : sec.eepromSection.startAddress + (i - sec.eepromSection.startAddress) = i := by
      have := hi.1
      omega
    rw [haddr] at hdata
    exact hdata

/-- An accepted write leaves every other counted section alone. -/
theorem writtenImage_other
    {sec : EepromSection} {other : CountedSection}
    (hne : other.eepromSection ≠ sec) (m : Memory) (counter : UInt8) :
    Set.EqOn (writtenImage eeprom (writeEepromRequest sec m) counter) eeprom
      other.eepromSection.range := by
  intro i hi
  have hstored : memcpy eeprom sec.startAddress (ofBytes (writeEepromRequest sec m))
      irqwStartDataEeprom sec.count i = eeprom i := by
    apply memcpy_outside
    rw [EepromSection.mem_range_iff, EepromSection.startAddress_eq,
      EepromSection.count_eq] at hi
    rw [EepromSection.startAddress_eq, EepromSection.count_eq]
    rintro ⟨h₁, h₂⟩
    cases other <;> cases sec <;>
      first
        | exact hne rfl
        | (simp only [CountedSection.eepromSection] at hi h₁ h₂; omega)
  unfold writtenImage
  rw [writeEepromRequest_head _ _ (by decide), writeEepromRequest_head _ _ (by decide)]
  simp only [ofBytes, irqwAddrByteStartEep, irqwAddrNumByteEep, List.getD_cons_succ,
    List.getD_cons_zero, EepromSection.toNat_startAddress, EepromSection.toNat_count]
  cases hat : countedSectionAt sec.startAddress with
  | none => exact hstored
  | some owner =>
      dsimp only
      rw [Function.update_of_ne]
      · exact hstored
      · rintro rfl
        rw [EepromSection.mem_range_iff, EepromSection.startAddress_eq,
          EepromSection.count_eq, CountedSection.cntUpdateAddress_eq] at hi
        have howner : owner.eepromSection = sec := by
          cases sec <;> cases owner <;> first | rfl | (revert hat; decide)
        subst howner
        cases other <;> cases owner <;>
          first
            | exact hne rfl
            | (simp only [CountedSection.eepromSection] at hi; omega)

end Answers

section SectionReplies

variable (eeprom : Memory) (sec : EepromSection)

theorem length_readSectionReply :
    (readSectionReply eeprom sec).length = sec.count + 8 := by
  unfold readSectionReply
  rw [length_readEepromReply, sec.toNat_count]

theorem wellFormed_readSectionReply :
    WellFormed (readSectionReply eeprom sec) := by
  apply wellFormed_readEepromReply
  rw [sec.toNat_count]
  exact sec.count_le.trans (by decide)

theorem readSectionReply_command :
    ofBytes (readSectionReply eeprom sec) ihm1TypeComand = commandReadEeprom := by
  unfold readSectionReply
  rw [readEepromReply_head _ (by decide)]
  rfl

theorem readSectionReply_address :
    ofBytes (readSectionReply eeprom sec) irsrAddrByteStartEep = UInt8.ofNat sec.startAddress ∧
      ofBytes (readSectionReply eeprom sec) irsrAddrNumByteEep = UInt8.ofNat sec.count := by
  unfold readSectionReply
  rw [readEepromReply_head _ (by decide), readEepromReply_head _ (by decide)]
  exact ⟨rfl, rfl⟩

theorem readSectionReply_data
    {i : Nat} (hi : i < sec.count) :
    ofBytes (readSectionReply eeprom sec) (irsrStartDataEeprom + i) =
      eeprom (sec.startAddress + i) := by
  have hi' : i < (UInt8.ofNat sec.count).toNat := by
    rw [sec.toNat_count]
    exact hi
  have hdata : ofBytes (readSectionReply eeprom sec) (irsrStartDataEeprom + i) =
      eeprom ((UInt8.ofNat sec.startAddress).toNat + i) :=
    readEepromReply_data eeprom hi'
  rw [sec.toNat_startAddress] at hdata
  exact hdata

end SectionReplies

end Serial
end AvensysEsp32
