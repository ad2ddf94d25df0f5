import AvensysEsp32.Ble.Server
import AvensysEsp32.UnitComm.Image
import AvensysEsp32.Mqtt.Passes

/-!
# The paths of an EEPROM image

An image comes from a client in one BLE write, in prepared writes with an
execute, or in the data of an MQTT event.  All three store the same and ask for
the same sections to be written, and so does the write that the unit task meets
while it sends.
-/

namespace AvensysEsp32
namespace Ble

open Foundation Serial UnitComm Wifi Mqtt

/-- The mirror and the sections that are to be exchanged with the unit. -/
@[ext] structure EepromImage where
  gRDEeprom : Memory
  readEepromRequestIndex : BitVec 16

def BleState.image (s : BleState) : EepromImage :=
  ⟨s.gRDEeprom, s.readEepromRequestIndex⟩

/-- The image in the variables of the MQTT client. -/
def mqttImage (s : MqttState) : EepromImage :=
  ⟨s.gRDEeprom, s.readEepromRequestIndex⟩

/-- The image in the variables of the unit task. -/
def unitImage (s : UnitState) : EepromImage :=
  ⟨s.gRDEeprom, s.readEepromRequestIndex⟩

/-- The structure takes the payload, filled up with zeros. -/
theorem copyEepromPayload_apply (payload : List UInt8) (m : Memory) (i : Nat) :
    copyEepromPayload payload m i =
      if i < sizeofEeprom then ofBytes payload i else m i := by
  unfold copyEepromPayload
  by_cases hcopied : i < min payload.length sizeofEeprom
  · rw [memcpy_inside _ _ _ _ _ ⟨Nat.zero_le i, by omega⟩, if_pos (by omega)]
    simp
  · rw [memcpy_outside _ _ _ _ _ (fun h => hcopied (by have := h.2; omega))]
    split
    · rw [memset_inside _ _ _ ⟨Nat.zero_le i, by omega⟩]
      exact (ofBytes_of_le (by omega)).symm
    · rename_i hi
      exact memset_outside _ _ _ (fun h => hi (by have := h.2; omega))

namespace EepromImage

/-- What a client's payload should do: a payload of 241 bytes or more replaces
the structure, filled up with zeros, and all its sections are to be written. -/
def write (payload : List UInt8) (image : EepromImage) : EepromImage :=
  if payload.length < 241 then image
  else
    { gRDEeprom := fun i => if i < sizeofEeprom then ofBytes payload i else image.gRDEeprom i
      readEepromRequestIndex := image.readEepromRequestIndex ||| 0xF800 }

variable (image : EepromImage) {payload : List UInt8}

theorem write_short
    (hshort : payload.length < 241) :
    image.write payload = image :=
  if_pos hshort

theorem write_long
    (hlong : 241 ≤ payload.length) :
    image.write payload =
      { gRDEeprom := copyEepromPayload payload image.gRDEeprom
        readEepromRequestIndex := image.readEepromRequestIndex ||| fullEepromWrite } := by
  unfold write
  rw [if_neg (by omega)]
  ext1
  · funext i
    exact (copyEepromPayload_apply payload image.gRDEeprom i).symm
  · rfl

/-- Two payloads that are accepted alike and agree in what is copied do the
same. -/
theorem write_congr
    {payload' : List UInt8} (haccepted : payload.length < 241 ↔ payload'.length < 241)
    (hbytes : ∀ i < sizeofEeprom, ofBytes payload i = ofBytes payload' i) :
    image.write payload = image.write payload' := by
  unfold write
  by_cases hshort : payload.length < 241
  · rw [if_pos hshort, if_pos (haccepted.mp hshort)]
  · rw [if_neg hshort, if_neg (mt haccepted.mpr hshort)]
    ext1
    · funext i
      show (if _ then _ else _) = (if _ then _ else _)
      split
      · rename_i hi
        exact hbytes i hi
      · rfl
    · rfl

end EepromImage

/-! ## Single writes -/

theorem applyEepromPayload_image (payload : List UInt8) (s : BleState) :
    (applyEepromPayload payload s).image = s.image.write payload := by
  unfold applyEepromPayload bleApplyEepromPayload
  rw [bleApplyLegacy242Eeprom_eq_none]
  by_cases hshort : payload.length < 241
  · rw [if_pos hshort, EepromImage.write_short _ hshort]
  · rw [if_neg hshort, EepromImage.write_long _ (by omega)]
    rfl

/-- The unit task's own model of a client's write. -/
theorem clientWrite_image (w : ClientWrite) (s : UnitState) :
    unitImage (clientWrite w s) = (unitImage s).write w.payload := by
  by_cases hshort : w.payload.length < 241
  · rw [clientWrite_rejected w s hshort, EepromImage.write_short _ hshort]
  · obtain ⟨hmirror, hindex⟩ := clientWrite_accepted w s (by omega)
    rw [EepromImage.write_long _ (by omega)]
    exact EepromImage.ext hmirror hindex

theorem handleWriteEvent_image
    (handles : HandleTable) (inp : EnqueueInput) (allocated : Bool) (param : WriteParam)
    (s : BleState) :
    (handleWriteEvent handles inp allocated param s).image =
      if param.handle = handles.eepromData then s.image.write param.value else s.image := by
  unfold handleWriteEvent
  dsimp only
  split
  · exact applyEepromPayload_image param.value (bleProvTimerReset s)
  · split
    · rfl
    · split
      · rfl
      · split
        · rfl
        · rfl

/-- A write of the EEPROM characteristic.  The descriptor of the status is
written with two bytes, which no image is. -/
theorem gattsWrite_image
    {handles : HandleTable} {param : WriteParam} (hhandle : param.handle = handles.eepromData)
    (inp : EnqueueInput) (allocated : Bool) (s : BleState) :
    (gattsWrite handles inp allocated param s).image = s.image.write param.value := by
  have hwrite := handleWriteEvent_image handles inp allocated param s
  rw [if_pos hhandle] at hwrite
  unfold gattsWrite
  split
  · rename_i low high hvalue
    split
    · exact (s.image.write_short (by simp [hvalue])).symm
    · exact hwrite
  · exact hwrite

theorem image_refreshIfChanged (s : MqttState) :
    mqttImage (refreshIfChanged s) = mqttImage s := by
  unfold refreshIfChanged
  rw [mqttUpdateActiveSerialFromEeprom_eq]
  dsimp only
  split
  · obtain ⟨client, last, subscribed, heq, -⟩ :=
      mqttRefreshAppSubscriptions_frame false { s with activeSerial := serialIn s.gRDEeprom }
    rw [heq]
    rfl
  · rfl

theorem writeEeprom_image (tick : UInt32) (payload : List UInt8) (s : MqttState) :
    mqttImage (writeEeprom tick payload s) = (mqttImage s).write payload := by
  unfold writeEeprom mqttApplyEepromPayload
  by_cases hshort : payload.length < 241
  · rw [if_pos hshort, EepromImage.write_short _ hshort]
    rfl
  · rw [if_neg hshort, EepromImage.write_long _ (by omega)]
    exact image_refreshIfChanged _

/-! ## Prepared writes -/

/-- A prepared write and the memory that `malloc` would provide in it. -/
structure Prepare where
  allocated : Option Memory
  param : WriteParam

def Prepare.event (prepare : Prepare) : BleEvent :=
  .gatts (.prepareWrite prepare.allocated prepare.param)

/-- What some prepared writes leave of the environment. -/
def prepareAll (prepares : List Prepare) (env : PrepareTypeEnv) : PrepareTypeEnv :=
  prepares.foldl (fun env prepare => (prepareWriteEventEnv prepare.allocated prepare.param env).1)
    env

/-- The chunks that are stored in a buffer that exists. -/
def accepted (prepares : List Prepare) : List Chunk :=
  (prepares.map fun prepare => prepare.param.chunk).filter fun c =>
    c.offset + c.bytes.length ≤ prepareBufMaxSize

/-- What an execute makes of the environment. -/
def executed (handles : HandleTable) (env : PrepareTypeEnv) (image : EepromImage) : EepromImage :=
  match env.prepareBuf with
  | some buf =>
      if env.prepareHandle = handles.eepromData then
        image.write (readBytes buf 0 env.prepareLen)
      else image
  | none => image

section Prepared

variable {handles : HandleTable} {prepares : List Prepare} {env : PrepareTypeEnv}

@[simp] theorem accepted_nil :
    accepted [] = [] := by
  rfl

@[simp] theorem prepareAll_cons (prepare : Prepare) :
    prepareAll (prepare :: prepares) env =
      prepareAll prepares (prepareWriteEventEnv prepare.allocated prepare.param env).1 := by
  rfl

theorem run_prepares (s : BleState) :
    run (bleStep handles) (prepares.map Prepare.event) s =
      { s with prepareWriteEnv := prepareAll prepares s.prepareWriteEnv } := by
  induction prepares generalizing s with
  | nil => rfl
  | cons prepare prepares ih =>
      rw [List.map_cons, run_cons, ih]
      rfl

theorem execWriteEventEnv_image (exec : Bool) (s : BleState) :
    (execWriteEventEnv handles exec s).image =
      if exec then executed handles s.prepareWriteEnv s.image else s.image := by
  unfold execWriteEventEnv executed
  cases exec with
  | false => rfl
  | true =>
      rw [if_pos rfl]
      cases s.prepareWriteEnv.prepareBuf with
      | none => rfl
      | some buf =>
          dsimp only
          split
          · exact applyEepromPayload_image _ s
          · rfl

/-- A write to a buffer that exists is stored if it fits. -/
theorem prepareWriteEventEnv_held
    {buf : Memory} (hbuf : env.prepareBuf = some buf) (prepare : Prepare) :
    (prepareWriteEventEnv prepare.allocated prepare.param env).1 =
      ⟨some (storeAll (accepted [prepare]) buf),
        env.prepareLen + totalLength (accepted [prepare]), env.prepareHandle⟩ := by
  obtain ⟨_, len, handle⟩ := env
  subst hbuf
  have hone : accepted [prepare] =
      if prepare.param.offset + prepare.param.value.length ≤ prepareBufMaxSize then
        [prepare.param.chunk] else [] := by
    by_cases hfits : prepare.param.offset + prepare.param.value.length ≤ prepareBufMaxSize
    · rw [if_pos hfits]
      exact List.filter_cons_of_pos (decide_eq_true hfits)
    · rw [if_neg hfits]
      exact List.filter_cons_of_neg (fun h => hfits (of_decide_eq_true h))
  unfold prepareWriteEventEnv
  dsimp only
  rw [hone]
  split
  · rw [if_neg (by omega)]
    rfl
  · split
    · rw [if_neg (by omega)]
      rfl
    · rw [if_pos (by omega)]
      rfl

theorem prepareAll_held
    {buf : Memory} (hbuf : env.prepareBuf = some buf) :
    prepareAll prepares env =
      ⟨some (storeAll (accepted prepares) buf),
        env.prepareLen + totalLength (accepted prepares), env.prepareHandle⟩ := by
  induction prepares generalizing env buf with
  | nil =>
      obtain ⟨_, len, handle⟩ := env
      subst hbuf
      rfl
  | cons prepare prepares ih =>
      have hcons : accepted (prepare :: prepares) = accepted [prepare] ++ accepted prepares :=
        List.filter_append [prepare.param.chunk] _
      rw [prepareAll_cons, prepareWriteEventEnv_held hbuf prepare, ih rfl, hcons, storeAll_append,
        totalLength_append, Nat.add_assoc]

/-- The first write that gets a buffer is stored whether it fits or not. -/
theorem prepareAll_first
    {buf : Memory} {prepare : Prepare} (hnone : env.prepareBuf = none)
    (hallocated : prepare.allocated = some buf) :
    prepareAll (prepare :: prepares) env =
      ⟨some (storeAll (prepare.param.chunk :: accepted prepares) buf),
        totalLength (prepare.param.chunk :: accepted prepares), prepare.param.handle⟩ := by
  have hfirst : (prepareWriteEventEnv prepare.allocated prepare.param env).1 =
      ⟨some (prepare.param.chunk.storeIn buf), 0 + prepare.param.value.length,
        prepare.param.handle⟩ := by
    unfold prepareWriteEventEnv
    rw [hnone, hallocated]
    rfl
  rw [prepareAll_cons, hfirst, prepareAll_held rfl, Nat.zero_add]
  rfl

end Prepared

/-! ## All paths -/

/-- The pieces of a payload that fits in the buffer make it up again, also the
empty ones that the handler refuses. -/
theorem executed_partition
    {handles : HandleTable} {payload : List UInt8} {prepares : List Prepare}
    {env : PrepareTypeEnv} (hfits : payload.length ≤ prepareBufMaxSize)
    (hnone : env.prepareBuf = none)
    (hhandle : ∀ prepare ∈ prepares, prepare.param.handle = handles.eepromData)
    (hallocated : ∀ prepare ∈ prepares, prepare.allocated ≠ none)
    (hpieces : Partitions payload (prepares.map fun prepare => prepare.param.chunk))
    (image : EepromImage) :
    executed handles (prepareAll prepares env) image = image.write payload := by
  cases prepares with
  | nil =>
      have hempty : payload = [] := List.length_eq_zero_iff.mp hpieces.totalLength.symm
      show executed handles env image = _
      rw [hempty, EepromImage.write_short _ (by simp)]
      unfold executed
      rw [hnone]
  | cons prepare prepares =>
      obtain ⟨buf, hbuf⟩ := Option.ne_none_iff_exists'.mp
        (hallocated prepare List.mem_cons_self)
      have hrefused : ∀ c ∈ prepares.map fun prepare => prepare.param.chunk,
          decide (c.offset + c.bytes.length ≤ prepareBufMaxSize) = false → c.bytes = [] := by
        intro c hc hlarge
        by_contra hbytes
        have hend := hpieces.fits (List.mem_cons_of_mem _ hc) hbytes
        have hover := of_decide_eq_false hlarge
        omega
      obtain ⟨-, hlength⟩ := storeAll_filter buf hrefused
      have hstored := fun m => (storeAll_filter m hrefused).1
      have hbytes := hpieces.storeAll buf
      rw [prepareAll_first hnone hbuf]
      unfold executed accepted
      dsimp only
      rw [if_pos (hhandle prepare List.mem_cons_self), storeAll_cons, totalLength_cons, hstored,
        hlength]
      exact congrArg image.write hbytes

/-- The three paths do the same with a payload: a BLE write, prepared writes of
its pieces in any order with an execute, and the data of an MQTT event. -/
theorem eeprom_paths_agree
    (handles : HandleTable) (payload : List UInt8) (hfits : payload.length ≤ prepareBufMaxSize) :
    (∀ inp allocated param s,
      param.handle = handles.eepromData → param.value = payload →
        (bleStep handles (.gatts (.write inp allocated param)) s).image =
          s.image.write payload) ∧
      (∀ (prepares : List Prepare) (s : BleState),
        s.prepareWriteEnv.prepareBuf = none →
          (∀ prepare ∈ prepares, prepare.param.handle = handles.eepromData) →
          (∀ prepare ∈ prepares, prepare.allocated ≠ none) →
          Partitions payload (prepares.map fun prepare => prepare.param.chunk) →
            (run (bleStep handles) (prepares.map Prepare.event ++ [.gatts (.execWrite true)])
              s).image = s.image.write payload) ∧
      (∀ tick topic s,
        isEepromTopic topic (noticed s) →
          mqttImage (mqttEventHandler tick (.data topic payload) s) =
            (mqttImage s).write payload) := by
  refine ⟨?_, ?_, ?_⟩
  · rintro inp allocated param s hhandle rfl
    exact gattsWrite_image hhandle inp allocated s
  · intro prepares s hnone hhandle hallocated hpieces
    rw [run_append, run_prepares]
    exact (execWriteEventEnv_image true _).trans
      (executed_partition hfits hnone hhandle hallocated hpieces s.image)
  · intro tick topic s htopic
    rw [mqttEventHandler_eq]
    dsimp only
    rw [if_pos htopic]
    exact writeEeprom_image tick payload (noticed s)

/-- Two pieces, the last first. -/
def twoPieces : List Prepare :=
  [⟨some fun _ => 255, ⟨1, 200, List.replicate 41 7⟩⟩,
    ⟨some fun _ => 255, ⟨1, 0, List.replicate 200 7⟩⟩]

theorem eeprom_paths_agree_two_pieces :
    (bleStep ⟨1, 2, 3, 4, 5⟩ (.gatts (.write ⟨0, true⟩ true ⟨1, 0, List.replicate 241 7⟩))
        (.initial none none)).image =
        (BleState.initial none none).image.write (List.replicate 241 7) ∧
      (run (bleStep ⟨1, 2, 3, 4, 5⟩) (twoPieces.map Prepare.event ++ [.gatts (.execWrite true)])
        (.initial none none)).image =
        (BleState.initial none none).image.write (List.replicate 241 7) ∧
      mqttImage (mqttEventHandler 0
        (.data (mqttBuildTopic 64 (noticed (.initial none .empty)).deviceHwId appEeprom)
          (List.replicate 241 7)) (.initial none .empty)) =
        (mqttImage (.initial none .empty)).write (List.replicate 241 7) := by
  obtain ⟨hdirect, hprepared, hmqtt⟩ :=
    eeprom_paths_agree ⟨1, 2, 3, 4, 5⟩ (List.replicate 241 7)
      (by rw [List.length_replicate]; decide)
  refine ⟨hdirect _ _ _ _ rfl rfl, hprepared twoPieces _ rfl (by decide) ?_ ?_,
    hmqtt 0 _ _ (Or.inl rfl)⟩
  · simp [twoPieces]
  · refine ⟨by decide +kernel, by decide +kernel, ?_⟩
    ext i
    simp only [twoPieces, WriteParam.chunk, List.map_cons, List.map_nil, covered_cons,
      covered_nil, Chunk.addresses, Finset.mem_union, Finset.mem_Ico, Finset.mem_range,
      Finset.notMem_empty, List.length_replicate, or_false]
    omega

end Ble
end AvensysEsp32
