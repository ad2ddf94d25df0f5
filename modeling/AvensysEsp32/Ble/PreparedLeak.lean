import AvensysEsp32.Ble.EepromPaths

/-!
# Prepared writes and connections

Prepared writes belong to a connection, but the environment that collects them
is cleared by an execute only.  What one connection has prepared when it is lost
is executed with the writes of the next one.
-/

namespace AvensysEsp32
namespace Ble

open Foundation Serial UnitComm Wifi

variable {handles : HandleTable} {prepares : List Prepare}

/-- The client is lost, and the next one connects. -/
def reconnected : List BleEvent :=
  [.gatts .disconnect, .gatts .connect]

/-- Prepared writes and the execute that follows. -/
def transaction (later : List Prepare) (exec : Bool) : List BleEvent :=
  later.map Prepare.event ++ [.gatts (.execWrite exec)]

/-- What a lost connection has prepared makes no difference to what later
connections write. -/
def NoLeak (handles : HandleTable) (prepares : List Prepare) (s : BleState) : Prop :=
  ∀ later exec,
    (run (bleStep handles) (prepares.map Prepare.event ++ reconnected ++ transaction later exec)
        s).image =
      (run (bleStep handles) (reconnected ++ transaction later exec) s).image

/-- The prepared writes leave nothing that a later execute could use.  Without a
buffer, none of them gets one.  A buffer from before is one of another handle,
or nothing is put into it, or it is so full that all of the structure is taken
from it anyway, and keeps these bytes; with one byte less, the last of them must
be zero. -/
def LeavesNothing (handles : HandleTable) (prepares : List Prepare) (env : PrepareTypeEnv) :
    Prop :=
  match env.prepareBuf with
  | none => ∀ prepare ∈ prepares, prepare.allocated = none
  | some buf =>
      env.prepareHandle ≠ handles.eepromData ∨
        totalLength (accepted prepares) = 0 ∨
          (∀ i < sizeofEeprom, storeAll (accepted prepares) buf i = buf i) ∧
            (sizeofEeprom ≤ env.prepareLen ∨
              env.prepareLen + 1 = sizeofEeprom ∧ buf env.prepareLen = 0)

/-! ## The two runs -/

theorem run_reconnected_transaction
    (later : List Prepare) (exec : Bool) (s : BleState) :
    (run (bleStep handles) (reconnected ++ transaction later exec) s).image =
      if exec then executed handles (prepareAll later s.prepareWriteEnv) s.image
      else s.image := by
  unfold transaction
  rw [run_append, run_append, run_prepares]
  exact execWriteEventEnv_image exec _

/-- Only the environment carries over to the next connection. -/
theorem noLeak_iff (s : BleState) :
    NoLeak handles prepares s ↔
      ∀ later,
        executed handles (prepareAll later (prepareAll prepares s.prepareWriteEnv)) s.image =
          executed handles (prepareAll later s.prepareWriteEnv) s.image := by
  have hrun : ∀ later exec,
      (run (bleStep handles)
          (prepares.map Prepare.event ++ reconnected ++ transaction later exec) s).image =
        if exec then
          executed handles (prepareAll later (prepareAll prepares s.prepareWriteEnv)) s.image
        else s.image := by
    intro later exec
    rw [List.append_assoc, run_append, run_prepares, run_reconnected_transaction]
    rfl
  unfold NoLeak
  constructor
  · intro h later
    have hexec := h later true
    rw [hrun, run_reconnected_transaction] at hexec
    exact hexec
  · intro h later exec
    rw [hrun, run_reconnected_transaction, h later]

/-! ## Without a buffer -/

/-- There is no buffer as long as every `malloc` fails. -/
theorem prepareAll_refused
    {env : PrepareTypeEnv} (hnone : env.prepareBuf = none)
    (hrefused : ∀ prepare ∈ prepares, prepare.allocated = none) :
    (prepareAll prepares env).prepareBuf = none := by
  induction prepares generalizing env with
  | nil => exact hnone
  | cons prepare prepares ih =>
      rw [prepareAll_cons]
      apply ih _ fun p hp => hrefused p (List.mem_cons_of_mem prepare hp)
      unfold prepareWriteEventEnv
      rw [hnone, hrefused prepare List.mem_cons_self]

theorem prepareAll_isSome
    (env : PrepareTypeEnv) (hallocated : ∃ prepare ∈ prepares, prepare.allocated ≠ none) :
    ∃ buf, (prepareAll prepares env).prepareBuf = some buf := by
  induction prepares generalizing env with
  | nil =>
      obtain ⟨prepare, hmem, -⟩ := hallocated
      cases hmem
  | cons first prepares ih =>
      cases hbuf : env.prepareBuf with
      | some buf =>
          rw [prepareAll_held hbuf]
          exact ⟨_, rfl⟩
      | none =>
          cases hfirst : first.allocated with
          | some buf =>
              rw [prepareAll_first hbuf hfirst]
              exact ⟨_, rfl⟩
          | none =>
              obtain ⟨prepare, hmem, hsome⟩ := hallocated
              rcases List.mem_cons.mp hmem with rfl | hrest
              · exact absurd hfirst hsome
              · exact ih _ ⟨prepare, hrest, hsome⟩

/-- Whatever the environment holds, a run without a buffer takes the next
writes as they are. -/
theorem executed_refused
    {env : PrepareTypeEnv} (hnone : env.prepareBuf = none)
    (hrefused : ∀ prepare ∈ prepares, prepare.allocated = none)
    (later : List Prepare) (image : EepromImage) :
    executed handles (prepareAll later (prepareAll prepares env)) image =
      executed handles (prepareAll later env) image := by
  have hstill := prepareAll_refused hnone hrefused
  cases later with
  | nil =>
      show executed handles (prepareAll prepares env) image = executed handles env image
      unfold executed
      rw [hstill, hnone]
  | cons prepare later =>
      rw [prepareAll_cons, prepareAll_cons]
      unfold prepareWriteEventEnv
      rw [hstill, hnone]

/-! ## What an execute shows of the buffer -/

section Executed

variable {buf : Memory} {len : Nat} {handle : UInt16} (image : EepromImage)

theorem executed_other
    (hhandle : handle ≠ handles.eepromData) :
    executed handles ⟨some buf, len, handle⟩ image = image :=
  if_neg hhandle

theorem executed_eeprom :
    executed handles ⟨some buf, len, handles.eepromData⟩ image =
      image.write (readBytes buf 0 len) :=
  if_pos rfl

/-- Each byte that an execute leaves, if there is enough in the buffer. -/
theorem executed_byte
    (hlong : 241 ≤ len) {i : Nat} (hi : i < sizeofEeprom) :
    (executed handles ⟨some buf, len, handles.eepromData⟩ image).gRDEeprom i =
      if i < len then buf i else 0 := by
  rw [executed_eeprom]
  unfold EepromImage.write
  rw [if_neg (by rw [length_readBytes]; omega)]
  dsimp only
  rw [if_pos hi, ofBytes_readBytes]

theorem prepareAll_mk :
    prepareAll prepares ⟨some buf, len, handle⟩ =
      ⟨some (storeAll (accepted prepares) buf), len + totalLength (accepted prepares), handle⟩ :=
  prepareAll_held rfl

/-- One more write that fits is stored. -/
theorem prepareAll_single
    {prepare : Prepare}
    (hfits : prepare.param.offset + prepare.param.value.length ≤ prepareBufMaxSize) :
    prepareAll [prepare] ⟨some buf, len, handle⟩ =
      ⟨some (prepare.param.chunk.storeIn buf), len + prepare.param.value.length, handle⟩ := by
  have hone : accepted [prepare] = [prepare.param.chunk] :=
    List.filter_cons_of_pos (decide_eq_true hfits)
  rw [prepareAll_mk, hone, totalLength_cons]
  rfl

/-- A write of the EEPROM that begins with a byte the mirror does not begin
with. -/
def newFirstByte (handles : HandleTable) (image : EepromImage) (allocated : Option Memory)
    (rest : Nat) : Prepare :=
  ⟨allocated, handles.eepromData, 0,
    (if image.gRDEeprom 0 = 0 then 1 else 0) :: List.replicate rest 0⟩

section NewFirstByte

variable (allocated : Option Memory) (rest : Nat)

@[simp] theorem newFirstByte_length :
    (newFirstByte handles image allocated rest).param.value.length = rest + 1 := by
  unfold newFirstByte
  rw [List.length_cons, List.length_replicate]

theorem newFirstByte_fits
    (hrest : rest < prepareBufMaxSize) :
    (newFirstByte handles image allocated rest).param.offset +
        (newFirstByte handles image allocated rest).param.value.length ≤ prepareBufMaxSize := by
  rw [newFirstByte_length]
  show 0 + (rest + 1) ≤ prepareBufMaxSize
  omega

theorem newFirstByte_stored :
    (newFirstByte handles image allocated rest).param.chunk.storeIn buf 0 ≠
      image.gRDEeprom 0 := by
  rw [Chunk.storeIn_inside]
  · show (if image.gRDEeprom 0 = 0 then (1 : UInt8) else 0) ≠ image.gRDEeprom 0
    split
    · rename_i hzero
      rw [hzero]
      decide
    · rename_i hzero
      exact Ne.symm hzero
  · rw [Chunk.mem_addresses]
    exact ⟨le_rfl, Nat.succ_pos _⟩

/-- An execute that takes the new first byte changes the image. -/
theorem executed_newFirstByte
    (hlong : 241 ≤ len) :
    executed handles
      ⟨some ((newFirstByte handles image allocated rest).param.chunk.storeIn buf), len,
        handles.eepromData⟩ image ≠ image := by
  intro hsame
  have hbyte := congrArg (fun image => image.gRDEeprom 0) hsame
  rw [executed_byte image hlong (by decide), if_pos (by omega)] at hbyte
  exact newFirstByte_stored image allocated rest hbyte

end NewFirstByte

end Executed

/-! ## Which prepared writes leak -/

section Leaks

variable {image : EepromImage}

/-- A buffer that was not there before is seen by the next connection: its image
is ignored when the first write was one to another handle, and taken without
memory of its own when it was one to the EEPROM. -/
theorem leaks_new_buffer
    {env : PrepareTypeEnv} (hnone : env.prepareBuf = none)
    (hallocated : ∃ prepare ∈ prepares, prepare.allocated ≠ none) :
    ∃ later, executed handles (prepareAll later (prepareAll prepares env)) image ≠
      executed handles (prepareAll later env) image := by
  obtain ⟨buf, hbuf⟩ := prepareAll_isSome env hallocated
  generalize prepareAll prepares env = held at *
  obtain ⟨_, len, handle⟩ := held
  subst hbuf
  by_cases hhandle : handle = handles.eepromData
  · refine ⟨[newFirstByte handles image none 240], ?_⟩
    have hfresh : (prepareAll [newFirstByte handles image none 240] env).prepareBuf = none :=
      prepareAll_refused hnone fun prepare hmem => by
        rw [List.mem_singleton.mp hmem]
        rfl
    have hignored : executed handles (prepareAll [newFirstByte handles image none 240] env) image =
        image := by
      unfold executed
      rw [hfresh]
    rw [hignored, prepareAll_single (newFirstByte_fits image none 240 (by decide)), hhandle]
    exact executed_newFirstByte image none 240 (by rw [newFirstByte_length]; omega)
  · refine ⟨[newFirstByte handles image (some fun _ => 0) 240], ?_⟩
    rw [prepareAll_single (newFirstByte_fits image _ 240 (by decide)),
      executed_other image hhandle, prepareAll_first hnone rfl, accepted_nil, totalLength_cons,
      totalLength_nil, WriteParam.chunk_bytes, newFirstByte_length, storeAll_cons, storeAll_nil]
    exact (executed_newFirstByte image (some fun _ => 0) 240 (le_refl 241)).symm

variable {buf : Memory} {len : Nat}

/-- What has been added to a buffer for the EEPROM shows if it makes up a
payload or makes one longer. -/
theorem leaks_longer
    (hadded : totalLength (accepted prepares) ≠ 0) (hroom : len + 1 < sizeofEeprom) :
    ∃ later,
      executed handles
          (prepareAll later (prepareAll prepares ⟨some buf, len, handles.eepromData⟩)) image ≠
        executed handles (prepareAll later ⟨some buf, len, handles.eepromData⟩) image := by
  rw [sizeofEeprom_eq] at hroom
  rw [prepareAll_mk]
  by_cases hshort : len < 240
  · -- 240 bytes are refused; with what was added they are accepted.
    refine ⟨[newFirstByte handles image none (239 - len)], ?_⟩
    have hfits := @newFirstByte_fits handles image none (239 - len)
      (by rw [prepareBufMaxSize]; omega)
    rw [prepareAll_single hfits, prepareAll_single hfits]
    refine ne_of_ne_of_eq (executed_newFirstByte image none _ ?_) (Eq.symm ?_)
    · rw [newFirstByte_length]
      omega
    · rw [executed_eeprom]
      apply image.write_short
      rw [length_readBytes, newFirstByte_length]
      omega
  · -- A byte stored behind the end is copied only where the length has grown.
    refine ⟨[⟨none, handles.eepromData, len + 1, [1]⟩], fun hsame => ?_⟩
    have hbyte := congrArg (fun image => image.gRDEeprom (len + 1)) hsame
    have hfits : len + 1 + [(1 : UInt8)].length ≤ prepareBufMaxSize := by
      rw [prepareBufMaxSize, List.length_singleton]
      omega
    have hinside : len + 1 ∈ (⟨handles.eepromData, len + 1, [1]⟩ : WriteParam).chunk.addresses :=
      (Chunk.mem_addresses _).mpr ⟨le_rfl, Nat.lt_succ_self _⟩
    rw [prepareAll_single hfits, prepareAll_single hfits] at hbyte
    dsimp only [List.length_singleton] at hbyte
    rw [executed_byte image (by omega) (by rw [sizeofEeprom_eq]; omega),
      executed_byte image (by omega) (by rw [sizeofEeprom_eq]; omega), if_pos (by omega),
      if_neg (by omega), Chunk.storeIn_inside _ _ hinside] at hbyte
    revert hbyte
    simp [WriteParam.chunk, ofBytes]

/-- A full buffer, or one that lacks a byte, is seen as it is. -/
theorem keeps_of_full
    (hadded : totalLength (accepted prepares) ≠ 0) (hfull : sizeofEeprom ≤ len + 1)
    (hsame : ∀ later,
      executed handles
          (prepareAll later (prepareAll prepares ⟨some buf, len, handles.eepromData⟩)) image =
        executed handles (prepareAll later ⟨some buf, len, handles.eepromData⟩) image) :
    (∀ i < sizeofEeprom, storeAll (accepted prepares) buf i = buf i) ∧
      (sizeofEeprom ≤ len ∨ len + 1 = sizeofEeprom ∧ buf len = 0) := by
  rw [sizeofEeprom_eq] at *
  rw [prepareAll_mk] at hsame
  have hbytes : ∀ i < 243,
      (if i < len + totalLength (accepted prepares) then
        storeAll (accepted prepares) buf i else 0) = if i < len then buf i else 0 := by
    intro i hi
    have hbyte := congrArg (fun image => image.gRDEeprom i) (hsame [])
    rw [← sizeofEeprom_eq] at hi
    exact ((executed_byte image (by omega) hi).symm.trans hbyte).trans
      (executed_byte image (by omega) hi)
  have hkept : ∀ i < len, i < 243 → storeAll (accepted prepares) buf i = buf i := by
    intro i hlen hi
    have hbyte := hbytes i hi
    rwa [if_pos (by omega), if_pos hlen] at hbyte
  by_cases hlen : 243 ≤ len
  · exact ⟨fun i hi => hkept i (by omega) hi, Or.inl hlen⟩
  · -- The last byte is copied only after the prepared writes, or after one more.
    obtain rfl : len = 242 := by omega
    have hzero : storeAll (accepted prepares) buf 242 = 0 := by
      have hbyte := hbytes 242 (by decide)
      rwa [if_pos (by omega), if_neg (by omega)] at hbyte
    have hsecond : storeAll (accepted prepares) buf 242 = buf 242 := by
      have hbyte := congrArg (fun image => image.gRDEeprom 242)
        (hsame [⟨none, handles.eepromData, 0, [0]⟩])
      have hfits : 0 + [(0 : UInt8)].length ≤ prepareBufMaxSize := by decide
      have houtside : 242 ∉ (⟨handles.eepromData, 0, [0]⟩ : WriteParam).chunk.addresses := by
        simp [WriteParam.chunk, Chunk.addresses]
      rw [prepareAll_single hfits, prepareAll_single hfits] at hbyte
      dsimp only [List.length_singleton] at hbyte
      rw [executed_byte image (by omega) (by decide), executed_byte image (by omega) (by decide),
        if_pos (by omega), if_pos (by omega), Chunk.storeIn_outside _ _ houtside,
        Chunk.storeIn_outside _ _ houtside] at hbyte
      exact hbyte
    refine ⟨fun i hi => ?_, Or.inr ⟨rfl, ?_⟩⟩
    · by_cases hbefore : i < 242
      · exact hkept i hbefore hi
      · rw [show i = 242 by omega]
        exact hsecond
    · rw [← hsecond]
      exact hzero

/-- What is put into a full buffer without changing it makes no difference. -/
theorem executed_of_full
    (hkept : ∀ i < sizeofEeprom, storeAll (accepted prepares) buf i = buf i)
    (hfull : sizeofEeprom ≤ len ∨ len + 1 = sizeofEeprom ∧ buf len = 0)
    (later : List Prepare) :
    executed handles
        (prepareAll later (prepareAll prepares ⟨some buf, len, handles.eepromData⟩)) image =
      executed handles (prepareAll later ⟨some buf, len, handles.eepromData⟩) image := by
  rw [prepareAll_mk, prepareAll_mk, prepareAll_mk, executed_eeprom, executed_eeprom]
  rw [sizeofEeprom_eq] at hfull
  apply EepromImage.write_congr
  · rw [length_readBytes, length_readBytes]
    omega
  · intro i hi
    have hstored : storeAll (accepted later) (storeAll (accepted prepares) buf) i =
        storeAll (accepted later) buf i :=
      storeAll_eqOn (accepted later) (show Set.EqOn _ buf (Set.Iio sizeofEeprom) from hkept) hi
    rw [ofBytes_readBytes, ofBytes_readBytes, hstored]
    rw [sizeofEeprom_eq] at hi
    by_cases hcopied : i < len + totalLength (accepted later)
    · rw [if_pos (by omega), if_pos hcopied]
    · obtain ⟨hlen, hzero⟩ := hfull.resolve_left (by omega)
      obtain rfl : i = len := by omega
      rw [if_neg hcopied, storeAll_of_totalLength_zero _ _ (by omega), hzero]
      split
      · rfl
      · rfl

end Leaks

/-- What a lost connection has prepared is without effect on the next ones
exactly when it leaves nothing. -/
theorem prepared_writes_noLeak_iff
    (handles : HandleTable) (prepares : List Prepare) (s : BleState) :
    NoLeak handles prepares s ↔ LeavesNothing handles prepares s.prepareWriteEnv := by
  rw [noLeak_iff]
  generalize s.prepareWriteEnv = env
  obtain ⟨prepareBuf, len, handle⟩ := env
  cases prepareBuf with
  | none =>
      show _ ↔ ∀ prepare ∈ prepares, prepare.allocated = none
      constructor
      · intro hsame
        by_contra hallocated
        rw [not_forall] at hallocated
        obtain ⟨prepare, hallocated⟩ := hallocated
        rw [Classical.not_imp] at hallocated
        obtain ⟨later, hleak⟩ := leaks_new_buffer
          (show (⟨none, len, handle⟩ : PrepareTypeEnv).prepareBuf = none from rfl)
          ⟨prepare, hallocated⟩
        exact hleak (hsame later)
      · intro hrefused later
        exact executed_refused rfl hrefused later s.image
  | some buf =>
      show _ ↔ handle ≠ handles.eepromData ∨ _ ∨ _
      by_cases hhandle : handle = handles.eepromData
      · subst hhandle
        constructor
        · intro hsame
          by_cases hadded : totalLength (accepted prepares) = 0
          · exact Or.inr (Or.inl hadded)
          · by_cases hroom : len + 1 < sizeofEeprom
            · obtain ⟨later, hleak⟩ := leaks_longer hadded hroom
              exact absurd (hsame later) hleak
            · have hkeeps := keeps_of_full hadded (Nat.le_of_not_lt hroom) hsame
              exact Or.inr (Or.inr hkeeps)
        · rintro (hother | hnothing | ⟨hkept, hfull⟩) later
          · exact absurd rfl hother
          · have hstill : prepareAll prepares ⟨some buf, len, handles.eepromData⟩ =
                ⟨some buf, len, handles.eepromData⟩ := by
              rw [prepareAll_mk, hnothing, storeAll_of_totalLength_zero _ _ hnothing,
                Nat.add_zero]
            rw [hstill]
          · exact executed_of_full hkept hfull later
      · refine iff_of_true (fun later => ?_) (Or.inl hhandle)
        rw [prepareAll_mk, prepareAll_mk, prepareAll_mk, executed_other _ hhandle,
          executed_other _ hhandle]

/-- A byte prepared by a connection that is lost completes the 240 bytes of the
next one. -/
theorem prepared_byte_leaks :
    ¬ NoLeak ⟨1, 2, 3, 4, 5⟩ [⟨some fun _ => 0, 1, 0, [9]⟩] (.initial none none) := by
  intro hsame
  have hbyte := congrArg (fun image => image.gRDEeprom 0)
    (hsame [⟨some fun _ => 0, 1, 0, List.replicate 240 7⟩] true)
  revert hbyte
  decide +kernel

end Ble
end AvensysEsp32
