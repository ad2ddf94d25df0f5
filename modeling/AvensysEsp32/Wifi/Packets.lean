import AvensysEsp32.Foundation.Accumulation
import AvensysEsp32.Wifi.Provisioning

/-!
# The credential packets in memory

`ble_packet_t` is a pointer and a length.  Here the packet is modelled with the
memory it points to and with the calls of `malloc` and `realloc`; the packet of
`Wifi.Provisioning` is what this one shows.

The length and the memory of a packet are followed over its operations.  The
first data of a packet goes another way than the data after it, without the
comparison with the maximum.
-/

namespace AvensysEsp32
namespace Wifi

open Foundation

/-- `ble_packet_t`; `data` is `none` for the null pointer, and else the memory it
points to. -/
structure PacketMemory where
  data : Option Memory
  len : Nat

namespace PacketMemory

/-- What `free(packet->data); packet->data = NULL; packet->len = 0` leaves. -/
def empty : PacketMemory := ⟨none, 0⟩

/-- `ble_packet_append`; `allocated` is the memory that `malloc` or `realloc`
provides, if it does, with what it happens to hold. -/
def blePacketAppend (packet : PacketMemory) (allocated : Option Memory) (data : List UInt8)
    (maxLen : Nat) : PacketMemory × Bool :=
  match packet.data with
  | none =>
      match allocated with
      | none => (packet, false)
      | some fresh => (⟨some (store fresh 0 data), data.length⟩, true)
  | some old =>
      let newLen := packet.len + data.length
      if maxLen < newLen then (empty, false)
      else
        match allocated with
        | none => (empty, false)
        | some fresh =>
            -- `realloc` keeps what the packet holds.
            let newData := memcpy fresh 0 old 0 packet.len
            (⟨some (store newData packet.len data), newLen⟩, true)

/-- `ble_packet_reset` -/
def blePacketReset (packet : PacketMemory) : PacketMemory :=
  match packet.data with
  | none => { packet with len := 0 }
  | some _ => empty

/-- `ble_packet_copy_to_string`: what `out` holds afterwards. -/
def blePacketCopyToString (packet : PacketMemory) (out : Memory) (outSize : Nat) : Memory :=
  if outSize = 0 then out
  else
    match packet.data with
    | none => store out 0 [0]
    | some data =>
        let copyLen := if outSize ≤ packet.len then outSize - 1 else packet.len
        store (memcpy out 0 data 0 copyLen) copyLen [0]

/-- The bytes of a packet. -/
def bytes (packet : PacketMemory) : List UInt8 :=
  match packet.data with
  | none => []
  | some data => readBytes data 0 packet.len

/-- The packet without its memory. -/
def shown (packet : PacketMemory) : BlePacket :=
  ⟨packet.data.map fun data => readBytes data 0 packet.len⟩

end PacketMemory

/-! ## Runs of operations -/

/-- An operation on a packet. -/
inductive PacketOperation
  | append (data : List UInt8) (allocated : Option Memory)
  | reset
  | copyToString (out : Memory) (outSize : Nat)

/-- A packet, and the fragments appended since the last reset or failed
append. -/
structure PacketHistory where
  packet : PacketMemory
  fragments : List (List UInt8)

/-- One operation.  The copy only reads the packet. -/
def packetStep (maxLen : Nat) (operation : PacketOperation) (s : PacketHistory) :
    PacketHistory :=
  match operation with
  | .append data allocated =>
      let result := s.packet.blePacketAppend allocated data maxLen
      ⟨result.1, if result.2 then s.fragments ++ [data] else []⟩
  | .reset => ⟨s.packet.blePacketReset, []⟩
  | .copyToString _ _ => s

/-- `ssid_packet` and `password_packet` at boot. -/
def packetAtBoot : PacketHistory := ⟨.empty, []⟩

/-- What is to hold of a packet: its length, its data and its null pointer. -/
structure PacketSound (maxLen : Nat) (s : PacketHistory) : Prop where
  bounded : s.packet.len ≤ maxLen
  concatenated : s.packet.bytes = s.fragments.flatten
  null_iff : s.packet.data = none ↔ s.packet.len = 0

/-- What is to hold of an operation: the packet is sound afterwards, and an
append fails only for its two reasons and leaves the packet empty. -/
def OperationSound (maxLen : Nat) (operation : PacketOperation) (s : PacketHistory) : Prop :=
  PacketSound maxLen (packetStep maxLen operation s) ∧
    match operation with
    | .append data allocated =>
        (s.packet.blePacketAppend allocated data maxLen).2 = false →
          (maxLen < s.packet.len + data.length ∨ allocated = none) ∧
            (s.packet.blePacketAppend allocated data maxLen).1 = .empty
    | _ => True

/-- The fragments that are appended have data. -/
def HasData : PacketOperation → Prop
  | .append data _ => 1 ≤ data.length
  | _ => True

/-- What begins a packet, if it gets its memory, is no longer than the maximum. -/
def FirstFits (maxLen : Nat) (operation : PacketOperation) (s : PacketHistory) : Prop :=
  match operation with
  | .append data (some _) => s.packet.data = none → data.length ≤ maxLen
  | _ => True

/-! ## The operations -/

section Operations

variable {packet : PacketMemory} {data : List UInt8} {maxLen : Nat}

/-- The first data of a packet is all it holds. -/
theorem append_first
    (h : packet.data = none) (fresh : Memory) :
    packet.blePacketAppend (some fresh) data maxLen =
      (⟨some (store fresh 0 data), data.length⟩, true) := by
  unfold PacketMemory.blePacketAppend
  rw [h]

theorem append_first_failed
    (h : packet.data = none) :
    packet.blePacketAppend none data maxLen = (packet, false) := by
  unfold PacketMemory.blePacketAppend
  rw [h]

theorem append_overlong
    {old : Memory} (h : packet.data = some old) (hlong : maxLen < packet.len + data.length)
    (allocated : Option Memory) :
    packet.blePacketAppend allocated data maxLen = (.empty, false) := by
  unfold PacketMemory.blePacketAppend
  rw [h]
  exact if_pos hlong

theorem append_next_failed
    {old : Memory} (h : packet.data = some old) :
    packet.blePacketAppend none data maxLen = (.empty, false) := by
  unfold PacketMemory.blePacketAppend
  rw [h]
  dsimp only
  split <;> rfl

theorem append_next
    {old : Memory} (h : packet.data = some old) (hfits : ¬ maxLen < packet.len + data.length)
    (fresh : Memory) :
    packet.blePacketAppend (some fresh) data maxLen =
      (⟨some (store (memcpy fresh 0 old 0 packet.len) packet.len data),
        packet.len + data.length⟩, true) := by
  unfold PacketMemory.blePacketAppend
  rw [h]
  exact if_neg hfits

theorem bytes_of_data
    {old : Memory} (h : packet.data = some old) :
    packet.bytes = readBytes old 0 packet.len := by
  unfold PacketMemory.bytes
  rw [h]

/-- A reset leaves the packet as it was at boot. -/
theorem blePacketReset_eq_empty (packet : PacketMemory) :
    packet.blePacketReset = .empty := by
  obtain ⟨data, len⟩ := packet
  cases data with
  | none => rfl
  | some _ => rfl

end Operations

/-! ## The packet of the provisioning model -/

section Refinement

variable (packet : PacketMemory)

@[simp] theorem shown_empty :
    PacketMemory.empty.shown = .reset := by
  rfl

/-- What is appended in memory is what the provisioning model appends. -/
theorem shown_blePacketAppend
    (allocated : Option Memory) (data : List UInt8) (maxLen : Nat) :
    ((packet.blePacketAppend allocated data maxLen).1.shown,
        (packet.blePacketAppend allocated data maxLen).2) =
      packet.shown.append data maxLen allocated.isSome := by
  cases hdata : packet.data with
  | none =>
      have hshown : packet.shown = ⟨none⟩ := by
        simp [PacketMemory.shown, hdata]
      rw [hshown]
      cases allocated with
      | none =>
          rw [append_first_failed hdata, hshown]
          rfl
      | some fresh =>
          rw [append_first hdata]
          simp [PacketMemory.shown, BlePacket.append, readBytes_store_first]
  | some old =>
      have hshown : packet.shown = ⟨some (readBytes old 0 packet.len)⟩ := by
        simp [PacketMemory.shown, hdata]
      rw [hshown]
      by_cases hlong : maxLen < packet.len + data.length
      · rw [append_overlong hdata hlong]
        simp [BlePacket.append, hlong]
      · cases allocated with
        | none =>
            rw [append_next_failed hdata]
            simp [BlePacket.append]
        | some fresh =>
            rw [append_next hdata hlong]
            simp [PacketMemory.shown, BlePacket.append, hlong, readBytes_store_behind,
              readBytes_memcpy]

theorem shown_blePacketReset :
    packet.blePacketReset.shown = .reset := by
  rw [blePacketReset_eq_empty, shown_empty]

/-- The string that a copy leaves is the one of the provisioning model. -/
theorem cString_blePacketCopyToString
    (out : Memory) {outSize : Nat} (hsize : 0 < outSize) :
    cString (readBytes (packet.blePacketCopyToString out outSize) 0 outSize) =
      packet.shown.copyToString outSize := by
  obtain ⟨data, len⟩ := packet
  cases data with
  | none =>
      have hread : readBytes (store out 0 [0]) 0 outSize =
          [] ++ 0 :: readBytes (store out 0 [0]) 1 (outSize - 1) := by
        obtain ⟨n, rfl⟩ := Nat.exists_eq_add_of_lt hsize
        rw [Nat.zero_add, Nat.add_comm n 1, readBytes_add, Nat.add_sub_cancel_left]
        rfl
      have hcopy : PacketMemory.blePacketCopyToString ⟨none, len⟩ out outSize =
          store out 0 [0] :=
        if_neg (Nat.ne_of_gt hsize)
      rw [hcopy, hread, cString_append_nul]
      rfl
  | some memory =>
      have hshown : PacketMemory.shown ⟨some memory, len⟩ = ⟨some (readBytes memory 0 len)⟩ := rfl
      obtain ⟨copyLen, hcopyLen⟩ :
          ∃ copyLen, copyLen = if outSize ≤ len then outSize - 1 else len := ⟨_, rfl⟩
      have hcopy : PacketMemory.blePacketCopyToString ⟨some memory, len⟩ out outSize =
          store (memcpy out 0 memory 0 copyLen) copyLen [0] := by
        rw [hcopyLen]
        exact if_neg (Nat.ne_of_gt hsize)
      have hroom : copyLen + 1 ≤ outSize := by
        rw [hcopyLen]
        split <;> omega
      obtain ⟨rest, hrest⟩ := Nat.exists_eq_add_of_le hroom
      have htake : (readBytes memory 0 len).take (outSize - 1) = readBytes memory 0 copyLen := by
        rw [hcopyLen]
        split
        · exact take_readBytes memory 0 (by omega)
        · exact List.take_of_length_le (by rw [length_readBytes]; omega)
      have hstored := readBytes_store_behind (memcpy out 0 memory 0 copyLen) copyLen [0]
      rw [readBytes_memcpy] at hstored
      rw [hcopy, hshown, hrest, readBytes_add]
      rw [show copyLen + 1 = copyLen + [(0 : UInt8)].length by rfl, hstored, List.append_assoc,
        List.singleton_append, cString_append_nul]
      show _ = cString ((readBytes memory 0 len).take (copyLen + 1 + rest - 1))
      rw [← hrest, htake]

/-- On what a packet shows, its operations in memory are those of the
provisioning model. -/
structure ShowsOperations : Prop where
  append : ∀ (allocated : Option Memory) (data : List UInt8) (maxLen : Nat),
    ((packet.blePacketAppend allocated data maxLen).1.shown,
        (packet.blePacketAppend allocated data maxLen).2) =
      packet.shown.append data maxLen allocated.isSome
  reset : packet.blePacketReset.shown = .reset
  copyToString : ∀ (out : Memory) (outSize : Nat), 0 < outSize →
    cString (readBytes (packet.blePacketCopyToString out outSize) 0 outSize) =
      packet.shown.copyToString outSize

theorem showsOperations : ShowsOperations packet where
  append := shown_blePacketAppend packet
  reset := shown_blePacketReset packet
  copyToString := fun out _ => cString_blePacketCopyToString packet out

end Refinement

/-! ## One operation -/

section Operation

variable {maxLen : Nat} {s : PacketHistory}

/-- The fragments of a sound packet have its length. -/
theorem PacketSound.length
    (h : PacketSound maxLen s) :
    s.fragments.flatten.length = s.packet.len := by
  rw [← h.concatenated]
  unfold PacketMemory.bytes
  cases hdata : s.packet.data with
  | none => simp [h.null_iff.mp hdata]
  | some _ => simp

theorem packetSound_empty (maxLen : Nat) :
    PacketSound maxLen ⟨.empty, []⟩ where
  bounded := Nat.zero_le _
  concatenated := rfl
  null_iff := by simp [PacketMemory.empty]

/-- An append that fails leaves what it is to leave. -/
theorem operationSound_failed
    {data : List UInt8} {allocated : Option Memory}
    (hresult : s.packet.blePacketAppend allocated data maxLen = (.empty, false))
    (hreason : maxLen < s.packet.len + data.length ∨ allocated = none) :
    OperationSound maxLen (.append data allocated) s := by
  refine ⟨?_, fun _ => ⟨hreason, by rw [hresult]⟩⟩
  unfold packetStep
  dsimp only
  rw [hresult]
  exact packetSound_empty maxLen

/-- An append that succeeds leaves a sound packet, if the packet holds what it
is to hold and is not too long. -/
theorem operationSound_appended
    {data : List UInt8} {allocated : Option Memory} {packet : PacketMemory}
    (hresult : s.packet.blePacketAppend allocated data maxLen = (packet, true)) :
    OperationSound maxLen (.append data allocated) s ↔
      PacketSound maxLen ⟨packet, s.fragments ++ [data]⟩ := by
  have hstep : packetStep maxLen (.append data allocated) s =
      ⟨packet, s.fragments ++ [data]⟩ := by
    unfold packetStep
    dsimp only
    rw [hresult]
    rfl
  unfold OperationSound
  rw [hstep]
  refine ⟨fun h => h.1, fun h => ⟨h, fun hfailed => ?_⟩⟩
  rw [hresult] at hfailed
  cases hfailed

/-- An operation on a sound packet is sound exactly when what begins a packet
fits. -/
theorem operationSound_iff_firstFits
    (h : PacketSound maxLen s) {operation : PacketOperation} (hdata : HasData operation) :
    OperationSound maxLen operation s ↔ FirstFits maxLen operation s := by
  cases operation with
  | reset =>
      refine iff_of_true ⟨?_, trivial⟩ trivial
      show PacketSound maxLen ⟨s.packet.blePacketReset, []⟩
      rw [blePacketReset_eq_empty]
      exact packetSound_empty maxLen
  | copyToString out outSize => exact iff_of_true ⟨h, trivial⟩ trivial
  | append data allocated =>
      have hlong : 1 ≤ data.length := hdata
      cases hpacket : s.packet.data with
      | none =>
          have hlen : s.packet.len = 0 := h.null_iff.mp hpacket
          cases allocated with
          | none =>
              refine iff_of_true (operationSound_failed ?_ (Or.inr rfl)) trivial
              rw [append_first_failed hpacket]
              obtain ⟨⟨memory, len⟩, fragments⟩ := s
              cases hpacket
              cases hlen
              rfl
          | some fresh =>
              rw [operationSound_appended (append_first hpacket fresh)]
              constructor
              · intro hsound _
                exact hsound.bounded
              · intro hfits
                refine ⟨hfits hpacket, ?_, ?_⟩
                · have hnothing : s.fragments.flatten = [] := by
                    apply List.eq_nil_of_length_eq_zero
                    rw [h.length, hlen]
                  rw [List.flatten_append, hnothing]
                  simpa [PacketMemory.bytes] using readBytes_store_first
                · refine iff_of_false (by rintro ⟨⟩) ?_
                  show ¬ data.length = 0
                  omega
      | some old =>
          have hfirst : FirstFits maxLen (.append data allocated) s := by
            cases allocated with
            | none => trivial
            | some fresh =>
                intro hnone
                rw [hpacket] at hnone
                cases hnone
          refine iff_of_true ?_ hfirst
          by_cases hover : maxLen < s.packet.len + data.length
          · exact operationSound_failed (append_overlong hpacket hover allocated) (Or.inl hover)
          · cases allocated with
            | none => exact operationSound_failed (append_next_failed hpacket) (Or.inr rfl)
            | some fresh =>
                rw [operationSound_appended (append_next hpacket hover fresh)]
                refine ⟨Nat.le_of_not_lt hover, ?_, ?_⟩
                · have hbytes := h.concatenated
                  rw [bytes_of_data hpacket] at hbytes
                  show readBytes (store _ s.packet.len data) 0 (s.packet.len + data.length) =
                    (s.fragments ++ [data]).flatten
                  rw [readBytes_store_behind, readBytes_memcpy, hbytes]
                  simp
                · refine iff_of_false (by rintro ⟨⟩) ?_
                  show ¬ s.packet.len + data.length = 0
                  omega

end Operation

/-! ## Runs -/

/-- The operations in memory are those of the provisioning model, and every
operation of a run does what it is to do exactly when whatever begins a packet
fits. -/
theorem packet_sound_iff
    (maxLen : Nat) (operations : List PacketOperation)
    (hdata : ∀ operation ∈ operations, HasData operation) :
    (∀ packet, ShowsOperations packet) ∧
      (Along (packetStep maxLen) (OperationSound maxLen) operations packetAtBoot ↔
        Along (packetStep maxLen) (FirstFits maxLen) operations packetAtBoot) := by
  refine ⟨showsOperations, ?_⟩
  have h : ∀ s, PacketSound maxLen s →
      (Along (packetStep maxLen) (OperationSound maxLen) operations s ↔
        Along (packetStep maxLen) (FirstFits maxLen) operations s) := by
    induction operations with
    | nil =>
        intro s _
        exact Iff.rfl
    | cons operation operations ih =>
        intro s hs
        rw [along_cons, along_cons,
          ← operationSound_iff_firstFits hs (hdata operation List.mem_cons_self)]
        refine and_congr_right fun hsound => ?_
        exact ih (fun f hf => hdata f (List.mem_cons_of_mem operation hf)) _ hsound.1
  exact h packetAtBoot (packetSound_empty maxLen)

/-- The SSID "ab" in two fragments, and a reset. -/
theorem twoFragments_sound :
    Along (packetStep maxSsidLength) (OperationSound maxSsidLength)
      [.append [97] (some fun _ => 0), .append [98] (some fun _ => 0), .reset] packetAtBoot := by
  apply (packet_sound_iff maxSsidLength _ ?_).2.mpr
  · refine ⟨fun _ => by decide, fun h => ?_, trivial, trivial⟩
    cases h
  · intro operation hmem
    rcases List.mem_cons.mp hmem with rfl | hmem
    · exact Nat.le_refl 1
    · rcases List.mem_cons.mp hmem with rfl | hmem
      · exact Nat.le_refl 1
      · rcases List.mem_singleton.mp hmem with rfl
        trivial

/-- An SSID of 33 bytes in one fragment. -/
theorem overlongFirst_unsound :
    ¬ ∀ (maxLen : Nat) (operations : List PacketOperation),
      (∀ operation ∈ operations, HasData operation) →
        Along (packetStep maxLen) (OperationSound maxLen) operations packetAtBoot := by
  intro h
  have hsound := h maxSsidLength [.append (List.replicate 33 97) (some fun _ => 0)] (by
    intro operation hmem
    rcases List.mem_singleton.mp hmem with rfl
    exact (by decide : 1 ≤ (List.replicate 33 (97 : UInt8)).length))
  have hbounded : (List.replicate 33 (97 : UInt8)).length ≤ maxSsidLength := hsound.1.1.bounded
  exact absurd hbounded (by decide)

end Wifi
end AvensysEsp32
