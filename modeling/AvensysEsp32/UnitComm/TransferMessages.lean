import AvensysEsp32.Foundation.Accumulation
import AvensysEsp32.UnitComm.LastRequest
import AvensysEsp32.UnitComm.Transfer

/-!
# What is said in a transfer

Whatever happens to the stored file, the messages of the firmware transfer are a
header with the size and the first word of the file that was opened, and then
blocks of sixteen bytes, as characters, until all but the rest of that size has
been sent; the last block is the rest.  A file that cannot be opened is
announced as an empty one.  The file may be replaced on the way, so a block is a
piece of some file that was stored, and zeros where that one has ended.
-/

namespace AvensysEsp32
namespace UnitComm

open Foundation Serial

/-- The message that announces a file. -/
def headerChars (filesize fileStart : Nat) : List UInt8 :=
  filesizeChars filesize ++ fileStartChars fileStart

/-- The block is a piece of one of the files, and zeros behind it. -/
def CutFrom (files : List (List UInt8)) (block : List UInt8) : Prop :=
  ∃ file ∈ files, ∃ pos count zeros,
    block = (file.drop pos).take count ++ List.replicate zeros 0

/-- The blocks of a transfer of the given size, in their order: sixteen bytes each,
and the last one what is left. -/
def BlocksOf (files : List (List UInt8)) (filesize : Nat) (blocks : List (List UInt8)) : Prop :=
  ∀ i (h : i < blocks.length),
    (16 * i < filesize ∧ blocks[i].length = min 16 (filesize - 16 * i)) ∧ CutFrom files blocks[i]

/-- The header says the size and the first word of one of the files. -/
def HeaderOf (files : List (List UInt8)) (filesize fileStart : Nat) : Prop :=
  ∃ content ∈ files,
    content.length = filesize ∧ (4 ≤ content.length → fileStart = firstWord content)

/-- The messages of a transfer, as far as it has come, where the files are stored
at one time or another. -/
inductive TransferMessages (files : List (List UInt8)) : List (List UInt8) → Prop
  | waiting : TransferMessages files []
  | refused : TransferMessages files [headerChars 0 0]
  | sending (filesize fileStart : Nat) (hheader : HeaderOf files filesize fileStart)
      (blocks : List (List UInt8)) (hblocks : BlocksOf files filesize blocks) :
      TransferMessages files (headerChars filesize fileStart :: blocks.map blockChars)

/-- A message of a transfer: the header of one of the files, or of an empty one, or
a block cut from one of them. -/
def TransferMessage (files : List (List UInt8)) (w : List UInt8) : Prop :=
  w = headerChars 0 0 ∨
    (∃ filesize fileStart, HeaderOf files filesize fileStart ∧
      w = headerChars filesize fileStart) ∨
    ∃ block : List UInt8, (0 < block.length ∧ block.length ≤ 16) ∧ CutFrom files block ∧
      w = blockChars block

variable {files : List (List UInt8)}

theorem TransferMessages.messages
    {ts : List (List UInt8)} (h : TransferMessages files ts) :
    ∀ w ∈ ts, TransferMessage files w := by
  intro w hw
  cases h with
  | waiting => cases hw
  | refused => exact Or.inl (List.mem_singleton.mp hw)
  | sending filesize fileStart hheader blocks hblocks =>
      rcases List.mem_cons.mp hw with rfl | hblock
      · exact Or.inr (Or.inl ⟨_, _, hheader, rfl⟩)
      · obtain ⟨block, hmem, rfl⟩ := List.mem_map.mp hblock
        obtain ⟨i, hi, rfl⟩ := List.mem_iff_getElem.mp hmem
        obtain ⟨⟨hmore, hlength⟩, hcut⟩ := hblocks i hi
        exact Or.inr (Or.inr ⟨_, ⟨by omega, by omega⟩, hcut, rfl⟩)

/-- One more block is the rest, or all of its sixteen bytes. -/
theorem BlocksOf.concat
    {filesize : Nat} {blocks : List (List UInt8)} (h : BlocksOf files filesize blocks)
    (hmore : 16 * blocks.length < filesize) (block : List UInt8)
    (hblock : block.length = min 16 (filesize - 16 * blocks.length))
    (hcut : CutFrom files block) :
    BlocksOf files filesize (blocks ++ [block]) := by
  intro i hi
  by_cases hlast : i < blocks.length
  · rw [List.getElem_append_left hlast]
    exact h i hlast
  · obtain rfl : i = blocks.length := by
      rw [List.length_append, List.length_singleton] at hi
      omega
    rw [List.getElem_concat_length rfl]
    exact ⟨⟨hmore, hblock⟩, hcut⟩

/-! ## The messages of each state -/

/-- How far a transfer has come in each of its states, with the messages `ts`. -/
inductive TransferStage
    (files : List (List UInt8)) (ts : List (List UInt8)) (s : UnitState) : Prop
  | waiting (hstate : s.currentState = .bootloaderState) (hts : ts = [])
      (htransfered : s.transfer.bytesTransfered = 0)
  | sending (hstate : s.currentState = .bootloaderState1) (filesize fileStart : Nat)
      (hheader : HeaderOf files filesize fileStart)
      (blocks : List (List UInt8)) (hblocks : BlocksOf files filesize blocks)
      (hsize : s.transfer.filesize = filesize)
      (htransfered : s.transfer.bytesTransfered = (16 * blocks.length : Nat))
      (hmore : 16 * blocks.length ≤ filesize)
      (hts : ts = headerChars filesize fileStart :: blocks.map blockChars)
  | ended (hstate : s.currentState = .bootloaderStateEnd) (hts : TransferMessages files ts)

theorem TransferStage.messages
    {ts : List (List UInt8)} {s : UnitState} (h : TransferStage files ts s) :
    TransferMessages files ts := by
  cases h with
  | waiting _ hts _ =>
      rw [hts]
      exact .waiting
  | sending _ filesize fileStart hheader blocks hblocks _ _ _ hts =>
      rw [hts]
      exact .sending filesize fileStart hheader blocks hblocks
  | ended _ hts => exact hts

theorem TransferStage.of_same
    {ts : List (List UInt8)} {s s' : UnitState} (h : TransferStage files ts s)
    (hstate : s'.currentState = s.currentState) (htransfer : s'.transfer = s.transfer) :
    TransferStage files ts s' := by
  cases h with
  | waiting hs hts htransfered =>
      exact .waiting (hstate.trans hs) hts (htransfer ▸ htransfered)
  | sending hs filesize fileStart hheader blocks hblocks hsize htransfered hmore hts =>
      exact .sending (hstate.trans hs) filesize fileStart hheader blocks hblocks
        (htransfer ▸ hsize) (htransfer ▸ htransfered) hmore hts
  | ended hs hts => exact .ended (hstate.trans hs) hts

section Stages

variable {ts : List (List UInt8)} {s : UnitState}

/-- The words of a buffer are those of its first bytes. -/
theorem wordsChars_readBytes
    (m : Memory) {words count : Nat} (h : words * 4 ≤ count) :
    wordsChars (ofBytes (readBytes m 0 count)) words = wordsChars m words := by
  have hbyte : ∀ i < count, ofBytes (readBytes m 0 count) i = m i := by
    intro i hi
    rw [ofBytes_of_lt (by simpa using hi), getElem_readBytes, Nat.zero_add]
  unfold wordsChars
  apply List.flatMap_congr
  intro k hk
  have hk' := List.mem_range.mp hk
  unfold wordChars
  rw [hbyte (k * 4 + 3) (by omega), hbyte (k * 4 + 2) (by omega), hbyte (k * 4 + 1) (by omega),
    hbyte (k * 4) (by omega)]

/-- What `Send_Buffer` holds is the block that `Temp_Buffer` holds. -/
theorem readBytes_encodeWords_block
    (tempBuffer sendBuffer : Memory) (count : Nat) (h : count ≤ 16) :
    readBytes (encodeWords tempBuffer (count / 4) (memset sendBuffer 0 0 sendBufferSize)) 0
        (count * 2) = blockChars (readBytes tempBuffer 0 count) := by
  have hsent := readBytes_encodeWords tempBuffer sendBuffer (count / 4) (2 * (count % 4))
    (by simp only [sendBufferSize]; omega)
  unfold blockChars
  rw [length_readBytes, wordsChars_readBytes tempBuffer (by omega), ← hsent]
  congr 1
  omega

/-- What is read is a piece of the file, and zeros where it has ended. -/
theorem readBytes_store_memset
    (m : Memory) {bytes : List UInt8} {count size : Nat} (hbytes : bytes.length ≤ count)
    (hcount : count ≤ size) :
    readBytes (store (memset m 0 0 size) 0 bytes) 0 count =
      bytes ++ List.replicate (count - bytes.length) 0 := by
  obtain ⟨zeros, rfl⟩ := Nat.exists_eq_add_of_le hbytes
  have hzeros : readBytes (store (memset m 0 0 size) 0 bytes) bytes.length zeros =
      List.replicate zeros 0 := by
    apply List.ext_getElem
    · simp
    · intro i h₁ h₂
      have hi : i < zeros := by simpa using h₁
      rw [getElem_readBytes]
      unfold store
      rw [memcpy_outside _ _ _ _ _ (fun hin => by have := hin.2; omega),
        memset_inside _ _ _ ⟨Nat.zero_le _, by omega⟩, List.getElem_replicate]
  rw [readBytes_add, readBytes_store_first, Nat.zero_add, hzeros, Nat.add_sub_cancel_left]

/-- What `fread` leaves in `Temp_Buffer` is cut from a file that was stored. -/
theorem cutFrom_fread
    (m : Memory) {count : Nat} (hcount : count ≤ tempBufferSize) (hfiles : files ≠ [])
    (hstored : ∀ content ∈ s.firmwareBin, content ∈ files) :
    CutFrom files
      (readBytes (store (memset m 0 0 tempBufferSize) 0 (fread count s).1) 0 count) := by
  obtain ⟨file, hfile, pos, n, hn, hread⟩ :
      ∃ file ∈ files, ∃ pos n, n ≤ count ∧ (fread count s).1 = (file.drop pos).take n := by
    obtain ⟨file, hfile⟩ := List.exists_mem_of_ne_nil files hfiles
    unfold fread
    split
    · rename_i pos content _ hcontent
      exact ⟨content, hstored content hcontent, pos, count, le_rfl, rfl⟩
    · exact ⟨file, hfile, 0, 0, Nat.zero_le count, List.take_zero.symm⟩
  rw [hread, readBytes_store_memset m ((List.length_take_le _ _).trans hn) hcount]
  exact ⟨file, hfile, pos, n, _, rfl⟩

/-- An acknowledgement is answered with the next block, if there is one. -/
theorem transferStage_sendBlock
    (hstored : ∀ content ∈ s.firmwareBin, content ∈ files)
    (hstate : s.currentState = .bootloaderState1) (h : TransferStage files ts s) :
    ∃ ws, Sends ws s (sendBlock s) ∧ TransferStage files (ts ++ ws) (sendBlock s) := by
  cases h with
  | waiting hs _ _ =>
      rw [hstate] at hs
      cases hs
  | ended hs _ =>
      rw [hstate] at hs
      cases hs
  | sending _ filesize fileStart hheader blocks hblocks hsize htransfered hmore hts =>
      have hfiles : files ≠ [] := List.ne_nil_of_mem hheader.choose_spec.1
      obtain ⟨r, hr⟩ : ∃ r, filesize - 16 * blocks.length = r := ⟨_, rfl⟩
      have hremaining : s.transfer.filesize - s.transfer.bytesTransfered = (r : Int) := by
        rw [hsize, htransfered]
        omega
      unfold sendBlock
      dsimp only
      rw [hremaining]
      by_cases hlong : 16 < r
      · rw [if_pos (by omega)]
        have hchars := fun tempBuffer : Memory =>
          readBytes_encodeWords_block tempBuffer s.transfer.sendBuffer 16 (by decide)
        refine ⟨[_], Sends.of_silent ?_ (sends_emit_uartWrite _ _), ?_⟩
        · exact sends_of_outputs_eq rfl
        · rw [hchars]
          have hnext := hblocks.concat (by omega)
            (readBytes (store (memset s.transfer.tempBuffer 0 0 tempBufferSize) 0
              (fread 16 s).1) 0 16) (by rw [length_readBytes]; omega)
            (cutFrom_fread _ (by decide) hfiles hstored)
          refine .sending hstate filesize fileStart hheader _ hnext hsize ?_ ?_ ?_
          · dsimp only [UnitState.emit]
            rw [htransfered, List.length_append, List.length_singleton]
            omega
          · rw [List.length_append, List.length_singleton]
            omega
          · rw [hts, List.map_append]
            rfl
      · rw [if_neg (by omega)]
        by_cases hlast : r = 0
        · subst hlast
          rw [if_neg (by decide)]
          refine ⟨[], sends_of_outputs_eq rfl, ?_⟩
          rw [List.append_nil]
          exact .sending hstate filesize fileStart hheader blocks hblocks hsize htransfered hmore
            hts
        · rw [if_pos (by omega), Int.toNat_natCast]
          have hchars := fun tempBuffer : Memory =>
            readBytes_encodeWords_block tempBuffer s.transfer.sendBuffer r (by omega)
          refine ⟨[_], Sends.of_silent ?_ (sends_emitAll _ [.uartWrite _, _]), ?_⟩
          · exact sends_of_outputs_eq rfl
          · rw [hchars]
            have hnext := hblocks.concat (by omega)
              (readBytes (store (memset s.transfer.tempBuffer 0 0 tempBufferSize) 0
                (fread r s).1) 0 r) (by rw [length_readBytes]; omega)
              (cutFrom_fread _ (by simp only [tempBufferSize]; omega) hfiles hstored)
            refine .ended rfl ?_
            have hmessages := TransferMessages.sending filesize fileStart hheader _ hnext
            rw [hts, List.cons_append]
            rwa [List.map_append] at hmessages

/-- `Bootloader_State` waits, or announces the file it has opened. -/
theorem transferStage_bootloaderState
    (inp : IterationInput) (hstored : ∀ content ∈ s.firmwareBin, content ∈ files)
    (hstate : s.currentState = .bootloaderState) (h : TransferStage files ts s) :
    ∃ ws, Sends ws s (bootloaderState inp s) ∧
      TransferStage files (ts ++ ws) (bootloaderState inp s) := by
  cases h with
  | sending hs =>
      rw [hstate] at hs
      cases hs
  | ended hs _ =>
      rw [hstate] at hs
      cases hs
  | waiting _ hts htransfered =>
      subst hts
      have hzeros : ∀ m : Memory,
          readBytes (memset m 0 48 sendBufferSize) 0 14 = headerChars 0 0 := by
        intro m
        have hheader : headerChars 0 0 = List.replicate 14 48 := by decide
        rw [hheader]
        apply List.ext_getElem
        · simp
        · intro i h₁ h₂
          have hi : i < 14 := by simpa using h₁
          rw [getElem_readBytes,
            memset_inside _ _ _ ⟨Nat.zero_le _, by simp only [sendBufferSize]; omega⟩,
            List.getElem_replicate]
      unfold bootloaderState
      split
      · exact ⟨[], sends_of_outputs_eq rfl, .waiting hstate rfl htransfered⟩
      · dsimp only
        split
        · refine ⟨[_], Sends.of_silent ?_ (sends_emit_uartWrite _ _), .ended rfl ?_⟩
          · exact sends_of_outputs_eq rfl
          · rw [hzeros]
            exact .refused
        · split
          · rename_i content hcontent _
            refine ⟨[_], Sends.of_silent ?_ (sends_emit_uartWrite _ _), ?_⟩
            · exact sends_of_outputs_eq rfl
            · refine .sending rfl content.length (littleEndianWord
                (store s.transfer.fileStart 0 (content.take 4))) ?_ [] nofun rfl ?_
                (Nat.zero_le _) rfl
              · exact ⟨content, hstored content hcontent, rfl,
                  littleEndianWord_store s.transfer.fileStart⟩
              · exact htransfered
          · refine ⟨[_], Sends.of_silent ?_ (sends_emit_uartWrite _ _), .ended rfl ?_⟩
            · exact sends_of_outputs_eq rfl
            · rw [hzeros]
              exact .refused

theorem transferStage_bootloaderState1
    (hstored : ∀ content ∈ s.firmwareBin, content ∈ files)
    (hstate : s.currentState = .bootloaderState1) (h : TransferStage files ts s) :
    ∃ ws, Sends ws s (bootloaderState1 s) ∧
      TransferStage files (ts ++ ws) (bootloaderState1 s) := by
  unfold bootloaderState1
  dsimp only
  split
  · obtain ⟨ws, hsend, hstage⟩ := transferStage_sendBlock
      (s := { s with
        valRet := (readMessage s.port).1
        port := { (readMessage s.port).2 with ackReceived := false } })
      hstored hstate (h.of_same rfl rfl)
    refine ⟨ws, Sends.of_silent ?_ hsend, hstage⟩
    exact sends_of_outputs_eq rfl
  · refine ⟨[], sends_of_outputs_eq rfl, ?_⟩
    rw [List.append_nil]
    exact h.of_same rfl rfl

/-- An iteration in the bootloader's states carries the transfer on. -/
theorem transferStage_connectToUnit
    (inp : IterationInput) (hstored : ∀ content ∈ s.firmwareBin, content ∈ files)
    (hboot : InBootloader s.currentState) (h : TransferStage files ts s) :
    ∃ ws, Sends ws s (connectToUnit inp s) ∧ TransferStage files (ts ++ ws) (connectToUnit inp s) ∧
      (connectToUnit inp s).wbmComState = s.wbmComState := by
  rcases hboot with hc | hc | hc
  · obtain ⟨ws, hsend, hstage⟩ := transferStage_bootloaderState inp hstored hc h
    have hcase := bootloaderState_case inp s
    simp only [connectToUnit, hc]
    refine ⟨ws, hsend, hstage, ?_⟩
    generalize bootloaderState inp s = s' at hcase ⊢
    cases hcase with
    | held _ => rfl
    | header _ _ _ _ => rfl
  · obtain ⟨ws, hsend, hstage⟩ := transferStage_bootloaderState1 hstored hc h
    have hcase := bootloaderState1_case s
    simp only [connectToUnit, hc]
    refine ⟨ws, hsend, hstage, ?_⟩
    generalize bootloaderState1 s = s' at hcase ⊢
    cases hcase with
    | waiting _ => rfl
    | acknowledged _ _ _ _ _ _ => rfl
  · simp only [connectToUnit, hc]
    refine ⟨[], sends_of_outputs_eq rfl, ?_, trivial⟩
    rw [List.append_nil]
    exact h

end Stages

end UnitComm
end AvensysEsp32
