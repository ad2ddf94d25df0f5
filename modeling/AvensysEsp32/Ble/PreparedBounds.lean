import AvensysEsp32.Foundation.Footprint
import AvensysEsp32.Ble.Server

/-!
# Bounds of the prepared writes

`prepare_write_event_env` tests a write against its buffer of 1024 bytes only
when the buffer is there already, and adds the lengths of the writes up to the
length that an execute takes from the buffer.  A history of the writes stored
since the buffer was allocated tells when the stores stay in the buffer, and
when that sum is the end of the furthest byte.
-/

namespace AvensysEsp32
namespace Ble

open Foundation Serial UnitComm Wifi

/-- The server, and what has been stored since its buffer was allocated. -/
structure PreparedHistory where
  server : BleState
  written : List Chunk

namespace PreparedHistory

/-- The environment of the prepared writes. -/
def env (t : PreparedHistory) : PrepareTypeEnv :=
  t.server.prepareWriteEnv

/-- What is in the buffer that a prepared write goes to. -/
def held (t : PreparedHistory) : List Chunk :=
  match t.env.prepareBuf with
  | none => []
  | some _ => t.written

/-- The history after an event. -/
def writtenAfter (e : BleEvent) (t : PreparedHistory) : List Chunk :=
  match e with
  | .gatts (.prepareWrite allocated param) =>
      if (prepareWriteEventEnv allocated param t.env).2 = .ok then t.held ++ [param.chunk]
      else t.held
  | .gatts (.execWrite _) => []
  | _ => t.written

end PreparedHistory

/-- An event of the server, noted in the history. -/
def notedStep (handles : HandleTable) (e : BleEvent) (t : PreparedHistory) : PreparedHistory :=
  ⟨bleStep handles e t.server, t.writtenAfter e⟩

/-- What is promised of an event: a prepared write that is stored is stored in
the buffer, and the length an execute finds is within the buffer and the end of
the furthest byte. -/
def PreparedInBounds (e : BleEvent) (t : PreparedHistory) : Prop :=
  match e with
  | .gatts (.prepareWrite allocated param) =>
      (prepareWriteEventEnv allocated param t.env).2 = .ok →
        block param.offset param.value.length ⊆ block 0 prepareBufMaxSize
  | .gatts (.execWrite true) =>
      t.env.prepareLen ≤ prepareBufMaxSize ∧ t.env.prepareLen = furthestEnd t.written
  | _ => True

/-- What the clients must do for it: the write that gets a new buffer fits in
it, and an execute follows writes that store as many bytes again as they leave
out. -/
def PreparedFits (e : BleEvent) (t : PreparedHistory) : Prop :=
  match e with
  | .gatts (.prepareWrite allocated param) =>
      t.env.prepareBuf = none → allocated ≠ none →
        param.value.length = 0 ∨ param.offset + param.value.length ≤ prepareBufMaxSize
  | .gatts (.execWrite true) => rewritten t.written = skipped t.written
  | _ => True

/-- The buffer holds what the history says: its length is the sum of the writes,
and all of them lie in it. -/
structure Noted (t : PreparedHistory) : Prop where
  length : t.env.prepareLen = totalLength t.written
  inside : covered t.written ⊆ Finset.range prepareBufMaxSize
  nothing : t.env.prepareBuf = none → t.written = []

section Writes

variable {allocated : Option Memory} {param : WriteParam} {env : PrepareTypeEnv}

/-- A prepared write is stored when it gets a buffer, or fits the one there. -/
theorem prepareWriteEventEnv_ok_iff :
    (prepareWriteEventEnv allocated param env).2 = .ok ↔
      (env.prepareBuf = none ∧ allocated ≠ none) ∨
        (env.prepareBuf ≠ none ∧
          param.offset + param.value.length ≤ prepareBufMaxSize) := by
  unfold prepareWriteEventEnv
  cases hbuf : env.prepareBuf with
  | none =>
      cases allocated with
      | none => simp
      | some buf => simp
  | some buf =>
      dsimp only
      simp only [prepareBufMaxSize]
      split
      · simp
        omega
      · split
        · simp
          omega
        · simp
          omega

/-- A stored write is put at its offset, and counted. -/
theorem prepareWriteEventEnv_ok
    (hok : (prepareWriteEventEnv allocated param env).2 = .ok) :
    ∃ buf, (env.prepareBuf = some buf ∨ env.prepareBuf = none ∧ allocated = some buf) ∧
      (prepareWriteEventEnv allocated param env).1.prepareBuf = some (param.chunk.storeIn buf) ∧
      (prepareWriteEventEnv allocated param env).1.prepareLen =
        (if env.prepareBuf = none then 0 else env.prepareLen) + param.value.length := by
  unfold prepareWriteEventEnv at hok ⊢
  cases hbuf : env.prepareBuf with
  | none =>
      rw [hbuf] at hok
      cases allocated with
      | none => cases hok
      | some buf => exact ⟨buf, Or.inr ⟨rfl, rfl⟩, rfl, rfl⟩
  | some buf =>
      rw [hbuf] at hok
      dsimp only at hok ⊢
      split at hok
      · cases hok
      · split at hok
        · cases hok
        · rename_i hoffset hlength
          rw [if_neg hoffset, if_neg hlength]
          exact ⟨buf, Or.inl rfl, rfl, rfl⟩

/-- A write that is not stored leaves the buffer and its length, or no buffer. -/
theorem prepareWriteEventEnv_refused
    (hrefused : (prepareWriteEventEnv allocated param env).2 ≠ .ok) :
    (env.prepareBuf ≠ none ∧ (prepareWriteEventEnv allocated param env).1 = env) ∨
      (env.prepareBuf = none ∧
        (prepareWriteEventEnv allocated param env).1.prepareBuf = none ∧
        (prepareWriteEventEnv allocated param env).1.prepareLen = 0) := by
  unfold prepareWriteEventEnv at hrefused ⊢
  cases hbuf : env.prepareBuf with
  | none =>
      rw [hbuf] at hrefused
      cases allocated with
      | none => exact Or.inr ⟨rfl, rfl, rfl⟩
      | some buf => exact absurd rfl hrefused
  | some buf =>
      rw [hbuf] at hrefused
      dsimp only at hrefused ⊢
      split
      · exact Or.inl ⟨Option.some_ne_none buf, rfl⟩
      · split
        · exact Or.inl ⟨Option.some_ne_none buf, rfl⟩
        · rename_i hoffset hlength
          rw [if_neg hoffset, if_neg hlength] at hrefused
          exact absurd rfl hrefused

/-- The store of a prepared write, as a footprint on the buffer. -/
theorem hasFootprint_storeIn :
    HasFootprint (fun _ buf => param.chunk.storeIn buf)
      (fun _ => ⟨∅, block param.offset param.value.length⟩) where
  read := fun _ => ⟨rfl, fun _ _ _ => rfl⟩
  kept := fun _ buf _ hi => param.chunk.storeIn_outside buf (mt param.chunk.mem_addresses.mp hi)
  stored := by
    intro _ buf buf' i hi
    have haddress : i ∈ param.chunk.addresses := param.chunk.mem_addresses.mpr hi
    rw [param.chunk.storeIn_inside buf haddress, param.chunk.storeIn_inside buf' haddress]

theorem addresses_subset_range_iff (c : Chunk) (size : Nat) :
    c.addresses ⊆ Finset.range size ↔ block c.offset c.bytes.length ⊆ block 0 size := by
  constructor
  · intro h i hi
    have hlt := Finset.mem_range.mp (h (c.mem_addresses.mpr hi))
    exact ⟨Nat.zero_le i, by omega⟩
  · intro h i hi
    have hlt := (h (c.mem_addresses.mp hi)).2
    exact Finset.mem_range.mpr (by omega)

end Writes

section History

variable {handles : HandleTable} {t : PreparedHistory}

theorem covered_append (chunks : List Chunk) (c : Chunk) :
    covered (chunks ++ [c]) = covered chunks ∪ c.addresses := by
  ext i
  rw [mem_covered, Finset.mem_union, mem_covered]
  constructor
  · rintro ⟨d, hd, hi⟩
    rcases List.mem_append.mp hd with hold | hnew
    · exact Or.inl ⟨d, hold, hi⟩
    · rw [List.mem_singleton.mp hnew] at hi
      exact Or.inr hi
  · rintro (⟨d, hd, hi⟩ | hi)
    · exact ⟨d, List.mem_append_left _ hd, hi⟩
    · exact ⟨c, List.mem_append_right _ (List.mem_singleton_self c), hi⟩

theorem handleWriteEvent_prepareWriteEnv
    (inp : EnqueueInput) (allocated : Bool) (param : WriteParam) (s : BleState) :
    (handleWriteEvent handles inp allocated param s).prepareWriteEnv = s.prepareWriteEnv := by
  have himage : ∀ (payload : List UInt8) (s : BleState),
      (applyEepromPayload payload s).prepareWriteEnv = s.prepareWriteEnv := by
    intro payload s
    unfold applyEepromPayload
    split
    · rfl
    · rfl
  unfold handleWriteEvent
  dsimp only
  split
  · exact himage _ _
  · split
    · rfl
    · split
      · rfl
      · split
        · rfl
        · rfl

theorem gattsWrite_prepareWriteEnv
    (inp : EnqueueInput) (allocated : Bool) (param : WriteParam) (s : BleState) :
    (gattsWrite handles inp allocated param s).prepareWriteEnv = s.prepareWriteEnv := by
  unfold gattsWrite
  split
  · split
    · rfl
    · exact handleWriteEvent_prepareWriteEnv inp allocated param s
  · exact handleWriteEvent_prepareWriteEnv inp allocated param s

theorem Noted.held
    (h : Noted t) :
    t.held = t.written := by
  unfold PreparedHistory.held
  cases hbuf : t.env.prepareBuf with
  | none => exact (h.nothing hbuf).symm
  | some buf => rfl

/-- Other events leave environment and history. -/
theorem Noted.of_same
    (h : Noted t) {s : BleState} (hsame : s.prepareWriteEnv = t.server.prepareWriteEnv) :
    Noted ⟨s, t.written⟩ where
  length := (congrArg PrepareTypeEnv.prepareLen hsame).trans h.length
  inside := h.inside
  nothing := fun hnone => h.nothing ((congrArg PrepareTypeEnv.prepareBuf hsame).symm.trans hnone)

/-- A prepared write within the buffer is noted. -/
theorem Noted.prepareWrite
    (h : Noted t) {allocated : Option Memory} {param : WriteParam}
    (hbounds : PreparedInBounds (.gatts (.prepareWrite allocated param)) t) :
    Noted (notedStep handles (.gatts (.prepareWrite allocated param)) t) := by
  by_cases hok : (prepareWriteEventEnv allocated param t.env).2 = .ok
  · obtain ⟨buf, -, hbuf, hlen⟩ := prepareWriteEventEnv_ok hok
    have hwritten : t.writtenAfter (.gatts (.prepareWrite allocated param)) =
        t.written ++ [param.chunk] := by
      unfold PreparedHistory.writtenAfter
      dsimp only
      rw [if_pos hok, h.held]
    have hcount : (if t.env.prepareBuf = none then 0 else t.env.prepareLen) =
        totalLength t.written := by
      split
      · rename_i hnone
        rw [h.nothing hnone]
        rfl
      · exact h.length
    have hnext : notedStep handles (.gatts (.prepareWrite allocated param)) t =
        ⟨bleStep handles (.gatts (.prepareWrite allocated param)) t.server,
          t.written ++ [param.chunk]⟩ :=
      congrArg _ hwritten
    rw [hnext]
    refine ⟨?_, ?_, ?_⟩
    · show (prepareWriteEventEnv allocated param t.env).1.prepareLen = _
      rw [hlen, hcount]
      exact (totalLength_append t.written [param.chunk]).symm
    · show covered (t.written ++ [param.chunk]) ⊆ _
      rw [covered_append]
      exact Finset.union_subset h.inside
        ((addresses_subset_range_iff param.chunk _).mpr (hbounds hok))
    · intro hnone
      exact absurd (hbuf.symm.trans hnone) (Option.some_ne_none _)
  · have hwritten : t.writtenAfter (.gatts (.prepareWrite allocated param)) = t.written := by
      unfold PreparedHistory.writtenAfter
      dsimp only
      rw [if_neg hok, h.held]
    have hnext : notedStep handles (.gatts (.prepareWrite allocated param)) t =
        ⟨bleStep handles (.gatts (.prepareWrite allocated param)) t.server, t.written⟩ :=
      congrArg _ hwritten
    rw [hnext]
    rcases prepareWriteEventEnv_refused hok with ⟨-, hsame⟩ | ⟨hnone, -, hlen⟩
    · exact h.of_same hsame
    · have hempty := h.nothing hnone
      refine ⟨?_, h.inside, fun _ => hempty⟩
      show (prepareWriteEventEnv allocated param t.env).1.prepareLen = totalLength t.written
      rw [hlen, hempty]
      rfl

/-- An event whose stores stay in the buffer keeps the history true. -/
theorem Noted.step
    (h : Noted t) (e : BleEvent) (hbounds : PreparedInBounds e t) :
    Noted (notedStep handles e t) := by
  cases e with
  | gatts event =>
      cases event with
      | connect => exact h.of_same rfl
      | disconnect => exact h.of_same rfl
      | write inp allocated param =>
          exact h.of_same (gattsWrite_prepareWriteEnv inp allocated param t.server)
      | prepareWrite allocated param => exact h.prepareWrite hbounds
      | execWrite exec => exact ⟨rfl, Finset.empty_subset _, fun _ => rfl⟩
  | provTimeout =>
      refine h.of_same ?_
      unfold bleStep
      dsimp only
      split
      · rfl
      · rfl
  | setRuntimeReady ready => exact h.of_same rfl
  | task inp => exact h.of_same rfl
  | gotIp => exact h.of_same rfl
  | staDisconnected => exact h.of_same rfl

/-- What an event does is promised exactly when the client does its part. -/
theorem Noted.preparedInBounds_step
    (h : Noted t) (e : BleEvent) :
    PreparedInBounds e t ↔ PreparedFits e t := by
  cases e with
  | gatts event =>
      cases event with
      | prepareWrite allocated param =>
          unfold PreparedInBounds PreparedFits
          dsimp only
          rw [prepareWriteEventEnv_ok_iff, block_subset_block_iff]
          constructor
          · intro hbounds hnone hallocated
            rcases hbounds (Or.inl ⟨hnone, hallocated⟩) with hzero | hend
            · exact Or.inl hzero
            · exact Or.inr (by omega)
          · rintro hfits (⟨hnone, hallocated⟩ | ⟨-, hend⟩)
            · rcases hfits hnone hallocated with hzero | hend
              · exact Or.inl hzero
              · exact Or.inr ⟨Nat.zero_le _, by omega⟩
            · exact Or.inr ⟨Nat.zero_le _, by omega⟩
      | execWrite exec =>
          cases exec with
          | true =>
              unfold PreparedInBounds PreparedFits
              dsimp only
              rw [h.length, ← totalLength_eq_furthestEnd_iff]
              constructor
              · exact fun hbounds => hbounds.2
              · intro hend
                refine ⟨?_, hend⟩
                rw [hend, furthestEnd_le_iff]
                exact h.inside
          | false => exact Iff.rfl
      | _ => exact Iff.rfl
  | _ => exact Iff.rfl

/-- A prepared write changes the bytes of its value alone; and in every run from
the start, the prepared writes stay in their buffer and each execute finds the
end of the furthest byte, exactly when every first write fits and every execute
follows writes that store as much again as they leave out. -/
theorem preparedInBounds_iff
    (handles : HandleTable) (nvsSsid nvsPass : Option (List UInt8)) (es : List BleEvent) :
    (∀ param : WriteParam, HasFootprint (fun _ buf => param.chunk.storeIn buf)
        (fun _ => ⟨∅, block param.offset param.value.length⟩)) ∧
      (Along (notedStep handles) PreparedInBounds es ⟨.initial nvsSsid nvsPass, []⟩ ↔
        Along (notedStep handles) PreparedFits es ⟨.initial nvsSsid nvsPass, []⟩) := by
  refine ⟨fun _ => hasFootprint_storeIn, ?_⟩
  exact along_congr_of_invariant
    (fun e _ h hbounds => h.step e hbounds)
    (fun e _ h => h.preparedInBounds_step e) es
    (⟨rfl, Finset.empty_subset _, fun _ => rfl⟩ : Noted ⟨.initial nvsSsid nvsPass, []⟩)

/-- The first write of a buffer is stored behind its end. -/
theorem firstWrite_not_inBounds :
    ¬ Along (notedStep ⟨1, 2, 3, 4, 5⟩) PreparedInBounds
      [.gatts (.prepareWrite (some fun _ => 0) ⟨1, 1020, List.replicate 18 7⟩)]
      ⟨.initial none none, []⟩ := by
  rintro ⟨hbounds, -⟩
  have hstored := hbounds rfl
  have hlast := (hstored (⟨by decide, by decide⟩ : 1030 ∈ block 1020 18)).2
  exact absurd hlast (by decide)

end History

end Ble
end AvensysEsp32
