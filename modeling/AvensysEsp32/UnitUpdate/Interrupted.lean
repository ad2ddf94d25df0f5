import AvensysEsp32.UnitUpdate.HttpHandler

/-!
# Update checks that are interrupted

A check may deliver a part of the image only.  An error removes the file that
is being written; a connection that ends in any other way leaves it as it is,
and `HTTP_EVENT_ON_FINISH` closes it, whatever has been delivered.
-/

namespace AvensysEsp32
namespace UnitUpdate

open Foundation

/-! ## Interrupted sessions -/

/-- How a session ends before the whole image has been delivered. -/
inductive Ending
  | error
  | disconnected
  | finished
deriving DecidableEq, Repr

def Ending.events : Ending → List HttpEvent
  | .error => [.error]
  | .disconnected => [.disconnected]
  | .finished => [.onFinish, .disconnected]

/-- The events that the handler only logs. -/
def HttpEvent.onlyLogged : HttpEvent → Bool
  | .headerSent => true
  | .onHeader => true
  | .redirect => true
  | _ => false

/-- A session that is interrupted after some chunks. -/
structure Interruption where
  fopenOk : Bool
  chunks : List Chunk
  ending : Ending
  events : List HttpEvent
  /-- Apart from what is only logged, the client connects, delivers the chunks
  and ends. -/
  sequence :
    events.filter (fun e => !e.onlyLogged) =
      .onConnected fopenOk :: dataEvents fopenOk chunks ++ ending.events

/-- The file that the session leaves. -/
def Interruption.left (session : Interruption) (s : UpdateState) : Option (List UInt8) :=
  (run http1EventHandler session.events s).firmwareBin

/-- The chunks with which the session completes the three that are compared. -/
def Interruption.compared (session : Interruption) (s : UpdateState) : List Chunk :=
  session.chunks.take (3 - s.loadCounter)

/-- What is written in place of a stored file: as many bytes of `Buffer_Test`
as `Data_Counter` comes to, and the chunks after the comparison. -/
def Interruption.replacement (session : Interruption) (s : UpdateState) : List UInt8 :=
  let compared := bytesOf (session.compared s)
  readBytes (bufferOf s.bufferTest compared) 0
      (s.dataCounter + UInt16.ofNat compared.length).toNat ++
    bytesOf (session.chunks.drop (3 - s.loadCounter))

/-- The file that is left is absent, the previous one, or the server's image. -/
def Safe (session : Interruption) (body : List UInt8) (s : UpdateState) : Prop :=
  session.left s = none ∨ session.left s = s.firmwareBin ∨ session.left s = some body

/-- A stored file is kept: its version is zero, or too few chunks arrive to
compare it, or their version is the same. -/
def Kept (session : Interruption) (content : List UInt8) (s : UpdateState) : Prop :=
  storedVersion content s = 0 ∨ session.chunks.length < 3 - s.loadCounter ∨
    imageVersion (bytesOf (session.compared s)) = storedVersion content s

/-- The session ends with an error, or no file can be opened for writing, or a
stored file is kept or replaced by the same bytes or, by chance, by the whole
image. -/
def Harmless (session : Interruption) (body : List UInt8) (s : UpdateState) : Prop :=
  session.ending = .error ∨ session.fopenOk = false ∨
    ∃ content, s.firmwareBin = some content ∧
      (Kept session content s ∨ session.replacement s = content ∨
        session.replacement s = body)

/-! ## What is left -/

theorem run_filter_onlyLogged
    (events : List HttpEvent) (s : UpdateState) :
    run http1EventHandler (events.filter fun e => !e.onlyLogged) s =
      run http1EventHandler events s := by
  induction events generalizing s with
  | nil => rfl
  | cons e events ih =>
      cases hlogged : e.onlyLogged with
      | true =>
          have hstep : http1EventHandler e s = s := by
            cases e <;> first | rfl | cases hlogged
          rw [List.filter_cons_of_neg (by simp [hlogged]), run_cons, hstep]
          exact ih s
      | false =>
          rw [List.filter_cons_of_pos (by simp [hlogged]), run_cons, run_cons]
          exact ih _

section Left

variable (session : Interruption) {s : UpdateState}

/-- The state in which the session ends. -/
def Interruption.delivered (session : Interruption) (s : UpdateState) : UpdateState :=
  run http1EventHandler (dataEvents session.fopenOk session.chunks)
    (onConnected session.fopenOk s)

/-- An error removes the file that is open; the other endings keep it. -/
theorem left_eq :
    session.left s =
      if session.ending = .error ∧ (session.delivered s).fileOpened = true then none
      else (session.delivered s).firmwareBin := by
  have hrun : run http1EventHandler session.events s =
      run http1EventHandler session.ending.events (session.delivered s) := by
    rw [← run_filter_onlyLogged, session.sequence, List.cons_append, run_cons, run_append]
    rfl
  unfold Interruption.left
  rw [hrun]
  generalize session.delivered s = s'
  cases session.ending with
  | error =>
      simp only [Ending.events, run_cons, run_nil, http1EventHandler, true_and]
      unfold onError
      dsimp only
      split
      · rfl
      · rfl
  | disconnected =>
      simp only [Ending.events, run_cons, run_nil, http1EventHandler, reduceCtorEq, false_and,
        if_false]
  | finished =>
      simp only [Ending.events, run_cons, run_nil, http1EventHandler, reduceCtorEq, false_and,
        if_false]
      unfold onFinish
      dsimp only
      split
      · rfl
      · rfl

/-- Without a stored file the part delivered is written, if it can be. -/
theorem delivered_absent
    (hfile : s.firmwareBin = none) :
    (session.delivered s).fileOpened = session.fopenOk ∧
      (session.delivered s).firmwareBin =
        if session.fopenOk = true then some (bytesOf session.chunks) else none := by
  unfold Interruption.delivered
  cases session.fopenOk with
  | true =>
      rw [onConnected_absent hfile, run_dataEvents_stored true
        (s := { s with firmwareBin := some [], fileOpened := true, firmwareVersion := 0 })
        rfl rfl rfl]
      exact ⟨rfl, rfl⟩
  | false =>
      have hconnected : onConnected false s =
          { s with fileOpened := false, firmwareVersion := 0 } := by
        unfold onConnected
        rw [hfile]
        rfl
      rw [hconnected, run_dataEvents_ignored false
        (s := { s with fileOpened := false, firmwareVersion := 0 }) rfl rfl]
      exact ⟨rfl, hfile⟩

/-- Data leaves a stored file alone when it is kept. -/
theorem delivered_kept
    {content : List UInt8} (hfile : s.firmwareBin = some content) (hcounter : s.loadCounter < 3)
    (hkept : Kept session content s) :
    (session.delivered s).firmwareBin = some content := by
  obtain ⟨hv, hopened, hstored, hload, -, hcollected⟩ :=
    onConnected_stored session.fopenOk hfile
  unfold Interruption.delivered
  unfold Kept Interruption.compared at hkept
  rw [← hload] at hkept hcounter
  generalize onConnected session.fopenOk s = t at *
  by_cases hversion : storedVersion content s = 0
  · rw [run_dataEvents_ignored _ (hv.trans hversion) hopened, hstored]
  by_cases hfew : session.chunks.length < 3 - t.loadCounter
  · rw [run_dataEvents_few _ (hv ▸ hversion) session.chunks (by omega),
      (loadChunks_kept _ _).2.2, hstored]
  · have hsame := (hkept.resolve_left hversion).resolve_left hfew
    have hlength : (session.chunks.take (3 - t.loadCounter)).length = 3 - t.loadCounter := by
      rw [List.length_take]
      omega
    obtain ⟨hcompared, -⟩ := collected_loadChunks hcollected
      (session.chunks.take (3 - t.loadCounter)) (by simp)
    obtain ⟨hv', hopened', hstored'⟩ :=
      loadChunks_kept (session.chunks.take (3 - t.loadCounter)) t
    have hrun := run_dataEvents_compared session.fopenOk (hv ▸ hversion)
      (session.chunks.take (3 - t.loadCounter)) (List.ne_nil_of_length_pos (by omega)) (by omega)
      (session.chunks.drop (3 - t.loadCounter))
    rw [List.take_append_drop] at hrun
    rw [hrun]
    generalize loadChunks (session.chunks.take (3 - t.loadCounter)) t = loaded at *
    have hserver : versionOf loaded.bufferTest = loaded.firmwareVersion := by
      rw [hv', hv, ← hsame, hcompared.buffer]
      exact versionOf_congr fun i hi => bufferOf_inside _ _ hi
    rw [compareVersions_same _ hserver, run_dataEvents_ignored _ (s := { loaded with
      loadCounter := 0
      firmwareVersion := 0
      firmwareVersionServer := 0
      noUpdate := true }) rfl (hopened'.trans hopened)]
    exact hstored'.trans hstored

/-- Otherwise the stored file is replaced, if the new one can be written. -/
theorem delivered_replaced
    {content : List UInt8} (hfile : s.firmwareBin = some content) (hcounter : s.loadCounter < 3)
    (hkept : ¬ Kept session content s) :
    (session.delivered s).fileOpened = session.fopenOk ∧
      (session.delivered s).firmwareBin =
        if session.fopenOk = true then some (session.replacement s) else none := by
  obtain ⟨hv, hopened, hstored, hload, hdata, hcollected⟩ :=
    onConnected_stored session.fopenOk hfile
  unfold Interruption.delivered Interruption.replacement
  unfold Kept at hkept
  unfold Interruption.compared at *
  dsimp only
  rw [← hload] at hkept hcounter ⊢
  rw [← hdata]
  generalize onConnected session.fopenOk s = t at *
  obtain ⟨hversion, hkept⟩ := not_or.mp hkept
  obtain ⟨hmany, hdiffers⟩ := not_or.mp hkept
  have hlength : (session.chunks.take (3 - t.loadCounter)).length = 3 - t.loadCounter := by
    rw [List.length_take]
    omega
  obtain ⟨hcompared, hcount⟩ := collected_loadChunks hcollected
    (session.chunks.take (3 - t.loadCounter)) (by simp)
  rw [List.nil_append] at hcompared
  obtain ⟨hv', -, -⟩ := loadChunks_kept (session.chunks.take (3 - t.loadCounter)) t
  have hrun := run_dataEvents_compared session.fopenOk (hv ▸ hversion)
    (session.chunks.take (3 - t.loadCounter)) (List.ne_nil_of_length_pos (by omega)) (by omega)
    (session.chunks.drop (3 - t.loadCounter))
  rw [List.take_append_drop] at hrun
  rw [hrun]
  generalize loadChunks (session.chunks.take (3 - t.loadCounter)) t = loaded at *
  have hserver : versionOf loaded.bufferTest ≠ loaded.firmwareVersion := by
    rw [hv', hv, hcompared.buffer]
    intro h
    apply hdiffers
    rw [← h]
    exact versionOf_congr fun i hi => (bufferOf_inside _ _ hi).symm
  cases session.fopenOk with
  | true =>
      rw [compareVersions_replaced hserver, run_dataEvents_stored true (s := { loaded with
        firmwareBin := some (readBytes loaded.bufferTest 0 loaded.dataCounter.toNat)
        fileOpened := true
        loadCounter := 0
        firmwareVersion := 0
        firmwareVersionServer := 0 }) rfl rfl rfl]
      refine ⟨rfl, ?_⟩
      dsimp only
      rw [if_pos rfl, hcompared.buffer, hcount]
  | false =>
      rw [compareVersions_unopened hserver, run_dataEvents_ignored false (s := { loaded with
        firmwareBin := none
        fileOpened := false
        loadCounter := 0
        firmwareVersion := 0
        firmwareVersionServer := 0 }) rfl rfl]
      exact ⟨rfl, rfl⟩

end Left

/-! ## Before the session -/

/-- Fewer than three chunks wait for the comparison. -/
theorem http1EventHandler_loadCounter
    (evt : HttpEvent) (s : UpdateState) (hcounter : s.loadCounter < 3) :
    (http1EventHandler evt s).loadCounter < 3 := by
  cases evt with
  | error =>
      show (onError s).loadCounter < 3
      unfold onError
      dsimp only
      split
      · exact Nat.zero_lt_succ 2
      · exact hcounter
  | onConnected fopenOk =>
      show (onConnected fopenOk s).loadCounter < 3
      unfold onConnected
      cases s.firmwareBin with
      | none =>
          dsimp only
          split
          · exact hcounter
          · exact hcounter
      | some content => exact hcounter
  | headerSent => exact hcounter
  | onHeader => exact hcounter
  | onData data fopenOk =>
      by_cases hversion : s.firmwareVersion = 0
      · show (onData data fopenOk s).loadCounter < 3
        unfold onData
        rw [if_neg (not_not.mpr hversion)]
        split
        · exact hcounter
        · exact hcounter
      · by_cases hlast : s.loadCounter = 2
        · rw [onData_compared fopenOk hversion hlast]
          unfold compareVersions
          dsimp only
          split
          · exact Nat.zero_lt_succ 2
          · split
            · exact Nat.zero_lt_succ 2
            · exact Nat.zero_lt_succ 2
        · rw [onData_collected fopenOk hversion (by omega)]
          show s.loadCounter + 1 < 3
          omega
  | onFinish =>
      rw [show (http1EventHandler .onFinish s).loadCounter = s.loadCounter from
        (onFinish_kept s).2]
      exact hcounter
  | disconnected => exact hcounter
  | redirect => exact hcounter

theorem run_loadCounter
    (events : List HttpEvent) {s : UpdateState} (hcounter : s.loadCounter < 3) :
    (run http1EventHandler events s).loadCounter < 3 :=
  Along.invariant (fun evt s _ => http1EventHandler_loadCounter evt s)
    (Along.of_forall (p := fun _ _ => True) fun _ _ => trivial) hcounter

/-- A part of an image that goes on is not the whole of it. -/
theorem ne_append_cons (part more : List UInt8) (next : UInt8) :
    part ≠ part ++ next :: more := by
  intro h
  have := congrArg List.length h
  simp at this

/-- Whatever events have been handled since the start, and whatever part of the
image is delivered, an interrupted session is safe exactly when it is harmless. -/
theorem interrupted_safe_iff
    (firmwareBin : Option (List UInt8)) (behindBuffer : Memory) (events : List HttpEvent)
    (session : Interruption) (next : UInt8) (more : List UInt8) :
    let s := run http1EventHandler events (UpdateState.boot firmwareBin behindBuffer)
    let body := bytesOf session.chunks ++ next :: more
    Safe session body s ↔ Harmless session body s := by
  intro s body
  have hcounter : s.loadCounter < 3 := run_loadCounter events (Nat.zero_lt_succ 2)
  have hproper : bytesOf session.chunks ≠ body := ne_append_cons _ more next
  generalize s = s at *
  generalize body = body at *
  unfold Safe Harmless
  rw [left_eq]
  cases hfile : s.firmwareBin with
  | none =>
      obtain ⟨hopened, hleft⟩ := delivered_absent session hfile
      rw [hopened, hleft]
      cases session.fopenOk with
      | true => cases session.ending <;> simp [hproper]
      | false => simp
  | some content =>
      by_cases hkept : Kept session content s
      · have hleft := delivered_kept session hfile hcounter hkept
        rw [hleft]
        refine iff_of_true ?_ (Or.inr (Or.inr ⟨content, rfl, Or.inl hkept⟩))
        split
        · exact Or.inl rfl
        · exact Or.inr (Or.inl rfl)
      · obtain ⟨hopened, hleft⟩ := delivered_replaced session hfile hcounter hkept
        rw [hopened, hleft]
        cases session.fopenOk with
        | true => cases session.ending <;> simp [hkept]
        | false => simp

/-! ## A download that breaks off -/

section Example

/-- One chunk, and the end. -/
def oneChunk (chunk : Chunk) : Interruption where
  fopenOk := true
  chunks := [chunk]
  ending := .finished
  events := [.onConnected true, .headerSent, .onData chunk.data true, .onFinish, .disconnected]
  sequence := by
    cases chunk
    rfl

/-- Without a stored file the first chunk is left as the whole file. -/
theorem oneChunk_not_safe :
    ¬ Safe (oneChunk ⟨List.replicate 512 1, List.length_replicate.le⟩) (List.replicate 1536 1)
        (UpdateState.boot none fun _ => 0) := by
  unfold Safe Interruption.left
  decide +kernel

end Example

end UnitUpdate
end AvensysEsp32
