import AvensysEsp32.UnitUpdate.HttpHandler

/-!
# Update checks that complete

A session is a check that delivers the server's whole image.  `Data_Counter` is
set to zero nowhere: a check that finds the same version leaves the number of
the bytes that it compared, and the next check that replaces the file begins it
with as many bytes more.
-/

namespace AvensysEsp32
namespace UnitUpdate

open Foundation

/-! ## Sessions -/

/-- The chunks of a body of at least 1536 bytes, the first three of which reach
past the version. -/
structure Session where
  first : Chunk
  second : Chunk
  third : Chunk
  rest : List Chunk
  covered : 1174 ≤ (bytesOf [first, second, third]).length
  whole : 1536 ≤ (bytesOf (first :: second :: third :: rest)).length

namespace Session

variable (session : Session)

def chunks : List Chunk :=
  session.first :: session.second :: session.third :: session.rest

/-- The server's image. -/
def body : List UInt8 :=
  bytesOf session.chunks

/-- The bytes of the image that are compared. -/
def compared : List UInt8 :=
  bytesOf [session.first, session.second, session.third]

def events : List HttpEvent :=
  .onConnected true :: dataEvents true session.chunks ++ [.onFinish]

theorem body_eq :
    session.body = session.compared ++ bytesOf session.rest := by
  simp [body, chunks, compared, List.append_assoc]

theorem length_compared_le :
    session.compared.length ≤ bufferTestSize :=
  length_bytesOf_le [session.first, session.second, session.third]

end Session

/-- A whole update check. -/
def sessionStep (session : Session) (s : UpdateState) : UpdateState :=
  run http1EventHandler session.events s

/-- The version bytes of an image, if it reaches so far. -/
def versionBytes (content : List UInt8) : Option UInt8 × Option UInt8 :=
  (content[1172]?, content[1173]?)

/-- The check leaves the server's image, unless the version bytes of the stored
file are the same: then the file is unchanged. -/
def Reproduced (session : Session) (s : UpdateState) : Prop :=
  match s.firmwareBin with
  | none => (sessionStep session s).firmwareBin = some session.body
  | some content =>
      if versionBytes content = versionBytes session.body then
        (sessionStep session s).firmwareBin = some content
      else (sessionStep session s).firmwareBin = some session.body

/-- No file is stored, or one with the same version bytes, or one whose version
is not zero and not the server's, and no bytes of an earlier comparison are
counted. -/
def Replaceable (session : Session) (s : UpdateState) : Prop :=
  match s.firmwareBin with
  | none => True
  | some content =>
      versionBytes content = versionBytes session.body ∨
        (storedVersion content s ≠ 0 ∧ storedVersion content s ≠ imageVersion session.body ∧
          s.dataCounter = 0)

instance (session : Session) (s : UpdateState) : Decidable (Replaceable session s) :=
  match hfile : s.firmwareBin with
  | none =>
      isTrue (by
        unfold Replaceable
        rw [hfile]
        trivial)
  | some content =>
      decidable_of_iff
        (versionBytes content = versionBytes session.body ∨
          (storedVersion content s ≠ 0 ∧ storedVersion content s ≠ imageVersion session.body ∧
            s.dataCounter = 0))
        (by
          unfold Replaceable
          rw [hfile])

/-! ## What a session leaves -/

section Outcome

variable (session : Session) {s : UpdateState} {content : List UInt8}

theorem sessionStep_eq (s : UpdateState) :
    sessionStep session s =
      onFinish (run http1EventHandler (dataEvents true session.chunks) (onConnected true s)) := by
  unfold sessionStep Session.events
  rw [List.cons_append, run_cons, run_append]
  rfl

/-- The version compared is that of the body. -/
theorem imageVersion_body :
    imageVersion session.body = imageVersion session.compared := by
  have hcovered := session.covered
  have hbyte : ∀ i < 1174, ofBytes session.body i = ofBytes session.compared i := by
    intro i hi
    have hlt : i < session.compared.length := lt_of_lt_of_le hi hcovered
    rw [session.body_eq, ofBytes_of_lt hlt, ofBytes_of_lt (by simp; omega),
      List.getElem_append_left hlt]
  unfold imageVersion versionOf
  rw [hbyte 1172 (by decide), hbyte 1173 (by decide)]

/-- Without a stored file the body is stored. -/
theorem sessionStep_absent
    (hfile : s.firmwareBin = none) :
    (sessionStep session s).firmwareBin = some session.body ∧
      (sessionStep session s).loadCounter = s.loadCounter := by
  obtain ⟨hkept, hcounter⟩ := onFinish_kept
    (run http1EventHandler (dataEvents true session.chunks) (onConnected true s))
  have hrun := run_dataEvents_stored true
    (s := { s with firmwareBin := some [], fileOpened := true, firmwareVersion := 0 })
    rfl rfl rfl session.chunks
  rw [onConnected_absent hfile, hrun] at hkept hcounter
  rw [sessionStep_eq, onConnected_absent hfile, hrun, hkept, hcounter]
  exact ⟨rfl, rfl⟩

/-- A stored file whose version is zero is kept. -/
theorem sessionStep_unversioned
    (hfile : s.firmwareBin = some content) (hversion : storedVersion content s = 0) :
    (sessionStep session s).firmwareBin = some content ∧
      (sessionStep session s).loadCounter = s.loadCounter := by
  obtain ⟨hv, hopened, hstored, hload, -⟩ := onConnected_stored true hfile
  have hrun := run_dataEvents_ignored true (hv.trans hversion) hopened session.chunks
  obtain ⟨hkept, hcounter⟩ := onFinish_kept (onConnected true s)
  rw [sessionStep_eq, hrun, hkept, hcounter]
  exact ⟨hstored, hload⟩

/-- A stored file with another version is compared after three chunks. -/
theorem sessionStep_compared
    (hfile : s.firmwareBin = some content) (hversion : storedVersion content s ≠ 0)
    (hcounter : s.loadCounter = 0) :
    let loaded := loadChunks [session.first, session.second, session.third] (onConnected true s)
    sessionStep session s =
        onFinish (run http1EventHandler (dataEvents true session.rest)
          (compareVersions true loaded)) ∧
      loaded.firmwareVersion = storedVersion content s ∧
      loaded.fileOpened = false ∧
      loaded.firmwareBin = some content ∧
      versionOf loaded.bufferTest = imageVersion session.body ∧
      loaded.bufferTest = bufferOf s.bufferTest session.compared ∧
      loaded.dataCounter = s.dataCounter + UInt16.ofNat session.compared.length := by
  obtain ⟨hv, hopened, hstored, hload, hdata, hcollected⟩ := onConnected_stored true hfile
  obtain ⟨hcompared, hcount⟩ := collected_loadChunks hcollected
    [session.first, session.second, session.third] (by simp)
  obtain ⟨hv', hopened', hstored'⟩ := loadChunks_kept
    [session.first, session.second, session.third] (onConnected true s)
  have hrun := run_dataEvents_compared true (hv ▸ hversion)
    [session.first, session.second, session.third] (List.cons_ne_nil _ _)
    (by rw [hload, hcounter]; rfl) session.rest
  refine ⟨?_, hv'.trans hv, hopened'.trans hopened, hstored'.trans hstored, ?_,
    hcompared.buffer, ?_⟩
  · rw [sessionStep_eq]
    exact congrArg onFinish hrun
  · rw [imageVersion_body]
    refine versionOf_congr fun i hi => ?_
    rw [hcompared.buffer]
    exact bufferOf_inside _ _ hi
  · rw [hcount, hdata]
    rfl

/-- A stored file with the server's version is kept. -/
theorem sessionStep_same
    (hfile : s.firmwareBin = some content) (hversion : storedVersion content s ≠ 0)
    (hcounter : s.loadCounter = 0)
    (hsame : storedVersion content s = imageVersion session.body) :
    (sessionStep session s).firmwareBin = some content ∧
      (sessionStep session s).loadCounter = 0 := by
  obtain ⟨hrun, hv, hopened, hstored, hserver, -, -⟩ :=
    sessionStep_compared session hfile hversion hcounter
  have hcompare := compareVersions_same true (hserver.trans (hsame.symm.trans hv.symm))
  rw [hcompare] at hrun
  have hrest := run_dataEvents_ignored true (s := { loadChunks [session.first, session.second,
    session.third] (onConnected true s) with
      loadCounter := 0
      firmwareVersion := 0
      firmwareVersionServer := 0
      noUpdate := true }) rfl hopened session.rest
  rw [hrest] at hrun
  rw [hrun]
  obtain ⟨hkept, hload⟩ := onFinish_kept { loadChunks [session.first, session.second,
    session.third] (onConnected true s) with
      loadCounter := 0
      firmwareVersion := 0
      firmwareVersionServer := 0
      noUpdate := true }
  exact ⟨hkept.trans hstored, hload⟩

/-- A stored file with another version is replaced: by as many bytes as are
counted, and the rest of the body. -/
theorem sessionStep_replaced
    (hfile : s.firmwareBin = some content) (hversion : storedVersion content s ≠ 0)
    (hcounter : s.loadCounter = 0)
    (hdiffers : storedVersion content s ≠ imageVersion session.body) :
    (sessionStep session s).firmwareBin =
        some (readBytes (bufferOf s.bufferTest session.compared) 0
          (s.dataCounter + UInt16.ofNat session.compared.length).toNat ++
            bytesOf session.rest) ∧
      (sessionStep session s).loadCounter = 0 := by
  obtain ⟨hrun, hv, hopened, hstored, hserver, hbuffer, hdata⟩ :=
    sessionStep_compared session hfile hversion hcounter
  have hcompare := compareVersions_replaced
    (s := loadChunks [session.first, session.second, session.third] (onConnected true s))
    (by rw [hserver, hv]; exact hdiffers.symm)
  generalize loadChunks [session.first, session.second, session.third] (onConnected true s) = loaded
    at *
  rw [hcompare] at hrun
  have hrest := run_dataEvents_stored true (s := { loaded with
    firmwareBin := some (readBytes loaded.bufferTest 0 loaded.dataCounter.toNat)
    fileOpened := true
    loadCounter := 0
    firmwareVersion := 0
    firmwareVersionServer := 0 }) rfl rfl rfl session.rest
  rw [hrest] at hrun
  obtain ⟨hkept, hload⟩ := onFinish_kept { loaded with
    firmwareBin := some (readBytes loaded.bufferTest 0 loaded.dataCounter.toNat ++
      bytesOf session.rest)
    fileOpened := true
    loadCounter := 0
    firmwareVersion := 0
    firmwareVersionServer := 0 }
  rw [hrun]
  refine ⟨?_, hload⟩
  rw [hkept, hdata, hbuffer]

/-- What replaces the file is the body exactly when nothing else is counted. -/
theorem replaced_eq_body_iff
    (behind : Memory) (dataCounter : UInt16) :
    readBytes (bufferOf behind session.compared) 0
          (dataCounter + UInt16.ofNat session.compared.length).toNat ++
        bytesOf session.rest = session.body ↔
      dataCounter = 0 := by
  have hlength := session.length_compared_le
  simp only [bufferTestSize] at hlength
  have hnat : (dataCounter + UInt16.ofNat session.compared.length).toNat =
      (dataCounter.toNat + session.compared.length) % 65536 := by
    simp [UInt16.toNat_add]
  have hlt := dataCounter.toNat_lt
  rw [session.body_eq]
  constructor
  · intro h
    have hsame := congrArg List.length h
    simp only [List.length_append, length_readBytes] at hsame
    rw [hnat] at hsame
    apply UInt16.toNat.inj
    show dataCounter.toNat = 0
    omega
  · rintro rfl
    have hcount : ((0 : UInt16) + UInt16.ofNat session.compared.length).toNat =
        session.compared.length := by
      rw [hnat]
      show (0 + session.compared.length) % 65536 = session.compared.length
      omega
    rw [hcount, readBytes_bufferOf _ session.length_compared_le]

/-- Equal version bytes give equal versions. -/
theorem storedVersion_of_versionBytes
    (h : versionBytes content = versionBytes session.body) :
    storedVersion content s = imageVersion session.body := by
  have hwhole : 1536 ≤ session.body.length := session.whole
  have hpair := Prod.mk.inj h
  have hbyte : ∀ i, i < 1536 → content[i]? = session.body[i]? →
      freadBufferTest content s.bufferTest i = ofBytes session.body i := by
    intro i hi hget
    have hbody : i < session.body.length := by omega
    rw [List.getElem?_eq_getElem hbody] at hget
    obtain ⟨hcontent, hvalue⟩ := List.getElem?_eq_some_iff.mp hget
    unfold freadBufferTest
    rw [memcpy_inside _ _ _ _ _ ⟨Nat.zero_le _, by simp only [bufferTestSize]; omega⟩,
      Nat.zero_add, Nat.sub_zero, ofBytes_of_lt hcontent, ofBytes_of_lt hbody, hvalue]
  unfold storedVersion imageVersion versionOf
  rw [hbyte 1172 (by decide) hpair.1, hbyte 1173 (by decide) hpair.2]

/-- A whole check is right exactly when the stored file can be kept or replaced. -/
theorem reproduced_iff_replaceable
    (hcounter : s.loadCounter = 0) :
    Reproduced session s ↔ Replaceable session s := by
  unfold Reproduced Replaceable
  cases hfile : s.firmwareBin with
  | none => exact iff_of_true (sessionStep_absent session hfile).1 trivial
  | some content =>
      dsimp only
      by_cases hbytes : versionBytes content = versionBytes session.body
      · rw [if_pos hbytes]
        refine iff_of_true ?_ (Or.inl hbytes)
        by_cases hversion : storedVersion content s = 0
        · exact (sessionStep_unversioned session hfile hversion).1
        · exact (sessionStep_same session hfile hversion hcounter
            (storedVersion_of_versionBytes session hbytes)).1
      · have hne : some content ≠ some session.body := by
          intro h
          exact hbytes (congrArg versionBytes (Option.some.inj h))
        rw [if_neg hbytes]
        by_cases hversion : storedVersion content s = 0
        · rw [(sessionStep_unversioned session hfile hversion).1]
          simp [hne, hbytes, hversion]
        · by_cases hsame : storedVersion content s = imageVersion session.body
          · rw [(sessionStep_same session hfile hversion hcounter hsame).1]
            simp [hne, hbytes, hsame]
          · obtain ⟨hreplaced, -⟩ :=
              sessionStep_replaced session hfile hversion hcounter hsame
            rw [hreplaced, Option.some.injEq, replaced_eq_body_iff session]
            simp [hbytes, hversion, hsame]

/-- After a whole check no chunk is waiting to be compared. -/
theorem sessionStep_loadCounter
    (s : UpdateState) (hcounter : s.loadCounter = 0) :
    (sessionStep session s).loadCounter = 0 := by
  cases hfile : s.firmwareBin with
  | none => rw [(sessionStep_absent session hfile).2, hcounter]
  | some content =>
      by_cases hversion : storedVersion content s = 0
      · rw [(sessionStep_unversioned session hfile hversion).2, hcounter]
      · by_cases hsame : storedVersion content s = imageVersion session.body
        · exact (sessionStep_same session hfile hversion hcounter hsame).2
        · obtain ⟨-, hload⟩ :=
            sessionStep_replaced session hfile hversion hcounter hsame
          exact hload

end Outcome

/-- In every sequence of whole checks within one boot, every check is right
exactly when each finds a stored file that it can keep or replace. -/
theorem sessions_reproduce_iff
    (firmwareBin : Option (List UInt8)) (behindBuffer : Memory) (sessions : List Session) :
    Along sessionStep Reproduced sessions (UpdateState.boot firmwareBin behindBuffer) ↔
      Along sessionStep Replaceable sessions (UpdateState.boot firmwareBin behindBuffer) :=
  along_congr_of_invariant (fun session s hs _ => sessionStep_loadCounter session s hs)
    (fun session _ => reproduced_iff_replaceable session) sessions rfl

/-! ## A version that changes later -/

section Example

/-- A chunk of 512 equal bytes. -/
def fullChunk (b : UInt8) : Chunk where
  data := List.replicate 512 b
  length_le := by rw [List.length_replicate]

/-- The server's image holds the byte everywhere. -/
def imageOf (b : UInt8) : Session where
  first := fullChunk b
  second := fullChunk b
  third := fullChunk b
  rest := []
  covered := by
    simp only [bytesOf, fullChunk, List.flatMap_cons, List.flatMap_nil, List.length_append,
      List.length_replicate, List.length_nil]
    decide
  whole := by
    simp only [bytesOf, fullChunk, List.flatMap_cons, List.flatMap_nil, List.length_append,
      List.length_replicate, List.length_nil]
    decide

/-- Downloaded, found up to date, and then out of date: the second image is
stored with 1536 bytes that are not its own. -/
theorem laterVersion_not_reproduced :
    ¬ Along sessionStep Reproduced [imageOf 1, imageOf 1, imageOf 2]
        (UpdateState.boot none fun _ => 0) := by
  rw [along_congr_of_invariant (fun session s hs _ => sessionStep_loadCounter session s hs)
    (fun session _ => reproduced_iff_replaceable session) _ rfl]
  decide +kernel

end Example

end UnitUpdate
end AvensysEsp32
