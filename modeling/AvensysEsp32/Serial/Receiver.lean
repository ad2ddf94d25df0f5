import AvensysEsp32.Foundation.Machine
import AvensysEsp32.Serial.WbmSerial

/-!
# The receiver over runs

The UART event task and the callers of `Read_Message` share one cache.  A run
is any order of arrivals and calls.  The claim of `Serial_available` points
into the cache that the next arrival overwrites, and a claim of 128 bytes is
never read, since `Read_Message` downloads the number of bytes modulo 128.
-/

namespace AvensysEsp32
namespace Serial

open Foundation

inductive RxEvent
  | uartData (w : List UInt8)
  | readMessage

/-- The effect of an event. -/
def rxStep (e : RxEvent) (p : SerialPort) : SerialPort :=
  match e with
  | .uartData w => uartEventTask w p
  | .readMessage => (readMessage p).2

/-! ## Reachable states -/

/-- A claim is unread, and announced unless it fills the cache. -/
structure Settled (p : SerialPort) : Prop where
  unread : p.rxClaimPos = 0
  availableFits : p.rxAvailable ≤ uart1RxCacheSize
  claimFits : p.rxClaimLen ≤ uart1RxCacheSize
  pointer : 0 < p.rxClaimLen → p.rxPtr = true
  tail : p.rxBufTail = 0 ∨ p.rxBufTail = p.rxClaimLen
  announced : p.rxClaimLen < uart1RxCacheSize → p.rxBufTail = p.rxClaimLen

theorem settled_boot :
    Settled SerialPort.boot where
  unread := rfl
  availableFits := Nat.zero_le _
  claimFits := Nat.zero_le _
  pointer := fun h => absurd h (by decide)
  tail := Or.inl rfl
  announced := fun _ => rfl

section Calls

variable {p : SerialPort}

theorem checkMessage_le
    (buff : Memory) (len : Nat) :
    checkMessage buff len ≤ len := by
  unfold checkMessage
  dsimp only
  split
  · exact le_trans (by decide : errorHeadMessage ≤ 0) (Int.natCast_nonneg _)
  · split
    · exact le_trans (by decide : errorLenMessage ≤ 0) (Int.natCast_nonneg _)
    · split
      · exact le_trans (by decide : errorCksum16 ≤ 0) (Int.natCast_nonneg _)
      · exact le_refl _

/-- Judging a message reports no more than its length and does not touch the
receive cache. -/
theorem classifyMessage_spec
    (len : Nat) (p : SerialPort) :
    (classifyMessage len p).1 ≤ len ∧
      ∃ bootloaderMode ackReceived,
        (classifyMessage len p).2 =
          { p with
            numbytesReceived := len
            bootloaderMode := bootloaderMode
            ackReceived := ackReceived } := by
  unfold classifyMessage
  dsimp only
  split
  · exact ⟨le_refl _, true, p.ackReceived, rfl⟩
  · split
    · exact ⟨le_refl _, p.bootloaderMode, true, rfl⟩
    · exact ⟨checkMessage_le _ _, p.bootloaderMode, p.ackReceived, rfl⟩

theorem Settled.uartEventTask
    (h : Settled p) (w : List UInt8) :
    Settled (uartEventTask w p) where
  unread := h.unread
  availableFits := Nat.min_le_right _ _
  claimFits := h.claimFits
  pointer := h.pointer
  tail := h.tail
  announced := h.announced

/-- The message that a claim shows. -/
def claimedMessage (p : SerialPort) : List UInt8 :=
  readBytes p.rxCache 0 p.rxClaimLen

@[simp] theorem length_claimedMessage (p : SerialPort) :
    (claimedMessage p).length = p.rxClaimLen :=
  length_readBytes _ _ _

theorem Settled.claimed
    (h : Settled p) (hpos : 0 < p.rxClaimLen) (hlt : p.rxClaimLen < uart1RxCacheSize) :
    Claimed (claimedMessage p) p where
  claimed := (length_claimedMessage p).symm
  unread := h.unread
  pointer := h.pointer hpos
  announced := (h.announced hlt).trans (length_claimedMessage p).symm
  cached := by
    intro i hi
    rw [length_claimedMessage] at hi
    unfold claimedMessage
    rw [ofBytes_of_lt (by simpa using hi), getElem_readBytes, Nat.zero_add]

/-- A claim that does not fill the cache is downloaded by the next call. -/
theorem readMessage_claim
    (h : Settled p) (hpos : 0 < p.rxClaimLen) (hlt : p.rxClaimLen < uart1RxCacheSize) :
    readMessage p = (verdict (claimedMessage p), p.received (claimedMessage p)) :=
  readMessage_claimed (h.claimed hpos hlt) (by simpa using hpos) (by simpa using hlt)

/-- Without a claim and without data nothing changes. -/
theorem readMessage_nothing
    (h : Settled p) (hclaim : p.rxClaimLen = 0) (havailable : p.rxAvailable = 0) :
    readMessage p = (bufferRxEmpy, { p with rxClaimLen := 0, rxClaimPos := 0 }) :=
  readMessage_idle ⟨havailable, by rw [hclaim]; exact Nat.zero_le _,
    (h.announced (by rw [hclaim]; decide)).trans hclaim⟩

/-- Without a claim, data is claimed and announced. -/
theorem readMessage_notice
    (h : Settled p) (hclaim : p.rxClaimLen = 0) (havailable : 0 < p.rxAvailable) :
    readMessage p = (runDownload, p.noticed p.rxAvailable) := by
  have harrived : Arrived (readBytes p.rxCache 0 p.rxAvailable) p := by
    refine ⟨(length_readBytes _ _ _).symm, by rw [hclaim]; exact Nat.zero_le _,
      (h.announced (by rw [hclaim]; decide)).trans hclaim, ?_⟩
    intro i hi
    rw [length_readBytes] at hi
    rw [ofBytes_of_lt (by simpa using hi), getElem_readBytes, Nat.zero_add]
  have hread := readMessage_arrived harrived (by simpa using havailable)
    (by simpa using h.availableFits)
  rwa [length_readBytes] at hread

/-- A claim that fills the cache stays available. -/
theorem serialAvailable_full
    (h : Settled p) (hfull : p.rxClaimLen = uart1RxCacheSize) :
    serialAvailable p = (uart1RxCacheSize, p) := by
  have hclaim : p.rxClaimPos < p.rxClaimLen := by
    rw [h.unread, hfull]
    decide
  unfold serialAvailable
  rw [if_pos hclaim, hfull, h.unread, Nat.sub_zero]

/-- It is announced. -/
theorem readMessage_announce
    (h : Settled p) (hfull : p.rxClaimLen = uart1RxCacheSize) (htail : p.rxBufTail = 0) :
    readMessage p = (runDownload, { p with rxBufTail := uart1RxCacheSize }) := by
  unfold readMessage
  rw [serialAvailable_full h hfull]
  dsimp only
  rw [htail]
  rfl

/-- It is downloaded: no byte of it. -/
theorem readMessage_dismiss
    (h : Settled p) (hfull : p.rxClaimLen = uart1RxCacheSize)
    (htail : p.rxBufTail = uart1RxCacheSize) :
    readMessage p = classifyMessage 0
      { p with rxBufTail := 0, buffSer1 := memset p.buffSer1 0 0 rxBufferSize } := by
  unfold readMessage
  rw [serialAvailable_full h hfull]
  dsimp only
  rw [htail]
  rfl

/-- A claim that fills the cache is announced and dismissed in turn, and never
read. -/
theorem readMessage_full
    (h : Settled p) (hfull : p.rxClaimLen = uart1RxCacheSize) :
    (readMessage p).2.rxClaimLen = uart1RxCacheSize ∧
      (readMessage p).2.rxClaimPos = 0 ∧
      (readMessage p).2.rxAvailable = p.rxAvailable ∧
      (readMessage p).2.rxPtr = p.rxPtr ∧
      ((readMessage p).2.rxBufTail = 0 ∨ (readMessage p).2.rxBufTail = uart1RxCacheSize) ∧
      (readMessage p).1 ≤ runDownload := by
  rcases h.tail with htail | htail
  · rw [readMessage_announce h hfull htail]
    exact ⟨hfull, h.unread, rfl, rfl, Or.inr rfl, le_refl _⟩
  · obtain ⟨hle, bootloaderMode, ackReceived, hport⟩ := classifyMessage_spec 0 { p with
      rxBufTail := 0
      buffSer1 := memset p.buffSer1 0 0 rxBufferSize }
    rw [readMessage_dismiss h hfull (htail.trans hfull), hport]
    exact ⟨hfull, h.unread, rfl, rfl, Or.inl rfl, le_trans hle (by decide)⟩

theorem Settled.readMessage
    (h : Settled p) :
    Settled (readMessage p).2 := by
  rcases Nat.eq_zero_or_pos p.rxClaimLen with hclaim | hclaim
  · rcases Nat.eq_zero_or_pos p.rxAvailable with havailable | havailable
    · have htail := (h.announced (by rw [hclaim]; decide)).trans hclaim
      rw [readMessage_nothing h hclaim havailable]
      exact ⟨rfl, h.availableFits, Nat.zero_le _, fun hpos => absurd hpos (lt_irrefl 0),
        Or.inl htail,
        fun _ => htail⟩
    · rw [readMessage_notice h hclaim havailable]
      exact ⟨rfl, Nat.zero_le _, h.availableFits, fun _ => rfl, Or.inr rfl, fun _ => rfl⟩
  · rcases Nat.lt_or_ge p.rxClaimLen uart1RxCacheSize with hlt | hge
    · rw [readMessage_claim h hclaim hlt]
      exact ⟨rfl, h.availableFits, Nat.zero_le _, fun hpos => absurd hpos (lt_irrefl 0), Or.inl rfl,
        fun _ => rfl⟩
    · obtain ⟨hlen, hpos, havail, hptr, htail, -⟩ :=
        readMessage_full h (le_antisymm h.claimFits hge)
      refine ⟨hpos, by rw [havail]; exact h.availableFits, hlen.le,
        fun _ => by rw [hptr]; exact h.pointer hclaim, ?_, ?_⟩
      · rw [hlen]
        exact htail
      · intro hlt
        rw [hlen] at hlt
        exact absurd hlt (lt_irrefl _)

/-- A call does not make anything longer. -/
theorem readMessage_bounds
    (h : Settled p) :
    (readMessage p).2.rxAvailable ≤ p.rxAvailable ∧
      (readMessage p).2.rxClaimLen ≤ max p.rxClaimLen p.rxAvailable := by
  rcases Nat.eq_zero_or_pos p.rxClaimLen with hclaim | hclaim
  · rcases Nat.eq_zero_or_pos p.rxAvailable with havailable | havailable
    · rw [readMessage_nothing h hclaim havailable]
      exact ⟨le_refl _, Nat.zero_le _⟩
    · rw [readMessage_notice h hclaim havailable]
      exact ⟨Nat.zero_le _, le_max_right _ _⟩
  · rcases Nat.lt_or_ge p.rxClaimLen uart1RxCacheSize with hlt | hge
    · rw [readMessage_claim h hclaim hlt]
      exact ⟨le_refl _, Nat.zero_le _⟩
    · have hfull := le_antisymm h.claimFits hge
      obtain ⟨hlen, -, havail, -⟩ := readMessage_full h hfull
      rw [hlen, havail, hfull]
      exact ⟨le_refl _, le_max_left _ _⟩

theorem Settled.rxStep
    (h : Settled p) (e : RxEvent) :
    Settled (rxStep e p) := by
  cases e with
  | uartData w => exact h.uartEventTask w
  | readMessage => exact h.readMessage

theorem Settled.run
    (h : Settled p) (events : List RxEvent) :
    Settled (run Serial.rxStep events p) :=
  Along.invariant (fun e _ _ hp => hp.rxStep e)
    (Along.of_forall (p := fun _ _ => True) fun _ _ => trivial) h

end Calls

/-! ## Draining -/

/-- Nothing is available, claimed or announced. -/
structure Drained (p : SerialPort) : Prop where
  nothingAvailable : p.rxAvailable = 0
  nothingClaimed : p.rxClaimLen = 0
  claimRead : p.rxClaimPos = 0
  nothingAnnounced : p.rxBufTail = 0

/-- 128 bytes are claimed, or will be. -/
def Jammed (p : SerialPort) : Prop :=
  p.rxClaimLen = uart1RxCacheSize ∨ p.rxAvailable = uart1RxCacheSize

section Draining

variable {p : SerialPort}

/-- What fills the cache is never got rid of. -/
theorem Jammed.readMessage
    (hjammed : Jammed p) (h : Settled p) :
    Jammed (readMessage p).2 := by
  rcases Nat.lt_or_ge p.rxClaimLen uart1RxCacheSize with hlt | hge
  · have havailable := hjammed.resolve_left (ne_of_lt hlt)
    rcases Nat.eq_zero_or_pos p.rxClaimLen with hclaim | hclaim
    · rw [readMessage_notice h hclaim (by rw [havailable]; decide)]
      exact Or.inl havailable
    · rw [readMessage_claim h hclaim hlt]
      exact Or.inr havailable
  · exact Or.inl (readMessage_full h (le_antisymm h.claimFits hge)).1

theorem not_drained_of_jammed
    (hjammed : Jammed p) :
    ¬ Drained p := by
  intro hdrained
  rcases hjammed with hclaim | havailable
  · exact absurd (hclaim.symm.trans hdrained.nothingClaimed) (by decide)
  · exact absurd (havailable.symm.trans hdrained.nothingAvailable) (by decide)

theorem jammed_iterate
    (k : Nat) (hjammed : Jammed p) (h : Settled p) :
    Jammed ((fun p => (readMessage p).2)^[k] p) := by
  induction k generalizing p with
  | zero => exact hjammed
  | succ k ih => exact ih (hjammed.readMessage h) h.readMessage

/-- Data that finds no claim is claimed by the first call and downloaded by the
second. -/
theorem drained_of_available
    (h : Settled p) (hclaim : p.rxClaimLen = 0) (hpos : 0 < p.rxAvailable)
    (hlt : p.rxAvailable < uart1RxCacheSize) :
    Drained (readMessage (readMessage p).2).2 := by
  have hnoticed := h.readMessage
  rw [readMessage_notice h hclaim hpos] at hnoticed ⊢
  rw [readMessage_claim hnoticed hpos hlt]
  exact ⟨rfl, rfl, rfl, rfl⟩

/-- After an arrival the receiver is drained by a number of calls exactly when
neither it nor the message that is claimed fills the cache. -/
theorem drains_iff
    (h : Settled p) {w : List UInt8} (hw : 0 < w.length) :
    (∃ k, Drained ((fun p => (readMessage p).2)^[k] (uartEventTask w p))) ↔
      w.length < uart1RxCacheSize ∧ p.rxClaimLen < uart1RxCacheSize := by
  have harrived := h.uartEventTask w
  have hclaim : (uartEventTask w p).rxClaimLen = p.rxClaimLen := rfl
  have havailable : (uartEventTask w p).rxAvailable = min w.length uart1RxCacheSize := rfl
  generalize uartEventTask w p = p' at *
  constructor
  · rintro ⟨k, hdrained⟩
    by_contra hsmall
    refine not_drained_of_jammed (jammed_iterate k ?_ harrived) hdrained
    rcases not_and_or.mp hsmall with hlong | hfull
    · exact Or.inr (havailable.trans (Nat.min_eq_right (Nat.le_of_not_lt hlong)))
    · exact Or.inl (hclaim.trans (le_antisymm h.claimFits (Nat.le_of_not_lt hfull)))
  · rintro ⟨hlong, hfull⟩
    rw [Nat.min_eq_left hlong.le] at havailable
    rcases Nat.eq_zero_or_pos p.rxClaimLen with hnone | hsome
    · exact ⟨2, drained_of_available harrived (hclaim.trans hnone) (by rw [havailable]; exact hw)
        (by rw [havailable]; exact hlong)⟩
    · refine ⟨3, ?_⟩
      have hdownloaded := harrived.readMessage
      show Drained (readMessage (readMessage (readMessage p').2).2).2
      rw [readMessage_claim harrived (by rw [hclaim]; exact hsome)
        (by rw [hclaim]; exact hfull)] at hdownloaded ⊢
      exact drained_of_available hdownloaded rfl
        (show 0 < p'.rxAvailable by rw [havailable]; exact hw)
        (show p'.rxAvailable < uart1RxCacheSize by rw [havailable]; exact hlong)

end Draining

/-- After any run from boot and a further arrival, a number of calls drains the
receiver exactly when neither the arrival nor the message that is claimed fills
the cache. -/
theorem receiver_drains_iff
    (events : List RxEvent) {w : List UInt8} (hw : 0 < w.length) :
    (∃ k, Drained ((fun p => (readMessage p).2)^[k]
        (uartEventTask w (run rxStep events .boot)))) ↔
      w.length < uart1RxCacheSize ∧
        (run rxStep events .boot).rxClaimLen < uart1RxCacheSize :=
  drains_iff (settled_boot.run events) hw

/-- A message of 127 bytes is drained. -/
theorem longMessage_drains :
    ∃ k, Drained ((fun p => (readMessage p).2)^[k]
      (uartEventTask (List.replicate 127 0) (run rxStep [] .boot))) :=
  (receiver_drains_iff [] (by simp)).2 (by
    rw [List.length_replicate]
    exact ⟨by decide, by decide⟩)

/-- A message of 128 bytes is not. -/
theorem fullMessage_never_drains :
    ¬ ∃ k, Drained ((fun p => (readMessage p).2)^[k]
      (uartEventTask (List.replicate 128 0) .boot)) := by
  rintro ⟨k, hdrained⟩
  exact not_drained_of_jammed
    (jammed_iterate k (Or.inr (by
      show min (List.replicate 128 (0 : UInt8)).length uart1RxCacheSize = uart1RxCacheSize
      rw [List.length_replicate]
      rfl)) (settled_boot.uartEventTask _)) hdrained

/-! ## Downloads -/

/-- The call downloads a message. -/
def Completes (p : SerialPort) : Prop :=
  (readMessage p).1 ≠ bufferRxEmpy ∧ (readMessage p).1 ≠ runDownload

instance (p : SerialPort) : Decidable (Completes p) :=
  inferInstanceAs (Decidable (_ ∧ _))

/-- What a call that downloads leaves in `buff_ser1`. -/
def downloadedBytes (p : SerialPort) : List UInt8 :=
  readBytes (readMessage p).2.buffSer1 0 (readMessage p).2.numbytesReceived

/-- The messages downloaded in a run, in order. -/
def downloads : List RxEvent → SerialPort → List (List UInt8)
  | [], _ => []
  | .uartData w :: events, p => downloads events (uartEventTask w p)
  | .readMessage :: events, p =>
      if Completes p then downloadedBytes p :: downloads events (readMessage p).2
      else downloads events (readMessage p).2

/-- The data of the arrivals of a run, in order. -/
def arrivals : List RxEvent → List (List UInt8)
  | [] => []
  | .uartData w :: events => w :: arrivals events
  | .readMessage :: events => arrivals events

/-- Data of 1 to 127 bytes arrives only while no message is claimed, or begins
with the same bytes. -/
def Untouched (e : RxEvent) (p : SerialPort) : Prop :=
  match e with
  | .uartData w => (0 < w.length ∧ w.length < uart1RxCacheSize) ∧
      ∀ i < p.rxClaimLen, ofBytes w i = p.rxCache i
  | .readMessage => True

instance (e : RxEvent) (p : SerialPort) : Decidable (Untouched e p) := by
  unfold Untouched
  split <;> infer_instance

/-- The messages that can still be downloaded: the one that is claimed, and the
one that is available. -/
def outstanding (p : SerialPort) : List (List UInt8) :=
  (if p.rxClaimLen = 0 then [] else [claimedMessage p]) ++
    if p.rxAvailable = 0 then [] else [readBytes p.rxCache 0 p.rxAvailable]

/-- No message fills the cache. -/
structure Small (p : SerialPort) : Prop where
  settled : Settled p
  available : p.rxAvailable < uart1RxCacheSize
  claim : p.rxClaimLen < uart1RxCacheSize

section Downloads

variable {p : SerialPort}

/-- The value returned for a message is not one that announces or finds none. -/
theorem verdict_ne
    (w : List UInt8) :
    verdict w ≠ bufferRxEmpy ∧ verdict w ≠ runDownload := by
  by_cases hgood : runDownload < verdict w
  · simp only [bufferRxEmpy, runDownload] at *
    omega
  · have hnot := (runDownload_lt_verdict_iff w).not.mp hgood
    obtain ⟨hb, hrest⟩ := not_or.mp hnot
    obtain ⟨ha, hwf⟩ := not_or.mp hrest
    have hcheck : verdict w = checkMessage (ofBytes w) w.length := by
      unfold verdict
      rw [if_neg (not_or.mpr ⟨hb, ha⟩)]
    have hle : ¬ 0 < verdict w := by
      rw [hcheck, checkMessage_pos_iff]
      exact hwf
    have hne : verdict w ≠ 0 := by
      rw [hcheck]
      unfold checkMessage
      dsimp only
      split
      · decide
      · split
        · decide
        · rename_i hlength
          split
          · decide
          · simp only [ihm1StartData] at hlength
            omega
    exact ⟨hne, fun hone => hle (hone ▸ by decide)⟩

/-- What a call downloads is the message that is claimed. -/
theorem downloadedBytes_claim
    (h : Settled p) (hpos : 0 < p.rxClaimLen) (hlt : p.rxClaimLen < uart1RxCacheSize) :
    downloadedBytes p = claimedMessage p := by
  unfold downloadedBytes
  rw [readMessage_claim h hpos hlt]
  show readBytes (downloaded (claimedMessage p) p.buffSer1) 0 (claimedMessage p).length = _
  have hsame : readBytes (downloaded (claimedMessage p) p.buffSer1) 0
      (claimedMessage p).length =
      readBytes (ofBytes (claimedMessage p)) 0 (claimedMessage p).length := by
    refine readBytes_congr fun i hi => ?_
    rw [length_claimedMessage] at hi
    rw [Nat.zero_add, downloaded_apply _ _ (lt_trans hi hlt)]
  rw [hsame, readBytes_ofBytes]

theorem Small.readMessage
    (h : Small p) :
    Small (readMessage p).2 := by
  obtain ⟨havailable, hclaim⟩ := readMessage_bounds h.settled
  exact ⟨h.settled.readMessage, lt_of_le_of_lt havailable h.available,
    lt_of_le_of_lt hclaim (max_lt h.claim h.available)⟩

theorem Small.uartEventTask
    (h : Small p) {w : List UInt8} (hw : w.length < uart1RxCacheSize) :
    Small (uartEventTask w p) :=
  ⟨h.settled.uartEventTask w, lt_of_le_of_lt (Nat.min_le_left _ _) hw, h.claim⟩

/-- The cache shows the data that arrived, and zeros after it. -/
theorem rxCache_uartEventTask
    {w : List UInt8} (hw : w.length < uart1RxCacheSize) {i : Nat} (hi : i < uart1RxCacheSize) :
    (uartEventTask w p).rxCache i = ofBytes w i := by
  have hmin : min w.length uart1RxCacheSize = w.length := Nat.min_eq_left hw.le
  show memcpy (memset p.rxCache 0 0 uart1RxCacheSize) 0 (ofBytes w) 0
    (min w.length uart1RxCacheSize) i = ofBytes w i
  rw [hmin]
  by_cases hinside : i < w.length
  · rw [memcpy_inside _ _ _ _ _ ⟨Nat.zero_le _, by omega⟩]
    simp
  · rw [memcpy_outside _ _ _ _ _ (by simpa using hinside),
      memset_inside _ _ _ ⟨Nat.zero_le _, by omega⟩, ofBytes_of_le (by omega)]

/-- New data replaces what is available; a claimed message keeps its bytes. -/
theorem outstanding_uartEventTask
    (h : Small p) {w : List UInt8} (hpos : 0 < w.length) (hw : w.length < uart1RxCacheSize)
    (hsame : ∀ i < p.rxClaimLen, ofBytes w i = p.rxCache i) :
    outstanding (uartEventTask w p) =
      (if p.rxClaimLen = 0 then [] else [claimedMessage p]) ++ [w] := by
  have havailable : (uartEventTask w p).rxAvailable = w.length := Nat.min_eq_left hw.le
  have hclaimed : claimedMessage (uartEventTask w p) = claimedMessage p := by
    have hlt := h.claim
    refine readBytes_congr fun i hi => ?_
    have hi' : i < p.rxClaimLen := hi
    rw [Nat.zero_add, rxCache_uartEventTask hw (by omega), hsame i hi']
  have hbytes : readBytes (uartEventTask w p).rxCache 0 w.length = w := by
    have hcached : readBytes (uartEventTask w p).rxCache 0 w.length =
        readBytes (ofBytes w) 0 w.length :=
      readBytes_congr fun i hi => by
        rw [Nat.zero_add, rxCache_uartEventTask hw (by omega)]
    rw [hcached, readBytes_ofBytes]
  have hne : w.length ≠ 0 := by omega
  unfold outstanding
  rw [hclaimed, havailable, if_neg hne, hbytes]
  rfl

/-- A call downloads the message that is claimed; what is available waits. -/
theorem downloads_readMessage
    (h : Small p) :
    (¬ Completes p ∧ outstanding (readMessage p).2 = outstanding p) ∨
      (Completes p ∧ outstanding p = downloadedBytes p :: outstanding (readMessage p).2) := by
  rcases Nat.eq_zero_or_pos p.rxClaimLen with hclaim | hclaim
  · rcases Nat.eq_zero_or_pos p.rxAvailable with havailable | havailable
    · refine Or.inl ⟨?_, ?_⟩
      · rintro ⟨hempty, -⟩
        rw [readMessage_nothing h.settled hclaim havailable] at hempty
        exact hempty rfl
      · rw [readMessage_nothing h.settled hclaim havailable]
        unfold outstanding
        rw [if_pos rfl, if_pos havailable, if_pos hclaim]
    · refine Or.inl ⟨?_, ?_⟩
      · rintro ⟨-, hrun⟩
        rw [readMessage_notice h.settled hclaim havailable] at hrun
        exact hrun rfl
      · have hne : p.rxAvailable ≠ 0 := by omega
        rw [readMessage_notice h.settled hclaim havailable]
        unfold outstanding
        show (if p.rxAvailable = 0 then [] else [readBytes p.rxCache 0 p.rxAvailable]) ++ [] = _
        rw [List.append_nil, if_pos hclaim, if_neg hne]
        rfl
  · have hne : p.rxClaimLen ≠ 0 := by omega
    have hbytes := downloadedBytes_claim h.settled hclaim h.claim
    refine Or.inr ⟨?_, ?_⟩
    · unfold Completes
      rw [readMessage_claim h.settled hclaim h.claim]
      exact verdict_ne _
    · rw [hbytes, readMessage_claim h.settled hclaim h.claim]
      unfold outstanding
      rw [if_neg hne]
      rfl

/-- What is downloaded is, in order, some of what was outstanding and of what
arrived since. -/
theorem downloads_sublist_outstanding
    (events : List RxEvent) (h : Small p) (huntouched : Along rxStep Untouched events p) :
    (downloads events p).Sublist (outstanding p ++ arrivals events) := by
  induction events generalizing p with
  | nil => exact List.nil_sublist _
  | cons e events ih =>
      cases e with
      | uartData w =>
          obtain ⟨⟨⟨hpos, hw⟩, hsame⟩, hrest⟩ := huntouched
          have hnext := ih (h.uartEventTask hw) hrest
          rw [outstanding_uartEventTask h hpos hw hsame, List.append_assoc] at hnext
          refine hnext.trans ?_
          unfold outstanding
          rw [List.append_assoc]
          exact (List.Sublist.refl _).append (List.sublist_append_right _ _)
      | readMessage =>
          have hnext := ih h.readMessage huntouched.2
          rcases downloads_readMessage h with ⟨hno, hsame⟩ | ⟨hyes, hnew⟩
          · show (if Completes p then _ else downloads events (readMessage p).2).Sublist _
            rw [if_neg hno, ← hsame]
            exact hnext
          · show (if Completes p then downloadedBytes p :: downloads events (readMessage p).2
              else _).Sublist _
            rw [if_pos hyes, hnew]
            exact hnext.cons_cons _

end Downloads

/-- In every run from boot in which data does not touch a claimed message, the
messages downloaded are messages that arrived, each at most once and in order. -/
theorem downloads_sublist_arrivals
    (events : List RxEvent) (huntouched : Along rxStep Untouched events .boot) :
    (downloads events .boot).Sublist (arrivals events) :=
  downloads_sublist_outstanding events ⟨settled_boot, by decide, by decide⟩ huntouched

/-! ## Data that arrives between two calls -/

section Example

/-- Two messages, each downloaded before the next arrives. -/
theorem twoMessages_downloaded :
    (downloads [.uartData [1, 2], .readMessage, .readMessage, .uartData [3], .readMessage]
      .boot).Sublist [[1, 2], [3]] :=
  downloads_sublist_arrivals
    [.uartData [1, 2], .readMessage, .readMessage, .uartData [3], .readMessage]
    (by decide +kernel)

/-- The second message overwrites the one that is claimed, and is downloaded
with the length of the first. -/
theorem overwrittenMessage_torn :
    ¬ (downloads [.uartData [1, 2], .readMessage, .uartData [3, 4, 5], .readMessage] .boot).Sublist
        (arrivals [.uartData [1, 2], .readMessage, .uartData [3, 4, 5], .readMessage]) := by
  decide +kernel

end Example

/-! ## Frames in pieces -/

/-- Some later call returns the length of the frame, the frame in `buff_ser1`. -/
def Reassembled (frame : List UInt8) (p : SerialPort) : Prop :=
  ∃ k, let result := readMessage ((fun p => (readMessage p).2)^[k] p)
    result.1 = frame.length ∧ readBytes result.2.buffSer1 0 frame.length = frame

/-- A frame that arrives in pieces, calls between them: the last event is the
arrival of the last piece. -/
structure Fragmented (frame : List UInt8) where
  pieces : List (List UInt8)
  nonempty : ∀ piece ∈ pieces, piece ≠ []
  flatten_eq : pieces.flatten = frame
  before : List RxEvent
  last : List UInt8
  arrivals_eq : arrivals (before ++ [.uartData last]) = pieces

def Fragmented.events {frame : List UInt8} (f : Fragmented frame) : List RxEvent :=
  f.before ++ [.uartData f.last]

section Fragments

variable {p : SerialPort}

theorem Drained.settled
    (h : Drained p) :
    Settled p where
  unread := h.claimRead
  availableFits := by
    rw [h.nothingAvailable]
    exact Nat.zero_le _
  claimFits := by
    rw [h.nothingClaimed]
    exact Nat.zero_le _
  pointer := fun hpos => by
    rw [h.nothingClaimed] at hpos
    exact absurd hpos (lt_irrefl 0)
  tail := Or.inl h.nothingAnnounced
  announced := fun _ => h.nothingAnnounced.trans h.nothingClaimed.symm

theorem Drained.idle
    (h : Drained p) :
    Idle p :=
  ⟨h.nothingAvailable, by rw [h.nothingClaimed]; exact Nat.zero_le _, h.nothingAnnounced⟩

/-- No call returns more than the length of what is claimed, but to announce. -/
theorem readMessage_le
    (h : Settled p) :
    (readMessage p).1 ≤ max runDownload p.rxClaimLen := by
  rcases Nat.eq_zero_or_pos p.rxClaimLen with hclaim | hclaim
  · rcases Nat.eq_zero_or_pos p.rxAvailable with havailable | havailable
    · rw [readMessage_nothing h hclaim havailable]
      exact le_max_of_le_left (by decide : bufferRxEmpy ≤ runDownload)
    · rw [readMessage_notice h hclaim havailable]
      exact le_max_left _ _
  · rcases Nat.lt_or_ge p.rxClaimLen uart1RxCacheSize with hlt | hge
    · rw [readMessage_claim h hclaim hlt]
      refine le_max_of_le_right ?_
      show verdict (claimedMessage p) ≤ _
      unfold verdict
      rw [length_claimedMessage]
      split
      · exact le_refl _
      · exact checkMessage_le _ _
    · obtain ⟨-, -, -, -, -, hle⟩ := readMessage_full h (le_antisymm h.claimFits hge)
      exact le_max_of_le_left hle

/-- Everything that is available or claimed is shorter than `n`. -/
structure Shorter (n : Nat) (p : SerialPort) : Prop where
  settled : Settled p
  available : p.rxAvailable < n
  claim : p.rxClaimLen < n

theorem Shorter.readMessage
    {n : Nat} (h : Shorter n p) :
    Shorter n (readMessage p).2 := by
  obtain ⟨havailable, hclaim⟩ := readMessage_bounds h.settled
  exact ⟨h.settled.readMessage, lt_of_le_of_lt havailable h.available,
    lt_of_le_of_lt hclaim (max_lt h.claim h.available)⟩

theorem Shorter.iterate
    {n : Nat} (k : Nat) (h : Shorter n p) :
    Shorter n ((fun p => (Serial.readMessage p).2)^[k] p) := by
  induction k generalizing p with
  | zero => exact h
  | succ k ih => exact ih h.readMessage

theorem Shorter.run
    {n : Nat} (events : List RxEvent) (h : Shorter n p)
    (harrivals : ∀ w ∈ arrivals events, w.length < n) :
    Shorter n (run rxStep events p) := by
  induction events generalizing p with
  | nil => exact h
  | cons e events ih =>
      cases e with
      | uartData w =>
          have hw : w.length < n := harrivals w List.mem_cons_self
          refine ih ⟨h.settled.uartEventTask w, ?_, h.claim⟩
            (fun w' hw' => harrivals w' (List.mem_cons_of_mem w hw'))
          exact lt_of_le_of_lt (Nat.min_le_left _ _) hw
      | readMessage => exact ih h.readMessage harrivals

/-- What is shorter than the frame never comes to be the frame. -/
theorem Shorter.not_reassembled
    {frame : List UInt8} (h : Shorter frame.length p) (hframe : WellFormed frame) :
    ¬ Reassembled frame p := by
  rintro ⟨k, hresult, -⟩
  have hshort := h.iterate k
  have hle := readMessage_le hshort.settled
  rw [hresult] at hle
  have hlong := hframe.runDownload_lt
  rcases le_max_iff.mp hle with hrun | hclaim
  · exact absurd hlong (not_lt.mpr hrun)
  · have := hshort.claim
    omega

/-- Calls without data leave the receiver drained. -/
theorem Drained.run
    (events : List RxEvent) (h : Drained p) (hnone : arrivals events = []) :
    Drained (run rxStep events p) := by
  induction events generalizing p with
  | nil => exact h
  | cons e events ih =>
      cases e with
      | uartData w => cases hnone
      | readMessage =>
          refine ih ?_ hnone
          show Drained (Serial.readMessage p).2
          rw [readMessage_nothing h.settled h.nothingClaimed h.nothingAvailable]
          exact ⟨h.nothingAvailable, rfl, rfl, h.nothingAnnounced⟩

/-- A frame that arrives whole is downloaded by the second call. -/
theorem reassembled_whole
    {frame : List UInt8} (h : Drained p) (hframe : WellFormed frame)
    (hlength : frame.length < rxBufferSize) :
    Reassembled frame (uartEventTask frame p) := by
  have hpos : 0 < frame.length := by
    have := hframe.long
    omega
  have harrived := h.idle.uartEventTask (w := frame) hlength.le
  have hsecond : readMessage ((fun p => (readMessage p).2)^[1] (uartEventTask frame p)) =
      (verdict frame, ((uartEventTask frame p).noticed frame.length).received frame) := by
    show readMessage (readMessage (uartEventTask frame p)).2 = _
    rw [readMessage_arrived harrived hpos hlength.le,
      readMessage_holding harrived.noticed hpos hlength]
  refine ⟨1, ?_⟩
  dsimp only
  rw [hsecond]
  refine ⟨verdict_of_wellFormed hframe, ?_⟩
  have hsame : readBytes (downloaded frame (uartEventTask frame p).buffSer1) 0 frame.length =
      readBytes (ofBytes frame) 0 frame.length :=
    readBytes_congr fun i hi => by
      rw [Nat.zero_add, downloaded_apply _ _ (lt_trans hi hlength)]
  exact hsame.trans (readBytes_ofBytes frame)

theorem arrivals_append (before after : List RxEvent) :
    arrivals (before ++ after) = arrivals before ++ arrivals after := by
  induction before with
  | nil => rfl
  | cons e before ih =>
      cases e with
      | uartData w => exact congrArg (w :: ·) ih
      | readMessage => exact ih

/-- Each of several pieces is shorter than the frame. -/
theorem length_lt_of_pieces
    {pieces : List (List UInt8)} (hnonempty : ∀ piece ∈ pieces, piece ≠ [])
    (hseveral : 1 < pieces.length) {piece : List UInt8} (hpiece : piece ∈ pieces) :
    piece.length < pieces.flatten.length := by
  obtain ⟨before, after, rfl⟩ := List.append_of_mem hpiece
  obtain ⟨other, hother, hne⟩ : ∃ other, other ∈ before ++ after ∧ other ≠ [] := by
    have hsome : before ++ after ≠ [] := by
      intro hnone
      rw [List.append_eq_nil_iff] at hnone
      rw [hnone.1, hnone.2] at hseveral
      exact absurd hseveral (lt_irrefl 1)
    obtain ⟨other, hother⟩ := List.exists_mem_of_ne_nil _ hsome
    refine ⟨other, hother, hnonempty other ?_⟩
    rcases List.mem_append.mp hother with hbefore | hafter
    · exact List.mem_append_left _ hbefore
    · exact List.mem_append_right _ (List.mem_cons_of_mem _ hafter)
  have hpos := List.length_pos_of_ne_nil hne
  simp only [List.flatten_append, List.flatten_cons, List.length_append]
  rcases List.mem_append.mp hother with hbefore | hafter
  · have hle := (List.sublist_flatten_of_mem hbefore).length_le
    omega
  · have hle := (List.sublist_flatten_of_mem hafter).length_le
    omega

end Fragments

/-- Whatever the pieces and the calls between them, a frame that arrives at a
drained receiver is reassembled exactly when it arrives in one piece. -/
theorem reassembled_iff
    {frame : List UInt8} (hframe : WellFormed frame) (hlength : frame.length < rxBufferSize)
    {p : SerialPort} (h : Drained p) (f : Fragmented frame) :
    Reassembled frame (run rxStep f.events p) ↔ f.pieces.length = 1 := by
  have hpos : 0 < frame.length := by
    have := hframe.long
    omega
  constructor
  · intro hreassembled
    by_contra hseveral
    have hsome : 1 < f.pieces.length := by
      have hne : f.pieces ≠ [] := by
        rw [← f.arrivals_eq, arrivals_append]
        simp [arrivals]
      have := List.length_pos_of_ne_nil hne
      omega
    refine Shorter.not_reassembled (Shorter.run f.events ⟨h.settled, ?_, ?_⟩ ?_) hframe
      hreassembled
    · rw [h.nothingAvailable]
      exact hpos
    · rw [h.nothingClaimed]
      exact hpos
    · intro w hw
      have hpiece : w ∈ f.pieces := by
        rw [← f.arrivals_eq]
        exact hw
      have hlt := length_lt_of_pieces f.nonempty hsome hpiece
      rwa [f.flatten_eq] at hlt
  · intro hone
    have hpieces := f.arrivals_eq
    rw [arrivals_append] at hpieces
    have hnone : arrivals f.before = [] := by
      apply List.eq_nil_of_length_eq_zero
      have := congrArg List.length hpieces
      rw [List.length_append, hone] at this
      simpa [arrivals] using this
    have hlast : f.last = frame := by
      rw [hnone] at hpieces
      have := f.flatten_eq
      rw [← hpieces] at this
      simpa [arrivals] using this
    unfold Fragmented.events
    rw [run_append, hlast]
    exact reassembled_whole (h.run f.before hnone) hframe hlength

section Example

/-- A frame with the command of the polling reply and no data. -/
def shortFrame : List UInt8 :=
  [115, 109, 4, 80, 203, 254]

/-- The frame in one piece. -/
def wholeFrame : Fragmented shortFrame where
  pieces := [shortFrame]
  nonempty := by decide
  flatten_eq := rfl
  before := [.readMessage]
  last := shortFrame
  arrivals_eq := rfl

/-- The frame in two pieces, with a call between them. -/
def splitFrame : Fragmented shortFrame where
  pieces := [[115, 109, 4], [80, 203, 254]]
  nonempty := by decide
  flatten_eq := rfl
  before := [.uartData [115, 109, 4], .readMessage]
  last := [80, 203, 254]
  arrivals_eq := rfl

theorem drained_boot :
    Drained SerialPort.boot :=
  ⟨rfl, rfl, rfl, rfl⟩

theorem wholeFrame_reassembled :
    Reassembled shortFrame (run rxStep wholeFrame.events .boot) :=
  (reassembled_iff (by decide) (by decide) drained_boot wholeFrame).2 rfl

/-- No call ever returns the frame that arrived in two pieces. -/
theorem splitFrame_not_reassembled :
    WellFormed shortFrame ∧ ¬ Reassembled shortFrame (run rxStep splitFrame.events .boot) := by
  have hwf : WellFormed shortFrame := by decide
  refine ⟨hwf, Shorter.not_reassembled ?_ hwf⟩
  exact Shorter.run splitFrame.events ⟨settled_boot, by decide, by decide⟩ (by decide)

end Example

end Serial
end AvensysEsp32
