import AvensysEsp32.Serial.Arrival

/-!
# What can still be downloaded

After any arrivals and calls, a message is claimed, another may be available, and
nothing else will ever be downloaded of what came before.  What the cache shows
of the last data is a beginning of it, cut off or filled up with zeros to the
length that was noted.
-/

namespace AvensysEsp32
namespace Serial

open Foundation

/-- The first `n` bytes of the data, filled up with zeros. -/
def beginning (w : List UInt8) (n : Nat) : List UInt8 :=
  readBytes (ofBytes w) 0 n

section Beginnings

variable (w : List UInt8)

theorem beginning_eq (n : Nat) :
    beginning w n = w.take n ++ List.replicate (n - w.length) 0 := by
  unfold beginning
  apply List.ext_getElem
  · simp
    omega
  · intro i h₁ h₂
    have hi : i < n := by simpa using h₁
    rw [getElem_readBytes, Nat.zero_add]
    by_cases hiw : i < w.length
    · rw [ofBytes_of_lt hiw, List.getElem_append_left (by simp; omega), List.getElem_take]
    · rw [ofBytes_of_le (by omega), List.getElem_append_right (by simp; omega),
        List.getElem_replicate]

theorem ofBytes_beginning (n i : Nat) :
    ofBytes (beginning w n) i = if i < n then ofBytes w i else 0 :=
  ofBytes_readBytes _ _ _

/-- A text in a beginning of the data is a text in the data. -/
theorem strstr_of_beginning
    {n : Nat} {text : List UInt8} (h : strstr (beginning w n) text = true) :
    strstr w text = true := by
  rw [strstr_iff] at h ⊢
  rw [beginning_eq, cString_append_zeros, cString_take] at h
  exact h.trans (List.take_prefix _ _).isInfix

/-- Data without the two texts begins without them. -/
theorem textless_of_strstr
    (hb : strstr w bootloaderText = false) (ha : strstr w ackText = false) :
    Textless w := by
  intro n
  have hnone : ∀ text, strstr w text = false → strstr (beginning w n) text = false := by
    intro text htext
    rw [Bool.eq_false_iff]
    intro hcontains
    exact absurd (strstr_of_beginning w hcontains) (by rw [htext]; exact Bool.false_ne_true)
  exact ⟨hnone _ hb, hnone _ ha⟩

end Beginnings

section Outstanding

variable {p : SerialPort}

/-- The cache shows the beginning of the data that arrived last. -/
theorem rxCache_arrival
    (w : List UInt8) {i : Nat} (hi : i < uart1RxCacheSize) :
    (uartEventTask w p).rxCache i = ofBytes w i := by
  show memcpy (memset p.rxCache 0 0 uart1RxCacheSize) 0 (ofBytes w) 0
    (min w.length uart1RxCacheSize) i = ofBytes w i
  by_cases hinside : i < w.length
  · rw [memcpy_inside _ _ _ _ _ ⟨Nat.zero_le _, by omega⟩]
    simp
  · rw [memcpy_outside _ _ _ _ _ (by simp; omega),
      memset_inside _ _ _ ⟨Nat.zero_le _, by omega⟩, ofBytes_of_le (by omega)]

/-- New data is seen in the place of a claimed message, and in its own. -/
theorem outstanding_arrival
    (h : Settled p) (w : List UInt8) :
    outstanding (uartEventTask w p) =
      (if p.rxClaimLen = 0 then [] else [beginning w p.rxClaimLen]) ++
        if w.length = 0 then [] else [beginning w (min w.length uart1RxCacheSize)] := by
  have hshown : ∀ n ≤ uart1RxCacheSize,
      readBytes (uartEventTask w p).rxCache 0 n = beginning w n := by
    intro n hn
    refine readBytes_congr fun i hi => ?_
    rw [Nat.zero_add, rxCache_arrival w (by omega)]
  have hclaimed : claimedMessage (uartEventTask w p) = beginning w p.rxClaimLen :=
    hshown _ h.claimFits
  have havailable : readBytes (uartEventTask w p).rxCache 0 (uartEventTask w p).rxAvailable =
      beginning w (min w.length uart1RxCacheSize) :=
    hshown _ (Nat.min_le_right _ _)
  have hnone : (uartEventTask w p).rxAvailable = 0 ↔ w.length = 0 := by
    show min w.length uart1RxCacheSize = 0 ↔ _
    simp only [uart1RxCacheSize]
    omega
  unfold outstanding
  rw [hclaimed, havailable]
  simp only [hnone]
  rfl

/-- A call that downloads no message reports none and changes nothing of what is
outstanding; a call that downloads one takes the oldest. -/
theorem readMessage_outstanding
    (h : Settled p) :
    ((readMessage p).1 ≤ runDownload ∧ outstanding (readMessage p).2 = outstanding p) ∨
      ∃ w, w.length < rxBufferSize ∧ readMessage p = (verdict w, p.received w) ∧
        outstanding p = w :: outstanding (readMessage p).2 := by
  rcases Nat.lt_or_ge p.rxClaimLen uart1RxCacheSize with hlt | hge
  · rcases Nat.eq_zero_or_pos p.rxClaimLen with hclaim | hclaim
    · left
      rcases Nat.eq_zero_or_pos p.rxAvailable with havailable | havailable
      · rw [readMessage_nothing h hclaim havailable]
        unfold outstanding
        rw [if_pos rfl, if_pos hclaim]
        exact ⟨(by decide : bufferRxEmpy ≤ runDownload), rfl⟩
      · have hne : p.rxAvailable ≠ 0 := by omega
        rw [readMessage_notice h hclaim havailable]
        unfold outstanding
        rw [if_pos hclaim, if_neg hne]
        refine ⟨le_refl _, ?_⟩
        show (if p.rxAvailable = 0 then [] else [readBytes p.rxCache 0 p.rxAvailable]) ++ [] = _
        rw [if_neg hne]
        rfl
    · right
      have hne : p.rxClaimLen ≠ 0 := by omega
      refine ⟨claimedMessage p, by simpa using hlt, readMessage_claim h hclaim hlt, ?_⟩
      rw [readMessage_claim h hclaim hlt]
      unfold outstanding
      rw [if_neg hne]
      rfl
  · left
    have hfull := le_antisymm h.claimFits hge
    obtain ⟨hlen, -, havail, -, -, hle⟩ := readMessage_full h hfull
    have hcache : (readMessage p).2.rxCache = p.rxCache := by
      rcases h.tail with htail | htail
      · rw [readMessage_announce h hfull htail]
      · obtain ⟨-, bootloaderMode, ackReceived, hport⟩ := classifyMessage_spec 0 { p with
          rxBufTail := 0
          buffSer1 := memset p.buffSer1 0 0 rxBufferSize }
        rw [readMessage_dismiss h hfull (htail.trans hfull), hport]
    refine ⟨hle, ?_⟩
    unfold outstanding claimedMessage
    rw [hlen, havail, hcache, hfull]

end Outstanding

end Serial
end AvensysEsp32
