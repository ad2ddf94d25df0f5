import AvensysEsp32.Serial.Receiver
import AvensysEsp32.Serial.UnitBoard

/-!
# A reply that arrives over a claimed message

Data that arrives takes the place of what the cache held, also of a message
that is claimed and not yet read.  What is then downloaded is the beginning of
the new message, cut off or filled up with zeros to the claimed length, and
`Read_Message` rejects it unless the lengths agree; the new message follows.
Only a claim that fills the cache is never read.
-/

namespace AvensysEsp32
namespace Serial

open Foundation

/-! ## Frames without the two texts -/

/-- The beginnings of the message, filled up with zeros, contain neither text. -/
def Textless (w : List UInt8) : Prop :=
  ∀ n, strstr (readBytes (ofBytes w) 0 n) bootloaderText = false ∧
    strstr (readBytes (ofBytes w) 0 n) ackText = false

/-- The string at the beginning of the memory ends before the first zero. -/
theorem exists_of_mem_cString
    {m : Memory} {n j : Nat} {b : UInt8}
    (hj : m j = 0) (hb : b ∈ cString (readBytes m 0 n)) :
    ∃ i < j, m i = b := by
  have hbeginning : cString (readBytes m 0 n) <+: readBytes m 0 n := List.takeWhile_prefix _
  have hget : ∀ (i : Nat) (hi : i < (cString (readBytes m 0 n)).length),
      (cString (readBytes m 0 n))[i] = m i := by
    intro i hi
    rw [hbeginning.getElem hi, getElem_readBytes, Nat.zero_add]
  obtain ⟨i, hi, hib⟩ := List.mem_iff_getElem.mp hb
  refine ⟨i, ?_, (hget i hi).symm.trans hib⟩
  by_contra hle
  have hjlt : j < (cString (readBytes m 0 n)).length := by omega
  have hnonzero : (cString (readBytes m 0 n))[j] ≠ 0 := by
    have hmem := List.mem_takeWhile_imp (List.getElem_mem hjlt)
    simpa using hmem
  exact hnonzero ((hget j hjlt).trans hj)

/-- A message whose string holds neither `'K'` nor `'o'`. -/
theorem textless_of_head
    {w : List UInt8} {j : Nat}
    (hzero : ofBytes w j = 0) (hhead : ∀ i < j, ofBytes w i ≠ 75 ∧ ofBytes w i ≠ 111) :
    Textless w := by
  have hnone : ∀ (needle : List UInt8) (c : UInt8), c ∈ needle →
      (∀ i < j, ofBytes w i ≠ c) → ∀ n, strstr (readBytes (ofBytes w) 0 n) needle = false := by
    intro needle c hc hne n
    rw [Bool.eq_false_iff]
    intro htext
    obtain ⟨i, hi, hic⟩ := exists_of_mem_cString hzero (((strstr_iff _ _).mp htext).subset hc)
    exact hne i hi hic
  intro n
  exact ⟨hnone _ 111 (by decide) (fun i hi => (hhead i hi).2) n,
    hnone _ 75 (by decide) (fun i hi => (hhead i hi).1) n⟩

/-! ## Pieces of a frame -/

section Pieces

variable {w : List UInt8}

/-- A beginning of a frame is the frame, or is rejected. -/
theorem verdict_beginning
    (hwf : WellFormed w) (htext : Textless w) (n : Nat) :
    readBytes (ofBytes w) 0 n = w ∨ verdict (readBytes (ofBytes w) 0 n) < 0 := by
  by_cases hn : n = w.length
  · left
    rw [hn, readBytes_ofBytes]
  · right
    have hnot : ¬ WellFormed (readBytes (ofBytes w) 0 n) := by
      intro hpiece
      have hlong := hpiece.long
      have hlength := hpiece.length
      rw [length_readBytes] at hlong hlength
      have hsame : ofBytes (readBytes (ofBytes w) 0 n) ihm1PosCrcLo = ofBytes w ihm1PosCrcLo := by
        have hlt : ihm1PosCrcLo < (readBytes (ofBytes w) 0 n).length := by
          rw [length_readBytes]
          simp only [ihm1StartData, ihm1PosCrcLo] at hlong ⊢
          omega
        rw [ofBytes_of_lt hlt, getElem_readBytes, Nat.zero_add]
      rw [hsame, hwf.length] at hlength
      exact hn hlength.symm
    have hbad : ¬ runDownload < verdict (readBytes (ofBytes w) 0 n) := by
      rw [runDownload_lt_verdict_iff]
      rintro (hb | ha | hgood)
      · rw [(htext n).1] at hb
        cases hb
      · rw [(htext n).2] at ha
        cases ha
      · exact hnot hgood
    obtain ⟨hne, hne'⟩ := verdict_ne (readBytes (ofBytes w) 0 n)
    simp only [bufferRxEmpy, runDownload] at hbad hne hne'
    omega

variable {p : SerialPort}

/-- What is claimed shows the new data. -/
theorem claimedMessage_uartEventTask
    (hw : w.length < uart1RxCacheSize) (hclaim : p.rxClaimLen ≤ uart1RxCacheSize) :
    claimedMessage (uartEventTask w p) = readBytes (ofBytes w) 0 p.rxClaimLen := by
  refine readBytes_congr fun i hi => ?_
  have hi' : i < p.rxClaimLen := hi
  rw [Nat.zero_add, rxCache_uartEventTask hw (by omega)]

end Pieces

/-! ## The calls after an arrival -/

/-- Calls of `Read_Message` come to return a message with the command, none of
them naming the bootloader. -/
inductive Comes (command : UInt8) : SerialPort → Prop
  | now {p : SerialPort} (hgt : runDownload < (readMessage p).1)
      (hcommand : (readMessage p).2.buffSer1 ihm1TypeComand = command)
      (hmode : (readMessage p).2.bootloaderMode = p.bootloaderMode)
      (hclaim : (readMessage p).2.rxClaimLen = 0) : Comes command p
  | later {p : SerialPort} (hle : (readMessage p).1 ≤ runDownload)
      (hmode : (readMessage p).2.bootloaderMode = p.bootloaderMode)
      (hrest : Comes command (readMessage p).2) : Comes command p

/-- Calls of `Read_Message` come to return a message with the command, or an
error. -/
inductive Ends (command : UInt8) : SerialPort → Prop
  | replied {p : SerialPort} (hgt : runDownload < (readMessage p).1)
      (hcommand : (readMessage p).2.buffSer1 ihm1TypeComand = command) : Ends command p
  | rejected {p : SerialPort} (hneg : (readMessage p).1 < 0) : Ends command p
  | later {p : SerialPort} (hle : (readMessage p).1 ≤ runDownload)
      (hnonneg : 0 ≤ (readMessage p).1) (hrest : Ends command (readMessage p).2) :
      Ends command p

theorem Comes.ends
    {command : UInt8} {p : SerialPort} (h : Comes command p) :
    Ends command p := by
  induction h with
  | now hgt hcommand hmode hclaim => exact .replied hgt hcommand
  | @later p hle hmode hrest ih =>
      by_cases hneg : (readMessage p).1 < 0
      · exact .rejected hneg
      · exact .later hle (not_lt.mp hneg) ih

section Arrivals

variable {w : List UInt8} {p : SerialPort}

/-- The download of a frame without the bootloader's text. -/
theorem comes_of_claimed
    (hsettled : Settled p) (hmessage : claimedMessage p = w)
    (hwf : WellFormed w) (htext : Textless w) (hw : w.length < uart1RxCacheSize) :
    Comes (ofBytes w ihm1TypeComand) p := by
  have hlength : p.rxClaimLen = w.length := by
    rw [← hmessage, length_claimedMessage]
  have hlong := hwf.long
  simp only [ihm1StartData] at hlong
  have hread := readMessage_claim hsettled (by omega) (by omega)
  rw [hmessage] at hread
  have htext' : strstr w bootloaderText = false := by
    have hnone := (htext w.length).1
    rwa [readBytes_ofBytes] at hnone
  refine .now ?_ ?_ ?_ ?_
  · rw [hread, verdict_of_wellFormed hwf]
    exact hwf.runDownload_lt
  · rw [hread]
    exact downloaded_apply w p.buffSer1 (by decide)
  · rw [hread]
    show (p.bootloaderMode || strstr w bootloaderText) = p.bootloaderMode
    rw [htext', Bool.or_false]
  · rw [hread]
    rfl

/-- Data that finds no claim is noticed, and read by the next call. -/
theorem comes_of_available
    (hsettled : Settled p) (hclaim : p.rxClaimLen = 0)
    (havailable : p.rxAvailable = w.length)
    (hcached : ∀ i < w.length, p.rxCache i = ofBytes w i)
    (hwf : WellFormed w) (htext : Textless w) (hw : w.length < uart1RxCacheSize) :
    Comes (ofBytes w ihm1TypeComand) p := by
  have hlong := hwf.long
  have hread := readMessage_notice hsettled hclaim (by rw [havailable]; omega)
  have hnoticed := hsettled.readMessage
  refine .later ?_ ?_ ?_
  · rw [hread]
  · rw [hread]
    rfl
  · rw [hread] at hnoticed ⊢
    refine comes_of_claimed hnoticed ?_ hwf htext hw
    have hbytes : claimedMessage (p.noticed p.rxAvailable) = readBytes (ofBytes w) 0 w.length := by
      unfold claimedMessage SerialPort.noticed
      dsimp only
      rw [havailable]
      exact readBytes_congr fun i hi => by rw [Nat.zero_add, hcached i hi]
    rw [hbytes, readBytes_ofBytes]

/-- After the arrival of a frame it is read, unless a claim fills the cache. -/
theorem comes_of_arrival
    (hsettled : Settled p) (hclaim : p.rxClaimLen ≠ uart1RxCacheSize)
    (hwf : WellFormed w) (htext : Textless w) (hw : w.length < uart1RxCacheSize) :
    Comes (ofBytes w ihm1TypeComand) (uartEventTask w p) := by
  have hsettled' := hsettled.uartEventTask w
  have havailable : (uartEventTask w p).rxAvailable = w.length := Nat.min_eq_left hw.le
  have hcached : ∀ i < w.length, (uartEventTask w p).rxCache i = ofBytes w i :=
    fun i hi => rxCache_uartEventTask hw (hi.trans hw)
  have hlt : p.rxClaimLen < uart1RxCacheSize := lt_of_le_of_ne hsettled.claimFits hclaim
  rcases Nat.eq_zero_or_pos p.rxClaimLen with hnone | hpos
  · exact comes_of_available hsettled' hnone havailable hcached hwf htext hw
  · have hmessage := claimedMessage_uartEventTask hw hsettled.claimFits
    rcases verdict_beginning hwf htext p.rxClaimLen with hwhole | hneg
    · exact comes_of_claimed hsettled' (hmessage.trans hwhole) hwf htext hw
    · -- A piece of the frame is rejected first.
      have hread := readMessage_claim hsettled' hpos hlt
      have hdownloaded := hsettled'.readMessage
      rw [hmessage] at hread
      refine .later ?_ ?_ ?_
      · rw [hread]
        exact hneg.le.trans (by decide)
      · rw [hread]
        show ((uartEventTask w p).bootloaderMode ||
          strstr (readBytes (ofBytes w) 0 p.rxClaimLen) bootloaderText) = _
        rw [(htext p.rxClaimLen).1, Bool.or_false]
      · rw [hread] at hdownloaded ⊢
        exact comes_of_available hdownloaded rfl havailable hcached hwf htext hw

/-- A cleared buffer is rejected. -/
theorem classifyMessage_cleared
    (hcleared : p.buffSer1 ihm1StartMsg0 = 0) :
    (classifyMessage 0 p).1 < 0 := by
  have hnone : ∀ needle : List UInt8, needle ≠ [] →
      strstr (readBytes p.buffSer1 0 rxBufferSize) needle = false := by
    intro needle hne
    rw [Bool.eq_false_iff]
    intro htext
    obtain ⟨c, hc⟩ := List.exists_mem_of_ne_nil needle hne
    obtain ⟨i, hi, -⟩ :=
      exists_of_mem_cString hcleared (((strstr_iff _ _).mp htext).subset hc)
    exact absurd hi (Nat.not_lt_zero i)
  have hhead : p.buffSer1 ihm1StartMsg0 ≠ protoStartMsg0 := by
    rw [hcleared]
    decide
  unfold classifyMessage
  dsimp only
  rw [hnone bootloaderText (by decide), hnone ackText (by decide)]
  simp only [Bool.false_eq_true, if_false]
  unfold checkMessage
  rw [if_pos (Or.inl hhead)]
  decide

/-- A claim that fills the cache, once announced, is dismissed as an error. -/
theorem readMessage_dismissed
    (hsettled : Settled p) (hfull : p.rxClaimLen = uart1RxCacheSize)
    (htail : p.rxBufTail = uart1RxCacheSize) :
    (readMessage p).1 < 0 := by
  rw [readMessage_dismiss hsettled hfull htail]
  have hinside : ihm1StartMsg0 ∈ block 0 rxBufferSize := ⟨le_rfl, by decide⟩
  exact classifyMessage_cleared (memset_inside p.buffSer1 0 rxBufferSize hinside)

/-- A claim that fills the cache is announced, and then dismissed. -/
theorem ends_of_full
    (hsettled : Settled p) (hfull : p.rxClaimLen = uart1RxCacheSize) (command : UInt8) :
    Ends command p := by
  rcases hsettled.tail with htail | htail
  · have hread := readMessage_announce hsettled hfull htail
    have hannounced := hsettled.readMessage
    refine .later ?_ ?_ (.rejected ?_)
    · rw [hread]
    · rw [hread]
      exact (by decide : 0 ≤ runDownload)
    · rw [hread] at hannounced ⊢
      exact readMessage_dismissed hannounced hfull rfl
  · exact .rejected (readMessage_dismissed hsettled hfull (htail.trans hfull))

end Arrivals

end Serial
end AvensysEsp32
