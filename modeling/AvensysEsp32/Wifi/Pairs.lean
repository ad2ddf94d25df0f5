import AvensysEsp32.Wifi.Manager

/-!
# Requests without mixed credentials

The BLE handler copies a packet to its array when the packet grows, and makes
its request from both arrays.  The manager writes the arrays whenever it applies
a request, so an array may hold something else by then.
-/

namespace AvensysEsp32
namespace Wifi

open Foundation

/-- Every request of the BLE handler carries the packets as they were when it
was put in the queue. -/
def Unmixed (s : WifiState) : Prop :=
  ∀ q ∈ s.enqueued, q.request.source ≠ .boot →
    q.request.ssid = q.ssidPacket.string ∧ q.request.password = q.passwordPacket.string

/-- The request is saved, if it is to be, and stored in the two arrays. -/
def Stores (inp : TaskInput) (request : WifiRequest) : Prop :=
  request.persistToNvs = true → inp.nvsSsid = .committed ∧ inp.nvsPass = .committed

/-- The first data of a packet fits in its array, and the manager stores no
request over a packet's string. -/
def Separate (e : WifiEvent) (s : WifiState) : Prop :=
  match e with
  | .bleWrite _ (.wifiSsid value _) =>
      s.ssidPacket.data = none → (cString value).length ≤ maxSsidLength
  | .bleWrite _ (.wifiPassword value _) =>
      s.passwordPacket.data = none → (cString value).length ≤ maxPasswordLength
  | .task inp =>
      match s.phase with
      | .applying request => Stores inp request →
          (0 < s.ssidPacket.len → request.ssid = s.ssidPacket.string) ∧
            (0 < s.passwordPacket.len → request.password = s.passwordPacket.string)
      | _ => True
  | _ => True

/-- A packet that has data is in its array. -/
structure Copied (packet : BlePacket) (array : List UInt8) (maxLen : Nat) : Prop where
  fits : packet.string.length ≤ maxLen
  copied : 0 < packet.len → array = packet.string

/-- What holds of the packets and the arrays while the manager stays away. -/
structure PairInvariant (s : WifiState) : Prop where
  ssid : Copied s.ssidPacket s.wifiSsid maxSsidLength
  password : Copied s.passwordPacket s.wifiPassword maxPasswordLength
  unmixed : Unmixed s

/-! ## Packets and arrays -/

theorem copied_reset (array : List UInt8) (maxLen : Nat) :
    Copied .reset array maxLen where
  fits := Nat.zero_le _
  copied := fun h => absurd h (by decide)

/-- The copy of a packet that fits is its string. -/
theorem copyToString_of_fits
    {packet : BlePacket} {maxLen : Nat} (h : packet.string.length ≤ maxLen) :
    packet.copyToString (maxLen + 1) = packet.string := by
  obtain ⟨data⟩ := packet
  cases data with
  | none => rfl
  | some bytes =>
      show cString (bytes.take maxLen) = cString bytes
      rw [cString_take]
      exact List.take_of_length_le h

/-- A string that fits is not shortened by the request. -/
theorem strlcpy_string
    {packet : BlePacket} {maxLen : Nat} (h : packet.string.length ≤ maxLen) :
    strlcpy packet.string (maxLen + 1) = packet.string := by
  have hidem : cString packet.string = packet.string := cString_idem _
  rw [strlcpy_of_fits (by rw [hidem]; omega), hidem]

/-- Appending keeps a packet's string within the limit, once its first data is. -/
theorem string_append_fits
    {packet : BlePacket} {maxLen : Nat} (value : List UInt8) (allocated : Bool)
    (hfirst : packet.data = none → (cString value).length ≤ maxLen)
    (hfits : packet.string.length ≤ maxLen) :
    (packet.append value maxLen allocated).1.string.length ≤ maxLen := by
  obtain ⟨data⟩ := packet
  unfold BlePacket.append
  cases data with
  | none =>
      cases allocated with
      | true => exact hfirst rfl
      | false => exact hfits
  | some bytes =>
      dsimp only
      split
      · exact Nat.zero_le _
      · rename_i hroom
        split
        · refine le_trans (length_cString_le _) ?_
          show (bytes ++ value).length ≤ maxLen
          rw [List.length_append]
          omega
        · exact Nat.zero_le _

/-- A packet to which nothing could be appended is left empty or as it was. -/
theorem append_failed
    (packet : BlePacket) (value : List UInt8) (maxLen : Nat) (allocated : Bool)
    (h : (packet.append value maxLen allocated).2 = false) :
    (packet.append value maxLen allocated).1 = .reset := by
  obtain ⟨data⟩ := packet
  unfold BlePacket.append at *
  cases data with
  | none =>
      cases allocated with
      | true => cases h
      | false => rfl
  | some bytes =>
      dsimp only at *
      split at h
      · rename_i hlong
        rw [if_pos hlong]
      · rename_i hroom
        rw [if_neg hroom]
        split at h
        · cases h
        · rename_i hnone
          rw [if_neg hnone]

/-! ## Requests -/

/-- What is put in the queue: the request's strings beside the packets. -/
theorem enqueued_mqttEnqueue
    (inp : EnqueueInput) (ssid password : List UInt8) (persistToNvs : Bool) (source : Source)
    (s : WifiState) :
    (mqttEnqueueWifiCredentials inp ssid password persistToNvs source s).1.enqueued =
        s.enqueued ∨
      ∃ request : WifiRequest,
        request.ssid = strlcpy ssid (maxSsidLength + 1) ∧
          request.password = strlcpy password (maxPasswordLength + 1) ∧
          request.source = source ∧
          (mqttEnqueueWifiCredentials inp ssid password persistToNvs source s).1.enqueued =
            s.enqueued ++ [⟨request, s.ssidPacket, s.passwordPacket⟩] := by
  unfold mqttEnqueueWifiCredentials
  dsimp only
  split
  · exact Or.inl rfl
  · split
    · exact Or.inl rfl
    · split
      · exact Or.inl rfl
      · exact Or.inr ⟨_, rfl, rfl, rfl, rfl⟩

section Invariant

variable {s s' : WifiState}

theorem PairInvariant.congr
    (h : PairInvariant s) (hsame : SameClient s s') (henqueued : s'.enqueued = s.enqueued) :
    PairInvariant s' where
  ssid := by
    rw [hsame.ssidPacket, hsame.wifiSsid]
    exact h.ssid
  password := by
    rw [hsame.passwordPacket, hsame.wifiPassword]
    exact h.password
  unmixed := by
    unfold Unmixed
    rw [henqueued]
    exact h.unmixed

/-- What is put in the queue carries the packets, unless it is the boot
request. -/
theorem pairInvariant_mqttEnqueue
    (inp : EnqueueInput) {ssid password : List UInt8} (persistToNvs : Bool) {source : Source}
    (h : PairInvariant s)
    (hcarries : source ≠ .boot →
      strlcpy ssid (maxSsidLength + 1) = s.ssidPacket.string ∧
        strlcpy password (maxPasswordLength + 1) = s.passwordPacket.string) :
    PairInvariant (mqttEnqueueWifiCredentials inp ssid password persistToNvs source s).1 := by
  have hsame := sameClient_mqttEnqueue inp ssid password persistToNvs source s
  rcases enqueued_mqttEnqueue inp ssid password persistToNvs source s with
    hold | ⟨request, hssid, hpassword, hsource, hnew⟩
  · exact h.congr hsame hold
  · have hrest : PairInvariant { (mqttEnqueueWifiCredentials inp ssid password persistToNvs
        source s).1 with enqueued := s.enqueued } :=
      h.congr ⟨hsame.ssidPacket, hsame.passwordPacket, hsame.wifiSsid, hsame.wifiPassword⟩ rfl
    refine ⟨hrest.ssid, hrest.password, ?_⟩
    unfold Unmixed
    rw [hnew]
    intro q hq hboot
    rcases List.mem_append.mp hq with hq | hq
    · exact h.unmixed q hq hboot
    · rw [List.mem_singleton] at hq
      subst hq
      obtain ⟨hssid', hpassword'⟩ := hcarries (hsource ▸ hboot)
      exact ⟨hssid.trans hssid', hpassword.trans hpassword'⟩

/-- The BLE handler makes its requests when both packets are in the arrays. -/
theorem pairInvariant_bleRequest
    (inp : EnqueueInput) (source : Source) (h : PairInvariant s)
    (hssid : s.wifiSsid = s.ssidPacket.string)
    (hpassword : s.wifiPassword = s.passwordPacket.string) :
    PairInvariant (mqttEnqueueWifiCredentials inp s.wifiSsid s.wifiPassword true source s).1 := by
  refine pairInvariant_mqttEnqueue inp true h fun _ => ⟨?_, ?_⟩
  · rw [hssid]
    exact strlcpy_string h.ssid.fits
  · rw [hpassword]
    exact strlcpy_string h.password.fits

theorem pairInvariant_writeWifiSsid
    (inp : EnqueueInput) (value : List UInt8) (allocated : Bool) (h : PairInvariant s)
    (hfirst : s.ssidPacket.data = none → (cString value).length ≤ maxSsidLength) :
    PairInvariant (writeWifiSsid inp value allocated s) := by
  have hfits := string_append_fits value allocated hfirst h.ssid.fits
  have hfailed := append_failed s.ssidPacket value maxSsidLength allocated
  unfold writeWifiSsid
  generalize s.ssidPacket.append value maxSsidLength allocated = result at *
  obtain ⟨packet, appended⟩ := result
  cases appended with
  | true =>
      have hcopied : PairInvariant { s with
          ssidPacket := packet, wifiSsid := packet.copyToString (maxSsidLength + 1) } :=
        ⟨⟨hfits, fun _ => copyToString_of_fits hfits⟩, h.password, h.unmixed⟩
      dsimp only
      rw [if_pos rfl]
      split
      · rename_i hpassword
        exact pairInvariant_bleRequest inp .bleAuto
          (hcopied.congr ⟨rfl, rfl, rfl, rfl⟩ rfl)
          (copyToString_of_fits hfits) (h.password.copied hpassword)
      · exact hcopied.congr ⟨rfl, rfl, rfl, rfl⟩ rfl
  | false =>
      obtain rfl : packet = .reset := hfailed rfl
      exact ⟨copied_reset _ _, h.password, h.unmixed⟩

theorem pairInvariant_writeWifiPassword
    (inp : EnqueueInput) (value : List UInt8) (allocated : Bool) (h : PairInvariant s)
    (hfirst : s.passwordPacket.data = none → (cString value).length ≤ maxPasswordLength) :
    PairInvariant (writeWifiPassword inp value allocated s) := by
  have hfits := string_append_fits value allocated hfirst h.password.fits
  have hfailed := append_failed s.passwordPacket value maxPasswordLength allocated
  unfold writeWifiPassword
  generalize s.passwordPacket.append value maxPasswordLength allocated = result at *
  obtain ⟨packet, appended⟩ := result
  cases appended with
  | true =>
      have hcopied : PairInvariant { s with
          passwordPacket := packet,
          wifiPassword := packet.copyToString (maxPasswordLength + 1) } :=
        ⟨h.ssid, ⟨hfits, fun _ => copyToString_of_fits hfits⟩, h.unmixed⟩
      dsimp only
      rw [if_pos rfl]
      split
      · exact hcopied.congr ⟨rfl, rfl, rfl, rfl⟩ rfl
      · rename_i hssid
        exact pairInvariant_bleRequest inp .bleAuto
          (hcopied.congr ⟨rfl, rfl, rfl, rfl⟩ rfl)
          (h.ssid.copied (Nat.pos_of_ne_zero hssid)) (copyToString_of_fits hfits)
  | false =>
      obtain rfl : packet = .reset := hfailed rfl
      exact ⟨h.ssid, copied_reset _ _, h.unmixed⟩

theorem pairInvariant_reset
    (h : PairInvariant s) (hssid : s'.ssidPacket = .reset) (hpassword : s'.passwordPacket = .reset)
    (henqueued : s'.enqueued = s.enqueued) :
    PairInvariant s' where
  ssid := by
    rw [hssid]
    exact copied_reset _ _
  password := by
    rw [hpassword]
    exact copied_reset _ _
  unmixed := by
    unfold Unmixed
    rw [henqueued]
    exact h.unmixed

theorem pairInvariant_writeConnectToCloud
    (inp : EnqueueInput) (h : PairInvariant s) :
    PairInvariant (writeConnectToCloud inp s) := by
  unfold writeConnectToCloud
  split
  · exact h.congr ⟨rfl, rfl, rfl, rfl⟩ rfl
  · rename_i hboth
    obtain ⟨hssid, hpassword⟩ := not_or.mp hboth
    have happlying : PairInvariant (bleSetProvStatus .applying s) :=
      h.congr ⟨rfl, rfl, rfl, rfl⟩ rfl
    have hqueued := pairInvariant_bleRequest inp .ble happlying
      (h.ssid.copied (Nat.pos_of_ne_zero hssid)) (h.password.copied (Nat.pos_of_ne_zero hpassword))
    dsimp only
    split
    · exact pairInvariant_reset hqueued rfl rfl rfl
    · exact hqueued.congr ⟨rfl, rfl, rfl, rfl⟩ rfl

/-- The manager stores a request only over packets that hold it. -/
theorem pairInvariant_storeCredentials
    {request : WifiRequest} (h : PairInvariant s)
    (hssid : 0 < s.ssidPacket.len → request.ssid = s.ssidPacket.string)
    (hpassword : 0 < s.passwordPacket.len → request.password = s.passwordPacket.string) :
    PairInvariant (storeCredentials request s).1 := by
  have hstored : PairInvariant { s with
      wifiSsid := strlcpy request.ssid (maxSsidLength + 1)
      wifiPassword := strlcpy request.password (maxPasswordLength + 1)
      wifiManagerState := .applying
      phase := .connecting request 0 } := by
    refine ⟨⟨h.ssid.fits, fun hlen => ?_⟩, ⟨h.password.fits, fun hlen => ?_⟩, h.unmixed⟩
    · show strlcpy request.ssid (maxSsidLength + 1) = s.ssidPacket.string
      rw [hssid hlen]
      exact strlcpy_string h.ssid.fits
    · show strlcpy request.password (maxPasswordLength + 1) = s.passwordPacket.string
      rw [hpassword hlen]
      exact strlcpy_string h.password.fits
  obtain ⟨hsame, henqueued, -, -⟩ := sameClient_wifiDisconnect { s with
    wifiSsid := strlcpy request.ssid (maxSsidLength + 1)
    wifiPassword := strlcpy request.password (maxPasswordLength + 1)
    wifiManagerState := .applying
    phase := .connecting request 0 }
  exact hstored.congr hsame henqueued

theorem pairInvariant_persistAndStore
    (inp : TaskInput) {request : WifiRequest} (h : PairInvariant s)
    (hseparate : Stores inp request →
      (0 < s.ssidPacket.len → request.ssid = s.ssidPacket.string) ∧
        (0 < s.passwordPacket.len → request.password = s.passwordPacket.string)) :
    PairInvariant (persistAndStore inp request s).1 := by
  unfold Stores at hseparate
  unfold persistAndStore
  cases hpersist : request.persistToNvs with
  | false =>
      obtain ⟨hssid, hpassword⟩ := hseparate fun h => absurd (hpersist.symm.trans h) (by decide)
      exact pairInvariant_storeCredentials h hssid hpassword
  | true =>
      rw [if_pos rfl]
      cases hnvsSsid : inp.nvsSsid with
      | failed => exact h.congr ⟨rfl, rfl, rfl, rfl⟩ rfl
      | uncommitted => exact h.congr ⟨rfl, rfl, rfl, rfl⟩ rfl
      | committed =>
          cases hnvsPass : inp.nvsPass with
          | failed => exact h.congr ⟨rfl, rfl, rfl, rfl⟩ rfl
          | uncommitted => exact h.congr ⟨rfl, rfl, rfl, rfl⟩ rfl
          | committed =>
              obtain ⟨hssid, hpassword⟩ := hseparate fun _ => ⟨hnvsSsid, hnvsPass⟩
              have hsaved : PairInvariant { s with
                  nvsSsid := some request.ssid
                  nvsPass := some request.password } := h.congr ⟨rfl, rfl, rfl, rfl⟩ rfl
              exact pairInvariant_storeCredentials hsaved hssid hpassword

theorem pairInvariant_mqttTaskStep
    (inp : TaskInput) (h : PairInvariant s) (hseparate : Separate (.task inp) s) :
    PairInvariant (mqttTaskStep inp s).1 := by
  unfold Separate at hseparate
  unfold mqttTaskStep
  cases hphase : s.phase with
  | starting =>
      -- The boot request is put in the queue; it is not the handler's.
      have hqueued : PairInvariant (mqttEnqueueWifiCredentials ⟨inp.tick, inp.queueCreated⟩
          s.wifiSsid s.wifiPassword false .boot s).1 :=
        pairInvariant_mqttEnqueue _ false h fun hboot => absurd rfl hboot
      dsimp only
      split
      · exact hqueued
      · exact hqueued.congr ⟨rfl, rfl, rfl, rfl⟩ rfl
  | receiving =>
      dsimp only
      split
      · exact h
      · unfold beginApply
        dsimp only
        split
        · exact h.congr ⟨rfl, rfl, rfl, rfl⟩ rfl
        · split
          · exact h.congr ⟨rfl, rfl, rfl, rfl⟩ rfl
          · exact h.congr ⟨rfl, rfl, rfl, rfl⟩ rfl
  | cooling request => exact h.congr ⟨rfl, rfl, rfl, rfl⟩ rfl
  | applying request =>
      rw [hphase] at hseparate
      exact pairInvariant_persistAndStore inp h hseparate
  | connecting request retry =>
      obtain ⟨hsame, henqueued, -⟩ := sameClient_attempt inp request s retry
      exact h.congr hsame henqueued
  | awaitingIp request retry =>
      obtain ⟨hsame, henqueued, -⟩ := sameClient_awaitIp inp request s retry
      exact h.congr hsame henqueued

theorem pairInvariant_wifiStep
    (e : WifiEvent) (s : WifiState) (hseparate : Separate e s) (h : PairInvariant s) :
    PairInvariant (wifiStep e s) := by
  cases e with
  | bleWrite inp write =>
      have htimer : PairInvariant { s with provTimer := true } :=
        h.congr ⟨rfl, rfl, rfl, rfl⟩ rfl
      cases write with
      | wifiSsid value allocated =>
          exact pairInvariant_writeWifiSsid inp value allocated htimer hseparate
      | wifiPassword value allocated =>
          exact pairInvariant_writeWifiPassword inp value allocated htimer hseparate
      | connectToCloud => exact pairInvariant_writeConnectToCloud inp htimer
  | provTimeout =>
      show PairInvariant (if s.provTimer then bleProvTimeoutCallback s else s)
      split
      · exact pairInvariant_reset h rfl rfl rfl
      · exact h
  | bleDisconnected => exact pairInvariant_reset h rfl rfl rfl
  | gotIp =>
      obtain ⟨group, flag, heq⟩ := onGotIp_eq s
      have hstep : wifiStep .gotIp s = _ := heq
      rw [hstep]
      exact h.congr ⟨rfl, rfl, rfl, rfl⟩ rfl
  | staDisconnected =>
      obtain ⟨group, flag, heq⟩ := onWifiDisconnect_eq s
      have hstep : wifiStep .staDisconnected s = _ := heq
      rw [hstep]
      exact h.congr ⟨rfl, rfl, rfl, rfl⟩ rfl
  | task inp => exact pairInvariant_mqttTaskStep inp h hseparate

end Invariant

/-- In every run from boot in which first data fits and the manager stores no
request over a packet, all that the BLE handler has put in the queue carries
the packets of that moment. -/
theorem requests_unmixed
    (opened : Bool) (nvsSsid nvsPass : Option (List UInt8)) (events : List WifiEvent)
    (hseparate : Along wifiStep Separate events (.boot opened nvsSsid nvsPass)) :
    Unmixed (run wifiStep events (.boot opened nvsSsid nvsPass)) := by
  have hboot : PairInvariant (.boot opened nvsSsid nvsPass) :=
    ⟨copied_reset _ _, copied_reset _ _, fun q hq => absurd hq (List.not_mem_nil)⟩
  exact (Along.invariant pairInvariant_wifiStep hseparate hboot).unmixed

/-! ## The manager between two writes -/

section Example

/-- The task has begun to apply its boot request. -/
def bootRequestBegun : List WifiEvent :=
  [taskAt 1000, taskAt 1000]

/-- Both packets are written while the boot request waits. -/
theorem bothWrites_unmixed :
    Unmixed (run wifiStep
      (bootRequestBegun ++
        [.bleWrite ⟨1500, true⟩ (.wifiPassword [98] true),
          .bleWrite ⟨1600, true⟩ (.wifiSsid [97] true)])
      (.boot true none none)) :=
  requests_unmixed true none none _
    ⟨trivial, trivial, fun _ => by decide, fun _ => by decide, trivial⟩

/-- The boot request is stored between the two writes: the request carries the
password of the boot request. -/
theorem storedBetween_mixed :
    ¬ Unmixed (run wifiStep
      (bootRequestBegun ++
        [.bleWrite ⟨1500, true⟩ (.wifiPassword [98] true),
          taskAt 1550,
          .bleWrite ⟨1600, true⟩ (.wifiSsid [97] true)])
      (.boot true none none)) := by
  intro h
  have hmixed := h
    ⟨{ ssid := [97], password := defaultPassword, persistToNvs := true, requestId := 2,
       enqueueTick := 1600, source := .bleAuto }, ⟨some [97]⟩, ⟨some [98]⟩⟩
    (by decide +kernel) (by decide)
  exact absurd hmixed.2 (by decide)

end Example

end Wifi
end AvensysEsp32
