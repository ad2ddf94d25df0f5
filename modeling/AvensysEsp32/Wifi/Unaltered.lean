import AvensysEsp32.Wifi.Manager

/-!
# Credentials on their way to the radio

A client writes the SSID and the password in pieces.  They pass through the
packets, the two arrays, the request and the station's configuration, and
through NVS.  The fields of the configuration have no room for the NUL that
`strlcpy` puts behind a string of the full length.
-/

namespace AvensysEsp32
namespace Wifi

open Foundation

/-! ## A provisioning -/

/-- A write of a piece of the SSID or of the password. -/
structure Piece where
  inp : EnqueueInput
  ofPassword : Bool
  value : List UInt8

def Piece.event (piece : Piece) : WifiEvent :=
  .bleWrite piece.inp
    (if piece.ofPassword then .wifiPassword piece.value true else .wifiSsid piece.value true)

/-- What the pieces of one kind come to. -/
def partOf (ofPassword : Bool) (pieces : List Piece) : List UInt8 :=
  (pieces.filter fun piece => piece.ofPassword == ofPassword).flatMap Piece.value

/-- The SSID and the password in pieces, and the write that connects. -/
structure ProvisionWrites where
  ssid : List UInt8
  password : List UInt8
  pieces : List Piece
  connect : EnqueueInput
  ssid_eq : partOf false pieces = ssid
  password_eq : partOf true pieces = password
  nonempty : ∀ piece ∈ pieces, piece.value ≠ []
  ssid_length : 1 ≤ ssid.length ∧ ssid.length ≤ maxSsidLength
  password_length : 1 ≤ password.length ∧ password.length ≤ maxPasswordLength
  ssid_noNul : ∀ b ∈ ssid, b ≠ 0
  password_noNul : ∀ b ∈ password, b ≠ 0

namespace ProvisionWrites

variable (p : ProvisionWrites)

def events : List WifiEvent :=
  p.pieces.map Piece.event ++ [.bleWrite p.connect .connectToCloud]

/-- The configuration that holds the credentials, zeros behind them. -/
def config : WifiConfig where
  ssid := p.ssid ++ List.replicate (32 - p.ssid.length) 0
  password := p.password ++ List.replicate (64 - p.password.length) 0

end ProvisionWrites

/-- The task waits at the queue, not connected, and nothing is collected. -/
structure AwaitsClient (s : WifiState) : Prop where
  phase : s.phase = .receiving
  ssidPacket : s.ssidPacket = .reset
  passwordPacket : s.passwordPacket = .reset
  notConnected : s.wifiConnectedFlag = false
  queue : ∃ queue, s.wifiReqQueue = some queue ∧ queue.length ≤ wifiReqQueueLen

def WifiEvent.isWrite : WifiEvent → Bool
  | .bleWrite _ _ => true
  | _ => false

/-- What `esp_wifi_set_config` is given in an event is the configuration. -/
def Gives (config : WifiConfig) (e : WifiEvent) (s : WifiState) : Prop :=
  ∀ c, (wifiStep e s).configs = s.configs ++ [c] → c = config

/-- When the request has been saved, the next boot finds the credentials. -/
def Restores (p : ProvisionWrites) (e : WifiEvent) (s : WifiState) : Prop :=
  ∀ request, s.phase = .applying request → (wifiStep e s).phase = .connecting request 0 →
    let next := WifiState.boot true (wifiStep e s).nvsSsid (wifiStep e s).nvsPass
    next.wifiSsid = p.ssid ∧ next.wifiPassword = p.password

/-- After the writes, whatever happens but further writes, the radio is given
the credentials, and so is the next boot. -/
def Unaltered (p : ProvisionWrites) (s : WifiState) : Prop :=
  ∀ later : List WifiEvent, (∀ e ∈ later, e.isWrite = false) →
    Along wifiStep (fun e t => Gives p.config e t ∧ Restores p e t) later
      (run wifiStep p.events s)

/-! ## The queue -/

/-- The request that is put in a queue that exists is its last. -/
theorem queue_mqttEnqueue
    (inp : EnqueueInput) (ssid password : List UInt8) (source : Source) {s : WifiState}
    {queue : List WifiRequest} (hqueue : s.wifiReqQueue = some queue)
    (hlength : queue.length ≤ wifiReqQueueLen) (hssid : ssid ≠ []) :
    ∃ (before : List WifiRequest) (request : WifiRequest),
      (mqttEnqueueWifiCredentials inp ssid password true source s).1.wifiReqQueue =
          some (before ++ [request]) ∧
        before.length < wifiReqQueueLen ∧
        request.ssid = strlcpy ssid (maxSsidLength + 1) ∧
        request.password = strlcpy password (maxPasswordLength + 1) ∧
        request.persistToNvs = true ∧
        (mqttEnqueueWifiCredentials inp ssid password true source s).2 = true := by
  have hqueue? : (s.wifiReqQueue <|> if inp.queueCreated then some [] else none) = some queue := by
    rw [hqueue]
    rfl
  unfold mqttEnqueueWifiCredentials
  dsimp only
  rw [hqueue?]
  dsimp only
  rw [if_neg hssid]
  unfold xQueueSend
  by_cases hroom : queue.length < wifiReqQueueLen
  · rw [if_pos hroom]
    exact ⟨queue, _, rfl, hroom, rfl, rfl, rfl, rfl⟩
  · have htail : queue.tail.length < wifiReqQueueLen := by
      rw [List.length_tail]
      simp only [wifiReqQueueLen] at *
      omega
    rw [if_neg hroom, if_pos htail]
    exact ⟨queue.tail, _, rfl, htail, rfl, rfl, rfl, rfl⟩

/-! ## The pieces -/

/-- A packet and its array hold what has been written. -/
structure Holds (bytes : List UInt8) (packet : BlePacket) (array : List UInt8) : Prop where
  packet : packet = if bytes = [] then .reset else ⟨some bytes⟩
  array : bytes ≠ [] → array = bytes

theorem Holds.len
    {bytes : List UInt8} {packet : BlePacket} {array : List UInt8} (h : Holds bytes packet array) :
    packet.len = bytes.length := by
  rw [h.packet]
  split
  · rename_i hbytes
    rw [hbytes]
    rfl
  · rfl

/-- A piece that fits is appended, and the array takes the whole. -/
theorem Holds.append
    {bytes : List UInt8} {packet : BlePacket} {array : List UInt8} (h : Holds bytes packet array)
    {value : List UInt8} {maxLen : Nat} (hvalue : value ≠ [])
    (hlength : (bytes ++ value).length ≤ maxLen) (hnoNul : ∀ b ∈ bytes ++ value, b ≠ 0) :
    packet.append value maxLen true = (⟨some (bytes ++ value)⟩, true) ∧
      Holds (bytes ++ value) ⟨some (bytes ++ value)⟩
        (BlePacket.copyToString ⟨some (bytes ++ value)⟩ (maxLen + 1)) := by
  have hne : bytes ++ value ≠ [] := by simp [hvalue]
  have hcopy : BlePacket.copyToString ⟨some (bytes ++ value)⟩ (maxLen + 1) = bytes ++ value := by
    show cString ((bytes ++ value).take maxLen) = _
    rw [List.take_of_length_le hlength, cString_of_no_nul hnoNul]
  refine ⟨?_, ⟨(if_neg hne).symm, fun _ => hcopy⟩⟩
  rw [h.packet]
  unfold BlePacket.append
  by_cases hbytes : bytes = []
  · rw [if_pos hbytes, hbytes]
    rfl
  · rw [if_neg hbytes]
    rw [List.length_append] at hlength
    dsimp only
    rw [if_neg (by omega), if_pos rfl]

/-- The state after some pieces. -/
structure Collecting (ssid password : List UInt8) (s : WifiState) : Prop where
  phase : s.phase = .receiving
  notConnected : s.wifiConnectedFlag = false
  ssid : Holds ssid s.ssidPacket s.wifiSsid
  password : Holds password s.passwordPacket s.wifiPassword
  queue : ∃ queue, s.wifiReqQueue = some queue ∧ queue.length ≤ wifiReqQueueLen

section Pieces

variable {s s' : WifiState} {ssid password value : List UInt8}

theorem AwaitsClient.collecting
    (h : AwaitsClient s) :
    Collecting [] [] s where
  phase := h.phase
  notConnected := h.notConnected
  ssid := ⟨h.ssidPacket, fun hne => absurd rfl hne⟩
  password := ⟨h.passwordPacket, fun hne => absurd rfl hne⟩
  queue := h.queue

theorem Collecting.congr
    (h : Collecting ssid password s) (hmanager : SameManager s s') (hclient : SameClient s s')
    (hqueue : s'.wifiReqQueue = s.wifiReqQueue) :
    Collecting ssid password s' where
  phase := hmanager.phase.trans h.phase
  notConnected := hmanager.wifiConnectedFlag.trans h.notConnected
  ssid := by
    rw [hclient.ssidPacket, hclient.wifiSsid]
    exact h.ssid
  password := by
    rw [hclient.passwordPacket, hclient.wifiPassword]
    exact h.password
  queue := by
    rw [hqueue]
    exact h.queue

/-- A request made on the way leaves what is collected. -/
theorem Collecting.mqttEnqueue
    (h : Collecting ssid password s) (inp : EnqueueInput) (source : Source) (hssid : ssid ≠ []) :
    Collecting ssid password
      (mqttEnqueueWifiCredentials inp s.wifiSsid s.wifiPassword true source s).1 := by
  have hmanager := sameManager_mqttEnqueue inp s.wifiSsid s.wifiPassword true source s
  have hclient := sameClient_mqttEnqueue inp s.wifiSsid s.wifiPassword true source s
  obtain ⟨queue, hqueue, hlength⟩ := h.queue
  obtain ⟨before, request, hafter, hbefore, -⟩ := queue_mqttEnqueue inp s.wifiSsid s.wifiPassword
    source hqueue hlength (by rw [h.ssid.array hssid]; exact hssid)
  generalize (mqttEnqueueWifiCredentials inp s.wifiSsid s.wifiPassword true source s).1 = t at *
  have hbefore' : Collecting ssid password { t with wifiReqQueue := s.wifiReqQueue } :=
    h.congr ⟨hmanager.1, hmanager.2, hmanager.3, hmanager.4, hmanager.5, hmanager.6, hmanager.7,
      hmanager.8, hmanager.9⟩ ⟨hclient.1, hclient.2, hclient.3, hclient.4⟩ rfl
  refine ⟨hbefore'.phase, hbefore'.notConnected, hbefore'.ssid, hbefore'.password,
    ⟨_, hafter, ?_⟩⟩
  rw [List.length_append, List.length_singleton]
  omega

theorem Collecting.writeWifiSsid
    (h : Collecting ssid password s) (inp : EnqueueInput) (hvalue : value ≠ [])
    (hlength : (ssid ++ value).length ≤ maxSsidLength) (hnoNul : ∀ b ∈ ssid ++ value, b ≠ 0) :
    Collecting (ssid ++ value) password (writeWifiSsid inp value true s) := by
  obtain ⟨happend, hholds⟩ := h.ssid.append hvalue hlength hnoNul
  unfold Wifi.writeWifiSsid
  rw [happend]
  dsimp only
  rw [if_pos rfl]
  have hcopied : Collecting (ssid ++ value) password { s with
      ssidPacket := ⟨some (ssid ++ value)⟩
      wifiSsid := BlePacket.copyToString ⟨some (ssid ++ value)⟩ (maxSsidLength + 1) } :=
    ⟨h.phase, h.notConnected, hholds, h.password, h.queue⟩
  split
  · have hready := hcopied.congr (sameManager_bleSetProvStatus .ready _) ⟨rfl, rfl, rfl, rfl⟩ rfl
    exact hready.mqttEnqueue inp .bleAuto (by simp [hvalue])
  · exact hcopied.congr (sameManager_bleSetProvStatus _ _) ⟨rfl, rfl, rfl, rfl⟩ rfl

theorem Collecting.writeWifiPassword
    (h : Collecting ssid password s) (inp : EnqueueInput) (hvalue : value ≠ [])
    (hlength : (password ++ value).length ≤ maxPasswordLength)
    (hnoNul : ∀ b ∈ password ++ value, b ≠ 0) :
    Collecting ssid (password ++ value) (writeWifiPassword inp value true s) := by
  obtain ⟨happend, hholds⟩ := h.password.append hvalue hlength hnoNul
  unfold Wifi.writeWifiPassword
  rw [happend]
  dsimp only
  rw [if_pos rfl]
  have hcopied : Collecting ssid (password ++ value) { s with
      passwordPacket := ⟨some (password ++ value)⟩
      wifiPassword := BlePacket.copyToString ⟨some (password ++ value)⟩
        (maxPasswordLength + 1) } :=
    ⟨h.phase, h.notConnected, h.ssid, hholds, h.queue⟩
  split
  · exact hcopied.congr (sameManager_bleSetProvStatus _ _) ⟨rfl, rfl, rfl, rfl⟩ rfl
  · rename_i hlen
    have hssid : ssid ≠ [] := by
      intro hempty
      apply hlen
      show s.ssidPacket.len = 0
      rw [h.ssid.len, hempty]
      rfl
    have hready := hcopied.congr (sameManager_bleSetProvStatus .ready _) ⟨rfl, rfl, rfl, rfl⟩ rfl
    exact hready.mqttEnqueue inp .bleAuto hssid

theorem partOf_cons (ofPassword : Bool) (piece : Piece) (pieces : List Piece) :
    partOf ofPassword (piece :: pieces) =
      if piece.ofPassword = ofPassword then piece.value ++ partOf ofPassword pieces
      else partOf ofPassword pieces := by
  unfold partOf
  by_cases h : piece.ofPassword = ofPassword
  · rw [List.filter_cons_of_pos (by simpa using h), List.flatMap_cons, if_pos h]
  · rw [List.filter_cons_of_neg (by simpa using h), if_neg h]

/-- Whatever the order of the pieces, each part is collected. -/
theorem Collecting.run_pieces
    (pieces : List Piece) (h : Collecting ssid password s)
    (hnonempty : ∀ piece ∈ pieces, piece.value ≠ [])
    (hssid : (ssid ++ partOf false pieces).length ≤ maxSsidLength)
    (hpassword : (password ++ partOf true pieces).length ≤ maxPasswordLength)
    (hssidNoNul : ∀ b ∈ ssid ++ partOf false pieces, b ≠ 0)
    (hpasswordNoNul : ∀ b ∈ password ++ partOf true pieces, b ≠ 0) :
    Collecting (ssid ++ partOf false pieces) (password ++ partOf true pieces)
      (run wifiStep (pieces.map Piece.event) s) := by
  induction pieces generalizing ssid password s with
  | nil => simpa [partOf] using h
  | cons piece pieces ih =>
      have hvalue := hnonempty piece List.mem_cons_self
      have hrest := fun p hp => hnonempty p (List.mem_cons_of_mem piece hp)
      have htimer : Collecting ssid password { s with provTimer := true } :=
        h.congr ⟨rfl, rfl, rfl, rfl, rfl, rfl, rfl, rfl, rfl⟩ ⟨rfl, rfl, rfl, rfl⟩ rfl
      rw [List.map_cons, run_cons]
      cases hkind : piece.ofPassword with
      | false =>
          have hevent : piece.event = .bleWrite piece.inp (.wifiSsid piece.value true) := by
            simp [Piece.event, hkind]
          have hself : partOf false (piece :: pieces) = piece.value ++ partOf false pieces := by
            rw [partOf_cons, if_pos hkind]
          have hother : partOf true (piece :: pieces) = partOf true pieces := by
            rw [partOf_cons, if_neg (by simp [hkind])]
          rw [hself, ← List.append_assoc] at hssid hssidNoNul ⊢
          rw [hother] at hpassword hpasswordNoNul ⊢
          rw [hevent]
          refine ih (htimer.writeWifiSsid piece.inp hvalue ?_ ?_) hrest hssid hpassword hssidNoNul
            hpasswordNoNul
          · rw [List.length_append] at hssid
            omega
          · exact fun b hb => hssidNoNul b (List.mem_append_left _ hb)
      | true =>
          have hevent : piece.event = .bleWrite piece.inp (.wifiPassword piece.value true) := by
            simp [Piece.event, hkind]
          have hself : partOf true (piece :: pieces) = piece.value ++ partOf true pieces := by
            rw [partOf_cons, if_pos hkind]
          have hother : partOf false (piece :: pieces) = partOf false pieces := by
            rw [partOf_cons, if_neg (by simp [hkind])]
          rw [hself, ← List.append_assoc] at hpassword hpasswordNoNul ⊢
          rw [hother] at hssid hssidNoNul ⊢
          rw [hevent]
          refine ih (htimer.writeWifiPassword piece.inp hvalue ?_ ?_) hrest hssid hpassword
            hssidNoNul hpasswordNoNul
          · rw [List.length_append] at hpassword
            omega
          · exact fun b hb => hpasswordNoNul b (List.mem_append_left _ hb)

end Pieces

/-! ## The request on its way -/

/-- The request is the client's. -/
def Carries (p : ProvisionWrites) (request : WifiRequest) : Prop :=
  request.ssid = p.ssid ∧ request.password = p.password ∧ request.persistToNvs = true

/-- The request that is applied, or the last in the queue, is the client's. -/
def CarriedBy (p : ProvisionWrites) (phase : TaskPhase) (queue : Option (List WifiRequest)) :
    Prop :=
  match phase with
  | .starting => False
  | .receiving => ∀ latest, queue.bind List.getLast? = some latest → Carries p latest
  | .cooling request => Carries p request ∧ queue = some []
  | .applying request => Carries p request ∧ queue = some []
  | .connecting request _ => Carries p request ∧ queue = some []
  | .awaitingIp request _ => Carries p request ∧ queue = some []

/-- The client's credentials are in the arrays and in the request. -/
structure Underway (p : ProvisionWrites) (s : WifiState) : Prop where
  wifiSsid : s.wifiSsid = p.ssid
  wifiPassword : s.wifiPassword = p.password
  request : CarriedBy p s.phase s.wifiReqQueue

section Writes

variable (p : ProvisionWrites) {s s' : WifiState}

/-- A request that is put in the queue ends the collection. -/
theorem writeConnectToCloud_queued
    (inp : EnqueueInput) (hlen : ¬ (s.ssidPacket.len = 0 ∨ s.passwordPacket.len = 0))
    (hqueued : (mqttEnqueueWifiCredentials inp s.wifiSsid s.wifiPassword true .ble
      (bleSetProvStatus .applying s)).2 = true) :
    writeConnectToCloud inp s =
      { bleSetProvStatus .done (mqttEnqueueWifiCredentials inp s.wifiSsid s.wifiPassword true .ble
          (bleSetProvStatus .applying s)).1 with
        ssidPacket := .reset
        passwordPacket := .reset } := by
  unfold writeConnectToCloud
  rw [if_neg hlen]
  exact if_pos hqueued

/-- A string that fits is not shortened on its way into the request. -/
theorem strlcpy_noNul
    {bytes : List UInt8} {maxLen : Nat} (hnoNul : ∀ b ∈ bytes, b ≠ 0)
    (hlength : bytes.length ≤ maxLen) :
    strlcpy bytes (maxLen + 1) = bytes := by
  have hstring := cString_of_no_nul hnoNul
  rw [strlcpy_of_fits (by rw [hstring]; omega), hstring]

/-- After the writes the client's request is the last in the queue. -/
theorem run_events
    (h : AwaitsClient s) :
    Underway p (run wifiStep p.events s) ∧
      (run wifiStep p.events s).phase = .receiving ∧
      (run wifiStep p.events s).wifiConnectedFlag = false ∧
      ∃ request, (run wifiStep p.events s).wifiReqQueue.bind List.getLast? = some request ∧
        Carries p request := by
  have hcollecting := h.collecting.run_pieces p.pieces p.nonempty
    (by rw [p.ssid_eq]; exact p.ssid_length.2) (by rw [p.password_eq]; exact p.password_length.2)
    (by rw [p.ssid_eq]; exact p.ssid_noNul) (by rw [p.password_eq]; exact p.password_noNul)
  rw [p.ssid_eq, p.password_eq, List.nil_append, List.nil_append] at hcollecting
  have hssid : p.ssid ≠ [] := List.ne_nil_of_length_pos p.ssid_length.1
  have hpassword : p.password ≠ [] := List.ne_nil_of_length_pos p.password_length.1
  unfold ProvisionWrites.events
  rw [run_append]
  generalize run wifiStep (p.pieces.map Piece.event) s = t at *
  have hssidArray := hcollecting.ssid.array hssid
  have hpasswordArray := hcollecting.password.array hpassword
  have happlying : Collecting p.ssid p.password
      (bleSetProvStatus .applying { t with provTimer := true }) :=
    hcollecting.congr ⟨rfl, rfl, rfl, rfl, rfl, rfl, rfl, rfl, rfl⟩ ⟨rfl, rfl, rfl, rfl⟩ rfl
  have hlen : ¬ (t.ssidPacket.len = 0 ∨ t.passwordPacket.len = 0) := by
    rw [hcollecting.ssid.len, hcollecting.password.len]
    have := p.ssid_length.1
    have := p.password_length.1
    omega
  obtain ⟨queue, hqueue, hlength⟩ := happlying.queue
  obtain ⟨before, request, hafter, -, hr₁, hr₂, hr₃, hqueued⟩ := queue_mqttEnqueue p.connect
    t.wifiSsid t.wifiPassword .ble hqueue hlength (by rw [hssidArray]; exact hssid)
  have hmanager := (sameManager_bleSetProvStatus .applying { t with provTimer := true }).trans
    (sameManager_mqttEnqueue p.connect t.wifiSsid t.wifiPassword true .ble _)
  have hclient := sameClient_mqttEnqueue p.connect t.wifiSsid t.wifiPassword true .ble
    (bleSetProvStatus .applying { t with provTimer := true })
  have hstep : run wifiStep [.bleWrite p.connect .connectToCloud] t = _ :=
    writeConnectToCloud_queued (s := { t with provTimer := true }) p.connect hlen hqueued
  rw [hstep]
  clear hstep hqueued
  dsimp only at *
  generalize (mqttEnqueueWifiCredentials p.connect t.wifiSsid t.wifiPassword true .ble
    (bleSetProvStatus .applying { t with provTimer := true })).1 = t' at *
  have hcarries : Carries p request := by
    rw [hssidArray, strlcpy_noNul p.ssid_noNul p.ssid_length.2] at hr₁
    rw [hpasswordArray, strlcpy_noNul p.password_noNul p.password_length.2] at hr₂
    exact ⟨hr₁, hr₂, hr₃⟩
  have hphase : t'.phase = .receiving := hmanager.phase.trans hcollecting.phase
  have hlast : t'.wifiReqQueue.bind List.getLast? = some request := by
    rw [hafter]
    simp
  have hcarried : CarriedBy p t'.phase t'.wifiReqQueue := by
    rw [hphase]
    intro latest hlatest
    rw [hlast] at hlatest
    cases hlatest
    exact hcarries
  exact ⟨⟨hclient.wifiSsid.trans hssidArray, hclient.wifiPassword.trans hpasswordArray, hcarried⟩,
    hphase, hmanager.wifiConnectedFlag.trans hcollecting.notConnected, request, hlast, hcarries⟩

end Writes

/-! ## Until the request is done -/

section Later

variable {p : ProvisionWrites} {s s' : WifiState}

theorem Underway.congr
    (h : Underway p s) (hclient : SameClient s s') (hphase : s'.phase = s.phase)
    (hqueue : s'.wifiReqQueue = s.wifiReqQueue) :
    Underway p s' where
  wifiSsid := hclient.wifiSsid.trans h.wifiSsid
  wifiPassword := hclient.wifiPassword.trans h.wifiPassword
  request := by
    rw [hphase, hqueue]
    exact h.request

/-- Nothing else is in the queue once the request has been taken from it. -/
theorem carriedBy_receiving (p : ProvisionWrites) :
    CarriedBy p .receiving (some []) := by
  intro latest hlatest
  cases hlatest

theorem underway_attempt
    (inp : TaskInput) {request : WifiRequest} {retry : Nat} (h : Underway p s)
    (hphase : s.phase = .connecting request retry) :
    Underway p (attempt inp request s retry).1 := by
  obtain ⟨hclient, -, hqueue⟩ := sameClient_attempt inp request s retry
  have hrequest := h.request
  rw [hphase] at hrequest
  refine ⟨hclient.wifiSsid.trans h.wifiSsid, hclient.wifiPassword.trans h.wifiPassword, ?_⟩
  rw [hqueue, hrequest.2]
  unfold attempt attemptFailed
  dsimp only
  split
  · exact ⟨hrequest.1, rfl⟩
  · split
    · exact ⟨hrequest.1, rfl⟩
    · exact carriedBy_receiving p

theorem underway_awaitIp
    (inp : TaskInput) {request : WifiRequest} {retry : Nat} (h : Underway p s)
    (hphase : s.phase = .awaitingIp request retry) :
    Underway p (awaitIp inp request s retry).1 := by
  obtain ⟨hclient, -, hqueue⟩ := sameClient_awaitIp inp request s retry
  have hrequest := h.request
  rw [hphase] at hrequest
  refine ⟨hclient.wifiSsid.trans h.wifiSsid, hclient.wifiPassword.trans h.wifiPassword, ?_⟩
  rw [hqueue, hrequest.2]
  unfold awaitIp attemptFailed
  dsimp only
  split
  · exact carriedBy_receiving p
  · split
    · split
      · exact ⟨hrequest.1, rfl⟩
      · exact carriedBy_receiving p
    · rw [hphase]
      exact ⟨hrequest.1, rfl⟩

/-- Storing the request writes the same credentials again. -/
theorem underway_storeCredentials
    {request : WifiRequest} (hcarries : Carries p request)
    (hqueue : s.wifiReqQueue = some []) :
    Underway p (storeCredentials request s).1 := by
  obtain ⟨hclient, -, hsame, -⟩ := sameClient_wifiDisconnect { s with
    wifiSsid := strlcpy request.ssid (maxSsidLength + 1)
    wifiPassword := strlcpy request.password (maxPasswordLength + 1)
    wifiManagerState := .applying
    phase := .connecting request 0 }
  have hphase : (storeCredentials request s).1.phase = .connecting request 0 := by
    unfold storeCredentials wifiDisconnect
    dsimp only
    split
    · rfl
    · rfl
  refine ⟨hclient.wifiSsid.trans ?_, hclient.wifiPassword.trans ?_, ?_⟩
  · show strlcpy request.ssid (maxSsidLength + 1) = p.ssid
    rw [hcarries.1]
    exact strlcpy_noNul p.ssid_noNul p.ssid_length.2
  · show strlcpy request.password (maxPasswordLength + 1) = p.password
    rw [hcarries.2.1]
    exact strlcpy_noNul p.password_noNul p.password_length.2
  · rw [hphase]
    exact ⟨hcarries, hsame.trans hqueue⟩

/-- The client's request is saved before it is stored. -/
theorem persistAndStore_carries
    (inp : TaskInput) {request : WifiRequest} (h : Underway p s) (hcarries : Carries p request)
    (hqueue : s.wifiReqQueue = some []) :
    Underway p (persistAndStore inp request s).1 ∧
      ((persistAndStore inp request s).1.phase = .connecting request 0 →
        (persistAndStore inp request s).1.nvsSsid = some p.ssid ∧
          (persistAndStore inp request s).1.nvsPass = some p.password) := by
  have hfailed : ∀ t : WifiState, SameClient s t → t.wifiReqQueue = s.wifiReqQueue →
      Underway p { t with phase := .receiving } := by
    intro t hclient hsame
    refine ⟨hclient.wifiSsid.trans h.wifiSsid, hclient.wifiPassword.trans h.wifiPassword, ?_⟩
    show CarriedBy p .receiving t.wifiReqQueue
    rw [hsame, hqueue]
    exact carriedBy_receiving p
  unfold persistAndStore
  rw [if_pos hcarries.2.2]
  cases inp.nvsSsid with
  | failed => exact ⟨hfailed _ ⟨rfl, rfl, rfl, rfl⟩ rfl, nofun⟩
  | uncommitted => exact ⟨hfailed _ ⟨rfl, rfl, rfl, rfl⟩ rfl, nofun⟩
  | committed =>
      cases inp.nvsPass with
      | failed => exact ⟨hfailed _ ⟨rfl, rfl, rfl, rfl⟩ rfl, nofun⟩
      | uncommitted => exact ⟨hfailed _ ⟨rfl, rfl, rfl, rfl⟩ rfl, nofun⟩
      | committed =>
          refine ⟨underway_storeCredentials hcarries hqueue, fun _ => ?_⟩
          rw [← hcarries.1, ← hcarries.2.1]
          show (storeCredentials request { s with
              nvsSsid := some request.ssid
              nvsPass := some request.password }).1.nvsSsid = _ ∧
            (storeCredentials request { s with
              nvsSsid := some request.ssid
              nvsPass := some request.password }).1.nvsPass = _
          unfold storeCredentials wifiDisconnect
          dsimp only
          split
          · exact ⟨rfl, rfl⟩
          · exact ⟨rfl, rfl⟩

theorem underway_mqttTaskStep
    (inp : TaskInput) (h : Underway p s) :
    Underway p (mqttTaskStep inp s).1 := by
  have hrequest := h.request
  unfold mqttTaskStep
  cases hphase : s.phase with
  | starting =>
      rw [hphase] at hrequest
      exact hrequest.elim
  | receiving =>
      rw [hphase] at hrequest
      dsimp only
      split
      · exact h
      · rename_i latest hlatest
        have hcarries := hrequest latest hlatest
        unfold beginApply
        dsimp only
        split
        · exact ⟨h.wifiSsid, h.wifiPassword, carriedBy_receiving p⟩
        · split
          · exact ⟨h.wifiSsid, h.wifiPassword, hcarries, rfl⟩
          · exact ⟨h.wifiSsid, h.wifiPassword, hcarries, rfl⟩
  | cooling request =>
      rw [hphase] at hrequest
      exact ⟨h.wifiSsid, h.wifiPassword, hrequest⟩
  | applying request =>
      rw [hphase] at hrequest
      exact (persistAndStore_carries inp h hrequest.1 hrequest.2).1
  | connecting request retry => exact underway_attempt inp h hphase
  | awaitingIp request retry => exact underway_awaitIp inp h hphase

theorem underway_wifiStep
    (e : WifiEvent) (s : WifiState) (he : e.isWrite = false) (h : Underway p s) :
    Underway p (wifiStep e s) := by
  cases e with
  | bleWrite inp write => cases he
  | provTimeout =>
      show Underway p (if s.provTimer then bleProvTimeoutCallback s else s)
      split
      · exact ⟨h.wifiSsid, h.wifiPassword, h.request⟩
      · exact h
  | bleDisconnected => exact ⟨h.wifiSsid, h.wifiPassword, h.request⟩
  | gotIp =>
      obtain ⟨group, flag, heq⟩ := onGotIp_eq s
      have hstep : wifiStep .gotIp s = _ := heq
      rw [hstep]
      exact h.congr ⟨rfl, rfl, rfl, rfl⟩ rfl rfl
  | staDisconnected =>
      obtain ⟨group, flag, heq⟩ := onWifiDisconnect_eq s
      have hstep : wifiStep .staDisconnected s = _ := heq
      rw [hstep]
      exact h.congr ⟨rfl, rfl, rfl, rfl⟩ rfl rfl
  | task inp => exact underway_mqttTaskStep inp h

end Later

/-! ## What the radio and the next boot are given -/

section Given

variable {p : ProvisionWrites} {s : WifiState}

/-- The connection gives one configuration at most, of the strings it is asked
to connect with. -/
theorem configs_wifiConnect
    (groupCreated : Bool) (result : StartResult) (ssid passwd : List UInt8) (s : WifiState) :
    (wifiConnect groupCreated result ssid passwd s).1.configs = s.configs ∨
      (wifiConnect groupCreated result ssid passwd s).1.configs =
        s.configs ++ [wifiConfigOf ssid passwd] := by
  unfold wifiConnect
  split
  · exact Or.inl rfl
  · split
    · split
      · exact Or.inl rfl
      · exact Or.inl rfl
      · exact Or.inr rfl
      · exact Or.inr rfl
    · exact Or.inl rfl

theorem configs_attempt
    (inp : TaskInput) (request : WifiRequest) (s : WifiState) (retry : Nat) :
    (attempt inp request s retry).1.configs = s.configs ∨
      (attempt inp request s retry).1.configs =
        s.configs ++ [wifiConfigOf s.wifiSsid s.wifiPassword] := by
  have hconnect := configs_wifiConnect inp.groupCreated inp.start s.wifiSsid s.wifiPassword s
  unfold attempt attemptFailed
  generalize wifiConnect inp.groupCreated inp.start s.wifiSsid s.wifiPassword s = result at *
  dsimp only
  split
  · exact hconnect
  · split
    · exact hconnect
    · exact hconnect

theorem configs_awaitIp
    (inp : TaskInput) (request : WifiRequest) (s : WifiState) (retry : Nat) :
    (awaitIp inp request s retry).1.configs = s.configs := by
  unfold awaitIp attemptFailed
  dsimp only
  split
  · rfl
  · split
    · split
      · rfl
      · rfl
    · rfl

theorem configs_storeCredentials
    (request : WifiRequest) (s : WifiState) :
    (storeCredentials request s).1.configs = s.configs := by
  unfold storeCredentials wifiDisconnect
  dsimp only
  split
  · rfl
  · rfl

theorem configs_persistAndStore
    (inp : TaskInput) (request : WifiRequest) (s : WifiState) :
    (persistAndStore inp request s).1.configs = s.configs := by
  unfold persistAndStore
  dsimp only
  split
  · split
    · split
      · exact configs_storeCredentials request _
      · rfl
    · rfl
  · exact configs_storeCredentials request s

/-- Only an attempt gives a configuration: that of the two arrays. -/
theorem configs_mqttTaskStep
    (inp : TaskInput) (s : WifiState) :
    (mqttTaskStep inp s).1.configs = s.configs ∨
      (mqttTaskStep inp s).1.configs =
        s.configs ++ [wifiConfigOf s.wifiSsid s.wifiPassword] := by
  unfold mqttTaskStep
  cases s.phase with
  | starting =>
      have hsame := sameManager_mqttEnqueue ⟨inp.tick, inp.queueCreated⟩ s.wifiSsid
        s.wifiPassword false .boot s
      dsimp only
      split
      · exact Or.inl hsame.configs
      · exact Or.inl hsame.configs
  | receiving =>
      dsimp only
      split
      · exact Or.inl rfl
      · unfold beginApply
        dsimp only
        split
        · exact Or.inl rfl
        · split
          · exact Or.inl rfl
          · exact Or.inl rfl
  | cooling request => exact Or.inl rfl
  | applying request => exact Or.inl (configs_persistAndStore inp request s)
  | connecting request retry => exact configs_attempt inp request s retry
  | awaitingIp request retry => exact Or.inl (configs_awaitIp inp request s retry)

theorem configs_wifiStep
    (e : WifiEvent) (s : WifiState) :
    (wifiStep e s).configs = s.configs ∨
      (wifiStep e s).configs = s.configs ++ [wifiConfigOf s.wifiSsid s.wifiPassword] := by
  cases e with
  | bleWrite inp write =>
      exact Or.inl (sameManager_handleWriteEvent inp write s).configs
  | provTimeout =>
      exact Or.inl (sameManager_wifiStep .provTimeout s nofun nofun nofun).configs
  | bleDisconnected => exact Or.inl rfl
  | gotIp =>
      obtain ⟨group, flag, heq⟩ := onGotIp_eq s
      have hstep : wifiStep .gotIp s = _ := heq
      exact Or.inl (by rw [hstep])
  | staDisconnected =>
      obtain ⟨group, flag, heq⟩ := onWifiDisconnect_eq s
      have hstep : wifiStep .staDisconnected s = _ := heq
      exact Or.inl (by rw [hstep])
  | task inp => exact configs_mqttTaskStep inp s

/-- Zeros behind the shortened string are zeros behind the string exactly when
there is room for one. -/
theorem strlcpyZeroed_iff
    {bytes : List UInt8} {size : Nat} (hnoNul : ∀ b ∈ bytes, b ≠ 0) (hlength : bytes.length ≤ size)
    (hpos : 0 < size) :
    strlcpyZeroed bytes size = bytes ++ List.replicate (size - bytes.length) 0 ↔
      bytes.length ≤ size - 1 := by
  have hstring := cString_of_no_nul hnoNul
  unfold strlcpyZeroed strlcpy
  rw [hstring]
  constructor
  · intro h
    by_contra hlong
    have hfull : bytes.length = size := by omega
    -- The last byte is a zero on the left and belongs to the string on the right.
    have hlast : (bytes.take (size - 1) ++
        List.replicate (size - (bytes.take (size - 1)).length) 0)[size - 1]? =
        (bytes ++ List.replicate (size - bytes.length) 0)[size - 1]? :=
      congrArg (fun l => l[size - 1]?) h
    rw [List.getElem?_append_right (by simp),
      List.getElem?_append_left (by omega), List.getElem?_replicate,
      List.getElem?_eq_getElem (by omega)] at hlast
    have hroom : size - 1 - (bytes.take (size - 1)).length <
        size - (bytes.take (size - 1)).length := by
      simp only [List.length_take]
      omega
    rw [if_pos hroom] at hlast
    exact hnoNul _ (List.getElem_mem _) (Option.some.inj hlast).symm
  · intro h
    rw [List.take_of_length_le h]

theorem wifiConfigOf_iff (p : ProvisionWrites) :
    wifiConfigOf p.ssid p.password = p.config ↔
      p.ssid.length ≤ maxSsidLength - 1 ∧ p.password.length ≤ maxPasswordLength - 1 := by
  unfold wifiConfigOf ProvisionWrites.config
  rw [WifiConfig.mk.injEq, strlcpyZeroed_iff p.ssid_noNul p.ssid_length.2 (by decide),
    strlcpyZeroed_iff p.password_noNul p.password_length.2 (by decide)]

/-- The strings fit when they are read back from NVS. -/
theorem boot_restores (p : ProvisionWrites) :
    (WifiState.boot true (some p.ssid) (some p.password)).wifiSsid = p.ssid ∧
      (WifiState.boot true (some p.ssid) (some p.password)).wifiPassword = p.password := by
  have hssid := p.ssid_length.2
  have hpassword := p.password_length.2
  constructor
  · show (if p.ssid.length + 1 ≤ maxSsidLength + 1 then p.ssid else defaultSsid) = p.ssid
    rw [if_pos (by omega)]
  · show (if p.password.length + 1 ≤ maxPasswordLength + 1 then p.password
      else defaultPassword) = p.password
    rw [if_pos (by omega)]

theorem restores_of_underway
    (e : WifiEvent) (he : e.isWrite = false) (h : Underway p s) :
    Restores p e s := by
  intro request hphase hnext
  have hrequest := h.request
  rw [hphase] at hrequest
  cases e with
  | bleWrite inp write => cases he
  | provTimeout =>
      rw [(sameManager_wifiStep .provTimeout s nofun nofun nofun).phase, hphase] at hnext
      cases hnext
  | bleDisconnected =>
      rw [(sameManager_wifiStep .bleDisconnected s nofun nofun nofun).phase, hphase] at hnext
      cases hnext
  | gotIp =>
      obtain ⟨group, flag, heq⟩ := onGotIp_eq s
      have hstep : wifiStep .gotIp s = _ := heq
      rw [hstep] at hnext
      rw [hphase] at hnext
      cases hnext
  | staDisconnected =>
      obtain ⟨group, flag, heq⟩ := onWifiDisconnect_eq s
      have hstep : wifiStep .staDisconnected s = _ := heq
      rw [hstep] at hnext
      rw [hphase] at hnext
      cases hnext
  | task inp =>
      have hstep : wifiStep (.task inp) s = (persistAndStore inp request s).1 := by
        show (mqttTaskStep inp s).1 = _
        unfold mqttTaskStep
        rw [hphase]
      rw [hstep] at hnext ⊢
      obtain ⟨hssid, hpass⟩ := (persistAndStore_carries inp h hrequest.1 hrequest.2).2 hnext
      dsimp only
      rw [hssid, hpass]
      exact boot_restores p

/-- A task that finds the client's request, unconnected, comes to an attempt. -/
theorem exists_attempt
    (h : Underway p s) (hphase : s.phase = .receiving) (hconnected : s.wifiConnectedFlag = false)
    {request : WifiRequest} (hlatest : s.wifiReqQueue.bind List.getLast? = some request) :
    let tick := s.lastApplyTick + wifiApplyCooldown
    let t := run wifiStep [taskAt tick, taskAt tick] s
    (wifiStep (taskAt tick) t).configs = t.configs ++ [wifiConfigOf p.ssid p.password] := by
  intro tick t
  have hrequest := h.request
  rw [hphase] at hrequest
  have hcarries := hrequest request hlatest
  have hcooled : ¬ (tick - s.lastApplyTick < wifiApplyCooldown) := by
    show ¬ (s.lastApplyTick + 800 - s.lastApplyTick < 800)
    rw [UInt32.add_comm, UInt32.add_sub_cancel]
    decide
  -- The request is taken from the queue.
  have hbegun : wifiStep (taskAt tick) s =
      { s with wifiReqQueue := some [], phase := .applying request } := by
    show (mqttTaskStep _ s).1 = _
    unfold mqttTaskStep
    rw [hphase]
    dsimp only
    rw [hlatest]
    show (beginApply _ request { s with wifiReqQueue := some [] }).1 = _
    unfold beginApply
    dsimp only
    rw [if_neg (by rw [hconnected]; simp), if_neg hcooled]
  -- It is saved and stored.
  have hstored : t = (storeCredentials request { s with
      wifiReqQueue := some []
      phase := .applying request
      nvsSsid := some request.ssid
      nvsPass := some request.password }).1 := by
    show wifiStep (taskAt tick) (wifiStep (taskAt tick) s) = _
    rw [hbegun]
    show (persistAndStore _ request _).1 = _
    unfold persistAndStore
    rw [if_pos hcarries.2.2]
    rfl
  have hunderway : Underway p t := by
    rw [hstored]
    exact underway_storeCredentials hcarries rfl
  have hgroup : t.connectEventGroup = none ∧ t.phase = .connecting request 0 := by
    rw [hstored]
    unfold storeCredentials wifiDisconnect
    dsimp only
    split
    · rename_i hnone
      exact ⟨hnone, rfl⟩
    · exact ⟨rfl, rfl⟩
  generalize t = t at *
  show (mqttTaskStep _ t).1.configs = _
  unfold mqttTaskStep
  rw [hgroup.2]
  dsimp only
  unfold attempt wifiConnect
  rw [hgroup.1, hunderway.wifiSsid, hunderway.wifiPassword]
  rfl

end Given

/-- What the radio is given decides. -/
theorem unaltered_iff_config
    (p : ProvisionWrites) {s : WifiState} (h : AwaitsClient s) :
    Unaltered p s ↔ wifiConfigOf p.ssid p.password = p.config := by
  obtain ⟨hunderway, hphase, hconnected, request, hlatest, -⟩ := run_events p h
  unfold Unaltered
  generalize run wifiStep p.events s = t at *
  constructor
  · intro halong
    have hgiven := exists_attempt hunderway hphase hconnected hlatest
    dsimp only at hgiven
    obtain ⟨-, -, hlast, -⟩ := halong
      [taskAt (t.lastApplyTick + wifiApplyCooldown), taskAt (t.lastApplyTick + wifiApplyCooldown),
        taskAt (t.lastApplyTick + wifiApplyCooldown)]
      (by simp [taskAt, WifiEvent.isWrite])
    exact hlast.1 _ hgiven
  · intro hconfig later hlater
    refine Along.of_invariant underway_wifiStep (fun e s he hs => ⟨?_, ?_⟩)
      (Along.of_mem hlater) hunderway
    · intro c hc
      rcases configs_wifiStep e s with hsame | hnew
      · rw [hsame] at hc
        simp at hc
      · rw [hnew, hs.wifiSsid, hs.wifiPassword, hconfig] at hc
        have hcancel := List.append_cancel_left hc
        cases hcancel
        rfl
    · exact restores_of_underway e he hs

/-- The credentials reach the radio, and the next boot, unaltered exactly when
they leave room for a NUL in the fields of the configuration. -/
theorem unaltered_iff
    (p : ProvisionWrites) {s : WifiState} (h : AwaitsClient s) :
    Unaltered p s ↔
      p.ssid.length ≤ maxSsidLength - 1 ∧ p.password.length ≤ maxPasswordLength - 1 := by
  rw [unaltered_iff_config p h, wifiConfigOf_iff]

/-! ## An SSID of the full length -/

section Example

/-- The SSID in one piece, of equal bytes, and a password of two. -/
def ssidOfLength (n : Nat) (hpos : 1 ≤ n) (hfits : n ≤ maxSsidLength) : ProvisionWrites where
  ssid := List.replicate n 97
  password := [98, 99]
  pieces := [⟨⟨2000, true⟩, true, [98]⟩, ⟨⟨2100, true⟩, false, List.replicate n 97⟩,
    ⟨⟨2200, true⟩, true, [99]⟩]
  connect := ⟨3000, true⟩
  ssid_eq := by simp [partOf]
  password_eq := by simp [partOf]
  nonempty := by simp; omega
  ssid_length := by
    rw [List.length_replicate]
    exact ⟨hpos, hfits⟩
  password_length := by decide
  ssid_noNul := by simp
  password_noNul := by simp

theorem awaitsClient_taskAt :
    AwaitsClient (wifiStep (taskAt 1000) (.boot true none none)) where
  phase := rfl
  ssidPacket := rfl
  passwordPacket := rfl
  notConnected := rfl
  queue := ⟨_, rfl, by decide⟩

theorem shortSsid_unaltered :
    Unaltered (ssidOfLength 31 (by decide) (by decide))
      (wifiStep (taskAt 1000) (.boot true none none)) :=
  (unaltered_iff (ssidOfLength 31 (by decide) (by decide)) awaitsClient_taskAt).2
    (by simp [ssidOfLength])

/-- An SSID of 32 bytes reaches the radio without its last byte. -/
theorem fullSsid_altered :
    ¬ Unaltered (ssidOfLength 32 (by decide) (by decide))
        (wifiStep (taskAt 1000) (.boot true none none)) := by
  rw [unaltered_iff_config _ awaitsClient_taskAt]
  decide +kernel

end Example

end Wifi
end AvensysEsp32
