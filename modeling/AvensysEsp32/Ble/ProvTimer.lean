import AvensysEsp32.Ble.Server

/-!
# The provisioning timer

`ble_set_prov_status` runs the timer exactly in the states in which the client is
waited for, so that what the client has sent does not stay.  The timer is also
started directly, when a client connects and at every write, and the status is
also set from the unit task.
-/

namespace AvensysEsp32
namespace Ble

open Foundation Wifi

/-- The client is waited for. -/
def Waiting (s : WifiState) : Prop :=
  s.provState = .waitSsid ∨ s.provState = .waitPassword ∨ s.provState = .ready

/-- A part of the credentials has come in. -/
def HoldsBytes (s : WifiState) : Prop :=
  0 < s.ssidPacket.len ∨ 0 < s.passwordPacket.len

/-- The timer runs while the client is waited for, and at no other time; and
while there are bytes in a packet. -/
structure TimerCoherent (s : WifiState) : Prop where
  armed_iff : s.provTimer = true ↔ Waiting s
  expires : HoldsBytes s → s.provTimer = true

/-- The timer is coherent after the event, and if the event is its expiry, the
client was waited for. -/
structure CoherentStep (handles : HandleTable) (e : BleEvent) (s : BleState) : Prop where
  after : TimerCoherent (bleStep handles e s).wifi
  timeout : e = .provTimeout → s.wifi.provTimer = true → Waiting s.wifi

/-- The packet takes the value. -/
def Takes (packet : BlePacket) (value : List UInt8) (maxLen : Nat) (allocated : Bool) : Prop :=
  allocated = true ∧ (packet.data = none ∨ packet.len + value.length ≤ maxLen)

/-- There is a request to be made, and a queue that can take it. -/
def CanEnqueue (inp : EnqueueInput) (s : WifiState) : Prop :=
  s.wifiSsid ≠ [] ∧ (s.wifiReqQueue ≠ none ∨ inp.queueCreated = true)

/-- The writes that are harmless to the timer: to the EEPROM and to other
handles while the client is waited for; of a value that does not fit or gets no
memory while the other packet is empty; and to connect with nothing sent yet,
or with all of it if the request can be made. -/
def WriteKeepsTimer (handles : HandleTable) (inp : EnqueueInput) (allocated : Bool)
    (param : WriteParam) (s : WifiState) : Prop :=
  if param.handle = handles.eepromData then Waiting s
  else if param.handle = handles.wifiSsid then
    Takes s.ssidPacket param.value maxSsidLength allocated ∨ s.passwordPacket.len = 0
  else if param.handle = handles.wifiPassword then
    Takes s.passwordPacket param.value maxPasswordLength allocated ∨ s.ssidPacket.len = 0
  else if param.handle = handles.connectToCloud then
    ¬ HoldsBytes s ∨ 0 < s.ssidPacket.len ∧ 0 < s.passwordPacket.len ∧ CanEnqueue inp s
  else Waiting s

/-- The events that are harmless to the timer. -/
def KeepsTimer (handles : HandleTable) (e : BleEvent) (s : BleState) : Prop :=
  match e with
  | .gatts .connect => Waiting s.wifi
  | .gatts (.write inp allocated param) =>
      param.handle = handles.provStatusCfg ∧ param.value.length = 2 ∨
        WriteKeepsTimer handles inp allocated param s.wifi
  | .setRuntimeReady _ => ¬ HoldsBytes s.wifi
  | _ => True

/-- The queue has at most the room it was created with. -/
def QueueFits (s : WifiState) : Prop :=
  ∀ queue, s.wifiReqQueue = some queue → queue.length ≤ wifiReqQueueLen

/-- What is carried along a run. -/
structure TimerInvariant (s : BleState) : Prop where
  coherent : TimerCoherent s.wifi
  fits : QueueFits s.wifi

/-! ## What leaves the timer alone -/

/-- Two states agree in the packets, the status and its timer. -/
structure SameProvisioning (s s' : WifiState) : Prop where
  ssidPacket : s'.ssidPacket = s.ssidPacket
  passwordPacket : s'.passwordPacket = s.passwordPacket
  provState : s'.provState = s.provState
  provTimer : s'.provTimer = s.provTimer

section Same

variable {s s' s'' : WifiState}

theorem SameProvisioning.refl (s : WifiState) :
    SameProvisioning s s := by
  constructor <;> rfl

theorem SameProvisioning.trans
    (h : SameProvisioning s s') (h' : SameProvisioning s' s'') :
    SameProvisioning s s'' where
  ssidPacket := h'.ssidPacket.trans h.ssidPacket
  passwordPacket := h'.passwordPacket.trans h.passwordPacket
  provState := h'.provState.trans h.provState
  provTimer := h'.provTimer.trans h.provTimer

theorem SameProvisioning.coherent_iff
    (h : SameProvisioning s s') :
    TimerCoherent s' ↔ TimerCoherent s := by
  have hcoherent : ∀ {s s' : WifiState}, SameProvisioning s s' →
      TimerCoherent s → TimerCoherent s' := by
    intro s s' h hs
    constructor
    · rw [h.provTimer, hs.armed_iff]
      unfold Waiting
      rw [h.provState]
    · intro hbytes
      rw [h.provTimer]
      apply hs.expires
      unfold HoldsBytes at *
      rwa [h.ssidPacket, h.passwordPacket] at hbytes
  exact ⟨hcoherent ⟨h.ssidPacket.symm, h.passwordPacket.symm, h.provState.symm, h.provTimer.symm⟩,
    hcoherent h⟩

theorem QueueFits.congr
    (h : QueueFits s) (hqueue : s'.wifiReqQueue = s.wifiReqQueue) :
    QueueFits s' := by
  intro queue hqueue'
  exact h queue (hqueue ▸ hqueue')

/-- The queue that a call of `mqtt_enqueue_wifi_credentials` finds or creates. -/
theorem foundQueue_cases
    (inp : EnqueueInput) (hfits : QueueFits s) :
    ((s.wifiReqQueue <|> if inp.queueCreated then some [] else none) = none ∧
        ¬ (s.wifiReqQueue ≠ none ∨ inp.queueCreated = true)) ∨
      ∃ queue, (s.wifiReqQueue <|> if inp.queueCreated then some [] else none) = some queue ∧
        queue.length ≤ wifiReqQueueLen ∧ (s.wifiReqQueue ≠ none ∨ inp.queueCreated = true) := by
  cases hold : s.wifiReqQueue with
  | some queue => exact Or.inr ⟨queue, rfl, hfits queue hold, Or.inl (Option.some_ne_none queue)⟩
  | none =>
      cases hcreated : inp.queueCreated with
      | true => exact Or.inr ⟨[], rfl, Nat.zero_le _, Or.inr rfl⟩
      | false => exact Or.inl ⟨rfl, by simp⟩

/-- What a call of `mqtt_enqueue_wifi_credentials` does to the queue, and
whether it succeeds. -/
theorem mqttEnqueue_spec
    (inp : EnqueueInput) (ssid password : List UInt8) (persistToNvs : Bool) (source : Source)
    (hfits : QueueFits s) :
    SameProvisioning s (mqttEnqueueWifiCredentials inp ssid password persistToNvs source s).1 ∧
      QueueFits (mqttEnqueueWifiCredentials inp ssid password persistToNvs source s).1 ∧
      ((mqttEnqueueWifiCredentials inp ssid password persistToNvs source s).2 = true ↔
        ssid ≠ [] ∧ (s.wifiReqQueue ≠ none ∨ inp.queueCreated = true)) := by
  have hholds : ∀ {s : WifiState} {queue : List WifiRequest}, queue.length ≤ wifiReqQueueLen →
      s.wifiReqQueue = some queue → QueueFits s := by
    intro s queue hlength hqueue queue' hqueue'
    rw [hqueue] at hqueue'
    exact Option.some.inj hqueue' ▸ hlength
  have happended : ∀ {queue : List WifiRequest} (request : WifiRequest),
      queue.length < wifiReqQueueLen → (queue ++ [request]).length ≤ wifiReqQueueLen := by
    intro queue request hroom
    rw [List.length_append, List.length_singleton]
    exact hroom
  unfold mqttEnqueueWifiCredentials
  dsimp only
  rcases foundQueue_cases inp hfits with ⟨hqueue, hnone⟩ | ⟨queue, hqueue, hlength, hsome⟩
  · rw [hqueue]
    refine ⟨by constructor <;> rfl, ?_, iff_of_false Bool.false_ne_true fun h => hnone h.2⟩
    intro queue hqueue'
    cases hqueue'
  · rw [hqueue]
    dsimp only
    by_cases hssid : ssid = []
    · rw [if_pos hssid]
      exact ⟨by constructor <;> rfl, hholds hlength rfl,
        iff_of_false Bool.false_ne_true fun h => h.1 hssid⟩
    · rw [if_neg hssid]
      unfold xQueueSend
      by_cases hroom : queue.length < wifiReqQueueLen
      · rw [if_pos hroom]
        exact ⟨by constructor <;> rfl, hholds (happended _ hroom) rfl,
          iff_of_true rfl ⟨hssid, hsome⟩⟩
      · have htail : queue.tail.length < wifiReqQueueLen := by
          rw [List.length_tail]
          simp only [wifiReqQueueLen] at *
          omega
        rw [if_neg hroom, if_pos htail]
        exact ⟨by constructor <;> rfl, hholds (happended _ htail) rfl,
          iff_of_true rfl ⟨hssid, hsome⟩⟩

end Same

/-! ## The manager -/

/-- Two states agree also in the queue. -/
structure SameBle (s s' : WifiState) : Prop extends SameProvisioning s s' where
  wifiReqQueue : s'.wifiReqQueue = s.wifiReqQueue

theorem SameBle.refl (s : WifiState) :
    SameBle s s :=
  ⟨SameProvisioning.refl s, rfl⟩

theorem SameBle.trans
    {s s' s'' : WifiState} (h : SameBle s s') (h' : SameBle s' s'') :
    SameBle s s'' :=
  ⟨h.toSameProvisioning.trans h'.toSameProvisioning, h'.wifiReqQueue.trans h.wifiReqQueue⟩

section Manager

variable (inp : TaskInput) (request : WifiRequest) (s : WifiState)

theorem sameBle_wifiDisconnect :
    SameBle s (wifiDisconnect s) := by
  unfold wifiDisconnect
  split
  · exact SameBle.refl s
  · exact ⟨⟨rfl, rfl, rfl, rfl⟩, rfl⟩

theorem sameBle_wifiConnect
    (groupCreated : Bool) (result : StartResult) (ssid passwd : List UInt8) :
    SameBle s (wifiConnect groupCreated result ssid passwd s).1 := by
  unfold wifiConnect
  split
  · exact SameBle.refl s
  · split
    · split
      all_goals exact ⟨⟨rfl, rfl, rfl, rfl⟩, rfl⟩
    · exact SameBle.refl s

theorem sameBle_storeCredentials :
    SameBle s (storeCredentials request s).1 := by
  refine SameBle.trans ?_ (sameBle_wifiDisconnect _)
  exact ⟨⟨rfl, rfl, rfl, rfl⟩, rfl⟩

theorem sameBle_persistAndStore :
    SameBle s (persistAndStore inp request s).1 := by
  unfold persistAndStore
  dsimp only
  split
  · split
    · split
      · refine SameBle.trans ?_ (sameBle_storeCredentials request _)
        exact ⟨⟨rfl, rfl, rfl, rfl⟩, rfl⟩
      · exact ⟨⟨rfl, rfl, rfl, rfl⟩, rfl⟩
    · exact ⟨⟨rfl, rfl, rfl, rfl⟩, rfl⟩
  · exact sameBle_storeCredentials request s

theorem sameBle_attemptFailed (retry : Nat) :
    SameBle s (attemptFailed request s retry).1 := by
  unfold attemptFailed
  dsimp only
  split
  · exact ⟨⟨rfl, rfl, rfl, rfl⟩, rfl⟩
  · exact ⟨⟨rfl, rfl, rfl, rfl⟩, rfl⟩

theorem sameBle_attempt (retry : Nat) :
    SameBle s (attempt inp request s retry).1 := by
  have hconnect := sameBle_wifiConnect s inp.groupCreated inp.start s.wifiSsid s.wifiPassword
  unfold attempt
  dsimp only
  split
  · exact hconnect.trans ⟨⟨rfl, rfl, rfl, rfl⟩, rfl⟩
  · exact hconnect.trans (sameBle_attemptFailed request _ retry)

theorem sameBle_awaitIp (retry : Nat) :
    SameBle s (awaitIp inp request s retry).1 := by
  unfold awaitIp
  split
  · exact ⟨⟨rfl, rfl, rfl, rfl⟩, rfl⟩
  · split
    · refine SameBle.trans ?_ (sameBle_attemptFailed request _ retry)
      exact ⟨⟨rfl, rfl, rfl, rfl⟩, rfl⟩
    · exact SameBle.refl s

/-- The task empties the queue and makes the boot request, and leaves the rest
of what the server uses alone. -/
theorem sameProvisioning_mqttTaskStep
    (hfits : QueueFits s) :
    SameProvisioning s (mqttTaskStep inp s).1 ∧ QueueFits (mqttTaskStep inp s).1 := by
  have hkeeps : ∀ {s' : WifiState}, SameBle s s' → SameProvisioning s s' ∧ QueueFits s' :=
    fun h => ⟨h.toSameProvisioning, hfits.congr h.wifiReqQueue⟩
  unfold mqttTaskStep
  split
  · obtain ⟨hsame, hqueue, -⟩ := mqttEnqueue_spec ⟨inp.tick, inp.queueCreated⟩
      s.wifiSsid s.wifiPassword false .boot hfits
    dsimp only
    split
    · exact ⟨hsame, hqueue⟩
    · exact ⟨hsame.trans ⟨rfl, rfl, rfl, rfl⟩, hqueue.congr rfl⟩
  · split
    · exact ⟨SameProvisioning.refl s, hfits⟩
    · have hempty : ∀ {s' : WifiState}, s'.wifiReqQueue = some [] → QueueFits s' := by
        intro s' hs' queue hqueue
        rw [hs'] at hqueue
        exact Option.some.inj hqueue ▸ Nat.zero_le _
      unfold beginApply
      split
      · exact ⟨⟨rfl, rfl, rfl, rfl⟩, hempty rfl⟩
      · split
        · exact ⟨⟨rfl, rfl, rfl, rfl⟩, hempty rfl⟩
        · exact ⟨⟨rfl, rfl, rfl, rfl⟩, hempty rfl⟩
  · exact hkeeps ⟨⟨rfl, rfl, rfl, rfl⟩, rfl⟩
  · exact hkeeps (sameBle_persistAndStore inp _ s)
  · exact hkeeps (sameBle_attempt inp _ s _)
  · exact hkeeps (sameBle_awaitIp inp _ s _)

theorem sameBle_onGotIp :
    SameBle s (onGotIp s) := by
  obtain ⟨group, flag, heq⟩ := onGotIp_eq s
  rw [heq]
  exact ⟨⟨rfl, rfl, rfl, rfl⟩, rfl⟩

theorem sameBle_onWifiDisconnect :
    SameBle s (onWifiDisconnect s) := by
  obtain ⟨group, flag, heq⟩ := onWifiDisconnect_eq s
  rw [heq]
  exact ⟨⟨rfl, rfl, rfl, rfl⟩, rfl⟩

end Manager

/-! ## The status and the timer -/

section Status

variable {s : WifiState}

/-- A status that is set decides alone about the timer. -/
theorem coherent_bleSetProvStatus (status : ProvState) :
    TimerCoherent (bleSetProvStatus status s) ↔
      (status = .waitSsid ∨ status = .waitPassword ∨ status = .ready) ∨ ¬ HoldsBytes s := by
  constructor
  · intro h
    by_cases hbytes : HoldsBytes s
    · exact Or.inl (of_decide_eq_true (h.expires hbytes))
    · exact Or.inr hbytes
  · intro h
    exact ⟨decide_eq_true_iff, fun hbytes => decide_eq_true (h.resolve_right fun hno => hno hbytes)⟩

/-- The timer that is started directly stays coherent in a waiting state only. -/
theorem coherent_timerReset :
    TimerCoherent { s with provTimer := true } ↔ Waiting s := by
  constructor
  · intro hreset
    exact hreset.armed_iff.mp rfl
  · intro hwaiting
    exact ⟨iff_of_true rfl hwaiting, fun _ => rfl⟩

theorem not_holdsBytes :
    ¬ HoldsBytes s ↔ s.ssidPacket.len = 0 ∧ s.passwordPacket.len = 0 := by
  unfold HoldsBytes
  omega

/-- An append that fails leaves an empty packet. -/
theorem append_spec
    (packet : BlePacket) (value : List UInt8) (maxLen : Nat) (allocated : Bool) :
    ((packet.append value maxLen allocated).2 = true ↔ Takes packet value maxLen allocated) ∧
      ((packet.append value maxLen allocated).2 = false →
        (packet.append value maxLen allocated).1.len = 0) := by
  obtain ⟨data⟩ := packet
  unfold Takes BlePacket.append
  cases data with
  | none =>
      cases allocated with
      | true => exact ⟨iff_of_true rfl ⟨rfl, Or.inl rfl⟩, fun h => nomatch h⟩
      | false => exact ⟨iff_of_false Bool.false_ne_true (fun h => nomatch h.1), fun _ => rfl⟩
  | some old =>
      dsimp only
      split
      · rename_i hlarge
        refine ⟨iff_of_false Bool.false_ne_true ?_, fun _ => rfl⟩
        rintro ⟨-, hnone | hfits⟩
        · cases hnone
        · exact absurd hlarge (Nat.not_lt.mpr hfits)
      · rename_i hfits
        cases allocated with
        | true => exact ⟨iff_of_true rfl ⟨rfl, Or.inr (Nat.le_of_not_lt hfits)⟩, fun h => nomatch h⟩
        | false => exact ⟨iff_of_false Bool.false_ne_true (fun h => nomatch h.1), fun _ => rfl⟩

variable (inp : EnqueueInput) (value : List UInt8) (allocated : Bool)

theorem coherent_writeWifiSsid
    (hfits : QueueFits s) :
    (TimerCoherent (writeWifiSsid inp value allocated s) ↔
        Takes s.ssidPacket value maxSsidLength allocated ∨ s.passwordPacket.len = 0) ∧
      QueueFits (writeWifiSsid inp value allocated s) := by
  obtain ⟨htakes, hempty⟩ := append_spec s.ssidPacket value maxSsidLength allocated
  unfold writeWifiSsid
  generalize s.ssidPacket.append value maxSsidLength allocated = result at *
  obtain ⟨packet, appended⟩ := result
  cases appended with
  | false =>
      refine ⟨?_, hfits.congr rfl⟩
      show TimerCoherent (bleSetProvStatus .error { s with ssidPacket := packet }) ↔ _
      rw [coherent_bleSetProvStatus, ← htakes, not_holdsBytes]
      simpa using fun _ => hempty rfl
  | true =>
      have hready : TimerCoherent (bleSetProvStatus .ready
          { s with ssidPacket := packet, wifiSsid := packet.copyToString (maxSsidLength + 1) }) :=
        (coherent_bleSetProvStatus .ready).mpr (Or.inl (Or.inr (Or.inr rfl)))
      dsimp only
      rw [if_pos rfl]
      split
      · obtain ⟨hsame, hqueue, -⟩ := mqttEnqueue_spec (s := bleSetProvStatus .ready
          { s with ssidPacket := packet, wifiSsid := packet.copyToString (maxSsidLength + 1) }) inp
          (packet.copyToString (maxSsidLength + 1)) s.wifiPassword true .bleAuto (hfits.congr rfl)
        exact ⟨iff_of_true (hsame.coherent_iff.mpr hready) (Or.inl (htakes.mp rfl)), hqueue⟩
      · refine ⟨iff_of_true ?_ (Or.inl (htakes.mp rfl)), hfits.congr rfl⟩
        exact (coherent_bleSetProvStatus .waitPassword).mpr (Or.inl (Or.inr (Or.inl rfl)))

theorem coherent_writeWifiPassword
    (hfits : QueueFits s) :
    (TimerCoherent (writeWifiPassword inp value allocated s) ↔
        Takes s.passwordPacket value maxPasswordLength allocated ∨ s.ssidPacket.len = 0) ∧
      QueueFits (writeWifiPassword inp value allocated s) := by
  obtain ⟨htakes, hempty⟩ := append_spec s.passwordPacket value maxPasswordLength allocated
  unfold writeWifiPassword
  generalize s.passwordPacket.append value maxPasswordLength allocated = result at *
  obtain ⟨packet, appended⟩ := result
  cases appended with
  | false =>
      refine ⟨?_, hfits.congr rfl⟩
      show TimerCoherent (bleSetProvStatus .error { s with passwordPacket := packet }) ↔ _
      rw [coherent_bleSetProvStatus, ← htakes, not_holdsBytes]
      simpa using fun _ => hempty rfl
  | true =>
      have hready : TimerCoherent (bleSetProvStatus .ready
          { s with
            passwordPacket := packet
            wifiPassword := packet.copyToString (maxPasswordLength + 1) }) :=
        (coherent_bleSetProvStatus .ready).mpr (Or.inl (Or.inr (Or.inr rfl)))
      dsimp only
      rw [if_pos rfl]
      split
      · refine ⟨iff_of_true ?_ (Or.inl (htakes.mp rfl)), hfits.congr rfl⟩
        exact (coherent_bleSetProvStatus .waitSsid).mpr (Or.inl (Or.inl rfl))
      · obtain ⟨hsame, hqueue, -⟩ := mqttEnqueue_spec (s := bleSetProvStatus .ready
          { s with
            passwordPacket := packet
            wifiPassword := packet.copyToString (maxPasswordLength + 1) }) inp
          s.wifiSsid (packet.copyToString (maxPasswordLength + 1)) true .bleAuto (hfits.congr rfl)
        exact ⟨iff_of_true (hsame.coherent_iff.mpr hready) (Or.inl (htakes.mp rfl)), hqueue⟩

theorem coherent_writeConnectToCloud
    (hfits : QueueFits s) :
    (TimerCoherent (writeConnectToCloud inp s) ↔
        ¬ HoldsBytes s ∨ 0 < s.ssidPacket.len ∧ 0 < s.passwordPacket.len ∧ CanEnqueue inp s) ∧
      QueueFits (writeConnectToCloud inp s) := by
  by_cases hincomplete : s.ssidPacket.len = 0 ∨ s.passwordPacket.len = 0
  · have heq : writeConnectToCloud inp s = bleSetProvStatus .error s := if_pos hincomplete
    rw [heq]
    refine ⟨?_, hfits.congr rfl⟩
    rw [coherent_bleSetProvStatus]
    constructor
    · intro h
      exact Or.inl (h.resolve_left (by simp))
    · rintro (hnothing | ⟨hssid, hpassword, -⟩)
      · exact Or.inr hnothing
      · omega
  · obtain ⟨hsame, hqueue, hqueued⟩ := mqttEnqueue_spec (s := bleSetProvStatus .applying s) inp
      s.wifiSsid s.wifiPassword true .ble (hfits.congr rfl)
    have hssid : 0 < s.ssidPacket.len := Nat.pos_of_ne_zero fun h => hincomplete (Or.inl h)
    have hpassword : 0 < s.passwordPacket.len :=
      Nat.pos_of_ne_zero fun h => hincomplete (Or.inr h)
    have heq : writeConnectToCloud inp s =
        let result := mqttEnqueueWifiCredentials inp s.wifiSsid s.wifiPassword true .ble
          (bleSetProvStatus .applying s)
        if result.2 then
          { bleSetProvStatus .done result.1 with ssidPacket := .reset, passwordPacket := .reset }
        else bleSetProvStatus .error result.1 := if_neg hincomplete
    rw [heq]
    generalize mqttEnqueueWifiCredentials inp s.wifiSsid s.wifiPassword true .ble
      (bleSetProvStatus .applying s) = result at *
    obtain ⟨s', queued⟩ := result
    have hcan : queued = true ↔ CanEnqueue inp s := hqueued
    dsimp only
    cases queued with
    | true =>
        refine ⟨iff_of_true ?_ (Or.inr ⟨hssid, hpassword, hcan.mp rfl⟩), hqueue.congr rfl⟩
        exact ⟨iff_of_false Bool.false_ne_true (by simp [Waiting, bleSetProvStatus]),
          fun hbytes => absurd hbytes (not_holdsBytes.mpr ⟨rfl, rfl⟩)⟩
    | false =>
        refine ⟨?_, hqueue.congr rfl⟩
        show TimerCoherent (bleSetProvStatus .error s') ↔ _
        have hbytes : HoldsBytes s' := Or.inl (hsame.ssidPacket.symm ▸ hssid)
        rw [coherent_bleSetProvStatus]
        refine iff_of_false (by simp [hbytes]) ?_
        rintro (hnothing | ⟨-, -, hcan'⟩)
        · exact hnothing (Or.inl hssid)
        · exact Bool.false_ne_true (hcan.mpr hcan')

end Status

/-! ## Steps and runs -/

section Steps

variable {handles : HandleTable} {s : BleState}

theorem coherent_handleWriteEvent
    (inp : EnqueueInput) (allocated : Bool) (param : WriteParam) (hfits : QueueFits s.wifi) :
    (TimerCoherent (handleWriteEvent handles inp allocated param s).wifi ↔
        WriteKeepsTimer handles inp allocated param s.wifi) ∧
      QueueFits (handleWriteEvent handles inp allocated param s).wifi := by
  have hreset : QueueFits (bleProvTimerReset s).wifi := hfits.congr rfl
  unfold handleWriteEvent WriteKeepsTimer
  dsimp only
  split
  · have hwifi : (applyEepromPayload param.value (bleProvTimerReset s)).wifi =
        { s.wifi with provTimer := true } := by
      unfold applyEepromPayload
      split
      · rfl
      · rfl
    rw [hwifi]
    exact ⟨coherent_timerReset, hreset⟩
  · split
    · exact coherent_writeWifiSsid inp param.value allocated hreset
    · split
      · exact coherent_writeWifiPassword inp param.value allocated hreset
      · split
        · exact coherent_writeConnectToCloud inp hreset
        · exact ⟨coherent_timerReset, hreset⟩

/-- The descriptor of the status is written with two bytes. -/
theorem gattsWrite_cases
    (inp : EnqueueInput) (allocated : Bool) (param : WriteParam) :
    ((param.handle = handles.provStatusCfg ∧ param.value.length = 2) ∧
        (gattsWrite handles inp allocated param s).wifi = s.wifi) ∨
      ¬ (param.handle = handles.provStatusCfg ∧ param.value.length = 2) ∧
        gattsWrite handles inp allocated param s =
          handleWriteEvent handles inp allocated param s := by
  unfold gattsWrite
  split
  · rename_i low high hvalue
    split
    · rename_i hhandle
      exact Or.inl ⟨⟨hhandle, by rw [hvalue]; rfl⟩, rfl⟩
    · rename_i hhandle
      exact Or.inr ⟨fun h => hhandle h.1, rfl⟩
  · rename_i hvalue
    refine Or.inr ⟨?_, rfl⟩
    rintro ⟨-, hlength⟩
    obtain ⟨low, high, heq⟩ := List.length_eq_two.mp hlength
    exact hvalue low high heq

/-- An execute leaves the provisioning alone. -/
theorem execWriteEventEnv_wifi
    (exec : Bool) :
    (execWriteEventEnv handles exec s).wifi = s.wifi := by
  unfold execWriteEventEnv applyEepromPayload
  dsimp only
  split
  · split
    · split
      · rfl
      · rfl
    · rfl
  · rfl

/-- An event keeps the timer coherent exactly when it is harmless. -/
theorem coherentStep_iff
    (e : BleEvent) (hcoherent : TimerCoherent s.wifi) (hfits : QueueFits s.wifi) :
    (CoherentStep handles e s ↔ KeepsTimer handles e s) ∧
      QueueFits (bleStep handles e s).wifi := by
  have hafter : CoherentStep handles e s ↔ TimerCoherent (bleStep handles e s).wifi :=
    ⟨CoherentStep.after, fun h => ⟨h, fun _ harmed => hcoherent.armed_iff.mp harmed⟩⟩
  rw [hafter]
  have hsame : ∀ {s' : WifiState}, SameBle s.wifi s' →
      (TimerCoherent s' ↔ True) ∧ QueueFits s' := fun h =>
    ⟨iff_of_true (h.coherent_iff.mpr hcoherent) trivial, hfits.congr h.wifiReqQueue⟩
  cases e with
  | gatts event =>
      cases event with
      | connect => exact ⟨coherent_timerReset, hfits.congr rfl⟩
      | disconnect =>
          refine ⟨iff_of_true ?_ trivial, hfits.congr rfl⟩
          exact (coherent_bleSetProvStatus .waitSsid).mpr (Or.inl (Or.inl rfl))
      | write inp allocated param =>
          show (TimerCoherent (gattsWrite handles inp allocated param s).wifi ↔ _ ∨ _) ∧
            QueueFits (gattsWrite handles inp allocated param s).wifi
          rcases @gattsWrite_cases handles s inp allocated param with
            ⟨hconfig, hwifi⟩ | ⟨hconfig, heq⟩
          · rw [hwifi]
            exact ⟨iff_of_true hcoherent (Or.inl hconfig), hfits⟩
          · obtain ⟨hkeeps, hqueue⟩ :=
              @coherent_handleWriteEvent handles s inp allocated param hfits
            rw [heq]
            exact ⟨hkeeps.trans (or_iff_right hconfig).symm, hqueue⟩
      | prepareWrite allocated param => exact hsame (SameBle.refl _)
      | execWrite exec =>
          show (TimerCoherent (execWriteEventEnv handles exec s).wifi ↔ True) ∧
            QueueFits (execWriteEventEnv handles exec s).wifi
          rw [execWriteEventEnv_wifi]
          exact hsame (SameBle.refl _)
  | provTimeout =>
      show (TimerCoherent (if s.wifi.provTimer then { s with wifi := _ } else s : BleState).wifi ↔
        True) ∧ QueueFits (if s.wifi.provTimer then { s with wifi := _ } else s : BleState).wifi
      split
      · refine ⟨iff_of_true ?_ trivial, hfits.congr rfl⟩
        exact (coherent_bleSetProvStatus .error).mpr (Or.inr (not_holdsBytes.mpr ⟨rfl, rfl⟩))
      · exact hsame (SameBle.refl _)
  | setRuntimeReady ready =>
      refine ⟨(coherent_bleSetProvStatus _).trans (or_iff_right ?_), hfits.congr rfl⟩
      cases ready with
      | true => simp
      | false => simp
  | task inp =>
      obtain ⟨hprovisioning, hqueue⟩ := sameProvisioning_mqttTaskStep inp s.wifi hfits
      exact ⟨iff_of_true (hprovisioning.coherent_iff.mpr hcoherent) trivial, hqueue⟩
  | gotIp => exact hsame (sameBle_onGotIp s.wifi)
  | staDisconnected => exact hsame (sameBle_onWifiDisconnect s.wifi)

end Steps

/-- From the start of the server, the timer is coherent throughout a run exactly
when all its events are harmless to it. -/
theorem provTimer_coherent_iff
    (handles : HandleTable) (nvsSsid nvsPass : Option (List UInt8)) (es : List BleEvent) :
    Along (bleStep handles) (CoherentStep handles) es (.initial nvsSsid nvsPass) ↔
      Along (bleStep handles) (KeepsTimer handles) es (.initial nvsSsid nvsPass) := by
  have hkeeps : ∀ e s, TimerInvariant s → CoherentStep handles e s →
      TimerInvariant (bleStep handles e s) := by
    intro e s h hstep
    exact ⟨hstep.after, (coherentStep_iff e h.coherent h.fits).2⟩
  have hinitial : TimerInvariant (.initial nvsSsid nvsPass) := by
    constructor
    · exact (coherent_bleSetProvStatus .booting).mpr (Or.inr (not_holdsBytes.mpr ⟨rfl, rfl⟩))
    · intro queue hqueue
      cases hqueue
  exact along_congr_of_invariant hkeeps (fun e s h => (coherentStep_iff e h.coherent h.fits).1) es
    hinitial

/-- A client that connects starts the timer while the server is booting. -/
theorem connect_arms_timer :
    ¬ Along (bleStep ⟨1, 2, 3, 4, 5⟩) (CoherentStep ⟨1, 2, 3, 4, 5⟩) [.gatts .connect]
      (.initial none none) := by
  rintro ⟨hstep, -⟩
  have hwaiting := hstep.after.armed_iff.mp rfl
  revert hwaiting
  simp [Waiting, bleStep, gattsProfileEventHandler, bleProvTimerReset, BleState.initial,
    bleSetProvStatus]

end Ble
end AvensysEsp32
