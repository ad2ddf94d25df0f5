import AvensysEsp32.Wifi.Manager

/-!
# The history of the two arrays

`WIFI_SSID` and `WIFI_PASSWORD` are filled at boot, written by the BLE handler
and written by `apply_wifi_request`, which alone connects with them.  A record
beside the state keeps the request whose credentials `apply_wifi_request` stored
last, and whether NVS has held them since.

Where the arrays still hold what is recorded whenever the task connects, the
station has been started with what is recorded.
-/

namespace AvensysEsp32
namespace Wifi

open Foundation

/-- NVS holds the credentials of the request. -/
def Kept (request : WifiRequest) (s : WifiState) : Prop :=
  s.nvsSsid = some request.ssid ∧ s.nvsPass = some request.password

instance (request : WifiRequest) (s : WifiState) : Decidable (Kept request s) :=
  inferInstanceAs (Decidable (_ ∧ _))

/-- The request whose credentials `apply_wifi_request` stored last in the two
arrays, and whether NVS has held them since then. -/
structure Stored where
  request : WifiRequest
  saved : Bool

/-- The record after an event.  A step that leads to the first attempt has
stored the credentials of its request; one that changes a key of NVS ends what
was saved. -/
def storedAfter (e : WifiEvent) (stored : Option Stored) (s : WifiState) : Option Stored :=
  match s.phase, (wifiStep e s).phase with
  | .applying request, .connecting _ 0 =>
      some ⟨request, decide (Kept request (wifiStep e s))⟩
  | _, _ => stored.map fun a =>
      ⟨a.request, a.saved && decide ((wifiStep e s).nvsSsid = s.nvsSsid ∧
        (wifiStep e s).nvsPass = s.nvsPass)⟩

/-- An event, recorded. -/
def storedStep (e : WifiEvent) (s : Option Stored × WifiState) : Option Stored × WifiState :=
  (storedAfter e s.1 s.2, wifiStep e s.2)

/-- The two arrays hold what `apply_wifi_request` stored there last: nobody has
written other credentials since. -/
def Untouched (stored : Option Stored) (s : WifiState) : Prop :=
  ∃ a ∈ stored, s.wifiSsid = a.request.ssid ∧ s.wifiPassword = a.request.password

/-- The two arrays are untouched where the task connects with them, and where it
finds a request unchanged while Wi-Fi is connected; what such a request wants
saved has been in NVS since it was stored. -/
def Undisturbed (e : WifiEvent) (s : Option Stored × WifiState) : Prop :=
  match e, s.2.phase with
  | .task _, .receiving =>
      ∀ latest ∈ s.2.wifiReqQueue.bind List.getLast?,
        s.2.wifiConnectedFlag = true → s.2.wifiSsid = latest.ssid →
          s.2.wifiPassword = latest.password →
            Untouched s.1 s.2 ∧ (latest.persistToNvs = true → ∀ a ∈ s.1, a.saved = true)
  | .task _, .connecting _ _ => Untouched s.1 s.2
  | _, _ => True

instance (stored : Option Stored) (s : WifiState) : Decidable (Untouched stored s) :=
  inferInstanceAs (Decidable (∃ a ∈ stored, _))

instance (e : WifiEvent) (s : Option Stored × WifiState) : Decidable (Undisturbed e s) := by
  unfold Undisturbed
  split <;> infer_instance

/-- The request is past the two arrays and not yet returned. -/
def Attempting (request : WifiRequest) (s : WifiState) : Prop :=
  match s.phase with
  | .connecting r _ => r = request
  | .awaitingIp r _ => r = request
  | _ => False

/-- What the record says of the station, of NVS and of the attempts. -/
structure Traced (stored : Option Stored) (s : WifiState) : Prop where
  connected : s.wifiConnectedFlag = true → s.station ≠ none
  grouped : s.station ≠ none → s.connectEventGroup ≠ none
  station : ∀ c, s.station = some c →
    ∃ a ∈ stored, c = ⟨a.request.ssid, a.request.password⟩
  saved : ∀ a ∈ stored, a.saved = true → Kept a.request s
  attempting : ∀ request, Attempting request s → ∃ a ∈ stored, a.request = request

section Traced

variable {stored : Option Stored} {s s' : WifiState}

/-- The station goes on, and the attempt at most ends. -/
theorem Traced.same
    (h : Traced stored s) (hssid : s'.nvsSsid = s.nvsSsid) (hpass : s'.nvsPass = s.nvsPass)
    (hstation : s'.station = s.station)
    (hflag : s'.wifiConnectedFlag = true → s.wifiConnectedFlag = true ∨ s.station ≠ none)
    (hgroup : s'.connectEventGroup = none → s.connectEventGroup = none)
    (hattempting : ∀ request, Attempting request s' → Attempting request s) :
    Traced stored s' where
  connected := by
    intro hconnected
    rw [hstation]
    exact (hflag hconnected).elim h.connected id
  grouped := by
    intro hstarted hnone
    rw [hstation] at hstarted
    exact h.grouped hstarted (hgroup hnone)
  station := by
    rw [hstation]
    exact h.station
  saved := by
    intro a ha hsaved
    unfold Kept
    rw [hssid, hpass]
    exact h.saved a ha hsaved
  attempting := fun request hattempt => h.attempting request (hattempting request hattempt)

/-- The station is stopped. -/
theorem Traced.stopped
    (hstation : s'.station = none) (hflag : s'.wifiConnectedFlag = false)
    (hsaved : ∀ a ∈ stored, a.saved = true → Kept a.request s')
    (hattempting : ∀ request, Attempting request s' → ∃ a ∈ stored, a.request = request) :
    Traced stored s' where
  connected := by
    intro hconnected
    rw [hflag] at hconnected
    cases hconnected
  grouped := fun hstarted => absurd hstation hstarted
  station := by
    intro c hc
    rw [hstation] at hc
    cases hc
  saved := hsaved
  attempting := hattempting

theorem SameManager.traced
    (hsame : SameManager s s') (h : Traced stored s) :
    Traced stored s' := by
  apply h.same hsame.nvsSsid hsame.nvsPass hsame.station
  · intro hconnected
    rw [hsame.wifiConnectedFlag] at hconnected
    exact Or.inl hconnected
  · intro hnone
    rwa [hsame.connectEventGroup] at hnone
  · intro request hattempting
    unfold Attempting at *
    rwa [hsame.phase] at hattempting

theorem traced_onGotIp (h : Traced stored s) :
    Traced stored (onGotIp s) := by
  unfold onGotIp
  split
  · exact h
  · rename_i c hstation
    refine h.same rfl rfl rfl ?_ ?_ ?_
    · intro _
      rw [hstation]
      exact Or.inr nofun
    · exact Option.map_eq_none_iff.mp
    · exact fun request hattempting => hattempting

theorem traced_onWifiDisconnect (h : Traced stored s) :
    Traced stored (onWifiDisconnect s) := by
  unfold onWifiDisconnect
  split
  · exact h
  · exact h.same rfl rfl rfl nofun id fun request hattempting => hattempting

/-- The task takes a request, skips it or waits. -/
theorem traced_beginApply
    (inp : TaskInput) (latest : WifiRequest) (h : Traced stored s) :
    Traced stored (beginApply inp latest { s with wifiReqQueue := some [] }).1 := by
  unfold beginApply
  dsimp only
  split
  · exact h.same rfl rfl rfl Or.inl id nofun
  · split
    · exact h.same rfl rfl rfl Or.inl id nofun
    · exact h.same rfl rfl rfl Or.inl id nofun

theorem traced_attemptFailed
    {request : WifiRequest} (h : Traced stored s) (hstored : ∃ a ∈ stored, a.request = request)
    (retry : Nat) :
    Traced stored (attemptFailed request s retry).1 := by
  unfold attemptFailed
  dsimp only
  have hattempting : ∀ phase, (∀ r, Attempting r { s with phase := phase } → r = request) →
      ∀ s', s' = { s with wifiManagerState := .failed, phase := phase } →
        Traced stored s' := by
    rintro phase hphase s' rfl
    refine ⟨h.connected, h.grouped, h.station, h.saved, fun r hr => ?_⟩
    rw [hphase r hr]
    exact hstored
  split
  · apply hattempting (.connecting request (retry + 1)) _ _ rfl
    intro r hr
    exact hr.symm
  · exact hattempting .receiving nofun _ rfl

/-- A station that is started is started with what is recorded, if the two
arrays are untouched. -/
theorem traced_attempt
    (inp : TaskInput) {request : WifiRequest} (retry : Nat) (h : Traced stored s)
    (hstored : ∃ a ∈ stored, a.request = request) (huntouched : Untouched stored s) :
    Traced stored (attempt inp request s retry).1 := by
  have hfailed : ∀ s', Traced stored s' →
      Traced stored (attemptFailed request s' retry).1 :=
    fun s' hs' => traced_attemptFailed hs' hstored retry
  unfold attempt wifiConnect
  cases hgroup : s.connectEventGroup with
  | some bit => exact hfailed s h
  | none =>
      cases inp.groupCreated with
      | false => exact hfailed s h
      | true =>
          cases inp.start with
          | unattached => exact hfailed s h
          | stopped configGiven =>
              cases configGiven with
              | false => exact hfailed _ (.stopped rfl rfl h.saved h.attempting)
              | true => exact hfailed _ (.stopped rfl rfl h.saved h.attempting)
          | started =>
              obtain ⟨a, ha, hssid, hpass⟩ := huntouched
              refine ⟨fun _ => nofun, fun _ => nofun, ?_, h.saved, ?_⟩
              · intro c hc
                cases hc
                exact ⟨a, ha, by rw [hssid, hpass]⟩
              · rintro r rfl
                exact hstored

theorem traced_awaitIp
    (inp : TaskInput) {request : WifiRequest} {retry : Nat} (h : Traced stored s)
    (hphase : s.phase = .awaitingIp request retry) :
    Traced stored (awaitIp inp request s retry).1 := by
  have hstored : ∃ a ∈ stored, a.request = request := by
    apply h.attempting
    unfold Attempting
    rw [hphase]
  unfold awaitIp
  split
  · exact h.same rfl rfl rfl Or.inl nofun nofun
  · split
    · apply traced_attemptFailed _ hstored
      exact .stopped rfl rfl h.saved h.attempting
    · exact h

/-! ## Every event -/

/-- Where no credentials are being stored and NVS keeps its keys, the record
stays. -/
theorem storedAfter_eq
    {e : WifiEvent} (hphase : (∀ r, s.phase ≠ .applying r) ∨ (wifiStep e s).phase = s.phase)
    (hssid : (wifiStep e s).nvsSsid = s.nvsSsid) (hpass : (wifiStep e s).nvsPass = s.nvsPass) :
    storedAfter e stored s = stored := by
  have hkept : (stored.map fun a => (⟨a.request, a.saved && decide
      ((wifiStep e s).nvsSsid = s.nvsSsid ∧ (wifiStep e s).nvsPass = s.nvsPass)⟩ : Stored)) =
        stored := by
    cases stored with
    | none => rfl
    | some a => simp [hssid, hpass]
  unfold storedAfter
  split
  · rename_i request request' hbefore hafter
    rcases hphase with hphase | hphase
    · exact absurd hbefore (hphase request)
    · rw [hbefore, hafter] at hphase
      cases hphase
  · exact hkept

/-- The credentials are stored and the station is stopped, or NVS has failed. -/
theorem persistAndStore_result
    (inp : TaskInput) (request : WifiRequest) (s : WifiState) :
    ∃ nvsSsid nvsPass,
      (persistAndStore inp request s).1 =
          { s with nvsSsid := nvsSsid, nvsPass := nvsPass, phase := .receiving } ∨
        (persistAndStore inp request s).1 =
          (storeCredentials request { s with nvsSsid := nvsSsid, nvsPass := nvsPass }).1 := by
  unfold persistAndStore
  cases request.persistToNvs with
  | false => exact ⟨s.nvsSsid, s.nvsPass, Or.inr rfl⟩
  | true =>
      rw [if_pos rfl]
      cases inp.nvsSsid with
      | failed => exact ⟨_, _, Or.inl rfl⟩
      | uncommitted => exact ⟨_, _, Or.inl rfl⟩
      | committed =>
          cases inp.nvsPass with
          | failed => exact ⟨_, _, Or.inl rfl⟩
          | uncommitted => exact ⟨_, _, Or.inl rfl⟩
          | committed => exact ⟨_, _, Or.inr rfl⟩

/-- After the credentials are stored the station is stopped. -/
theorem storeCredentials_stopped
    (request : WifiRequest) (nvsSsid nvsPass : Option (List UInt8)) (h : Traced stored s) :
    let s' :=
      (storeCredentials request { s with nvsSsid := nvsSsid, nvsPass := nvsPass }).1
    s'.station = none ∧ s'.wifiConnectedFlag = false ∧ s'.phase = .connecting request 0 := by
  unfold storeCredentials wifiDisconnect
  cases hgroup : s.connectEventGroup with
  | some bit => exact ⟨rfl, rfl, rfl⟩
  | none =>
      have hstation : s.station = none := by
        by_contra hstarted
        exact h.grouped hstarted hgroup
      refine ⟨hstation, ?_, rfl⟩
      cases hflag : s.wifiConnectedFlag with
      | false => rfl
      | true => exact absurd hstation (h.connected hflag)

theorem traced_applying
    (inp : TaskInput) {request : WifiRequest} (h : Traced stored s)
    (hphase : s.phase = .applying request) :
    Traced (storedAfter (.task inp) stored s) (wifiStep (.task inp) s) := by
  have hstep : wifiStep (.task inp) s = (persistAndStore inp request s).1 := by
    show (mqttTaskStep inp s).1 = _
    unfold mqttTaskStep
    rw [hphase]
  unfold storedAfter
  rw [hstep, hphase]
  obtain ⟨nvsSsid, nvsPass, hfailed | hstored⟩ := persistAndStore_result inp request s
  · rw [hfailed]
    refine ⟨h.connected, h.grouped, ?_, ?_, nofun⟩
    · intro c hc
      obtain ⟨a, ha, hac⟩ := h.station c hc
      exact ⟨_, Option.mem_map_of_mem _ ha, hac⟩
    · intro a ha hsaved
      obtain ⟨b, hb, rfl⟩ := Option.mem_map.mp ha
      obtain ⟨hsaved, hkeys⟩ := Bool.and_eq_true_iff.mp hsaved
      obtain ⟨hssid, hpass⟩ := of_decide_eq_true hkeys
      obtain ⟨hkeptSsid, hkeptPass⟩ := h.saved b hb hsaved
      exact ⟨hssid.trans hkeptSsid, hpass.trans hkeptPass⟩
  · obtain ⟨hstation, hflag, hconnecting⟩ := storeCredentials_stopped request nvsSsid nvsPass h
    rw [hstored]
    rw [hconnecting]
    apply Traced.stopped hstation hflag
    · rintro a ⟨⟩ hsaved
      exact of_decide_eq_true hsaved
    · intro r hattempting
      unfold Attempting at hattempting
      rw [hconnecting] at hattempting
      exact ⟨_, rfl, hattempting⟩

/-- `wifi_connect` does not touch NVS, and starts the station, if it waits, with
its arguments. -/
theorem wifiConnect_spec
    (groupCreated : Bool) (result : StartResult) (ssid passwd : List UInt8) (s : WifiState) :
    (wifiConnect groupCreated result ssid passwd s).1.nvsSsid = s.nvsSsid ∧
      (wifiConnect groupCreated result ssid passwd s).1.nvsPass = s.nvsPass ∧
      ((wifiConnect groupCreated result ssid passwd s).2 = true →
        (wifiConnect groupCreated result ssid passwd s).1.station = some ⟨ssid, passwd⟩) := by
  unfold wifiConnect
  cases s.connectEventGroup with
  | some bit => exact ⟨rfl, rfl, nofun⟩
  | none =>
      cases groupCreated with
      | false => exact ⟨rfl, rfl, nofun⟩
      | true =>
          cases result with
          | unattached => exact ⟨rfl, rfl, nofun⟩
          | stopped configGiven =>
              cases configGiven with
              | false => exact ⟨rfl, rfl, nofun⟩
              | true => exact ⟨rfl, rfl, nofun⟩
          | started => exact ⟨rfl, rfl, fun _ => rfl⟩

/-- The task writes to NVS only when it stores credentials. -/
theorem beginApply_nvs (inp : TaskInput) (latest : WifiRequest) (s : WifiState) :
    (beginApply inp latest s).1.nvsSsid = s.nvsSsid ∧
      (beginApply inp latest s).1.nvsPass = s.nvsPass := by
  unfold beginApply
  split
  · exact ⟨rfl, rfl⟩
  · split
    · exact ⟨rfl, rfl⟩
    · exact ⟨rfl, rfl⟩

theorem attemptFailed_nvs (request : WifiRequest) (s : WifiState) (retry : Nat) :
    (attemptFailed request s retry).1.nvsSsid = s.nvsSsid ∧
      (attemptFailed request s retry).1.nvsPass = s.nvsPass := by
  unfold attemptFailed
  dsimp only
  split
  · exact ⟨rfl, rfl⟩
  · exact ⟨rfl, rfl⟩

theorem attempt_nvs (inp : TaskInput) (request : WifiRequest) (s : WifiState) (retry : Nat) :
    (attempt inp request s retry).1.nvsSsid = s.nvsSsid ∧
      (attempt inp request s retry).1.nvsPass = s.nvsPass := by
  obtain ⟨hssid, hpass, -⟩ :=
    wifiConnect_spec inp.groupCreated inp.start s.wifiSsid s.wifiPassword s
  unfold attempt
  generalize wifiConnect inp.groupCreated inp.start s.wifiSsid s.wifiPassword s = result at *
  obtain ⟨s', waits⟩ := result
  cases waits with
  | true => exact ⟨hssid, hpass⟩
  | false =>
      obtain ⟨hssid', hpass'⟩ := attemptFailed_nvs request s' retry
      exact ⟨hssid'.trans hssid, hpass'.trans hpass⟩

theorem awaitIp_nvs (inp : TaskInput) (request : WifiRequest) (s : WifiState) (retry : Nat) :
    (awaitIp inp request s retry).1.nvsSsid = s.nvsSsid ∧
      (awaitIp inp request s retry).1.nvsPass = s.nvsPass := by
  unfold awaitIp
  split
  · exact ⟨rfl, rfl⟩
  · split
    · exact attemptFailed_nvs request { stop s with connectEventGroup := none } retry
    · exact ⟨rfl, rfl⟩

/-- A step of the task that meets arrays nobody has written since is traced. -/
theorem traced_mqttTaskStep
    (inp : TaskInput) (h : Traced stored s) (hundisturbed : Undisturbed (.task inp) (stored, s)) :
    Traced (storedAfter (.task inp) stored s) (wifiStep (.task inp) s) := by
  have hkept : ∀ s', (mqttTaskStep inp s).1 = s' → (∀ r, s.phase ≠ .applying r) →
      s'.nvsSsid = s.nvsSsid → s'.nvsPass = s.nvsPass → Traced stored s' →
        Traced (storedAfter (.task inp) stored s) (wifiStep (.task inp) s) := by
    rintro s' rfl hphase hssid hpass htraced
    rw [storedAfter_eq (e := .task inp) (Or.inl hphase) hssid hpass]
    exact htraced
  unfold Undisturbed at hundisturbed
  unfold mqttTaskStep at hkept
  cases hphase : s.phase with
  | starting =>
      rw [hphase] at hkept
      dsimp only at hkept
      have hsame := sameManager_mqttEnqueue ⟨inp.tick, inp.queueCreated⟩ s.wifiSsid
        s.wifiPassword false .boot s
      split at hkept
      · exact hkept _ rfl nofun hsame.nvsSsid hsame.nvsPass (hsame.traced h)
      · exact hkept _ rfl nofun hsame.nvsSsid hsame.nvsPass
          ((hsame.traced h).same rfl rfl rfl Or.inl id nofun)
  | receiving =>
      rw [hphase] at hkept
      dsimp only at hkept
      cases hlatest : s.wifiReqQueue.bind List.getLast? with
      | none =>
          rw [hlatest] at hkept
          exact hkept _ rfl nofun rfl rfl h
      | some latest =>
          rw [hlatest] at hkept
          obtain ⟨hssid, hpass⟩ := beginApply_nvs inp latest { s with wifiReqQueue := some [] }
          exact hkept _ rfl nofun hssid hpass (traced_beginApply inp latest h)
  | cooling request =>
      rw [hphase] at hkept
      exact hkept _ rfl nofun rfl rfl (h.same rfl rfl rfl Or.inl id nofun)
  | applying request => exact traced_applying inp h hphase
  | connecting request retry =>
      rw [hphase] at hkept hundisturbed
      have hstored : ∃ a ∈ stored, a.request = request := by
        apply h.attempting
        unfold Attempting
        rw [hphase]
      obtain ⟨hssid, hpass⟩ := attempt_nvs inp request s retry
      exact hkept _ rfl nofun hssid hpass (traced_attempt inp retry h hstored hundisturbed)
  | awaitingIp request retry =>
      rw [hphase] at hkept
      obtain ⟨hssid, hpass⟩ := awaitIp_nvs inp request s retry
      exact hkept _ rfl nofun hssid hpass (traced_awaitIp inp h hphase)

/-- Every event keeps what the record says. -/
theorem traced_wifiStep
    (e : WifiEvent) (h : Traced stored s) (hundisturbed : Undisturbed e (stored, s)) :
    Traced (storedAfter e stored s) (wifiStep e s) := by
  have hsame : ∀ e, (∀ inp, e ≠ .task inp) → e ≠ .gotIp → e ≠ .staDisconnected →
      Traced (storedAfter e stored s) (wifiStep e s) := by
    intro e htask hgot hlost
    have hsame := sameManager_wifiStep e s htask hgot hlost
    rw [storedAfter_eq (Or.inr hsame.phase) hsame.nvsSsid hsame.nvsPass]
    exact hsame.traced h
  cases e with
  | task inp => exact traced_mqttTaskStep inp h hundisturbed
  | bleWrite inp write => exact hsame _ nofun nofun nofun
  | provTimeout => exact hsame _ nofun nofun nofun
  | bleDisconnected => exact hsame _ nofun nofun nofun
  | gotIp =>
      obtain ⟨group, flag, heq⟩ := onGotIp_eq s
      have hstep : wifiStep .gotIp s = _ := heq
      rw [storedAfter_eq (Or.inr (by rw [hstep])) (by rw [hstep]) (by rw [hstep])]
      exact traced_onGotIp h
  | staDisconnected =>
      obtain ⟨group, flag, heq⟩ := onWifiDisconnect_eq s
      have hstep : wifiStep .staDisconnected s = _ := heq
      rw [storedAfter_eq (Or.inr (by rw [hstep])) (by rw [hstep]) (by rw [hstep])]
      exact traced_onWifiDisconnect h

end Traced

end Wifi
end AvensysEsp32
