import AvensysEsp32.Wifi.Stored

/-!
# Requests that take effect

A request that `apply_wifi_request` accepts should be the one the station is
connected with.  The comparison with `WIFI_SSID` and `WIFI_PASSWORD` does not
show this, since the BLE handler writes the two arrays before it makes its
request.

What does show it is who has written the two arrays: where they still hold what
`apply_wifi_request` stored there last, the comparison is right.
-/

namespace AvensysEsp32
namespace Wifi

open Foundation

/-- A request to be kept is in NVS. -/
def Saved (request : WifiRequest) (s : WifiState) : Prop :=
  request.persistToNvs = true →
    s.nvsSsid = some request.ssid ∧ s.nvsPass = some request.password

/-- The station was started with the request's credentials, and they are saved
if they are to be kept. -/
def InUse (request : WifiRequest) (s : WifiState) : Prop :=
  s.station = some ⟨request.ssid, request.password⟩ ∧ Saved request s

/-- Every request for which `ESP_OK` is returned is in use. -/
def TakesEffect (e : WifiEvent) (s : WifiState) : Prop :=
  ∀ request, returned e s = some ⟨request, true⟩ → InUse request (wifiStep e s)

/-- What the two arrays tell the task is right: a request it skips is in use, and
an attempt finds there the credentials of its request. -/
def ArraysTell (e : WifiEvent) (s : WifiState) : Prop :=
  match e, s.phase with
  | .task _, .receiving =>
      ∀ latest, s.wifiReqQueue.bind List.getLast? = some latest →
        s.wifiConnectedFlag = true → s.wifiSsid = latest.ssid →
          s.wifiPassword = latest.password → InUse latest s
  | .task _, .connecting request _ =>
      s.wifiSsid = request.ssid ∧ s.wifiPassword = request.password
  | _, _ => True

/-- What holds while a request is being applied. -/
def ApplyInvariant (s : WifiState) : Prop :=
  match s.phase with
  | .connecting request _ => Saved request s
  | .awaitingIp request _ => InUse request s
  | _ => True

section Invariant

variable {request : WifiRequest} {s s' : WifiState}

theorem Saved.congr
    (h : Saved request s) (hssid : s'.nvsSsid = s.nvsSsid) (hpass : s'.nvsPass = s.nvsPass) :
    Saved request s' := by
  intro hpersist
  rw [hssid, hpass]
  exact h hpersist

theorem InUse.congr
    (h : InUse request s) (hstation : s'.station = s.station)
    (hssid : s'.nvsSsid = s.nvsSsid) (hpass : s'.nvsPass = s.nvsPass) :
    InUse request s' :=
  ⟨hstation.trans h.1, h.2.congr hssid hpass⟩

theorem ApplyInvariant.congr
    (h : ApplyInvariant s) (hphase : s'.phase = s.phase) (hstation : s'.station = s.station)
    (hssid : s'.nvsSsid = s.nvsSsid) (hpass : s'.nvsPass = s.nvsPass) :
    ApplyInvariant s' := by
  unfold ApplyInvariant at *
  rw [hphase]
  cases hp : s.phase with
  | connecting request retry =>
      rw [hp] at h
      exact Saved.congr h hssid hpass
  | awaitingIp request retry =>
      rw [hp] at h
      exact InUse.congr h hstation hssid hpass
  | starting => trivial
  | receiving => trivial
  | cooling request => trivial
  | applying request => trivial

/-- The first attempt is made after the request has been saved. -/
theorem applyInvariant_storeCredentials
    (h : Saved request s) :
    ApplyInvariant (storeCredentials request s).1 ∧ (storeCredentials request s).2 = none := by
  refine ⟨?_, rfl⟩
  unfold storeCredentials wifiDisconnect
  dsimp only
  cases s.connectEventGroup with
  | none => exact Saved.congr h rfl rfl
  | some bit => exact Saved.congr h rfl rfl

theorem applyInvariant_persistAndStore
    (inp : TaskInput) (request : WifiRequest) (s : WifiState) :
    ApplyInvariant (persistAndStore inp request s).1 ∧
      (persistAndStore inp request s).2 ≠ some ⟨request, true⟩ := by
  unfold persistAndStore
  cases hpersist : request.persistToNvs with
  | false =>
      have hsaved : Saved request s := by
        intro h
        rw [hpersist] at h
        exact absurd h (by decide)
      obtain ⟨hinv, hnone⟩ := applyInvariant_storeCredentials hsaved
      refine ⟨hinv, ?_⟩
      show (storeCredentials request s).2 ≠ _
      rw [hnone]
      exact nofun
  | true =>
      rw [if_pos rfl]
      cases inp.nvsSsid with
      | failed => exact ⟨trivial, by simp [nvsWriteString]⟩
      | uncommitted => exact ⟨trivial, by simp [nvsWriteString]⟩
      | committed =>
          cases inp.nvsPass with
          | failed => exact ⟨trivial, by simp [nvsWriteString]⟩
          | uncommitted => exact ⟨trivial, by simp [nvsWriteString]⟩
          | committed =>
              have hsaved : Saved request { s with
                  nvsSsid := some request.ssid
                  nvsPass := some request.password } := fun _ => ⟨rfl, rfl⟩
              obtain ⟨hinv, hnone⟩ := applyInvariant_storeCredentials hsaved
              exact ⟨hinv, by simp [nvsWriteString, hnone]⟩

theorem applyInvariant_attemptFailed
    (h : Saved request s) (retry : Nat) :
    ApplyInvariant (attemptFailed request s retry).1 ∧
      (attemptFailed request s retry).2 ≠ some ⟨request, true⟩ := by
  unfold attemptFailed
  dsimp only
  split
  · exact ⟨Saved.congr h rfl rfl, nofun⟩
  · exact ⟨trivial, by simp⟩

theorem applyInvariant_attempt
    (inp : TaskInput) (retry : Nat) (h : Saved request s)
    (hssid : s.wifiSsid = request.ssid) (hpass : s.wifiPassword = request.password) :
    ApplyInvariant (attempt inp request s retry).1 ∧
      (attempt inp request s retry).2 ≠ some ⟨request, true⟩ := by
  obtain ⟨hnvsSsid, hnvsPass, hstation⟩ :=
    wifiConnect_spec inp.groupCreated inp.start s.wifiSsid s.wifiPassword s
  unfold attempt
  generalize wifiConnect inp.groupCreated inp.start s.wifiSsid s.wifiPassword s = result at *
  obtain ⟨s', waits⟩ := result
  cases waits with
  | true =>
      refine ⟨?_, nofun⟩
      have huse : InUse request s' := by
        refine ⟨?_, h.congr hnvsSsid hnvsPass⟩
        rw [hstation rfl, hssid, hpass]
      exact huse
  | false => exact applyInvariant_attemptFailed (h.congr hnvsSsid hnvsPass) retry

theorem applyInvariant_awaitIp
    (inp : TaskInput) (retry : Nat) (hphase : s.phase = .awaitingIp request retry)
    (h : InUse request s) :
    ApplyInvariant (awaitIp inp request s retry).1 ∧
      ((awaitIp inp request s retry).2 = some ⟨request, true⟩ →
        InUse request (awaitIp inp request s retry).1) := by
  unfold awaitIp
  split
  · exact ⟨trivial, fun _ => h.congr rfl rfl rfl⟩
  · split
    · obtain ⟨hinv, hfailed⟩ := applyInvariant_attemptFailed
        (s := { stop s with connectEventGroup := none }) (h.2.congr rfl rfl) retry
      exact ⟨hinv, fun hok => absurd hok hfailed⟩
    · refine ⟨?_, nofun⟩
      unfold ApplyInvariant
      rw [hphase]
      exact h

end Invariant

/-- A result always concerns the request that is being applied. -/
theorem returned_request
    (inp : TaskInput) (s : WifiState) (request : WifiRequest) (ok : Bool)
    (h : (mqttTaskStep inp s).2 = some ⟨request, ok⟩) :
    match s.phase with
    | .starting => False
    | .receiving => s.wifiReqQueue.bind List.getLast? = some request ∧
        s.wifiConnectedFlag = true ∧ s.wifiSsid = request.ssid ∧
          s.wifiPassword = request.password
    | .cooling _ => False
    | .applying r => r = request
    | .connecting r _ => r = request
    | .awaitingIp r _ => r = request := by
  unfold mqttTaskStep at h
  cases hphase : s.phase with
  | starting =>
      rw [hphase] at h
      dsimp only at h
      split at h
      · cases h
      · cases h
  | receiving =>
      rw [hphase] at h
      dsimp only at h
      cases hlatest : s.wifiReqQueue.bind List.getLast? with
      | none =>
          rw [hlatest] at h
          cases h
      | some latest =>
          rw [hlatest] at h
          unfold beginApply at h
          dsimp only at h
          split at h
          · rename_i hskip
            cases h
            exact ⟨rfl, hskip⟩
          · split at h
            · cases h
            · cases h
  | cooling r =>
      rw [hphase] at h
      cases h
  | applying r =>
      rw [hphase] at h
      unfold persistAndStore at h
      dsimp only at h
      split at h
      · split at h
        · split at h
          · cases h
          · cases h
            rfl
        · cases h
          rfl
      · cases h
  | connecting r retry =>
      rw [hphase] at h
      unfold attempt attemptFailed at h
      dsimp only at h
      split at h
      · cases h
      · split at h
        · cases h
        · cases h
          rfl
  | awaitingIp r retry =>
      rw [hphase] at h
      unfold awaitIp attemptFailed at h
      dsimp only at h
      split at h
      · cases h
        rfl
      · split at h
        · split at h
          · cases h
          · cases h
            rfl
        · cases h

/-- One step of the task keeps the invariant, and what it returns is in use. -/
theorem applyInvariant_mqttTaskStep
    (inp : TaskInput) {s : WifiState} (htell : ArraysTell (.task inp) s)
    (h : ApplyInvariant s) :
    ApplyInvariant (mqttTaskStep inp s).1 ∧
      ∀ request, (mqttTaskStep inp s).2 = some ⟨request, true⟩ →
        InUse request (mqttTaskStep inp s).1 := by
  have hreturned := fun request => returned_request inp s request true
  unfold ArraysTell at htell
  unfold ApplyInvariant at h
  unfold mqttTaskStep at *
  cases hphase : s.phase with
  | starting =>
      rw [hphase] at hreturned
      refine ⟨?_, fun request hok => (hreturned request hok).elim⟩
      dsimp only
      have hsame := sameManager_mqttEnqueue ⟨inp.tick, inp.queueCreated⟩ s.wifiSsid
        s.wifiPassword false .boot s
      split
      · unfold ApplyInvariant
        rw [hsame.phase, hphase]
        trivial
      · trivial
  | receiving =>
      rw [hphase] at hreturned htell
      dsimp only at hreturned htell ⊢
      cases hlatest : s.wifiReqQueue.bind List.getLast? with
      | none =>
          refine ⟨?_, nofun⟩
          unfold ApplyInvariant
          rw [hphase]
          trivial
      | some latest =>
          unfold beginApply
          dsimp only
          split
          · rename_i hskip
            refine ⟨trivial, fun request hok => ?_⟩
            cases hok
            exact (htell latest hlatest hskip.1 hskip.2.1 hskip.2.2).congr rfl rfl rfl
          · split
            · exact ⟨trivial, nofun⟩
            · exact ⟨trivial, nofun⟩
  | cooling request => exact ⟨trivial, nofun⟩
  | applying request =>
      rw [hphase] at hreturned
      dsimp only at hreturned ⊢
      obtain ⟨hinv, hfailed⟩ := applyInvariant_persistAndStore inp request s
      refine ⟨hinv, fun r hok => ?_⟩
      obtain rfl := hreturned r hok
      exact absurd hok hfailed
  | connecting request retry =>
      rw [hphase] at hreturned htell h
      dsimp only at hreturned ⊢
      obtain ⟨hinv, hfailed⟩ :=
        applyInvariant_attempt inp retry h htell.1 htell.2
      refine ⟨hinv, fun r hok => ?_⟩
      obtain rfl := hreturned r hok
      exact absurd hok hfailed
  | awaitingIp request retry =>
      rw [hphase] at hreturned h
      dsimp only at hreturned ⊢
      obtain ⟨hinv, huse⟩ := applyInvariant_awaitIp inp retry hphase h
      refine ⟨hinv, fun r hok => ?_⟩
      obtain rfl := hreturned r hok
      exact huse hok

/-- What happens beside the task leaves the station's credentials and NVS. -/
theorem applyInvariant_wifiStep
    (e : WifiEvent) (s : WifiState) (htell : ArraysTell e s) (h : ApplyInvariant s) :
    ApplyInvariant (wifiStep e s) ∧ TakesEffect e s := by
  have hcongr : ∀ e : WifiEvent, (∀ inp, e ≠ .task inp) →
      (wifiStep e s).phase = s.phase → (wifiStep e s).station = s.station →
        (wifiStep e s).nvsSsid = s.nvsSsid → (wifiStep e s).nvsPass = s.nvsPass →
          ApplyInvariant (wifiStep e s) ∧ TakesEffect e s := by
    intro e he hphase hstation hssid hpass
    refine ⟨h.congr hphase hstation hssid hpass, fun request hok => ?_⟩
    cases e with
    | task inp => exact absurd rfl (he inp)
    | bleWrite inp write => cases hok
    | provTimeout => cases hok
    | bleDisconnected => cases hok
    | gotIp => cases hok
    | staDisconnected => cases hok
  have hsame : ∀ e : WifiEvent, (∀ inp, e ≠ .task inp) → SameManager s (wifiStep e s) →
      ApplyInvariant (wifiStep e s) ∧ TakesEffect e s := fun e he hsame =>
    hcongr e he hsame.phase hsame.station hsame.nvsSsid hsame.nvsPass
  cases e with
  | task inp => exact applyInvariant_mqttTaskStep inp htell h
  | bleWrite inp write =>
      exact hsame _ nofun (sameManager_wifiStep _ s nofun nofun nofun)
  | provTimeout => exact hsame _ nofun (sameManager_wifiStep _ s nofun nofun nofun)
  | bleDisconnected => exact hsame _ nofun (sameManager_wifiStep _ s nofun nofun nofun)
  | gotIp =>
      obtain ⟨group, flag, heq⟩ := onGotIp_eq s
      have hstep : wifiStep .gotIp s = _ := heq
      apply hcongr .gotIp nofun
      all_goals rw [hstep]
  | staDisconnected =>
      obtain ⟨group, flag, heq⟩ := onWifiDisconnect_eq s
      have hstep : wifiStep .staDisconnected s = _ := heq
      apply hcongr .staDisconnected nofun
      all_goals rw [hstep]

/-- Where the record tells the truth and nobody has written the arrays since, the
arrays tell the truth. -/
theorem Traced.arraysTell
    {stored : Option Stored} {e : WifiEvent} {s : WifiState} (h : Traced stored s)
    (hundisturbed : Undisturbed e (stored, s)) :
    ArraysTell e s := by
  unfold Undisturbed at hundisturbed
  unfold ArraysTell
  cases e with
  | task inp =>
      cases hphase : s.phase with
      | receiving =>
          rw [hphase] at hundisturbed
          intro latest hlatest hconnected hssid hpass
          obtain ⟨⟨a, ha, hssid', hpass'⟩, hsaved⟩ :=
            hundisturbed latest hlatest hconnected hssid hpass
          have hcredentials : a.request.ssid = latest.ssid ∧ a.request.password = latest.password :=
            ⟨hssid'.symm.trans hssid, hpass'.symm.trans hpass⟩
          obtain ⟨c, hc⟩ := Option.ne_none_iff_exists'.mp (h.connected hconnected)
          obtain ⟨b, hb, rfl⟩ := h.station c hc
          obtain rfl := Option.mem_unique ha hb
          refine ⟨?_, fun hpersist => ?_⟩
          · rw [hc, hcredentials.1, hcredentials.2]
          · rw [← hcredentials.1, ← hcredentials.2]
            exact h.saved a ha (hsaved hpersist a ha)
      | connecting request retry =>
          rw [hphase] at hundisturbed
          obtain ⟨a, ha, hssid, hpass⟩ := hundisturbed
          obtain ⟨b, hb, hrequest⟩ : ∃ b ∈ stored, b.request = request := by
            apply h.attempting
            unfold Attempting
            rw [hphase]
          obtain rfl := Option.mem_unique ha hb
          rw [← hrequest]
          exact ⟨hssid, hpass⟩
      | starting => trivial
      | cooling request => trivial
      | applying request => trivial
      | awaitingIp request retry => trivial
  | bleWrite inp write => trivial
  | provTimeout => trivial
  | bleDisconnected => trivial
  | gotIp => trivial
  | staDisconnected => trivial

/-- In every run from boot, whatever is stored in NVS, in which the task uses the
two arrays only where nobody has written them since `apply_wifi_request` did,
every request for which `ESP_OK` is returned takes effect. -/
theorem requests_take_effect
    (opened : Bool) (nvsSsid nvsPass : Option (List UInt8)) (events : List WifiEvent)
    (hundisturbed : Along storedStep Undisturbed events (none, .boot opened nvsSsid nvsPass)) :
    Along wifiStep TakesEffect events (.boot opened nvsSsid nvsPass) := by
  have hboot : Traced none (.boot opened nvsSsid nvsPass) :=
    ⟨nofun, fun hstarted => absurd rfl hstarted, nofun, nofun, nofun⟩
  have htraced : Along storedStep (fun e s => TakesEffect e s.2) events
      (none, .boot opened nvsSsid nvsPass) :=
    Along.of_invariant
      (fun e s he (hs : Traced s.1 s.2 ∧ ApplyInvariant s.2) => ⟨traced_wifiStep e hs.1 he,
        (applyInvariant_wifiStep e s.2 (hs.1.arraysTell he) hs.2).1⟩)
      (fun e s he hs => (applyInvariant_wifiStep e s.2 (hs.1.arraysTell he) hs.2).2)
      hundisturbed ⟨hboot, trivial⟩
  exact (along_snd (fun _ _ => rfl) TakesEffect events (none, _)).mp htraced

/-! ## Two runs -/

section Example

/-- The task starts and connects with the credentials it finds. -/
def connectAtBoot : List WifiEvent :=
  [taskAt 1000, taskAt 1000, taskAt 1000, taskAt 1000, .gotIp, taskAt 2000]

/-- A client provisions the network `a` with the password `b`. -/
def provision : List WifiEvent :=
  [.bleWrite ⟨3000, true⟩ (.wifiSsid [97] true),
    .bleWrite ⟨3000, true⟩ (.wifiPassword [98] true),
    .bleWrite ⟨3000, true⟩ .connectToCloud]

/-- Provisioned again with the credentials it has read from NVS and is connected
with, the device skips the request, which is in use. -/
theorem provisionAgain_takes_effect :
    Along wifiStep TakesEffect (connectAtBoot ++ provision ++ [taskAt 4000])
        (.boot true (some [97]) (some [98])) ∧
      ∃ request, returned (taskAt 4000)
        (run wifiStep (connectAtBoot ++ provision) (.boot true (some [97]) (some [98]))) =
          some ⟨request, true⟩ ∧ request.source = .ble := by
  refine ⟨requests_take_effect true _ _ _ ?_, _, rfl, rfl⟩
  decide +kernel

/-- Provisioned while connected, the new credentials are skipped as unchanged:
the station keeps the old ones, and nothing is saved. -/
theorem provision_no_effect :
    ¬ Along wifiStep TakesEffect (connectAtBoot ++ provision ++ [taskAt 4000])
        (.boot true none none) := by
  rw [along_append]
  rintro ⟨-, heffect, -⟩
  obtain ⟨hstation, -⟩ := heffect
    { ssid := [97], password := [98], persistToNvs := true, requestId := 3,
      enqueueTick := 3000, source := .ble } (by decide +kernel)
  exact absurd hstation (by decide +kernel)

end Example

end Wifi
end AvensysEsp32
