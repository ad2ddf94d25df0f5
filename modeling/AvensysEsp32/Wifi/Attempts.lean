import AvensysEsp32.Wifi.Answers
import AvensysEsp32.Wifi.Persistence

/-!
# When a request is given up

`apply_wifi_request` returns an error only if NVS does not store the credentials,
or after exactly as many attempts as it may make.
-/

namespace AvensysEsp32
namespace Wifi

open Foundation

/-! ## The count -/

/-- The attempts for a request, counted beside the state. -/
def countedStep (e : WifiEvent) (t : Nat × WifiState) : Nat × WifiState :=
  (match e, t.2.phase with
    | .task _, .applying _ => 0
    | .task _, .connecting _ _ => t.1 + 1
    | _, _ => t.1,
    wifiStep e t.2)

/-- The count is what the task counts itself. -/
def Counted (attempts : Nat) (phase : TaskPhase) : Prop :=
  match phase with
  | .connecting _ retry => attempts = retry ∧ retry < wifiMaxRetry
  | .awaitingIp _ retry => attempts = retry + 1 ∧ retry < wifiMaxRetry
  | _ => True

section Attempts

variable {attempts : Nat} {s : WifiState} {request : WifiRequest}

theorem counted_of_request (phase : TaskPhase) (h : phase.request = none) :
    Counted attempts phase := by
  cases phase with
  | starting => trivial
  | receiving => trivial
  | cooling request => trivial
  | applying request => trivial
  | connecting request retry => cases h
  | awaitingIp request retry => cases h

/-- An attempt that failed is followed by another, or was the last. -/
theorem attemptFailed_counted
    (request : WifiRequest) (s : WifiState) {retry : Nat} (hretry : retry < wifiMaxRetry) :
    Counted (retry + 1) (attemptFailed request s retry).1.phase ∧
      ((attemptFailed request s retry).2 ≠ none → retry + 1 = wifiMaxRetry) := by
  unfold attemptFailed
  dsimp only
  split
  · rename_i hmore
    exact ⟨⟨rfl, hmore⟩, fun hreturns => absurd rfl hreturns⟩
  · rename_i hlast
    exact ⟨trivial, fun _ => by omega⟩

theorem attempt_counted
    (inp : TaskInput) (request : WifiRequest) (s : WifiState) {retry : Nat}
    (hretry : retry < wifiMaxRetry) :
    Counted (retry + 1) (attempt inp request s retry).1.phase ∧
      ((attempt inp request s retry).2 ≠ none → retry + 1 = wifiMaxRetry) := by
  unfold attempt
  generalize wifiConnect inp.groupCreated inp.start s.wifiSsid s.wifiPassword s = connected
  obtain ⟨s', waits⟩ := connected
  dsimp only
  split
  · exact ⟨⟨rfl, hretry⟩, fun hreturns => absurd rfl hreturns⟩
  · exact attemptFailed_counted request s' hretry

theorem awaitIp_counted
    (inp : TaskInput) {retry : Nat} (hphase : s.phase = .awaitingIp request retry)
    (hretry : retry < wifiMaxRetry) :
    Counted (retry + 1) (awaitIp inp request s retry).1.phase ∧
      ((awaitIp inp request s retry).2 = some ⟨request, false⟩ → retry + 1 = wifiMaxRetry) := by
  unfold awaitIp
  split
  · exact ⟨trivial, nofun⟩
  · split
    · obtain ⟨hcounted, hlast⟩ := attemptFailed_counted request
        { stop s with connectEventGroup := none } hretry
      exact ⟨hcounted, fun hreturned => hlast (by rw [hreturned]; exact Option.some_ne_none _)⟩
    · refine ⟨?_, nofun⟩
      show Counted (retry + 1) s.phase
      rw [hphase]
      exact ⟨rfl, hretry⟩

theorem persistAndStore_counted (inp : TaskInput) (s : WifiState) :
    Counted 0 (persistAndStore inp request s).1.phase := by
  have hstore : ∀ s : WifiState, Counted 0 (storeCredentials request s).1.phase := by
    intro s
    unfold storeCredentials
    dsimp only
    rw [phase_wifiDisconnect]
    exact ⟨rfl, by decide⟩
  unfold persistAndStore
  split
  · dsimp only
    split
    · split
      · exact hstore _
      · trivial
    · trivial
  · exact hstore s

theorem beginApply_counted (inp : TaskInput) (s : WifiState) :
    Counted attempts (beginApply inp request s).1.phase := by
  unfold beginApply
  split
  · trivial
  · split
    · trivial
    · trivial

/-- Credentials that are not stored end the function. -/
theorem persistAndStore_returns (inp : TaskInput) (s : WifiState) {ret : Returned}
    (h : (persistAndStore inp request s).2 = some ret) :
    ret.request = request ∧ request.persistToNvs = true ∧ WriteFails inp := by
  unfold persistAndStore at h
  by_cases hpersist : request.persistToNvs = true
  · rw [if_pos hpersist] at h
    cases hssid : inp.nvsSsid with
    | failed =>
        rw [hssid] at h
        cases h
        exact ⟨rfl, hpersist, Or.inl (by rw [hssid]; decide)⟩
    | uncommitted =>
        rw [hssid] at h
        cases h
        exact ⟨rfl, hpersist, Or.inl (by rw [hssid]; decide)⟩
    | committed =>
        cases hpass : inp.nvsPass with
        | failed =>
            rw [hssid, hpass] at h
            cases h
            exact ⟨rfl, hpersist, Or.inr (by rw [hpass]; decide)⟩
        | uncommitted =>
            rw [hssid, hpass] at h
            cases h
            exact ⟨rfl, hpersist, Or.inr (by rw [hpass]; decide)⟩
        | committed =>
            rw [hssid, hpass] at h
            cases h
  · rw [if_neg hpersist] at h
    cases h

/-- A request is begun, or returned at once without an error. -/
theorem beginApply_returns (inp : TaskInput) (s : WifiState) {ret : Returned}
    (h : (beginApply inp request s).2 = some ret) :
    ret.ok = true := by
  unfold beginApply at h
  split at h
  · cases h
    rfl
  · split at h
    · cases h
    · cases h

theorem attemptFailed_returns (s : WifiState) {retry : Nat} {ret : Returned}
    (h : (attemptFailed request s retry).2 = some ret) :
    ret.request = request := by
  unfold attemptFailed at h
  dsimp only at h
  split at h
  · cases h
  · cases h
    rfl

theorem awaitIp_returns (inp : TaskInput) (s : WifiState) {retry : Nat} {ret : Returned}
    (h : (awaitIp inp request s retry).2 = some ret) :
    ret.request = request := by
  unfold awaitIp at h
  split at h
  · cases h
    rfl
  · split at h
    · exact attemptFailed_returns _ h
    · cases h

/-- A step of the task counts its attempt, and gives up only after the last. -/
theorem counted_task
    (inp : TaskInput) {t : Nat × WifiState} (h : Counted t.1 t.2.phase) :
    Counted (countedStep (.task inp) t).1 (mqttTaskStep inp t.2).1.phase ∧
      ∀ request, (mqttTaskStep inp t.2).2 = some ⟨request, false⟩ →
        (request.persistToNvs = true ∧ WriteFails inp) ∨
          (countedStep (.task inp) t).1 = wifiMaxRetry := by
  obtain ⟨attempts, s⟩ := t
  unfold countedStep mqttTaskStep
  dsimp only at h ⊢
  cases hphase : s.phase with
  | starting =>
      dsimp only
      split
      · refine ⟨counted_of_request _ ?_, nofun⟩
        rw [(sameManager_mqttEnqueue ⟨inp.tick, inp.queueCreated⟩ s.wifiSsid s.wifiPassword false
          .boot s).phase, hphase]
        rfl
      · exact ⟨trivial, nofun⟩
  | receiving =>
      dsimp only
      split
      · refine ⟨?_, nofun⟩
        rw [hphase]
        trivial
      · refine ⟨beginApply_counted inp _, fun request hreturned => ?_⟩
        have hok := beginApply_returns inp _ hreturned
        cases hok
  | cooling taken => exact ⟨trivial, nofun⟩
  | applying taken =>
      refine ⟨persistAndStore_counted inp s, fun request hreturned => Or.inl ?_⟩
      obtain ⟨hsame, hpersist, hfails⟩ := persistAndStore_returns inp s hreturned
      obtain rfl : request = taken := hsame
      exact ⟨hpersist, hfails⟩
  | connecting taken retry =>
      rw [hphase] at h
      obtain ⟨rfl, hretry⟩ := h
      obtain ⟨hcounted, hlast⟩ := attempt_counted inp taken s hretry
      refine ⟨hcounted, fun request hreturned => Or.inr (hlast ?_)⟩
      dsimp only at hreturned
      rw [hreturned]
      exact Option.some_ne_none _
  | awaitingIp taken retry =>
      rw [hphase] at h
      obtain ⟨rfl, hretry⟩ := h
      obtain ⟨hcounted, hlast⟩ := awaitIp_counted inp hphase hretry
      refine ⟨hcounted, fun request hreturned => Or.inr ?_⟩
      obtain rfl : request = taken := awaitIp_returns inp s hreturned
      exact hlast hreturned

end Attempts

/-- A request is given up because it is not saved, or after all the attempts it
may have. -/
def GivesUpLate (e : WifiEvent) (t : Nat × WifiState) : Prop :=
  ∀ request, returned e t.2 = some ⟨request, false⟩ →
    (∃ inp, e = .task inp ∧ request.persistToNvs = true ∧ WriteFails inp) ∨
      (countedStep e t).1 = wifiMaxRetry

/-- The count of other events, and where the task is, stay. -/
theorem counted_other
    {e : WifiEvent} {t : Nat × WifiState} (he : ∀ inp, e ≠ .task inp)
    (h : Counted t.1 t.2.phase) :
    Counted (countedStep e t).1 (countedStep e t).2.phase := by
  have hcount : (countedStep e t).1 = t.1 := by
    cases e with
    | task inp => exact absurd rfl (he inp)
    | bleWrite inp write => rfl
    | provTimeout => rfl
    | bleDisconnected => rfl
    | gotIp => rfl
    | staDisconnected => rfl
  rw [hcount]
  show Counted t.1 (wifiStep e t.2).phase
  rw [phase_wifiStep e t.2 he]
  exact h

theorem counted_step
    (e : WifiEvent) {t : Nat × WifiState} (h : Counted t.1 t.2.phase) :
    GivesUpLate e t ∧ Counted (countedStep e t).1 (countedStep e t).2.phase := by
  by_cases htask : ∃ inp, e = .task inp
  · obtain ⟨inp, rfl⟩ := htask
    obtain ⟨hcounted, hlate⟩ := counted_task inp h
    refine ⟨fun request hreturned => ?_, hcounted⟩
    rcases hlate request hreturned with hfails | hlast
    · exact Or.inl ⟨inp, rfl, hfails⟩
    · exact Or.inr hlast
  · have he : ∀ inp, e ≠ .task inp := fun inp hinp => htask ⟨inp, hinp⟩
    refine ⟨fun request hreturned => ?_, counted_other he h⟩
    cases e with
    | task inp => exact absurd rfl (he inp)
    | bleWrite inp write => cases hreturned
    | provTimeout => cases hreturned
    | bleDisconnected => cases hreturned
    | gotIp => cases hreturned
    | staDisconnected => cases hreturned

/-- Whatever the client, the driver and NVS do, no request is given up before
its third attempt unless NVS did not store it. -/
theorem given_up_late
    (opened : Bool) (nvsSsid nvsPass : Option (List UInt8)) (es : List WifiEvent) :
    Along countedStep GivesUpLate es (0, .boot opened nvsSsid nvsPass) := by
  let inv (t : Nat × WifiState) : Prop := Counted t.1 t.2.phase
  have hkeeps : ∀ e t, True → inv t → inv (countedStep e t) :=
    fun e _ _ hcounted => (counted_step e hcounted).2
  refine Along.of_invariant hkeeps (fun e _ _ hcounted => (counted_step e hcounted).1)
    (Along.of_forall fun _ _ => trivial) ?_
  trivial

end Wifi
end AvensysEsp32
