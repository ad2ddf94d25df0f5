import AvensysEsp32.Mqtt.Discovery
import AvensysEsp32.Ota.RetryPolicy
import AvensysEsp32.Ota.VersionResponse

/-!
# The check at boot

`ota_boot_task` waits for Wi-Fi and then creates `check_update_task`, once in
each boot.  Between two boots the failures stay in NVS and all variables are
lost.  So a check never finds what another has left in `json_response`, and an
image is installed only if it is the one that the server's whole response
offers.

The parser of the response is the library's.  Beside the variables, the state
counts the handles of the HTTP client and the parsed objects that are not yet
given back.
-/

namespace AvensysEsp32
namespace Ota

open Foundation

/-! ## State -/

/-- `pdMS_TO_TICKS(90000)` -/
@[simp] abbrev waitTimeout : UInt32 := 90000

/-- Where `ota_boot_task` is: in its loop, behind it, or at its end. -/
inductive BootTask
  | waiting (start : UInt32)
  | waited
  | ended
deriving DecidableEq, Repr

structure BoardState where
  /-- `Wifi_Connected_Flag` -/
  wifiConnectedFlag : Bool
  bootTask : BootTask
  /-- The tasks `check_update_task` created in this boot. -/
  created : Nat
  /-- Those of them that are in `esp_http_client_perform`. -/
  performing : Nat
  response : VersionResponse
  ota : OtaState
  /-- The handles of `esp_http_client_init` without `esp_http_client_cleanup`. -/
  clients : Nat
  /-- The objects of `cJSON_Parse` without `cJSON_Delete`. -/
  objects : Nat
  /-- `esp_restart` has been called. -/
  restarting : Bool

/-- `ota_boot_task` begins; what is in NVS is still there. -/
def startBoard (tick : UInt32) (ota : OtaState) : BoardState where
  wifiConnectedFlag := false
  bootTask := .waiting tick
  created := 0
  performing := 0
  response := .atBoot
  ota := { ota with otaInProgress := false, counterLed1 := 0 }
  clients := 0
  objects := 0
  restarting := false

/-! ## The tasks -/

/-- One step of `ota_boot_task`: the test of its loop, or what is behind it;
`created` is whether `xTaskCreate` succeeds.  A task that is created comes to
`esp_http_client_perform`. -/
def otaBootTask (tick : UInt32) (created : Bool) (s : BoardState) : BoardState :=
  match s.bootTask with
  | .waiting start =>
      if ¬ s.wifiConnectedFlag ∧ tick - start < waitTimeout then s
      else { s with bootTask := .waited }
  | .waited =>
      if ¬ s.wifiConnectedFlag then { s with bootTask := .ended }
      else if created then
        { s with
          bootTask := .ended
          created := s.created + 1
          performing := s.performing + 1
          clients := s.clients + 1 }
      else { s with bootTask := .ended }
  | .ended => s

/-- `"version"` -/
def versionKey : List UInt8 := [118, 101, 114, 115, 105, 111, 110]

/-- `"url"` -/
def urlKey : List UInt8 := [117, 114, 108]

/-- The strings that an object offers, if it has both. -/
def offerOf (json : Mqtt.CJson) : VersionReply :=
  match json.getObjectItemCaseSensitive versionKey, json.getObjectItemCaseSensitive urlKey with
  | some (.string version), some (.string url) => .offer (cString version) (cString url)
  | _, _ => .badFormat

/-- How the rest of `check_update_task` goes: `performed` is whether
`esp_http_client_perform` returns `ESP_OK`. -/
structure CheckInput where
  performed : Bool
  preflight : PreflightReply
  otaOk : Bool

/-- `esp_http_client_cleanup(client)` and the end of the task -/
def endCheck (s : BoardState) : BoardState :=
  { s with clients := s.clients - 1, performing := s.performing - 1 }

/-- `free(json_response)` -/
def freeResponse (s : BoardState) : BoardState :=
  { s with response := responseChecked true s.response }

/-- `cJSON_Delete(json)`, and the buffer with it -/
def deleteJson (s : BoardState) : BoardState :=
  freeResponse { s with objects := s.objects - 1 }

/-- `Ota_In_Progress = false` -/
def otaOver (s : BoardState) : BoardState :=
  { s with ota := { s.ota with otaInProgress := false } }

/-- `check_update_task`, the object offering a newer version -/
def installOffered (version url : List UInt8) (inp : CheckInput) (s : BoardState) : BoardState :=
  if otaShouldSkipForFailedVersion version s.ota then endCheck (deleteJson (otaOver s))
  else
    let s := { s with ota := s.ota.call (.otaPreflightImage url) }
    if ¬ otaPreflightImage url inp.preflight then
      let s := { s with ota := otaRecordFailure version s.ota }
      endCheck (deleteJson (otaOver s))
    else
      let s :=
        { s with
          ota :=
            { s.ota with otaInProgress := true, counterLed1 := 0 }.call (.espHttpsOta url) }
      if inp.otaOk then
        let s := otaOver { s with ota := otaClearFailureState s.ota }
        { s with ota := s.ota.call .espRestart, restarting := true }
      else
        let s := { s with ota := otaRecordFailure version s.ota }
        endCheck (deleteJson (otaOver s))

/-- `check_update_task` behind `esp_http_client_perform` -/
def checkPerformed (cJSONParse : Memory → Option Mqtt.CJson) (inp : CheckInput) (s : BoardState) :
    BoardState :=
  if ¬ inp.performed then
    endCheck (otaOver { s with response := responseChecked false s.response })
  else
    match s.response.jsonResponse with
    | none => endCheck (freeResponse (otaOver s))
    | some m =>
        match cJSONParse m with
        | none => endCheck (freeResponse s)
        | some json =>
            let s := { s with objects := s.objects + 1 }
            match offerOf json with
            | .offer version url =>
                let cmp := otaCompareVersions currentVersion version
                if cmp > 0 then installOffered version url inp s
                else if cmp = 0 then
                  endCheck (deleteJson (otaOver { s with ota := otaClearFailureState s.ota }))
                else endCheck (deleteJson (otaOver s))
            | _ => endCheck (deleteJson (otaOver s))

/-! ## Runs -/

inductive BoardEvent
  /-- The power returns, or the restart is over. -/
  | boot (tick : UInt32)
  | wifi (connected : Bool)
  | bootTask (tick : UInt32) (created : Bool)
  /-- `HTTP_EVENT_ON_DATA` -/
  | onData (chunked : Bool) (data : List UInt8) (allocated : Option Memory)
  /-- `esp_http_client_perform` returns. -/
  | performed (inp : CheckInput)

/-- The effect of an event.  A board that restarts does nothing until it boots. -/
def boardStep (cJSONParse : Memory → Option Mqtt.CJson) (e : BoardEvent) (s : BoardState) :
    BoardState :=
  match e with
  | .boot tick => startBoard tick s.ota
  | .wifi connected => if s.restarting then s else { s with wifiConnectedFlag := connected }
  | .bootTask tick created => if s.restarting then s else otaBootTask tick created s
  | .onData chunked data allocated =>
      if s.restarting ∨ s.performing = 0 then s
      else { s with response := httpEventHandler chunked data allocated s.response }
  | .performed inp =>
      if s.restarting ∨ s.performing = 0 then s else checkPerformed cJSONParse inp s

/-! ## The task as it looks at the failures -/

/-- What the request leads to. -/
def replyOf (cJSONParse : Memory → Option Mqtt.CJson) (performed : Bool)
    (jsonResponse : Option Memory) : VersionReply :=
  if ¬ performed then .failed
  else
    match jsonResponse with
    | none => .noResponse
    | some m =>
        match cJSONParse m with
        | none => .notJson
        | some json => offerOf json

section Task

variable {cJSONParse : Memory → Option Mqtt.CJson} {inp : CheckInput} {s : BoardState}

/-- The input of the task, as far as the failures depend on it. -/
def CheckInput.update (cJSONParse : Memory → Option Mqtt.CJson) (inp : CheckInput)
    (s : BoardState) : UpdateInput where
  reply := replyOf cJSONParse inp.performed s.response.jsonResponse
  preflight := inp.preflight
  otaOk := inp.otaOk

theorem offerOf_cases (json : Mqtt.CJson) :
    offerOf json = .badFormat ∨ ∃ version url, offerOf json = .offer version url := by
  unfold offerOf
  split
  · exact Or.inr ⟨_, _, rfl⟩
  · exact Or.inl rfl

theorem checkPerformed_offer
    {m : Memory} {json : Mqtt.CJson} {version url : List UInt8} (hperformed : inp.performed = true)
    (hresponse : s.response.jsonResponse = some m) (hparse : cJSONParse m = some json)
    (hoffer : offerOf json = .offer version url) :
    checkPerformed cJSONParse inp s =
      if otaCompareVersions currentVersion version > 0 then
        installOffered version url inp { s with objects := s.objects + 1 }
      else if otaCompareVersions currentVersion version = 0 then
        endCheck (deleteJson (otaOver
          { s with objects := s.objects + 1, ota := otaClearFailureState s.ota }))
      else endCheck (deleteJson (otaOver { s with objects := s.objects + 1 })) := by
  unfold checkPerformed
  rw [if_neg (by simp [hperformed]), hresponse]
  dsimp only
  rw [hparse]
  dsimp only
  rw [hoffer]

/-- The task with its handles does to the failures what the task without them
does. -/
theorem checkPerformed_ota
    (cJSONParse : Memory → Option Mqtt.CJson) (inp : CheckInput) (s : BoardState) :
    (checkPerformed cJSONParse inp s).ota = checkUpdateTask (inp.update cJSONParse s) s.ota := by
  cases hperformed : inp.performed with
  | false =>
      have hreply : (inp.update cJSONParse s).reply = .failed := by
        simp [CheckInput.update, replyOf, hperformed]
      unfold checkUpdateTask checkPerformed
      rw [hreply, if_pos (by simp [hperformed])]
      rfl
  | true =>
      cases hresponse : s.response.jsonResponse with
      | none =>
          have hreply : (inp.update cJSONParse s).reply = .noResponse := by
            simp [CheckInput.update, replyOf, hperformed, hresponse]
          unfold checkUpdateTask checkPerformed
          rw [hreply, if_neg (by simp [hperformed]), hresponse]
          rfl
      | some m =>
          cases hparse : cJSONParse m with
          | none =>
              have hreply : (inp.update cJSONParse s).reply = .notJson := by
                simp [CheckInput.update, replyOf, hperformed, hresponse, hparse]
              unfold checkUpdateTask checkPerformed
              rw [hreply, if_neg (by simp [hperformed]), hresponse]
              dsimp only
              rw [hparse]
              rfl
          | some json =>
              have hreply : (inp.update cJSONParse s).reply = offerOf json := by
                simp [CheckInput.update, replyOf, hperformed, hresponse, hparse]
              rcases offerOf_cases json with hbad | ⟨version, url, hoffer⟩
              · unfold checkUpdateTask checkPerformed
                rw [hreply, hbad, if_neg (by simp [hperformed]), hresponse]
                dsimp only
                rw [hparse]
                dsimp only
                rw [hbad]
                rfl
              · rw [checkPerformed_offer hperformed hresponse hparse hoffer]
                unfold checkUpdateTask
                have hsame : (inp.update cJSONParse s).preflight = inp.preflight ∧
                    (inp.update cJSONParse s).otaOk = inp.otaOk := ⟨rfl, rfl⟩
                rw [hreply, hoffer, hsame.1, hsame.2]
                dsimp only
                split
                · unfold installOffered
                  dsimp only
                  split
                  · rfl
                  · split
                    · rfl
                    · split
                      · rfl
                      · rfl
                · split
                  · rfl
                  · rfl

theorem offer_of_replyOf
    {performed : Bool} {jsonResponse : Option Memory} {version url : List UInt8}
    (h : replyOf cJSONParse performed jsonResponse = .offer version url) :
    ∃ m json, jsonResponse = some m ∧ cJSONParse m = some json ∧
      offerOf json = .offer version url := by
  unfold replyOf at h
  split at h
  · cases h
  · split at h
    · cases h
    · rename_i m
      split at h
      · cases h
      · rename_i json hparse
        exact ⟨m, json, rfl, hparse, h⟩

/-- What a check gives back: all it has, unless the board restarts. -/
structure GivesBack (s s' : BoardState) : Prop where
  bootTask : s'.bootTask = s.bootTask
  created : s'.created = s.created
  performing_le : s'.performing ≤ s.performing
  response : s'.response = s.response ∨ ∃ ok, s'.response = responseChecked ok s.response
  performing : s'.restarting = false → s'.performing = s.performing - 1
  clients : s'.restarting = false → s'.clients = s.clients - 1
  objects : s'.restarting = false → s'.objects = s.objects

theorem checkPerformed_givesBack
    (cJSONParse : Memory → Option Mqtt.CJson) (inp : CheckInput) (s : BoardState) :
    GivesBack s (checkPerformed cJSONParse inp s) := by
  have freed : ∀ s' : BoardState, s'.bootTask = s.bootTask → s'.created = s.created →
      s'.response = responseChecked true s.response → s'.performing = s.performing - 1 →
      s'.clients = s.clients - 1 → s'.objects = s.objects → GivesBack s s' := by
    intro s' hboot hcreated hresponse hperforming hclients hobjects
    exact ⟨hboot, hcreated, hperforming.trans_le (Nat.sub_le _ _), Or.inr ⟨true, hresponse⟩,
      fun _ => hperforming, fun _ => hclients, fun _ => hobjects⟩
  cases hperformed : inp.performed with
  | false =>
      unfold checkPerformed
      rw [if_pos (by simp [hperformed])]
      exact ⟨rfl, rfl, Nat.sub_le _ _, Or.inr ⟨false, rfl⟩, fun _ => rfl, fun _ => rfl,
        fun _ => rfl⟩
  | true =>
      cases hresponse : s.response.jsonResponse with
      | none =>
          unfold checkPerformed
          rw [if_neg (by simp [hperformed]), hresponse]
          exact freed _ rfl rfl rfl rfl rfl rfl
      | some m =>
          cases hparse : cJSONParse m with
          | none =>
              unfold checkPerformed
              rw [if_neg (by simp [hperformed]), hresponse]
              dsimp only
              rw [hparse]
              exact freed _ rfl rfl rfl rfl rfl rfl
          | some json =>
              rcases offerOf_cases json with hbad | ⟨version, url, hoffer⟩
              · unfold checkPerformed
                rw [if_neg (by simp [hperformed]), hresponse]
                dsimp only
                rw [hparse]
                dsimp only
                rw [hbad]
                exact freed _ rfl rfl rfl rfl rfl rfl
              · rw [checkPerformed_offer hperformed hresponse hparse hoffer]
                split
                · unfold installOffered
                  dsimp only
                  split
                  · exact freed _ rfl rfl rfl rfl rfl rfl
                  · split
                    · exact freed _ rfl rfl rfl rfl rfl rfl
                    · split
                      · exact ⟨rfl, rfl, le_rfl, Or.inl rfl, nofun, nofun, nofun⟩
                      · exact freed _ rfl rfl rfl rfl rfl rfl
                · split
                  · exact freed _ rfl rfl rfl rfl rfl rfl
                  · exact freed _ rfl rfl rfl rfl rfl rfl

/-- A check installs an image when it is offered a newer version that is not left
alone, and the image can be had. -/
theorem installs_of_checkUpdateTask
    {inp : UpdateInput} {s : OtaState} {url : List UInt8}
    (h : .espHttpsOta url ∈ (checkUpdateTask inp s).calls.drop s.calls.length) :
    ∃ version, inp.reply = .offer version url ∧ Newer version ∧
      otaShouldSkipForFailedVersion version s = false ∧
      otaPreflightImage url inp.preflight = true := by
  have hnew : ∀ calls, .espHttpsOta url ∈ (s.calls ++ calls).drop s.calls.length →
      .espHttpsOta url ∈ calls := by
    intro calls hmem
    rwa [List.drop_left] at hmem
  have hquiet : ¬ .espHttpsOta url ∈ s.calls.drop s.calls.length := by
    rw [List.drop_length]
    exact List.not_mem_nil
  have hrecorded : ∀ (version : List UInt8) (s' : OtaState),
      (otaRecordFailure version s').calls = s'.calls ++ [.otaRecordFailure version] :=
    calls_otaRecordFailure
  unfold checkUpdateTask at h
  cases hreply : inp.reply with
  | failed =>
      rw [hreply] at h
      exact absurd h hquiet
  | noResponse =>
      rw [hreply] at h
      exact absurd h hquiet
  | notJson =>
      rw [hreply] at h
      exact absurd h hquiet
  | badFormat =>
      rw [hreply] at h
      exact absurd h hquiet
  | offer version offered =>
      rw [hreply] at h
      dsimp only at h
      split at h
      · rename_i hcmp
        have hnewer := (otaCompareVersions_pos_iff version).mp hcmp
        split at h
        · exact absurd h hquiet
        · rename_i hskip
          rw [Bool.not_eq_true] at hskip
          split at h
          · dsimp only at h
            rw [hrecorded] at h
            simp [OtaState.call, List.append_assoc] at h
          · rename_i hpreflight
            rw [not_not] at hpreflight
            have hsame : url = offered := by
              split at h
              · have hmem := hnew [.otaPreflightImage offered, .espHttpsOta offered,
                    .otaClearFailureState, .espRestart]
                  (by simpa [OtaState.call, otaClearFailureState, List.append_assoc] using h)
                simpa using hmem
              · dsimp only at h
                rw [hrecorded] at h
                have hmem := hnew [.otaPreflightImage offered, .espHttpsOta offered,
                    .otaRecordFailure version]
                  (by simpa [OtaState.call, List.append_assoc] using h)
                simpa using hmem
            subst hsame
            exact ⟨version, rfl, hnewer, hskip, hpreflight⟩
      · split at h
        · simp [OtaState.call, otaClearFailureState] at h
        · exact absurd h hquiet

end Task

/-! ## Every run -/

section Runs

variable {cJSONParse : Memory → Option Mqtt.CJson} {s : BoardState}

/-- One check in each boot, which gives back what it takes and finds nothing of
another. -/
structure OneCheck (s : BoardState) : Prop where
  once : s.bootTask ≠ .ended → s.created = 0
  one : s.created ≤ 1
  running : s.performing ≤ s.created
  clients : s.restarting = false → s.clients = s.performing
  objects : s.restarting = false → s.objects = 0
  fresh : s.created = 0 → s.response = .atBoot
  unspoilt : s.restarting = false → s.performing ≠ 0 → s.response.leftOver = []

theorem oneCheck_startBoard (tick : UInt32) (ota : OtaState) :
    OneCheck (startBoard tick ota) :=
  ⟨fun _ => rfl, Nat.zero_le _, le_rfl, fun _ => rfl, fun _ => rfl, fun _ => rfl,
    fun _ h => absurd rfl h⟩

theorem OneCheck.otaBootTask
    (h : OneCheck s) (tick : UInt32) (created : Bool) :
    OneCheck (otaBootTask tick created s) := by
  unfold Ota.otaBootTask
  split
  · rename_i start hwaiting
    have hnone := h.once (by rw [hwaiting]; simp)
    split
    · exact h
    · exact ⟨fun _ => hnone, h.one, h.running, h.clients, h.objects, h.fresh, h.unspoilt⟩
  · rename_i hwaited
    have hnone := h.once (by rw [hwaited]; simp)
    have hresponse := h.fresh hnone
    split
    · exact ⟨fun hne => absurd rfl hne, h.one, h.running, h.clients, h.objects, h.fresh,
        h.unspoilt⟩
    · split
      · refine ⟨fun hne => absurd rfl hne, ?_, Nat.succ_le_succ h.running, fun hgoing => ?_,
          h.objects, nofun, fun _ _ => ?_⟩
        · show s.created + 1 ≤ 1
          omega
        · exact congrArg (· + 1) (h.clients hgoing)
        · show s.response.leftOver = []
          rw [hresponse]
          rfl
      · exact ⟨fun hne => absurd rfl hne, h.one, h.running, h.clients, h.objects, h.fresh,
          h.unspoilt⟩
  · exact h

/-- The boot task has nothing to do with the response and the failures, and only
behind its loop does it create the check. -/
theorem otaBootTask_kept (tick : UInt32) (created : Bool) (s : BoardState) :
    (Ota.otaBootTask tick created s).response = s.response ∧
      (Ota.otaBootTask tick created s).ota = s.ota ∧
      (Ota.otaBootTask tick created s).restarting = s.restarting ∧
      ((Ota.otaBootTask tick created s).performing = s.performing ∨ s.bootTask = .waited) := by
  unfold Ota.otaBootTask
  split
  · split
    · exact ⟨rfl, rfl, rfl, Or.inl rfl⟩
    · exact ⟨rfl, rfl, rfl, Or.inl rfl⟩
  · rename_i hwaited
    split
    · exact ⟨rfl, rfl, rfl, Or.inl rfl⟩
    · split
      · exact ⟨rfl, rfl, rfl, Or.inr hwaited⟩
      · exact ⟨rfl, rfl, rfl, Or.inl rfl⟩
  · exact ⟨rfl, rfl, rfl, Or.inl rfl⟩

/-- The handler leaves what earlier checks have left. -/
theorem httpEventHandler_leftOver
    (chunked : Bool) (data : List UInt8) (allocated : Option Memory) (s : VersionResponse) :
    (httpEventHandler chunked data allocated s).leftOver = s.leftOver := by
  unfold httpEventHandler
  split
  · rfl
  · dsimp only
    split <;> rfl

theorem oneCheck_boardStep
    (e : BoardEvent) (h : OneCheck s) :
    OneCheck (boardStep cJSONParse e s) := by
  cases e with
  | boot tick => exact oneCheck_startBoard tick s.ota
  | wifi connected =>
      unfold boardStep
      dsimp only
      split
      · exact h
      · exact ⟨h.once, h.one, h.running, h.clients, h.objects, h.fresh, h.unspoilt⟩
  | bootTask tick created =>
      unfold boardStep
      dsimp only
      split
      · exact h
      · exact h.otaBootTask tick created
  | onData chunked data allocated =>
      unfold boardStep
      dsimp only
      split
      · exact h
      · rename_i hbusy
        have hrunning := h.running
        refine ⟨h.once, h.one, h.running, h.clients, h.objects, fun hnone => ?_,
          fun hgoing hperforming => ?_⟩
        · have hnone' : s.created = 0 := hnone
          exact absurd (Or.inr (by omega)) hbusy
        · exact (httpEventHandler_leftOver ..).trans (h.unspoilt hgoing hperforming)
  | performed inp =>
      unfold boardStep
      dsimp only
      split
      · exact h
      · rename_i hbusy
        rw [not_or] at hbusy
        have hgives := checkPerformed_givesBack cJSONParse inp s
        have hgoing : s.restarting = false := Bool.eq_false_iff.mpr hbusy.1
        have hone := h.one
        have hrunning := h.running
        refine ⟨fun hne => ?_, hgives.created.trans_le h.one, ?_, fun hrest => ?_, fun hrest => ?_,
          fun hnone => ?_, fun hrest hperforming => ?_⟩
        · exact hgives.created.trans (h.once (hgives.bootTask ▸ hne))
        · exact (hgives.performing_le.trans h.running).trans_eq hgives.created.symm
        · rw [hgives.clients hrest, hgives.performing hrest, h.clients hgoing]
        · exact (hgives.objects hrest).trans (h.objects hgoing)
        · have hnone' : s.created = 0 := hgives.created.symm.trans hnone
          omega
        · rw [hgives.performing hrest] at hperforming
          omega

/-- What is to hold of data that is not chunked. -/
def BoardExact (e : BoardEvent) (s : BoardState) : Prop :=
  match e with
  | .onData false data allocated =>
      s.restarting = false → s.performing ≠ 0 → DataExact data allocated s.response
  | _ => True

/-- The buffer can be allocated, and the body of this check has room. -/
def BoardFits (e : BoardEvent) (s : BoardState) : Prop :=
  match e with
  | .onData false data allocated =>
      s.restarting = false → s.performing ≠ 0 →
        (s.response.jsonResponse = none → allocated ≠ none) ∧
          (s.response.received ++ data).length < maxHttpOutputBuffer
  | _ => True

/-- What is carried along a run in which the response is exact. -/
structure BoardSound (s : BoardState) : Prop extends OneCheck s where
  collected : Collected s.response

theorem BoardSound.exact_iff
    (h : BoardSound s) (e : BoardEvent) :
    BoardExact e s ↔ BoardFits e s := by
  cases e with
  | boot tick => exact Iff.rfl
  | wifi connected => exact Iff.rfl
  | bootTask tick created => exact Iff.rfl
  | performed inp => exact Iff.rfl
  | onData chunked data allocated =>
      cases chunked with
      | true => exact Iff.rfl
      | false =>
          refine forall_congr' fun hgoing => forall_congr' fun hperforming => ?_
          have hexact := h.collected.exact_iff (.onData false data allocated)
          have hleft := h.unspoilt hgoing hperforming
          refine hexact.trans ?_
          show _ ∧ s.response.leftOver = [] ∧ _ ↔ _
          simp only [hleft, true_and]

theorem BoardSound.step
    (h : BoardSound s) {e : BoardEvent} (hexact : BoardExact e s) :
    BoardSound (boardStep cJSONParse e s) where
  toOneCheck := oneCheck_boardStep e h.toOneCheck
  collected := by
    cases e with
    | boot tick => exact collected_atBoot
    | wifi connected =>
        unfold boardStep
        dsimp only
        split
        · exact h.collected
        · exact h.collected
    | bootTask tick created =>
        unfold boardStep
        dsimp only
        split
        · exact h.collected
        · rw [(otaBootTask_kept tick created s).1]
          exact h.collected
    | onData chunked data allocated =>
        unfold boardStep
        dsimp only
        split
        · exact h.collected
        · rename_i hbusy
          rw [not_or] at hbusy
          refine h.collected.onData ?_
          cases chunked with
          | true => trivial
          | false => exact hexact (Bool.eq_false_iff.mpr hbusy.1) hbusy.2
    | performed inp =>
        unfold boardStep
        dsimp only
        split
        · exact h.collected
        · rcases (checkPerformed_givesBack cJSONParse inp s).response with hsame | ⟨ok, hchecked⟩
          · rw [hsame]
            exact h.collected
          · rw [hchecked]
            exact h.collected.checked ok

theorem boardSound_startBoard (tick : UInt32) (ota : OtaState) :
    BoardSound (startBoard tick ota) :=
  ⟨oneCheck_startBoard tick ota, collected_atBoot⟩

/-- In every run, over any number of boots: a boot makes one check at most, which
gives back what it takes; and what it receives is kept exactly as long as it has
room, whatever became of the checks before. -/
theorem oneCheck_perBoot
    (cJSONParse : Memory → Option Mqtt.CJson) (tick : UInt32) (ota : OtaState)
    (es : List BoardEvent) :
    OneCheck (run (boardStep cJSONParse) es (startBoard tick ota)) ∧
      (Along (boardStep cJSONParse) BoardExact es (startBoard tick ota) ↔
        Along (boardStep cJSONParse) BoardFits es (startBoard tick ota)) := by
  constructor
  · have hany : Along (boardStep cJSONParse) (fun _ _ => True) es (startBoard tick ota) :=
      Along.of_forall fun _ _ => trivial
    exact hany.invariant (fun e _ _ h => oneCheck_boardStep e h) (oneCheck_startBoard tick ota)
  · exact along_congr_of_invariant (fun _ _ h hexact => h.step hexact) (fun e _ h => h.exact_iff e)
      es (boardSound_startBoard tick ota)

/-! ## What is installed -/

/-- The image is written in this step. -/
def Installs (cJSONParse : Memory → Option Mqtt.CJson) (e : BoardEvent) (s : BoardState)
    (url : List UInt8) : Prop :=
  .espHttpsOta url ∈ (boardStep cJSONParse e s).ota.calls.drop s.ota.calls.length

/-- The body that has been received offers the image, with a version that is newer
and has not failed too often, and the image can be had. -/
structure Offered (cJSONParse : Memory → Option Mqtt.CJson) (e : BoardEvent) (s : BoardState)
    (url : List UInt8) : Prop where
  offered :
    ∃ inp version m json, e = .performed inp ∧ HoldsText m s.response.received ∧
      cJSONParse m = some json ∧ offerOf json = .offer version url ∧ Newer version ∧
      (version.length < failedVersionSize →
        recentFailures version s.ota.calls < otaFailMaxRetry) ∧
      otaPreflightImage url inp.preflight = true

/-- The response is a text, and NVS tells of the failures. -/
structure BoardTold (s : BoardState) : Prop extends BoardSound s where
  told : s.restarting = false → s.performing ≠ 0 →
    ∀ m ∈ s.response.jsonResponse, HoldsText m s.response.received
  recorded : Recorded s.ota

theorem boardTold_startBoard
    {ota : OtaState} (h : Recorded ota) (tick : UInt32) :
    BoardTold (startBoard tick ota) where
  toBoardSound := boardSound_startBoard tick ota
  told := fun _ hperforming => absurd rfl hperforming
  recorded := h.of_same rfl rfl fun _ => rfl

theorem BoardTold.step
    (h : BoardTold s) (e : BoardEvent) (hfits : BoardFits e s) :
    BoardTold (boardStep cJSONParse e s) := by
  have hexact := (h.exact_iff e).mpr hfits
  have hsound : BoardSound (boardStep cJSONParse e s) := h.toBoardSound.step hexact
  cases e with
  | boot tick => exact boardTold_startBoard h.recorded tick
  | wifi connected =>
      refine ⟨hsound, ?_, ?_⟩
      · unfold boardStep
        dsimp only
        split
        · exact h.told
        · exact h.told
      · unfold boardStep
        dsimp only
        split
        · exact h.recorded
        · exact h.recorded
  | bootTask tick created =>
      obtain ⟨hresponse, hota, hrestarting, hperforming⟩ := otaBootTask_kept tick created s
      refine ⟨hsound, ?_, ?_⟩
      · unfold boardStep
        dsimp only
        split
        · exact h.told
        · intro hgoing hbusy m hm
          rw [hresponse] at hm ⊢
          rcases hperforming with hsame | hwaited
          · exact h.told (hrestarting ▸ hgoing) (hsame ▸ hbusy) m hm
          · rw [h.fresh (h.once (by rw [hwaited]; simp))] at hm
            cases hm
      · unfold boardStep
        dsimp only
        split
        · exact h.recorded
        · exact hota ▸ h.recorded
  | onData chunked data allocated =>
      refine ⟨hsound, ?_, ?_⟩
      · unfold boardStep
        dsimp only
        split
        · exact h.told
        · rename_i hbusy
          rw [not_or] at hbusy
          intro hgoing hperforming m hm
          cases chunked with
          | true => exact h.told hgoing hperforming m hm
          | false =>
              obtain ⟨-, -, m', hm', htext⟩ := hexact hgoing hperforming
              have hreceived : (httpEventHandler false data allocated s.response).received =
                  s.response.received ++ data := by
                unfold httpEventHandler
                rw [if_neg (by decide)]
                dsimp only
                split <;> rfl
              have heq : m = m' := by
                have hboth : some m' = some m := hm'.symm.trans hm
                exact (Option.some.inj hboth).symm
              rw [heq]
              show HoldsText m' (httpEventHandler false data allocated s.response).received
              rw [hreceived]
              exact htext
      · unfold boardStep
        dsimp only
        split
        · exact h.recorded
        · exact h.recorded
  | performed inp =>
      refine ⟨hsound, ?_, ?_⟩
      · unfold boardStep
        dsimp only
        split
        · exact h.told
        · intro hgoing hperforming
          rw [(checkPerformed_givesBack cJSONParse inp s).performing hgoing] at hperforming
          have hone := h.one
          have hrunning := h.running
          omega
      · unfold boardStep
        dsimp only
        split
        · exact h.recorded
        · rw [checkPerformed_ota]
          exact recorded_step _ _ h.recorded

/-- Where the response is a text, an image that is installed is the one that the
text offers. -/
theorem BoardTold.offered
    (h : BoardTold s) {e : BoardEvent} {url : List UInt8}
    (hinstalls : Installs cJSONParse e s url) :
    Offered cJSONParse e s url := by
  have hquiet : (boardStep cJSONParse e s).ota.calls ≠ s.ota.calls := by
    intro hsame
    unfold Installs at hinstalls
    rw [hsame, List.drop_length] at hinstalls
    cases hinstalls
  cases e with
  | boot tick => exact absurd rfl hquiet
  | wifi connected =>
      unfold boardStep at hquiet
      dsimp only at hquiet
      split at hquiet
      · exact absurd rfl hquiet
      · exact absurd rfl hquiet
  | bootTask tick created =>
      have hsame := (otaBootTask_kept tick created s).2.1
      unfold boardStep at hquiet
      dsimp only at hquiet
      split at hquiet
      · exact absurd rfl hquiet
      · exact absurd (congrArg OtaState.calls hsame) hquiet
  | onData chunked data allocated =>
      unfold boardStep at hquiet
      dsimp only at hquiet
      split at hquiet
      · exact absurd rfl hquiet
      · exact absurd rfl hquiet
  | performed inp =>
      by_cases hidle : s.restarting = true ∨ s.performing = 0
      · refine absurd ?_ hquiet
        unfold boardStep
        dsimp only
        rw [if_pos hidle]
      · have hstep : boardStep cJSONParse (.performed inp) s = checkPerformed cJSONParse inp s :=
          if_neg hidle
        rw [not_or] at hidle
        unfold Installs at hinstalls
        rw [hstep, checkPerformed_ota] at hinstalls
        obtain ⟨version, hreply, hnewer, hskip, hpreflight⟩ :=
          installs_of_checkUpdateTask hinstalls
        obtain ⟨m, json, hm, hparse, hoffer⟩ := offer_of_replyOf hreply
        refine ⟨inp, version, m, json, rfl,
          h.told (Bool.eq_false_iff.mpr hidle.1) hidle.2 m hm, hparse, hoffer, hnewer,
          fun hfits => ?_, hpreflight⟩
        rw [← Bool.not_eq_true, h.recorded.skip_iff (newer_ne_nil hnewer)] at hskip
        exact not_le.mp fun hmany => hskip ⟨hfits, hmany⟩

end Runs

section Example

/-- The text of an object with the version `"1.0.4"` and the URL `"u"`. -/
def newerText : List UInt8 :=
  [123, 34, 118, 101, 114, 115, 105, 111, 110, 34, 58, 34, 49, 46, 48, 46, 52, 34, 44, 34, 117,
   114, 108, 34, 58, 34, 117, 34, 125]

/-- A parser that knows one text. -/
def newerParse (m : Memory) : Option Mqtt.CJson :=
  if readBytes m 0 (newerText.length + 1) = newerText ++ [0] then
    some (.object [(versionKey, .string [49, 46, 48, 46, 52]), (urlKey, .string [117])])
  else none

/-- What the server of the image answers with. -/
def newerInput : CheckInput where
  performed := true
  preflight := { client := true, performed := true, status := 200, contentLen := -1 }
  otaOk := true

/-- A boot that receives the text in two pieces. -/
def newerBoot : List BoardEvent :=
  [.wifi true, .bootTask 10 true, .bootTask 11 true,
    .onData false (newerText.take 7) (some fun _ => 7), .onData false (newerText.drop 7) none]

end Example

end Ota
end AvensysEsp32
