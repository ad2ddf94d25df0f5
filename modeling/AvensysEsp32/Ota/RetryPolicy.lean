import AvensysEsp32.Foundation.Machine
import AvensysEsp32.Ota.UpdateTask

/-!
# Which images are tried

An image is to be tried if its version is newer, until it has failed three times
in a row.  The task counts the failures of the version it finds in NVS; but a
version of 32 characters or more is not read back, and each of its failures
counts as the first.
-/

namespace AvensysEsp32
namespace Ota

open Foundation Wifi

/-- The call asks for an image. -/
def OtaCall.isAttempt : OtaCall → Bool
  | .otaPreflightImage _ | .espHttpsOta _ => true
  | .otaRecordFailure _ | .otaClearFailureState | .espRestart => false

/-- The run tries the image that it is offered. -/
def Attempts (inp : UpdateInput) (s : OtaState) : Prop :=
  ∃ c ∈ (checkUpdateTask inp s).calls.drop s.calls.length, c.isAttempt = true

instance (inp : UpdateInput) (s : OtaState) : Decidable (Attempts inp s) :=
  inferInstanceAs (Decidable (∃ c ∈ _, _))

/-- The count of a version's failures after a call: a success, or the failure of
another version, starts it anew. -/
def countFailure (version : List UInt8) (count : Nat) (c : OtaCall) : Nat :=
  match c with
  | .otaRecordFailure failed => if failed = version then count + 1 else 0
  | .otaClearFailureState => 0
  | .otaPreflightImage _ | .espHttpsOta _ | .espRestart => count

/-- The failures of a version recorded since the last clear, or since the last
recorded failure of a different version. -/
def recentFailures (version : List UInt8) (calls : List OtaCall) : Nat :=
  calls.foldl (countFailure version) 0

/-- The image is tried if and only if its version is newer and fewer than three
of its failures count. -/
def RetryPolicy (inp : UpdateInput) (s : OtaState) : Prop :=
  match inp.reply with
  | .offer version _ =>
      Attempts inp s ↔ Newer version ∧ recentFailures version s.calls < otaFailMaxRetry
  | .failed | .noResponse | .notJson | .badFormat => ¬ Attempts inp s

/-- A newer version that is offered fits the buffer it is read back into, or has
not failed too often yet. -/
def Remembered (inp : UpdateInput) (s : OtaState) : Prop :=
  match inp.reply with
  | .offer version _ =>
      Newer version →
        version.length < failedVersionSize ∨ recentFailures version s.calls < otaFailMaxRetry
  | .failed | .noResponse | .notJson | .badFormat => True

/-! ## What is kept in NVS -/

/-- What NVS tells of the failures. -/
inductive Recorded (s : OtaState) : Prop
  | nothing
      (ver : s.otaFailVer = none)
      (failures : ∀ v, recentFailures v s.calls = 0)
  | cleared
      (ver : s.otaFailVer = some [])
      (cnt : s.otaFailCnt = some 0)
      (failures : ∀ v, recentFailures v s.calls = 0)
  | failed
      (version : List UInt8)
      (nonempty : version ≠ [])
      (count : Int)
      (ver : s.otaFailVer = some version)
      (cnt : s.otaFailCnt = some count)
      (own : version.length < failedVersionSize → count = recentFailures version s.calls)
      (others : ∀ v, v ≠ version → recentFailures v s.calls = 0)

section Records

variable {s : OtaState} {version : List UInt8}

theorem recentFailures_concat
    (version : List UInt8) (calls : List OtaCall) (c : OtaCall) :
    recentFailures version (calls ++ [c]) =
      countFailure version (recentFailures version calls) c := by
  unfold recentFailures
  rw [List.foldl_append]
  rfl

theorem recorded_initial :
    Recorded OtaState.initial :=
  .nothing rfl fun _ => rfl

/-- The record is about the two values in NVS and the failures. -/
theorem Recorded.of_same
    {s' : OtaState} (h : Recorded s)
    (hver : s'.otaFailVer = s.otaFailVer) (hcnt : s'.otaFailCnt = s.otaFailCnt)
    (hcalls : ∀ v, recentFailures v s'.calls = recentFailures v s.calls) :
    Recorded s' := by
  cases h with
  | nothing ver failures =>
      exact .nothing (hver.trans ver) fun v => (hcalls v).trans (failures v)
  | cleared ver cnt failures =>
      exact .cleared (hver.trans ver) (hcnt.trans cnt) fun v => (hcalls v).trans (failures v)
  | failed version nonempty count ver cnt own others =>
      refine .failed version nonempty count (hver.trans ver) (hcnt.trans cnt) ?_ ?_
      · rw [hcalls]
        exact own
      · intro v hv
        rw [hcalls]
        exact others v hv

theorem recorded_clear (s : OtaState) :
    Recorded (otaClearFailureState s) :=
  .cleared rfl rfl fun v => recentFailures_concat v s.calls _

/-- The string that is read back: the stored one, if it fits the buffer. -/
theorem readBack_eq
    (stored : List UInt8) :
    nvsReadString true (some stored) [] failedVersionSize =
      if stored.length < failedVersionSize then stored else [] := by
  unfold nvsReadString
  exact if_congr Nat.succ_le_iff rfl rfl

/-- A failure of a version that is not read back starts its count. -/
theorem Recorded.recordFirst
    (h : Recorded s) (hversion : version ≠ [])
    (hread : nvsReadString true s.otaFailVer [] failedVersionSize ≠ version) :
    Recorded (otaRecordFailure version s) := by
  have hrun : otaRecordFailure version s =
      { s with otaFailVer := some version, otaFailCnt := some 1 }.call
        (.otaRecordFailure version) := by
    unfold otaRecordFailure
    dsimp only
    rw [if_neg hread]
  have hcalls : ∀ v, recentFailures v (otaRecordFailure version s).calls =
      if version = v then recentFailures v s.calls + 1 else 0 := by
    intro v
    rw [hrun]
    exact recentFailures_concat v s.calls _
  have hothers : ∀ v, v ≠ version →
      recentFailures v (otaRecordFailure version s).calls = 0 := by
    intro v hv
    rw [hcalls, if_neg (Ne.symm hv)]
  refine .failed version hversion 1 (by rw [hrun]; rfl) (by rw [hrun]; rfl) ?_ hothers
  intro hfits
  have hzero : recentFailures version s.calls = 0 := by
    cases h with
    | nothing ver failures => exact failures version
    | cleared ver cnt failures => exact failures version
    | failed stored nonempty count ver cnt own others =>
        refine others version ?_
        rintro rfl
        rw [ver, readBack_eq, if_pos hfits] at hread
        exact hread rfl
  rw [hcalls, if_pos rfl, hzero]
  rfl

/-- A failure of the version that is read back is counted. -/
theorem Recorded.recordAgain
    (h : Recorded s) (hversion : version ≠ [])
    (hread : nvsReadString true s.otaFailVer [] failedVersionSize = version) :
    Recorded (otaRecordFailure version s) := by
  have hrun : otaRecordFailure version s =
      { s with otaFailCnt := some (s.otaFailCnt.getD 0 + 1) }.call
        (.otaRecordFailure version) := by
    unfold otaRecordFailure
    dsimp only
    rw [if_pos hread]
  cases h with
  | nothing ver failures =>
      rw [ver] at hread
      exact absurd hread.symm hversion
  | cleared ver cnt failures =>
      rw [ver, readBack_eq] at hread
      exact absurd hread.symm hversion
  | failed stored nonempty count ver cnt own others =>
      rw [ver, readBack_eq] at hread
      split at hread
      · rename_i hfits
        subst hread
        refine .failed stored nonempty (count + 1) (by rw [hrun]; exact ver)
          (by rw [hrun, cnt]; rfl) ?_ ?_
        · intro _
          rw [hrun]
          show count + 1 = ((recentFailures stored (s.calls ++ [_]) : Nat) : Int)
          rw [recentFailures_concat, own hfits]
          simp [countFailure]
        · intro v hv
          rw [hrun]
          show recentFailures v (s.calls ++ [_]) = 0
          rw [recentFailures_concat]
          exact if_neg (Ne.symm hv)
      · exact absurd hread.symm hversion

theorem Recorded.recordFailure
    (h : Recorded s) (hversion : version ≠ []) :
    Recorded (otaRecordFailure version s) := by
  by_cases hread : nvsReadString true s.otaFailVer [] failedVersionSize = version
  · exact h.recordAgain hversion hread
  · exact h.recordFirst hversion hread

/-- A version is left alone when it is read back and has failed three times. -/
theorem Recorded.skip_iff
    (h : Recorded s) (hversion : version ≠ []) :
    otaShouldSkipForFailedVersion version s = true ↔
      version.length < failedVersionSize ∧ otaFailMaxRetry ≤ recentFailures version s.calls := by
  unfold otaShouldSkipForFailedVersion
  cases h with
  | nothing ver failures =>
      rw [ver, failures]
      simp
  | cleared ver cnt failures =>
      rw [ver, cnt, failures]
      simp
  | failed stored nonempty count ver cnt own others =>
      rw [ver, cnt]
      dsimp only
      rw [decide_eq_true_eq, readBack_eq]
      by_cases hsame : version = stored
      · subst hsame
        by_cases hfits : version.length < failedVersionSize
        · rw [if_pos hfits, own hfits]
          simp only [true_and, hfits]
          exact Int.ofNat_le
        · rw [if_neg hfits]
          simp [hfits, Ne.symm hversion]
      · rw [others version hsame]
        have hread : (if stored.length < failedVersionSize then stored else []) ≠ version := by
          split
          · exact Ne.symm hsame
          · exact Ne.symm hversion
        simp [hread]

end Records

/-! ## One run -/

/-- Two states that differ at most in the flag and the counter of the lamp. -/
structure SameRecord (s s' : OtaState) : Prop where
  otaFailVer : s'.otaFailVer = s.otaFailVer
  otaFailCnt : s'.otaFailCnt = s.otaFailCnt
  calls : s'.calls = s.calls

/-- Between the two states the image was asked for, and nothing recorded. -/
structure Asked (url : List UInt8) (s s' : OtaState) : Prop where
  otaFailVer : s'.otaFailVer = s.otaFailVer
  otaFailCnt : s'.otaFailCnt = s.otaFailCnt
  calls : ∃ cs, s'.calls = s.calls ++ .otaPreflightImage url :: cs ∧
    ∀ c ∈ cs, c.isAttempt = true

/-- What a run can do: nothing, clear the failures because the version is the
running one, or try the image, which fails or replaces it. -/
inductive RunOf (inp : UpdateInput) (s s' : OtaState) : Prop
  | idle
      (same : SameRecord s s')
      (reason : ∀ version url, inp.reply = .offer version url → Newer version →
        otaShouldSkipForFailedVersion version s = true)
  | upToDate
      (version url : List UInt8)
      (reply : inp.reply = .offer version url)
      (old : ¬ Newer version)
      (same : SameRecord (otaClearFailureState s) s')
  | failed
      (version url : List UInt8) (s₁ : OtaState)
      (reply : inp.reply = .offer version url)
      (newer : Newer version)
      (tried : otaShouldSkipForFailedVersion version s = false)
      (asked : Asked url s s₁)
      (same : SameRecord (otaRecordFailure version s₁) s')
  | updated
      (version url : List UInt8) (s₁ : OtaState)
      (reply : inp.reply = .offer version url)
      (newer : Newer version)
      (tried : otaShouldSkipForFailedVersion version s = false)
      (asked : Asked url s s₁)
      (same : SameRecord ((otaClearFailureState s₁).call .espRestart) s')

section Task

variable {inp : UpdateInput} {s : OtaState} {version url : List UInt8}

theorem newer_ne_nil
    (h : Newer version) :
    version ≠ [] := by
  rintro rfl
  exact absurd h (by decide)

/-- Asking for an image is no failure. -/
theorem recentFailures_append_attempts
    (version : List UInt8) (calls : List OtaCall) {cs : List OtaCall}
    (hcs : ∀ c ∈ cs, c.isAttempt = true) :
    recentFailures version (calls ++ cs) = recentFailures version calls := by
  induction cs generalizing calls with
  | nil => rw [List.append_nil]
  | cons c cs ih =>
      have hrest := ih (calls ++ [c]) fun c hc => hcs c (List.mem_cons_of_mem _ hc)
      rw [List.append_assoc] at hrest
      refine hrest.trans ?_
      rw [recentFailures_concat]
      have hattempt := hcs c List.mem_cons_self
      cases c with
      | otaPreflightImage url => rfl
      | espHttpsOta url => rfl
      | otaRecordFailure version => cases hattempt
      | otaClearFailureState => cases hattempt
      | espRestart => cases hattempt

theorem calls_otaRecordFailure (version : List UInt8) (s : OtaState) :
    (otaRecordFailure version s).calls = s.calls ++ [.otaRecordFailure version] := by
  unfold otaRecordFailure
  dsimp only
  split
  · rfl
  · rfl

/-- A run on an offer. -/
theorem runOf_offer
    (hreply : inp.reply = .offer version url) :
    RunOf inp s (checkUpdateTask inp s) := by
  have hcompare := otaCompareVersions_pos_iff version
  have hoffered : ∀ v u, inp.reply = .offer v u → v = version := by
    intro v u hoffer
    rw [hreply] at hoffer
    cases hoffer
    rfl
  unfold checkUpdateTask
  simp only [hreply]
  split
  · rename_i hcmp
    have hnewer := hcompare.mp hcmp
    split
    · rename_i hskip
      refine .idle ⟨rfl, rfl, rfl⟩ fun v u hoffer _ => ?_
      rw [hoffered v u hoffer]
      exact hskip
    · rename_i hskip
      rw [Bool.not_eq_true] at hskip
      split
      · exact .failed version url (s.call (.otaPreflightImage url)) hreply hnewer hskip
          ⟨rfl, rfl, [], rfl, nofun⟩ ⟨rfl, rfl, rfl⟩
      · have hasked : Asked url s
            ({ s.call (.otaPreflightImage url) with
                otaInProgress := true, counterLed1 := 0 }.call (.espHttpsOta url)) := by
          refine ⟨rfl, rfl, [.espHttpsOta url], List.append_assoc _ _ _, ?_⟩
          intro c hc
          rw [List.mem_singleton.mp hc]
          rfl
        split
        · exact .updated version url _ hreply hnewer hskip hasked ⟨rfl, rfl, rfl⟩
        · exact .failed version url _ hreply hnewer hskip hasked ⟨rfl, rfl, rfl⟩
  · rename_i hcmp
    have hold : ¬ Newer version := fun h => hcmp (hcompare.mpr h)
    split
    · exact .upToDate version url hreply hold ⟨rfl, rfl, rfl⟩
    · refine .idle ⟨rfl, rfl, rfl⟩ fun v u hoffer hv => ?_
      rw [hoffered v u hoffer] at hv
      exact absurd hv hold

theorem runOf_checkUpdateTask
    (inp : UpdateInput) (s : OtaState) :
    RunOf inp s (checkUpdateTask inp s) := by
  have hquiet : ∀ s', SameRecord s s' → (∀ version url, inp.reply ≠ .offer version url) →
      RunOf inp s s' := fun s' hsame hno =>
    .idle hsame fun version url hoffer _ => absurd hoffer (hno version url)
  cases hreply : inp.reply with
  | offer version url => exact runOf_offer hreply
  | failed =>
      refine hquiet _ ?_ (by simp [hreply])
      simp only [checkUpdateTask, hreply]
      exact ⟨rfl, rfl, rfl⟩
  | noResponse =>
      refine hquiet _ ?_ (by simp [hreply])
      simp only [checkUpdateTask, hreply]
      exact ⟨rfl, rfl, rfl⟩
  | notJson =>
      refine hquiet _ ?_ (by simp [hreply])
      simp only [checkUpdateTask, hreply]
      exact ⟨rfl, rfl, rfl⟩
  | badFormat =>
      refine hquiet _ ?_ (by simp [hreply])
      simp only [checkUpdateTask, hreply]
      exact ⟨rfl, rfl, rfl⟩

/-- A run adds calls to those before, and these tell whether it has tried the
image. -/
theorem attempts_iff_of_calls
    {cs : List OtaCall} (h : (checkUpdateTask inp s).calls = s.calls ++ cs) :
    Attempts inp s ↔ ∃ c ∈ cs, c.isAttempt = true := by
  unfold Attempts
  rw [h, List.drop_left]

/-- An image is tried exactly when it is offered, its version is newer and not
left alone. -/
theorem attempts_iff :
    Attempts inp s ↔
      ∃ version url, inp.reply = .offer version url ∧ Newer version ∧
        otaShouldSkipForFailedVersion version s = false := by
  have hasks : ∀ {url cs}, ∃ c ∈ OtaCall.otaPreflightImage url :: cs, c.isAttempt = true :=
    ⟨_, List.mem_cons_self, rfl⟩
  have hrun := runOf_checkUpdateTask inp s
  generalize hafter : checkUpdateTask inp s = s' at hrun
  cases hrun with
  | idle same reason =>
      have hcalls : (checkUpdateTask inp s).calls = s.calls ++ [] := by
        rw [hafter, same.calls, List.append_nil]
      rw [attempts_iff_of_calls hcalls]
      constructor
      · rintro ⟨c, hc, -⟩
        cases hc
      · rintro ⟨version, url, hoffer, hnewer, htried⟩
        rw [reason version url hoffer hnewer] at htried
        cases htried
  | upToDate version url reply old same =>
      have hcalls : (checkUpdateTask inp s).calls = s.calls ++ [.otaClearFailureState] := by
        rw [hafter, same.calls]
        rfl
      rw [attempts_iff_of_calls hcalls]
      constructor
      · rintro ⟨c, hc, hattempt⟩
        rw [List.mem_singleton.mp hc] at hattempt
        cases hattempt
      · rintro ⟨v, u, hoffer, hnewer, -⟩
        rw [reply] at hoffer
        cases hoffer
        exact absurd hnewer old
  | failed version url s₁ reply newer tried asked same =>
      obtain ⟨cs, hcs, -⟩ := asked.calls
      have hcalls : (checkUpdateTask inp s).calls =
          s.calls ++ .otaPreflightImage url :: (cs ++ [.otaRecordFailure version]) := by
        rw [hafter, same.calls, calls_otaRecordFailure, hcs, List.append_assoc]
        rfl
      rw [attempts_iff_of_calls hcalls]
      exact iff_of_true hasks ⟨version, url, reply, newer, tried⟩
  | updated version url s₁ reply newer tried asked same =>
      obtain ⟨cs, hcs, -⟩ := asked.calls
      have hcalls : (checkUpdateTask inp s).calls =
          s.calls ++ .otaPreflightImage url :: (cs ++ [.otaClearFailureState, .espRestart]) := by
        rw [hafter, same.calls]
        show s₁.calls ++ [.otaClearFailureState] ++ [.espRestart] = _
        rw [hcs]
        simp
      rw [attempts_iff_of_calls hcalls]
      exact iff_of_true hasks ⟨version, url, reply, newer, tried⟩

theorem Recorded.asked
    {s₁ : OtaState} (h : Recorded s) (hasked : Asked url s s₁) :
    Recorded s₁ := by
  refine h.of_same hasked.otaFailVer hasked.otaFailCnt fun v => ?_
  obtain ⟨cs, hcs, hattempts⟩ := hasked.calls
  rw [hcs]
  refine recentFailures_append_attempts v s.calls fun c hc => ?_
  rcases List.mem_cons.mp hc with rfl | hc
  · rfl
  · exact hattempts c hc

theorem Recorded.same
    {s' : OtaState} (h : Recorded s) (hsame : SameRecord s s') :
    Recorded s' :=
  h.of_same hsame.otaFailVer hsame.otaFailCnt fun v => by rw [hsame.calls]

/-- A run keeps the record. -/
theorem recorded_step
    (inp : UpdateInput) (s : OtaState) (h : Recorded s) :
    Recorded (checkUpdateTask inp s) := by
  cases runOf_checkUpdateTask inp s with
  | idle same reason => exact h.same same
  | upToDate version url reply old same => exact (recorded_clear s).same same
  | failed version url s₁ reply newer tried asked same =>
      exact ((h.asked asked).recordFailure (newer_ne_nil newer)).same same
  | updated version url s₁ reply newer tried asked same =>
      refine Recorded.same ?_ same
      refine (recorded_clear s₁).of_same rfl rfl fun v => ?_
      exact recentFailures_concat v _ .espRestart

/-- In a run the policy is met exactly when the version is remembered. -/
theorem retryPolicy_iff
    (h : Recorded s) :
    RetryPolicy inp s ↔ Remembered inp s := by
  have hoffered := @attempts_iff inp s
  unfold RetryPolicy Remembered
  cases hreply : inp.reply with
  | failed => simp [hoffered, hreply]
  | noResponse => simp [hoffered, hreply]
  | notJson => simp [hoffered, hreply]
  | badFormat => simp [hoffered, hreply]
  | offer version url =>
      dsimp only
      have hattempts : Attempts inp s ↔
          Newer version ∧ otaShouldSkipForFailedVersion version s = false := by
        simp [hoffered, hreply]
      rw [hattempts]
      by_cases hnewer : Newer version
      · rw [← Bool.not_eq_true, h.skip_iff (newer_ne_nil hnewer)]
        simp only [hnewer, true_and, forall_const]
        omega
      · simp [hnewer]

end Task

/-! ## Every sequence of runs -/

/-- From a board that has never looked for firmware the policy is met in every
run of a sequence exactly when no run is offered a newer version of 32 characters
or more of which three failures count. -/
theorem retryPolicy_along_iff
    (runs : List UpdateInput) :
    Along checkUpdateTask RetryPolicy runs .initial ↔
      Along checkUpdateTask Remembered runs .initial :=
  along_congr_of_invariant (fun inp s h _ => recorded_step inp s h)
    (fun _ _ h => retryPolicy_iff h) runs recorded_initial

section Example

/-- `"1.0.4"`, with 27 characters behind it. -/
def longVersion : List UInt8 :=
  [49, 46, 48, 46, 52] ++ List.replicate 27 45

/-- A run in which the offered image is refused. -/
def refusedRun : UpdateInput where
  reply := .offer longVersion [104]
  preflight := { client := true, performed := false, status := 0, contentLen := 0 }
  otaOk := false

/-- A version of 32 characters is tried a fourth time. -/
theorem longVersion_fourth_attempt :
    recentFailures longVersion
        (run checkUpdateTask (List.replicate 3 refusedRun) .initial).calls = 3 ∧
      ¬ Along checkUpdateTask RetryPolicy (List.replicate 4 refusedRun) .initial := by
  have hthree : recentFailures longVersion
      (run checkUpdateTask (List.replicate 3 refusedRun) .initial).calls = 3 := by
    decide +kernel
  have hfourth : Attempts refusedRun
      (run checkUpdateTask (List.replicate 3 refusedRun) .initial) := by
    decide +kernel
  refine ⟨hthree, fun h => ?_⟩
  obtain ⟨-, -, -, hpolicy, -⟩ := h
  have hfew := (hpolicy.mp hfourth).2
  change recentFailures longVersion
    (run checkUpdateTask (List.replicate 3 refusedRun) .initial).calls < 3 at hfew
  rw [hthree] at hfew
  exact absurd hfew (by decide)

end Example

end Ota
end AvensysEsp32
