import Mathlib.Data.Prod.Lex
import AvensysEsp32.Foundation.Decimal
import AvensysEsp32.Wifi.Manager

/-!
# The check for new firmware

`check_update_task` asks the server for the version it offers, compares it with
the one that runs, and downloads a newer image.  The version that failed last and
the number of its failures are kept in NVS, so that an image that fails again and
again is left alone.

A version and a URL are given by the characters of their strings.  Beside the
variables of the task its state records what it has done.
-/

namespace AvensysEsp32
namespace Ota

open Foundation Wifi

/-! ## Versions -/

/-- Three numbers, as `"%d.%d.%d"` finds them. -/
structure Semver where
  major : Int
  minor : Int
  patch : Int
deriving DecidableEq, Repr

/-- `sscanf(version, "%d.%d.%d", ..)`, when it converts all three numbers. -/
def scanSemver (version : List UInt8) : Option Semver :=
  match scanInt version with
  | some (major, 46 :: text) =>
      match scanInt text with
      | some (minor, 46 :: text) =>
          match scanInt text with
          | some (patch, _) => some ⟨major, minor, patch⟩
          | none => none
      | _ => none
  | _ => none

/-- A number as a conversion stores it in an `int`. -/
def toInt (value : Int) : Int :=
  max (-2147483648) (min value 2147483647)

/-- `ota_parse_semver` -/
def otaParseSemver (version : List UInt8) : Option Semver :=
  (scanSemver version).map fun v => ⟨toInt v.major, toInt v.minor, toInt v.patch⟩

/-- `ota_compare_versions` -/
def otaCompareVersions (current available : List UInt8) : Int :=
  match otaParseSemver current, otaParseSemver available with
  | some c, some a =>
      if a.major ≠ c.major then (if a.major > c.major then 1 else -1)
      else if a.minor ≠ c.minor then (if a.minor > c.minor then 1 else -1)
      else if a.patch ≠ c.patch then (if a.patch > c.patch then 1 else -1)
      else 0
  | _, _ => -1

/-- `CURRENT_VERSION`, `"1.0.3"` -/
def currentVersion : List UInt8 :=
  [49, 46, 48, 46, 51]

/-! ## The failures -/

/-- What the task does outside its own memory, and the failures it records. -/
inductive OtaCall
  | otaPreflightImage (url : List UInt8)
  | espHttpsOta (url : List UInt8)
  | otaRecordFailure (version : List UInt8)
  | otaClearFailureState
  | espRestart
deriving DecidableEq, Repr

structure OtaState where
  /-- `OTA_FAIL_VER_KEY` in NVS -/
  otaFailVer : Option (List UInt8)
  /-- `OTA_FAIL_COUNT_KEY` in NVS -/
  otaFailCnt : Option Int
  otaInProgress : Bool
  counterLed1 : UInt16
  /-- What the task has done so far, in order. -/
  calls : List OtaCall

/-- A board that has never looked for firmware. -/
def OtaState.initial : OtaState where
  otaFailVer := none
  otaFailCnt := none
  otaInProgress := false
  counterLed1 := 0
  calls := []

/-- Record a call. -/
def OtaState.call (c : OtaCall) (s : OtaState) : OtaState :=
  { s with calls := s.calls ++ [c] }

/-- `OTA_FAIL_MAX_RETRY` -/
@[simp] abbrev otaFailMaxRetry : Nat := 3

/-- `sizeof(failed_version)` -/
@[simp] abbrev failedVersionSize : Nat := 32

/-- `ota_clear_failure_state` -/
def otaClearFailureState (s : OtaState) : OtaState :=
  { s with otaFailCnt := some 0, otaFailVer := some [] }.call .otaClearFailureState

/-- `ota_record_failure` -/
def otaRecordFailure (version : List UInt8) (s : OtaState) : OtaState :=
  let failedVersion := nvsReadString true s.otaFailVer [] failedVersionSize
  let failCount := s.otaFailCnt.getD 0
  let s :=
    if failedVersion = version then { s with otaFailCnt := some (failCount + 1) }
    else { s with otaFailVer := some version, otaFailCnt := some 1 }
  s.call (.otaRecordFailure version)

/-- `ota_should_skip_for_failed_version` -/
def otaShouldSkipForFailedVersion (version : List UInt8) (s : OtaState) : Bool :=
  match s.otaFailVer, s.otaFailCnt with
  | some stored, some failCount =>
      let failedVersion := nvsReadString true (some stored) [] failedVersionSize
      failedVersion = version ∧ failCount ≥ otaFailMaxRetry
  | _, _ => false

/-! ## The task -/

/-- What the server answers to the request for the head of an image. -/
structure PreflightReply where
  /-- `client != NULL` -/
  client : Bool
  /-- `err == ESP_OK` -/
  performed : Bool
  status : Int
  contentLen : Int

/-- `ota_preflight_image` -/
def otaPreflightImage (url : List UInt8) (reply : PreflightReply) : Bool :=
  if url = [] then false
  else if ¬ reply.client then false
  else if ¬ reply.performed ∨ reply.status < 200 ∨ reply.status ≥ 300 then false
  else if reply.contentLen = 0 then false
  else true

/-- What the request for the offered version leads to. -/
inductive VersionReply
  | failed
  | noResponse
  | notJson
  | badFormat
  | offer (version url : List UInt8)

/-- What a run of the task meets from outside. -/
structure UpdateInput where
  reply : VersionReply
  preflight : PreflightReply
  /-- `esp_https_ota` returns `ESP_OK`. -/
  otaOk : Bool

/-- `check_update_task` -/
def checkUpdateTask (inp : UpdateInput) (s : OtaState) : OtaState :=
  match inp.reply with
  | .notJson => s
  | .failed | .noResponse | .badFormat => { s with otaInProgress := false }
  | .offer version url =>
      let cmp := otaCompareVersions currentVersion version
      if cmp > 0 then
        if otaShouldSkipForFailedVersion version s then { s with otaInProgress := false }
        else
          let s := s.call (.otaPreflightImage url)
          if ¬ otaPreflightImage url inp.preflight then
            { otaRecordFailure version s with otaInProgress := false }
          else
            let s := { s with otaInProgress := true, counterLed1 := 0 }.call (.espHttpsOta url)
            if inp.otaOk then
              { otaClearFailureState s with otaInProgress := false }.call .espRestart
            else { otaRecordFailure version s with otaInProgress := false }
      else if cmp = 0 then { otaClearFailureState s with otaInProgress := false }
      else { s with otaInProgress := false }

/-! ## The order of versions -/

/-- The numbers of a version in the order that compares them one after another. -/
def Semver.key (v : Semver) : Int ×ₗ Int ×ₗ Int :=
  toLex (v.major, toLex (v.minor, v.patch))

/-- The version is three numbers, and they come after those of the version that
runs. -/
def Newer (version : List UInt8) : Prop :=
  ∃ c ∈ scanSemver currentVersion, ∃ v ∈ scanSemver version, c.key < v.key

instance (version : List UInt8) : Decidable (Newer version) :=
  inferInstanceAs (Decidable (∃ c ∈ _, ∃ v ∈ _, _))

theorem Semver.key_lt_iff (v w : Semver) :
    v.key < w.key ↔
      v.major < w.major ∨ v.major = w.major ∧
        (v.minor < w.minor ∨ v.minor = w.minor ∧ v.patch < w.patch) := by
  unfold Semver.key
  rw [Prod.Lex.toLex_lt_toLex, Prod.Lex.toLex_lt_toLex]

theorem scanSemver_currentVersion :
    scanSemver currentVersion = some ⟨1, 0, 3⟩ := by
  decide

/-- Against a number well inside its range an `int` compares as the number that
was stored in it. -/
theorem toInt_compare
    {bound : Int} (hlow : 0 ≤ bound) (hhigh : bound < 100) (value : Int) :
    (bound < toInt value ↔ bound < value) ∧ (bound = toInt value ↔ bound = value) := by
  unfold toInt
  omega

/-- One number of the comparison: it decides, or leaves it to the rest. -/
theorem compareNumber_pos_iff
    {current available rest : Int} :
    (if available ≠ current then (if available > current then 1 else -1) else rest) > 0 ↔
      current < available ∨ current = available ∧ rest > 0 := by
  by_cases heq : available = current
  · rw [if_neg (not_not.mpr heq)]
    simp [heq]
  · rw [if_pos heq]
    have hne : current ≠ available := fun h => heq h.symm
    split
    · rename_i hlt
      simp [hlt]
    · rename_i hle
      simp [hne, hle]

/-- The comparison of the source takes a version for newer exactly when its
numbers come later; that an `int` has a range makes no difference. -/
theorem otaCompareVersions_pos_iff
    (version : List UInt8) :
    otaCompareVersions currentVersion version > 0 ↔ Newer version := by
  unfold otaCompareVersions otaParseSemver Newer
  rw [scanSemver_currentVersion]
  cases scanSemver version with
  | none => simp
  | some v =>
      have hrange : toInt 1 = 1 ∧ toInt 0 = 0 ∧ toInt 3 = 3 := by
        decide
      obtain ⟨hmajor, hmajor'⟩ := toInt_compare (by decide : (0 : Int) ≤ 1) (by decide) v.major
      obtain ⟨hminor, hminor'⟩ := toInt_compare (by decide : (0 : Int) ≤ 0) (by decide) v.minor
      obtain ⟨hpatch, -⟩ := toInt_compare (by decide : (0 : Int) ≤ 3) (by decide) v.patch
      simp only [Option.map_some, Option.mem_def, Option.some.injEq, exists_eq_left', hrange]
      rw [compareNumber_pos_iff, compareNumber_pos_iff, compareNumber_pos_iff, Semver.key_lt_iff,
        hmajor, hmajor', hminor, hminor', hpatch]
      simp

end Ota
end AvensysEsp32
