import AvensysEsp32.Foundation.Overwrite
import AvensysEsp32.Wifi.Manager

/-!
# Wi-Fi credentials in NVS

`apply_wifi_request` writes the two keys one after the other, each with its own
commit, before it stores the credentials in the two arrays.  An error of either
write is returned at once, and the connection is left as it is; but the SSID
that has been written before it stays.
-/

namespace AvensysEsp32
namespace Wifi

open Foundation

/-- A request that asks to be kept; the strings fit the arrays of
`wifi_request_t`. -/
structure PersistentRequest where
  request : WifiRequest
  ssid_fits : request.ssid.length ≤ maxSsidLength
  password_fits : request.password.length ≤ maxPasswordLength
  persistToNvs : request.persistToNvs = true

/-- The two keys, `wifi_ssid` and `wifi_pass`. -/
structure StoredKeys where
  nvsSsid : Option (List UInt8)
  nvsPass : Option (List UInt8)
deriving DecidableEq, Repr

def WifiState.keys (s : WifiState) : StoredKeys :=
  ⟨s.nvsSsid, s.nvsPass⟩

/-- What `read_wifi_credentials_from_nvs` makes of the keys at the next start. -/
def StoredKeys.readBack (keys : StoredKeys) : Credentials :=
  let s := WifiState.boot true keys.nvsSsid keys.nvsPass
  ⟨s.wifiSsid, s.wifiPassword⟩

/-- The credentials of a request. -/
def WifiRequest.credentials (request : WifiRequest) : Credentials :=
  ⟨request.ssid, request.password⟩

/-! ## The function until its first attempt -/

/-- `apply_wifi_request` until its first attempt, what it finds when it begins
and when it writes. -/
def applyUntilStored (begun written : TaskInput) (request : WifiRequest) (s : WifiState) :
    WifiState × Option Returned :=
  match beginApply begun request s with
  | (s, some returned) => (s, some returned)
  | (s, none) => persistAndStore written request s

/-- The request is skipped: Wi-Fi is connected with its credentials. -/
def Skipped (request : WifiRequest) (s : WifiState) : Prop :=
  s.wifiConnectedFlag = true ∧ s.wifiSsid = request.ssid ∧ s.wifiPassword = request.password

instance (request : WifiRequest) (s : WifiState) : Decidable (Skipped request s) :=
  inferInstanceAs (Decidable (_ ∧ _))

/-- The keys after the first `writes` of the two writes. -/
def interruptedPersist (writes : Nat) (request : WifiRequest) (keys : StoredKeys) : StoredKeys :=
  match writes with
  | 0 => keys
  | 1 => { keys with nvsSsid := some request.ssid }
  | _ + 2 => ⟨some request.ssid, some request.password⟩

/-- How the writes end: with the function going on, or by a loss of power after
some of them. -/
inductive PersistEnd
  | returned (begun written : TaskInput)
  | powerLost (writes : Nat)

/-- The keys after writes that ended so. -/
def PersistEnd.leaves (ended : PersistEnd) (request : WifiRequest) (s : WifiState) :
    StoredKeys :=
  match ended with
  | .returned begun written => (applyUntilStored begun written request s).1.keys
  | .powerLost writes =>
      if Skipped request s then s.keys else interruptedPersist writes request s.keys

/-- Two states agree in the credentials in use and in the connection. -/
structure SameInUse (s s' : WifiState) : Prop where
  wifiSsid : s'.wifiSsid = s.wifiSsid
  wifiPassword : s'.wifiPassword = s.wifiPassword
  wifiConnectedFlag : s'.wifiConnectedFlag = s.wifiConnectedFlag
  connectEventGroup : s'.connectEventGroup = s.connectEventGroup
  station : s'.station = s.station
  configs : s'.configs = s.configs

/-- One of the two writes fails. -/
def WriteFails (written : TaskInput) : Prop :=
  written.nvsSsid ≠ .committed ∨ written.nvsPass ≠ .committed

/-- The credentials read back later are the old ones or the new ones, and a
write that fails leaves everything in use. -/
structure PersistAtomic (request : WifiRequest) (s : WifiState) : Prop where
  readBack : ∀ ended : PersistEnd,
    (ended.leaves request s).readBack = s.keys.readBack ∨
      (ended.leaves request s).readBack = request.credentials
  failure : ∀ begun written, ¬ Skipped request s → WriteFails written →
    (applyUntilStored begun written request s).2 = some ⟨request, false⟩ ∧
      SameInUse s (applyUntilStored begun written request s).1

section Until

variable (begun written : TaskInput) (request : WifiRequest) (s : WifiState)

/-- The beginning of the function skips the request, or changes only where the
task is. -/
theorem beginApply_cases :
    (Skipped request s ∧ (beginApply begun request s).2 = some ⟨request, true⟩ ∧
        (beginApply begun request s).1.keys = s.keys) ∨
      (¬ Skipped request s ∧ (beginApply begun request s).2 = none ∧
        ∃ phase, (beginApply begun request s).1 = { s with phase := phase }) := by
  unfold beginApply
  split
  · rename_i hskipped
    exact Or.inl ⟨hskipped, rfl, rfl⟩
  · rename_i hskipped
    right
    split
    · exact ⟨hskipped, rfl, .cooling request, rfl⟩
    · exact ⟨hskipped, rfl, .applying request, rfl⟩

theorem applyUntilStored_of_skipped
    (h : Skipped request s) :
    (applyUntilStored begun written request s).1.keys = s.keys := by
  rcases beginApply_cases begun request s with ⟨-, hreturned, hkeys⟩ | ⟨hskipped, -⟩
  · unfold applyUntilStored
    generalize beginApply begun request s = result at *
    obtain ⟨s', returned⟩ := result
    subst hreturned
    exact hkeys
  · exact absurd h hskipped

theorem applyUntilStored_of_not_skipped
    (h : ¬ Skipped request s) :
    ∃ phase, applyUntilStored begun written request s =
      persistAndStore written request { s with phase := phase } := by
  rcases beginApply_cases begun request s with ⟨hskipped, -⟩ | ⟨-, hnone, phase, hphase⟩
  · exact absurd hskipped h
  · refine ⟨phase, ?_⟩
    unfold applyUntilStored
    generalize beginApply begun request s = result at *
    obtain ⟨s', returned⟩ := result
    subst hnone
    subst hphase
    rfl

theorem storeCredentials_keys :
    (storeCredentials request s).1.keys = s.keys := by
  unfold storeCredentials wifiDisconnect
  dsimp only
  split
  · rfl
  · rfl

/-- The writes reach some number of keys; one that fails ends the function. -/
theorem persistAndStore_cases
    (hpersist : request.persistToNvs = true) :
    (∃ writes, (persistAndStore written request s).1.keys =
        interruptedPersist writes request s.keys) ∧
      (WriteFails written →
        (persistAndStore written request s).2 = some ⟨request, false⟩ ∧
          SameInUse s (persistAndStore written request s).1) := by
  unfold persistAndStore WriteFails
  rw [if_pos hpersist]
  cases hssid : written.nvsSsid with
  | failed => exact ⟨⟨0, rfl⟩, fun _ => ⟨rfl, ⟨rfl, rfl, rfl, rfl, rfl, rfl⟩⟩⟩
  | uncommitted => exact ⟨⟨1, rfl⟩, fun _ => ⟨rfl, ⟨rfl, rfl, rfl, rfl, rfl, rfl⟩⟩⟩
  | committed =>
      cases hpass : written.nvsPass with
      | failed => exact ⟨⟨1, rfl⟩, fun _ => ⟨rfl, ⟨rfl, rfl, rfl, rfl, rfl, rfl⟩⟩⟩
      | uncommitted => exact ⟨⟨2, rfl⟩, fun _ => ⟨rfl, ⟨rfl, rfl, rfl, rfl, rfl, rfl⟩⟩⟩
      | committed => exact ⟨⟨2, storeCredentials_keys request _⟩, by simp⟩

end Until

theorem PersistEnd.leaves_eq
    (ended : PersistEnd) {request : WifiRequest} (s : WifiState)
    (hpersist : request.persistToNvs = true) (hskipped : ¬ Skipped request s) :
    ∃ writes, ended.leaves request s = interruptedPersist writes request s.keys := by
  cases ended with
  | returned begun written =>
      obtain ⟨phase, happly⟩ := applyUntilStored_of_not_skipped begun written request s hskipped
      obtain ⟨writes, hkeys⟩ :=
        (persistAndStore_cases written request { s with phase := phase } hpersist).1
      refine ⟨writes, ?_⟩
      show (applyUntilStored begun written request s).1.keys = _
      rw [happly, hkeys]
      rfl
  | powerLost writes => exact ⟨writes, if_neg hskipped⟩

/-- A string that fits is read back. -/
theorem readBack_ssid
    {keys : StoredKeys} {ssid : List UInt8}
    (hkey : keys.nvsSsid = some ssid) (hfits : ssid.length ≤ maxSsidLength) :
    keys.readBack.ssid = ssid := by
  show nvsReadString true keys.nvsSsid defaultSsid (maxSsidLength + 1) = ssid
  rw [hkey]
  exact if_pos (Nat.succ_le_succ hfits)

theorem readBack_password
    {keys : StoredKeys} {password : List UInt8}
    (hkey : keys.nvsPass = some password) (hfits : password.length ≤ maxPasswordLength) :
    keys.readBack.password = password := by
  show nvsReadString true keys.nvsPass defaultPassword (maxPasswordLength + 1) = password
  rw [hkey]
  exact if_pos (Nat.succ_le_succ hfits)

/-- The password read back does not depend on the SSID. -/
theorem readBack_interrupted
    (request : PersistentRequest) (keys : StoredKeys) :
    (interruptedPersist 1 request.request keys).readBack =
      ⟨request.request.ssid, keys.readBack.password⟩ := by
  have hssid : (interruptedPersist 1 request.request keys).readBack.ssid = request.request.ssid :=
    readBack_ssid rfl request.ssid_fits
  show Credentials.mk _ _ = _
  exact congrArg (fun ssid => Credentials.mk ssid keys.readBack.password) hssid

theorem readBack_written
    (request : PersistentRequest) (keys : StoredKeys) (writes : Nat) :
    (interruptedPersist (writes + 2) request.request keys).readBack =
      request.request.credentials := by
  have hssid : (interruptedPersist 2 request.request keys).readBack.ssid = request.request.ssid :=
    readBack_ssid rfl request.ssid_fits
  have hpassword : (interruptedPersist 2 request.request keys).readBack.password =
      request.request.password :=
    readBack_password rfl request.password_fits
  show Credentials.mk _ _ = Credentials.mk _ _
  exact congrArg₂ Credentials.mk hssid hpassword

/-- The credentials are kept as a pair exactly when the request is skipped, or
the SSID or the password that is stored already is that of the request. -/
theorem applyWifiRequest_persistAtomic_iff
    (request : PersistentRequest) (s : WifiState) :
    PersistAtomic request.request s ↔
      Skipped request.request s ∨ s.keys.readBack.ssid = request.request.ssid ∨
        s.keys.readBack.password = request.request.password := by
  constructor
  · intro h
    by_cases hskipped : Skipped request.request s
    · exact Or.inl hskipped
    · right
      -- The power is lost between the two writes.
      have hlost := h.readBack (.powerLost 1)
      have hleaves : (PersistEnd.powerLost 1).leaves request.request s =
          interruptedPersist 1 request.request s.keys := if_neg hskipped
      rw [hleaves, readBack_interrupted] at hlost
      rcases hlost with hold | hnew
      · exact Or.inl (congrArg Credentials.ssid hold).symm
      · exact Or.inr (congrArg Credentials.password hnew)
  · intro h
    constructor
    · intro ended
      by_cases hskipped : Skipped request.request s
      · left
        cases ended with
        | returned begun written =>
            exact congrArg StoredKeys.readBack
              (applyUntilStored_of_skipped begun written request.request s hskipped)
        | powerLost writes => exact congrArg StoredKeys.readBack (if_pos hskipped)
      · obtain ⟨writes, hleaves⟩ := ended.leaves_eq s request.persistToNvs hskipped
        rw [hleaves]
        match writes with
        | 0 => exact Or.inl rfl
        | 1 =>
            rw [readBack_interrupted]
            rcases h.resolve_left hskipped with hssid | hpassword
            · exact Or.inl (by rw [← hssid])
            · exact Or.inr (by rw [hpassword]; rfl)
        | writes + 2 => exact Or.inr (readBack_written request s.keys writes)
    · intro begun written hskipped hfails
      obtain ⟨phase, happly⟩ :=
        applyUntilStored_of_not_skipped begun written request.request s hskipped
      obtain ⟨hreturned, hsame⟩ := (persistAndStore_cases written request.request
        { s with phase := phase } request.persistToNvs).2 hfails
      rw [happly]
      exact ⟨hreturned, ⟨hsame.wifiSsid, hsame.wifiPassword, hsame.wifiConnectedFlag,
        hsame.connectEventGroup, hsame.station, hsame.configs⟩⟩

/-- A request for the network `"b"` with the password `"2"`. -/
def requestExample : PersistentRequest where
  request :=
    { ssid := [98], password := [50], persistToNvs := true, requestId := 1, enqueueTick := 0
      source := .ble }
  ssid_fits := by decide
  password_fits := by decide
  persistToNvs := rfl

/-- The network `"a"` is stored with its password `"1"`; the write of the new
password fails, and the new SSID is read back with the old password. -/
theorem applyWifiRequest_mixes :
    ¬ ∀ (request : PersistentRequest) (s : WifiState), PersistAtomic request.request s := by
  intro h
  have hread := (h requestExample (.boot true (some [97]) (some [49]))).readBack
    (.returned ⟨1000, true, .committed, .failed, true, .started, false⟩
      ⟨1000, true, .committed, .failed, true, .started, false⟩)
  revert hread
  decide

end Wifi
end AvensysEsp32
