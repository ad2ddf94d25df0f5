import AvensysEsp32.Wifi.Manager

/-!
# The resources of a Wi-Fi session

`wifi_connect.c` with each call of `start` that may fail: the driver, the
network interface, the two event handlers and the event group.  A session is
open while the event group exists.

The errors of `start` are handled in three ways.  The first calls return, or
destroy the interface and return; from the registration of the handlers on,
`stop` releases everything.  Only `stop` undoes `esp_wifi_init`.
-/

namespace AvensysEsp32
namespace Wifi

open Foundation

/-! ## State -/

/-- The calls of `start` that may fail, in their order. -/
inductive StartCall
  | wifiInit
  | netifNew
  | attachWifiStation
  | setDefaultHandlers
  | registerDisconnected
  | registerGotIp
  | setStorage
  | setMode
  | setConfig
  | wifiStart
  | wifiConnect
deriving DecidableEq, Repr

structure SessionState where
  /-- `GOT_IPV4_BIT` of `s_connect_event_group`, if the group exists. -/
  connectEventGroup : Option Bool
  /-- The `esp_wifi_init` that no `esp_wifi_deinit` has undone. -/
  driverInits : Nat
  /-- The interfaces that exist. -/
  netifs : Nat
  /-- `s_wifi_esp_netif` is set. -/
  wifiEspNetif : Bool
  /-- `on_wifi_disconnect` is registered. -/
  disconnectHandler : Bool
  /-- `on_got_ip` is registered. -/
  gotIpHandler : Bool
  /-- `Wifi_Connected_Flag` -/
  wifiConnectedFlag : Bool
  /-- `s_shutdown_handler_registered` -/
  shutdownHandlerRegistered : Bool
  /-- `s_connection_name` -/
  connectionName : Option (List UInt8)
deriving DecidableEq, Repr

/-- The variables as the program starts. -/
def SessionState.initial : SessionState where
  connectEventGroup := none
  driverInits := 0
  netifs := 0
  wifiEspNetif := false
  disconnectHandler := false
  gotIpHandler := false
  wifiConnectedFlag := false
  shutdownHandlerRegistered := false
  connectionName := none

namespace SessionState

/-- `esp_netif_destroy` of the interface created last -/
def destroyNetif (s : SessionState) : SessionState :=
  { s with netifs := s.netifs - 1 }

/-- `stop` -/
def stop (s : SessionState) : SessionState :=
  let s :=
    { s with
      disconnectHandler := false
      gotIpHandler := false
      driverInits := s.driverInits - 1 }
  let s := if s.wifiEspNetif then s.destroyNetif else s
  { s with wifiEspNetif := false, wifiConnectedFlag := false }

/-- `start` from the registration of `IP_EVENT_STA_GOT_IP` on: an error of any
call leads to `stop`. -/
def configure (fails : StartCall → Bool) (ssid : List UInt8) (s : SessionState) :
    SessionState × Bool :=
  if fails .registerGotIp then (s.stop, false)
  else
    let s := { s with gotIpHandler := true }
    if fails .setStorage then (s.stop, false)
    else if fails .setMode then (s.stop, false)
    else if fails .setConfig then (s.stop, false)
    else if fails .wifiStart then (s.stop, false)
    else if fails .wifiConnect then (s.stop, false)
    else ({ s with connectionName := some ssid }, true)

/-- `start`; the result is whether it is `ESP_OK`. -/
def start (fails : StartCall → Bool) (ssid : List UInt8) (s : SessionState) :
    SessionState × Bool :=
  if fails .wifiInit then (s, false)
  else
    let s := { s with driverInits := s.driverInits + 1 }
    if fails .netifNew then (s, false)
    else
      let s := { s with netifs := s.netifs + 1 }
      if fails .attachWifiStation then (s.destroyNetif, false)
      else if fails .setDefaultHandlers then (s.destroyNetif, false)
      else
        let s := { s with wifiEspNetif := true }
        if fails .registerDisconnected then (s.stop, false)
        else configure fails ssid { s with disconnectHandler := true }

/-- The events of the driver that the program handles. -/
inductive DriverEvent
  | gotIp
  | staDisconnected
deriving DecidableEq, Repr

/-- `on_got_ip` and `on_wifi_disconnect`, while they are registered -/
def handle (event : DriverEvent) (s : SessionState) : SessionState :=
  match event with
  | .gotIp =>
      if s.gotIpHandler then
        { s with
          connectEventGroup := s.connectEventGroup.map fun _ => true
          wifiConnectedFlag := true }
      else s
  | .staDisconnected =>
      if s.disconnectHandler then { s with wifiConnectedFlag := false } else s

/-- What a call of `wifi_connect` finds: whether the event group is created,
which calls of `start` fail, whether the shutdown handler is registered, and
the events of the driver until the address is there or the wait times out. -/
structure ConnectInput where
  groupCreated : Bool
  fails : StartCall → Bool
  shutdownRegistered : Bool
  events : List DriverEvent

/-- The results of `wifi_connect` and `wifi_disconnect`. -/
inductive SessionResult
  | ok
  | invalidState
  | noMem
  | startFailed
  | timeout
deriving DecidableEq, Repr

/-- The wait of `wifi_connect`, and what it does then. -/
def awaitAddress (inp : ConnectInput) (s : SessionState) : SessionState × SessionResult :=
  let s :=
    { s with
      shutdownHandlerRegistered := s.shutdownHandlerRegistered || inp.shutdownRegistered }
  let s := inp.events.foldl (fun s event => handle event s) s
  if s.connectEventGroup = some true then ({ s with connectEventGroup := some false }, .ok)
  else
    let s := stop { s with wifiConnectedFlag := false }
    ({ s with connectEventGroup := none, connectionName := none }, .timeout)

/-- `wifi_connect` until it waits, or what it returns if it does not. -/
def beginConnect (inp : ConnectInput) (ssid : List UInt8) (s : SessionState) :
    SessionState × Option SessionResult :=
  if s.connectEventGroup ≠ none then (s, some .invalidState)
  else if inp.groupCreated = false then (s, some .noMem)
  else
    match start inp.fails ssid { s with connectEventGroup := some false } with
    | (s, false) => ({ s with connectEventGroup := none }, some .startFailed)
    | (s, true) => (s, none)

/-- `wifi_connect` -/
def wifiConnect (inp : ConnectInput) (ssid : List UInt8) (s : SessionState) :
    SessionState × SessionResult :=
  match beginConnect inp ssid s with
  | (s, some result) => (s, result)
  | (s, none) => awaitAddress inp s

/-- `wifi_disconnect` -/
def wifiDisconnect (s : SessionState) : SessionState × SessionResult :=
  if s.connectEventGroup = none then (s, .invalidState)
  else
    let s := stop { s with connectEventGroup := none }
    ({ s with wifiConnectedFlag := false, connectionName := none }, .ok)

end SessionState

inductive SessionEvent
  | connect (inp : SessionState.ConnectInput) (ssid : List UInt8)
  | disconnect
  | driver (event : SessionState.DriverEvent)

/-- The effect of an event. -/
def sessionStep (e : SessionEvent) (s : SessionState) : SessionState :=
  match e with
  | .connect inp ssid => (s.wifiConnect inp ssid).1
  | .disconnect => s.wifiDisconnect.1
  | .driver event => s.handle event

/-! ## Balance -/

/-- Without an event group nothing is held; with one, one driver and one
interface are. -/
structure Balanced (s : SessionState) : Prop where
  closed : s.connectEventGroup = none →
    s.driverInits = 0 ∧ s.netifs = 0 ∧ s.disconnectHandler = false ∧ s.gotIpHandler = false ∧
      s.wifiConnectedFlag = false
  opened : s.connectEventGroup ≠ none → s.driverInits = 1 ∧ s.netifs = 1

/-- The call fails after the driver has been initialised and before the handlers
are registered. -/
def LeaksDriver (e : SessionEvent) (s : SessionState) : Prop :=
  match e with
  | .connect inp _ =>
      s.connectEventGroup = none ∧ inp.groupCreated = true ∧ inp.fails .wifiInit = false ∧
        (inp.fails .netifNew = true ∨ inp.fails .attachWifiStation = true ∨
          inp.fails .setDefaultHandlers = true)
  | .disconnect | .driver _ => False

/-- Nothing is held. -/
structure Released (s : SessionState) : Prop where
  driverInits : s.driverInits = 0
  netifs : s.netifs = 0
  wifiEspNetif : s.wifiEspNetif = false
  disconnectHandler : s.disconnectHandler = false
  gotIpHandler : s.gotIpHandler = false
  wifiConnectedFlag : s.wifiConnectedFlag = false

/-- What `start` has acquired when it registers the handlers. -/
structure Attached (s : SessionState) : Prop where
  driverInits : s.driverInits = 1
  netifs : s.netifs = 1
  wifiEspNetif : s.wifiEspNetif = true

/-- What an open session holds. -/
structure Live (s : SessionState) : Prop extends Attached s where
  disconnectHandler : s.disconnectHandler = true
  gotIpHandler : s.gotIpHandler = true

/-- The event group tells what is held. -/
structure SessionInvariant (s : SessionState) : Prop where
  closed : s.connectEventGroup = none → Released s
  opened : s.connectEventGroup ≠ none → Live s

theorem SessionInvariant.balanced
    {s : SessionState} (h : SessionInvariant s) :
    Balanced s where
  closed := by
    intro hgroup
    have hreleased := h.closed hgroup
    exact ⟨hreleased.driverInits, hreleased.netifs, hreleased.disconnectHandler,
      hreleased.gotIpHandler, hreleased.wifiConnectedFlag⟩
  opened := by
    intro hgroup
    have hlive := h.opened hgroup
    exact ⟨hlive.driverInits, hlive.netifs⟩

theorem sessionInvariant_initial :
    SessionInvariant .initial where
  closed := fun _ => ⟨rfl, rfl, rfl, rfl, rfl, rfl⟩
  opened := fun h => absurd rfl h

namespace SessionState

section Steps

variable {s : SessionState}

/-- `stop` releases what `start` has acquired. -/
theorem released_stop
    (h : Attached s) :
    Released s.stop := by
  obtain ⟨hinits, hnetifs, hnetif⟩ := h
  unfold stop destroyNetif
  dsimp only
  rw [if_pos hnetif]
  exact ⟨by simp [hinits], by simp [hnetifs], rfl, rfl, rfl, rfl⟩

theorem stop_connectEventGroup (s : SessionState) :
    s.stop.connectEventGroup = s.connectEventGroup := by
  unfold stop destroyNetif
  dsimp only
  split
  · rfl
  · rfl

variable (fails : StartCall → Bool) (ssid : List UInt8)

/-- From the registration of the handlers on, an error releases everything. -/
theorem configure_spec
    (h : Attached s) (hhandler : s.disconnectHandler = true) :
    (configure fails ssid s).1.connectEventGroup = s.connectEventGroup ∧
      ((configure fails ssid s).2 = true ∧ Live (configure fails ssid s).1 ∨
        (configure fails ssid s).2 = false ∧ Released (configure fails ssid s).1) := by
  have hregistered : Attached { s with gotIpHandler := true } :=
    ⟨h.driverInits, h.netifs, h.wifiEspNetif⟩
  have hstop := stop_connectEventGroup { s with gotIpHandler := true }
  have hreleased := released_stop hregistered
  unfold configure
  split
  · exact ⟨stop_connectEventGroup s, Or.inr ⟨rfl, released_stop h⟩⟩
  · dsimp only
    split
    · exact ⟨hstop, Or.inr ⟨rfl, hreleased⟩⟩
    · split
      · exact ⟨hstop, Or.inr ⟨rfl, hreleased⟩⟩
      · split
        · exact ⟨hstop, Or.inr ⟨rfl, hreleased⟩⟩
        · split
          · exact ⟨hstop, Or.inr ⟨rfl, hreleased⟩⟩
          · split
            · exact ⟨hstop, Or.inr ⟨rfl, hreleased⟩⟩
            · exact ⟨rfl, Or.inl ⟨rfl, ⟨⟨h.driverInits, h.netifs, h.wifiEspNetif⟩, hhandler, rfl⟩⟩⟩

/-- `start` fails between the driver and the handlers. -/
def FailsEarly (fails : StartCall → Bool) : Prop :=
  fails .wifiInit = false ∧
    (fails .netifNew = true ∨ fails .attachWifiStation = true ∨ fails .setDefaultHandlers = true)

/-- `start` acquires everything, or releases what it has acquired, or leaves the
driver initialised. -/
theorem start_spec
    (h : Released s) :
    (start fails ssid s).1.connectEventGroup = s.connectEventGroup ∧
      ((start fails ssid s).2 = true ∧ ¬ FailsEarly fails ∧ Live (start fails ssid s).1 ∨
        (start fails ssid s).2 = false ∧ ¬ FailsEarly fails ∧ Released (start fails ssid s).1 ∨
        (start fails ssid s).2 = false ∧ FailsEarly fails ∧
          (start fails ssid s).1.driverInits = 1) := by
  have hinits : s.driverInits + 1 = 1 := by rw [h.driverInits]
  have hnetifs : s.netifs + 1 = 1 := by rw [h.netifs]
  unfold start FailsEarly
  split
  · rename_i hinit
    exact ⟨rfl, Or.inr (Or.inl ⟨rfl, by simp [hinit], h⟩)⟩
  · rename_i hinit
    dsimp only
    split
    · rename_i hnew
      exact ⟨rfl, Or.inr (Or.inr ⟨rfl, by simp [hinit, hnew], hinits⟩)⟩
    · rename_i hnew
      split
      · rename_i hattach
        exact ⟨rfl, Or.inr (Or.inr ⟨rfl, by simp [hinit, hattach], hinits⟩)⟩
      · rename_i hattach
        split
        · rename_i hdefault
          exact ⟨rfl, Or.inr (Or.inr ⟨rfl, by simp [hinit, hdefault], hinits⟩)⟩
        · rename_i hdefault
          have hlate : ¬ (fails .wifiInit = false ∧ (fails .netifNew = true ∨
              fails .attachWifiStation = true ∨ fails .setDefaultHandlers = true)) := by
            simp [hnew, hattach, hdefault]
          split
          · refine ⟨stop_connectEventGroup _, Or.inr (Or.inl ⟨rfl, hlate, ?_⟩)⟩
            exact released_stop ⟨hinits, hnetifs, rfl⟩
          · obtain ⟨hgroup, hlive | hreleased⟩ := configure_spec fails ssid
              (s :=
                { s with
                  driverInits := s.driverInits + 1
                  netifs := s.netifs + 1
                  wifiEspNetif := true
                  disconnectHandler := true })
              ⟨hinits, hnetifs, rfl⟩ rfl
            · exact ⟨hgroup, Or.inl ⟨hlive.1, hlate, hlive.2⟩⟩
            · exact ⟨hgroup, Or.inr (Or.inl ⟨hreleased.1, hlate, hreleased.2⟩)⟩

/-- An event of the driver changes the event group and the flag alone, and
nothing unless the handlers are registered. -/
theorem handle_live
    (event : DriverEvent) (h : Live s) :
    Live (handle event s) ∧
      ((handle event s).connectEventGroup = none ↔ s.connectEventGroup = none) := by
  cases event with
  | gotIp =>
      unfold handle
      rw [if_pos h.gotIpHandler]
      exact ⟨⟨⟨h.driverInits, h.netifs, h.wifiEspNetif⟩, h.disconnectHandler, h.gotIpHandler⟩,
        by simp⟩
  | staDisconnected =>
      unfold handle
      rw [if_pos h.disconnectHandler]
      exact ⟨⟨⟨h.driverInits, h.netifs, h.wifiEspNetif⟩, h.disconnectHandler, h.gotIpHandler⟩,
        Iff.rfl⟩

theorem handle_released
    (event : DriverEvent) (h : Released s) :
    handle event s = s := by
  cases event with
  | gotIp => exact if_neg (by simp [h.gotIpHandler])
  | staDisconnected => exact if_neg (by simp [h.disconnectHandler])

theorem handle_foldl_live
    (events : List DriverEvent) (h : Live s) :
    Live (events.foldl (fun s event => handle event s) s) := by
  induction events generalizing s with
  | nil => exact h
  | cons event events ih => exact ih (handle_live event h).1

/-- The wait ends with the session open, or with everything released. -/
theorem sessionInvariant_awaitAddress
    (inp : ConnectInput) (h : Live s) :
    SessionInvariant (awaitAddress inp s).1 := by
  have hregistered : Live
      { s with
        shutdownHandlerRegistered := s.shutdownHandlerRegistered || inp.shutdownRegistered } :=
    ⟨⟨h.driverInits, h.netifs, h.wifiEspNetif⟩, h.disconnectHandler, h.gotIpHandler⟩
  have hlive := handle_foldl_live inp.events hregistered
  unfold awaitAddress
  dsimp only
  split
  · refine ⟨fun hnone => absurd hnone (by simp), fun _ => ?_⟩
    exact ⟨⟨hlive.driverInits, hlive.netifs, hlive.wifiEspNetif⟩, hlive.disconnectHandler,
      hlive.gotIpHandler⟩
  · refine ⟨fun _ => ?_, fun hsome => absurd rfl hsome⟩
    have hreleased := released_stop
      (s :=
        { inp.events.foldl (fun s event => handle event s)
            { s with
              shutdownHandlerRegistered :=
                s.shutdownHandlerRegistered || inp.shutdownRegistered } with
          wifiConnectedFlag := false })
      ⟨hlive.driverInits, hlive.netifs, hlive.wifiEspNetif⟩
    exact ⟨hreleased.driverInits, hreleased.netifs, hreleased.wifiEspNetif,
      hreleased.disconnectHandler, hreleased.gotIpHandler, hreleased.wifiConnectedFlag⟩

end Steps

end SessionState

open SessionState

/-- Before its wait a call returns with the invariant kept, goes on with an open
session, or returns with the driver initialised and no session. -/
theorem beginConnect_cases
    (inp : ConnectInput) (ssid : List UInt8) {s : SessionState} (h : SessionInvariant s) :
    (∃ result, (s.beginConnect inp ssid).2 = some result ∧ ¬ LeaksDriver (.connect inp ssid) s ∧
        SessionInvariant (s.beginConnect inp ssid).1) ∨
      ((s.beginConnect inp ssid).2 = none ∧ ¬ LeaksDriver (.connect inp ssid) s ∧
        Live (s.beginConnect inp ssid).1) ∨
      (∃ result, (s.beginConnect inp ssid).2 = some result ∧ LeaksDriver (.connect inp ssid) s ∧
        ¬ Balanced (s.beginConnect inp ssid).1) := by
  unfold SessionState.beginConnect LeaksDriver
  by_cases hgroup : s.connectEventGroup = none
  · rw [if_neg (not_not.mpr hgroup)]
    split
    · rename_i hcreated
      exact Or.inl ⟨_, rfl, by simp [hcreated], h⟩
    · rename_i hcreated
      have hreleased := h.closed hgroup
      have hcreated : inp.groupCreated = true := by simpa using hcreated
      have hspec := start_spec (s := { s with connectEventGroup := some false }) inp.fails ssid
        ⟨hreleased.driverInits, hreleased.netifs, hreleased.wifiEspNetif,
          hreleased.disconnectHandler, hreleased.gotIpHandler, hreleased.wifiConnectedFlag⟩
      generalize SessionState.start inp.fails ssid { s with connectEventGroup := some false } =
        result at hspec
      obtain ⟨s', ok⟩ := result
      obtain ⟨-, ⟨hok, hlate, hlive⟩ | ⟨hok, hlate, hreleased'⟩ | ⟨hok, hearly, hinits⟩⟩ := hspec
      · subst hok
        exact Or.inr (Or.inl ⟨rfl, fun hleak => hlate hleak.2.2, hlive⟩)
      · subst hok
        refine Or.inl ⟨_, rfl, fun hleak => hlate hleak.2.2, fun _ => ?_,
          fun hsome => absurd rfl hsome⟩
        exact ⟨hreleased'.driverInits, hreleased'.netifs, hreleased'.wifiEspNetif,
          hreleased'.disconnectHandler, hreleased'.gotIpHandler, hreleased'.wifiConnectedFlag⟩
      · subst hok
        refine Or.inr (Or.inr ⟨_, rfl, ⟨hgroup, hcreated, hearly⟩, fun hbalanced => ?_⟩)
        have hnone := (hbalanced.closed rfl).1
        exact absurd (hinits.symm.trans hnone) (by decide)
  · rw [if_pos hgroup]
    exact Or.inl ⟨_, rfl, fun hleak => hgroup hleak.1, h⟩

/-- A call keeps the invariant, or leaves the driver initialised without a
session. -/
theorem sessionStep_connect
    (inp : ConnectInput) (ssid : List UInt8) {s : SessionState} (h : SessionInvariant s) :
    (¬ LeaksDriver (.connect inp ssid) s ∧ SessionInvariant (sessionStep (.connect inp ssid) s)) ∨
      (LeaksDriver (.connect inp ssid) s ∧ ¬ Balanced (sessionStep (.connect inp ssid) s)) := by
  have hcases := beginConnect_cases inp ssid h
  show _ ∧ SessionInvariant (s.wifiConnect inp ssid).1 ∨ _ ∧ ¬ Balanced (s.wifiConnect inp ssid).1
  unfold SessionState.wifiConnect
  generalize s.beginConnect inp ssid = begun at hcases
  obtain ⟨s', result⟩ := begun
  rcases hcases with ⟨result, hresult, hclean, hinv⟩ | ⟨hresult, hclean, hlive⟩ |
    ⟨result, hresult, hleaks, hunbalanced⟩
  · subst hresult
    exact Or.inl ⟨hclean, hinv⟩
  · subst hresult
    exact Or.inl ⟨hclean, sessionInvariant_awaitAddress inp hlive⟩
  · subst hresult
    exact Or.inr ⟨hleaks, hunbalanced⟩

theorem sessionStep_disconnect
    {s : SessionState} (h : SessionInvariant s) :
    SessionInvariant (sessionStep .disconnect s) := by
  unfold sessionStep SessionState.wifiDisconnect
  dsimp only
  by_cases hgroup : s.connectEventGroup = none
  · rw [if_pos hgroup]
    exact h
  · rw [if_neg hgroup]
    have hlive := h.opened hgroup
    have hreleased := released_stop (s := { s with connectEventGroup := none })
      ⟨hlive.driverInits, hlive.netifs, hlive.wifiEspNetif⟩
    refine ⟨fun _ => ?_, fun hsome => absurd (stop_connectEventGroup _) hsome⟩
    exact ⟨hreleased.driverInits, hreleased.netifs, hreleased.wifiEspNetif,
      hreleased.disconnectHandler, hreleased.gotIpHandler, rfl⟩

theorem sessionStep_driver
    (event : DriverEvent) {s : SessionState} (h : SessionInvariant s) :
    SessionInvariant (sessionStep (.driver event) s) := by
  show SessionInvariant (handle event s)
  by_cases hgroup : s.connectEventGroup = none
  · rw [handle_released event (h.closed hgroup)]
    exact h
  · obtain ⟨hlive, hsame⟩ := handle_live event (h.opened hgroup)
    exact ⟨fun hnone => absurd (hsame.1 hnone) hgroup, fun _ => hlive⟩

/-- A step leaves the resources balanced exactly when it does not leak the
driver, and then it keeps the invariant. -/
theorem sessionStep_balanced_iff
    (e : SessionEvent) {s : SessionState} (h : SessionInvariant s) :
    (Balanced (sessionStep e s) ↔ ¬ LeaksDriver e s) ∧
      (¬ LeaksDriver e s → SessionInvariant (sessionStep e s)) := by
  cases e with
  | connect inp ssid =>
      rcases sessionStep_connect inp ssid h with ⟨hclean, hinv⟩ | ⟨hleaks, hunbalanced⟩
      · exact ⟨iff_of_true hinv.balanced hclean, fun _ => hinv⟩
      · exact ⟨iff_of_false hunbalanced (not_not.mpr hleaks), fun hclean => absurd hleaks hclean⟩
  | disconnect =>
      have hinv := sessionStep_disconnect h
      exact ⟨iff_of_true hinv.balanced id, fun _ => hinv⟩
  | driver event =>
      have hinv := sessionStep_driver event h
      exact ⟨iff_of_true hinv.balanced id, fun _ => hinv⟩

/-! ## The manager's view of a session -/

/-- The end of `start` that the failing calls lead to. -/
def startResult (fails : StartCall → Bool) : StartResult :=
  if fails .wifiInit ∨ fails .netifNew ∨ fails .attachWifiStation ∨ fails .setDefaultHandlers then
    .unattached
  else if fails .registerDisconnected ∨ fails .registerGotIp ∨ fails .setStorage ∨
      fails .setMode then
    .stopped false
  else if fails .setConfig ∨ fails .wifiStart ∨ fails .wifiConnect then .stopped true
  else .started

/-- The manager sees the event group, the flag, and a station while the handlers
are registered. -/
structure SessionView (m : WifiState) (s : SessionState) : Prop where
  connectEventGroup : m.connectEventGroup = s.connectEventGroup
  wifiConnectedFlag : m.wifiConnectedFlag = s.wifiConnectedFlag
  gotIp : m.station.isSome = s.gotIpHandler
  staDisconnected : m.station.isSome = s.disconnectHandler

section View

variable {m : WifiState} {s : SessionState}

/-- The driver's events are seen alike. -/
theorem SessionView.handle
    (h : SessionView m s) :
    SessionView (onGotIp m) (s.handle .gotIp) ∧
      SessionView (onWifiDisconnect m) (s.handle .staDisconnected) := by
  have hgotIp := h.gotIp
  have hlost := h.staDisconnected
  cases hstation : m.station with
  | none =>
      rw [hstation] at hgotIp hlost
      have hm : onGotIp m = m ∧ onWifiDisconnect m = m := by
        unfold onGotIp onWifiDisconnect
        rw [hstation]
        exact ⟨rfl, rfl⟩
      have hs : s.handle .gotIp = s ∧ s.handle .staDisconnected = s :=
        ⟨if_neg (by simp [← hgotIp]), if_neg (by simp [← hlost])⟩
      rw [hm.1, hm.2, hs.1, hs.2]
      exact ⟨h, h⟩
  | some station =>
      rw [hstation] at hgotIp hlost
      have hm : onGotIp m =
            { m with
              connectEventGroup := m.connectEventGroup.map fun _ => true
              wifiConnectedFlag := true } ∧
          onWifiDisconnect m = { m with wifiConnectedFlag := false } := by
        unfold onGotIp onWifiDisconnect
        rw [hstation]
        exact ⟨rfl, rfl⟩
      have hs : s.handle .gotIp =
            { s with
              connectEventGroup := s.connectEventGroup.map fun _ => true
              wifiConnectedFlag := true } ∧
          s.handle .staDisconnected = { s with wifiConnectedFlag := false } :=
        ⟨if_pos hgotIp.symm, if_pos hlost.symm⟩
      rw [hm.1, hm.2, hs.1, hs.2]
      exact ⟨⟨congrArg (Option.map fun _ => true) h.connectEventGroup, rfl, h.gotIp,
          h.staDisconnected⟩,
        ⟨h.connectEventGroup, rfl, h.gotIp, h.staDisconnected⟩⟩

theorem SessionView.stop
    (hgroup : m.connectEventGroup = s.connectEventGroup) :
    SessionView (Wifi.stop m) s.stop := by
  unfold Wifi.stop SessionState.stop SessionState.destroyNetif
  dsimp only
  split
  · exact ⟨hgroup, rfl, rfl, rfl⟩
  · exact ⟨hgroup, rfl, rfl, rfl⟩

theorem SessionView.wifiDisconnect
    (h : SessionView m s) :
    SessionView (Wifi.wifiDisconnect m) s.wifiDisconnect.1 := by
  unfold Wifi.wifiDisconnect SessionState.wifiDisconnect
  cases hgroup : m.connectEventGroup with
  | none =>
      rw [if_pos (h.connectEventGroup.symm.trans hgroup)]
      exact h
  | some bit =>
      rw [if_neg (by rw [← h.connectEventGroup, hgroup]; simp)]
      have hstop := SessionView.stop
        (m := { m with connectEventGroup := none }) (s := { s with connectEventGroup := none }) rfl
      exact ⟨hstop.connectEventGroup, rfl, hstop.gotIp, hstop.staDisconnected⟩

/-- `start` succeeds when its result says so, and has its handlers registered
then and only then. -/
theorem start_startResult
    (h : Released s) (fails : StartCall → Bool) (ssid : List UInt8) :
    (s.start fails ssid).2 = decide (startResult fails = .started) ∧
      (s.start fails ssid).1.wifiConnectedFlag = false ∧
      (s.start fails ssid).1.gotIpHandler = (s.start fails ssid).2 ∧
      (s.start fails ssid).1.disconnectHandler = (s.start fails ssid).2 := by
  obtain ⟨-, -, -, hdisconnect, hgotIp, hflag⟩ := h
  -- The calls are made until the first that fails.
  unfold SessionState.start SessionState.configure startResult SessionState.stop
    SessionState.destroyNetif
  by_cases hinit : fails .wifiInit
  · simp [hinit, hdisconnect, hgotIp, hflag]
  by_cases hnew : fails .netifNew
  · simp [hinit, hnew, hdisconnect, hgotIp, hflag]
  by_cases hattach : fails .attachWifiStation
  · simp [hinit, hnew, hattach, hdisconnect, hgotIp, hflag]
  by_cases hdefault : fails .setDefaultHandlers
  · simp [hinit, hnew, hattach, hdefault, hdisconnect, hgotIp, hflag]
  by_cases hlost : fails .registerDisconnected
  · simp [hinit, hnew, hattach, hdefault, hlost]
  by_cases hip : fails .registerGotIp
  · simp [hinit, hnew, hattach, hdefault, hlost, hip]
  by_cases hstorage : fails .setStorage
  · simp [hinit, hnew, hattach, hdefault, hlost, hip, hstorage]
  by_cases hmode : fails .setMode
  · simp [hinit, hnew, hattach, hdefault, hlost, hip, hstorage, hmode]
  by_cases hconfig : fails .setConfig
  · simp [hinit, hnew, hattach, hdefault, hlost, hip, hstorage, hmode, hconfig]
  by_cases hstart : fails .wifiStart
  · simp [hinit, hnew, hattach, hdefault, hlost, hip, hstorage, hmode, hconfig, hstart]
  by_cases hconnect : fails .wifiConnect
  · simp [hinit, hnew, hattach, hdefault, hlost, hip, hstorage, hmode, hconfig, hstart, hconnect]
  · simp [hinit, hnew, hattach, hdefault, hlost, hip, hstorage, hmode, hconfig, hstart, hconnect,
      hflag]

/-- A call of `wifi_connect` waits in the manager's model when it does here, and
what it has done until then is seen alike. -/
theorem SessionView.wifiConnect
    (h : SessionView m s) (hinv : SessionInvariant s)
    (inp : SessionState.ConnectInput) (ssid passwd : List UInt8) :
    (Wifi.wifiConnect inp.groupCreated (startResult inp.fails) ssid passwd m).2 =
        (s.beginConnect inp ssid).2.isNone ∧
      SessionView (Wifi.wifiConnect inp.groupCreated (startResult inp.fails) ssid passwd m).1
        (s.beginConnect inp ssid).1 := by
  cases hgroup : m.connectEventGroup with
  | some bit =>
      have hopen : s.connectEventGroup ≠ none := by
        rw [← h.connectEventGroup, hgroup]
        simp
      unfold Wifi.wifiConnect SessionState.beginConnect
      rw [hgroup, if_pos hopen]
      exact ⟨rfl, h⟩
  | none =>
      have hclosed : s.connectEventGroup = none := h.connectEventGroup.symm.trans hgroup
      have hreleased := hinv.closed hclosed
      unfold Wifi.wifiConnect SessionState.beginConnect
      rw [hgroup, if_neg (not_not.mpr hclosed)]
      cases hcreated : inp.groupCreated with
      | false => exact ⟨rfl, h⟩
      | true =>
          have hreleased' : Released { s with connectEventGroup := some false } :=
            ⟨hreleased.driverInits, hreleased.netifs, hreleased.wifiEspNetif,
              hreleased.disconnectHandler, hreleased.gotIpHandler, hreleased.wifiConnectedFlag⟩
          have hstart := start_startResult hreleased' inp.fails ssid
          have hsame := (start_spec inp.fails ssid hreleased').1
          have hstation : m.station.isSome = false := h.gotIp.trans hreleased.gotIpHandler
          have hflag := h.wifiConnectedFlag.trans hreleased.wifiConnectedFlag
          dsimp only [Bool.true_eq_false, if_false]
          generalize SessionState.start inp.fails ssid { s with connectEventGroup := some false } =
            started at hstart hsame
          obtain ⟨s', ok⟩ := started
          obtain ⟨hok, hconnected, hgotIp, hlost⟩ := hstart
          cases hresult : startResult inp.fails with
          | unattached =>
              rw [hresult] at hok
              cases hok
              exact ⟨rfl, ⟨hgroup, hflag.trans hconnected.symm, hstation.trans hgotIp.symm,
                hstation.trans hlost.symm⟩⟩
          | stopped configGiven =>
              rw [hresult] at hok
              cases hok
              cases configGiven with
              | false => exact ⟨rfl, ⟨hgroup, hconnected.symm, hgotIp.symm, hlost.symm⟩⟩
              | true => exact ⟨rfl, ⟨rfl, hconnected.symm, hgotIp.symm, hlost.symm⟩⟩
          | started =>
              rw [hresult] at hok
              cases hok
              exact ⟨rfl, ⟨hsame.symm, hflag.trans hconnected.symm, hgotIp.symm, hlost.symm⟩⟩

/-- Whatever of it the manager sees, it goes on seeing: after the driver's events,
a disconnect, and a call of `wifi_connect`, which waits in the manager's model
when it does here. -/
structure SeenOn (s : SessionState) : Prop where
  handle : ∀ m, SessionView m s →
    SessionView (onGotIp m) (s.handle .gotIp) ∧
      SessionView (onWifiDisconnect m) (s.handle .staDisconnected)
  disconnect : ∀ m, SessionView m s → SessionView (Wifi.wifiDisconnect m) s.wifiDisconnect.1
  connect : ∀ m, SessionView m s →
    ∀ (inp : SessionState.ConnectInput) (ssid passwd : List UInt8),
      (Wifi.wifiConnect inp.groupCreated (startResult inp.fails) ssid passwd m).2 =
          (s.beginConnect inp ssid).2.isNone ∧
        SessionView (Wifi.wifiConnect inp.groupCreated (startResult inp.fails) ssid passwd m).1
          (s.beginConnect inp ssid).1

theorem SessionInvariant.seenOn
    (h : SessionInvariant s) :
    SeenOn s where
  handle := fun _ hview => hview.handle
  disconnect := fun _ hview => hview.wifiDisconnect
  connect := fun _ hview => hview.wifiConnect h

end View

/-! ## Runs -/

/-- The resources are balanced after every call of a run exactly when no call
fails between the driver and the handlers, and along such a run the manager sees
the sessions as they are. -/
theorem sessions_balanced_iff (es : List SessionEvent) :
    (Along sessionStep (fun e s => Balanced (sessionStep e s)) es .initial ↔
      Along sessionStep (fun e s => ¬ LeaksDriver e s) es .initial) ∧
      (Along sessionStep (fun e s => ¬ LeaksDriver e s) es .initial →
        Along sessionStep (fun _ s => SeenOn s) es .initial) := by
  constructor
  · refine along_congr_of_invariant ?_ ?_ es sessionInvariant_initial
    · intro e s hinv hbalanced
      obtain ⟨hiff, hkept⟩ := sessionStep_balanced_iff e hinv
      exact hkept (hiff.1 hbalanced)
    · intro e s hinv
      exact (sessionStep_balanced_iff e hinv).1
  · intro hclean
    exact hclean.of_invariant (fun e _ hstep hinv => (sessionStep_balanced_iff e hinv).2 hstep)
      (fun _ _ _ hinv => hinv.seenOn) sessionInvariant_initial

/-- No interface can be created, and the driver stays initialised. -/
theorem sessions_leak_driver :
    ¬ ∀ es : List SessionEvent,
      Along sessionStep (fun e s => Balanced (sessionStep e s)) es .initial := by
  intro h
  have hbalanced :=
    (h [.connect ⟨true, fun call => call == .netifNew, true, []⟩ [97]]).1.closed rfl
  revert hbalanced
  decide

end Wifi
end AvensysEsp32
