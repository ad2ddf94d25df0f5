import AvensysEsp32.Mqtt.Passes
import Mathlib.Data.Set.Basic

/-!
# Subscriptions

The app reaches the device by its hardware id and, if it has one, by its
serial.  The serial in the mirror may change at any time.  A change is acted
upon by whoever asks for it first: `mqtt_update_active_serial_from_eeprom` says
that the serial has changed only once, and some of its callers do not listen.
-/

namespace AvensysEsp32
namespace Mqtt

open Foundation UnitComm

/-! ## Topics -/

/-- The topics of an identity, as a set. -/
def appTopicSet (identity : List UInt8) : Set (List UInt8) :=
  {topic | topic ∈ appTopics identity}

/-- The topics of a hardware id and of a serial that may be empty. -/
def channels (hwId serial : List UInt8) : Set (List UInt8) :=
  appTopicSet hwId ∪ (if serial = [] then ∅ else appTopicSet serial)

/-- An identity of this length is not shortened in a topic. -/
theorem mqttBuildTopic_of_fits
    {identity suffix : List UInt8}
    (hfits : identity.length ≤ eepromSerialMaxLen) (hsuffix : suffix.length ≤ 11) :
    mqttBuildTopic 64 identity suffix = 47 :: identity ++ 47 :: suffix := by
  unfold mqttBuildTopic
  refine List.take_of_length_le ?_
  simp only [eepromSerialMaxLen] at hfits
  simp only [List.cons_append, List.length_cons, List.length_append]
  omega

/-- A topic tells whose it is. -/
theorem eq_of_mem_appTopics
    {a b topic : List UInt8}
    (ha : a.length ≤ eepromSerialMaxLen) (hb : b.length ≤ eepromSerialMaxLen)
    (hmem : topic ∈ appTopics a) (hmem' : topic ∈ appTopics b) :
    a = b := by
  have hsuffixes : ∀ x : List UInt8, x ++ 47 :: appEeprom ≠ b ++ 47 :: appRequest ∧
      x ++ 47 :: appRequest ≠ b ++ 47 :: appEeprom := by
    intro x
    refine ⟨fun h => ?_, fun h => ?_⟩
    · have hlast := congrArg List.getLast? h
      simp [appEeprom, appRequest] at hlast
    · have hlast := congrArg List.getLast? h
      simp [appEeprom, appRequest] at hlast
  unfold appTopics at hmem hmem'
  rw [mqttBuildTopic_of_fits ha (by decide), mqttBuildTopic_of_fits ha (by decide)] at hmem
  rw [mqttBuildTopic_of_fits hb (by decide), mqttBuildTopic_of_fits hb (by decide)] at hmem'
  simp only [List.mem_cons, List.not_mem_nil, or_false] at hmem hmem'
  rcases hmem with rfl | rfl <;> rcases hmem' with h | h
  · simpa using h
  · exact absurd (by simpa using h) (hsuffixes a).1
  · exact absurd (by simpa using h) (hsuffixes a).2
  · simpa using h

/-- The topics of another identity are others. -/
theorem not_mem_appTopics
    {a b topic : List UInt8}
    (ha : a.length ≤ eepromSerialMaxLen) (hb : b.length ≤ eepromSerialMaxLen) (hne : a ≠ b)
    (hmem : topic ∈ appTopics a) :
    topic ∉ appTopics b :=
  fun hmem' => hne (eq_of_mem_appTopics ha hb hmem hmem')

/-- Two serials give the same channels: they are equal, or neither adds any to
those of the hardware id. -/
def SameChannels (hwId serial serial' : List UInt8) : Prop :=
  serial = serial' ∨ ((serial = [] ∨ serial = hwId) ∧ (serial' = [] ∨ serial' = hwId))

theorem channels_of_no_more
    {hwId serial : List UInt8} (h : serial = [] ∨ serial = hwId) :
    channels hwId serial = appTopicSet hwId := by
  unfold channels
  rcases h with rfl | rfl
  · rw [if_pos rfl, Set.union_empty]
  · split
    · exact Set.union_empty _
    · exact Set.union_self _

/-- A serial of its own shows in the channels. -/
theorem mem_channels_iff_of_own
    {hwId serial serial' : List UInt8}
    (hserial : serial.length ≤ eepromSerialMaxLen) (hhwId : hwId.length ≤ eepromSerialMaxLen)
    (hserial' : serial'.length ≤ eepromSerialMaxLen)
    (hempty : serial ≠ []) (hown : serial ≠ hwId) :
    mqttBuildTopic 64 serial appEeprom ∈ channels hwId serial' ↔ serial' = serial := by
  have hmem : mqttBuildTopic 64 serial appEeprom ∈ appTopics serial := List.mem_cons_self
  constructor
  · rintro (hhw | hother)
    · exact absurd (eq_of_mem_appTopics hserial hhwId hmem hhw) hown
    · split at hother
      · exact absurd hother (Set.notMem_empty _)
      · exact (eq_of_mem_appTopics hserial hserial' hmem hother).symm
  · rintro rfl
    refine Or.inr ?_
    rw [if_neg hempty]
    exact hmem

theorem channels_eq_iff
    {hwId serial serial' : List UInt8}
    (hhwId : hwId.length ≤ eepromSerialMaxLen) (hserial : serial.length ≤ eepromSerialMaxLen)
    (hserial' : serial'.length ≤ eepromSerialMaxLen) :
    channels hwId serial = channels hwId serial' ↔ SameChannels hwId serial serial' := by
  constructor
  · intro heq
    by_cases hnone : serial = [] ∨ serial = hwId
    · by_cases hnone' : serial' = [] ∨ serial' = hwId
      · exact Or.inr ⟨hnone, hnone'⟩
      · obtain ⟨hempty, hown⟩ := not_or.1 hnone'
        have hself := (mem_channels_iff_of_own hserial' hhwId hserial' hempty hown).2 rfl
        rw [← heq] at hself
        exact Or.inl ((mem_channels_iff_of_own hserial' hhwId hserial hempty hown).1 hself)
    · obtain ⟨hempty, hown⟩ := not_or.1 hnone
      have hself := (mem_channels_iff_of_own hserial hhwId hserial hempty hown).2 rfl
      rw [heq] at hself
      exact Or.inl ((mem_channels_iff_of_own hserial hhwId hserial' hempty hown).1 hself).symm
  · rintro (rfl | ⟨hnone, hnone'⟩)
    · rfl
    · rw [channels_of_no_more hnone, channels_of_no_more hnone']

/-! ## What the client is subscribed to -/

/-- The topics the client is subscribed to; none, if there is no client. -/
def subscribedTo (s : MqttState) : Set (List UInt8) :=
  {topic | ∃ client, s.client = some client ∧ topic ∈ client.subscriptions}

theorem subscribedTo_eq
    {s : MqttState} {client : MqttClient} (h : s.client = some client) :
    subscribedTo s = {topic | topic ∈ client.subscriptions} := by
  ext topic
  constructor
  · rintro ⟨client', hclient', hmem⟩
    rw [h, Option.some.injEq] at hclient'
    rw [hclient']
    exact hmem
  · intro hmem
    exact ⟨client, h, hmem⟩

theorem subscribedTo_subscribe
    {identity : List UInt8} {s : MqttState}
    (hidentity : identity ≠ []) (hclient : s.client ≠ none) :
    subscribedTo (mqttSubscribeIdentityTopics identity s) =
      subscribedTo s ∪ appTopicSet identity := by
  obtain ⟨client, hsome⟩ := Option.ne_none_iff_exists'.1 hclient
  rw [subscribedTo_eq hsome, subscribedTo_eq (s := mqttSubscribeIdentityTopics identity s) (by
    unfold mqttSubscribeIdentityTopics
    dsimp only
    rw [if_neg hidentity, hsome, Option.map_some])]
  ext topic
  simp only [appTopics, appTopicSet, List.foldl_cons, List.foldl_nil, Set.mem_ofPred_eq,
    Set.mem_union, List.mem_insert_iff, List.mem_cons, List.not_mem_nil, or_false]
  tauto

theorem subscribedTo_unsubscribe
    {identity : List UInt8} {s : MqttState}
    (hidentity : identity ≠ []) (hclient : s.client ≠ none) :
    subscribedTo (mqttUnsubscribeIdentityTopics identity s) =
      subscribedTo s \ appTopicSet identity := by
  obtain ⟨client, hsome⟩ := Option.ne_none_iff_exists'.1 hclient
  rw [subscribedTo_eq hsome, subscribedTo_eq (s := mqttUnsubscribeIdentityTopics identity s) (by
    unfold mqttUnsubscribeIdentityTopics
    dsimp only
    rw [if_neg hidentity, hsome, Option.map_some])]
  ext topic
  simp only [appTopics, appTopicSet, List.foldl_cons, List.foldl_nil, Set.mem_ofPred_eq,
    Set.mem_sdiff, List.mem_filter, List.mem_cons, List.not_mem_nil, or_false, decide_eq_true_eq]
  tauto

/-! ## Refreshing -/

/-- Giving up the channel of a serial that is not the hardware id's. -/
theorem channels_diff
    {hwId serial : List UInt8}
    (hhwId : hwId.length ≤ eepromSerialMaxLen) (hserial : serial.length ≤ eepromSerialMaxLen)
    (hempty : serial ≠ []) (hown : serial ≠ hwId) :
    channels hwId serial \ appTopicSet serial = appTopicSet hwId := by
  unfold channels
  rw [if_neg hempty, Set.union_sdiff_right]
  refine Disjoint.sdiff_eq_left (Set.disjoint_left.2 ?_)
  intro topic hmem hmem'
  exact not_mem_appTopics hserial hhwId hown hmem' hmem

theorem channels_nil (hwId : List UInt8) :
    channels hwId [] = appTopicSet hwId :=
  channels_of_no_more (Or.inl rfl)

theorem channels_of_ne_nil
    {hwId serial : List UInt8} (h : serial ≠ []) :
    channels hwId serial = appTopicSet hwId ∪ appTopicSet serial := by
  unfold channels
  rw [if_neg h]

/-- What the channels of a client must meet before they are refreshed. -/
structure Refreshable (s : MqttState) : Prop where
  client : s.client ≠ none
  hwIdFits : s.deviceHwId.length ≤ eepromSerialMaxLen
  lastFits : s.lastSerialSubscribed.length ≤ eepromSerialMaxLen
  /-- A serial that is the hardware id is not given up. -/
  keeps : s.lastSerialSubscribed = s.deviceHwId → s.activeSerial = s.deviceHwId
  subscribed : subscribedTo s = channels s.deviceHwId s.lastSerialSubscribed

/-- Once the old serial is given up, the hardware id's channel remains. -/
theorem Refreshable.givenUp
    {s : MqttState} (h : Refreshable s) (hchanged : s.activeSerial ≠ s.lastSerialSubscribed) :
    subscribedTo (if s.lastSerialSubscribed ≠ [] then
      mqttUnsubscribeIdentityTopics s.lastSerialSubscribed s else s) =
        appTopicSet s.deviceHwId := by
  split
  · rename_i hnonempty
    have hown : s.lastSerialSubscribed ≠ s.deviceHwId := by
      intro hsame
      exact hchanged ((h.keeps hsame).trans hsame.symm)
    rw [subscribedTo_unsubscribe hnonempty h.client, h.subscribed,
      channels_diff h.hwIdFits h.lastFits hnonempty hown]
  · rename_i hempty
    rw [h.subscribed, not_not.1 hempty, channels_nil]

theorem givenUp_client
    {s : MqttState} (h : s.client ≠ none) :
    ∃ client,
      (if s.lastSerialSubscribed ≠ [] then
        mqttUnsubscribeIdentityTopics s.lastSerialSubscribed s else s) =
          { s with client := client } ∧ client ≠ none := by
  split
  · refine ⟨_, rfl, ?_⟩
    intro hnone
    have hmap := acknowledged_unsubscribeIdentityTopics s.lastSerialSubscribed s
    rw [show (mqttUnsubscribeIdentityTopics s.lastSerialSubscribed s).client = none from hnone]
      at hmap
    exact h (Option.map_eq_none_iff.1 hmap.symm)
  · exact ⟨s.client, rfl, h⟩

/-- A refresh of the serial's channel leaves the client with the channels of
the present identities. -/
theorem Refreshable.refreshSerialChannel
    {s : MqttState} (h : Refreshable s) :
    subscribedTo (Mqtt.refreshSerialChannel false s) = channels s.deviceHwId s.activeSerial := by
  unfold Mqtt.refreshSerialChannel
  dsimp only
  split
  · rename_i hnone
    rw [hnone, channels_nil]
    split
    · rename_i hnonempty
      have hgivenUp := h.givenUp (by rw [hnone]; exact Ne.symm hnonempty)
      rw [if_pos hnonempty] at hgivenUp
      exact hgivenUp
    · rename_i hempty
      rw [h.subscribed, not_not.1 hempty, channels_nil]
  · rename_i hserial
    split
    · rename_i hchanged
      have hne : s.activeSerial ≠ s.lastSerialSubscribed := by simpa using hchanged
      have hgivenUp := h.givenUp hne
      obtain ⟨client, heq, hclient⟩ := givenUp_client h.client
      rw [heq] at hgivenUp ⊢
      rw [channels_of_ne_nil hserial, ← hgivenUp]
      exact subscribedTo_subscribe hserial hclient
    · rename_i hsame
      have heq : s.activeSerial = s.lastSerialSubscribed := by simpa using hsame
      rw [heq]
      exact h.subscribed

/-- The same when no serial has been subscribed yet. -/
theorem refreshSerialChannel_fresh
    {s : MqttState} (force : Bool) (hclient : s.client ≠ none)
    (hlast : s.lastSerialSubscribed = [])
    (hsubscribed : subscribedTo s = appTopicSet s.deviceHwId) :
    subscribedTo (refreshSerialChannel force s) = channels s.deviceHwId s.activeSerial := by
  unfold refreshSerialChannel
  split
  · rename_i hnone
    rw [if_neg (not_not_intro hlast), hnone, channels_nil, hsubscribed]
  · rename_i hserial
    rw [if_pos (Or.inr (by rw [hlast]; exact hserial))]
    dsimp only
    rw [if_neg (not_not_intro hlast), channels_of_ne_nil hserial, ← hsubscribed]
    exact subscribedTo_subscribe hserial hclient

/-- After a refresh the serial subscribed last is the active one. -/
theorem refreshSerialChannel_last (force : Bool) (s : MqttState) :
    (refreshSerialChannel force s).lastSerialSubscribed = s.activeSerial := by
  unfold refreshSerialChannel
  split
  · rename_i hnone
    rw [hnone]
    split
    · rfl
    · rename_i hempty
      exact not_not.1 hempty
  · split
    · obtain hcase | hcase : s.lastSerialSubscribed ≠ [] ∨ ¬ s.lastSerialSubscribed ≠ [] :=
        em _
      · dsimp only
        rw [if_pos hcase]
        rfl
      · dsimp only
        rw [if_neg hcase]
    · rename_i hsame
      exact (not_not.1 (not_or.1 hsame).2).symm

/-! ## The invariant -/

theorem length_serialIn_le (gRDEeprom : Memory) :
    (serialIn gRDEeprom).length ≤ eepromSerialMaxLen := by
  unfold serialIn
  dsimp only
  split
  · have htrimmed := List.rdropWhile_prefix isspace
      (l := (readBytes gRDEeprom serialStringOffset eepromSerialMaxLen).takeWhile fun c =>
        c ≠ 0 && isprint c)
    refine (Nat.le_trans htrimmed.length_le (List.takeWhile_prefix _).length_le).trans ?_
    rw [length_readBytes]
  · exact Nat.zero_le _

theorem length_hwIdOf_le (mac : Option (Vector UInt8 6)) :
    (hwIdOf mac).length ≤ eepromSerialMaxLen := by
  cases mac with
  | none => decide
  | some mac =>
      have hlength : mac.toList.length = 6 := Vector.length_toList
      simp [hwIdOf, List.length_flatMap, hlength]

theorem hwIdOf_ne_nil (mac : Option (Vector UInt8 6)) :
    hwIdOf mac ≠ [] := by
  cases mac with
  | none => decide
  | some mac =>
      intro hnil
      have hlength : mac.toList.length = 6 := Vector.length_toList
      have hzero := congrArg List.length hnil
      simp [hwIdOf, List.length_flatMap, hlength] at hzero

/-- A connected client has the channels of the hardware id and of the serial it
was subscribed to last. -/
structure InChannels (s : MqttState) : Prop where
  hwIdFits : s.deviceHwId.length ≤ eepromSerialMaxLen
  serialFits : s.activeSerial.length ≤ eepromSerialMaxLen
  lastFits : s.lastSerialSubscribed.length ≤ eepromSerialMaxLen
  subscribed : s.mqttConnected = true → s.client ≠ none →
    s.deviceHwId ≠ [] ∧ s.hwIdSubscribed = true ∧
      subscribedTo s = channels s.deviceHwId s.lastSerialSubscribed

theorem SameConnection.subscribedTo
    {s s' : MqttState} (h : SameConnection s s') :
    subscribedTo s' = subscribedTo s := by
  unfold Mqtt.subscribedTo
  rw [h.client]

theorem SameConnection.inChannels
    {s s' : MqttState} (hsame : SameConnection s s') (h : InChannels s) :
    InChannels s' where
  hwIdFits := by
    rw [hsame.deviceHwId]
    exact h.hwIdFits
  serialFits := by
    rw [hsame.activeSerial]
    exact h.serialFits
  lastFits := by
    rw [hsame.lastSerialSubscribed]
    exact h.lastFits
  subscribed := by
    rw [hsame.mqttConnected, hsame.client, hsame.deviceHwId, hsame.hwIdSubscribed,
      hsame.subscribedTo, hsame.lastSerialSubscribed]
    exact h.subscribed

/-- What a state without a connected client must meet. -/
theorem inChannels_of_unconnected
    {s : MqttState} (hhwId : s.deviceHwId.length ≤ eepromSerialMaxLen)
    (hserial : s.activeSerial.length ≤ eepromSerialMaxLen)
    (hlast : s.lastSerialSubscribed.length ≤ eepromSerialMaxLen)
    (hconnected : s.mqttConnected = true → s.client = none) :
    InChannels s :=
  ⟨hhwId, hserial, hlast, fun h hclient => absurd (hconnected h) hclient⟩

theorem noticed_deviceHwId
    {s : MqttState} (h : s.deviceHwId ≠ []) :
    (noticed s).deviceHwId = s.deviceHwId :=
  if_neg h

theorem noticed_deviceHwId_ne_nil (s : MqttState) :
    (noticed s).deviceHwId ≠ [] := by
  show (if s.deviceHwId = [] then hwIdOf s.efuseMac else s.deviceHwId) ≠ []
  split
  · exact hwIdOf_ne_nil _
  · rename_i h
    exact h

theorem length_noticed_deviceHwId_le
    {s : MqttState} (h : s.deviceHwId.length ≤ eepromSerialMaxLen) :
    (noticed s).deviceHwId.length ≤ eepromSerialMaxLen := by
  show (if s.deviceHwId = [] then hwIdOf s.efuseMac else s.deviceHwId).length ≤ _
  split
  · exact length_hwIdOf_le _
  · exact h

theorem inChannels_noticed
    {s : MqttState} (h : InChannels s) :
    InChannels (noticed s) where
  hwIdFits := length_noticed_deviceHwId_le h.hwIdFits
  serialFits := length_serialIn_le _
  lastFits := h.lastFits
  subscribed := fun hconnected hclient => by
    obtain ⟨hhwId, hsubscribed, hchannels⟩ := h.subscribed hconnected hclient
    rw [noticed_deviceHwId hhwId]
    exact ⟨hhwId, hsubscribed, hchannels⟩

/-- A refresh keeps the channels, and those of the present identities are the
ones the client has then. -/
theorem inChannels_refresh
    {s : MqttState} (h : InChannels s)
    (hkeeps : s.client ≠ none → s.mqttConnected = true →
      s.lastSerialSubscribed = s.deviceHwId → serialIn s.gRDEeprom = s.deviceHwId) :
    InChannels (mqttRefreshAppSubscriptions false s) ∧
      (s.client ≠ none → (mqttRefreshAppSubscriptions false s).lastSerialSubscribed =
        (mqttRefreshAppSubscriptions false s).activeSerial) := by
  have hnoticed := inChannels_noticed h
  rw [mqttRefreshAppSubscriptions_eq]
  by_cases hclient : s.client = none
  · rw [if_pos hclient]
    exact ⟨hnoticed, fun hsome => absurd hclient hsome⟩
  · rw [if_neg hclient]
    by_cases hconnected : s.mqttConnected = true
    · obtain ⟨hhwId, hsubscribed, hchannels⟩ := hnoticed.subscribed hconnected hclient
      have hsameHwId := noticed_deviceHwId (h.subscribed hconnected hclient).1
      have hkept : refreshHwIdChannel false (noticed s) = noticed s := by
        unfold refreshHwIdChannel
        rw [if_neg (by simp [hsubscribed])]
      have hrefreshable : Refreshable (noticed s) :=
        { client := hclient
          hwIdFits := hnoticed.hwIdFits
          lastFits := hnoticed.lastFits
          keeps := by
            rw [hsameHwId]
            exact hkeeps hclient hconnected
          subscribed := hchannels }
      have hsubscribed' := hrefreshable.refreshSerialChannel
      have hlast := refreshSerialChannel_last false (noticed s)
      obtain ⟨client, last, heq, -⟩ := refreshSerialChannel_eq false (noticed s)
      rw [hkept]
      rw [heq] at hsubscribed' hlast ⊢
      refine ⟨⟨hnoticed.hwIdFits, hnoticed.serialFits, ?_, fun _ _ => ?_⟩, fun _ => hlast⟩
      · rw [hlast]
        exact hnoticed.serialFits
      · rw [hlast]
        exact ⟨hhwId, hsubscribed, hsubscribed'⟩
    · obtain ⟨client, subscribed, heq, -⟩ := refreshHwIdChannel_eq false (noticed s)
      rw [heq]
      obtain ⟨client', last, heq', -⟩ := refreshSerialChannel_eq false
        { noticed s with client := client, hwIdSubscribed := subscribed }
      have hlast := refreshSerialChannel_last false
        { noticed s with client := client, hwIdSubscribed := subscribed }
      rw [heq'] at hlast ⊢
      refine ⟨inChannels_of_unconnected hnoticed.hwIdFits hnoticed.serialFits ?_ ?_,
        fun _ => hlast⟩
      · rw [hlast]
        exact hnoticed.serialFits
      · exact fun hcontra => absurd hcontra hconnected

/-- A client that connects is subscribed to the channels of the present
identities. -/
theorem inChannels_forced
    {s : MqttState} (hhwIdFits : s.deviceHwId.length ≤ eepromSerialMaxLen)
    (hlast : s.lastSerialSubscribed = [])
    (hnone : subscribedTo s = ∅) :
    InChannels (mqttRefreshAppSubscriptions true s) := by
  have hfits := length_noticed_deviceHwId_le hhwIdFits
  have hserial : (noticed s).activeSerial.length ≤ eepromSerialMaxLen := length_serialIn_le _
  rw [mqttRefreshAppSubscriptions_eq]
  by_cases hclient : s.client = none
  · rw [if_pos hclient]
    refine inChannels_of_unconnected hfits hserial ?_ fun _ => hclient
    rw [show (noticed s).lastSerialSubscribed = [] from hlast]
    exact Nat.zero_le _
  · rw [if_neg hclient]
    have hempty : subscribedTo (noticed s) = ∅ := hnone
    have hhwId : subscribedTo (refreshHwIdChannel true (noticed s)) =
        appTopicSet (noticed s).deviceHwId := by
      unfold refreshHwIdChannel
      rw [if_pos (Or.inl rfl), ← Set.empty_union (appTopicSet (noticed s).deviceHwId), ← hempty]
      exact subscribedTo_subscribe (noticed_deviceHwId_ne_nil s) hclient
    have hsubscribed : (refreshHwIdChannel true (noticed s)).hwIdSubscribed = true := by
      unfold refreshHwIdChannel
      rw [if_pos (Or.inl rfl)]
    obtain ⟨client, subscribed, heq, hack⟩ := refreshHwIdChannel_eq true (noticed s)
    rw [heq] at hhwId hsubscribed ⊢
    have hclient' : client ≠ none := by
      rintro rfl
      exact hclient (Option.map_eq_none_iff.1 hack.symm)
    have hchannels := refreshSerialChannel_fresh
      (s := { noticed s with client := client, hwIdSubscribed := subscribed })
      true hclient' hlast hhwId
    obtain ⟨client', last, heq', -⟩ := refreshSerialChannel_eq true
      { noticed s with client := client, hwIdSubscribed := subscribed }
    have hlast' := refreshSerialChannel_last true
      { noticed s with client := client, hwIdSubscribed := subscribed }
    rw [heq'] at hchannels hlast' ⊢
    refine ⟨hfits, hserial, ?_, fun _ _ => ?_⟩
    · rw [hlast']
      exact hserial
    · rw [hlast']
      exact ⟨noticed_deviceHwId_ne_nil s, hsubscribed, hchannels⟩

/-! ## Steps -/

/-- The serial that a refresh in this event subscribes to, unless the client
has only now connected. -/
def refreshedSerial (e : MqttEvent) (s : MqttState) : Option (List UInt8) :=
  match e with
  | .pass _ =>
      if s.wifiConnectedFlag ∧ s.mqttStarted ∧ s.activeSerial ≠ serialIn s.gRDEeprom then
        some (serialIn s.gRDEeprom)
      else none
  | .client _ (.data topic payload) =>
      if isEepromTopic topic (noticed s) then
        match mqttApplyEepromPayload payload s.gRDEeprom with
        | none => none
        | some gRDEeprom =>
            if serialIn s.gRDEeprom ≠ serialIn gRDEeprom then some (serialIn gRDEeprom) else none
      else none
  | .subscribeAppTopics => some (serialIn s.gRDEeprom)
  | _ => none

/-- A connected client does not give up the topics of its hardware id as those
of a serial. -/
def KeepsHwIdChannel (e : MqttEvent) (s : MqttState) : Prop :=
  s.client ≠ none → s.mqttConnected = true → s.lastSerialSubscribed = s.deviceHwId →
    ∀ serial ∈ refreshedSerial e s, serial = s.deviceHwId

instance (e : MqttEvent) (s : MqttState) : Decidable (KeepsHwIdChannel e s) :=
  inferInstanceAs (Decidable (_ → _ → _ → ∀ serial ∈ refreshedSerial e s, serial = s.deviceHwId))

theorem startSelected_inChannels
    (inp : PassInput) {s : MqttState} (h : InChannels s) :
    InChannels (startSelected inp s).1 := by
  cases hvalid : mqttEndpointIsValid s.selectedEndpoint with
  | false =>
      rw [startSelected_invalid inp hvalid]
      exact ⟨h.hwIdFits, h.serialFits, h.lastFits, h.subscribed⟩
  | true =>
      rw [startSelected_valid inp hvalid]
      split
      · exact inChannels_of_unconnected h.hwIdFits h.serialFits h.lastFits fun hcontra => by
          cases hcontra
      · exact inChannels_of_unconnected h.hwIdFits h.serialFits h.lastFits fun _ => rfl

/-- The serial in the mirror is a refresh's, in a pass that keeps the
connection. -/
theorem refreshedSerial_pass
    (inp : PassInput) {s : MqttState} (hwifi : s.wifiConnectedFlag = true)
    (hstarted : s.mqttStarted = true) (hchanged : s.activeSerial ≠ serialIn s.gRDEeprom) :
    serialIn s.gRDEeprom ∈ refreshedSerial (.pass inp) s := by
  unfold refreshedSerial
  dsimp only
  rw [if_pos ⟨hwifi, hstarted, hchanged⟩]
  rfl

theorem inChannels_keptUp
    (inp : PassInput) {s s₁ : MqttState} (h : InChannels s)
    (hkeeps : KeepsHwIdChannel (.pass inp) s) (hwifi : s.wifiConnectedFlag = true)
    (hstarted : s.mqttStarted = true) (hsame : SameConnection (noticed s) s₁) :
    InChannels (keptUp s s₁) ∧
      (s.client ≠ none → s.activeSerial ≠ serialIn s.gRDEeprom →
        (keptUp s s₁).lastSerialSubscribed = (keptUp s s₁).activeSerial) := by
  have h₁ := hsame.inChannels (inChannels_noticed h)
  unfold keptUp
  split
  · rename_i hchanged
    have hserial : ∀ serial, serialIn s.gRDEeprom = serial → serialIn s₁.gRDEeprom = serial := by
      intro serial hserial
      rw [hsame.gRDEeprom]
      exact hserial
    obtain ⟨hrefreshed, hlast⟩ := inChannels_refresh h₁ fun hclient hconnected hown => by
      rw [hsame.client] at hclient
      rw [hsame.mqttConnected] at hconnected
      have hhwId := (h.subscribed hconnected hclient).1
      rw [hsame.lastSerialSubscribed, hsame.deviceHwId, noticed_deviceHwId hhwId] at hown
      rw [hsame.deviceHwId, noticed_deviceHwId hhwId]
      exact hserial _ (hkeeps hclient hconnected hown _
        (refreshedSerial_pass inp hwifi hstarted hchanged))
    refine ⟨hrefreshed, fun hclient _ => hlast ?_⟩
    rw [hsame.client]
    exact hclient
  · rename_i hsameSerial
    exact ⟨h₁, fun _ hchanged => absurd hchanged hsameSerial⟩

theorem maintenance_inChannels
    (inp : PassInput) {s : MqttState} (h : InChannels s)
    (hkeeps : KeepsHwIdChannel (.pass inp) s) :
    InChannels (mqttConnectionMaintenance inp s).1 := by
  have hnoticed := inChannels_noticed h
  have hcase := mqttConnectionMaintenance_case inp s
  generalize mqttConnectionMaintenance inp s = result at hcase
  cases hcase with
  | idle hsame hidle => exact hsame.inChannels hnoticed
  | kept hwifi hstarted hkept hsame₁ hsame hkeeps' =>
      exact hsame.inChannels (inChannels_keptUp inp h hkeeps hwifi hstarted hsame₁).1
  | restarted hsame₁ hsame hrestarts hvalid =>
      unfold restartsPeriodically at hrestarts
      simp only [Bool.and_eq_true] at hrestarts
      exact startSelected_inChannels inp (hsame.inChannels
        (inChannels_keptUp inp h hkeeps hrestarts.1.1.1 hrestarts.1.1.2 hsame₁).1)
  | started hwifi hstopped hsame => exact startSelected_inChannels inp (hsame.inChannels hnoticed)
  | recreated hwifi hstarted hready hconnected hheld hsame =>
      exact startSelected_inChannels inp (hsame.inChannels hnoticed)
  | reconnected hwifi hstarted hready hconnected hheld hsame hclient =>
      have hsame' := hsame.inChannels hnoticed
      split
      · exact hsame'
      · exact ⟨hsame'.hwIdFits, hsame'.serialFits, hsame'.lastFits, hsame'.subscribed⟩

/-- A payload that is accepted is written to the mirror, and its serial is
acted upon if it is another one. -/
theorem writeEeprom_inChannels
    (tick : UInt32) (payload : List UInt8) {s : MqttState} (h : InChannels s)
    (hkeeps : s.client ≠ none → s.mqttConnected = true →
      s.lastSerialSubscribed = s.deviceHwId →
        ∀ gRDEeprom, mqttApplyEepromPayload payload s.gRDEeprom = some gRDEeprom →
          s.activeSerial ≠ serialIn gRDEeprom → serialIn gRDEeprom = s.deviceHwId) :
    InChannels (writeEeprom tick payload s) := by
  unfold writeEeprom
  cases happly : mqttApplyEepromPayload payload s.gRDEeprom with
  | none =>
      exact (sameConnection_publish true tick
        { s with lastError := .eepromWriteInvalid }).inChannels
        ⟨h.hwIdFits, h.serialFits, h.lastFits, h.subscribed⟩
  | some gRDEeprom =>
      have hserial : InChannels { s with
          gRDEeprom := gRDEeprom
          activeSerial := serialIn gRDEeprom } :=
        ⟨h.hwIdFits, length_serialIn_le _, h.lastFits, h.subscribed⟩
      dsimp only
      unfold refreshIfChanged
      rw [mqttUpdateActiveSerialFromEeprom_eq]
      dsimp only
      split
      · rename_i hchanged
        refine (inChannels_refresh ?_ fun hclient hconnected hown => ?_).1
        · exact ⟨hserial.hwIdFits, hserial.serialFits, hserial.lastFits, hserial.subscribed⟩
        · exact hkeeps hclient hconnected hown gRDEeprom happly (of_decide_eq_true hchanged)
      · exact ⟨hserial.hwIdFits, hserial.serialFits, hserial.lastFits, hserial.subscribed⟩

/-- The session of a client ends only when it connects anew. -/
theorem inChannels_after
    {event : ClientEvent} {s : MqttState} {client : MqttClient} (h : InChannels s)
    (hclient : s.client = some client) (hevent : event ≠ .connected) :
    InChannels { s with client := some (client.after event) } := by
  have hsubscriptions : (client.after event).subscriptions = client.subscriptions := by
    cases event with
    | connected => exact absurd rfl hevent
    | _ => rfl
  refine ⟨h.hwIdFits, h.serialFits, h.lastFits, fun hconnected _ => ?_⟩
  obtain ⟨hhwId, hsubscribed, hchannels⟩ := h.subscribed hconnected (by
    rw [hclient]
    exact Option.some_ne_none client)
  refine ⟨hhwId, hsubscribed, ?_⟩
  rw [subscribedTo_eq (s := { s with client := some (client.after event) }) rfl, hsubscriptions,
    ← subscribedTo_eq hclient]
  exact hchannels

theorem handler_inChannels
    (tick : UInt32) (event : ClientEvent) {s : MqttState} {client : MqttClient}
    (h : InChannels s) (hclient : s.client = some client)
    (hkeeps : KeepsHwIdChannel (.client tick event) s) :
    InChannels (mqttEventHandler tick event { s with client := some (client.after event) }) := by
  rw [mqttEventHandler_eq]
  cases event with
  | connected =>
      have hrefreshed := inChannels_forced
        (s := { noticed { s with client := some (client.after .connected) } with
          mqttConnected := true
          mqttConsecutiveFailures := 0
          mqttReconnectAttempts := 0
          nextMqttRetryTick := 0
          lastError := .none
          hwIdSubscribed := false
          lastSerialSubscribed := [] })
        (length_noticed_deviceHwId_le h.hwIdFits) rfl (by
          rw [subscribedTo_eq rfl]
          exact Set.eq_empty_iff_forall_notMem.2 fun topic hmem => by cases hmem)
      exact (sameConnection_publish true tick _).inChannels hrefreshed
  | disconnected =>
      have hafter := inChannels_noticed (inChannels_after h hclient
        (by simp : ClientEvent.disconnected ≠ .connected))
      exact inChannels_of_unconnected hafter.hwIdFits hafter.serialFits hafter.lastFits
        fun hcontra => by cases hcontra
  | error =>
      have hafter := inChannels_noticed (inChannels_after h hclient
        (by simp : ClientEvent.error ≠ .connected))
      exact inChannels_of_unconnected hafter.hwIdFits hafter.serialFits hafter.lastFits
        fun hcontra => by cases hcontra
  | subscribed =>
      have hafter := inChannels_noticed (inChannels_after h hclient
        (by simp : ClientEvent.subscribed ≠ .connected))
      dsimp only
      split
      · exact ⟨hafter.hwIdFits, hafter.serialFits, hafter.lastFits, hafter.subscribed⟩
      · exact ⟨hafter.hwIdFits, hafter.serialFits, hafter.lastFits, hafter.subscribed⟩
  | data topic payload =>
      have hafter := inChannels_noticed (inChannels_after h hclient
        (by simp : ClientEvent.data topic payload ≠ .connected))
      dsimp only
      split
      · rename_i htopic
        refine writeEeprom_inChannels tick payload hafter ?_
        intro _ hconnected hown gRDEeprom happly hchanged
        have hsome : s.client ≠ none := by
          rw [hclient]
          exact Option.some_ne_none client
        have hhwId : (noticed s).deviceHwId = s.deviceHwId :=
          noticed_deviceHwId (h.subscribed hconnected hsome).1
        refine (hkeeps hsome hconnected (hown.trans hhwId) _ ?_).trans hhwId.symm
        have htopic' : isEepromTopic topic (noticed s) := htopic
        have happly' : mqttApplyEepromPayload payload s.gRDEeprom = some gRDEeprom := happly
        have hchanged' : serialIn s.gRDEeprom ≠ serialIn gRDEeprom := hchanged
        simp only [refreshedSerial, if_pos htopic', happly', if_pos hchanged', Option.mem_def]
      · exact hafter
  | unsubscribed => exact inChannels_noticed (inChannels_after h hclient (by simp))
  | published => exact inChannels_noticed (inChannels_after h hclient (by simp))
  | other => exact inChannels_noticed (inChannels_after h hclient (by simp))

theorem mqttStep_inChannels
    (e : MqttEvent) {s : MqttState} (h : InChannels s) (hkeeps : KeepsHwIdChannel e s) :
    InChannels (mqttStep e s) := by
  cases e with
  | taskStarted reads =>
      unfold mqttStep
      rw [mqttUpdateActiveSerialFromEeprom_eq]
      exact (sameConnection_endpointInitOnce reads _).inChannels (inChannels_noticed h)
  | pass inp => exact maintenance_inChannels inp h hkeeps
  | client tick event =>
      cases hclient : s.client with
      | none => simpa only [mqttStep, hclient] using h
      | some client =>
          simpa only [mqttStep, hclient] using handler_inChannels tick event h hclient hkeeps
  | subscribeAppTopics =>
      exact (inChannels_refresh h fun hclient hconnected hown =>
        hkeeps hclient hconnected hown _ rfl).1
  | eeprom gRDEeprom => exact ⟨h.hwIdFits, h.serialFits, h.lastFits, h.subscribed⟩
  | wifi connected => exact ⟨h.hwIdFits, h.serialFits, h.lastFits, h.subscribed⟩

/-! ## Passes -/

/-- At the end of a pass a connected client is subscribed to the channels of
the hardware id and of the active serial, and to nothing else. -/
def FollowsIdentity (e : MqttEvent) (s : MqttState) : Prop :=
  match e with
  | .pass _ =>
      (mqttStep e s).mqttConnected = true → (mqttStep e s).client ≠ none →
        subscribedTo (mqttStep e s) =
          channels (mqttStep e s).deviceHwId (mqttStep e s).activeSerial
  | _ => True

/-- A pass over a connected client, Wi-Fi being up, is the first to ask for a
serial that has changed, or the serial in the mirror gives the channels the
client has. -/
def NoticesSerial (e : MqttEvent) (s : MqttState) : Prop :=
  match e with
  | .pass inp =>
      s.mqttConnected = true → s.client ≠ none → restartsPeriodically inp s = false →
        (s.wifiConnectedFlag = true ∧ s.activeSerial ≠ serialIn s.gRDEeprom) ∨
          SameChannels s.deviceHwId s.lastSerialSubscribed (serialIn s.gRDEeprom)
  | _ => True

instance (hwId serial serial' : List UInt8) : Decidable (SameChannels hwId serial serial') :=
  inferInstanceAs (Decidable (_ ∨ _))

instance (e : MqttEvent) (s : MqttState) : Decidable (NoticesSerial e s) :=
  match e with
  | .pass _ => inferInstanceAs (Decidable (_ → _ → _ → _))
  | .taskStarted _ | .client _ _ | .subscribeAppTopics | .eeprom _ | .wifi _ => isTrue trivial

/-- What is left of a pass that does not refresh. -/
theorem unrefreshed_follows_iff
    {s s' : MqttState} (h : InChannels s) (hconnected : s.mqttConnected = true)
    (hclient : s.client ≠ none) (hsame : SameConnection (noticed s) s') :
    subscribedTo s' = channels s'.deviceHwId s'.activeSerial ↔
      SameChannels s.deviceHwId s.lastSerialSubscribed (serialIn s.gRDEeprom) := by
  obtain ⟨hhwId, -, hchannels⟩ := h.subscribed hconnected hclient
  rw [hsame.subscribedTo, show subscribedTo (noticed s) = subscribedTo s from rfl, hchannels,
    hsame.deviceHwId, noticed_deviceHwId hhwId, hsame.activeSerial]
  exact channels_eq_iff h.hwIdFits h.lastFits (length_serialIn_le _)

/-- A start leaves no connected client. -/
theorem startSelected_unconnected
    (inp : PassInput) {s : MqttState}
    (h : mqttEndpointIsValid s.selectedEndpoint = true ∨
      (s.mqttConnected = true → s.client = none))
    (hconnected : (startSelected inp s).1.mqttConnected = true) :
    (startSelected inp s).1.client = none := by
  cases hvalid : mqttEndpointIsValid s.selectedEndpoint with
  | false =>
      rw [startSelected_invalid inp hvalid] at hconnected ⊢
      rcases h with h | h
      · rw [hvalid] at h
        cases h
      · exact h hconnected
  | true =>
      rw [startSelected_valid inp hvalid] at hconnected ⊢
      split
      · rename_i hstart
        rw [if_pos hstart] at hconnected
        cases hconnected
      · rfl

/-- A pass connects no client. -/
theorem maintenance_unconnected
    (inp : PassInput) {s : MqttState} (h : s.mqttConnected = true → s.client = none)
    (hconnected : (mqttConnectionMaintenance inp s).1.mqttConnected = true) :
    (mqttConnectionMaintenance inp s).1.client = none := by
  have hsession : ∀ s', SameSession s s' → s'.mqttConnected = true → s'.client = none := by
    intro s' hsame hconnected'
    rw [hsame.mqttConnected] at hconnected'
    exact hsame.client_eq_none.2 (h hconnected')
  have hcase := mqttConnectionMaintenance_case inp s
  generalize mqttConnectionMaintenance inp s = result at hcase hconnected
  cases hcase with
  | idle hsame hidle => exact hsession _ hsame.sameSession hconnected
  | kept hwifi hrunning hkept hsame₁ hsame hkeeps =>
      exact hsession _ (sameSession_keptUp hsame₁ hsame) hconnected
  | restarted hsame₁ hsame hrestarts hvalid =>
      exact startSelected_unconnected inp (Or.inl hvalid) hconnected
  | started hwifi hstopped hsame =>
      exact startSelected_unconnected inp
        (Or.inr (hsession _ hsame.sameSession)) hconnected
  | recreated hwifi hrunning hready hlost hheld hsame =>
      exact startSelected_unconnected inp
        (Or.inr (hsession _ hsame.sameSession)) hconnected
  | reconnected hwifi hrunning hready hlost hheld hsame hclient =>
      have hconnected' : s.mqttConnected = true := by
        rw [← hsame.sameSession.mqttConnected]
        split at hconnected
        · exact hconnected
        · exact hconnected
      rw [hlost] at hconnected'
      cases hconnected'

/-- A pass leaves a connected client with the channels of the present
identities exactly if it notices the serial. -/
theorem maintenance_follows_iff
    (inp : PassInput) {s : MqttState} (h : InChannels s) (hstarted : ClientStarted s)
    (hkeeps : KeepsHwIdChannel (.pass inp) s) :
    FollowsIdentity (.pass inp) s ↔ NoticesSerial (.pass inp) s := by
  unfold FollowsIdentity NoticesSerial mqttStep
  dsimp only
  have hunconnected := maintenance_unconnected inp (s := s)
  have hcase := mqttConnectionMaintenance_case inp s
  generalize mqttConnectionMaintenance inp s = result at hcase hunconnected
  -- Without a connected client both sides hold.
  by_cases hlive : s.mqttConnected = true ∧ s.client ≠ none
  · obtain ⟨hconnected, hclient⟩ := hlive
    cases hcase with
    | idle hsame hidle =>
        have hwifi : s.wifiConnectedFlag = false := by
          rcases hidle with hwifi | ⟨-, -, hlost, -⟩
          · exact hwifi
          · rw [hconnected] at hlost
            cases hlost
        rw [unrefreshed_follows_iff h hconnected hclient hsame, hsame.mqttConnected, hsame.client,
          hwifi]
        constructor
        · exact fun hfollows _ _ _ => Or.inr (hfollows hconnected hclient)
        · rintro hnotices - -
          rcases hnotices hconnected hclient (restartsPeriodically_of_wifi_down inp hwifi) with
            ⟨hup, -⟩ | hchannels
          · cases hup
          · exact hchannels
    | @kept s₁ s' hwifi hrunning hkept hsame₁ hsame hkeeps' =>
        obtain ⟨hin, hlast⟩ := inChannels_keptUp inp h hkeeps hwifi hrunning hsame₁
        by_cases hchanged : s.activeSerial = serialIn s.gRDEeprom
        · have hunrefreshed : SameConnection (noticed s) s' := by
            refine hsame₁.trans ?_
            rw [keptUp, if_neg (not_not_intro hchanged)] at hsame
            exact hsame
          rw [unrefreshed_follows_iff h hconnected hclient hunrefreshed,
            hunrefreshed.mqttConnected, hunrefreshed.client]
          constructor
          · exact fun hfollows _ _ _ => Or.inr (hfollows hconnected hclient)
          · rintro hnotices - -
            rcases hnotices hconnected hclient hkeeps' with ⟨-, hne⟩ | hchannels
            · exact absurd hchanged hne
            · exact hchannels
        · refine iff_of_true (fun hconnected' hclient' => ?_) fun _ _ _ => Or.inl ⟨hwifi, hchanged⟩
          have hin' := hsame.inChannels hin
          rw [(hin'.subscribed hconnected' hclient').2.2, hsame.lastSerialSubscribed,
            hlast hclient hchanged, hsame.activeSerial]
    | restarted hsame₁ hsame hrestarts hvalid =>
        refine iff_of_true (fun hconnected' hclient' => ?_) fun _ _ hkeeps' => ?_
        · exact absurd (startSelected_unconnected inp (Or.inl hvalid) hconnected') hclient'
        · rw [hrestarts] at hkeeps'
          cases hkeeps'
    | started hwifi hstopped hsame =>
        rw [hstarted hclient] at hstopped
        cases hstopped
    | recreated hwifi hrunning hready hlost hheld hsame =>
        rw [hconnected] at hlost
        cases hlost
    | reconnected hwifi hrunning hready hlost hheld hsame hclient' =>
        rw [hconnected] at hlost
        cases hlost
  · have hnone : s.mqttConnected = true → s.client = none :=
      fun hconnected => by_contra fun hclient => hlive ⟨hconnected, hclient⟩
    refine iff_of_true (fun hconnected hclient => ?_) fun hconnected hclient => ?_
    · exact absurd (hunconnected hnone hconnected) hclient
    · exact absurd (hnone hconnected) hclient

/-- In every run from the start of the program in which the hardware id's
channel is not given up as a serial's, the subscriptions follow the identity at
the end of every pass exactly when every pass notices the serial. -/
theorem subscriptions_follow_iff
    (efuseMac : Option (Vector UInt8 6)) (nvs : EndpointNvs) (es : List MqttEvent)
    (hkeeps : Along mqttStep KeepsHwIdChannel es (MqttState.initial efuseMac nvs)) :
    Along mqttStep FollowsIdentity es (MqttState.initial efuseMac nvs) ↔
      Along mqttStep NoticesSerial es (MqttState.initial efuseMac nvs) := by
  have hinitial : ClientStarted (MqttState.initial efuseMac nvs) ∧
      InChannels (MqttState.initial efuseMac nvs) :=
    ⟨fun hclient => absurd rfl hclient,
      inChannels_of_unconnected (Nat.zero_le _) (Nat.zero_le _) (Nat.zero_le _) fun _ => rfl⟩
  have hstep : ∀ e s, KeepsHwIdChannel e s → ClientStarted s ∧ InChannels s →
      ClientStarted (mqttStep e s) ∧ InChannels (mqttStep e s) :=
    fun e s hkeeps h => ⟨mqttStep_clientStarted e h.1, mqttStep_inChannels e h.2 hkeeps⟩
  have hiff : ∀ e s, KeepsHwIdChannel e s → ClientStarted s ∧ InChannels s →
      (FollowsIdentity e s ↔ NoticesSerial e s) := by
    rintro e s hkeeps ⟨hstarted, h⟩
    cases e with
    | pass inp => exact maintenance_follows_iff inp h hstarted hkeeps
    | _ => exact Iff.rfl
  constructor
  · exact fun hfollows => (hkeeps.and hfollows).of_invariant
      (fun e s ha => hstep e s ha.1) (fun e s ha h => (hiff e s ha.1 h).1 ha.2) hinitial
  · exact fun hnotices => (hkeeps.and hnotices).of_invariant
      (fun e s ha => hstep e s ha.1) (fun e s ha h => (hiff e s ha.1 h).2 ha.2) hinitial

/-- A mirror with the serial `"AB1"` -/
def serialImage : Memory :=
  ofBytes (List.replicate 11 0 ++ [65, 66, 49])

/-- A client is connected, and then the mirror gets a serial. -/
def serialRun : List MqttEvent :=
  [.wifi true, passAt 1000 none, .client 1500 .connected, .eeprom serialImage]

/-- The pass is the first to ask for the new serial. -/
theorem newSerial_followed :
    Along mqttStep FollowsIdentity (serialRun ++ [passAt 2000 none])
      (MqttState.initial none .empty) :=
  (subscriptions_follow_iff none .empty (serialRun ++ [passAt 2000 none])
    (by decide +kernel)).2 (by decide +kernel)

/-- The handler of an acknowledged publication has asked for the new serial
before, and has not acted upon it. -/
theorem newSerial_not_followed :
    ¬ Along mqttStep FollowsIdentity
        (serialRun ++ [.client 1600 .published, passAt 2000 none])
        (MqttState.initial none .empty) := by
  rw [along_append]
  rintro ⟨-, -, hlast, -⟩
  have hchannels := hlast (by decide +kernel) (by decide +kernel)
  have hserial : (mqttStep (passAt 2000 none) (mqttStep (.client 1600 .published)
      (run mqttStep serialRun (MqttState.initial none .empty)))).activeSerial =
        [65, 66, 49] := by
    decide +kernel
  have htopic : mqttBuildTopic 64 [65, 66, 49] appEeprom ∈ subscribedTo
      (mqttStep (passAt 2000 none) (mqttStep (.client 1600 .published)
        (run mqttStep serialRun (MqttState.initial none .empty)))) := by
    rw [hchannels, hserial]
    exact Or.inr List.mem_cons_self
  obtain ⟨client, hclient, hmem⟩ := htopic
  revert client
  decide +kernel

end Mqtt
end AvensysEsp32
