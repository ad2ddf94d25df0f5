import AvensysEsp32.UnitComm.LoadedImage
import AvensysEsp32.UnitComm.Telemetry

/-!
# Where the measures come from

The measures that the clients are told come from the unit: over every run of the
gateway beside the board, what is published and set is the payload of the
board's polling and debug replies, in the order in which the board gave them.
Replies may be lost on the way, and one that arrives while another is put aside
in the receiver may be told in its place and once more in its own; but nothing
is told that the board has not said.
-/

namespace AvensysEsp32
namespace UnitComm

open Foundation Serial

/-! ## What is said and what is told -/

/-- The reply that an event makes the board send. -/
def answeredBy (e : SystemEvent) (sys : System) : List (List UInt8) :=
  match e with
  | .answer a =>
      match sys.requests with
      | [] => []
      | request :: _ => (boardAnswer sys.board a request).toList.map Prod.snd
  | _ => []

/-- The replies that an event makes the gateway pass on. -/
def relayedFrom (e : SystemEvent) (sys : System) : List Relay :=
  match e with
  | .gateway e => relayedBy e sys.gateway
  | _ => []

/-- However much of the message is seen, it is no telemetry. -/
def Illegible (w : List UInt8) : Prop :=
  ∀ n ≤ uart1RxCacheSize, ¬ Telling (beginning w n)

/-- Nothing but the board's replies arrives.  They contain neither of the two
texts, and one that is corrupted is seen to be. -/
def HonestLine (e : SystemEvent) (sys : System) : Prop :=
  match e with
  | .gateway (.uartData _) => False
  | .answer a => ∀ w ∈ answeredBy (.answer a) sys,
      strstr w bootloaderText = false ∧ strstr w ackText = false
  | .corrupt bytes => sys.replies ≠ [] → Illegible bytes
  | _ => True

instance (w : List UInt8) : Decidable (Illegible w) :=
  inferInstanceAs (Decidable (∀ _ ≤ _, _))

instance decidableHonestLine (e : SystemEvent) (sys : System) : Decidable (HonestLine e sys) :=
  match e with
  | .gateway (.uartData _) => isFalse id
  | .answer _ => inferInstanceAs (Decidable (∀ _ ∈ _, _ ∧ _))
  | .corrupt _ => inferInstanceAs (Decidable (_ → _))
  | .gateway (.iterate _) | .gateway (.clientWrite _) | .gateway (.mqttReady _)
  | .gateway (.unitUpdateTask _) | .gateway (.firmwareStored _) | .change _ | .deliver =>
      isTrue trivial

/-! ## What is seen of a message -/

/-- What is seen of the message is the message, a frame, or no telemetry. -/
def Unforged (w : List UInt8) : Prop :=
  ∀ n ≤ uart1RxCacheSize, Telling (beginning w n) → beginning w n = w ∧ WellFormed w

section Messages

variable {w : List UInt8}

theorem telemetryOf_beginning
    {n : Nat} (h : telemetryOf (beginning w n) ≠ none) :
    telemetryOf w ≠ none := by
  unfold telemetryOf at h ⊢
  rw [ofBytes_beginning] at h
  split at h
  · exact h
  · exact absurd rfl h

/-- A frame without the two texts is seen whole, or not as telemetry. -/
theorem unforged_of_wellFormed
    (hframe : telemetryOf w ≠ none → WellFormed w)
    (hb : strstr w bootloaderText = false) (ha : strstr w ackText = false) :
    Unforged w := by
  intro n _ ⟨hgt, hkind⟩
  have hwf := hframe (telemetryOf_beginning hkind)
  rcases verdict_beginning hwf (textless_of_strstr w hb ha) n with hwhole | hneg
  · exact ⟨hwhole, hwf⟩
  · exact absurd hgt (not_lt.mpr (le_runDownload_of_neg hneg))

/-- The board's telemetry is in frames. -/
theorem wellFormed_of_boardAnswer
    {eeprom board : Memory} {a : Answer} {request : List UInt8}
    (h : boardAnswer eeprom a request = some (board, w)) (hkind : telemetryOf w ≠ none) :
    WellFormed w := by
  unfold boardAnswer at h
  dsimp only at h
  split at h
  · cases h
  split at h
  · cases h
    exact wellFormed_pollingBaseReply _ _
  split at h
  · cases h
    exact wellFormed_dataDebugReply _
  split at h
  · cases h
    refine absurd ?_ hkind
    unfold telemetryOf
    rw [readEepromReply_head _ (by decide)]
    rfl
  split at h
  · cases h
    exact absurd rfl hkind
  · cases h

end Messages

/-! ## One step -/

/-- What the gateway may still download is seen as the board sent it. -/
structure Unspoilt (sys : System) : Prop where
  settled : Settled sys.gateway.port
  waiting : ∀ w ∈ outstanding sys.gateway.port, Telling w → WellFormed w
  replies : ∀ w ∈ sys.replies, Unforged w

section Steps

variable {sys : System}

/-- The board puts its answer behind the replies on their way. -/
theorem systemStep_answer (a : Answer) (sys : System) :
    (systemStep (.answer a) sys).gateway = sys.gateway ∧
      (systemStep (.answer a) sys).replies =
        sys.replies ++ answeredBy (.answer a) sys := by
  cases hrequests : sys.requests with
  | nil => simp [systemStep, answeredBy, hrequests]
  | cons request requests =>
      cases hanswer : boardAnswer sys.board a request with
      | none => simp [systemStep, answeredBy, hrequests, hanswer]
      | some answer => simp [systemStep, answeredBy, hrequests, hanswer]

/-- What is passed on is the telemetry that the message names. -/
theorem telling_of_mem_relayedFrom
    {e : SystemEvent} (hsettled : Settled sys.gateway.port)
    {r : Relay} (hr : r ∈ relayedFrom e sys) :
    Telling r.frame ∧ telemetryOf r.frame = some r.telemetry := by
  unfold relayedFrom relayedBy at hr
  split at hr
  · split at hr
    · split at hr
      · unfold receivedTelemetry at hr
        split at hr
        · rename_i hgt
          unfold relaysOf at hr
          obtain ⟨telemetry, hkind, rfl⟩ := List.mem_map.mp hr
          rw [Option.mem_toList] at hkind
          rcases readMessage_outstanding hsettled with ⟨hle, -⟩ | ⟨w, hlen, hread, -⟩
          · exact absurd hgt (not_lt.mpr hle)
          · have hw := downloadedBytes_of_received hlen hread
            rw [hread] at hgt
            rw [hw] at hkind ⊢
            refine ⟨⟨hgt, ?_⟩, hkind⟩
            rw [hkind]
            exact Option.some_ne_none _
        · cases hr
      · cases hr
    · cases hr
  · cases hr

/-- Events at the gateway take the oldest message outstanding, or none; only
data on the line adds to them. -/
theorem takes_step
    {e : Event} {s : UnitState} (hline : ∀ data, e ≠ .uartData data) (hsettled : Settled s.port) :
    Settled (step e s).port ∧
      Takes (relayedBy e s) (outstanding s.port) (outstanding (step e s).port) := by
  cases e with
  | iterate inp => exact takes_iterate inp hsettled
  | uartData data => exact absurd rfl (hline data)
  | clientWrite w =>
      show Settled (clientWrite w s).port ∧ Takes [] _ (outstanding (clientWrite w s).port)
      rw [(sameButImage_clientWrite w s).port]
      exact ⟨hsettled, .nothing _⟩
  | mqttReady ready => exact ⟨hsettled, .nothing _⟩
  | unitUpdateTask running => exact ⟨hsettled, .nothing _⟩
  | firmwareStored content => exact ⟨hsettled, .nothing _⟩

/-- Data arrives in the place of the message `m`. -/
theorem relayed_arrival
    {p : SerialPort} {data m : List UInt8} {shown rest : List (List UInt8)}
    (hsettled : Settled p)
    (hseen : ∀ n ≤ uart1RxCacheSize, Telling (beginning data n) → beginning data n = m)
    (hshown : ∀ w ∈ shown, Telling w)
    (h : Relayed shown (outstanding (uartEventTask data p) ++ rest)) :
    Relayed shown (outstanding p ++ m :: rest) := by
  have hoptions : ∀ (c c' : Prop) [Decidable c] [Decidable c'] (w w' : List UInt8),
      (if c then [] else [w]) ++ (if c' then [] else [w']) =
        (if c then none else some w : Option (List UInt8)).toList ++
          (if c' then none else some w' : Option (List UInt8)).toList := by
    intro c c' _ _ w w'
    split <;> split <;> rfl
  have hfound : ∀ n ≤ uart1RxCacheSize, beginning data n = m ∨ beginning data n ∉ shown := by
    intro n hn
    by_cases htelling : Telling (beginning data n)
    · exact Or.inl (hseen n hn htelling)
    · exact Or.inr fun hmem => htelling (hshown _ hmem)
  rw [outstanding_arrival hsettled, hoptions, List.append_assoc] at h
  unfold outstanding
  rw [hoptions, List.append_assoc]
  refine h.arrive ?_ ?_ ?_
  · split <;> simp
  · intro b hb
    split at hb
    · cases hb
    · cases hb
      exact hfound _ hsettled.claimFits
  · intro b hb
    split at hb
    · cases hb
    · cases hb
      exact hfound _ (Nat.min_le_right _ _)

/-- What a step leaves for later can have been passed on of what was there
before it, together with what the step passes on. -/
theorem relayed_systemStep
    {e : SystemEvent} (h : Unspoilt sys) (hline : HonestLine e sys)
    {shown rest : List (List UInt8)} (hshown : ∀ w ∈ shown, Telling w)
    (hrelayed : Relayed shown (outstanding (systemStep e sys).gateway.port ++
      ((systemStep e sys).replies ++ rest))) :
    Relayed ((relayedFrom e sys).map Relay.frame ++ shown)
      (outstanding sys.gateway.port ++ (sys.replies ++ (answeredBy e sys ++ rest))) := by
  cases e with
  | gateway e =>
      have hquiet : ∀ data, e ≠ .uartData data := by
        rintro data rfl
        exact hline
      exact (takes_step hquiet h.settled).2.relayed hrelayed
  | answer a =>
      obtain ⟨hgateway, hreplies⟩ := systemStep_answer a sys
      rwa [hgateway, hreplies, List.append_assoc] at hrelayed
  | change eeprom => exact hrelayed
  | deliver =>
      cases hreplies : sys.replies with
      | nil => simpa [systemStep, hreplies, answeredBy, relayedFrom] using hrelayed
      | cons reply replies =>
          simp only [systemStep, hreplies] at hrelayed
          have hunforged := h.replies reply (by rw [hreplies]; exact List.mem_cons_self)
          exact relayed_arrival h.settled (fun n hn htelling => (hunforged n hn htelling).1)
            hshown hrelayed
  | corrupt data =>
      cases hreplies : sys.replies with
      | nil => simpa [systemStep, hreplies, answeredBy, relayedFrom] using hrelayed
      | cons reply replies =>
          simp only [systemStep, hreplies] at hrelayed
          have hillegible := hline (by rw [hreplies]; exact List.cons_ne_nil _ _)
          exact relayed_arrival h.settled
            (fun n hn htelling => absurd htelling (hillegible n hn)) hshown hrelayed

/-- Data that is seen as frames, if it is seen as telemetry, does no harm. -/
theorem unspoilt_arrival
    {data : List UInt8} {replies : List (List UInt8)} {board : Memory}
    {requests : List (List UInt8)} (h : Unspoilt sys) (hreplies : ∀ w ∈ replies, w ∈ sys.replies)
    (hseen : ∀ n ≤ uart1RxCacheSize, Telling (beginning data n) →
      WellFormed (beginning data n)) :
    Unspoilt ⟨step (.uartData data) sys.gateway, board, requests, replies⟩ where
  settled := h.settled.uartEventTask data
  waiting := by
    show ∀ w ∈ outstanding (uartEventTask data sys.gateway.port), Telling w → WellFormed w
    rw [outstanding_arrival h.settled]
    intro w hw htelling
    rcases List.mem_append.mp hw with hw | hw
    · split at hw
      · cases hw
      · rw [List.mem_singleton.mp hw] at htelling ⊢
        exact hseen _ h.settled.claimFits htelling
    · split at hw
      · cases hw
      · rw [List.mem_singleton.mp hw] at htelling ⊢
        exact hseen _ (Nat.min_le_right _ _) htelling
  replies := fun w hw => h.replies w (hreplies w hw)

theorem Unspoilt.step
    {e : SystemEvent} (h : Unspoilt sys) (hline : HonestLine e sys) :
    Unspoilt (systemStep e sys) := by
  cases e with
  | gateway e =>
      have hquiet : ∀ data, e ≠ .uartData data := by
        rintro data rfl
        exact hline
      obtain ⟨hsettled, htakes⟩ := takes_step hquiet h.settled
      exact ⟨hsettled, fun w hw => h.waiting w (htakes.subset hw), h.replies⟩
  | answer a =>
      obtain ⟨hgateway, hreplies⟩ := systemStep_answer a sys
      refine ⟨hgateway ▸ h.settled, hgateway ▸ h.waiting, fun w hw => ?_⟩
      rw [hreplies] at hw
      rcases List.mem_append.mp hw with hw | hw
      · exact h.replies w hw
      · obtain ⟨hb, ha⟩ := hline w hw
        refine unforged_of_wellFormed (fun hkind => ?_) hb ha
        unfold answeredBy at hw
        dsimp only at hw
        split at hw
        · cases hw
        · obtain ⟨answer, hanswer, rfl⟩ := List.mem_map.mp hw
          exact wellFormed_of_boardAnswer (Option.mem_toList.mp hanswer) hkind
  | change eeprom => exact ⟨h.settled, h.waiting, h.replies⟩
  | deliver =>
      cases hreplies : sys.replies with
      | nil =>
          simp only [systemStep, hreplies]
          exact h
      | cons reply replies =>
          simp only [systemStep, hreplies]
          refine unspoilt_arrival h (fun w hw => ?_) (fun n hn htelling => ?_)
          · rw [hreplies]
            exact List.mem_cons_of_mem reply hw
          · obtain ⟨hwhole, hwf⟩ :=
              h.replies reply (by rw [hreplies]; exact List.mem_cons_self) n hn htelling
            rw [hwhole]
            exact hwf
  | corrupt data =>
      cases hreplies : sys.replies with
      | nil =>
          simp only [systemStep, hreplies]
          exact h
      | cons reply replies =>
          simp only [systemStep, hreplies]
          have hillegible := hline (by rw [hreplies]; exact List.cons_ne_nil _ _)
          refine unspoilt_arrival h (fun w hw => ?_)
            (fun n hn htelling => absurd htelling (hillegible n hn))
          rw [hreplies]
          exact List.mem_cons_of_mem reply hw

/-- What carries measures is what the step passes on. -/
theorem measured_systemStep
    (h : Unspoilt sys) (e : SystemEvent) :
    measured (systemStep e sys).gateway.outputs =
      measured sys.gateway.outputs ++ (relayedFrom e sys).flatMap Relay.outputs := by
  cases e with
  | gateway e => exact measured_step e h.settled h.waiting
  | answer a =>
      rw [(systemStep_answer a sys).1]
      exact (List.append_nil _).symm
  | change eeprom => exact (List.append_nil _).symm
  | deliver =>
      cases hreplies : sys.replies <;>
        simp only [systemStep, hreplies] <;>
        exact (List.append_nil _).symm
  | corrupt data =>
      cases hreplies : sys.replies <;>
        simp only [systemStep, hreplies] <;>
        exact (List.append_nil _).symm

end Steps

/-! ## Runs -/

/-- From any state the clients are told what can still be downloaded, what is on
its way, and what the board says from then on. -/
theorem told_run
    {es : List SystemEvent} {sys : System} (h : Unspoilt sys)
    (hline : Along systemStep HonestLine es sys) :
    measured (run systemStep es sys).gateway.outputs =
        measured sys.gateway.outputs ++
          (images systemStep relayedFrom es sys).flatMap Relay.outputs ∧
      (∀ r ∈ images systemStep relayedFrom es sys,
        Telling r.frame ∧ telemetryOf r.frame = some r.telemetry) ∧
      Relayed ((images systemStep relayedFrom es sys).map Relay.frame)
        (outstanding sys.gateway.port ++ (sys.replies ++ images systemStep answeredBy es sys)) := by
  induction es generalizing sys with
  | nil =>
      refine ⟨(List.append_nil _).symm, fun r hr => ?_, relayed_nil _⟩
      cases hr
  | cons e es ih =>
      obtain ⟨hfirst, hrest⟩ := hline
      obtain ⟨hmeasured, htelling, hrelayed⟩ := ih (h.step hfirst) hrest
      refine ⟨?_, fun r hr => ?_, ?_⟩
      · rw [run_cons, hmeasured, measured_systemStep h e, List.append_assoc, ← List.flatMap_append]
        rfl
      · rcases List.mem_append.mp hr with hr | hr
        · exact telling_of_mem_relayedFrom h.settled hr
        · exact htelling r hr
      · have hshown : ∀ w ∈ (images systemStep relayedFrom es (systemStep e sys)).map Relay.frame,
            Telling w := by
          intro w hw
          obtain ⟨r, hr, rfl⟩ := List.mem_map.mp hw
          exact (htelling r hr).1
        have hstep := relayed_systemStep h hfirst hshown hrelayed
        rw [← List.map_append] at hstep
        exact hstep

theorem unspoilt_boot
    (device : DeviceIdentity) (firmwareBin : Option (List UInt8)) (unitPartitionState : Bool)
    (millis : UInt32) (eeprom : Memory) :
    Unspoilt (bootBeside device firmwareBin unitPartitionState millis eeprom) where
  settled := settled_boot
  waiting := fun _ hw => nomatch hw
  replies := fun _ hw => nomatch hw

/-- In every run from the start of the gateway beside the board, what the clients
are told of measures are the payloads of the replies that are passed on, each
under its own kind; and these are replies of the board, in its order, where one
may be told in the place of the one before it.  None is told that the board has
not given, and no more than it has given. -/
theorem telemetry_authentic
    (device : DeviceIdentity) (firmwareBin : Option (List UInt8)) (unitPartitionState : Bool)
    (millis : UInt32) (eeprom : Memory) (es : List SystemEvent)
    (hline : Along systemStep HonestLine es
      (bootBeside device firmwareBin unitPartitionState millis eeprom)) :
    let sys := bootBeside device firmwareBin unitPartitionState millis eeprom
    let relays := images systemStep relayedFrom es sys
    let answers := images systemStep answeredBy es sys
    measured (run systemStep es sys).gateway.outputs = relays.flatMap Relay.outputs ∧
      (∀ r ∈ relays, telemetryOf r.frame = some r.telemetry ∧ r.frame ∈ answers) ∧
      relays.length ≤ answers.length ∧
      Relayed (relays.map Relay.frame) answers := by
  intro sys relays answers
  have hunspoilt := unspoilt_boot device firmwareBin unitPartitionState millis eeprom
  obtain ⟨hmeasured, htelling, hrelayed⟩ := told_run hunspoilt hline
  have hlength := hrelayed.length_le
  rw [List.length_map] at hlength
  refine ⟨hmeasured, fun r hr => ⟨(htelling r hr).2, ?_⟩, hlength, hrelayed⟩
  exact hrelayed.subset (List.mem_map_of_mem hr)

/-- The handshake, and a polling request a second later that is answered. -/
def polledOnce : List SystemEvent :=
  promptHandshake ++ gatewayAt 1000 :: answeredAt 1000

/-- The clients are told of the polling reply, and of nothing else. -/
theorem polledOnce_authentic :
    (images systemStep relayedFrom polledOnce besideOnes).map Relay.telemetry = [.polling] ∧
      measured (run systemStep polledOnce besideOnes).gateway.outputs =
        (images systemStep relayedFrom polledOnce besideOnes).flatMap Relay.outputs := by
  have hline : Along systemStep HonestLine polledOnce besideOnes := by
    decide +kernel
  refine ⟨by decide +kernel, ?_⟩
  exact (telemetry_authentic .zeroMac none false 0 (fun _ => 1) polledOnce hline).1

end UnitComm
end AvensysEsp32
