import AvensysEsp32.Foundation.Response
import AvensysEsp32.Wifi.Manager

/-!
# Requests are answered

What waits in the queue is answered: the newest of the requests, or one put in
after it, within twenty steps of the task that do not go on waiting.  The BLE
client, the driver and NVS may do what they like meanwhile, and the task may be at
work on an older request.
-/

namespace AvensysEsp32
namespace Wifi

open Foundation

/-- The request that `apply_wifi_request` works on. -/
def TaskPhase.request : TaskPhase → Option WifiRequest
  | .starting | .receiving => none
  | .cooling request | .applying request => some request
  | .connecting request _ | .awaitingIp request _ => some request

/-- The steps of the task that the request takes at most. -/
def TaskPhase.stepsLeft : TaskPhase → Nat
  | .starting | .receiving => 0
  | .cooling _ => 2 * wifiMaxRetry + 3
  | .applying _ => 2 * wifiMaxRetry + 2
  | .connecting _ retry => 2 * (wifiMaxRetry - retry) + 1
  | .awaitingIp _ retry => 2 * (wifiMaxRetry - retry)

/-- A step of the task that waits no longer. -/
def WifiEvent.endsWait : WifiEvent → Bool
  | .task inp => inp.timedOut
  | _ => false

section Steps

variable (inp : TaskInput) (request : WifiRequest) (s : WifiState)

/-- What a step that works on a request can do: return to the queue, or go on with
the request. -/
def GoesOn (steps : Nat) (result : WifiState × Option Returned) : Prop :=
  (∃ ok, result.2 = some ⟨request, ok⟩ ∧ result.1.phase = .receiving) ∨
    (result.2 = none ∧ result.1.phase.request = some request ∧
      result.1.phase.stepsLeft < steps)

theorem attemptFailed_goesOn
    {steps : Nat} (retry : Nat) (hsteps : 2 * (wifiMaxRetry - retry) ≤ steps) :
    GoesOn request steps (attemptFailed request s retry) := by
  unfold attemptFailed
  dsimp only
  split
  · rename_i hmore
    refine Or.inr ⟨rfl, rfl, ?_⟩
    show 2 * (wifiMaxRetry - (retry + 1)) + 1 < steps
    omega
  · exact Or.inl ⟨false, rfl, rfl⟩

theorem attempt_goesOn (retry : Nat) :
    GoesOn request (2 * (wifiMaxRetry - retry) + 1) (attempt inp request s retry) := by
  unfold attempt
  generalize wifiConnect inp.groupCreated inp.start s.wifiSsid s.wifiPassword s = connected
  obtain ⟨s', waits⟩ := connected
  dsimp only
  split
  · exact Or.inr ⟨rfl, rfl, Nat.lt_succ_self _⟩
  · exact attemptFailed_goesOn request s' retry (Nat.le_succ _)

theorem awaitIp_goesOn
    (retry : Nat) (htimedOut : inp.timedOut = true) :
    GoesOn request (2 * (wifiMaxRetry - retry)) (awaitIp inp request s retry) := by
  unfold awaitIp
  split
  · exact Or.inl ⟨true, rfl, rfl⟩
  · exact attemptFailed_goesOn request _ retry (le_refl _)

theorem phase_wifiDisconnect (s : WifiState) :
    (wifiDisconnect s).phase = s.phase := by
  unfold wifiDisconnect
  split
  · rfl
  · rfl

theorem storeCredentials_goesOn :
    GoesOn request (2 * wifiMaxRetry + 2) (storeCredentials request s) := by
  unfold storeCredentials
  refine Or.inr ⟨rfl, ?_, ?_⟩
  · dsimp only
    rw [phase_wifiDisconnect]
    rfl
  · dsimp only
    rw [phase_wifiDisconnect]
    exact Nat.lt_succ_self _

theorem persistAndStore_goesOn :
    GoesOn request (2 * wifiMaxRetry + 2) (persistAndStore inp request s) := by
  unfold persistAndStore
  split
  · dsimp only
    split
    · split
      · exact storeCredentials_goesOn request _
      · exact Or.inl ⟨false, rfl, rfl⟩
    · exact Or.inl ⟨false, rfl, rfl⟩
  · exact storeCredentials_goesOn request s

/-- A step of the task that waits no longer. -/
theorem mqttTaskStep_goesOn
    {request : WifiRequest} (hrequest : s.phase.request = some request)
    (hwaits : inp.timedOut = true ∨ ∀ retry, s.phase ≠ .awaitingIp request retry) :
    GoesOn request s.phase.stepsLeft (mqttTaskStep inp s) := by
  unfold mqttTaskStep
  cases hphase : s.phase with
  | starting =>
      rw [hphase] at hrequest
      cases hrequest
  | receiving =>
      rw [hphase] at hrequest
      cases hrequest
  | cooling taken =>
      rw [hphase] at hrequest
      cases hrequest
      exact Or.inr ⟨rfl, rfl, Nat.lt_succ_self _⟩
  | applying taken =>
      rw [hphase] at hrequest
      cases hrequest
      exact persistAndStore_goesOn inp request s
  | connecting taken retry =>
      rw [hphase] at hrequest
      cases hrequest
      exact attempt_goesOn inp request s retry
  | awaitingIp taken retry =>
      rw [hphase] at hrequest
      cases hrequest
      refine awaitIp_goesOn inp request s retry (hwaits.resolve_right fun hno => ?_)
      exact hno retry hphase

end Steps

/-- The other events leave the task where it is. -/
theorem phase_wifiStep
    (e : WifiEvent) (s : WifiState) (he : ∀ inp, e ≠ .task inp) :
    (wifiStep e s).phase = s.phase := by
  cases e with
  | gotIp =>
      obtain ⟨group, flag, heq⟩ := onGotIp_eq s
      exact (congrArg WifiState.phase heq).trans rfl
  | staDisconnected =>
      obtain ⟨group, flag, heq⟩ := onWifiDisconnect_eq s
      exact (congrArg WifiState.phase heq).trans rfl
  | task inp => exact absurd rfl (he inp)
  | bleWrite inp write => exact (sameManager_wifiStep _ s he nofun nofun).phase
  | provTimeout => exact (sameManager_wifiStep _ s he nofun nofun).phase
  | bleDisconnected => exact (sameManager_wifiStep _ s he nofun nofun).phase

/-! ## The queue -/

/-- The queue holds the latest of what has been put in it. -/
structure QueueLogged (s : WifiState) : Prop where
  suffix : ∀ queue, s.wifiReqQueue = some queue → queue <:+ s.enqueued.map Enqueued.request
  bounded : ∀ queue, s.wifiReqQueue = some queue → queue.length ≤ wifiReqQueueLen

/-- A request is in the queue. -/
def RequestWaits (s : WifiState) : Prop :=
  ∃ queue, s.wifiReqQueue = some queue ∧ queue ≠ []

/-- What the other events do to the queue. -/
structure Puts (s s' : WifiState) : Prop where
  log : s.enqueued <+: s'.enqueued
  logged : QueueLogged s'
  waiting : RequestWaits s → RequestWaits s'

section Queue

variable {s s' s'' : WifiState}

theorem QueueLogged.of_same
    (h : QueueLogged s) (hqueue : s'.wifiReqQueue = s.wifiReqQueue)
    (henqueued : s'.enqueued = s.enqueued) :
    QueueLogged s' where
  suffix := by
    rw [hqueue, henqueued]
    exact h.suffix
  bounded := by
    rw [hqueue]
    exact h.bounded

/-- A queue from which everything has been taken. -/
theorem queueLogged_empty (h : s.wifiReqQueue = some []) :
    QueueLogged s where
  suffix := by
    rintro queue hqueue
    obtain rfl : [] = queue := Option.some.inj (h.symm.trans hqueue)
    exact List.nil_suffix
  bounded := by
    rintro queue hqueue
    obtain rfl : [] = queue := Option.some.inj (h.symm.trans hqueue)
    exact Nat.zero_le _

theorem Puts.of_same
    (h : QueueLogged s) (hqueue : s'.wifiReqQueue = s.wifiReqQueue)
    (henqueued : s'.enqueued = s.enqueued) :
    Puts s s' where
  log := by
    rw [henqueued]
  logged := h.of_same hqueue henqueued
  waiting := by
    unfold RequestWaits
    rw [hqueue]
    exact id

theorem Puts.trans
    (h : Puts s s') (h' : Puts s' s'') :
    Puts s s'' where
  log := h.log.trans h'.log
  logged := h'.logged
  waiting := fun hwaiting => h'.waiting (h.waiting hwaiting)

/-- What is put in a queue that is not overfull is its last. -/
theorem xQueueSend_cases
    {queue : List WifiRequest} (hlength : queue.length ≤ wifiReqQueueLen) (request : WifiRequest) :
    ∃ kept,
      (xQueueSend queue request <|> xQueueSend queue.tail request) = some (kept ++ [request]) ∧
      kept <:+ queue ∧ kept.length < wifiReqQueueLen := by
  unfold xQueueSend
  by_cases hroom : queue.length < wifiReqQueueLen
  · rw [if_pos hroom]
    exact ⟨queue, rfl, List.suffix_refl queue, hroom⟩
  · have htail : queue.tail.length < wifiReqQueueLen := by
      rw [List.length_tail]
      simp only [wifiReqQueueLen] at *
      omega
    rw [if_neg hroom, if_pos htail]
    exact ⟨queue.tail, rfl, List.tail_suffix queue, htail⟩

theorem puts_mqttEnqueue
    (h : QueueLogged s) (inp : EnqueueInput) (ssid password : List UInt8) (persistToNvs : Bool)
    (source : Source) :
    Puts s (mqttEnqueueWifiCredentials inp ssid password persistToNvs source s).1 := by
  unfold mqttEnqueueWifiCredentials
  dsimp only
  have hqueue? : ∀ queue,
      (s.wifiReqQueue <|> if inp.queueCreated then some [] else none) = some queue →
        queue <:+ s.enqueued.map Enqueued.request ∧ queue.length ≤ wifiReqQueueLen ∧
          (RequestWaits s → queue ≠ []) := by
    intro queue hqueue
    cases hexists : s.wifiReqQueue with
    | some there =>
        rw [hexists] at hqueue
        cases hqueue
        refine ⟨h.suffix queue hexists, h.bounded queue hexists, ?_⟩
        rintro ⟨waiting, hwaiting, hne⟩
        rw [hexists] at hwaiting
        cases hwaiting
        exact hne
    | none =>
        have hempty : queue = [] := by
          rw [hexists] at hqueue
          cases hcreated : inp.queueCreated with
          | true =>
              rw [hcreated] at hqueue
              exact (Option.some.inj hqueue).symm
          | false =>
              rw [hcreated] at hqueue
              cases hqueue
        subst hempty
        refine ⟨List.nil_suffix, Nat.zero_le _, ?_⟩
        rintro ⟨waiting, hwaiting, -⟩
        rw [hexists] at hwaiting
        cases hwaiting
  split
  · rename_i hnone
    refine Puts.of_same h ?_ rfl
    show _ = s.wifiReqQueue
    cases hexists : s.wifiReqQueue with
    | none => rw [hexists] at hnone; exact hnone
    | some there =>
        rw [hexists] at hnone
        cases hnone
  · rename_i queue hqueue
    obtain ⟨hsuffix, hlength, hne⟩ := hqueue? queue hqueue
    split
    · refine ⟨List.prefix_refl _, ⟨?_, ?_⟩, ?_⟩
      · rintro queue' hqueue'
        obtain rfl : queue = queue' := Option.some.inj (hqueue.symm.trans hqueue')
        exact hsuffix
      · rintro queue' hqueue'
        obtain rfl : queue = queue' := Option.some.inj (hqueue.symm.trans hqueue')
        exact hlength
      · exact fun hwaiting => ⟨queue, hqueue, hne hwaiting⟩
    · generalize hrequest : WifiRequest.mk _ _ _ _ _ _ = request
      obtain ⟨kept, hsent, hkept, hroom⟩ := xQueueSend_cases hlength request
      rw [hsent]
      dsimp only
      refine ⟨List.prefix_append _ _, ⟨?_, ?_⟩, ?_⟩
      · rintro queue' hqueue'
        obtain rfl : kept ++ [request] = queue' := Option.some.inj hqueue'
        obtain ⟨before, hbefore⟩ := hkept.trans hsuffix
        refine ⟨before, ?_⟩
        rw [List.map_append, ← hbefore]
        simp
      · rintro queue' hqueue'
        obtain rfl : kept ++ [request] = queue' := Option.some.inj hqueue'
        rw [List.length_append]
        exact hroom
      · exact fun _ => ⟨kept ++ [request], rfl, by simp⟩

/-- A write of the client changes the queue by putting a request in it, if at all. -/
theorem puts_handleWriteEvent
    (h : QueueLogged s) (inp : EnqueueInput) (write : BleWrite) :
    Puts s (handleWriteEvent inp write s) := by
  have henqueue : ∀ s₁ : WifiState, s₁.wifiReqQueue = s.wifiReqQueue →
      s₁.enqueued = s.enqueued → ∀ ssid password persistToNvs source,
        Puts s (mqttEnqueueWifiCredentials inp ssid password persistToNvs source s₁).1 := by
    intro s₁ hqueue henqueued ssid password persistToNvs source
    have hsame := Puts.of_same h hqueue henqueued
    exact hsame.trans (puts_mqttEnqueue hsame.logged inp ssid password persistToNvs source)
  unfold handleWriteEvent
  cases write with
  | wifiSsid value allocated =>
      dsimp only
      unfold writeWifiSsid
      dsimp only
      split
      · split
        · refine henqueue _ ?_ ?_ _ _ _ _
          · rfl
          · rfl
        · exact Puts.of_same h rfl rfl
      · exact Puts.of_same h rfl rfl
  | wifiPassword value allocated =>
      dsimp only
      unfold writeWifiPassword
      dsimp only
      split
      · split
        · exact Puts.of_same h rfl rfl
        · refine henqueue _ ?_ ?_ _ _ _ _
          · rfl
          · rfl
      · exact Puts.of_same h rfl rfl
  | connectToCloud =>
      dsimp only
      unfold writeConnectToCloud
      split
      · exact Puts.of_same h rfl rfl
      · dsimp only
        split
        · have hputs := henqueue (bleSetProvStatus .applying { s with provTimer := true })
            rfl rfl s.wifiSsid s.wifiPassword true .ble
          exact hputs.trans (Puts.of_same hputs.logged rfl rfl)
        · have hputs := henqueue (bleSetProvStatus .applying { s with provTimer := true })
            rfl rfl s.wifiSsid s.wifiPassword true .ble
          exact hputs.trans (Puts.of_same hputs.logged rfl rfl)

/-- The events of the other parties. -/
theorem puts_wifiStep
    (h : QueueLogged s) {e : WifiEvent} (he : ∀ inp, e ≠ .task inp) :
    Puts s (wifiStep e s) := by
  cases e with
  | task inp => exact absurd rfl (he inp)
  | bleWrite inp write => exact puts_handleWriteEvent h inp write
  | provTimeout =>
      show Puts s (if s.provTimer then bleProvTimeoutCallback s else s)
      split
      · exact Puts.of_same h rfl rfl
      · exact Puts.of_same h rfl rfl
  | bleDisconnected => exact Puts.of_same h rfl rfl
  | gotIp =>
      obtain ⟨group, flag, heq⟩ := onGotIp_eq s
      have hs : wifiStep .gotIp s = _ := heq
      rw [hs]
      exact Puts.of_same h rfl rfl
  | staDisconnected =>
      obtain ⟨group, flag, heq⟩ := onWifiDisconnect_eq s
      have hs : wifiStep .staDisconnected s = _ := heq
      rw [hs]
      exact Puts.of_same h rfl rfl

end Queue

/-! ## The answer -/

section Task

variable (inp : TaskInput) {s : WifiState} {request : WifiRequest}

theorem keepsQueue_persistAndStore (s : WifiState) :
    (persistAndStore inp request s).1.wifiReqQueue = s.wifiReqQueue ∧
      (persistAndStore inp request s).1.enqueued = s.enqueued := by
  have hstore : ∀ s₁ : WifiState, s₁.wifiReqQueue = s.wifiReqQueue → s₁.enqueued = s.enqueued →
      (storeCredentials request s₁).1.wifiReqQueue = s.wifiReqQueue ∧
        (storeCredentials request s₁).1.enqueued = s.enqueued := by
    intro s₁ hqueue henqueued
    unfold storeCredentials
    dsimp only
    obtain ⟨-, hlog, hsame, -⟩ := sameClient_wifiDisconnect
      { s₁ with
        wifiSsid := strlcpy request.ssid (maxSsidLength + 1)
        wifiPassword := strlcpy request.password (maxPasswordLength + 1)
        wifiManagerState := .applying
        phase := .connecting request 0 }
    exact ⟨hsame.trans hqueue, hlog.trans henqueued⟩
  unfold persistAndStore
  split
  · dsimp only
    split
    · split
      · exact hstore _ rfl rfl
      · exact ⟨rfl, rfl⟩
    · exact ⟨rfl, rfl⟩
  · exact hstore s rfl rfl

/-- The task leaves the queue alone while it works on a request. -/
theorem keepsQueue_mqttTaskStep
    (hrequest : s.phase.request = some request) :
    (mqttTaskStep inp s).1.wifiReqQueue = s.wifiReqQueue ∧
      (mqttTaskStep inp s).1.enqueued = s.enqueued := by
  unfold mqttTaskStep
  cases hphase : s.phase with
  | starting =>
      rw [hphase] at hrequest
      cases hrequest
  | receiving =>
      rw [hphase] at hrequest
      cases hrequest
  | cooling taken => exact ⟨rfl, rfl⟩
  | applying taken => exact keepsQueue_persistAndStore inp s
  | connecting taken retry =>
      obtain ⟨-, henqueued, hqueue⟩ := sameClient_attempt inp taken s retry
      exact ⟨hqueue, henqueued⟩
  | awaitingIp taken retry =>
      obtain ⟨-, henqueued, hqueue⟩ := sameClient_awaitIp inp taken s retry
      exact ⟨hqueue, henqueued⟩

/-- A step of the task that works on a request; only one that waits stays where it is. -/
theorem busy_step
    (hrequest : s.phase.request = some request) :
    (∃ ok, (mqttTaskStep inp s).2 = some ⟨request, ok⟩ ∧
        (mqttTaskStep inp s).1.phase = .receiving) ∨
      (mqttTaskStep inp s).1.phase.request = some request ∧
        ((mqttTaskStep inp s).1.phase.stepsLeft < s.phase.stepsLeft ∨
          inp.timedOut = false ∧ (mqttTaskStep inp s).1.phase = s.phase) := by
  by_cases hwaits : inp.timedOut = true ∨ ∀ retry, s.phase ≠ .awaitingIp request retry
  · rcases mqttTaskStep_goesOn inp s hrequest hwaits with hreturns | ⟨-, hgoes, hless⟩
    · exact Or.inl hreturns
    · exact Or.inr ⟨hgoes, Or.inl hless⟩
  · obtain ⟨htimedOut, hawaits⟩ := not_or.mp hwaits
    obtain ⟨retry, hphase⟩ := not_forall_not.mp hawaits
    have hstep : mqttTaskStep inp s = awaitIp inp request s retry := by
      unfold mqttTaskStep
      rw [hphase]
    rw [hstep]
    unfold awaitIp
    by_cases hgot : s.connectEventGroup = some true
    · rw [if_pos hgot]
      exact Or.inl ⟨true, rfl, rfl⟩
    · rw [if_neg hgot, if_neg htimedOut]
      exact Or.inr ⟨hrequest, Or.inr ⟨Bool.eq_false_iff.mpr htimedOut, rfl⟩⟩

end Task

/-- A request put in the queue after the first `n` is being applied. -/
def Working (n : Nat) (s : WifiState) : Prop :=
  ∃ item ∈ s.enqueued.drop n, s.phase.request = some item.request

instance (n : Nat) (s : WifiState) : Decidable (Working n s) :=
  inferInstanceAs (Decidable (∃ item ∈ _, _))

/-- Such a request waits or is being applied. -/
structure Owed (n : Nat) (s : WifiState) : Prop where
  logged : QueueLogged s
  newest : n < s.enqueued.length
  pending : Working n s ∨ RequestWaits s

/-- Such a request is answered. -/
def AnswersOwed (n : Nat) (e : WifiEvent) (s : WifiState) : Prop :=
  ∃ item ∈ s.enqueued.drop n, ∃ ok, returned e s = some ⟨item.request, ok⟩

theorem stepsLeft_le (phase : TaskPhase) :
    phase.stepsLeft ≤ 2 * wifiMaxRetry + 3 := by
  cases phase with
  | starting => exact Nat.zero_le _
  | receiving => exact Nat.zero_le _
  | cooling request => exact le_refl _
  | applying request => exact Nat.le_succ _
  | connecting request retry =>
      show 2 * (wifiMaxRetry - retry) + 1 ≤ _
      omega
  | awaitingIp request retry =>
      show 2 * (wifiMaxRetry - retry) ≤ _
      omega

/-- The steps until the answer at most: those of the request that is applied now,
the one that takes the newest from the queue, and those of the newest. -/
def stepsOwed (n : Nat) (s : WifiState) : Nat :=
  if Working n s then s.phase.stepsLeft
  else if s.phase = .receiving then 2 * wifiMaxRetry + 4
  else s.phase.stepsLeft + (2 * wifiMaxRetry + 5)

section Owed

variable {n : Nat} {s s' : WifiState}

theorem Working.mono
    (h : Working n s) (hlog : s.enqueued <+: s'.enqueued) (hphase : s'.phase = s.phase) :
    Working n s' := by
  obtain ⟨item, hitem, hrequest⟩ := h
  obtain ⟨later, hlater⟩ := hlog
  refine ⟨item, ?_, by rw [hphase]; exact hrequest⟩
  rw [← hlater, List.drop_append]
  exact List.mem_append_left _ hitem

theorem stepsOwed_le_of_phase
    (hworking : Working n s → Working n s') (hphase : s'.phase = s.phase) :
    stepsOwed n s' ≤ stepsOwed n s := by
  unfold stepsOwed
  rw [hphase]
  by_cases h : Working n s
  · rw [if_pos h, if_pos (hworking h)]
  · rw [if_neg h]
    split_ifs with hnow hreceiving
    · rw [hreceiving]
      exact Nat.zero_le _
    · exact Nat.le_add_right _ _
    · exact le_refl _
    · exact le_refl _

/-- The other events leave the answer as near as it is. -/
theorem owed_other
    (h : Owed n s) {e : WifiEvent} (he : ∀ inp, e ≠ .task inp) :
    Owed n (wifiStep e s) ∧ stepsOwed n (wifiStep e s) ≤ stepsOwed n s := by
  have hputs := puts_wifiStep h.logged he
  have hphase := phase_wifiStep e s he
  have hworking : Working n s → Working n (wifiStep e s) := fun hworking =>
    hworking.mono hputs.log hphase
  refine ⟨⟨hputs.logged, lt_of_lt_of_le h.newest hputs.log.length_le, ?_⟩,
    stepsOwed_le_of_phase hworking hphase⟩
  exact h.pending.imp hworking hputs.waiting

/-- The last of the queue is one of those owed. -/
theorem Owed.last_mem
    (h : Owed n s) {latest : WifiRequest}
    (hlatest : s.wifiReqQueue.bind List.getLast? = some latest) :
    ∃ item ∈ s.enqueued.drop n, item.request = latest := by
  cases hqueue : s.wifiReqQueue with
  | none =>
      rw [hqueue] at hlatest
      cases hlatest
  | some queue =>
      rw [hqueue] at hlatest
      obtain ⟨before, hbefore⟩ := h.logged.suffix queue hqueue
      have hlast : (s.enqueued.map Enqueued.request).getLast? = some latest := by
        rw [← hbefore, List.getLast?_append]
        have hqueueLast : queue.getLast? = some latest := hlatest
        rw [hqueueLast]
        rfl
      rw [List.getLast?_map, Option.map_eq_some_iff] at hlast
      obtain ⟨item, hitem, hrequest⟩ := hlast
      refine ⟨item, ?_, hrequest⟩
      refine List.mem_of_getLast? ?_
      rw [List.getLast?_drop, if_neg (Nat.not_le_of_lt h.newest)]
      exact hitem

end Owed

section Answer

variable {n : Nat} {s : WifiState} (inp : TaskInput)

/-- A step of the task answers, or brings the answer nearer unless it waits. -/
def Nears (n : Nat) (inp : TaskInput) (s : WifiState) : Prop :=
  AnswersOwed n (.task inp) s ∨
    Owed n (mqttTaskStep inp s).1 ∧
      (stepsOwed n (mqttTaskStep inp s).1 < stepsOwed n s ∨
        inp.timedOut = false ∧ stepsOwed n (mqttTaskStep inp s).1 ≤ stepsOwed n s)

theorem not_working_of_request (h : s.phase.request = none) :
    ¬ Working n s := by
  rintro ⟨item, -, hrequest⟩
  rw [h] at hrequest
  cases hrequest

/-- The task works on a request. -/
theorem nears_busy
    (h : Owed n s) {request : WifiRequest} (hrequest : s.phase.request = some request) :
    Nears n inp s := by
  obtain ⟨hqueue, henqueued⟩ := keepsQueue_mqttTaskStep inp hrequest
  have hputs := Puts.of_same h.logged hqueue henqueued
  have hnewest : n < (mqttTaskStep inp s).1.enqueued.length := by
    rw [henqueued]
    exact h.newest
  have hbusy : s.phase ≠ .receiving := by
    intro hreceiving
    rw [hreceiving] at hrequest
    cases hrequest
  rcases busy_step inp hrequest with ⟨ok, hreturned, hreceiving⟩ | ⟨hgoes, hsteps⟩
  · by_cases hworking : Working n s
    · obtain ⟨item, hitem, hitem'⟩ := hworking
      refine Or.inl ⟨item, hitem, ok, ?_⟩
      obtain rfl : request = item.request := Option.some.inj (hrequest.symm.trans hitem')
      exact hreturned
    · have hidle : (mqttTaskStep inp s).1.phase.request = none := by
        rw [hreceiving]
        rfl
      refine Or.inr ⟨⟨hputs.logged, hnewest, Or.inr ?_⟩, Or.inl ?_⟩
      · exact hputs.waiting (h.pending.resolve_left hworking)
      · unfold stepsOwed
        rw [if_neg (not_working_of_request hidle), if_pos hreceiving, if_neg hworking, if_neg hbusy]
        omega
  · have hsame : Working n (mqttTaskStep inp s).1 ↔ Working n s := by
      unfold Working
      rw [henqueued, hgoes, hrequest]
    have hbusy' : (mqttTaskStep inp s).1.phase ≠ .receiving := by
      intro hreceiving
      rw [hreceiving] at hgoes
      cases hgoes
    refine Or.inr ⟨⟨hputs.logged, hnewest, h.pending.imp hsame.mpr hputs.waiting⟩, ?_⟩
    have howed : stepsOwed n (mqttTaskStep inp s).1 + s.phase.stepsLeft =
        stepsOwed n s + (mqttTaskStep inp s).1.phase.stepsLeft := by
      unfold stepsOwed
      rw [if_neg hbusy, if_neg hbusy']
      by_cases hworking : Working n s
      · rw [if_pos hworking, if_pos (hsame.mpr hworking)]
        omega
      · rw [if_neg hworking, if_neg (fun hnow => hworking (hsame.mp hnow))]
        omega
    rcases hsteps with hless | ⟨htimedOut, hphase⟩
    · exact Or.inl (by omega)
    · rw [hphase] at howed
      exact Or.inr ⟨htimedOut, by omega⟩

/-- The task takes the newest from the queue. -/
theorem nears_receiving
    (h : Owed n s) (hphase : s.phase = .receiving) :
    Nears n inp s := by
  have hidle : s.phase.request = none := by
    rw [hphase]
    rfl
  obtain ⟨queue, hqueue, hne⟩ := h.pending.resolve_left (not_working_of_request hidle)
  obtain ⟨latest, hlatest⟩ : ∃ latest, s.wifiReqQueue.bind List.getLast? = some latest := by
    rw [hqueue]
    exact ⟨queue.getLast hne, List.getLast?_eq_some_getLast hne⟩
  obtain ⟨item, hitem, hrequest⟩ := h.last_mem hlatest
  have hstep : mqttTaskStep inp s = beginApply inp latest { s with wifiReqQueue := some [] } := by
    unfold mqttTaskStep
    rw [hphase]
    dsimp only
    rw [hlatest]
  have hbegun : ∀ s' : WifiState, s'.wifiReqQueue = some [] → s'.enqueued = s.enqueued →
      s'.phase.request = some latest → s'.phase.stepsLeft < 2 * wifiMaxRetry + 4 →
        Owed n s' ∧ stepsOwed n s' < stepsOwed n s := by
    intro s' hqueue' henqueued' hrequest' hsteps
    have hworking : Working n s' := by
      refine ⟨item, ?_, ?_⟩
      · rw [henqueued']
        exact hitem
      · rw [hrequest', hrequest]
    refine ⟨⟨queueLogged_empty hqueue', ?_, Or.inl hworking⟩, ?_⟩
    · rw [henqueued']
      exact h.newest
    · unfold stepsOwed
      rw [if_pos hworking, if_neg (not_working_of_request hidle), if_pos hphase]
      exact hsteps
  unfold Nears AnswersOwed returned
  dsimp only
  rw [hstep]
  unfold beginApply
  split
  · exact Or.inl ⟨item, hitem, true, by rw [hrequest]⟩
  · split
    · obtain ⟨howed, hless⟩ := hbegun { s with wifiReqQueue := some [], phase := .cooling latest }
        rfl rfl rfl (Nat.lt_succ_self _)
      exact Or.inr ⟨howed, Or.inl hless⟩
    · obtain ⟨howed, hless⟩ := hbegun { s with wifiReqQueue := some [], phase := .applying latest }
        rfl rfl rfl (Nat.lt_succ_of_lt (Nat.lt_succ_self _))
      exact Or.inr ⟨howed, Or.inl hless⟩

/-- The task puts its boot request in the queue. -/
theorem nears_starting
    (h : Owed n s) (hphase : s.phase = .starting) :
    Nears n inp s := by
  have hidle : s.phase.request = none := by
    rw [hphase]
    rfl
  have hputs := puts_mqttEnqueue h.logged ⟨inp.tick, inp.queueCreated⟩ s.wifiSsid s.wifiPassword
    false .boot
  obtain ⟨queue, hqueue, hne⟩ :=
    hputs.waiting (h.pending.resolve_left (not_working_of_request hidle))
  have hstep : (mqttTaskStep inp s).1 =
      { (mqttEnqueueWifiCredentials ⟨inp.tick, inp.queueCreated⟩ s.wifiSsid s.wifiPassword false
          .boot s).1 with phase := .receiving } := by
    unfold mqttTaskStep
    rw [hphase]
    dsimp only
    rw [hqueue]
  unfold Nears
  rw [hstep]
  generalize (mqttEnqueueWifiCredentials ⟨inp.tick, inp.queueCreated⟩ s.wifiSsid s.wifiPassword
    false .boot s).1 = s' at hputs hqueue
  have hsame : Puts s' { s' with phase := .receiving } := Puts.of_same hputs.logged rfl rfl
  refine Or.inr ⟨⟨hsame.logged, lt_of_lt_of_le h.newest hputs.log.length_le,
    Or.inr ⟨queue, hqueue, hne⟩⟩, Or.inl ?_⟩
  unfold stepsOwed
  rw [if_neg (not_working_of_request rfl), if_pos rfl, if_neg (not_working_of_request hidle),
    hphase]
  exact Nat.lt_succ_self _

theorem nears_task (h : Owed n s) :
    Nears n inp s := by
  cases hphase : s.phase with
  | starting => exact nears_starting inp h hphase
  | receiving => exact nears_receiving inp h hphase
  | cooling request => exact nears_busy inp h (congrArg TaskPhase.request hphase)
  | applying request => exact nears_busy inp h (congrArg TaskPhase.request hphase)
  | connecting request retry => exact nears_busy inp h (congrArg TaskPhase.request hphase)
  | awaitingIp request retry => exact nears_busy inp h (congrArg TaskPhase.request hphase)

/-- The steps of the task bring the answer nearer, and nothing sets it back. -/
theorem owed_responds (n : Nat) :
    Responds wifiStep (fun e => e.endsWait = true) (Owed n) (AnswersOwed n) (stepsOwed n) where
  nearer := by
    intro e s hends howed
    cases e with
    | task inp =>
        rcases nears_task inp howed with hanswers | ⟨howed', hless | ⟨hwaits, -⟩⟩
        · exact Or.inl hanswers
        · exact Or.inr ⟨howed', hless⟩
        · have htimedOut : inp.timedOut = true := hends
          rw [htimedOut] at hwaits
          cases hwaits
    | bleWrite inp write => cases hends
    | provTimeout => cases hends
    | bleDisconnected => cases hends
    | gotIp => cases hends
    | staDisconnected => cases hends
  noFarther := by
    intro e s _ howed
    by_cases htask : ∃ inp, e = .task inp
    · obtain ⟨inp, rfl⟩ := htask
      rcases nears_task inp howed with hanswers | ⟨howed', hless | ⟨-, hle⟩⟩
      · exact Or.inl hanswers
      · exact Or.inr ⟨howed', Nat.le_of_lt hless⟩
      · exact Or.inr ⟨howed', hle⟩
    · exact Or.inr (owed_other howed fun inp hinp => htask ⟨inp, hinp⟩)

theorem stepsOwed_le (n : Nat) (s : WifiState) :
    stepsOwed n s ≤ 20 := by
  have hsteps := stepsLeft_le s.phase
  unfold stepsOwed
  simp only [wifiMaxRetry] at *
  split_ifs
  · omega
  · omega
  · omega

end Answer

section Runs

variable {s : WifiState}

/-- The task takes everything from the queue, or leaves it alone. -/
theorem logged_wifiStep
    (h : QueueLogged s) (e : WifiEvent) :
    QueueLogged (wifiStep e s) := by
  by_cases htask : ∃ inp, e = .task inp
  · obtain ⟨inp, rfl⟩ := htask
    show QueueLogged (mqttTaskStep inp s).1
    have hbusy : ∀ request, s.phase.request = some request →
        QueueLogged (mqttTaskStep inp s).1 := by
      intro request hrequest
      obtain ⟨hqueue, henqueued⟩ := keepsQueue_mqttTaskStep inp hrequest
      exact h.of_same hqueue henqueued
    cases hphase : s.phase with
    | starting =>
        have hputs := puts_mqttEnqueue h ⟨inp.tick, inp.queueCreated⟩ s.wifiSsid s.wifiPassword
          false .boot
        unfold mqttTaskStep
        rw [hphase]
        dsimp only
        split
        · exact hputs.logged
        · exact hputs.logged.of_same rfl rfl
    | receiving =>
        unfold mqttTaskStep
        rw [hphase]
        dsimp only
        split
        · exact h
        · unfold beginApply
          split
          · exact queueLogged_empty rfl
          · split
            · exact queueLogged_empty rfl
            · exact queueLogged_empty rfl
    | cooling request => exact hbusy request (congrArg TaskPhase.request hphase)
    | applying request => exact hbusy request (congrArg TaskPhase.request hphase)
    | connecting request retry => exact hbusy request (congrArg TaskPhase.request hphase)
    | awaitingIp request retry => exact hbusy request (congrArg TaskPhase.request hphase)
  · exact (puts_wifiStep h fun inp hinp => htask ⟨inp, hinp⟩).logged

theorem logged_run
    (opened : Bool) (nvsSsid nvsPass : Option (List UInt8)) (es : List WifiEvent) :
    QueueLogged (run wifiStep es (.boot opened nvsSsid nvsPass)) := by
  have hkeeps : ∀ e s, True → QueueLogged s → QueueLogged (wifiStep e s) :=
    fun e _ _ hs => logged_wifiStep hs e
  refine Along.invariant hkeeps (Along.of_forall fun _ _ => trivial) ⟨?_, ?_⟩
  · rintro queue hqueue
    cases hqueue
  · rintro queue hqueue
    cases hqueue

/-- Where requests wait, the newest of them is in the log. -/
theorem QueueLogged.newest
    (h : QueueLogged s) (hwaiting : RequestWaits s) :
    s.enqueued.length - 1 < s.enqueued.length := by
  obtain ⟨queue, hqueue, hne⟩ := hwaiting
  have hlength := (h.suffix queue hqueue).length_le
  rw [List.length_map] at hlength
  have hpos := List.length_pos_iff.mpr hne
  omega

/-- While requests wait in the queue, the newest of them is answered, or one that
is put in after it, within twenty steps of the task that do not go on waiting. -/
theorem waiting_answered
    (opened : Bool) (nvsSsid nvsPass : Option (List UInt8)) (before es : List WifiEvent)
    (hwaiting : RequestWaits (run wifiStep before (.boot opened nvsSsid nvsPass)))
    (hmany : 20 < es.countP WifiEvent.endsWait) :
    ∃ es₁ e es₂, es = es₁ ++ e :: es₂ ∧
      AnswersOwed ((run wifiStep before (.boot opened nvsSsid nvsPass)).enqueued.length - 1) e
        (run wifiStep (before ++ es₁) (.boot opened nvsSsid nvsPass)) := by
  have hlogged := logged_run opened nvsSsid nvsPass before
  simp only [run_append]
  generalize run wifiStep before (.boot opened nvsSsid nvsPass) = s at hlogged hwaiting
  have howed : Owed (s.enqueued.length - 1) s :=
    ⟨hlogged, hlogged.newest hwaiting, Or.inr hwaiting⟩
  have hrank : stepsOwed (s.enqueued.length - 1) s <
      es.countP fun e => decide (e.endsWait = true) := by
    simpa using lt_of_le_of_lt (stepsOwed_le (s.enqueued.length - 1) s) hmany
  exact (owed_responds _).answered howed hrank

/-- A step of the task in which the station does not start. -/
def hopelessTask : WifiEvent :=
  .task ⟨0, true, .committed, .committed, true, .unattached, true⟩

/-- The steps for two requests, between them a write and a loss of the connection. -/
def hopelessSteps : List WifiEvent :=
  List.replicate 4 hopelessTask ++
    [.bleWrite ⟨0, true⟩ (.wifiSsid [105] true), .staDisconnected] ++
    List.replicate 17 hopelessTask

/-- The boot request waits, and the station never starts. -/
theorem bootRequest_answered :
    ∃ es₁ e es₂, hopelessSteps = es₁ ++ e :: es₂ ∧
      AnswersOwed ((run wifiStep [hopelessTask] (.boot true none none)).enqueued.length - 1) e
        (run wifiStep ([hopelessTask] ++ es₁) (.boot true none none)) :=
  waiting_answered true none none [hopelessTask] hopelessSteps
    ⟨_, rfl, List.cons_ne_nil _ _⟩ (by decide)

end Runs

end Wifi
end AvensysEsp32
