import AvensysEsp32.Foundation.DropOldest
import AvensysEsp32.Foundation.Simulation
import AvensysEsp32.Wifi.Manager

/-!
# The latest request wins

`mqtt_enqueue_wifi_credentials` sends a request to the queue, and if the queue
is full drops the oldest and sends again; the loop of `mqtt_task` takes all
requests there are and applies the latest.  Here every operation on the queue is
a step of its own, and the steps of the two come in any order.  A call and a
drain that are not interrupted are those of `Wifi.Provisioning` and
`Wifi.Manager`.
-/

namespace AvensysEsp32
namespace Wifi

open Foundation DropOldest

/-- What a call of `mqtt_enqueue_wifi_credentials` is given, and the time it
finds. -/
structure EnqueueCall where
  tick : UInt32
  ssid : List UInt8
  password : List UInt8
  persistToNvs : Bool
  source : Source
deriving DecidableEq

/-- The request that the call puts in the queue. -/
def EnqueueCall.request (call : EnqueueCall) (wifiRequestCounter : UInt32) : WifiRequest where
  ssid := strlcpy call.ssid (maxSsidLength + 1)
  password := strlcpy call.password (maxPasswordLength + 1)
  persistToNvs := call.persistToNvs
  requestId := wifiRequestCounter + 1
  enqueueTick := call.tick
  source := call.source

/-- The queue with the two tasks at it, and `s_wifi_request_counter`. -/
structure RequestTasks where
  tasks : DropOldest.State WifiRequest
  wifiRequestCounter : UInt32

/-- A queue that exists, with the requests in it. -/
def RequestTasks.initial (queued : List WifiRequest) (wifiRequestCounter : UInt32) :
    RequestTasks :=
  ⟨.initial queued, wifiRequestCounter⟩

inductive RequestEvent
  /-- `mqtt_enqueue_wifi_credentials` is called, and makes its first send. -/
  | call (call : EnqueueCall)
  /-- The call goes on: it drops the oldest request, or makes its second send. -/
  | enqueueGoesOn
  /-- `mqtt_task` goes on: it receives, or applies the latest request. -/
  | taskGoesOn
deriving DecidableEq

/-- One operation.  A call with an empty SSID returns `false` before it makes
any. -/
def requestStep (e : RequestEvent) (s : RequestTasks) : RequestTasks :=
  match e with
  | .call call =>
      match s.tasks.sender with
      | .idle =>
          if call.ssid = [] then s
          else
            { tasks := s.tasks.call wifiReqQueueLen (call.request s.wifiRequestCounter)
              wifiRequestCounter := s.wifiRequestCounter + 1 }
      | _ => s
  | .enqueueGoesOn => { s with tasks := s.tasks.goOn wifiReqQueueLen }
  | .taskGoesOn => { s with tasks := s.tasks.receive }

/-- The request of a call that happens: the producer is in no other call, and the
SSID is not empty. -/
def requested (e : RequestEvent) (s : RequestTasks) : List WifiRequest :=
  match e, s.tasks.sender with
  | .call call, .idle =>
      if call.ssid = [] then [] else [call.request s.wifiRequestCounter]
  | _, _ => []

/-- The queue and its two ends are sound, and account for the requests made. -/
structure Queued (queued made : List WifiRequest) (s : RequestTasks) : Prop where
  sound : Sound wifiReqQueueLen s.tasks
  accounted : Accounted queued made s.tasks

section Queued

variable {queued made : List WifiRequest} {s : RequestTasks}

/-- One operation accounts for the request it makes, if any. -/
theorem Queued.step
    (h : Queued queued made s) (e : RequestEvent) :
    Queued queued (made ++ requested e s) (requestStep e s) := by
  cases e with
  | enqueueGoesOn =>
      have hnone : requested .enqueueGoesOn s = [] := by
        unfold requested
        rfl
      rw [hnone, List.append_nil]
      exact ⟨h.sound.goOn (by decide), h.accounted.goOn h.sound⟩
  | taskGoesOn =>
      have hnone : requested .taskGoesOn s = [] := by
        unfold requested
        rfl
      rw [hnone, List.append_nil]
      exact ⟨h.sound.receive, h.accounted.receive⟩
  | call call =>
      unfold requested requestStep
      cases hsender : s.tasks.sender with
      | full item => simpa using h
      | retry item => simpa using h
      | idle =>
          dsimp only
          split
          · simpa using h
          · exact ⟨h.sound.call _, h.accounted.call hsender _⟩

/-- Every run accounts for the requests made in it. -/
theorem Queued.run
    (h : Queued queued made s) (es : List RequestEvent) :
    Queued queued (made ++ images requestStep requested es s)
      (Foundation.run requestStep es s) := by
  induction es generalizing made s with
  | nil => simpa [images] using h
  | cons e es ih =>
      have hrest := ih (h.step e)
      rwa [List.append_assoc] at hrest

/-- A call ends after two more steps of its own, whatever steps of the task come
between. -/
theorem Queued.call_ends
    (h : Queued queued made s) {es : List RequestEvent} (hes : ∀ call, .call call ∉ es)
    (hends : s.tasks.sender.left ≤ es.count .enqueueGoesOn) :
    (Foundation.run requestStep es s).tasks.sender = .idle := by
  induction es generalizing made s with
  | nil =>
      rw [List.count_nil] at hends
      exact Sender.eq_idle_of_left (Nat.le_zero.mp hends)
  | cons e es ih =>
      refine ih (h.step e) (fun call hcall => hes call (List.mem_cons_of_mem e hcall)) ?_
      cases e with
      | call call => exact absurd List.mem_cons_self (hes call)
      | enqueueGoesOn =>
          rw [List.count_cons_self] at hends
          have hleft : (requestStep .enqueueGoesOn s).tasks.sender.left =
              s.tasks.sender.left - 1 := h.sound.goOn_left
          omega
      | taskGoesOn =>
          rw [List.count_cons_of_ne (by decide)] at hends
          have hsender : (requestStep .taskGoesOn s).tasks.sender = s.tasks.sender :=
            (receive_work s.tasks).2.1
          rwa [hsender]

end Queued

/-- Steps of the task alone are steps of the receiver. -/
theorem run_taskGoesOn (n : Nat) (s : RequestTasks) :
    (run requestStep (List.replicate n .taskGoesOn) s).tasks =
      run (DropOldest.step wifiReqQueueLen) (List.replicate n .receiver) s.tasks := by
  induction n generalizing s with
  | zero => rfl
  | succ n ih => exact ih (requestStep .taskGoesOn s)

/-! ## Without interruption -/

/-- The queue and the counter of the two tasks are the manager's. -/
structure SameQueue (s : WifiState) (t : RequestTasks) : Prop where
  queue : s.wifiReqQueue = some (t.tasks.queue.map Prod.fst)
  counter : s.wifiRequestCounter = t.wifiRequestCounter

/-- A call that is not interrupted is the one of the provisioning model: it
returns the same, and leaves the same queue. -/
def CallUninterrupted (t : RequestTasks) : Prop :=
  ∀ (s : WifiState) (call : EnqueueCall) (queueCreated : Bool),
    SameQueue s t → t.tasks.sender = .idle → call.ssid ≠ [] →
      let t' := run requestStep [.call call, .enqueueGoesOn, .enqueueGoesOn] t
      let result := mqttEnqueueWifiCredentials ⟨call.tick, queueCreated⟩ call.ssid call.password
        call.persistToNvs call.source s
      SameQueue result.1 t' ∧ t'.tasks.sender = .idle ∧
        t'.tasks.returned = t.tasks.returned ++ [result.2]

/-- A drain that is not interrupted is the one of the manager: it leaves the
queue empty, and the request that the manager begins to apply is applied. -/
def DrainUninterrupted (t : RequestTasks) : Prop :=
  ∀ (s : WifiState) (inp : TaskInput) (latest : WifiRequest),
    SameQueue s t → t.tasks.receiver = .waiting → s.phase = .receiving →
      (t.tasks.queue.map Prod.fst).getLast? = some latest →
        mqttTaskStep inp s = beginApply inp latest { s with wifiReqQueue := some [] } ∧
          ∃ number,
            (run requestStep (List.replicate (t.tasks.queue.length + 1) .taskGoesOn) t).tasks =
              { t.tasks with
                queue := []
                receiver := .applying (latest, number)
                received := t.tasks.received ++ t.tasks.queue }

section Uninterrupted

variable {t : RequestTasks} {s : WifiState} {queue : List WifiRequest}

/-- What a call of the provisioning model leaves in a queue that exists. -/
theorem mqttEnqueue_queue
    (call : EnqueueCall) (hssid : call.ssid ≠ []) (hqueue : s.wifiReqQueue = some queue)
    (hbounded : queue.length ≤ wifiReqQueueLen) (queueCreated : Bool) :
    let result := mqttEnqueueWifiCredentials ⟨call.tick, queueCreated⟩ call.ssid call.password
      call.persistToNvs call.source s
    result.1.wifiReqQueue =
        some ((if queue.length < wifiReqQueueLen then queue else queue.tail) ++
          [call.request s.wifiRequestCounter]) ∧
      result.1.wifiRequestCounter = s.wifiRequestCounter + 1 ∧ result.2 = true := by
  have hqueue? : (s.wifiReqQueue <|> if queueCreated then some [] else none) = some queue := by
    rw [hqueue]
    rfl
  dsimp only
  unfold mqttEnqueueWifiCredentials
  rw [hqueue?]
  dsimp only
  rw [if_neg hssid]
  unfold xQueueSend
  by_cases hroom : queue.length < wifiReqQueueLen
  · rw [if_pos hroom, if_pos hroom]
    exact ⟨rfl, rfl, rfl⟩
  · have htail : queue.tail.length < wifiReqQueueLen := by
      rw [List.length_tail]
      simp only [wifiReqQueueLen] at *
      omega
    rw [if_neg hroom, if_pos htail, if_neg hroom]
    exact ⟨rfl, rfl, rfl⟩

theorem uninterrupted_call
    (hbounded : t.tasks.queue.length ≤ wifiReqQueueLen) :
    CallUninterrupted t := by
  rintro s call queueCreated ⟨hqueue, hcounter⟩ hidle hssid
  dsimp only
  obtain ⟨hresult, hcounted, htrue⟩ :=
    mqttEnqueue_queue call hssid hqueue (by simpa using hbounded) queueCreated
  have hcall : requestStep (.call call) t =
      { tasks := t.tasks.call wifiReqQueueLen (call.request t.wifiRequestCounter)
        wifiRequestCounter := t.wifiRequestCounter + 1 } := by
    unfold requestStep
    rw [hidle]
    exact if_neg hssid
  have htasks := call_uninterrupted (call.request t.wifiRequestCounter) hidle (by decide) hbounded
  have hrun : run requestStep [.call call, .enqueueGoesOn, .enqueueGoesOn] t =
      { tasks := ((t.tasks.call wifiReqQueueLen (call.request t.wifiRequestCounter)).goOn
          wifiReqQueueLen).goOn wifiReqQueueLen
        wifiRequestCounter := t.wifiRequestCounter + 1 } := by
    rw [run_cons, hcall]
    rfl
  rw [hrun, htasks, htrue]
  refine ⟨⟨?_, by rw [hcounted, hcounter]⟩, hidle, rfl⟩
  rw [hresult, hcounter, List.length_map]
  split <;> simp [List.map_tail]

theorem uninterrupted_drain (t : RequestTasks) :
    DrainUninterrupted t := by
  rintro s inp latest ⟨hqueue, -⟩ hwaiting hphase hlatest
  constructor
  · unfold mqttTaskStep
    rw [hphase, hqueue, Option.bind_some, hlatest]
  rw [List.getLast?_map, Option.map_eq_some_iff] at hlatest
  obtain ⟨⟨request, number⟩, hlast, rfl⟩ := hlatest
  obtain ⟨items, hitems⟩ := List.getLast?_eq_some_iff.mp hlast
  refine ⟨number, ?_⟩
  have hdrains := run_receiver_drains wifiReqQueueLen hitems
    (by rw [hwaiting]; rintro _ ⟨⟩)
  rw [run_taskGoesOn, ← hdrains, hitems, List.length_append]
  rfl

end Uninterrupted

/-! ## Runs -/

/-- The requests of the calls are put in the queue in order, but for the one of a
call under way; every other call has returned, and `true`; and a call ends after
two more operations of its own, whatever the task does in between.  What is
applied has been put in the queue, and is applied in that order and not twice.
While no call is under way the latest request is in the queue or has been
received, and the task, going on alone, then ends with having applied it last.
Calls and drains that are not interrupted are those of the manager. -/
theorem latest_request_wins
    (queued : List WifiRequest) (hqueued : queued.length ≤ wifiReqQueueLen)
    (wifiRequestCounter : UInt32) (es : List RequestEvent) :
    let made := images requestStep requested es (.initial queued wifiRequestCounter)
    let s := run requestStep es (.initial queued wifiRequestCounter)
    s.tasks.sent ++ s.tasks.sender.pending = (queued ++ made).zipIdx ∧
      (s.tasks.returned.length + s.tasks.sender.pending.length = made.length ∧
        ∀ result ∈ s.tasks.returned, result = true) ∧
      (∀ fs : List RequestEvent, (∀ call, .call call ∉ fs) → 2 ≤ fs.count .enqueueGoesOn →
        (run requestStep fs s).tasks.sender = .idle) ∧
      (s.tasks.applied.Sublist s.tasks.sent ∧ Increasing s.tasks.applied) ∧
      (s.tasks.sender = .idle → ∀ newest ∈ (queued ++ made).zipIdx.getLast?,
        newest ∈ s.tasks.queue ∨ newest ∈ s.tasks.received) ∧
      (s.tasks.sender = .idle → ∀ n, s.tasks.queue.length + 3 ≤ n →
        (run requestStep (List.replicate n .taskGoesOn) s).tasks.applied.getLast? =
          (queued ++ made).zipIdx.getLast?) ∧
      CallUninterrupted s ∧ DrainUninterrupted s := by
  dsimp only
  have hqueue : Queued queued (images requestStep requested es (.initial queued wifiRequestCounter))
      (run requestStep es (.initial queued wifiRequestCounter)) :=
    Queued.run (s := .initial queued wifiRequestCounter)
      ⟨sound_initial queued hqueued, accounted_initial queued⟩ es
  generalize images requestStep requested es (.initial queued wifiRequestCounter) = made at hqueue ⊢
  generalize run requestStep es (.initial queued wifiRequestCounter) = s at hqueue ⊢
  obtain ⟨hsound, haccounted⟩ := hqueue
  refine ⟨haccounted.sent, ⟨haccounted.answered, hsound.succeeded⟩, fun fs hfs hends => ?_,
    ⟨hsound.applied_sublist haccounted, hsound.applied_increasing⟩,
    fun hidle newest hnewest => ?_, fun hidle n hn => ?_,
    uninterrupted_call hsound.bounded, uninterrupted_drain s⟩
  · exact Queued.call_ends ⟨hsound, haccounted⟩ hfs (s.tasks.sender.left_le.trans hends)
  · rw [← haccounted.sent_of_idle hidle] at hnewest
    exact hsound.newest_mem (by rw [hidle]; rfl) hnewest
  · have hrun := (Queued.run ⟨hsound, haccounted⟩ (List.replicate n .taskGoesOn)).sound
    rw [run_taskGoesOn] at hrun ⊢
    obtain ⟨hwork, hsender, hsent⟩ :=
      run_receiver_work wifiReqQueueLen n s.tasks
    have hle := work_le s.tasks
    rw [← haccounted.sent_of_idle hidle, ← hsent]
    exact hrun.applied_newest (by rw [hsender, hidle]; rfl) (by rw [hwork]; omega)

/-- The SSID "a" with an empty password. -/
def openNetwork : EnqueueCall where
  tick := 0
  ssid := [97]
  password := []
  persistToNvs := true
  source := .ble

/-- Nine calls; the ninth is interrupted by the task. -/
def ninthInterrupted : List RequestEvent :=
  List.replicate 9 (.call openNetwork) ++
    [.enqueueGoesOn, .taskGoesOn, .taskGoesOn, .enqueueGoesOn]

/-- The ninth request takes the place of the first, and is the last one applied. -/
theorem ninthInterrupted_applied :
    (run requestStep (List.replicate 10 .taskGoesOn)
        (run requestStep ninthInterrupted (.initial [] 0))).tasks.applied.getLast? =
      (images requestStep requested ninthInterrupted (.initial [] 0)).zipIdx.getLast? :=
  (latest_request_wins [] (by decide) 0 ninthInterrupted).2.2.2.2.2.1 rfl 10 (by decide)

end Wifi
end AvensysEsp32
