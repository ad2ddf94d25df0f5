import Mathlib.Data.List.Lemmas
import AvensysEsp32.Foundation.Machine

/-!
# A bounded queue that drops its oldest item

One task puts items in a queue of bounded length, another takes them out.  A
sender that finds the queue full takes out an item itself and sends again; a
receiver takes all items there are, and uses the one it has taken last.  Each
operation on the queue is one step, and the steps of the two tasks come in any
order.

Items are numbered as they are sent, so that equal items are told apart.  Beside
the queue the state records what has been sent, received and used; `Accounted`
compares the record with the calls that were made.
-/

namespace AvensysEsp32
namespace Foundation
namespace DropOldest

universe u

variable {α : Type u}

/-- Where the sender is: between two calls, or in one, before it takes an item
out and before it sends again. -/
inductive Sender (α : Type u)
  | idle
  | full (item : α × Nat)
  | retry (item : α × Nat)

/-- Where the receiver is: before its first receive, before the next one, or
about to use an item. -/
inductive Receiver (α : Type u)
  | waiting
  | draining (latest : α × Nat)
  | applying (latest : α × Nat)

structure State (α : Type u) where
  queue : List (α × Nat)
  sender : Sender α
  receiver : Receiver α
  /-- The number of the next item. -/
  next : Nat
  /-- What has been put in the queue, in order. -/
  sent : List (α × Nat)
  /-- What the receiver has taken from the queue, in order. -/
  received : List (α × Nat)
  /-- What the receiver has used, in order. -/
  applied : List (α × Nat)
  /-- What the calls of the sender have returned. -/
  returned : List Bool

inductive Event (α : Type u)
  /-- The sender is called with an item, and sends it. -/
  | send (item : α)
  /-- The sender goes on. -/
  | sender
  /-- The receiver goes on. -/
  | receiver

/-- A send that does not wait. -/
def State.trySend (capacity : Nat) (item : α × Nat) (full : Sender α) (failed : List Bool)
    (s : State α) : State α :=
  if s.queue.length < capacity then
    { s with
      queue := s.queue ++ [item]
      sender := .idle
      sent := s.sent ++ [item]
      returned := s.returned ++ [true] }
  else { s with sender := full, returned := s.returned ++ failed }

/-- The sender is called. -/
def State.call (capacity : Nat) (item : α) (s : State α) : State α :=
  match s.sender with
  | .idle =>
      { s with next := s.next + 1 }.trySend capacity (item, s.next) (.full (item, s.next)) []
  | _ => s

/-- The sender goes on with its call. -/
def State.goOn (capacity : Nat) (s : State α) : State α :=
  match s.sender with
  | .idle => s
  | .full item => { s with queue := s.queue.tail, sender := .retry item }
  | .retry item => s.trySend capacity item .idle [false]

/-- The receiver takes an item, finds that there is none, or uses the last. -/
def State.receive (s : State α) : State α :=
  match s.receiver, s.queue with
  | .applying latest, _ => { s with receiver := .waiting, applied := s.applied ++ [latest] }
  | .waiting, [] => s
  | .draining latest, [] => { s with receiver := .applying latest }
  | _, item :: rest =>
      { s with queue := rest, receiver := .draining item, received := s.received ++ [item] }

/-- One step.  A call while the sender is in another does not happen. -/
def step (capacity : Nat) (e : Event α) (s : State α) : State α :=
  match e with
  | .send item => s.call capacity item
  | .sender => s.goOn capacity
  | .receiver => s.receive

/-- A queue that holds the given items, before either task goes on. -/
def State.initial (items : List α) : State α where
  queue := items.zipIdx
  sender := .idle
  receiver := .waiting
  next := items.length
  sent := items.zipIdx
  received := []
  applied := []
  returned := []

/-! ## The invariant -/

/-- The item of the call under way. -/
def Sender.pending : Sender α → List (α × Nat)
  | .idle => []
  | .full item => [item]
  | .retry item => [item]

/-- The item that the receiver has taken last and not yet used. -/
def Receiver.held : Receiver α → List (α × Nat)
  | .waiting => []
  | .draining latest => [latest]
  | .applying latest => [latest]

/-- In the order of their numbers. -/
def Increasing (items : List (α × Nat)) : Prop :=
  items.Pairwise fun a b => a.2 < b.2

/-- Whether the sender has taken an item out and not yet sent again. -/
def Sender.retrying : Sender α → Bool
  | .retry _ => true
  | _ => false

/-- What holds in every state that is reached. -/
structure Sound (capacity : Nat) (s : State α) : Prop where
  /-- Items are received in order, then those in the queue, then the one of the
  call under way. -/
  increasing : Increasing (s.received ++ s.queue ++ s.sender.pending)
  numbered : ∀ item ∈ s.received ++ s.queue ++ s.sender.pending, item.2 < s.next
  bounded : s.queue.length ≤ capacity
  /-- There is room for a second send. -/
  room : s.sender.retrying = true → s.queue.length < capacity
  /-- What is used has been received, and the receiver has the last item. -/
  used : (s.applied ++ s.receiver.held).Sublist s.received
  last : (s.applied ++ s.receiver.held).getLast? = s.received.getLast?
  /-- The item sent last is not lost. -/
  newest : s.sender.retrying = false → (s.received ++ s.queue).getLast? = s.sent.getLast?
  succeeded : ∀ result ∈ s.returned, result = true

theorem increasing_zipIdx (items : List α) (first : Nat) :
    Increasing (items.zipIdx first) := by
  induction items generalizing first with
  | nil => exact List.Pairwise.nil
  | cons item items ih =>
      rw [List.zipIdx_cons]
      refine List.Pairwise.cons ?_ (ih (first + 1))
      intro later hlater
      have hfirst := List.le_snd_of_mem_zipIdx hlater
      exact Nat.lt_of_succ_le hfirst

theorem sound_initial
    {capacity : Nat} (items : List α) (h : items.length ≤ capacity) :
    Sound capacity (.initial items) where
  increasing := by
    simpa [State.initial, Sender.pending] using increasing_zipIdx items 0
  numbered := by
    intro item hitem
    have hmem : item ∈ items.zipIdx := by
      simpa [State.initial, Sender.pending] using hitem
    exact List.snd_lt_of_mem_zipIdx hmem
  bounded := by simpa [State.initial] using h
  room := by rintro ⟨⟩
  used := List.Sublist.refl _
  last := rfl
  newest := fun _ => rfl
  succeeded := fun result hresult => by cases hresult

section Steps

variable {capacity : Nat} {s : State α}

/-- Numbers that all items keep below may be given to one more. -/
theorem increasing_append_next
    {items : List (α × Nat)} {next : Nat} (h : Increasing items)
    (hnumbered : ∀ item ∈ items, item.2 < next) (item : α) :
    Increasing (items ++ [(item, next)]) := by
  refine List.pairwise_append.mpr ⟨h, List.pairwise_singleton _ _, ?_⟩
  intro earlier hearlier later hlater
  rw [List.mem_singleton.mp hlater]
  exact hnumbered earlier hearlier

/-- An item is put in a queue that has room for it. -/
theorem Sound.put
    {item : α × Nat} (h : Sound capacity s) (hroom : s.queue.length < capacity)
    {next : Nat} (hincreasing : Increasing (s.received ++ s.queue ++ [item]))
    (hnumbered : ∀ other ∈ s.received ++ s.queue ++ [item], other.2 < next) :
    Sound capacity
      { s with
        next := next
        queue := s.queue ++ [item]
        sender := .idle
        sent := s.sent ++ [item]
        returned := s.returned ++ [true] } where
  increasing := by
    simpa [Sender.pending] using hincreasing
  numbered := by
    simpa [Sender.pending] using hnumbered
  bounded := by
    show (s.queue ++ [item]).length ≤ capacity
    rw [List.length_append]
    exact hroom
  room := by rintro ⟨⟩
  used := h.used
  last := h.last
  newest := fun _ => by simp
  succeeded := by
    intro result hresult
    rcases List.mem_append.mp hresult with hold | hnew
    · exact h.succeeded result hold
    · exact List.mem_singleton.mp hnew

/-- A send to a queue that has room, and one to a full queue. -/
theorem trySend_room
    (item : α × Nat) (full : Sender α) (failed : List Bool) (h : s.queue.length < capacity) :
    s.trySend capacity item full failed =
      { s with
        queue := s.queue ++ [item]
        sender := .idle
        sent := s.sent ++ [item]
        returned := s.returned ++ [true] } :=
  if_pos h

theorem trySend_full
    (item : α × Nat) (full : Sender α) (failed : List Bool) (h : capacity ≤ s.queue.length) :
    s.trySend capacity item full failed =
      { s with sender := full, returned := s.returned ++ failed } :=
  if_neg (Nat.not_lt.mpr h)

/-- A call that is not interrupted puts its item in the queue, and in the place
of the oldest if the queue is full. -/
theorem call_uninterrupted
    (item : α) (hidle : s.sender = .idle) (hcapacity : 0 < capacity)
    (hbounded : s.queue.length ≤ capacity) :
    ((s.call capacity item).goOn capacity).goOn capacity =
      { s with
        queue := (if s.queue.length < capacity then s.queue else s.queue.tail) ++ [(item, s.next)]
        next := s.next + 1
        sent := s.sent ++ [(item, s.next)]
        returned := s.returned ++ [true] } := by
  obtain ⟨queue, sender, receiver, next, sent, received, applied, returned⟩ := s
  cases hidle
  by_cases hroom : queue.length < capacity
  · have hsent : State.call capacity item
        ⟨queue, .idle, receiver, next, sent, received, applied, returned⟩ =
          ⟨queue ++ [(item, next)], .idle, receiver, next + 1, sent ++ [(item, next)], received,
            applied, returned ++ [true]⟩ :=
      trySend_room _ _ _ hroom
    rw [hsent, if_pos hroom]
    rfl
  · have hfull : State.call capacity item
        ⟨queue, .idle, receiver, next, sent, received, applied, returned⟩ =
          ⟨queue, .full (item, next), receiver, next + 1, sent, received, applied,
            returned ++ []⟩ :=
      trySend_full _ _ _ (Nat.le_of_not_lt hroom)
    rw [hfull, List.append_nil, if_neg hroom]
    refine trySend_room _ _ _ ?_
    show queue.tail.length < capacity
    rw [List.length_tail]
    simp only at hbounded
    omega

/-- A call that begins. -/
theorem Sound.call
    (h : Sound capacity s) (item : α) :
    Sound capacity (s.call capacity item) := by
  unfold State.call
  cases hsender : s.sender with
  | full pending => exact h
  | retry pending => exact h
  | idle =>
      have hincreasing := h.increasing
      have hnumbered := h.numbered
      simp only [hsender, Sender.pending, List.append_nil] at hincreasing hnumbered
      have hincreasing' := increasing_append_next hincreasing hnumbered item
      have hnumbered' : ∀ other ∈ s.received ++ s.queue ++ [(item, s.next)],
          other.2 < s.next + 1 := by
        intro other hother
        rcases List.mem_append.mp hother with hold | hnew
        · exact Nat.lt_succ_of_lt (hnumbered other hold)
        · rw [List.mem_singleton.mp hnew]
          exact Nat.lt_succ_self _
      dsimp only
      unfold State.trySend
      dsimp only
      split
      · rename_i hroom
        exact h.put hroom hincreasing' hnumbered'
      · refine ⟨hincreasing', hnumbered', h.bounded, ?_, h.used, h.last, fun _ => ?_, ?_⟩
        · rintro ⟨⟩
        · exact h.newest (by rw [hsender]; rfl)
        · simpa using h.succeeded

/-- A call that goes on: the second send finds room, since only the receiver has
been at the queue. -/
theorem Sound.goOn
    (h : Sound capacity s) (hcapacity : 0 < capacity) :
    Sound capacity (s.goOn capacity) := by
  unfold State.goOn
  have hincreasing := h.increasing
  have hnumbered := h.numbered
  cases hsender : s.sender with
  | idle => exact h
  | full item =>
      rw [hsender] at hincreasing hnumbered
      -- Without its oldest item the queue is as increasing as before.
      have hsublist : (s.received ++ s.queue.tail ++ [item]).Sublist
          (s.received ++ s.queue ++ [item]) :=
        ((List.Sublist.refl _).append (List.tail_sublist _)).append (List.Sublist.refl _)
      have hbounded := h.bounded
      refine ⟨hincreasing.sublist hsublist, fun other hother => ?_, ?_, fun _ => ?_, h.used,
        h.last, by rintro ⟨⟩, h.succeeded⟩
      · exact hnumbered other (hsublist.subset hother)
      · show s.queue.tail.length ≤ capacity
        rw [List.length_tail]
        omega
      · show s.queue.tail.length < capacity
        rw [List.length_tail]
        omega
  | retry item =>
      rw [hsender] at hincreasing hnumbered
      have hroom : s.queue.length < capacity := h.room (by rw [hsender]; rfl)
      dsimp only
      unfold State.trySend
      rw [if_pos hroom]
      exact h.put hroom hincreasing hnumbered

/-- The receiver takes the oldest item. -/
theorem Sound.take
    (h : Sound capacity s) {item : α × Nat} {rest : List (α × Nat)}
    (hqueue : s.queue = item :: rest)
    (happlied : s.applied.Sublist s.received) :
    Sound capacity
      { s with
        queue := rest
        receiver := .draining item
        received := s.received ++ [item] } := by
  have hsame : s.received ++ [item] ++ rest = s.received ++ s.queue := by
    rw [hqueue, List.append_assoc, List.singleton_append]
  have hincreasing := h.increasing
  have hnumbered := h.numbered
  have hbounded := h.bounded
  have hroom := h.room
  rw [← hsame] at hincreasing hnumbered
  rw [hqueue, List.length_cons] at hbounded hroom
  refine ⟨hincreasing, hnumbered, Nat.le_of_succ_le hbounded, fun hretry => ?_, ?_, ?_,
    fun hidle => ?_, h.succeeded⟩
  · exact Nat.lt_of_succ_lt (hroom hretry)
  · exact happlied.append (List.Sublist.refl _)
  · show (s.applied ++ [item]).getLast? = (s.received ++ [item]).getLast?
    rw [List.getLast?_concat, List.getLast?_concat]
  · show (s.received ++ [item] ++ rest).getLast? = s.sent.getLast?
    rw [hsame]
    exact h.newest hidle

theorem receive_applying
    {latest : α × Nat} (h : s.receiver = .applying latest) :
    s.receive = { s with receiver := .waiting, applied := s.applied ++ [latest] } := by
  unfold State.receive
  rw [h]

theorem receive_nothing
    (h : s.receiver = .waiting) (hqueue : s.queue = []) :
    s.receive = s := by
  unfold State.receive
  rw [h, hqueue]

theorem receive_drained
    {latest : α × Nat} (h : s.receiver = .draining latest) (hqueue : s.queue = []) :
    s.receive = { s with receiver := .applying latest } := by
  unfold State.receive
  rw [h, hqueue]

theorem receive_item
    (h : ∀ latest, s.receiver ≠ .applying latest) {item : α × Nat} {rest : List (α × Nat)}
    (hqueue : s.queue = item :: rest) :
    s.receive =
      { s with queue := rest, receiver := .draining item, received := s.received ++ [item] } := by
  unfold State.receive
  cases hreceiver : s.receiver with
  | applying latest => exact absurd hreceiver (h latest)
  | waiting => rw [hqueue]
  | draining latest => rw [hqueue]

/-- The receiver goes on. -/
theorem Sound.receive
    (h : Sound capacity s) :
    Sound capacity s.receive := by
  have hused := h.used
  have hlast := h.last
  have happlied : s.applied.Sublist s.received := (List.sublist_append_left _ _).trans hused
  cases hreceiver : s.receiver with
  | applying latest =>
      rw [hreceiver] at hused hlast
      rw [receive_applying hreceiver]
      refine ⟨h.increasing, h.numbered, h.bounded, h.room, ?_, ?_, h.newest, h.succeeded⟩
      · simpa [Receiver.held] using hused
      · simpa [Receiver.held] using hlast
  | waiting =>
      cases hqueue : s.queue with
      | nil => rwa [receive_nothing hreceiver hqueue]
      | cons item rest =>
          rw [receive_item (by rw [hreceiver]; rintro _ ⟨⟩) hqueue]
          exact h.take hqueue happlied
  | draining latest =>
      cases hqueue : s.queue with
      | nil =>
          rw [hreceiver] at hused hlast
          rw [receive_drained hreceiver hqueue]
          exact ⟨h.increasing, h.numbered, h.bounded, h.room, hused, hlast, h.newest, h.succeeded⟩
      | cons item rest =>
          rw [receive_item (by rw [hreceiver]; rintro _ ⟨⟩) hqueue]
          exact h.take hqueue happlied

end Steps

/-! ## The account of the calls -/

/-- What the queue held, then the items of the calls that were made, and what has
become of them: they are sent in order, but for the one of the call under way,
every other call has returned, and only what was sent is in the queue or has
been received. -/
structure Accounted (queued made : List α) (s : State α) : Prop where
  sent : s.sent ++ s.sender.pending = (queued ++ made).zipIdx
  next : s.next = (queued ++ made).length
  answered : s.returned.length + s.sender.pending.length = made.length
  passed : (s.received ++ s.queue).Sublist s.sent

theorem accounted_initial (queued : List α) :
    Accounted queued [] (.initial queued) where
  sent := by simp [State.initial, Sender.pending]
  next := by simp [State.initial]
  answered := rfl
  passed := List.Sublist.refl _

section Account

variable {capacity : Nat} {queued made : List α} {s : State α}

/-- A call that begins is one more. -/
theorem Accounted.call
    (h : Accounted queued made s) (hidle : s.sender = .idle) (item : α) :
    Accounted queued (made ++ [item]) (s.call capacity item) := by
  have hsent := h.sent
  have hanswered := h.answered
  rw [hidle] at hsent hanswered
  simp only [Sender.pending, List.append_nil, List.length_nil, Nat.add_zero] at hsent hanswered
  have hmade : s.sent ++ [(item, s.next)] = (queued ++ (made ++ [item])).zipIdx := by
    rw [← List.append_assoc, List.zipIdx_append, hsent, h.next, Nat.zero_add]
    rfl
  have hnext : s.next + 1 = (queued ++ (made ++ [item])).length := by
    rw [h.next]
    simp [Nat.add_assoc]
  unfold State.call
  rw [hidle]
  dsimp only
  unfold State.trySend
  dsimp only
  split
  · refine ⟨?_, hnext, ?_, ?_⟩
    · simpa [Sender.pending] using hmade
    · simpa [Sender.pending] using hanswered
    · show (s.received ++ (s.queue ++ [(item, s.next)])).Sublist (s.sent ++ [(item, s.next)])
      rw [← List.append_assoc]
      exact h.passed.append (List.Sublist.refl _)
  · refine ⟨hmade, hnext, ?_, h.passed⟩
    simpa [Sender.pending] using hanswered

/-- A call that goes on sends the item it was made with. -/
theorem Accounted.goOn
    (h : Accounted queued made s) (hsound : Sound capacity s) :
    Accounted queued made (s.goOn capacity) := by
  have hsent := h.sent
  have hanswered := h.answered
  unfold State.goOn
  cases hsender : s.sender with
  | idle => exact h
  | full item =>
      rw [hsender] at hsent hanswered
      refine ⟨hsent, h.next, hanswered, ?_⟩
      exact ((List.Sublist.refl _).append (List.tail_sublist _)).trans h.passed
  | retry item =>
      rw [hsender] at hsent hanswered
      have hroom : s.queue.length < capacity := hsound.room (by rw [hsender]; rfl)
      dsimp only
      rw [trySend_room _ _ _ hroom]
      refine ⟨?_, h.next, ?_, ?_⟩
      · simpa [Sender.pending] using hsent
      · simpa [Sender.pending] using hanswered
      · show (s.received ++ (s.queue ++ [item])).Sublist (s.sent ++ [item])
        rw [← List.append_assoc]
        exact h.passed.append (List.Sublist.refl _)

/-- The receiver changes nothing in the account. -/
theorem Accounted.receive
    (h : Accounted queued made s) :
    Accounted queued made s.receive := by
  have htake : ∀ item rest, s.queue = item :: rest → (∀ latest, s.receiver ≠ .applying latest) →
      Accounted queued made s.receive := by
    intro item rest hqueue hreceiver
    rw [receive_item hreceiver hqueue]
    refine ⟨h.sent, h.next, h.answered, ?_⟩
    show (s.received ++ [item] ++ rest).Sublist s.sent
    rw [List.append_assoc, List.singleton_append, ← hqueue]
    exact h.passed
  cases hreceiver : s.receiver with
  | applying latest =>
      rw [receive_applying hreceiver]
      exact ⟨h.sent, h.next, h.answered, h.passed⟩
  | waiting =>
      cases hqueue : s.queue with
      | nil => rwa [receive_nothing hreceiver hqueue]
      | cons item rest => exact htake item rest hqueue (by rw [hreceiver]; rintro _ ⟨⟩)
  | draining latest =>
      cases hqueue : s.queue with
      | nil =>
          rw [receive_drained hreceiver hqueue]
          exact ⟨h.sent, h.next, h.answered, h.passed⟩
      | cons item rest => exact htake item rest hqueue (by rw [hreceiver]; rintro _ ⟨⟩)

/-- While no call is under way every item has been sent. -/
theorem Accounted.sent_of_idle
    (h : Accounted queued made s) (hidle : s.sender = .idle) :
    s.sent = (queued ++ made).zipIdx := by
  have hsent := h.sent
  rwa [hidle, Sender.pending, List.append_nil] at hsent

/-- How many steps the call under way needs. -/
def Sender.left : Sender α → Nat
  | .idle => 0
  | .full _ => 2
  | .retry _ => 1

theorem Sender.left_le (sender : Sender α) :
    sender.left ≤ 2 := by
  cases sender <;> simp [Sender.left]

theorem Sender.eq_idle_of_left
    {sender : Sender α} (h : sender.left = 0) :
    sender = .idle := by
  cases sender with
  | idle => rfl
  | full item => cases h
  | retry item => cases h

/-- Each step of a call is one less to do: its second send succeeds. -/
theorem Sound.goOn_left
    (h : Sound capacity s) :
    (s.goOn capacity).sender.left = s.sender.left - 1 := by
  unfold State.goOn
  cases hsender : s.sender with
  | idle =>
      dsimp only
      rw [hsender]
      rfl
  | full item => rfl
  | retry item =>
      have hroom : s.queue.length < capacity := h.room (by rw [hsender]; rfl)
      dsimp only
      rw [trySend_room _ _ _ hroom]
      rfl

end Account

/-! ## What is used -/

section Results

variable {capacity : Nat} {s : State α}

/-- Items are used in the order in which they were sent, and none twice. -/
theorem Sound.applied_increasing
    (h : Sound capacity s) :
    Increasing s.applied := by
  have hsublist : s.applied.Sublist (s.received ++ s.queue ++ s.sender.pending) :=
    ((List.sublist_append_left _ _).trans h.used).trans
      ((List.sublist_append_left _ _).trans (List.sublist_append_left _ _))
  exact h.increasing.sublist hsublist

/-- While no call is under way, the item sent last is in the queue, or has been
received. -/
theorem Sound.newest_mem
    (h : Sound capacity s) (hidle : s.sender.retrying = false) {newest : α × Nat}
    (hnewest : s.sent.getLast? = some newest) :
    newest ∈ s.queue ∨ newest ∈ s.received := by
  rw [← h.newest hidle] at hnewest
  exact (List.mem_append.mp (List.mem_of_getLast? hnewest)).symm

/-- What is used has been sent. -/
theorem Sound.applied_sublist
    (h : Sound capacity s) {queued made : List α} (haccounted : Accounted queued made s) :
    s.applied.Sublist s.sent :=
  ((List.sublist_append_left _ _).trans h.used).trans
    ((List.sublist_append_left _ _).trans haccounted.passed)

/-- How many steps the receiver needs to use all there is. -/
def State.work (s : State α) : Nat :=
  match s.receiver with
  | .waiting => if s.queue = [] then 0 else s.queue.length + 2
  | .draining _ => s.queue.length + 2
  | .applying _ => if s.queue = [] then 1 else s.queue.length + 3

theorem work_le (s : State α) :
    s.work ≤ s.queue.length + 3 := by
  unfold State.work
  split
  · split <;> omega
  · omega
  · split <;> omega

/-- Each step of the receiver is one less to do, and it leaves the sender and
what has been sent alone. -/
theorem receive_work (s : State α) :
    s.receive.work = s.work - 1 ∧ s.receive.sender = s.sender ∧ s.receive.sent = s.sent := by
  cases hreceiver : s.receiver with
  | applying latest =>
      rw [receive_applying hreceiver]
      refine ⟨?_, rfl, rfl⟩
      unfold State.work
      rw [hreceiver]
      dsimp only
      split <;> rfl
  | waiting =>
      cases hqueue : s.queue with
      | nil =>
          rw [receive_nothing hreceiver hqueue]
          refine ⟨?_, rfl, rfl⟩
          unfold State.work
          rw [hreceiver]
          dsimp only
          rw [if_pos hqueue]
      | cons item rest =>
          rw [receive_item (by rw [hreceiver]; rintro _ ⟨⟩) hqueue]
          refine ⟨?_, rfl, rfl⟩
          unfold State.work
          rw [hreceiver, hqueue]
          rfl
  | draining latest =>
      cases hqueue : s.queue with
      | nil =>
          rw [receive_drained hreceiver hqueue]
          refine ⟨?_, rfl, rfl⟩
          unfold State.work
          rw [hreceiver, hqueue]
          rfl
      | cons item rest =>
          rw [receive_item (by rw [hreceiver]; rintro _ ⟨⟩) hqueue]
          refine ⟨?_, rfl, rfl⟩
          unfold State.work
          rw [hreceiver, hqueue]
          rfl

/-- A receiver that is not interrupted takes all items and is about to use the
last. -/
theorem run_receiver_drains
    (capacity : Nat) {items : List (α × Nat)} {latest : α × Nat}
    (hqueue : s.queue = items ++ [latest])
    (hreceiver : ∀ item, s.receiver ≠ .applying item) :
    Foundation.run (step capacity) (List.replicate (items.length + 2) .receiver) s =
      { s with
        queue := []
        receiver := .applying latest
        received := s.received ++ s.queue } := by
  induction items generalizing s with
  | nil =>
      have htake := receive_item hreceiver hqueue
      show s.receive.receive = _
      rw [htake, receive_drained rfl rfl, hqueue]
      rfl
  | cons item items ih =>
      rw [List.cons_append] at hqueue
      have htake := receive_item hreceiver hqueue
      have hrest := ih (s := s.receive) (by rw [htake]) (by rw [htake]; rintro _ ⟨⟩)
      rw [List.length_cons, List.replicate_succ, run_cons]
      refine hrest.trans ?_
      rw [htake, hqueue]
      simp

/-- Steps of the receiver alone bring its work to an end. -/
theorem run_receiver_work (capacity n : Nat) (s : State α) :
    (Foundation.run (step capacity) (List.replicate n .receiver) s).work = s.work - n ∧
      (Foundation.run (step capacity) (List.replicate n .receiver) s).sender = s.sender ∧
      (Foundation.run (step capacity) (List.replicate n .receiver) s).sent = s.sent := by
  induction n generalizing s with
  | zero => exact ⟨rfl, rfl, rfl⟩
  | succ n ih =>
      obtain ⟨hwork, hsender, hsent⟩ := receive_work s
      obtain ⟨hwork', hsender', hsent'⟩ := ih s.receive
      rw [List.replicate_succ, run_cons]
      refine ⟨?_, hsender'.trans hsender, hsent'.trans hsent⟩
      refine hwork'.trans ?_
      rw [hwork]
      omega

/-- When the receiver has nothing to do and no call is under way, it has used
the item sent last. -/
theorem Sound.applied_newest
    (h : Sound capacity s) (hidle : s.sender.retrying = false) (hwork : s.work = 0) :
    s.applied.getLast? = s.sent.getLast? := by
  have hlast := h.last
  have hnewest := h.newest hidle
  unfold State.work at hwork
  cases hreceiver : s.receiver with
  | applying latest =>
      rw [hreceiver] at hwork
      dsimp only at hwork
      split at hwork <;> omega
  | draining latest =>
      rw [hreceiver] at hwork
      dsimp only at hwork
      omega
  | waiting =>
      rw [hreceiver] at hwork hlast
      dsimp only at hwork
      split at hwork
      · rename_i hqueue
        rw [hqueue, List.append_nil] at hnewest
        rw [← hnewest, ← hlast]
        simp [Receiver.held]
      · omega

end Results

end DropOldest
end Foundation
end AvensysEsp32
