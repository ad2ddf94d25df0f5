import AvensysEsp32.UnitComm.Image

/-!
# The gateway, the unit board and the line between them

A system is the gateway, the board's EEPROM image, the requests the board has
received and not yet answered, and the replies on their way back.  Replies
arrive in the order in which they are sent, at any time, and may be corrupted.

`Transit` follows one reply from the board to the call of `Read_Message` that
downloads it.
-/

namespace AvensysEsp32
namespace UnitComm

open Foundation Serial

/-! ## Systems -/

structure System where
  gateway : UnitState
  /-- The EEPROM of the unit board. -/
  board : Memory
  /-- Requests received by the board, oldest first. -/
  requests : List (List UInt8)
  /-- Replies on their way, oldest first. -/
  replies : List (List UInt8)

inductive SystemEvent
  /-- Something happens at the gateway. -/
  | gateway (e : Event)
  /-- The board answers its oldest request. -/
  | answer (a : Answer)
  /-- The image on the board changes. -/
  | change (eeprom : Memory)
  /-- The oldest reply arrives. -/
  | deliver
  /-- The oldest reply arrives as other bytes. -/
  | corrupt (bytes : List UInt8)

def systemStep (e : SystemEvent) (sys : System) : System :=
  match e with
  | .gateway e =>
      { sys with
        gateway := step e sys.gateway
        requests := sys.requests ++ sent e sys.gateway }
  | .answer a =>
      match sys.requests with
      | [] => sys
      | request :: requests =>
          match boardAnswer sys.board a request with
          | some (board, reply) =>
              { sys with board := board, requests := requests, replies := sys.replies ++ [reply] }
          | none => { sys with requests := requests }
  | .change eeprom => { sys with board := eeprom }
  | .deliver =>
      match sys.replies with
      | [] => sys
      | reply :: replies =>
          { sys with gateway := step (.uartData reply) sys.gateway, replies := replies }
  | .corrupt bytes =>
      match sys.replies with
      | [] => sys
      | _ :: replies =>
          { sys with gateway := step (.uartData bytes) sys.gateway, replies := replies }

/-- A gateway that has just been started, and a board that has heard nothing. -/
def System.boot (gateway : UnitState) (eeprom : Memory) : System where
  gateway := gateway
  board := eeprom
  requests := []
  replies := []

/-! ## One message on the line -/

/-- The message `w` is on its way to the gateway: still on the line, in the
cache, or noticed.  Nothing else is. -/
inductive Transit (w : List UInt8) (replies : List (List UInt8)) (p : SerialPort) : Prop
  | onLine (hreplies : replies = [w]) (hport : Idle p)
  | cached (hreplies : replies = []) (hport : Arrived w p)
  | noticed (hreplies : replies = []) (hport : Holding w p)

/-- Nothing is asked, on its way or in the receiver. -/
structure Quiet (sys : System) : Prop where
  requests : sys.requests = []
  replies : sys.replies = []
  port : Idle sys.gateway.port

instance (sys : System) : Decidable (Quiet sys) :=
  decidable_of_iff (sys.requests = [] ∧ sys.replies = [] ∧ Idle sys.gateway.port)
    ⟨fun h => ⟨h.1, h.2.1, h.2.2⟩, fun h => ⟨h.requests, h.replies, h.port⟩⟩

/-- The board has one request to answer, and nothing is on its way. -/
structure Asked (request : List UInt8) (sys : System) : Prop where
  requests : sys.requests = [request]
  replies : sys.replies = []
  port : Idle sys.gateway.port

/-- The board has nothing to answer, and one message is on its way. -/
structure Replied (w : List UInt8) (sys : System) : Prop where
  requests : sys.requests = []
  transit : Transit w sys.replies sys.gateway.port

section Transit

variable {w : List UInt8} {replies : List (List UInt8)} {p : SerialPort}

/-- A call of `Read_Message` downloads the message, or finds nothing to report
and leaves it on its way. -/
theorem Transit.readMessage
    (h : Transit w replies p)
    (hpos : 0 < w.length) (hlen : w.length < rxBufferSize) :
    (((readMessage p).1 = bufferRxEmpy ∨ (readMessage p).1 = runDownload) ∧
        Transit w replies (readMessage p).2) ∨
      (readMessage p = (verdict w, p.received w) ∧ replies = [] ∧ Idle (p.received w)) := by
  cases h with
  | onLine hreplies hport =>
      left
      have hread := hport.readMessage
      rw [readMessage_idle hport] at hread ⊢
      exact ⟨Or.inl rfl, .onLine hreplies hread⟩
  | cached hreplies hport =>
      left
      rw [readMessage_arrived hport hpos (Nat.le_of_lt hlen)]
      exact ⟨Or.inr rfl, .noticed hreplies hport.noticed⟩
  | noticed hreplies hport =>
      right
      exact ⟨readMessage_holding hport hpos hlen, hreplies, idle_received hport⟩

end Transit

section Steps

variable {sys : System} {w request : List UInt8}

/-- An event of the gateway that sends nothing reaches nothing else. -/
theorem systemStep_gateway_of_silent
    {e : Event}
    (h : Sends [] sys.gateway (step e sys.gateway)) :
    systemStep (.gateway e) sys = { sys with gateway := step e sys.gateway } := by
  simp only [systemStep, sent_eq h, List.append_nil]

theorem systemStep_iterate_gateway
    (inp : IterationInput) (sys : System) :
    (systemStep (.gateway (.iterate inp)) sys).gateway = unitEventTask inp sys.gateway := by
  rfl

theorem systemStep_answer_of_none
    (a : Answer)
    (h : sys.requests = []) :
    systemStep (.answer a) sys = sys := by
  unfold systemStep
  rw [h]

theorem systemStep_deliver_of_none
    (h : sys.replies = []) :
    systemStep .deliver sys = sys := by
  unfold systemStep
  rw [h]

theorem systemStep_corrupt_of_none
    (bytes : List UInt8)
    (h : sys.replies = []) :
    systemStep (.corrupt bytes) sys = sys := by
  unfold systemStep
  rw [h]

theorem systemStep_answer_gateway
    (a : Answer) (sys : System) :
    (systemStep (.answer a) sys).gateway = sys.gateway := by
  unfold systemStep
  dsimp only
  split
  · rfl
  · split
    · rfl
    · rfl

/-- Answered, a request becomes a reply on its way. -/
theorem Asked.answer
    (h : Asked request sys) (a : Answer) {board : Memory} {reply : List UInt8}
    (hanswer : boardAnswer sys.board a request = some (board, reply)) :
    Replied reply (systemStep (.answer a) sys) ∧
      (systemStep (.answer a) sys).board = board ∧
      (systemStep (.answer a) sys).gateway = sys.gateway := by
  have hstep : systemStep (.answer a) sys =
      { sys with board := board, requests := [], replies := [reply] } := by
    unfold systemStep
    rw [h.requests]
    dsimp only
    rw [hanswer, h.replies]
    rfl
  rw [hstep]
  exact ⟨⟨rfl, .onLine rfl h.port⟩, rfl, rfl⟩

/-- The arrival of the message leaves it on its way. -/
theorem Replied.deliver
    (h : Replied w sys)
    (hlen : w.length ≤ uart1RxCacheSize) :
    Replied w (systemStep .deliver sys) := by
  obtain ⟨hrequests, htransit⟩ := h
  cases htransit with
  | onLine hreplies hport =>
      have hstep : systemStep .deliver sys =
          { sys with gateway := step (.uartData w) sys.gateway, replies := [] } := by
        unfold systemStep
        rw [hreplies]
      rw [hstep]
      exact ⟨hrequests, .cached rfl (hport.uartEventTask hlen)⟩
  | cached hreplies hport =>
      rw [systemStep_deliver_of_none hreplies]
      exact ⟨hrequests, .cached hreplies hport⟩
  | noticed hreplies hport =>
      rw [systemStep_deliver_of_none hreplies]
      exact ⟨hrequests, .noticed hreplies hport⟩

/-- A corrupted arrival puts other bytes in the message's place, if it was
still on the line. -/
theorem Replied.corrupt
    (h : Replied w sys) {bytes : List UInt8}
    (hlen : bytes.length ≤ uart1RxCacheSize) :
    Replied bytes (systemStep (.corrupt bytes) sys) ∨
      systemStep (.corrupt bytes) sys = sys := by
  obtain ⟨hrequests, htransit⟩ := h
  cases htransit with
  | onLine hreplies hport =>
      left
      have hstep : systemStep (.corrupt bytes) sys =
          { sys with gateway := step (.uartData bytes) sys.gateway, replies := [] } := by
        unfold systemStep
        rw [hreplies]
      rw [hstep]
      exact ⟨hrequests, .cached rfl (hport.uartEventTask hlen)⟩
  | cached hreplies hport =>
      exact Or.inr (systemStep_corrupt_of_none bytes hreplies)
  | noticed hreplies hport =>
      exact Or.inr (systemStep_corrupt_of_none bytes hreplies)

/-- The arrival of a message touches nothing but the receiver. -/
theorem deliver_gateway
    (e : SystemEvent) (he : e = .deliver ∨ ∃ bytes, e = .corrupt bytes) (sys : System) :
    ∃ port, (systemStep e sys).gateway = { sys.gateway with port := port } ∧
      (systemStep e sys).board = sys.board ∧ (systemStep e sys).requests = sys.requests := by
  rcases he with rfl | ⟨bytes, rfl⟩
  · unfold systemStep
    cases sys.replies with
    | nil => exact ⟨sys.gateway.port, rfl, rfl, rfl⟩
    | cons reply replies => exact ⟨_, rfl, rfl, rfl⟩
  · unfold systemStep
    cases sys.replies with
    | nil => exact ⟨sys.gateway.port, rfl, rfl, rfl⟩
    | cons reply replies => exact ⟨_, rfl, rfl, rfl⟩

end Steps

end UnitComm
end AvensysEsp32
