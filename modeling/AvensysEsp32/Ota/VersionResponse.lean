import AvensysEsp32.Foundation.Accumulation
import AvensysEsp32.Foundation.Footprint
import AvensysEsp32.Foundation.Machine

/-!
# The response to the check for new firmware

`_http_event_handler` collects the body of the server's response in
`json_response`.  Where it goes on is in the static variable `total_len`, which
it sets to zero only when it allocates the buffer, and `check_update_task` frees
the buffer only when the request has succeeded.

A run is a sequence of events of many checks.
-/

namespace AvensysEsp32
namespace Ota

open Foundation

/-- `MAX_HTTP_OUTPUT_BUFFER` -/
@[simp] abbrev maxHttpOutputBuffer : Nat := 1024

/-- The two static variables, and the bodies received. -/
structure VersionResponse where
  /-- `json_response`; `none` is the null pointer. -/
  jsonResponse : Option Memory
  /-- `total_len` -/
  totalLen : Nat
  /-- The body received so far in the check under way. -/
  received : List UInt8
  /-- The bodies received in the checks that have failed since the last that
  succeeded. -/
  leftOver : List UInt8

namespace VersionResponse

/-- The variables at boot. -/
def atBoot : VersionResponse where
  jsonResponse := none
  totalLen := 0
  received := []
  leftOver := []

end VersionResponse

/-- What happens to the response. -/
inductive ResponseEvent
  /-- `HTTP_EVENT_ON_DATA`; `allocated` is the memory that `malloc` provides, if
  it does, with what it happens to hold. -/
  | onData (chunked : Bool) (data : List UInt8) (allocated : Option Memory)
  /-- `check_update_task` goes on behind `esp_http_client_perform`, which has
  returned `ESP_OK` or not. -/
  | performed (ok : Bool)

/-- `json_response` and `total_len` after the test for the null pointer. -/
def responseBuffer (allocated : Option Memory) (s : VersionResponse) : Option Memory × Nat :=
  match s.jsonResponse with
  | none => (allocated, 0)
  | some m => (some m, s.totalLen)

/-- `_http_event_handler`, the part for `HTTP_EVENT_ON_DATA`. -/
def httpEventHandler (chunked : Bool) (data : List UInt8) (allocated : Option Memory)
    (s : VersionResponse) : VersionResponse :=
  if chunked then s
  else
    let s := { s with received := s.received ++ data }
    match responseBuffer allocated s with
    | (none, totalLen) => { s with jsonResponse := none, totalLen := totalLen }
    | (some m, totalLen) =>
        { s with
          jsonResponse := some (appendText m totalLen data)
          totalLen := totalLen + data.length }

/-- The bytes of `json_response` that the handler stores to: those of the data
and the terminator. -/
def httpEventStores (chunked : Bool) (data : List UInt8) (allocated : Option Memory)
    (s : VersionResponse) : Set Nat :=
  if chunked then ∅
  else
    match responseBuffer allocated s with
    | (none, _) => ∅
    | (some _, totalLen) => block totalLen (data.length + 1)

/-- The handler leaves alone what it does not store to. -/
def KeepsOutside (chunked : Bool) (data : List UInt8) (allocated : Option Memory)
    (s : VersionResponse) : Prop :=
  ∀ m m', (responseBuffer allocated s).1 = some m →
    (httpEventHandler chunked data allocated s).jsonResponse = some m' →
      ∀ i ∉ httpEventStores chunked data allocated s, m' i = m i

/-- What `check_update_task` does with the response: however it goes on after a
successful request, it frees the buffer. -/
def responseChecked (ok : Bool) (s : VersionResponse) : VersionResponse :=
  if ok then { s with jsonResponse := none, received := [], leftOver := [] }
  else { s with received := [], leftOver := s.leftOver ++ s.received }

def responseStep (e : ResponseEvent) (s : VersionResponse) : VersionResponse :=
  match e with
  | .onData chunked data allocated => httpEventHandler chunked data allocated s
  | .performed ok => responseChecked ok s

/-- What is to hold of data that is not chunked: the handler stores in the buffer
only, and the buffer holds the body received in this check, with its length in
`total_len`. -/
def DataExact (data : List UInt8) (allocated : Option Memory) (s : VersionResponse) : Prop :=
  let s' := httpEventHandler false data allocated s
  httpEventStores false data allocated s ⊆ block 0 maxHttpOutputBuffer ∧
    s'.totalLen = (s.received ++ data).length ∧
    ∃ m, s'.jsonResponse = some m ∧ HoldsText m (s.received ++ data)

def ResponseExact (e : ResponseEvent) (s : VersionResponse) : Prop :=
  match e with
  | .onData false data allocated => DataExact data allocated s
  | _ => True

/-- The buffer can be allocated, the checks that failed have left nothing, and
the body has room. -/
def ResponseFits (e : ResponseEvent) (s : VersionResponse) : Prop :=
  match e with
  | .onData false data allocated =>
      (s.jsonResponse = none → allocated ≠ none) ∧ s.leftOver = [] ∧
        (s.received ++ data).length < maxHttpOutputBuffer
  | _ => True

/-- The buffer holds what has been received since it was allocated. -/
structure Collected (s : VersionResponse) : Prop where
  nothing : s.jsonResponse = none → s.received = [] ∧ s.leftOver = []
  length : s.jsonResponse ≠ none → s.totalLen = (s.leftOver ++ s.received).length
  holds : ∀ m ∈ s.jsonResponse, readBytes m 0 s.totalLen = s.leftOver ++ s.received

section Handler

variable {chunked : Bool} {data : List UInt8} {allocated : Option Memory} {s : VersionResponse}

/-- What the handler does not store to stays, of the buffer or of the memory it
has just allocated for it. -/
theorem httpEventHandler_kept
    (chunked : Bool) (data : List UInt8) (allocated : Option Memory) (s : VersionResponse) :
    KeepsOutside chunked data allocated s := by
  intro m m' h h' i hi
  unfold httpEventHandler httpEventStores at *
  cases chunked with
  | true =>
      rw [if_pos rfl] at h'
      unfold responseBuffer at h
      rw [h'] at h
      cases h
      rfl
  | false =>
      have hbuffer : responseBuffer allocated { s with received := s.received ++ data } =
          responseBuffer allocated s := rfl
      simp only [Bool.false_eq_true, if_false, hbuffer] at h' hi
      generalize responseBuffer allocated s = buffer at h h' hi
      obtain ⟨fst, totalLen⟩ := buffer
      cases h
      cases h'
      exact appendText_outside hi

/-- What the handler does to a buffer, which may be the one it allocates. -/
theorem httpEventHandler_of_buffer
    (data : List UInt8) {m : Memory} {totalLen : Nat}
    (h : responseBuffer allocated s = (some m, totalLen)) :
    httpEventHandler false data allocated s =
        { s with
          received := s.received ++ data
          jsonResponse := some (appendText m totalLen data)
          totalLen := totalLen + data.length } ∧
      httpEventStores false data allocated s = block totalLen (data.length + 1) := by
  have h' : responseBuffer allocated { s with received := s.received ++ data } =
      (some m, totalLen) := h
  constructor
  · unfold httpEventHandler
    rw [if_neg (by decide)]
    dsimp only
    rw [h']
  · unfold httpEventStores
    rw [if_neg (by decide), h]

/-- Data for a buffer that holds `text`. -/
theorem dataExact_of_buffer
    {m : Memory} {text : List UInt8} (h : responseBuffer allocated s = (some m, text.length))
    (hm : readBytes m 0 text.length = text) (htext : text = s.leftOver ++ s.received) :
    DataExact data allocated s ↔
      s.leftOver = [] ∧ (s.received ++ data).length < maxHttpOutputBuffer := by
  obtain ⟨hhandler, hstores⟩ := httpEventHandler_of_buffer data h
  unfold DataExact
  rw [hhandler, hstores, block_subset_block_iff]
  dsimp only
  have hlen : text.length = s.leftOver.length + s.received.length := by
    rw [htext, List.length_append]
  simp only [List.length_append]
  constructor
  · rintro ⟨hinside, htotal, -⟩
    have hnothing : s.leftOver.length = 0 := by omega
    refine ⟨List.eq_nil_of_length_eq_zero hnothing, ?_⟩
    omega
  · rintro ⟨hleft, hroom⟩
    rw [hleft, List.nil_append] at htext
    rw [← htext] at hroom ⊢
    exact ⟨Or.inr (by omega), rfl, _, rfl, HoldsText.append hm data⟩

/-- Where the buffer holds what it is to hold, the handler is exact if and only
if the data fits. -/
theorem Collected.exact_iff
    (h : Collected s) (e : ResponseEvent) :
    ResponseExact e s ↔ ResponseFits e s := by
  cases e with
  | performed ok => exact Iff.rfl
  | onData chunked data allocated =>
      cases chunked with
      | true => exact Iff.rfl
      | false =>
          show DataExact data allocated s ↔
            (s.jsonResponse = none → allocated ≠ none) ∧ s.leftOver = [] ∧
              (s.received ++ data).length < maxHttpOutputBuffer
          cases hbuffer : s.jsonResponse with
          | none =>
              obtain ⟨hreceived, hleft⟩ := h.nothing hbuffer
              cases allocated with
              | none =>
                  refine iff_of_false ?_ (fun hfits => hfits.1 rfl rfl)
                  rintro ⟨-, -, m, hm, -⟩
                  have hnull : (httpEventHandler false data none s).jsonResponse = none := by
                    simp [httpEventHandler, responseBuffer, hbuffer]
                  rw [hnull] at hm
                  cases hm
              | some fresh =>
                  have hresponse : responseBuffer (some fresh) s =
                      (some fresh, ([] : List UInt8).length) := by
                    simp [responseBuffer, hbuffer]
                  rw [dataExact_of_buffer hresponse rfl (by rw [hreceived, hleft]; rfl)]
                  refine ⟨fun hexact => ⟨fun _ hnone => ?_, hexact⟩, fun hfits => hfits.2⟩
                  cases hnone
          | some m =>
              have htotal : s.totalLen = (s.leftOver ++ s.received).length :=
                h.length (by rw [hbuffer]; rintro ⟨⟩)
              have hholds := h.holds m hbuffer
              rw [htotal] at hholds
              have hresponse : responseBuffer allocated s =
                  (some m, (s.leftOver ++ s.received).length) := by
                simp [responseBuffer, hbuffer, htotal]
              rw [dataExact_of_buffer hresponse hholds rfl]
              refine ⟨fun hexact => ⟨fun hnone => ?_, hexact⟩, fun hfits => hfits.2⟩
              cases hnone

/-- The handler goes on with what it has collected. -/
theorem Collected.onData
    (h : Collected s) (hexact : ResponseExact (.onData chunked data allocated) s) :
    Collected (httpEventHandler chunked data allocated s) := by
  cases chunked with
  | true => exact h
  | false =>
      obtain ⟨-, hleft, -⟩ := (h.exact_iff _).mp hexact
      obtain ⟨-, htotal, m, hm, htext⟩ : DataExact data allocated s := hexact
      have hreceived : (httpEventHandler false data allocated s).received = s.received ++ data ∧
          (httpEventHandler false data allocated s).leftOver = [] := by
        unfold httpEventHandler
        rw [if_neg (by decide)]
        dsimp only
        split <;> exact ⟨rfl, hleft⟩
      refine ⟨fun hnone => ?_, fun _ => ?_, fun m' hm' => ?_⟩
      · rw [hm] at hnone
        cases hnone
      · rw [htotal, hreceived.1, hreceived.2, List.nil_append]
      · rw [hm] at hm'
        cases hm'
        rw [htotal, hreceived.1, hreceived.2, List.nil_append, htext.bytes]

end Handler

/-! ## Runs -/

theorem collected_atBoot : Collected .atBoot where
  nothing := fun _ => ⟨rfl, rfl⟩
  length := fun h => absurd rfl h
  holds := fun m hm => by cases hm

/-- Whether a check fails or not, the buffer holds what is left of it. -/
theorem Collected.checked
    {s : VersionResponse} (h : Collected s) (ok : Bool) :
    Collected (responseChecked ok s) := by
  cases ok with
  | true =>
      refine ⟨fun _ => ⟨rfl, rfl⟩, fun hbuffer => absurd rfl hbuffer, fun m hm => ?_⟩
      cases hm
  | false =>
      have hboth : (s.leftOver ++ s.received) ++ [] = s.leftOver ++ s.received :=
        List.append_nil _
      refine ⟨fun hnone => ⟨rfl, ?_⟩, fun hbuffer => ?_, fun m hm => ?_⟩
      · obtain ⟨hreceived, hleft⟩ := h.nothing hnone
        show s.leftOver ++ s.received = []
        rw [hreceived, hleft]
        rfl
      · exact (h.length hbuffer).trans (congrArg List.length hboth.symm)
      · exact (h.holds m hm).trans hboth.symm

theorem Collected.step
    {s : VersionResponse} (h : Collected s) {e : ResponseEvent} (hexact : ResponseExact e s) :
    Collected (responseStep e s) := by
  cases e with
  | onData chunked data allocated => exact h.onData hexact
  | performed ok => exact h.checked ok

/-- The handler changes nothing but what it stores to, and in every run of
checks it is safe and exact exactly when all that comes fits, and nothing is
left of a check that failed. -/
theorem response_exact_iff
    (es : List ResponseEvent) :
    (∀ chunked data allocated s, KeepsOutside chunked data allocated s) ∧
      (Along responseStep ResponseExact es .atBoot ↔
        Along responseStep ResponseFits es .atBoot) := by
  refine ⟨httpEventHandler_kept, ?_⟩
  exact along_congr_of_invariant (fun _ _ hs hexact => hs.step hexact)
    (fun e _ hs => hs.exact_iff e) es collected_atBoot

/-- A body of 1024 bytes. -/
theorem fullBody_overruns :
    ¬ ∀ es, Along responseStep ResponseExact es .atBoot := by
  intro h
  have hexact := h [.onData false (List.replicate 1024 97) (some fun _ => 0)]
  have hinside : block 0 (1024 + 1) ⊆ block 0 maxHttpOutputBuffer := by
    have hstores := hexact.1.1
    have hbuffer : responseBuffer (some fun _ => 0) .atBoot = (some fun _ => 0, 0) := rfl
    rwa [(httpEventHandler_of_buffer _ hbuffer).2, List.length_replicate] at hstores
  rw [block_subset_block_iff] at hinside
  exact absurd hinside (by decide)

end Ota
end AvensysEsp32
