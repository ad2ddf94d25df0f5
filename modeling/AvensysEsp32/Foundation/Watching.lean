import AvensysEsp32.Foundation.Simulation

/-!
# A value that clients watch

Clients come and go, one at a time, and the one that is there may subscribe to a
value.  Whenever the value is set, the subscriber is told the new one.

Who is told is read off the present client and its own subscription; nothing is
left of a client that is gone.
-/

namespace AvensysEsp32
namespace Foundation

section Watching

variable {Client Value : Type*}

/-- The client that is there, whether it has subscribed, the value, and who has
been told what. -/
structure WatchedValue (Client Value : Type*) where
  client : Option Client
  subscribed : Bool
  value : Value
  told : List (Client × Value)

inductive WatchEvent (Client Value : Type*)
  | arrives (client : Client)
  | leaves
  | subscribes (on : Bool)
  | sets (value : Value)

/-- The client that is told when the value is set. -/
def WatchedValue.listener (w : WatchedValue Client Value) : Option Client :=
  if w.subscribed then w.client else none

/-- The effect of an event. -/
def watchStep (e : WatchEvent Client Value) (w : WatchedValue Client Value) :
    WatchedValue Client Value :=
  match e with
  | .arrives client => { w with client := some client, subscribed := false }
  | .leaves => { w with client := none, subscribed := false }
  | .subscribes on => { w with subscribed := on }
  | .sets value =>
      { w with value := value, told := w.told ++ w.listener.toList.map fun c => (c, value) }

/-- Values that are set one after the other: the listener is told each, in
order. -/
theorem run_sets (values : List Value) (w : WatchedValue Client Value) :
    run watchStep (values.map .sets) w =
      { w with
        value := values.getLastD w.value
        told := w.told ++ values.flatMap fun v => w.listener.toList.map fun c => (c, v) } := by
  induction values generalizing w with
  | nil =>
      simp
  | cons value values ih =>
      rw [List.map_cons, run_cons, ih, List.getLastD_cons, List.flatMap_cons, ← List.append_assoc]
      rfl

/-- A subscriber that stays is told every value, in order. -/
theorem run_sets_told {w : WatchedValue Client Value} {c : Client}
    (hc : w.listener = some c) (values : List Value) :
    (run watchStep (values.map .sets) w).told = w.told ++ values.map fun v => (c, v) := by
  rw [run_sets, hc]
  have hmap : (values.flatMap fun v => (some c).toList.map fun c => (c, v)) =
      values.map fun v => (c, v) := by
    induction values with
    | nil =>
        rfl
    | cons value values ih =>
        rw [List.flatMap_cons, ih]
        rfl
  rw [hmap]

end Watching

end Foundation
end AvensysEsp32
