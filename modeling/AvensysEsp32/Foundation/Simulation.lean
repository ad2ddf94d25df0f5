import AvensysEsp32.Foundation.Machine

/-!
# Simulations between machines

A machine that is built from others, or that refines another, is compared with
it event by event: each of its events is a list of events of the other machine,
found from the state, and leaves the two states related.

The rule at the end is for whole runs: from related states, the run of the images
ends in a state related to the end of the run.
-/

namespace AvensysEsp32
namespace Foundation

section Simulation

variable {State State' Event Event' : Type*}

/-- The events of a run, as the other machine sees them. -/
def images (step : Event → State → State) (image : Event → State → List Event') :
    List Event → State → List Event'
  | [], _ => []
  | e :: es, s => image e s ++ images step image es (step e s)

/-- Each step that meets the assumption is a run of the other machine from and to
a related state. -/
structure Simulation
    (step : Event → State → State) (step' : Event' → State' → State')
    (assumption : Event → State → Prop) (related : State → State' → Prop)
    (image : Event → State → List Event') : Prop where
  step : ∀ e s s', assumption e s → related s s' →
    related (step e s) (run step' (image e s) s')

variable {step : Event → State → State} {step' : Event' → State' → State'}
variable {assumption : Event → State → Prop} {related : State → State' → Prop}
variable {image : Event → State → List Event'}

/-- Related states lead to related states. -/
theorem Simulation.run
    (h : Simulation step step' assumption related image)
    {es : List Event} {s : State} {s' : State'}
    (hes : Along step assumption es s) (hs : related s s') :
    related (Foundation.run step es s) (Foundation.run step' (images step image es s) s') := by
  induction es generalizing s s' with
  | nil =>
      exact hs
  | cons e es ih =>
      simpa [images] using ih hes.2 (h.step e s s' hes.1 hs)

end Simulation

end Foundation
end AvensysEsp32
