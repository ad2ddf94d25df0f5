import AvensysEsp32.Foundation.Blinking
import AvensysEsp32.Foundation.Machine
import AvensysEsp32.UnitComm.State

/-!
# The status LED

`Led_TimerCallback` runs every millisecond.  It counts the time, and switches
`Wifi_Led1` by what the other tasks are doing: one pattern for each of six
conditions, the first that applies.  Two of its counters are shared by the
patterns, so that a new condition finds a counter where the last one left it.

Still the light says which condition there is.  Whatever has been shown before,
a condition that lasts for some three seconds cannot be mistaken for another.
-/

namespace AvensysEsp32
namespace Led

open Foundation UnitComm

/-! ## The callback -/

/-- What the callback reads of the other tasks. -/
structure Condition where
  unitUpdateTaskFlag : Bool
  currentState : ConnectState
  otaInProgress : Bool
  wbmComState : WbmComState
deriving DecidableEq, Repr

/-- The counters of `Led_TimerCallback`, and the level of `Wifi_Led1`. -/
structure StatusLed where
  millisTick : UInt32
  unitUpdateCounter : UInt32
  counterLed : UInt16
  counterLed1 : UInt16
  level : Bool
deriving DecidableEq, Repr

/-- The LED when `initialize_gpio` returns. -/
def StatusLed.initial : StatusLed where
  millisTick := 0
  unitUpdateCounter := 0
  counterLed := 0
  counterLed1 := 0
  level := false

/-- The comparisons of a counter: up to each bound the light is set, and past the
last the counter is cleared. -/
def blink (bounds : List (UInt16 × Bool)) (counter : UInt16) (level : Bool) : UInt16 × Bool :=
  match bounds with
  | [] => (0, level)
  | (bound, lit) :: bounds => if counter ≤ bound then (counter, lit) else blink bounds counter level

/-- `Counter_Led` goes up and is compared. -/
def StatusLed.blinkLed (bounds : List (UInt16 × Bool)) (s : StatusLed) : StatusLed :=
  let (counterLed, level) := blink bounds (s.counterLed + 1) s.level
  { s with counterLed := counterLed, level := level }

/-- `Counter_Led1` goes up and is compared. -/
def StatusLed.blinkLed1 (bounds : List (UInt16 × Bool)) (s : StatusLed) : StatusLed :=
  let (counterLed1, level) := blink bounds (s.counterLed1 + 1) s.level
  { s with counterLed1 := counterLed1, level := level }

/-- The bounds while the unit's firmware is downloaded -/
def unitUpdateBounds : List (UInt16 × Bool) :=
  [(150, true), (350, false), (500, true), (1300, false)]

/-- The bounds while the unit's firmware is transferred -/
def bootloaderBounds : List (UInt16 × Bool) :=
  [(200, true), (1200, false)]

/-- The bounds while the gateway's own firmware is downloaded -/
def otaBounds : List (UInt16 × Bool) :=
  [(100, true), (200, false)]

/-- The bounds while the unit is looked for -/
def communicatingBounds : List (UInt16 × Bool) :=
  [(500, true), (1000, false)]

/-- The bounds while the unit does not answer -/
def errorBounds : List (UInt16 × Bool) :=
  [(1000, true), (2000, false)]

/-- `Led_TimerCallback` -/
def ledTimerCallback (c : Condition) (s : StatusLed) : StatusLed :=
  let s := { s with
    millisTick := s.millisTick + 1
    unitUpdateCounter := s.unitUpdateCounter + 1 }
  if c.unitUpdateTaskFlag then s.blinkLed unitUpdateBounds
  else if c.currentState = .bootloaderState1 then s.blinkLed bootloaderBounds
  else if c.otaInProgress then s.blinkLed1 otaBounds
  else if c.wbmComState = .wbmInitialize ∨ c.wbmComState = .wbmCommunicating then
    s.blinkLed communicatingBounds
  else if c.wbmComState = .wbmConnected then { s with level := true, counterLed := 0 }
  else if c.wbmComState = .wbmError then s.blinkLed errorBounds
  else s

inductive StatusEvent
  | timer (c : Condition)
  /-- `check_update_task` begins a download and clears `Counter_Led1`. -/
  | otaBegins
  /-- `Unit_event_task` looks for new unit firmware and clears `Unit_Update_Counter`. -/
  | unitUpdateChecked

/-- The effect of an event. -/
def statusStep (e : StatusEvent) (s : StatusLed) : StatusLed :=
  match e with
  | .timer c => ledTimerCallback c s
  | .otaBegins => { s with counterLed1 := 0 }
  | .unitUpdateChecked => { s with unitUpdateCounter := 0 }

/-! ## What is shown -/

/-- What the light says. -/
inductive Shown
  | unitUpdate
  | bootloader
  | ota
  | communicating
  | connected
  | error
deriving DecidableEq, Repr

/-- The first condition that applies. -/
def Condition.shown (c : Condition) : Shown :=
  if c.unitUpdateTaskFlag then .unitUpdate
  else if c.currentState = .bootloaderState1 then .bootloader
  else if c.otaInProgress then .ota
  else
    match c.wbmComState with
    | .wbmInitialize | .wbmCommunicating => .communicating
    | .wbmConnected => .connected
    | .wbmError => .error

/-- The bounds that a condition is shown with; a connection has none. -/
def Shown.bounds : Shown → List (UInt16 × Bool)
  | .unitUpdate => unitUpdateBounds
  | .bootloader => bootloaderBounds
  | .ota => otaBounds
  | .communicating => communicatingBounds
  | .connected => []
  | .error => errorBounds

/-- The length of the streaks of light -/
def Shown.mark : Shown → Nat
  | .unitUpdate => 150
  | .bootloader => 200
  | .ota => 100
  | .communicating => 500
  | .connected => 0
  | .error => 1000

/-- The count that a pattern ends with -/
def Shown.period : Shown → Nat
  | .unitUpdate => 1300
  | .bootloader => 1200
  | .ota => 200
  | .communicating => 1000
  | .connected => 0
  | .error => 2000

/-- The pattern of some bounds. -/
def patternOf (bounds : List (UInt16 × Bool)) : Pattern := fun x =>
  match bounds with
  | [] => none
  | (bound, lit) :: bounds => if x ≤ bound.toNat then some lit else patternOf bounds x

/-- The light as the pattern of a condition has it. -/
def Shown.light (m : Shown) (s : StatusLed) : Light :=
  if m = .ota then ⟨s.counterLed1.toNat, s.level⟩ else ⟨s.counterLed.toNat, s.level⟩

theorem blink_eq (bounds : List (UInt16 × Bool)) (counter : UInt16) (level : Bool) :
    blink bounds counter level =
      match patternOf bounds counter.toNat with
      | some lit => (counter, lit)
      | none => (0, level) := by
  induction bounds with
  | nil => rfl
  | cons bound bounds ih =>
      unfold blink patternOf
      by_cases hle : counter ≤ bound.1
      · rw [if_pos hle, if_pos (UInt16.le_iff_toNat_le.mp hle)]
      · rw [if_neg hle, if_neg (fun h => hle (UInt16.le_iff_toNat_le.mpr h)), ih]

/-! ## The marks -/

section OnOff

variable (on off : UInt16) (x : Nat)

theorem onOff_true :
    patternOf [(on, true), (off, false)] x = some true ↔ x ≤ on.toNat := by
  simp only [patternOf]
  split_ifs <;> simp <;> omega

theorem onOff_false :
    patternOf [(on, true), (off, false)] x = some false ↔ on.toNat < x ∧ x ≤ off.toNat := by
  simp only [patternOf]
  split_ifs <;> simp <;> omega

theorem onOff_none (h : on.toNat < off.toNat) :
    patternOf [(on, true), (off, false)] x = none ↔ off.toNat < x := by
  simp only [patternOf]
  split_ifs <;> simp <;> omega

end OnOff

/-- Light up to `on`, then dark up to `off`. -/
theorem marked_onOff (on off : UInt16) (hon : 0 < on.toNat) (hoff : on.toNat < off.toNat) :
    Marked (patternOf [(on, true), (off, false)]) off.toNat on.toNat where
  first := (onOff_true on off 1).mpr hon
  last := by
    intro x lit hshown hends
    have hpast := (onOff_none on off (x + 1) hoff).mp hends
    cases lit with
    | false => rfl
    | true =>
        have hlit := (onOff_true on off x).mp hshown
        omega
  ends := fun x hpast => (onOff_none on off x hoff).mpr hpast
  streak := by
    intro x hdark hlit
    rw [onOff_false] at hdark
    rw [onOff_true] at hlit
    refine ⟨fun j hj => ?_, ?_⟩
    · rw [onOff_true]
      omega
    · rw [onOff_false]
      omega

section UnitUpdate

variable (x : Nat)

theorem unitUpdate_true :
    patternOf unitUpdateBounds x = some true ↔ x ≤ 150 ∨ 350 < x ∧ x ≤ 500 := by
  show (if x ≤ 150 then some true else if x ≤ 350 then some false
    else if x ≤ 500 then some true else if x ≤ 1300 then some false else none) = _ ↔ _
  split_ifs <;> simp <;> omega

theorem unitUpdate_false :
    patternOf unitUpdateBounds x = some false ↔ 150 < x ∧ x ≤ 350 ∨ 500 < x ∧ x ≤ 1300 := by
  show (if x ≤ 150 then some true else if x ≤ 350 then some false
    else if x ≤ 500 then some true else if x ≤ 1300 then some false else none) = _ ↔ _
  split_ifs <;> simp <;> omega

theorem unitUpdate_none :
    patternOf unitUpdateBounds x = none ↔ 1300 < x := by
  show (if x ≤ 150 then some true else if x ≤ 350 then some false
    else if x ≤ 500 then some true else if x ≤ 1300 then some false else none) = _ ↔ _
  split_ifs <;> simp <;> omega

end UnitUpdate

/-- The pattern with two streaks in a period. -/
theorem marked_unitUpdate :
    Marked (patternOf unitUpdateBounds) 1300 150 where
  first := rfl
  last := by
    intro x lit hshown hends
    have hpast := (unitUpdate_none (x + 1)).mp hends
    cases lit with
    | false => rfl
    | true =>
        have hlit := (unitUpdate_true x).mp hshown
        omega
  ends := fun x hpast => (unitUpdate_none x).mpr hpast
  streak := by
    intro x hdark hlit
    rw [unitUpdate_false] at hdark
    rw [unitUpdate_true] at hlit
    refine ⟨fun j hj => ?_, ?_⟩
    · rw [unitUpdate_true]
      omega
    · rw [unitUpdate_false]
      omega

/-- The pattern of a condition has its mark. -/
theorem marked_bounds {m : Shown} (hm : m ≠ .connected) :
    Marked (patternOf m.bounds) m.period m.mark := by
  cases m with
  | unitUpdate => exact marked_unitUpdate
  | bootloader => exact marked_onOff 200 1200 (by decide) (by decide)
  | ota => exact marked_onOff 100 200 (by decide) (by decide)
  | communicating => exact marked_onOff 500 1000 (by decide) (by decide)
  | connected => exact absurd rfl hm
  | error => exact marked_onOff 1000 2000 (by decide) (by decide)

/-- Different conditions have different marks. -/
theorem mark_injective :
    Function.Injective Shown.mark := by
  intro m m' h
  cases m <;> cases m' <;> first | rfl | cases h

/-! ## A lasting condition -/

/-- The counters stay where no comparison can see them wrap. -/
structure Small (s : StatusLed) : Prop where
  counterLed : s.counterLed.toNat ≤ 2000
  counterLed1 : s.counterLed1.toNat ≤ 2000

section Callback

variable {m : Shown} {s : StatusLed}

/-- The counter of a comparison goes up without wrapping. -/
theorem toNat_succ_counter {counter : UInt16} (h : counter.toNat ≤ 2000) :
    (counter + 1).toNat = counter.toNat + 1 := by
  rw [UInt16.toNat_add]
  exact Nat.mod_eq_of_lt (by
    have hone : (1 : UInt16).toNat = 1 := rfl
    omega)

/-- A comparison is a tick of the pattern. -/
theorem blink_tick
    (hm : m ≠ .connected) {counter : UInt16} (h : counter.toNat ≤ 2000) (level : Bool) :
    (blink m.bounds (counter + 1) level).1.toNat ≤ 2000 ∧
      (patternOf m.bounds).tick ⟨counter.toNat, level⟩ =
        ⟨(blink m.bounds (counter + 1) level).1.toNat, (blink m.bounds (counter + 1) level).2⟩ := by
  have hcount := toNat_succ_counter h
  rw [blink_eq]
  cases hnext : patternOf m.bounds (counter.toNat + 1) with
  | none =>
      rw [tick_none hnext, hcount, hnext]
      exact ⟨Nat.zero_le _, rfl⟩
  | some lit =>
      have hinside : counter.toNat + 1 ≤ m.period := by
        by_contra hpast
        rw [(marked_bounds hm).ends _ (by omega)] at hnext
        cases hnext
      have hperiod : m.period ≤ 2000 := by
        cases m <;> decide
      rw [tick_some hnext, hcount, hnext]
      dsimp only
      rw [hcount]
      exact ⟨le_trans hinside hperiod, rfl⟩

/-- The callback by what it shows. -/
theorem ledTimerCallback_eq (c : Condition) (s : StatusLed) :
    ledTimerCallback c s =
      let s := { s with
        millisTick := s.millisTick + 1
        unitUpdateCounter := s.unitUpdateCounter + 1 }
      if c.shown = .connected then { s with level := true, counterLed := 0 }
      else if c.shown = .ota then s.blinkLed1 c.shown.bounds
      else s.blinkLed c.shown.bounds := by
  unfold ledTimerCallback Condition.shown
  by_cases hupdate : c.unitUpdateTaskFlag = true
  · simp only [if_pos hupdate]
    rfl
  · simp only [if_neg hupdate]
    by_cases hbootloader : c.currentState = .bootloaderState1
    · simp only [if_pos hbootloader]
      rfl
    · simp only [if_neg hbootloader]
      by_cases hota : c.otaInProgress = true
      · simp only [if_pos hota]
        rfl
      · simp only [if_neg hota]
        cases c.wbmComState with
        | wbmInitialize => rfl
        | wbmCommunicating => rfl
        | wbmConnected => rfl
        | wbmError => rfl

theorem small_ledTimerCallback (c : Condition) (hs : Small s) :
    Small (ledTimerCallback c s) := by
  rw [ledTimerCallback_eq]
  dsimp only
  split_ifs with hconnected hota
  · exact ⟨Nat.zero_le _, hs.counterLed1⟩
  · exact ⟨hs.counterLed, (blink_tick hconnected hs.counterLed1 s.level).1⟩
  · exact ⟨(blink_tick hconnected hs.counterLed s.level).1, hs.counterLed1⟩

/-- While a condition lasts the light follows its pattern. -/
theorem light_ledTimerCallback
    {c : Condition} (hc : c.shown = m) (hm : m ≠ .connected) (hs : Small s) :
    m.light (ledTimerCallback c s) = (patternOf m.bounds).tick (m.light s) := by
  subst hc
  rw [ledTimerCallback_eq]
  dsimp only
  rw [if_neg hm]
  unfold Shown.light
  split_ifs
  · exact (blink_tick hm hs.counterLed1 s.level).2.symm
  · exact (blink_tick hm hs.counterLed s.level).2.symm

theorem level_connected
    {c : Condition} (hc : c.shown = .connected) :
    (ledTimerCallback c s).level = true := by
  rw [ledTimerCallback_eq]
  dsimp only
  rw [if_pos hc]

end Callback

/-! ## Watching the light -/

/-- The levels that are seen while the callback runs. -/
def levels (cs : List Condition) (s : StatusLed) : List Bool :=
  match cs with
  | [] => []
  | c :: cs => (ledTimerCallback c s).level :: levels cs (ledTimerCallback c s)

section Watching

variable {m : Shown} {cs : List Condition} {s : StatusLed}

theorem small_run (es : List StatusEvent) :
    Small (run statusStep es .initial) := by
  refine Along.invariant (fun e s _ hs => ?_) (Along.of_forall fun _ _ => trivial)
    ⟨Nat.zero_le _, Nat.zero_le _⟩
  cases e with
  | timer c => exact small_ledTimerCallback c hs
  | otaBegins => exact ⟨hs.counterLed, Nat.zero_le _⟩
  | unitUpdateChecked => exact ⟨hs.counterLed, hs.counterLed1⟩

@[simp] theorem length_levels (cs : List Condition) (s : StatusLed) :
    (levels cs s).length = cs.length := by
  induction cs generalizing s with
  | nil => rfl
  | cons c cs ih => exact congrArg (· + 1) (ih _)

theorem light_level (m : Shown) (s : StatusLed) :
    (m.light s).level = s.level := by
  unfold Shown.light
  split_ifs
  · rfl
  · rfl

/-- What is seen is the pattern. -/
theorem levels_getElem
    (hm : m ≠ .connected) (hcs : ∀ c ∈ cs, c.shown = m) (hs : Small s)
    (k : Nat) (hk : k < cs.length) :
    (levels cs s)[k]? = some ((patternOf m.bounds).tick^[k + 1] (m.light s)).level := by
  induction cs generalizing s k with
  | nil => cases hk
  | cons c cs ih =>
      have hlight := light_ledTimerCallback (hcs c List.mem_cons_self) hm hs
      cases k with
      | zero =>
          show some (ledTimerCallback c s).level =
            some ((patternOf m.bounds).tick (m.light s)).level
          rw [← hlight, light_level]
      | succ k =>
          show (levels cs (ledTimerCallback c s))[k]? = _
          rw [ih (fun c' hc' => hcs c' (List.mem_cons_of_mem c hc')) (small_ledTimerCallback c hs)
            k (Nat.lt_of_succ_lt_succ hk), hlight]
          rfl

/-- A connection is seen as a steady light. -/
theorem levels_connected
    (hcs : ∀ c ∈ cs, c.shown = .connected) :
    ∀ level ∈ levels cs s, level = true := by
  induction cs generalizing s with
  | nil => exact nofun
  | cons c cs ih =>
      intro level hlevel
      rcases List.mem_cons.mp hlevel with rfl | hlater
      · exact level_connected (hcs c List.mem_cons_self)
      · exact ih (fun c' hc' => hcs c' (List.mem_cons_of_mem c hc')) level hlater

/-- Every other condition is seen dark at some time. -/
theorem levels_dark
    (hm : m ≠ .connected) (hcs : ∀ c ∈ cs, c.shown = m) (hs : Small s)
    (hlong : m.period + 3 < cs.length) :
    false ∈ levels cs s := by
  have hmarked := marked_bounds hm
  have hinStep := inStep_two hmarked (m.light s)
  obtain ⟨k, hk, hdark, -⟩ := hinStep.edge hmarked (hinStep.count_le hmarked)
  have hseen := levels_getElem hm hcs hs (k + 1) (by omega)
  refine List.mem_of_getElem? (i := k + 1) ?_
  rw [hseen, ← hdark, ← Function.iterate_add_apply]

/-- Different conditions that last three seconds are seen to be different,
whatever was shown before. -/
theorem light_tells
    (before before' : List StatusEvent) (cs cs' : List Condition) (m m' : Shown)
    (hcs : ∀ c ∈ cs, c.shown = m) (hcs' : ∀ c ∈ cs', c.shown = m')
    (hlong : 3005 ≤ cs.length) (hdiffer : m ≠ m') :
    levels cs (run statusStep before .initial) ≠ levels cs' (run statusStep before' .initial) := by
  intro hsame
  refine hdiffer ?_
  have hlength : cs.length = cs'.length := by
    rw [← length_levels cs, hsame, length_levels]
  have hperiod : ∀ m : Shown, m.period + m.mark ≤ 3000 := by
    intro m
    cases m <;> decide
  have hs := small_run before
  have hs' := small_run before'
  generalize run statusStep before .initial = s at hs hsame
  generalize run statusStep before' .initial = s' at hs' hsame
  by_cases hm : m = .connected
  · by_cases hm' : m' = .connected
    · rw [hm, hm']
    · have hdark := levels_dark hm' hcs' hs' (by have := hperiod m'; omega)
      rw [← hsame] at hdark
      subst hm
      cases levels_connected hcs false hdark
  · by_cases hm' : m' = .connected
    · have hdark := levels_dark hm hcs hs (by have := hperiod m; omega)
      rw [hsame] at hdark
      subst hm'
      cases levels_connected hcs' false hdark
    · have hmarked := marked_bounds hm
      have hmarked' := marked_bounds hm'
      refine mark_injective (hmarked.unique hmarked' (inStep_two hmarked (m.light s))
        (inStep_two hmarked' (m'.light s')) fun k hk => ?_)
      have hlate : k + 1 < cs.length := by
        have := hperiod m
        omega
      have hseen := levels_getElem hm hcs hs (k + 1) hlate
      rw [hsame, levels_getElem hm' hcs' hs' (k + 1) (by omega)] at hseen
      rw [← Function.iterate_add_apply, ← Function.iterate_add_apply]
      exact (Option.some.inj hseen).symm

/-- The unit is being looked for. -/
def looking : Condition where
  unitUpdateTaskFlag := false
  currentState := .trySerialLink
  otaInProgress := false
  wbmComState := .wbmCommunicating

/-- The gateway downloads its own firmware meanwhile. -/
def downloading : Condition :=
  { looking with otaInProgress := true }

/-- Three seconds of the search after a download, and three seconds of a download
after a search. -/
theorem looking_tells :
    levels (List.replicate 3005 looking)
        (run statusStep [.otaBegins, .timer downloading] .initial) ≠
      levels (List.replicate 3005 downloading) (run statusStep [.timer looking] .initial) := by
  have hshown : ∀ c c' : Condition, c' ∈ List.replicate 3005 c → c'.shown = c.shown := by
    intro c c' hc'
    rw [List.eq_of_mem_replicate hc']
  have hlong : 3005 ≤ (List.replicate 3005 looking).length := by
    rw [List.length_replicate]
  exact light_tells _ _ _ _ .communicating .ota (hshown looking) (hshown downloading) hlong
    (by decide)

end Watching

end Led
end AvensysEsp32
