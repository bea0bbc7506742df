/-!
# Event-driven machines and their runs

A machine takes one event at a time and may emit outputs.  `Reaches` collects
the outputs of every finite run whose steps all satisfy `allowed`, a condition
on the state before the step and on its event; `Machine.invariant` is the one
induction over runs, so an invariant only needs its initial and step cases.
-/

namespace Library

universe u v w x

/-- A partial step function with outputs.  A step that is not enabled, or whose
behaviour is undefined, is `none`. -/
structure Machine (State : Type u) (Event : Type v) (Output : Type w) where
  initial : State → Prop
  step : State → Event → Option (State × List Output)

namespace Machine

variable {State : Type u} {Event : Type v} {Output : Type w}
  (machine : Machine State Event Output)
  {allowed : State → Event → Prop}

/-- States reached by runs of allowed steps, with everything emitted so far. -/
inductive Reaches (allowed : State → Event → Prop) :
    List Output → State → Prop where
  | start {state : State} :
      machine.initial state → Reaches allowed [] state
  | next {outputs : List Output} {state : State} {event : Event}
      {following : State} {emitted : List Output} :
      Reaches allowed outputs state →
      allowed state event →
      machine.step state event = some (following, emitted) →
      Reaches allowed (outputs ++ emitted) following

/-- The condition that excludes no step. -/
def anyStep : State → Event → Prop := fun _ _ => True

variable {machine}

/-- What holds initially and is preserved by every allowed step holds of every
state reached, together with the outputs of the run that reached it. -/
theorem invariant {holds : List Output → State → Prop}
    (initially : ∀ state, machine.initial state → holds [] state)
    (preserved : ∀ outputs state event following emitted,
      holds outputs state → allowed state event →
      machine.step state event = some (following, emitted) →
      holds (outputs ++ emitted) following)
    {outputs : List Output} {state : State}
    (reached : machine.Reaches allowed outputs state) :
    holds outputs state := by
  induction reached with
  | start starts => exact initially _ starts
  | next _ permitted stepped induction =>
      exact preserved _ _ _ _ _ induction permitted stepped

theorem Reaches.mono {weaker : State → Event → Prop}
    (implies : ∀ state event, allowed state event → weaker state event)
    {outputs : List Output} {state : State}
    (reached : machine.Reaches allowed outputs state) :
    machine.Reaches weaker outputs state := by
  induction reached with
  | start starts => exact .start starts
  | next _ permitted stepped induction =>
      exact induction.next (implies _ _ permitted) stepped

/-- Run a list of permitted events, collecting the outputs. -/
def run (machine : Machine State Event Output)
    (permitted : State → Event → Bool) :
    State → List Event → Option (State × List Output)
  | state, [] => some (state, [])
  | state, event :: events => do
      if permitted state event = true then
        let (following, emitted) ← machine.step state event
        let (final, later) ← run machine permitted following events
        some (final, emitted ++ later)
      else none

/-- A computed run from a reached state extends the run that reached it. -/
theorem Reaches.extend {permitted : State → Event → Bool}
    {state final : State} {events : List Event}
    {outputs emitted : List Output}
    (implies : ∀ event ∈ events, ∀ state, permitted state event = true →
      allowed state event)
    (reached : machine.Reaches allowed outputs state)
    (computed : machine.run permitted state events = some (final, emitted)) :
    machine.Reaches allowed (outputs ++ emitted) final := by
  induction events generalizing state outputs emitted with
  | nil =>
      simp only [run, Option.some.injEq, Prod.mk.injEq] at computed
      obtain ⟨rfl, rfl⟩ := computed
      simpa using reached
  | cons event events induction =>
      rw [run] at computed
      split at computed
      · rename_i allowedHere
        simp only [Option.bind_eq_bind, Option.bind_eq_some_iff, Prod.exists,
          Option.some.injEq, Prod.mk.injEq] at computed
        obtain ⟨following, first, stepped, last, later, rest, rfl, rfl⟩ :=
          computed
        have advanced :
            machine.Reaches allowed (outputs ++ first) following :=
          .next reached
            (implies event List.mem_cons_self state allowedHere) stepped
        have extended := induction
          (fun other member => implies other (List.mem_cons_of_mem _ member))
          advanced rest
        simpa [List.append_assoc] using extended
      · cases computed

/-- A value computed from a run of permitted events is that of a reached state
and its outputs. -/
theorem Reaches.of_run {Value : Type x} {permitted : State → Event → Bool}
    {state : State} {events : List Event}
    {observe : State × List Output → Value} {value : Value}
    (implies : ∀ state event, permitted state event = true →
      allowed state event)
    (starts : machine.initial state)
    (computed : (machine.run permitted state events).map observe =
      some value) :
    ∃ outputs final, machine.Reaches allowed outputs final ∧
      observe (final, outputs) = value := by
  obtain ⟨⟨final, outputs⟩, run, observed⟩ :=
    Option.map_eq_some_iff.mp computed
  exact ⟨outputs, final,
    Reaches.extend (fun event _ state => implies state event) (.start starts)
      run, observed⟩

/-- A value computed from a run of events that are all allowed. -/
theorem Reaches.of_events {Value : Type x} {state : State}
    {events : List Event} {observe : State × List Output → Value}
    {value : Value}
    (allow : ∀ event ∈ events, ∀ state, allowed state event)
    (starts : machine.initial state)
    (computed : (machine.run (fun _ _ => true) state events).map observe =
      some value) :
    ∃ outputs final, machine.Reaches allowed outputs final ∧
      observe (final, outputs) = value := by
  obtain ⟨⟨final, outputs⟩, run, observed⟩ :=
    Option.map_eq_some_iff.mp computed
  exact ⟨outputs, final,
    Reaches.extend (fun event member state _ => allow event member state)
      (.start starts) run, observed⟩

/-- Every state that a sequence of events passes through satisfies `holds`. -/
def Along (machine : Machine State Event Output) (holds : State → Prop) :
    State → List Event → Prop
  | state, [] => holds state
  | state, event :: events =>
      holds state ∧ ∀ following emitted,
        machine.step state event = some (following, emitted) →
        Along machine holds following events

/-- Every step that a sequence of events takes satisfies `allowed`. -/
def Takes (machine : Machine State Event Output)
    (allowed : State → Event → Prop) : State → List Event → Prop
  | _, [] => True
  | state, event :: events =>
      ∀ following emitted,
        machine.step state event = some (following, emitted) →
        allowed state event ∧ Takes machine allowed following events

/-- When the allowed steps are exactly those that preserve a property, given an
invariant of the allowed steps, the property holds along a run exactly when the
run takes only such steps. -/
theorem along_iff_takes_allowed {always holds : State → Prop}
    (kept : ∀ state event following emitted, always state →
      allowed state event →
      machine.step state event = some (following, emitted) →
      always following)
    (preserved_iff : ∀ state event following emitted, always state →
      holds state → machine.step state event = some (following, emitted) →
      (holds following ↔ allowed state event))
    {state : State} (invariant : always state) (initially : holds state)
    (events : List Event) :
    machine.Along holds state events ↔ machine.Takes allowed state events := by
  induction events generalizing state with
  | nil => exact iff_of_true initially trivial
  | cons event events induction =>
      constructor
      · rintro ⟨_, later⟩ following emitted stepped
        have along := later following emitted stepped
        have here : holds following := by
          cases events with
          | nil => exact along
          | cons _ _ => exact along.1
        have permitted : allowed state event :=
          (preserved_iff _ _ _ _ invariant initially stepped).mp here
        exact ⟨permitted,
          (induction (kept _ _ _ _ invariant permitted stepped) here).mp
            along⟩
      · intro takes
        refine ⟨initially, fun following emitted stepped => ?_⟩
        obtain ⟨permitted, later⟩ := takes following emitted stepped
        have here :=
          (preserved_iff _ _ _ _ invariant initially stepped).mpr permitted
        exact (induction (kept _ _ _ _ invariant permitted stepped) here).mpr
          later

/-- The same with an invariant of all steps. -/
theorem along_iff_takes {always holds : State → Prop}
    (kept : ∀ state event following emitted, always state →
      machine.step state event = some (following, emitted) →
      always following)
    (preserved_iff : ∀ state event following emitted, always state →
      holds state → machine.step state event = some (following, emitted) →
      (holds following ↔ allowed state event))
    {state : State} (invariant : always state) (initially : holds state)
    (events : List Event) :
    machine.Along holds state events ↔ machine.Takes allowed state events :=
  along_iff_takes_allowed
    (fun state event following emitted keeps _ =>
      kept state event following emitted keeps)
    preserved_iff invariant initially events

end Machine

end Library
