import RtA100.LifecycleOrder

/-!
# The FKZ9 event thread stays alive

`fkz9_event_task_entry` loops while `is_running` is set, and
`fkz9_comm_uninit` is what clears it.  `fkz9_comm_init` sets it only after it
has created the thread, so the thread's first test can come too early.
-/

namespace RtA100

open Library

/-- The thread leaves its loop only after `fkz9_comm_uninit` has cleared
`is_running`. -/
def EventThreadStays (state : Lifecycle) : Prop :=
  state.fkz9Event = .ended →
    MainPc.stopFkz9.position < state.vars.pc.position

/-- The thread does not test `is_running` between its creation and the next
statement of its creator. -/
def TestsAfterStart (state : Lifecycle) (event : LifecycleEvent) : Prop :=
  event = .fkz9Test → state.vars.pc ≠ .setFkz9Running

theorem EventThreadStays.main_step {state following : Lifecycle}
    {outcome : Bool} (order : LifecycleOrder state)
    (stays : EventThreadStays state)
    (stepped : mainStep state outcome = some following) :
    EventThreadStays following := by
  obtain ⟨threads, executed, rfl⟩ := Option.map_eq_some_iff.mp stepped
  intro ended
  rcases (mainThreads_change executed).fkz9Event with
    ⟨same, _⟩ | ⟨created, _⟩
  · rw [same] at ended
    exact Nat.lt_of_lt_of_le (stays ended) (order.main.advance outcome).forward
  · rw [created] at ended
    cases ended

/-- When the thread tests `is_running`, it finds it set exactly when `main` is
past the statement that sets it and not past the one that clears it. -/
theorem LifecycleOrder.test_iff {state : Lifecycle}
    (order : LifecycleOrder state) (testing : state.fkz9Event = .testing) :
    (state.vars.isRunning = false →
      MainPc.stopFkz9.position < state.vars.pc.position) ↔
      state.vars.pc ≠ .setFkz9Running := by
  obtain ⟨init, begun, _⟩ := order.fkz9Event (by simp [testing, EventPc.live])
  constructor
  · intro late here
    have cleared : state.vars.isRunning = false := by
      rw [← Bool.not_eq_true, order.main.isRunning_iff]
      rintro ⟨_, after, _⟩
      rw [here] at after
      exact absurd after (by decide)
    have after := late cleared
    rw [here] at after
    exact absurd after (by decide)
  · intro elsewhere cleared
    rw [← Bool.not_eq_true, order.main.isRunning_iff] at cleared
    have next : MainPc.setFkz9Running.position ≠ state.vars.pc.position :=
      fun same => elsewhere (MainPc.position_inj same.symm)
    have past : MainPc.setFkz9Running.position < state.vars.pc.position :=
      Nat.lt_of_le_of_ne begun next
    exact Nat.lt_of_not_le fun before => cleared ⟨init, past, before⟩

theorem eventThreadStays_step_iff {state following : Lifecycle}
    {event : LifecycleEvent} {emitted : List SharedPointer}
    (order : LifecycleOrder state) (stays : EventThreadStays state)
    (stepped : lifecycleStep state event = some (following, emitted)) :
    EventThreadStays following ↔ TestsAfterStart state event := by
  obtain ⟨_, _, next, enabled, ⟨_, rfl⟩ | ⟨⟨_, read, _⟩, rfl⟩⟩ :=
    lifecycleStep_cases stepped
  · by_cases test : event = .fkz9Test
    · subst test
      simp only [partyStep, Option.ite_none_right_eq_some,
        Option.some.injEq] at enabled
      obtain ⟨testing, rfl⟩ := enabled
      have fresh : TestsAfterStart state .fkz9Test ↔
          state.vars.pc ≠ .setFkz9Running := by
        simp [TestsAfterStart]
      rw [fresh, ← order.test_iff testing]
      cases running : state.vars.isRunning <;>
        simp [EventThreadStays]
    · refine iff_of_true ?_ fun same => absurd same test
      by_cases main : ∃ outcome, event = .main outcome
      · obtain ⟨outcome, rfl⟩ := main
        exact stays.main_step order enabled
      · have change :=
          partyStep_change (fun outcome same => main ⟨outcome, same⟩) enabled
        intro ended
        rw [change.vars]
        rcases change.ended ended with before | ⟨same, _⟩
        · exact stays before
        · exact absurd same test
  · refine iff_of_true stays ?_
    rintro rfl
    cases read

/-- For every scheduling of the threads, the FKZ9 event thread stays in its
loop until the shutdown exactly when it never tests `is_running` before the
creator's next statement. -/
theorem eventThread_along_iff (events : List LifecycleEvent) :
    lifecycleMachine.Along EventThreadStays freshLifecycle events ↔
      lifecycleMachine.Takes TestsAfterStart freshLifecycle events :=
  @Machine.along_iff_takes _ _ _ lifecycleMachine TestsAfterStart
    LifecycleOrder EventThreadStays
    (fun _ _ _ _ order stepped => order.step stepped)
    (fun _ _ _ _ order stays stepped =>
      eventThreadStays_step_iff order stays stepped)
    freshLifecycle freshLifecycle_order (by simp [EventThreadStays,
      freshLifecycle]) events

/-- `main` from the start of the program to `statement`, with every call that
can fail succeeding. -/
def mainUntil (statement : MainPc) : List LifecycleEvent :=
  List.replicate statement.position (.main true)

/-- A thread that runs as soon as it is created leaves its loop at once. -/
theorem eventThread_starts_early : ∃ outputs state,
    lifecycleMachine.Reaches Machine.anyStep outputs state ∧
      state.vars.pc = .setFkz9Running ∧ ¬EventThreadStays state := by
  have computed : (lifecycleMachine.run (fun _ _ => true) freshLifecycle
      (mainUntil .setFkz9Running ++ [.fkz9Test])).map
        (fun result => (result.1.vars.pc, result.1.fkz9Event)) =
      some (.setFkz9Running, .ended) := by
    decide
  obtain ⟨outputs, state, reached, result⟩ :=
    Machine.Reaches.of_run (fun _ _ _ => trivial) rfl computed
  obtain ⟨here, ended⟩ := by simpa using result
  refine ⟨outputs, state, reached, here, fun stays => ?_⟩
  have late := stays ended
  rw [here] at late
  exact absurd late (by decide)

end RtA100
