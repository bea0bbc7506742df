import RtA100.LifecycleOrder

/-!
# No party reads through a `NULL` context

The cloud context is published for a part of the run of `main` in which its
threads are not all alive, and the FKZ9 context for another part.  The parties
whose life is inside the part they need are safe; the others have to be lucky.
`InWindow` says which rounds need luck, and what it is.
-/

namespace RtA100

open Library

/-- The cloud service has started, and its context is published. -/
def CloudWindow (vars : MainVars) : Prop :=
  CloudBetween vars .publishCloud .clearCloud

def Fkz9Window (vars : MainVars) : Prop :=
  Fkz9Between vars .publishFkz9 .clearFkz9

/-- The rounds that no thread's life protects come while the context that they
need is published.  The two timers need the cloud context only where they
compare an `up_time`, and a heartbeat response only to send the device
information. -/
def InWindow (state : Lifecycle) : LifecycleEvent → Prop
  | .tcpRead | .mqttMessage .frames => CloudWindow state.vars
  | .rebootUpgrade (.compared _) | .otaHeartbeat (.measured _) =>
      CloudWindow state.vars
  | .fkz9Message .forwarded | .fkz9Send => CloudWindow state.vars
  | .fkz9Message .heartbeatResp =>
      state.isInit = false → CloudWindow state.vars
  | .mqttMessage .frame | .cloudMessage .group => Fkz9Window state.vars
  | _ => True

theorem LifecycleOrder.cloud_set_iff {state : Lifecycle}
    (order : LifecycleOrder state) :
    state.vars.isSet .gpCloudCommCtx = true ↔ CloudWindow state.vars :=
  order.main.gpCloudCommCtx_iff

theorem LifecycleOrder.fkz9_set_iff {state : Lifecycle}
    (order : LifecycleOrder state) :
    state.vars.isSet .gpFkz9CommCtx = true ↔ Fkz9Window state.vars :=
  order.main.gpFkz9CommCtx_iff

/-- The client is set before anything of the cloud service runs, and stays. -/
theorem LifecycleOrder.client_set {state : Lifecycle} {first last : MainPc}
    (order : LifecycleOrder state)
    (between : CloudBetween state.vars first last)
    (after : MainPc.setClient.position ≤ first.position) :
    state.vars.isSet .client = true :=
  order.main.client_iff.mpr
    ⟨between.1, Nat.lt_of_le_of_lt after between.2.1⟩

/-- A frame that waits was put there through the FKZ9 context, which is cleared
after the event thread has ended. -/
theorem LifecycleOrder.fkz9_set {state : Lifecycle}
    (order : LifecycleOrder state) (live : state.fkz9Event.live)
    (since : Fkz9Between state.vars .publishFkz9 .finished) :
    state.vars.isSet .gpFkz9CommCtx = true :=
  order.fkz9_set_iff.mpr ⟨since.1, since.2.1,
    Nat.le_trans (order.fkz9Event live).2.2 (by decide)⟩

/-- The download thread has a task only after the context is published, and it
ends before the context is cleared. -/
theorem LifecycleOrder.download_set {state : Lifecycle}
    (order : LifecycleOrder state) (alive : state.download = .alive)
    (waiting : 0 < state.tasks) :
    state.vars.isSet .gpCloudCommCtx = true := by
  have since := order.tasks waiting
  exact order.cloud_set_iff.mpr ⟨since.1, since.2.1,
    Nat.le_trans (order.download alive).2.2 (by decide)⟩

/-- In every state reached, a round finds all its pointers set exactly when it
comes in the window that it needs. -/
theorem LifecycleOrder.set_iff {state next : Lifecycle}
    {event : LifecycleEvent} (order : LifecycleOrder state)
    (enabled : partyStep state event = some next) :
    (∀ pointer ∈ pointersRead state event,
      state.vars.isSet pointer = true) ↔ InWindow state event := by
  have client (window : CloudWindow state.vars) :
      state.vars.isSet .client = true :=
    order.client_set window (by decide)
  cases event with
  | tcpRead => simpa [pointersRead, InWindow] using order.cloud_set_iff
  | rebootUpgrade tick =>
      cases tick with
      | noMission => simp [pointersRead, InWindow]
      | compared _ => simpa [pointersRead, InWindow] using order.cloud_set_iff
  | otaHeartbeat tick =>
      cases tick with
      | unmeasured => simp [pointersRead, InWindow]
      | measured _ => simpa [pointersRead, InWindow] using order.cloud_set_iff
  | mqttMessage payload =>
      cases payload with
      | heartbeatReq => simp [pointersRead, InWindow]
      | frame => simpa [pointersRead, InWindow] using order.fkz9_set_iff
      | frames =>
          simpa [pointersRead, InWindow, order.cloud_set_iff] using client
  | cloudMessage message =>
      cases message with
      | group => simpa [pointersRead, InWindow] using order.fkz9_set_iff
      | waveFile =>
          obtain ⟨⟨alive, _⟩, _⟩ := by simpa [partyStep] using enabled
          simpa [pointersRead, InWindow] using
            order.client_set (order.cloudEvent alive) (by decide)
      | ignored => simp [pointersRead, InWindow]
  | navData =>
      obtain ⟨alive, _⟩ := by simpa [partyStep] using enabled
      simpa [pointersRead, InWindow] using
        order.client_set (order.cloudTimer alive) (by decide)
  | downloadFirmware =>
      obtain ⟨⟨alive, waiting⟩, _⟩ := by simpa [partyStep] using enabled
      simpa [pointersRead, InWindow] using order.download_set alive waiting
  | fkz9Message message =>
      obtain ⟨⟨inside, waiting⟩, _⟩ := by simpa [partyStep] using enabled
      have fkz9 := order.fkz9_set (by simp [inside, EventPc.live])
        (order.fkz9Pending waiting)
      cases message with
      | heartbeatResp =>
          cases init : state.isInit <;>
            simp [pointersRead, InWindow, init, fkz9, order.cloud_set_iff]
      | forwarded =>
          simpa [pointersRead, InWindow, order.cloud_set_iff] using client
      | dropped => simp [pointersRead, InWindow]
  | fkz9Send =>
      obtain ⟨filled, _⟩ := by simpa [partyStep] using enabled
      have fkz9 := order.fkz9_set (by simp [filled, EventPc.live])
        (order.filled filled)
      simpa [pointersRead, InWindow, fkz9, order.cloud_set_iff] using client
  | _ => simp [pointersRead, InWindow]

theorem partyStep_crashed {state next : Lifecycle} {event : LifecycleEvent}
    (enabled : partyStep state event = some next) :
    next.crashed = state.crashed := by
  by_cases main : ∃ outcome, event = .main outcome
  · obtain ⟨outcome, rfl⟩ := main
    obtain ⟨threads, executed, rfl⟩ := Option.map_eq_some_iff.mp enabled
    exact (mainThreads_change executed).crashed
  · exact (partyStep_change (fun outcome same => main ⟨outcome, same⟩)
      enabled).crashed

theorem notCrashed_step_iff {state following : Lifecycle}
    {event : LifecycleEvent} {emitted : List SharedPointer}
    (order : LifecycleOrder state)
    (stepped : lifecycleStep state event = some (following, emitted)) :
    following.crashed = false ↔ InWindow state event := by
  obtain ⟨going, _, next, enabled, read⟩ := lifecycleStep_cases stepped
  rw [← order.set_iff enabled]
  rcases read with ⟨set, rfl⟩ | ⟨⟨pointer, member, unset⟩, rfl⟩
  · exact iff_of_true ((partyStep_crashed enabled).trans going) set
  · refine iff_of_false (by simp) fun set => ?_
    rw [set pointer member] at unset
    cases unset

/-- Over every run of `main` and every schedule of the other parties, no
pointer is read while it is `NULL` exactly when the exposed rounds come in
their windows. -/
theorem contextLifetime_along_iff (events : List LifecycleEvent) :
    lifecycleMachine.Along (fun state => state.crashed = false)
        freshLifecycle events ↔
      lifecycleMachine.Takes InWindow freshLifecycle events :=
  @Machine.along_iff_takes _ _ _ lifecycleMachine InWindow LifecycleOrder
    (fun state => state.crashed = false)
    (fun _ _ _ _ order stepped => order.step stepped)
    (fun _ _ _ _ order _ stepped => notCrashed_step_iff order stepped)
    freshLifecycle freshLifecycle_order rfl events

/-- `fx650_init` fails and the FKZ9 service starts: the first MQTT message
that holds several frames is sent through a cloud context that was never
published. -/
theorem frames_without_cloud_service : ∃ outputs state,
    lifecycleMachine.Reaches Machine.anyStep outputs state ∧
      state.vars.pc = .serving ∧ outputs = [.gpCloudCommCtx] ∧
      state.crashed = true := by
  have computed : (lifecycleMachine.run (fun _ _ => true) freshLifecycle
      (.main false :: List.replicate 6 (.main true) ++
        [.mqttMessage .frames])).map
        (fun result => (result.1.vars.pc, result.1.crashed, result.2)) =
      some (.serving, true, [.gpCloudCommCtx]) := by
    decide
  obtain ⟨outputs, state, reached, result⟩ :=
    Machine.Reaches.of_run (fun _ _ _ => trivial) rfl computed
  obtain ⟨here, stopped, read⟩ := by simpa using result
  exact ⟨outputs, state, reached, here, read, stopped⟩

end RtA100
