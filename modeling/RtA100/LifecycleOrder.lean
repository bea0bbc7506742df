import RtA100.Lifecycle

/-!
# Where `main` is while the services live

The variables that `main` writes are functions of its place in the program and
of the outcome of the two initialisations.  `LifecycleOrder` adds between which
statements each thread can be alive and work can wait for it; every step keeps
it.
-/

namespace RtA100

/-- Every variable, from the place of `main` and the two outcomes. -/
def MainVars.expected (pc : MainPc) (cloudInit fkz9Init : Bool) : MainVars :=
  let after (first : MainPc) := decide (first.position < pc.position)
  let upTo (last : MainPc) := decide (pc.position ≤ last.position)
  { pc := pc
    cloudInit := cloudInit
    fkz9Init := fkz9Init
    client := cloudInit && after .setClient
    running := cloudInit && after .setClient && upTo .stopCloud
    gpCloudCommCtx := cloudInit && after .publishCloud && upTo .clearCloud
    isRunning := fkz9Init && after .setFkz9Running && upTo .stopFkz9
    gpFkz9CommCtx := fkz9Init && after .publishFkz9 && upTo .clearFkz9 }

/-- The places that go with the two outcomes: a service that failed to start
is neither set up nor torn down. -/
def MainPc.possible (pc : MainPc) (cloudInit fkz9Init : Bool) : Bool :=
  let after (first : MainPc) := decide (first.position < pc.position)
  let before (last : MainPc) := decide (pc.position < last.position)
  (!cloudInit || after .fx650Init) &&
    (cloudInit || !(after .fx650Init && before .mqttCreate)) &&
    (cloudInit || !(after .stopCloud && before .stopFkz9)) &&
    (!fkz9Init || after .mqttCreate) &&
    (fkz9Init || !(after .mqttCreate && before .serving)) &&
    (fkz9Init || !(after .stopFkz9 && before .finished))

structure MainOrder (vars : MainVars) : Prop where
  expected : vars = .expected vars.pc vars.cloudInit vars.fkz9Init
  possible : vars.pc.possible vars.cloudInit vars.fkz9Init = true

/-- How far a statement goes: it passes over the shutdown of a service only if
that service is not running, and over an initialisation only if it failed. -/
structure MainAdvance (vars following : MainVars) : Prop where
  order : MainOrder following
  cloudInit : vars.cloudInit = true → following.cloudInit = true
  fkz9Init : vars.fkz9Init = true → following.fkz9Init = true
  forward : vars.pc.position ≤ following.pc.position
  cloud : vars.cloudInit = true →
    vars.pc.position < MainPc.stopFkz9.position →
    following.pc.position ≤ vars.pc.position + 1 ∨
      following.pc.position ≤ MainPc.joinCloudTimer.position
  fkz9 : vars.fkz9Init = true →
    following.pc.position ≤ vars.pc.position + 1 ∨
      following.pc.position ≤ MainPc.stopFkz9.position

theorem MainOrder.advance {vars : MainVars} (order : MainOrder vars)
    (outcome : Bool) : MainAdvance vars (mainStatement vars outcome) := by
  obtain ⟨expected, possible⟩ := order
  generalize vars.pc = pc at expected possible
  generalize vars.cloudInit = cloudInit at expected possible
  generalize vars.fkz9Init = fkz9Init at expected possible
  subst expected
  cases pc <;> cases cloudInit <;> cases fkz9Init <;>
    first
    | exact absurd possible (by decide)
    | cases outcome <;> exact ⟨⟨by decide, by decide⟩, by decide,
        by decide, by decide, by decide, by decide⟩

/-- `main` has executed `first`, in a run whose cloud service starts, and has
not executed `last`. -/
def CloudBetween (vars : MainVars) (first last : MainPc) : Prop :=
  vars.cloudInit = true ∧ first.position < vars.pc.position ∧
    vars.pc.position ≤ last.position

def Fkz9Between (vars : MainVars) (first last : MainPc) : Prop :=
  vars.fkz9Init = true ∧ first.position < vars.pc.position ∧
    vars.pc.position ≤ last.position

theorem MainOrder.client_iff {vars : MainVars} (order : MainOrder vars) :
    vars.client = true ↔
      vars.cloudInit = true ∧ MainPc.setClient.position < vars.pc.position := by
  rw [order.expected]
  simp [MainVars.expected]

theorem MainOrder.gpCloudCommCtx_iff {vars : MainVars}
    (order : MainOrder vars) :
    vars.gpCloudCommCtx = true ↔
      CloudBetween vars .publishCloud .clearCloud := by
  rw [order.expected]
  simp [MainVars.expected, CloudBetween, and_assoc]

theorem MainOrder.isRunning_iff {vars : MainVars} (order : MainOrder vars) :
    vars.isRunning = true ↔ Fkz9Between vars .setFkz9Running .stopFkz9 := by
  rw [order.expected]
  simp [MainVars.expected, Fkz9Between, and_assoc]

theorem MainOrder.gpFkz9CommCtx_iff {vars : MainVars}
    (order : MainOrder vars) :
    vars.gpFkz9CommCtx = true ↔ Fkz9Between vars .publishFkz9 .clearFkz9 := by
  rw [order.expected]
  simp [MainVars.expected, Fkz9Between, and_assoc]

theorem MainPc.position_inj {first second : MainPc}
    (same : first.position = second.position) : first = second := by
  cases first <;> cases second <;> first | rfl | cases same

theorem MainPc.position_le_finished (pc : MainPc) :
    pc.position ≤ MainPc.finished.position := by
  cases pc <;> decide

/-- A thread of the cloud service, alive since `first`, is still alive after a
statement of `main` that does not wait for it. -/
theorem MainAdvance.cloudBetween {vars following : MainVars}
    {first last : MainPc} (advance : MainAdvance vars following)
    (between : CloudBetween vars first last) (other : vars.pc ≠ last)
    (after : MainPc.joinCloudTimer.position ≤ last.position)
    (before : last.position < MainPc.stopFkz9.position) :
    CloudBetween following first last := by
  obtain ⟨init, begun, within⟩ := between
  have early : vars.pc.position < last.position :=
    Nat.lt_of_le_of_ne within (fun same => other (MainPc.position_inj same))
  have forward := advance.forward
  have bound := advance.cloud init (Nat.lt_trans early before)
  exact ⟨advance.cloudInit init, by omega, by omega⟩

theorem MainAdvance.fkz9Between {vars following : MainVars}
    {first last : MainPc} (advance : MainAdvance vars following)
    (between : Fkz9Between vars first last) (other : vars.pc ≠ last)
    (after : MainPc.stopFkz9.position ≤ last.position) :
    Fkz9Between following first last := by
  obtain ⟨init, begun, within⟩ := between
  have early : vars.pc.position < last.position :=
    Nat.lt_of_le_of_ne within (fun same => other (MainPc.position_inj same))
  have forward := advance.forward
  have bound := advance.fkz9 init
  exact ⟨advance.fkz9Init init, by omega, by omega⟩

theorem MainAdvance.cloudSince {vars following : MainVars} {first : MainPc}
    (advance : MainAdvance vars following)
    (between : CloudBetween vars first .finished) :
    CloudBetween following first .finished :=
  ⟨advance.cloudInit between.1,
    Nat.lt_of_lt_of_le between.2.1 advance.forward,
    MainPc.position_le_finished _⟩

theorem MainAdvance.fkz9Since {vars following : MainVars} {first : MainPc}
    (advance : MainAdvance vars following)
    (between : Fkz9Between vars first .finished) :
    Fkz9Between following first .finished :=
  ⟨advance.fkz9Init between.1,
    Nat.lt_of_lt_of_le between.2.1 advance.forward,
    MainPc.position_le_finished _⟩

/-! ## The threads -/

def EventPc.live (place : EventPc) : Prop :=
  place ≠ .absent ∧ place ≠ .ended

structure LifecycleOrder (state : Lifecycle) : Prop where
  main : MainOrder state.vars
  cloudTimer : state.cloudTimer = .alive →
    CloudBetween state.vars .createCloudTimer .joinCloudTimer
  cloudEvent : state.cloudEvent = .alive →
    CloudBetween state.vars .createCloudEvent .joinCloudEvent
  download : state.download = .alive →
    CloudBetween state.vars .createDownload .joinDownload
  tasks : 0 < state.tasks → CloudBetween state.vars .publishCloud .finished
  fkz9Event : state.fkz9Event.live →
    Fkz9Between state.vars .createFkz9Event .joinFkz9Event
  fkz9Pending : 0 < state.fkz9Pending →
    Fkz9Between state.vars .publishFkz9 .finished
  filled : state.fkz9Event = .filled →
    Fkz9Between state.vars .publishFkz9 .finished

theorem freshLifecycle_order : LifecycleOrder freshLifecycle where
  main := ⟨by decide, by decide⟩
  cloudTimer := by simp [freshLifecycle]
  cloudEvent := by simp [freshLifecycle]
  download := by simp [freshLifecycle]
  tasks := by simp [freshLifecycle]
  fkz9Event := by simp [freshLifecycle, EventPc.live]
  fkz9Pending := by simp [freshLifecycle]
  filled := by simp [freshLifecycle]

/-- What a statement of `main` does to the other parties. -/
structure MainChange (state following : Lifecycle) : Prop where
  cloudTimer : following.cloudTimer = .alive →
    state.cloudTimer = .alive ∧ state.vars.pc ≠ .joinCloudTimer ∨
      state.vars.pc = .createCloudTimer
  cloudEvent : following.cloudEvent = .alive →
    state.cloudEvent = .alive ∧ state.vars.pc ≠ .joinCloudEvent ∨
      state.vars.pc = .createCloudEvent
  download : following.download = .alive →
    state.download = .alive ∧ state.vars.pc ≠ .joinDownload ∨
      state.vars.pc = .createDownload
  fkz9Event :
    following.fkz9Event = state.fkz9Event ∧
        (state.fkz9Event.live → state.vars.pc ≠ .joinFkz9Event) ∨
      following.fkz9Event = .testing ∧ state.vars.pc = .createFkz9Event
  tasks : following.tasks = state.tasks
  fkz9Pending : following.fkz9Pending = state.fkz9Pending
  crashed : following.crashed = state.crashed

theorem mainThreads_change {state following : Lifecycle} {outcome : Bool}
    (threads : mainThreads state outcome = some following) :
    MainChange state following := by
  unfold mainThreads at threads
  constructor <;> grind [EventPc.live]

theorem MainOrder.cloud_started {vars : MainVars} (order : MainOrder vars)
    (after : MainPc.fx650Init.position < vars.pc.position)
    (before : vars.pc.position < MainPc.mqttCreate.position) :
    vars.cloudInit = true := by
  have possible := order.possible
  cases init : vars.cloudInit with
  | true => rfl
  | false => simp [MainPc.possible, init, after, before] at possible

theorem MainOrder.fkz9_started {vars : MainVars} (order : MainOrder vars)
    (after : MainPc.mqttCreate.position < vars.pc.position)
    (before : vars.pc.position < MainPc.serving.position) :
    vars.fkz9Init = true := by
  have possible := order.possible
  cases init : vars.fkz9Init with
  | true => rfl
  | false => simp [MainPc.possible, init, after, before] at possible

/-- The statements that set the cloud service up follow each other. -/
theorem mainStatement_setup {vars : MainVars} (outcome : Bool)
    (after : MainPc.fx650Init.position < vars.pc.position)
    (before : vars.pc.position < MainPc.mqttCreate.position) :
    (mainStatement vars outcome).pc.position = vars.pc.position + 1 := by
  cases here : vars.pc <;> rw [here] at after before <;>
    first
    | exact absurd after (by decide)
    | exact absurd before (by decide)
    | simp [mainStatement, here, MainPc.position]

/-- A thread of the cloud service is alive because it was, and `main` does not
wait for it, or because `main` creates it. -/
theorem MainOrder.cloud_alive {vars : MainVars} {first last : MainPc}
    {alive : Prop} (order : MainOrder vars) (outcome : Bool)
    (within : alive → CloudBetween vars first last)
    (setup : MainPc.fx650Init.position < first.position ∧
      first.position < MainPc.mqttCreate.position)
    (teardown : MainPc.joinCloudTimer.position ≤ last.position ∧
      last.position < MainPc.stopFkz9.position)
    (change : alive ∧ vars.pc ≠ last ∨ vars.pc = first) :
    CloudBetween (mainStatement vars outcome) first last := by
  have advance := order.advance outcome
  rcases change with ⟨before, other⟩ | rfl
  · exact advance.cloudBetween (within before) other teardown.1 teardown.2
  · have started := order.cloud_started setup.1 setup.2
    have next := mainStatement_setup outcome setup.1 setup.2
    have apart : MainPc.mqttCreate.position <
        MainPc.joinCloudTimer.position := by decide
    exact ⟨advance.cloudInit started, by omega, by omega⟩

theorem LifecycleOrder.main_step {state following : Lifecycle}
    {outcome : Bool} (order : LifecycleOrder state)
    (stepped : mainStep state outcome = some following) :
    LifecycleOrder following := by
  obtain ⟨threads, executed, rfl⟩ := Option.map_eq_some_iff.mp stepped
  have change := mainThreads_change executed
  have advance := order.main.advance outcome
  constructor
  · exact advance.order
  · intro alive
    exact order.main.cloud_alive outcome order.cloudTimer (by decide)
      (by decide) (change.cloudTimer alive)
  · intro alive
    exact order.main.cloud_alive outcome order.cloudEvent (by decide)
      (by decide) (change.cloudEvent alive)
  · intro alive
    exact order.main.cloud_alive outcome order.download (by decide)
      (by decide) (change.download alive)
  · intro waiting
    rw [change.tasks] at waiting
    exact advance.cloudSince (order.tasks waiting)
  · intro live
    rcases change.fkz9Event with ⟨same, other⟩ | ⟨_, here⟩
    · rw [same] at live
      exact advance.fkz9Between (order.fkz9Event live) (other live)
        (by decide)
    · have started := order.main.fkz9_started (by rw [here]; decide)
        (by rw [here]; decide)
      have next : (mainStatement state.vars outcome).pc = .setFkz9Running := by
        simp [mainStatement, here]
      exact ⟨advance.fkz9Init started, by rw [next]; decide,
        by rw [next]; decide⟩
  · intro waiting
    rw [change.fkz9Pending] at waiting
    exact advance.fkz9Since (order.fkz9Pending waiting)
  · intro filled
    rcases change.fkz9Event with ⟨same, _⟩ | ⟨created, _⟩
    · rw [same] at filled
      exact advance.fkz9Since (order.filled filled)
    · rw [created] at filled
      cases filled

/-- What a round of a party leaves to `main` and what it takes to enter each
state. -/
structure PartyChange (state following : Lifecycle) (event : LifecycleEvent) :
    Prop where
  vars : following.vars = state.vars
  crashed : following.crashed = state.crashed
  cloudTimer : following.cloudTimer = .alive → state.cloudTimer = .alive
  cloudEvent : following.cloudEvent = .alive → state.cloudEvent = .alive
  download : following.download = .alive → state.download = .alive
  tasks : 0 < following.tasks → 0 < state.tasks ∨
    SharedPointer.gpCloudCommCtx ∈ pointersRead state event
  fkz9Event : following.fkz9Event.live → state.fkz9Event.live
  fkz9Pending : 0 < following.fkz9Pending → 0 < state.fkz9Pending ∨
    SharedPointer.gpFkz9CommCtx ∈ pointersRead state event
  filled : following.fkz9Event = .filled →
    state.fkz9Event = .filled ∨ 0 < state.fkz9Pending
  ended : following.fkz9Event = .ended → state.fkz9Event = .ended ∨
    event = .fkz9Test ∧ state.vars.isRunning = false

theorem PartyChange.refl (state : Lifecycle) (event : LifecycleEvent) :
    PartyChange state state event where
  vars := rfl
  crashed := rfl
  cloudTimer := id
  cloudEvent := id
  download := id
  tasks := .inl
  fkz9Event := id
  fkz9Pending := .inl
  filled := .inl
  ended := .inl

/-- A frame has been handled. -/
theorem fkz9MessageStep_change {state : Lifecycle} (message : Fkz9Message)
    (inside : state.fkz9Event = .inside) (waiting : 0 < state.fkz9Pending) :
    PartyChange state (fkz9MessageStep state message)
      (.fkz9Message message) := by
  have unchanged := PartyChange.refl state (.fkz9Message message)
  have live : state.fkz9Event.live := by simp [inside, EventPc.live]
  cases message with
  | heartbeatResp =>
      exact { unchanged with
        fkz9Event := fun _ => live
        fkz9Pending := fun _ => .inl waiting
        filled := fun _ => .inr waiting
        ended := fun ended => by
          simp only [fkz9MessageStep] at ended
          split at ended <;> cases ended }
  | forwarded =>
      exact { unchanged with
        fkz9Event := fun _ => live
        fkz9Pending := fun _ => .inl waiting
        filled := fun _ => .inr waiting
        ended := fun ended => by cases ended }
  | dropped =>
      exact { unchanged with
        fkz9Event := fun _ => live
        fkz9Pending := fun _ => .inl waiting
        filled := fun _ => .inr waiting
        ended := fun ended => by cases ended }

theorem partyStep_change {state following : Lifecycle}
    {event : LifecycleEvent} (other : ∀ outcome, event ≠ .main outcome)
    (stepped : partyStep state event = some following) :
    PartyChange state following event := by
  have unchanged := PartyChange.refl state event
  cases event with
  | main outcome => exact absurd rfl (other outcome)
  | tcpConnected =>
      obtain ⟨_, rfl⟩ := by simpa [partyStep] using stepped
      exact { unchanged with }
  | tcpDisconnected =>
      obtain ⟨_, rfl⟩ := by simpa [partyStep] using stepped
      exact { unchanged with }
  | tcpRead =>
      obtain ⟨_, rfl⟩ := by simpa [partyStep] using stepped
      exact { unchanged with }
  | mqttMessage payload =>
      obtain ⟨_, rfl⟩ := by simpa [partyStep] using stepped
      cases payload with
      | frame =>
          exact { unchanged with
            fkz9Pending := fun _ => .inr (by simp [pointersRead]) }
      | heartbeatReq => exact unchanged
      | frames => exact unchanged
  | cloudMessage message =>
      obtain ⟨_, rfl⟩ := by simpa [partyStep] using stepped
      exact { unchanged with }
  | cloudEventExit =>
      obtain ⟨_, rfl⟩ := by simpa [partyStep] using stepped
      exact { unchanged with cloudEvent := fun alive => by cases alive }
  | navData =>
      obtain ⟨_, rfl⟩ := by simpa [partyStep] using stepped
      exact unchanged
  | rebootUpgrade tick =>
      cases tick with
      | noMission =>
          obtain ⟨_, rfl⟩ := by simpa [partyStep] using stepped
          exact unchanged
      | compared tasks =>
          obtain ⟨_, rfl⟩ := by simpa [partyStep] using stepped
          exact { unchanged with
            tasks := fun _ => .inr (by simp [pointersRead]) }
  | otaHeartbeat tick =>
      cases tick with
      | unmeasured =>
          obtain ⟨_, rfl⟩ := by simpa [partyStep] using stepped
          exact unchanged
      | measured tasks =>
          obtain ⟨_, rfl⟩ := by simpa [partyStep] using stepped
          exact { unchanged with
            tasks := fun _ => .inr (by simp [pointersRead]) }
  | cloudTimerExit =>
      obtain ⟨_, rfl⟩ := by simpa [partyStep] using stepped
      exact { unchanged with cloudTimer := fun alive => by cases alive }
  | downloadFirmware =>
      obtain ⟨⟨_, waiting⟩, rfl⟩ := by simpa [partyStep] using stepped
      exact { unchanged with tasks := fun _ => .inl waiting }
  | downloadExit =>
      obtain ⟨_, rfl⟩ := by simpa [partyStep] using stepped
      exact { unchanged with download := fun alive => by cases alive }
  | heartbeatReq =>
      obtain ⟨_, rfl⟩ := by simpa [partyStep] using stepped
      exact unchanged
  | fkz9TimerExit =>
      obtain ⟨_, rfl⟩ := by simpa [partyStep] using stepped
      exact { unchanged with }
  | fkz9Test =>
      obtain ⟨testing, rfl⟩ := by simpa [partyStep] using stepped
      have live : state.fkz9Event.live := by simp [testing, EventPc.live]
      cases running : state.vars.isRunning with
      | true =>
          exact { unchanged with
            fkz9Event := fun _ => live
            filled := fun filled => by cases filled
            ended := fun ended => by cases ended }
      | false =>
          exact { unchanged with
            fkz9Event := fun _ => live
            filled := fun filled => by cases filled
            ended := fun _ => .inr ⟨rfl, running⟩ }
  | fkz9Message message =>
      obtain ⟨⟨inside, waiting⟩, rfl⟩ := by simpa [partyStep] using stepped
      exact fkz9MessageStep_change message inside waiting
  | fkz9Send =>
      obtain ⟨filled, rfl⟩ := by simpa [partyStep] using stepped
      exact { unchanged with
        fkz9Event := fun _ => by simp [filled, EventPc.live]
        filled := fun filled => by cases filled
        ended := fun ended => by cases ended }
  | fkz9Idle =>
      obtain ⟨inside, rfl⟩ := by simpa [partyStep] using stepped
      exact { unchanged with
        fkz9Event := fun _ => by simp [inside, EventPc.live]
        filled := fun filled => by cases filled
        ended := fun ended => by cases ended }

theorem LifecycleOrder.cloudSince {state : Lifecycle}
    (order : LifecycleOrder state)
    (published : state.vars.gpCloudCommCtx = true) :
    CloudBetween state.vars .publishCloud .finished :=
  have window := order.main.gpCloudCommCtx_iff.mp published
  ⟨window.1, window.2.1, MainPc.position_le_finished _⟩

theorem LifecycleOrder.fkz9Since {state : Lifecycle}
    (order : LifecycleOrder state)
    (published : state.vars.gpFkz9CommCtx = true) :
    Fkz9Between state.vars .publishFkz9 .finished :=
  have window := order.main.gpFkz9CommCtx_iff.mp published
  ⟨window.1, window.2.1, MainPc.position_le_finished _⟩

theorem LifecycleOrder.party_step {state following : Lifecycle}
    {event : LifecycleEvent} (order : LifecycleOrder state)
    (change : PartyChange state following event)
    (set : ∀ pointer ∈ pointersRead state event,
      state.vars.isSet pointer = true) :
    LifecycleOrder following := by
  constructor <;> rw [change.vars]
  · exact order.main
  · exact fun alive => order.cloudTimer (change.cloudTimer alive)
  · exact fun alive => order.cloudEvent (change.cloudEvent alive)
  · exact fun alive => order.download (change.download alive)
  · intro waiting
    rcases change.tasks waiting with before | read
    · exact order.tasks before
    · exact order.cloudSince (set _ read)
  · exact fun live => order.fkz9Event (change.fkz9Event live)
  · intro waiting
    rcases change.fkz9Pending waiting with before | read
    · exact order.fkz9Pending before
    · exact order.fkz9Since (set _ read)
  · intro filled
    rcases change.filled filled with before | waiting
    · exact order.filled before
    · exact order.fkz9Pending waiting

/-- A step of the program: it stops at a pointer that is `NULL`, or `main` or
another party goes on. -/
theorem lifecycleStep_cases {state following : Lifecycle}
    {event : LifecycleEvent} {emitted : List SharedPointer}
    (stepped : lifecycleStep state event = some (following, emitted)) :
    state.crashed = false ∧ state.vars.pc ≠ .finished ∧
      ∃ next, partyStep state event = some next ∧
        ((∀ pointer ∈ pointersRead state event,
            state.vars.isSet pointer = true) ∧ following = next ∨
          (∃ pointer ∈ pointersRead state event,
            state.vars.isSet pointer = false) ∧
            following = { state with crashed := true }) := by
  unfold lifecycleStep at stepped
  split at stepped
  · cases stepped
  · rename_i going
    obtain ⟨next, enabled, read⟩ := Option.map_eq_some_iff.mp stepped
    refine ⟨by simpa using fun stopped => going (.inl stopped),
      fun finished => going (.inr finished), next, enabled, ?_⟩
    unfold Lifecycle.reading at read
    split at read
    · rename_i none
      have set := List.find?_eq_none.mp none
      exact .inl ⟨by simpa using set, (Prod.mk.inj read).1.symm⟩
    · rename_i pointer found
      have unset := List.find?_some found
      exact .inr ⟨⟨pointer, List.mem_of_find?_eq_some found,
        by simpa using unset⟩, (Prod.mk.inj read).1.symm⟩

theorem LifecycleOrder.step {state following : Lifecycle}
    {event : LifecycleEvent} {emitted : List SharedPointer}
    (order : LifecycleOrder state)
    (stepped : lifecycleStep state event = some (following, emitted)) :
    LifecycleOrder following := by
  obtain ⟨_, _, next, enabled, ⟨set, rfl⟩ | ⟨_, rfl⟩⟩ :=
    lifecycleStep_cases stepped
  · by_cases main : ∃ outcome, event = .main outcome
    · obtain ⟨outcome, rfl⟩ := main
      exact order.main_step enabled
    · exact order.party_step
        (partyStep_change (fun outcome same => main ⟨outcome, same⟩) enabled)
        set
  · obtain ⟨main, timer, event, download, tasks, fkz9, pending, filled⟩ :=
      order
    exact ⟨main, timer, event, download, tasks, fkz9, pending, filled⟩

end RtA100
