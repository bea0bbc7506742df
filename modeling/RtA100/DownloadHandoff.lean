import RtA100.Library.Machine
import RtA100.OtaResponse

/-!
# The hand-off to the download thread

Two callbacks put tasks on the list under its mutex and signal the condition
variable; `download_upgrade_entry` waits for tasks and works them off under the
same mutex.  The callbacks run on one thread in the program; here each is a
party of its own, so the interleavings of the program are among those below.

The loop around `pthread_cond_wait` tests `&pTask->list.count == 0`, which
compares the address of the counter with zero and so never waits.
-/

namespace RtA100

open Library

/-- `List_GetHead` -/
def TaskList.getHead (list : TaskList) : Option FwDownInfo :=
  if list.count = 0 then none else list.nodes.head?

/-- `List_DelHead`, which empties the list when the counter reaches zero. -/
def TaskList.delHead (list : TaskList) : TaskList :=
  if empty : list.count = 0 then list
  else
    { nodes := if list.count - 1 = 0 then [] else list.nodes.tail
      count := list.count - 1
      counted := by
        split
        · rename_i last
          exact last
        · rename_i more
          obtain ⟨nodes, count, counted⟩ := list
          cases nodes with
          | nil => exact absurd counted empty
          | cons info rest =>
              simp only [counted, List.tail_cons, List.length_cons,
                UInt16.ofNat_add]
              exact UInt16.add_sub_cancel _ _ }

/-- The address of an object. -/
structure Address where
  value : UInt64
  nonnull : value ≠ 0

/-- The download thread: at the test of `running`, at `pthread_mutex_lock`, at
the test of the inner loop, in `pthread_cond_wait`, at the call of
`do_downlaod_firmware`, in its loop, at `pthread_mutex_unlock`, and after the
end of the thread. -/
inductive WorkerPc where
  | checking
  | locking
  | testing
  | waiting
  | calling
  | working
  | unlocking
  | ended
deriving DecidableEq

/-- A producer: outside its critical section, with the mutex, behind the parser
with its result, and behind the signal. -/
inductive ProducerPc where
  | idle
  | locked
  | parsed (ret : Int)
  | notified
deriving DecidableEq

inductive Producer where
  | otaHeartbeatTaskCb
  | rebootUpgradeTaskCb
deriving DecidableEq

inductive MutexOwner where
  | worker
  | producer (which : Producer)
deriving DecidableEq

/-- The list, the mutex, the signal that a waiting thread has been sent, and
where the parties stand. -/
structure Handoff where
  running : Bool
  list : TaskList
  mutex : Option MutexOwner
  signalled : Bool
  worker : WorkerPc
  heartbeat : ProducerPc
  reboot : ProducerPc

def Handoff.producer (state : Handoff) : Producer → ProducerPc
  | .otaHeartbeatTaskCb => state.heartbeat
  | .rebootUpgradeTaskCb => state.reboot

def Handoff.setProducer (state : Handoff) (pc : ProducerPc) :
    Producer → Handoff
  | .otaHeartbeatTaskCb => { state with heartbeat := pc }
  | .rebootUpgradeTaskCb => { state with reboot := pc }

/-- `pthread_cond_signal`, which is lost when nobody waits. -/
def Handoff.signal (state : Handoff) : Handoff :=
  { state with
    signalled := state.signalled || state.worker == .waiting }

/-- The condition of the inner loop of `download_upgrade_entry`. -/
def waitCondition (count : Address) : Bool := count.value == 0

/-- The steps of the parties.  A wake-up may be spurious. -/
inductive HandoffEvent where
  | stop
  | check
  | lock
  | test
  | wake (spurious : Bool)
  | call
  | finishTask
  | return
  | unlock
  | producerLock (which : Producer)
  | parse (response : Option CJson)
  | notifyParsed
  | insert (info : FwDownInfo)
  | notifyInserted
  | producerUnlock (which : Producer)

/-- A step of `download_upgrade_entry`. -/
def workerStep (count : Address) (state : Handoff) :
    HandoffEvent → Option Handoff
  | .check =>
      if state.worker = .checking then
        some { state with
          worker := if state.running = true then .locking else .ended }
      else none
  | .lock =>
      if state.worker = .locking ∧ state.mutex = none then
        some { state with mutex := some .worker, worker := .testing }
      else none
  | .test =>
      if state.worker = .testing then
        if waitCondition count = true then
          some { state with
            mutex := none, signalled := false, worker := .waiting }
        else some { state with worker := .calling }
      else none
  | .wake spurious =>
      if state.worker = .waiting ∧ state.mutex = none ∧
          (state.signalled = true ∨ spurious = true) then
        some { state with
          mutex := some .worker, signalled := false, worker := .testing }
      else none
  | .call =>
      if state.worker = .calling then
        some { state with worker := .working }
      else none
  | .finishTask =>
      if state.worker = .working ∧ state.list.getHead ≠ none then
        some { state with list := state.list.delHead }
      else none
  | .return =>
      if state.worker = .working ∧ state.list.getHead = none then
        some { state with worker := .unlocking }
      else none
  | .unlock =>
      if state.worker = .unlocking then
        some { state with mutex := none, worker := .checking }
      else none
  | _ => none

/-- A step of the producers, or of the thread that clears `running`. -/
def producerStep (state : Handoff) : HandoffEvent → Option Handoff
  | .stop => some { state with running := false }
  | .producerLock which =>
      if state.producer which = .idle ∧ state.mutex = none then
        some ({ state with mutex := some (.producer which) }.setProducer
          .locked which)
      else none
  | .parse response =>
      if state.heartbeat = .locked then do
        let (list, ret) ← otaHeartbeatRespParseTree state.list response
        some { state with list, heartbeat := .parsed ret }
      else none
  | .notifyParsed =>
      match state.heartbeat with
      | .parsed ret =>
          some { (if ret = 0 then state.signal else state) with
            heartbeat := .notified }
      | _ => none
  | .insert info =>
      if state.reboot = .locked then
        some { state with list := state.list.insert info }
      else none
  | .notifyInserted =>
      if state.reboot = .locked then
        some { state.signal with reboot := .notified }
      else none
  | .producerUnlock which =>
      if state.producer which = .notified then
        some ({ state with mutex := none }.setProducer .idle which)
      else none
  | _ => none

def handoffStep (count : Address) (state : Handoff) (event : HandoffEvent) :
    Option (Handoff × List Empty) :=
  ((workerStep count state event).or (producerStep state event)).map
    fun following => (following, [])

/-- The threads have just been created. -/
def freshHandoff : Handoff :=
  { running := true, list := emptyTaskList, mutex := none
    signalled := false, worker := .checking, heartbeat := .idle
    reboot := .idle }

def handoffMachine (count : Address) :
    Machine Handoff HandoffEvent Empty :=
  { initial := fun state => state = freshHandoff
    step := handoffStep count }

/-! ## The law -/

/-- The thread calls `do_downlaod_firmware` with a task on the list; and while
it waits it does not hold the mutex, and has been sent a signal if there is a
task. -/
structure HandedOver (state : Handoff) : Prop where
  called : state.worker = .calling → state.list.nodes ≠ []
  released : state.worker = .waiting → state.mutex ≠ some .worker
  notified : state.worker = .waiting → state.list.nodes ≠ [] →
    state.signalled = true

/-- The thread tests its condition only while there is a task. -/
def TestsWithTasks (state : Handoff) (event : HandoffEvent) : Prop :=
  event = .test → state.list.nodes ≠ []

/-- The thread never waits. -/
def NeverWaits (state : Handoff) : Prop := state.worker ≠ .waiting

theorem waitCondition_false (count : Address) :
    waitCondition count = false := by
  simpa [waitCondition] using count.nonnull

/-- Everything a step of the thread can do: enter or leave its critical section
or its loop, test, call, or work a task off. -/
inductive WorkerChange (state : Handoff) :
    HandoffEvent → Handoff → Prop where
  | moves {event : HandoffEvent} (following : Handoff) :
      event ≠ .test →
      following.worker ≠ .calling →
      following.worker ≠ .waiting →
      WorkerChange state event following
  | calls :
      state.worker = .testing →
      WorkerChange state .test { state with worker := .calling }

theorem workerStep_change {count : Address} {state following : Handoff}
    {event : HandoffEvent}
    (stepped : workerStep count state event = some following) :
    WorkerChange state event following := by
  cases event with
  | check =>
      simp only [workerStep, Option.ite_none_right_eq_some,
        Option.some.injEq] at stepped
      obtain ⟨_, rfl⟩ := stepped
      cases state.running
      · exact .moves _ (by simp) (by simp) (by simp)
      · exact .moves _ (by simp) (by simp) (by simp)
  | test =>
      simp only [workerStep, waitCondition_false, Bool.false_eq_true, if_false,
        Option.ite_none_right_eq_some, Option.some.injEq] at stepped
      obtain ⟨testing, rfl⟩ := stepped
      exact .calls testing
  | finishTask =>
      simp only [workerStep, Option.ite_none_right_eq_some,
        Option.some.injEq] at stepped
      obtain ⟨⟨working, _⟩, rfl⟩ := stepped
      exact .moves _ (by simp) (by simp [working]) (by simp [working])
  | lock | wake | call | «return» | unlock =>
      simp only [workerStep, Option.ite_none_right_eq_some,
        Option.some.injEq] at stepped
      obtain ⟨_, rfl⟩ := stepped
      exact .moves _ (by simp) (by simp) (by simp)
  | stop | producerLock | parse | notifyParsed | insert | notifyInserted
  | producerUnlock => cases stepped

/-- A step of another party leaves the thread where it is, and takes nothing
off the list. -/
structure ProducerChange (state : Handoff) (event : HandoffEvent)
    (following : Handoff) : Prop where
  other : event ≠ .test
  worker : following.worker = state.worker
  grows : state.list.nodes <+: following.list.nodes

@[simp] theorem Handoff.signal_list (state : Handoff) :
    state.signal.list = state.list := rfl

@[simp] theorem Handoff.signal_worker (state : Handoff) :
    state.signal.worker = state.worker := rfl

@[simp] theorem Handoff.setProducer_list (state : Handoff) (pc : ProducerPc)
    (which : Producer) : (state.setProducer pc which).list = state.list := by
  cases which <;> rfl

@[simp] theorem Handoff.setProducer_worker (state : Handoff)
    (pc : ProducerPc) (which : Producer) :
    (state.setProducer pc which).worker = state.worker := by
  cases which <;> rfl

theorem producerStep_change {state following : Handoff}
    {event : HandoffEvent}
    (stepped : producerStep state event = some following) :
    ProducerChange state event following := by
  cases event with
  | stop =>
      cases stepped
      exact ⟨by simp, rfl, List.prefix_rfl⟩
  | producerLock which =>
      simp only [producerStep, Option.ite_none_right_eq_some,
        Option.some.injEq] at stepped
      obtain ⟨_, rfl⟩ := stepped
      exact ⟨by simp, by simp, by simp⟩
  | parse response =>
      simp only [producerStep, Option.ite_none_right_eq_some,
        Option.bind_eq_bind, Option.bind_eq_some_iff, Prod.exists,
        Option.some.injEq] at stepped
      obtain ⟨_, list, ret, parsed, rfl⟩ := stepped
      exact ⟨by simp, rfl, otaHeartbeatRespParseTree_extends parsed⟩
  | notifyParsed =>
      rw [producerStep] at stepped
      split at stepped
      · rename_i ret _
        cases stepped
        by_cases success : ret = 0
        · exact ⟨by simp, by simp [success], by simp [success]⟩
        · exact ⟨by simp, by simp [success], by simp [success]⟩
      · cases stepped
  | insert info =>
      simp only [producerStep, Option.ite_none_right_eq_some,
        Option.some.injEq] at stepped
      obtain ⟨_, rfl⟩ := stepped
      exact ⟨by simp, rfl, List.prefix_append _ _⟩
  | notifyInserted =>
      simp only [producerStep, Option.ite_none_right_eq_some,
        Option.some.injEq] at stepped
      obtain ⟨_, rfl⟩ := stepped
      exact ⟨by simp, by simp, by simp⟩
  | producerUnlock which =>
      simp only [producerStep, Option.ite_none_right_eq_some,
        Option.some.injEq] at stepped
      obtain ⟨_, rfl⟩ := stepped
      exact ⟨by simp, by simp, by simp⟩
  | check | lock | test | wake | call | finishTask | «return» | unlock =>
      cases stepped

theorem handoffStep_cases {count : Address} {state following : Handoff}
    {event : HandoffEvent} {emitted : List Empty}
    (stepped : handoffStep count state event = some (following, emitted)) :
    WorkerChange state event following ∨
      ProducerChange state event following := by
  obtain ⟨next, enabled, result⟩ := Option.map_eq_some_iff.mp stepped
  cases result
  rcases Option.or_eq_some_iff.mp enabled with worker | ⟨_, producer⟩
  · exact .inl (workerStep_change worker)
  · exact .inr (producerStep_change producer)

theorem NeverWaits.step {count : Address} {state following : Handoff}
    {event : HandoffEvent} {emitted : List Empty}
    (awake : NeverWaits state)
    (stepped : handoffStep count state event = some (following, emitted)) :
    NeverWaits following := by
  rcases handoffStep_cases stepped with change | change
  · cases change with
    | moves _ _ _ elsewhere => exact elsewhere
    | calls _ => exact fun same => nomatch same
  · unfold NeverWaits
    rw [change.worker]
    exact awake

/-- A thread that does not wait has only its calls to answer for. -/
theorem NeverWaits.handedOver_iff {state : Handoff}
    (awake : NeverWaits state) :
    HandedOver state ↔
      (state.worker = .calling → state.list.nodes ≠ []) :=
  ⟨fun handed => handed.called, fun called =>
    ⟨called, fun waits => absurd waits awake,
      fun waits => absurd waits awake⟩⟩

theorem handedOver_step_iff {count : Address} {state following : Handoff}
    {event : HandoffEvent} {emitted : List Empty}
    (awake : NeverWaits state) (handed : HandedOver state)
    (stepped : handoffStep count state event = some (following, emitted)) :
    HandedOver following ↔ TestsWithTasks state event := by
  rw [(awake.step stepped).handedOver_iff]
  rcases handoffStep_cases stepped with change | change
  · cases change with
    | moves _ other elsewhere _ =>
        exact iff_of_true (fun calling => absurd calling elsewhere)
          (fun test => absurd test other)
    | calls _ => simp [TestsWithTasks]
  · refine iff_of_true (fun calling => ?_)
      (fun test => absurd test change.other)
    rw [change.worker] at calling
    intro nothing
    have grows := change.grows
    rw [nothing] at grows
    exact handed.called calling (List.prefix_nil.mp grows)

/-- In every interleaving, the hand-off is kept exactly when the thread tests
its condition only while there is a task. -/
theorem handedOver_along_iff (count : Address)
    (events : List HandoffEvent) :
    (handoffMachine count).Along HandedOver freshHandoff events ↔
      (handoffMachine count).Takes TestsWithTasks freshHandoff events :=
  @Machine.along_iff_takes _ _ _ (handoffMachine count) TestsWithTasks
    NeverWaits HandedOver
    (fun _ _ _ _ awake stepped => awake.step stepped)
    (fun _ _ _ _ awake handed stepped =>
      handedOver_step_iff awake handed stepped)
    freshHandoff (by simp [NeverWaits, freshHandoff])
    (by constructor <;> simp [freshHandoff]) events

def exampleAddress : Address :=
  { value := 0x1000, nonnull := by decide }

/-- The thread calls `do_downlaod_firmware` before any task has come. -/
theorem worker_calls_without_tasks : ∃ outputs state,
    (handoffMachine exampleAddress).Reaches Machine.anyStep outputs state ∧
      ¬HandedOver state := by
  have computed : ((handoffMachine exampleAddress).run (fun _ _ => true)
      freshHandoff [.check, .lock, .test]).map
        (fun result => (result.1.worker, result.1.list.nodes)) =
      some (.calling, []) := by
    decide
  obtain ⟨outputs, state, reached, result⟩ :=
    Machine.Reaches.of_run (fun _ _ _ => trivial) rfl computed
  obtain ⟨calling, nothing⟩ := Prod.mk.inj result
  exact ⟨outputs, state, reached,
    fun handed => handed.called calling nothing⟩

end RtA100
