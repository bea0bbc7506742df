import RtA100.ConnectionOwnership

/-!
# The TCP client keeps trying

Only the event callback schedules a retry; the three failure exits of
`tcp_client_connect_entry` before `event_base_dispatch` do not.  `KeepsRetrying`
is the condition that a serial run takes such an exit only when no attempt is
left or another thread has already been created.
-/

namespace RtA100

open Library

/-- The thread is still setting up a connection or dispatches. -/
def ConnectPc.InProgress : ConnectPc → Prop
  | .newBase | .testBase | .newBev | .storeBev _ | .testBev | .setcb
  | .connect | .enable | .dispatch | .dispatching _ => True
  | _ => False

/-- While the client is not connected and attempts are left, a thread is in
progress or a retry is pending on a base that has not been freed. -/
def NeverGivesUp (system : TcpSystem) : Prop :=
  system.client.isConnected = false →
    system.client.recntAtt < system.client.maxRecntAtt →
      (∃ thread ∈ system.threads, thread.pc.InProgress) ∨
        ∃ object ∈ system.client.bases,
          0 < object.timers ∧ object.freed = false

def TcpClient.Exhausted (client : TcpClient) : Prop :=
  ¬client.recntAtt < client.maxRecntAtt

def ConnectPc.Fallible (pc : ConnectPc) : Prop :=
  pc = .newBase ∨ pc = .newBev ∨ pc = .connect

/-- A serial step, in which `event_base_new`, `bufferevent_socket_new` and
`bufferevent_socket_connect` fail only when no attempt is left or another thread
waits for its first access. -/
def KeepsRetrying (system : TcpSystem) (event : TcpEvent) : Prop :=
  Serial system event ∧
    ∀ (index : Nat) (thread : ConnectThread),
      event = .access index false → system.threads[index]? = some thread →
        thread.pc.Fallible →
          system.client.Exhausted ∨
            ∃ other : Nat, other ≠ index ∧
              system.threads[other]? = some .created

/-- The bufferevent of the thread is the one it created on its own base. -/
def Attached (client : TcpClient) (thread : ConnectThread) (active : Bool) :
    Prop :=
  ∃ base bev, thread.base = some base ∧ thread.bev = some bev ∧
    client.bevs[bev]? = some { base, active, freed := false }

/-- The thread is on its way to a loop that waits for something. -/
def Trying (client : TcpClient) (thread : ConnectThread) : Prop :=
  match thread.pc with
  | .newBase | .newBev => True
  | .testBase => thread.base ≠ none
  | .storeBev _ | .testBev | .setcb | .connect =>
      Attached client thread false
  | .enable | .dispatch => Attached client thread true
  | .dispatching base => client.Live base
  | _ => False

def SomeTrying (client : TcpClient) (threads : List ConnectThread) : Prop :=
  ∃ (index : Nat) (thread : ConnectThread),
    threads[index]? = some thread ∧ Trying client thread

/-- The invariant: a thread is trying unless no attempt is left. -/
def UnderWay (system : TcpSystem) : Prop :=
  system.client.Exhausted ∨ SomeTrying system.client system.threads

theorem Trying.inProgress {client : TcpClient} {thread : ConnectThread}
    (trying : Trying client thread) : thread.pc.InProgress := by
  unfold Trying at trying
  unfold ConnectPc.InProgress
  split at trying <;> simp_all

theorem UnderWay.neverGivesUp {system : TcpSystem}
    (underWay : UnderWay system) : NeverGivesUp system := by
  intro _ attempts
  rcases underWay with exhausted | ⟨index, thread, found, trying⟩
  · exact absurd attempts exhausted
  · exact Or.inl ⟨thread, List.mem_of_getElem? found, trying.inProgress⟩

theorem freeBase_attempts (client : TcpClient) :
    client.freeBase.recntAtt = client.recntAtt ∧
      client.freeBase.maxRecntAtt = client.maxRecntAtt := by
  unfold TcpClient.freeBase
  split <;> exact ⟨rfl, rfl⟩

theorem freeBev_attempts (client : TcpClient) :
    client.freeBev.recntAtt = client.recntAtt ∧
      client.freeBev.maxRecntAtt = client.maxRecntAtt := by
  unfold TcpClient.freeBev
  split <;> exact ⟨rfl, rfl⟩

theorem ConnectAccess.attempts {client following : TcpClient}
    {thread next : ConnectThread} {ok : Bool} {calls : List FreeCall}
    (access : ConnectAccess client thread ok following next calls) :
    following.recntAtt = client.recntAtt ∧
      following.maxRecntAtt = client.maxRecntAtt := by
  cases access with
  | freeBev _ _ _ => exact freeBev_attempts client
  | freeBaseOnly _ _ | freeBase _ _ _ => exact freeBase_attempts client
  | _ => exact ⟨rfl, rfl⟩

/-- A thread that is trying and whose call to libevent does not fail keeps
trying. -/
theorem Trying.step {client following : TcpClient} {frees : List FreeCall}
    {thread next : ConnectThread} {ok : Bool} {calls : List FreeCall}
    (trying : Trying client thread) (owned : Owned client frees thread)
    (works : thread.pc.Fallible → ok = true)
    (access : ConnectAccess client thread ok following next calls) :
    Trying following next := by
  unfold Trying at trying
  unfold Owned OwnsBase OwnsBev at owned
  cases access with
  | newBase pc => exact Option.some_ne_none _
  | newBaseFails pc => cases works (Or.inl pc)
  | nullBase _ pc null =>
      simp only [pc] at trying owned
      exact absurd (owned.1.symm.trans null) trying
  | testBase _ base pc _ => trivial
  | newBev base pc present =>
      simp only [pc] at owned
      exact ⟨base, client.bevs.length, owned.1.2.symm.trans present, rfl,
        List.getElem?_concat_length⟩
  | newBevFails pc => cases works (Or.inr (Or.inl pc))
  | nullBev _ pc null =>
      simp only [pc] at trying owned
      obtain ⟨_, bev, _, created, _⟩ := trying
      rw [null, created] at owned
      cases owned.2.1
  | storeBev _ _ pc | testBev _ _ pc _ | setcb _ pc | enable _ pc =>
      simp only [pc] at trying
      exact trying
  | connect bev pc present =>
      simp only [pc] at trying owned
      obtain ⟨base, created, ownBase, ownBev, object⟩ := trying
      have same : bev = created := by
        rw [← Option.some.injEq, ← present, owned.2.1.2, ownBev]
      subst same
      refine ⟨base, bev, ownBase, ownBev, ?_⟩
      simp only [TcpClient.modifyBev, List.getElem?_modify_eq, object]
      rfl
  | connectFails pc => cases works (Or.inr (Or.inr pc))
  | dispatch _ base pc present =>
      simp only [pc] at trying owned
      obtain ⟨created, bev, ownBase, _, object⟩ := trying
      have same : base = created := by
        rw [← Option.some.injEq, ← present, owned.1.2, ownBase]
      subst same
      exact Or.inr ⟨_, List.mem_of_getElem? object, rfl, rfl, rfl⟩
  | leaveLoop _ base pc quiet =>
      simp only [pc] at trying
      exact absurd trying quiet
  | freeBev _ _ pcs =>
      rcases pcs with ⟨pc, _⟩ | ⟨pc, _⟩
      · simp only [pc] at trying
      · simp only [pc] at trying
  | freeBase _ _ pcs =>
      rcases pcs with ⟨pc, _⟩ | ⟨pc, _⟩
      · simp only [pc] at trying
      · simp only [pc] at trying
  | freeBaseOnly _ pc | clearBev _ pc | clearBase _ pc =>
      simp only [pc] at trying

theorem UnderWay.initial {system : TcpSystem}
    (starts : TcpInitial system) : UnderWay system := by
  obtain ⟨maxRecntAtt, rfl⟩ := starts
  exact Or.inr ⟨0, .created, rfl, trivial⟩

theorem someTrying_of_live {client : TcpClient} {system : TcpSystem}
    {index : Nat} {base : Handle}
    (running : system.dispatched index = some base)
    (live : client.Live base) : SomeTrying client system.threads := by
  obtain ⟨thread, found, running⟩ := Option.bind_eq_some_iff.mp running
  split at running
  · rename_i own pc
    cases running
    refine ⟨index, thread, found, ?_⟩
    unfold Trying
    rw [pc]
    exact live
  · cases running

theorem Exclusive.dispatched {outputs : List (Nat × FreeCall)}
    {system : TcpSystem} {index : Nat} {base : Handle}
    (exclusive : Exclusive outputs system)
    (running : system.dispatched index = some base) :
    system.client.base = some base := by
  obtain ⟨thread, found, running⟩ := Option.bind_eq_some_iff.mp running
  split at running
  · rename_i own pc
    cases running
    have owned := exclusive.owned index thread found
    unfold Owned at owned
    rw [pc] at owned
    exact owned.1.2.trans owned.2.2.1
  · cases running

theorem Trying.waiting {client following : TcpClient}
    {thread : ConnectThread} (trying : Trying client thread)
    (idle : ¬thread.pc.Running) : Trying following thread := by
  unfold Trying at *
  cases pc : thread.pc with
  | newBase => trivial
  | finished => simp only [pc] at trying
  | _ =>
      refine absurd ?_ idle
      rw [pc]
      exact ⟨by simp, by simp⟩

theorem UnderWay.access {outputs : List (Nat × FreeCall)}
    {system : TcpSystem} {index : Nat} {ok : Bool}
    {thread next : ConnectThread} {client : TcpClient}
    {calls : List FreeCall} (underWay : UnderWay system)
    (exclusive : Exclusive outputs system)
    (permitted : KeepsRetrying system (.access index ok))
    (found : system.threads[index]? = some thread)
    (stepped : connectEntryStep system.client thread ok =
      some (client, next, calls)) :
    UnderWay { client, threads := system.threads.set index next } := by
  have access := connectEntryStep_access stepped
  obtain ⟨attempts, most⟩ := access.attempts
  have keeps (exhausted : system.client.Exhausted) : client.Exhausted := by
    unfold TcpClient.Exhausted
    rw [attempts, most]
    exact exhausted
  have another (other : Nat) (record : ConnectThread)
      (different : index ≠ other)
      (there : system.threads[other]? = some record)
      (trying : Trying system.client record) :
      SomeTrying client (system.threads.set index next) := by
    refine ⟨other, record, ?_, trying.waiting
      (exclusive.others_idle permitted.1 found stepped there different)⟩
    rw [List.getElem?_set_ne different]
    exact there
  rcases underWay with exhausted | ⟨other, record, there, trying⟩
  · exact Or.inl (keeps exhausted)
  by_cases different : index ≠ other
  · exact Or.inr (another other record different there trying)
  obtain rfl : index = other := by omega
  obtain rfl : thread = record := Option.some.inj (found.symm.trans there)
  by_cases works : thread.pc.Fallible → ok = true
  · refine Or.inr ⟨index, next, ?_, trying.step
      (exclusive.owned index thread found) works access⟩
    obtain ⟨inside, _⟩ := List.getElem?_eq_some_iff.mp found
    exact List.getElem?_set_self inside
  · obtain ⟨fallible, failed⟩ := Classical.not_imp.mp works
    obtain rfl : ok = false := by simpa using failed
    rcases permitted.2 index thread rfl found fallible with
      exhausted | ⟨other, different, there⟩
    · exact Or.inl (keeps exhausted)
    · exact Or.inr (another other .created different.symm there trivial)

theorem UnderWay.step {outputs emitted : List (Nat × FreeCall)}
    {system following : TcpSystem} {event : TcpEvent}
    (underWay : UnderWay system) (exclusive : Exclusive outputs system)
    (permitted : KeepsRetrying system event)
    (transition : TcpTransition system event following emitted) :
    UnderWay following := by
  cases transition with
  | access index ok thread next client calls found stepped =>
      exact underWay.access exclusive permitted found stepped
  | connected index base bev running produces =>
      exact Or.inr (someTrying_of_live running
        (Or.inr ⟨_, List.mem_of_getElem? produces, rfl, rfl, rfl⟩))
  | error index base bev own active object running _ ownBase there usable =>
      have same : own = base := by
        rw [← Option.some.injEq, ← ownBase, exclusive.dispatched running]
      subst same
      refine Or.inr (someTrying_of_live running (Or.inl
        ⟨{ object with timers := object.timers + 1 }, ?_,
          Nat.succ_pos _, usable⟩))
      simp only [TcpClient.afterError, TcpClient.modifyBase,
        TcpClient.modifyBev, List.getElem?_modify_eq, there]
      rfl
  | retry index base object _ _ _ _ _ =>
      exact Or.inr ⟨system.threads.length, .created,
        List.getElem?_concat_length, trivial⟩
  | giveUp index base object _ _ _ _ exhausted =>
      exact Or.inl exhausted

structure Retrying (outputs : List (Nat × FreeCall)) (system : TcpSystem) :
    Prop where
  exclusive : Exclusive outputs system
  underWay : UnderWay system

theorem reaches_retrying {outputs : List (Nat × FreeCall)}
    {system : TcpSystem}
    (reached : tcpMachine.Reaches KeepsRetrying outputs system) :
    Retrying outputs system :=
  Machine.invariant
    (fun _ starts => ⟨.initial starts, .initial starts⟩)
    (fun _ _ _ _ _ retrying permitted stepped =>
      have transition := tcpStep_transition stepped
      ⟨retrying.exclusive.step permitted.1 transition,
        retrying.underWay.step retrying.exclusive permitted transition⟩)
    reached

/-- A serial run in which a connection attempt fails before its loop only when
no attempt is left or another one waits never gives up early. -/
theorem keepsRetrying_never_gives_up {outputs : List (Nat × FreeCall)}
    {system : TcpSystem}
    (reached : tcpMachine.Reaches KeepsRetrying outputs system) :
    NeverGivesUp system :=
  (reaches_retrying reached).underWay.neverGivesUp

def TcpEvent.works : TcpEvent → Bool
  | .access _ false => false
  | _ => true

/-- The first connection is lost, its thread finishes and the thread that its
timer has started takes its first access. -/
def retriedEvents : List TcpEvent :=
  List.replicate 9 (.access 0 true) ++ [.error 0 0 false, .timer 0] ++
    List.replicate 5 (.access 0 true) ++ [.access 1 true]

theorem retried_never_gives_up : ∃ outputs system,
    tcpMachine.Reaches KeepsRetrying outputs system ∧
      system.client.isConnected = false ∧
      system.client.recntAtt < system.client.maxRecntAtt ∧
      NeverGivesUp system := by
  have computed : (tcpMachine.run (fun system event =>
      event.works && decide (Serial system event)) freshTcp retriedEvents).map
        (fun result => (result.1.client.isConnected,
          result.1.client.recntAtt, result.1.client.maxRecntAtt)) =
      some (false, 1, 5) := by
    decide +kernel
  have retrying : ∀ system event,
      (event.works && decide (Serial system event)) = true →
        KeepsRetrying system event := by
    intro system event checked
    obtain ⟨works, serial⟩ := Bool.and_eq_true_iff.mp checked
    refine ⟨of_decide_eq_true serial, fun index _ failing => ?_⟩
    rw [failing] at works
    cases works
  obtain ⟨outputs, system, reached, result⟩ :=
    Machine.Reaches.of_run retrying freshTcp_initial computed
  obtain ⟨unconnected, result⟩ := Prod.mk.inj result
  obtain ⟨attempts, most⟩ := Prod.mk.inj result
  refine ⟨outputs, system, reached, unconnected, ?_,
    keepsRetrying_never_gives_up reached⟩
  rw [attempts, most]
  decide

/-- `event_base_new` fails in the first connection thread. -/
theorem failed_base_gives_up : ∃ outputs system,
    tcpMachine.Reaches Machine.anyStep outputs system ∧
      ¬NeverGivesUp system := by
  have computed : tcpMachine.run (fun _ _ => true) freshTcp
      [.access 0 false, .access 0 false] =
      some ({ client := freshTcp.client
              threads :=
                [{ pc := .finished, base := none, bev := none }] }, []) := by
    decide +kernel
  refine ⟨_, _, Machine.Reaches.extend (fun _ _ _ _ => trivial)
    (.start freshTcp_initial) computed, fun keeps => ?_⟩
  rcases keeps rfl (by decide) with ⟨thread, found, busy⟩ | ⟨object, found, _⟩
  · rw [List.mem_singleton.mp found] at busy
    exact busy
  · cases found

end RtA100
