import RtA100.TcpConnection

/-!
# Ownership of the base and the bufferevent

A connection thread frees whatever `client->base` and `client->bev` point to
when it finishes.  `Serial` is the condition that a thread takes its first
access only when every thread started before has finished; under it the two
fields always hold the objects of the one thread that runs, so each thread frees
exactly what it has created.
-/

namespace RtA100

open Library

/-- The free calls of one thread, in order. -/
def freesOf (outputs : List (Nat × FreeCall)) (index : Nat) :
    List FreeCall :=
  outputs.filterMap fun output =>
    if output.1 = index then some output.2 else none

/-- Free the bufferevent and then the base that the thread has created. -/
def ConnectThread.ownFrees (thread : ConnectThread) : List FreeCall :=
  thread.bev.toList.map (fun bev => .bev (some bev)) ++
    thread.base.toList.map (fun base => .base (some base))

/-- Every thread has freed nothing but its own objects, each once, and has
freed all of them when it is finished. -/
def FreesOwn (outputs : List (Nat × FreeCall)) (system : TcpSystem) : Prop :=
  ∀ index thread, system.threads[index]? = some thread →
    freesOf outputs index <+: thread.ownFrees ∧
      (thread.pc = .finished → freesOf outputs index = thread.ownFrees)

/-- The thread has taken its first access and has not finished. -/
def ConnectPc.Running (pc : ConnectPc) : Prop :=
  pc ≠ .newBase ∧ pc ≠ .finished

/-- A thread takes its first access only while no other thread runs. -/
def Serial (system : TcpSystem) : TcpEvent → Prop
  | .access index _ =>
      ∀ thread, system.threads[index]? = some thread →
        thread.pc = .newBase →
          ∀ other ∈ system.threads, ¬other.pc.Running
  | _ => True

instance (pc : ConnectPc) : Decidable pc.Running :=
  inferInstanceAs (Decidable (_ ∧ _))

instance (system : TcpSystem) :
    (event : TcpEvent) → Decidable (Serial system event)
  | .access index _ =>
      inferInstanceAs (Decidable (∀ thread,
        system.threads[index]? = some thread → thread.pc = .newBase →
          ∀ other ∈ system.threads, ¬other.pc.Running))
  | .connected _ _ | .error _ _ _ | .timer _ =>
      inferInstanceAs (Decidable True)

def OwnsBase (client : TcpClient) (thread : ConnectThread) : Prop :=
  thread.base ≠ none ∧ client.base = thread.base

def OwnsBev (client : TcpClient) (thread : ConnectThread) : Prop :=
  thread.bev ≠ none ∧ client.bev = thread.bev

/-- What a thread has created, what the two fields hold and what the thread has
freed, at each of its accesses. -/
def Owned (client : TcpClient) (frees : List FreeCall)
    (thread : ConnectThread) : Prop :=
  match thread.pc with
  | .newBase => thread.base = none ∧ thread.bev = none ∧ frees = []
  | .testBase =>
      client.base = thread.base ∧ thread.bev = none ∧ frees = []
  | .newBev => OwnsBase client thread ∧ thread.bev = none ∧ frees = []
  | .storeBev bev => OwnsBase client thread ∧ thread.bev = bev ∧ frees = []
  | .testBev =>
      OwnsBase client thread ∧ client.bev = thread.bev ∧ frees = []
  | .freeBaseOnly =>
      OwnsBase client thread ∧ thread.bev = none ∧ frees = []
  | .dispatching base =>
      OwnsBase client thread ∧ OwnsBev client thread ∧
        thread.base = some base ∧ frees = []
  | .freeBaseUnconnected | .clearBev | .freeBase =>
      OwnsBase client thread ∧
        frees = thread.bev.toList.map (fun bev => .bev (some bev))
  | .clearBase | .finished => frees = thread.ownFrees
  | _ => OwnsBase client thread ∧ OwnsBev client thread ∧ frees = []

/-- The invariant of serial runs. -/
structure Exclusive (outputs : List (Nat × FreeCall))
    (system : TcpSystem) : Prop where
  owned : ∀ index thread, system.threads[index]? = some thread →
    Owned system.client (freesOf outputs index) thread
  single : ∀ (first second : Nat) (thread other : ConnectThread),
    system.threads[first]? = some thread →
    system.threads[second]? = some other →
    thread.pc.Running → other.pc.Running → first = second
  silent : ∀ index, system.threads.length ≤ index →
    freesOf outputs index = []

theorem freesOf_append (left right : List (Nat × FreeCall)) (index : Nat) :
    freesOf (left ++ right) index =
      freesOf left index ++ freesOf right index :=
  List.filterMap_append

theorem freesOf_own (calls : List FreeCall) (index : Nat) :
    freesOf (calls.map fun call => (index, call)) index = calls := by
  induction calls with
  | nil => rfl
  | cons call calls induction =>
      simp only [freesOf, List.map_cons, List.filterMap_cons, if_true]
      exact congrArg _ induction

theorem freesOf_other (calls : List FreeCall) {index other : Nat}
    (different : index ≠ other) :
    freesOf (calls.map fun call => (index, call)) other = [] := by
  induction calls with
  | nil => rfl
  | cons call calls induction =>
      simp only [freesOf, List.map_cons, List.filterMap_cons,
        if_neg different]
      exact induction

@[simp] theorem freeBev_fields (client : TcpClient) :
    client.freeBev.base = client.base ∧
      client.freeBev.bev = client.bev := by
  unfold TcpClient.freeBev
  split <;> exact ⟨rfl, rfl⟩

theorem Owned.congr {client other : TcpClient} {frees : List FreeCall}
    {thread : ConnectThread} (owned : Owned client frees thread)
    (sameBase : other.base = client.base)
    (sameBev : other.bev = client.bev) : Owned other frees thread := by
  unfold Owned OwnsBase OwnsBev at *
  rw [sameBase, sameBev]
  exact owned

theorem Owned.idle {client other : TcpClient} {frees : List FreeCall}
    {thread : ConnectThread} (owned : Owned client frees thread)
    (idle : ¬thread.pc.Running) : Owned other frees thread := by
  unfold Owned at *
  cases pc : thread.pc with
  | newBase | finished =>
      simp only [pc] at owned ⊢
      exact owned
  | _ =>
      refine absurd ?_ idle
      rw [pc]
      exact ⟨by simp, by simp⟩

theorem OwnsBase.freeCall {client : TcpClient} {thread : ConnectThread}
    (owns : OwnsBase client thread) :
    [FreeCall.base client.base] =
      thread.base.toList.map (fun base => .base (some base)) := by
  obtain ⟨created, sameBase⟩ := owns
  rw [sameBase]
  cases base : thread.base with
  | none => exact absurd base created
  | some base => rfl

theorem OwnsBev.freeCall {client : TcpClient} {thread : ConnectThread}
    (owns : OwnsBev client thread) :
    [FreeCall.bev client.bev] =
      thread.bev.toList.map (fun bev => .bev (some bev)) := by
  obtain ⟨created, sameBev⟩ := owns
  rw [sameBev]
  cases bev : thread.bev with
  | none => exact absurd bev created
  | some bev => rfl

/-- One access of a thread keeps its ownership. -/
theorem Owned.step {client following : TcpClient} {frees : List FreeCall}
    {thread next : ConnectThread} {ok : Bool} {calls : List FreeCall}
    (owned : Owned client frees thread)
    (access : ConnectAccess client thread ok following next calls) :
    Owned following (frees ++ calls) next := by
  unfold Owned at owned
  cases access with
  | newBase pc =>
      simp only [pc] at owned
      obtain ⟨_, noBev, rfl⟩ := owned
      exact ⟨rfl, noBev, rfl⟩
  | newBaseFails pc =>
      simp only [pc] at owned
      obtain ⟨noBase, noBev, rfl⟩ := owned
      exact ⟨noBase.symm, noBev, rfl⟩
  | nullBase _ pc null =>
      simp only [pc] at owned
      obtain ⟨sameBase, noBev, rfl⟩ := owned
      rw [null] at sameBase
      simp [Owned, ConnectThread.ownFrees, noBev, ← sameBase]
  | testBase _ base pc present =>
      simp only [pc] at owned
      obtain ⟨sameBase, noBev, rfl⟩ := owned
      refine ⟨⟨?_, sameBase⟩, noBev, rfl⟩
      rw [← sameBase, present]
      exact Option.some_ne_none base
  | newBev base pc _ =>
      simp only [pc] at owned
      obtain ⟨ownsBase, _, rfl⟩ := owned
      exact ⟨ownsBase, rfl, rfl⟩
  | newBevFails pc =>
      simp only [pc] at owned
      obtain ⟨ownsBase, noBev, rfl⟩ := owned
      exact ⟨ownsBase, noBev, rfl⟩
  | storeBev _ bev pc =>
      simp only [pc] at owned
      obtain ⟨ownsBase, sameBev, rfl⟩ := owned
      exact ⟨ownsBase, sameBev.symm, rfl⟩
  | nullBev _ pc null =>
      simp only [pc] at owned
      obtain ⟨ownsBase, sameBev, rfl⟩ := owned
      rw [null] at sameBev
      exact ⟨ownsBase, sameBev.symm, rfl⟩
  | testBev _ bev pc present =>
      simp only [pc] at owned
      obtain ⟨ownsBase, sameBev, rfl⟩ := owned
      refine ⟨ownsBase, ⟨?_, sameBev⟩, rfl⟩
      rw [← sameBev, present]
      exact Option.some_ne_none bev
  | setcb _ pc | connect _ pc _ | connectFails pc | enable _ pc =>
      simp only [pc] at owned
      obtain ⟨ownsBase, ownsBev, rfl⟩ := owned
      exact ⟨ownsBase, ownsBev, rfl⟩
  | dispatch _ base pc present =>
      simp only [pc] at owned
      obtain ⟨ownsBase, ownsBev, rfl⟩ := owned
      exact ⟨ownsBase, ownsBev, by rw [← ownsBase.2, present], rfl⟩
  | leaveLoop _ base pc _ =>
      simp only [pc] at owned
      obtain ⟨ownsBase, ownsBev, _, rfl⟩ := owned
      exact ⟨ownsBase, ownsBev, rfl⟩
  | freeBev _ following pcs =>
      have kept : OwnsBase client thread ∧ OwnsBev client thread ∧
          frees = [] := by
        rcases pcs with ⟨pc, _⟩ | ⟨pc, _⟩
        · simpa only [pc] using owned
        · simpa only [pc] using owned
      obtain ⟨ownsBase, ownsBev, rfl⟩ := kept
      have sameBase : client.freeBev.base = thread.base := by
        rw [(freeBev_fields client).1]
        exact ownsBase.2
      rw [List.nil_append, ownsBev.freeCall]
      rcases pcs with ⟨_, rfl⟩ | ⟨_, rfl⟩
      · exact ⟨⟨ownsBase.1, sameBase⟩, rfl⟩
      · exact ⟨⟨ownsBase.1, sameBase⟩, rfl⟩
  | freeBaseOnly _ pc =>
      simp only [pc] at owned
      obtain ⟨ownsBase, noBev, rfl⟩ := owned
      simp only [Owned, ConnectThread.ownFrees, noBev, ownsBase.freeCall]
      rfl
  | freeBase _ following pcs =>
      have kept : OwnsBase client thread ∧
          frees = thread.bev.toList.map (fun bev => .bev (some bev)) := by
        rcases pcs with ⟨pc, _⟩ | ⟨pc, _⟩
        · simpa only [pc] using owned
        · simpa only [pc] using owned
      obtain ⟨ownsBase, rfl⟩ := kept
      rw [ownsBase.freeCall]
      rcases pcs with ⟨_, rfl⟩ | ⟨_, rfl⟩
      · rfl
      · rfl
  | clearBev _ pc =>
      simp only [pc] at owned
      obtain ⟨ownsBase, rfl⟩ := owned
      exact ⟨ownsBase, by simp⟩
  | clearBase _ pc =>
      simp only [pc] at owned
      simpa [Owned, ConnectThread.ownFrees] using owned

/-- The calls of a thread that is owned begin its own frees, and are all of them
when it is finished. -/
theorem Owned.frees {client : TcpClient} {frees : List FreeCall}
    {thread : ConnectThread} (owned : Owned client frees thread) :
    frees <+: thread.ownFrees ∧
      (thread.pc = .finished → frees = thread.ownFrees) := by
  unfold Owned at owned
  have none_yet (noFrees : frees = []) (other : thread.pc ≠ .finished) :
      frees <+: thread.ownFrees ∧
        (thread.pc = .finished → frees = thread.ownFrees) := by
    rw [noFrees]
    exact ⟨List.nil_prefix, fun ended => absurd ended other⟩
  cases pc : thread.pc with
  | clearBase =>
      simp only [pc] at owned
      rw [owned]
      exact ⟨List.prefix_refl _, fun _ => rfl⟩
  | finished =>
      simp only [pc] at owned
      rw [owned]
      exact ⟨List.prefix_refl _, fun _ => rfl⟩
  | freeBaseUnconnected | clearBev | freeBase =>
      simp only [pc] at owned
      rw [owned.2]
      exact ⟨List.prefix_append _ _, fun ended => by cases ended⟩
  | dispatching base =>
      simp only [pc] at owned
      simpa [pc] using none_yet owned.2.2.2 (by simp [pc])
  | _ =>
      simp only [pc] at owned
      simpa [pc] using none_yet owned.2.2 (by simp [pc])

theorem Exclusive.initial {system : TcpSystem}
    (starts : TcpInitial system) : Exclusive [] system := by
  obtain ⟨maxRecntAtt, rfl⟩ := starts
  have only (index : Nat) (thread : ConnectThread)
      (found : [ConnectThread.created][index]? = some thread) :
      thread = .created := by
    have member := List.mem_of_getElem? found
    exact List.mem_singleton.mp member
  refine ⟨?_, ?_, fun _ _ => rfl⟩
  · intro index thread found
    rw [only index thread found]
    exact ⟨rfl, rfl, rfl⟩
  · intro first second thread other found _ running _
    rw [only first thread found] at running
    exact absurd rfl running.1

/-- While a thread takes an access, no other thread runs. -/
theorem Exclusive.others_idle {outputs : List (Nat × FreeCall)}
    {system : TcpSystem} {index other : Nat} {ok : Bool}
    {thread record next : ConnectThread} {client : TcpClient}
    {calls : List FreeCall} (exclusive : Exclusive outputs system)
    (permitted : Serial system (.access index ok))
    (found : system.threads[index]? = some thread)
    (stepped : connectEntryStep system.client thread ok =
      some (client, next, calls))
    (there : system.threads[other]? = some record)
    (different : index ≠ other) : ¬record.pc.Running := by
  intro running
  by_cases start : thread.pc = .newBase
  · exact permitted thread found start record
      (List.mem_of_getElem? there) running
  · have active : thread.pc.Running := by
      refine ⟨start, fun ended => ?_⟩
      unfold connectEntryStep at stepped
      rw [ended] at stepped
      cases stepped
    exact different (exclusive.single index other thread record found there
      active running)

theorem Exclusive.access {outputs : List (Nat × FreeCall)}
    {system : TcpSystem} {index : Nat} {ok : Bool}
    {thread next : ConnectThread} {client : TcpClient}
    {calls : List FreeCall} (exclusive : Exclusive outputs system)
    (permitted : Serial system (.access index ok))
    (found : system.threads[index]? = some thread)
    (stepped : connectEntryStep system.client thread ok =
      some (client, next, calls)) :
    Exclusive (outputs ++ calls.map fun call => (index, call))
      { client, threads := system.threads.set index next } := by
  obtain ⟨inside, _⟩ := List.getElem?_eq_some_iff.mp found
  have others (other : Nat) (record : ConnectThread)
      (there : system.threads[other]? = some record)
      (different : index ≠ other) : ¬record.pc.Running :=
    exclusive.others_idle permitted found stepped there different
  obtain ⟨owned, single, silent⟩ := exclusive
  refine ⟨?_, ?_, ?_⟩
  · intro other record there
    rw [List.getElem?_set] at there
    split at there
    · rename_i same
      subst same
      have nextEq := Option.some.inj there
      subst nextEq
      rw [freesOf_append, freesOf_own]
      exact (owned index thread found).step
        (connectEntryStep_access stepped)
    · rename_i different
      rw [freesOf_append, freesOf_other calls different, List.append_nil]
      exact (owned other record there).idle
        (others other record there different)
  · intro first second record other foundFirst foundSecond running busy
    rw [List.getElem?_set] at foundFirst foundSecond
    split at foundFirst
    · rename_i same
      split at foundSecond
      · rename_i also
        exact same.symm.trans also
      · rename_i different
        exact absurd busy (others second other foundSecond different)
    · rename_i different
      exact absurd running (others first record foundFirst different)
  · intro other beyond
    rw [List.length_set] at beyond
    rw [freesOf_append, silent other beyond,
      freesOf_other calls (show index ≠ other by omega)]
    rfl

/-- A callback leaves the two fields and the threads alone, or adds a thread
that has not started. -/
theorem Exclusive.callback {outputs : List (Nat × FreeCall)}
    {system : TcpSystem} {client : TcpClient} {added : List ConnectThread}
    (exclusive : Exclusive outputs system)
    (sameBase : client.base = system.client.base)
    (sameBev : client.bev = system.client.bev)
    (created : ∀ thread ∈ added, thread = .created) :
    Exclusive (outputs ++ [])
      { client, threads := system.threads ++ added } := by
  obtain ⟨owned, single, silent⟩ := exclusive
  rw [List.append_nil]
  have known (index : Nat) (thread : ConnectThread)
      (there : (system.threads ++ added)[index]? = some thread) :
      system.threads[index]? = some thread ∨
        (system.threads.length ≤ index ∧ thread = .created) := by
    by_cases inside : index < system.threads.length
    · rw [List.getElem?_append_left inside] at there
      exact Or.inl there
    · rw [List.getElem?_append_right (by omega)] at there
      exact Or.inr ⟨by omega, created _ (List.mem_of_getElem? there)⟩
  refine ⟨?_, ?_, ?_⟩
  · intro index thread there
    rcases known index thread there with earlier | ⟨beyond, rfl⟩
    · exact (owned index thread earlier).congr sameBase sameBev
    · rw [silent index beyond]
      exact ⟨rfl, rfl, rfl⟩
  · intro first second thread other foundFirst foundSecond running busy
    rcases known first thread foundFirst with earlier | ⟨_, rfl⟩
    · rcases known second other foundSecond with before | ⟨_, rfl⟩
      · exact single first second thread other earlier before running busy
      · exact absurd rfl busy.1
    · exact absurd rfl running.1
  · intro index beyond
    rw [List.length_append] at beyond
    exact silent index (by omega)

theorem Exclusive.step {outputs emitted : List (Nat × FreeCall)}
    {system following : TcpSystem} {event : TcpEvent}
    (exclusive : Exclusive outputs system)
    (permitted : Serial system event)
    (transition : TcpTransition system event following emitted) :
    Exclusive (outputs ++ emitted) following := by
  cases transition with
  | access index ok thread next client calls found stepped =>
      exact exclusive.access permitted found stepped
  | connected index base bev _ _ =>
      have kept := @Exclusive.callback _ _ (eventCbConnected system.client)
        [] exclusive rfl rfl (by simp)
      rwa [List.append_nil system.threads] at kept
  | error index base bev own active object _ _ _ _ _ =>
      have kept := @Exclusive.callback _ _
        (system.client.afterError bev own active) [] exclusive rfl rfl
        (by simp)
      rwa [List.append_nil system.threads] at kept
  | retry index base object _ _ _ _ _ =>
      exact exclusive.callback rfl rfl (by simp)
  | giveUp index base object _ _ _ _ _ =>
      have kept := @Exclusive.callback _ _ (system.client.takeTimer base) []
        exclusive rfl rfl (by simp)
      rwa [List.append_nil system.threads] at kept

theorem reaches_exclusive {allowed : TcpSystem → TcpEvent → Prop}
    (serial : ∀ system event, allowed system event → Serial system event)
    {outputs : List (Nat × FreeCall)} {system : TcpSystem}
    (reached : tcpMachine.Reaches allowed outputs system) :
    Exclusive outputs system :=
  Machine.invariant (fun _ starts => Exclusive.initial starts)
    (fun _ _ _ _ _ exclusive permitted stepped =>
      exclusive.step (serial _ _ permitted) (tcpStep_transition stepped))
    reached

/-- In every serial run each thread frees its own bufferevent and base and
nothing else, each once. -/
theorem serial_frees_own {outputs : List (Nat × FreeCall)}
    {system : TcpSystem} (reached : tcpMachine.Reaches Serial outputs system) :
    FreesOwn outputs system := by
  intro index thread found
  exact ((reaches_exclusive (fun _ _ serial => serial) reached).owned index
    thread found).frees

/-- The client and its first thread, with five attempts to reconnect. -/
def freshTcp : TcpSystem :=
  { client :=
      { base := none, bev := none, isConnected := false, recntAtt := 0
        maxRecntAtt := 5, bases := [], bevs := [] }
    threads := [.created] }

theorem freshTcp_initial : TcpInitial freshTcp :=
  ⟨5, rfl⟩

/-- The first connection is lost, and its thread frees what it owns before the
thread that its timer has started fails to connect. -/
def lostEvents : List TcpEvent :=
  List.replicate 9 (.access 0 true) ++ [.error 0 0 false, .timer 0] ++
    List.replicate 5 (.access 0 true) ++ List.replicate 6 (.access 1 true) ++
    [.access 1 false, .access 1 true, .access 1 true]

theorem lost_threads_free_own : ∃ outputs system,
    tcpMachine.Reaches Serial outputs system ∧
      outputs = [(0, .bev (some 0)), (0, .base (some 0)),
        (1, .bev (some 1)), (1, .base (some 1))] ∧
      system.threads.length = 2 ∧ FreesOwn outputs system := by
  have computed : (tcpMachine.run
      (fun system event => decide (Serial system event)) freshTcp
      lostEvents).map (fun result =>
        (result.2, result.1.threads.length)) =
      some ([(0, .bev (some 0)), (0, .base (some 0)), (1, .bev (some 1)),
        (1, .base (some 1))], 2) := by
    decide +kernel
  obtain ⟨outputs, system, reached, result⟩ :=
    Machine.Reaches.of_run (fun _ _ checked => of_decide_eq_true checked)
      freshTcp_initial computed
  obtain ⟨freed, threads⟩ := Prod.mk.inj result
  exact ⟨outputs, system, reached, freed, threads, serial_frees_own reached⟩

/-- The first thread connects and fails, and the thread that its timer starts
stores a new base before the first one leaves its loop and finishes. -/
def overlappingEvents : List TcpEvent :=
  List.replicate 9 (.access 0 true) ++
    [.error 0 0 false, .timer 0, .access 1 true, .access 0 true,
      .access 0 true, .access 0 true, .access 0 true]

/-- The first thread frees the base of the second. -/
theorem overlapping_thread_frees_foreign : ∃ outputs system,
    tcpMachine.Reaches Machine.anyStep outputs system ∧
      ¬FreesOwn outputs system := by
  have computed : (tcpMachine.run (fun _ _ => true) freshTcp
      overlappingEvents).map (fun result =>
        (result.2, result.1.threads[0]?)) =
      some ([(0, .bev (some 0)), (0, .base (some 1))],
        some { pc := .clearBase, base := some 0, bev := some 0 }) := by
    decide +kernel
  obtain ⟨outputs, system, reached, result⟩ :=
    Machine.Reaches.of_run (fun _ _ _ => trivial) freshTcp_initial computed
  obtain ⟨rfl, found⟩ := Prod.mk.inj result
  refine ⟨_, system, reached, fun own => ?_⟩
  exact absurd (own 0 _ found).1 (by decide)

end RtA100
