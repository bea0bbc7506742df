import RtA100.Library.Machine

/-!
# Connection threads of the TCP client

Every run of `tcp_client_connect_entry` is a thread whose program counter
stands before its next access to `client->base` or `client->bev`.  The two
fields are shared without a lock, so one event of `tcpMachine` is one such
access, one libevent callback, or the return of `event_base_dispatch`.

libevent is modelled by the objects it allocates: a base counts its pending
timers, and a bufferevent knows its base and whether it can still produce
events.  Handles are never reused.
-/

namespace RtA100

open Library

abbrev Handle := Nat

structure EventBase where
  timers : Nat
  freed : Bool
deriving DecidableEq

structure BufferEvent where
  base : Handle
  active : Bool
  freed : Bool
deriving DecidableEq

/-- The fields of `TcpClient` that the connection threads share, and the
objects of libevent. -/
structure TcpClient where
  base : Option Handle
  bev : Option Handle
  isConnected : Bool
  recntAtt : Int
  maxRecntAtt : Int
  bases : List EventBase
  bevs : List BufferEvent
deriving DecidableEq

/-- The next access of `tcp_client_connect_entry`. -/
inductive ConnectPc where
  | newBase
  | testBase
  | newBev
  | storeBev (bev : Option Handle)
  | testBev
  | freeBaseOnly
  | setcb
  | connect
  | freeBevUnconnected
  | freeBaseUnconnected
  | enable
  | dispatch
  | dispatching (base : Handle)
  | freeBev
  | clearBev
  | freeBase
  | clearBase
  | finished
deriving DecidableEq

/-- A run of `tcp_client_connect_entry` and the objects it has created. -/
structure ConnectThread where
  pc : ConnectPc
  base : Option Handle
  bev : Option Handle
deriving DecidableEq

def ConnectThread.created : ConnectThread :=
  { pc := .newBase, base := none, bev := none }

/-- Calls of `bufferevent_free` and `event_base_free`, with the pointer
passed. -/
inductive FreeCall where
  | bev (arg : Option Handle)
  | base (arg : Option Handle)
deriving DecidableEq

/-! ## libevent -/

def TcpClient.allocateBase (client : TcpClient) : TcpClient :=
  { client with
    base := some client.bases.length
    bases := client.bases ++ [{ timers := 0, freed := false }] }

/-- `bufferevent_socket_new` on a base. -/
def TcpClient.allocateBev (client : TcpClient) (base : Handle) : TcpClient :=
  { client with
    bevs := client.bevs ++ [{ base, active := false, freed := false }] }

def TcpClient.modifyBase (client : TcpClient) (base : Handle)
    (change : EventBase → EventBase) : TcpClient :=
  { client with bases := client.bases.modify base change }

def TcpClient.modifyBev (client : TcpClient) (bev : Handle)
    (change : BufferEvent → BufferEvent) : TcpClient :=
  { client with bevs := client.bevs.modify bev change }

def TcpClient.freeBase (client : TcpClient) : TcpClient :=
  match client.base with
  | none => client
  | some base => client.modifyBase base fun object =>
      { object with freed := true }

def TcpClient.freeBev (client : TcpClient) : TcpClient :=
  match client.bev with
  | none => client
  | some bev => client.modifyBev bev fun object =>
      { object with freed := true }

/-- The loop of a base has something to wait for. -/
def TcpClient.Live (client : TcpClient) (base : Handle) : Prop :=
  (∃ object, client.bases[base]? = some object ∧ 0 < object.timers ∧
      object.freed = false) ∨
    ∃ object ∈ client.bevs, object.base = base ∧ object.active = true ∧
      object.freed = false

instance (client : TcpClient) (base : Handle) :
    Decidable (client.Live base) :=
  inferInstanceAs (Decidable (_ ∨ _))

/-! ## `tcp_client_connect_entry` -/

/-- The next access of a thread.  `ok` is the outcome of the call it makes to
libevent, and a null pointer passed to a call other than a free is undefined. -/
def connectEntryStep (client : TcpClient) (thread : ConnectThread)
    (ok : Bool) : Option (TcpClient × ConnectThread × List FreeCall) :=
  match thread.pc with
  | .newBase =>
      if ok = true then
        some (client.allocateBase,
          { thread with pc := .testBase, base := some client.bases.length },
          [])
      else
        some ({ client with base := none }, { thread with pc := .testBase },
          [])
  | .testBase =>
      match client.base with
      | none => some (client, { thread with pc := .finished }, [])
      | some _ => some (client, { thread with pc := .newBev }, [])
  | .newBev => do
      let base ← client.base
      if ok = true then
        some (client.allocateBev base,
          { thread with
            pc := .storeBev (some client.bevs.length)
            bev := some client.bevs.length }, [])
      else
        some (client, { thread with pc := .storeBev none }, [])
  | .storeBev bev =>
      some ({ client with bev }, { thread with pc := .testBev }, [])
  | .testBev =>
      match client.bev with
      | none => some (client, { thread with pc := .freeBaseOnly }, [])
      | some _ => some (client, { thread with pc := .setcb }, [])
  | .freeBaseOnly =>
      some (client.freeBase, { thread with pc := .finished },
        [.base client.base])
  | .setcb => do
      let _ ← client.bev
      some (client, { thread with pc := .connect }, [])
  | .connect => do
      let bev ← client.bev
      if ok = true then
        some (client.modifyBev bev fun object =>
            { object with active := true },
          { thread with pc := .enable }, [])
      else
        some (client, { thread with pc := .freeBevUnconnected }, [])
  | .freeBevUnconnected =>
      some (client.freeBev, { thread with pc := .freeBaseUnconnected },
        [.bev client.bev])
  | .freeBaseUnconnected =>
      some (client.freeBase, { thread with pc := .finished },
        [.base client.base])
  | .enable => do
      let _ ← client.bev
      some (client, { thread with pc := .dispatch }, [])
  | .dispatch => do
      let base ← client.base
      some (client, { thread with pc := .dispatching base }, [])
  | .dispatching base =>
      if client.Live base then none
      else some (client, { thread with pc := .freeBev }, [])
  | .freeBev =>
      some (client.freeBev, { thread with pc := .clearBev },
        [.bev client.bev])
  | .clearBev =>
      some ({ client with bev := none }, { thread with pc := .freeBase }, [])
  | .freeBase =>
      some (client.freeBase, { thread with pc := .clearBase },
        [.base client.base])
  | .clearBase =>
      some ({ client with base := none }, { thread with pc := .finished }, [])
  | .finished => none

/-! ## Callbacks -/

/-- `tcp_client_event_cb` for `BEV_EVENT_CONNECTED`. -/
def eventCbConnected (client : TcpClient) : TcpClient :=
  { client with recntAtt := 0, isConnected := true }

/-- `tcp_client_event_cb` for any other event: the timer is registered on the
base that `client->base` points to. -/
def eventCbError (client : TcpClient) : Option TcpClient := do
  let base ← client.base
  let object ← client.bases[base]?
  if object.freed = true then
    none
  else
    some ({ client with isConnected := false }.modifyBase base fun object =>
      { object with timers := object.timers + 1 })

/-- The client and the threads started for it. -/
structure TcpSystem where
  client : TcpClient
  threads : List ConnectThread
deriving DecidableEq

def tcpClientReconnect (system : TcpSystem) : TcpSystem :=
  if system.client.recntAtt < system.client.maxRecntAtt then
    { client :=
        { system.client with recntAtt := system.client.recntAtt + 1 }
      threads := system.threads ++ [.created] }
  else system

/-- The events of the connection threads: the next access of a thread, or a
callback in the loop of a thread that dispatches. -/
inductive TcpEvent where
  | access (index : Nat) (ok : Bool)
  | connected (index : Nat) (bev : Handle)
  | error (index : Nat) (bev : Handle) (active : Bool)
  | timer (index : Nat)
deriving DecidableEq

/-- The base whose loop a thread runs. -/
def TcpSystem.dispatched (system : TcpSystem) (index : Nat) :
    Option Handle := do
  let thread ← system.threads[index]?
  match thread.pc with
  | .dispatching base => some base
  | _ => none

/-- The bufferevent can produce an event in the loop of a base. -/
def TcpClient.Produces (client : TcpClient) (base bev : Handle) : Prop :=
  client.bevs[bev]? = some { base, active := true, freed := false }

instance (client : TcpClient) (base bev : Handle) :
    Decidable (client.Produces base bev) :=
  inferInstanceAs (Decidable (_ = _))

def tcpStep (system : TcpSystem) :
    TcpEvent → Option (TcpSystem × List (Nat × FreeCall))
  | .access index ok => do
      let thread ← system.threads[index]?
      let (client, following, calls) ←
        connectEntryStep system.client thread ok
      some ({ client, threads := system.threads.set index following },
        calls.map fun call => (index, call))
  | .connected index bev => do
      let base ← system.dispatched index
      if system.client.Produces base bev then
        some ({ system with client := eventCbConnected system.client }, [])
      else none
  | .error index bev active => do
      let base ← system.dispatched index
      if system.client.Produces base bev then
        let client ← eventCbError (system.client.modifyBev bev fun object =>
          { object with active })
        some ({ system with client }, [])
      else none
  | .timer index => do
      let base ← system.dispatched index
      let object ← system.client.bases[base]?
      if 0 < object.timers ∧ object.freed = false then
        some (tcpClientReconnect
          { system with
            client := system.client.modifyBase base fun object =>
              { object with timers := object.timers - 1 } }, [])
      else none

/-- The state after `tcp_client_create` and `connect`. -/
def TcpInitial (system : TcpSystem) : Prop :=
  ∃ maxRecntAtt,
    system =
      { client :=
          { base := none, bev := none, isConnected := false, recntAtt := 0
            maxRecntAtt, bases := [], bevs := [] }
        threads := [.created] }

/-- The connection threads as a machine; its outputs are the free calls, each
with the index of the thread that makes it. -/
def tcpMachine : Machine TcpSystem TcpEvent (Nat × FreeCall) :=
  { initial := TcpInitial
    step := tcpStep }

/-! ## What an event can do -/

/-- The client after a pending timer of a base has fired. -/
def TcpClient.takeTimer (client : TcpClient) (base : Handle) : TcpClient :=
  client.modifyBase base fun object =>
    { object with timers := object.timers - 1 }

/-- The client after an error of a bufferevent, with a retry registered on a
base. -/
def TcpClient.afterError (client : TcpClient) (bev base : Handle)
    (active : Bool) : TcpClient :=
  { client.modifyBev bev fun object => { object with active } with
    isConnected := false }.modifyBase base fun object =>
      { object with timers := object.timers + 1 }

/-- Every access of a connection thread that is defined. -/
inductive ConnectAccess (client : TcpClient) (thread : ConnectThread) :
    Bool → TcpClient → ConnectThread → List FreeCall → Prop where
  | newBase :
      thread.pc = .newBase →
      ConnectAccess client thread true client.allocateBase
        { thread with pc := .testBase, base := some client.bases.length } []
  | newBaseFails :
      thread.pc = .newBase →
      ConnectAccess client thread false { client with base := none }
        { thread with pc := .testBase } []
  | nullBase (ok : Bool) :
      thread.pc = .testBase →
      client.base = none →
      ConnectAccess client thread ok client { thread with pc := .finished } []
  | testBase (ok : Bool) (base : Handle) :
      thread.pc = .testBase →
      client.base = some base →
      ConnectAccess client thread ok client { thread with pc := .newBev } []
  | newBev (base : Handle) :
      thread.pc = .newBev →
      client.base = some base →
      ConnectAccess client thread true (client.allocateBev base)
        { thread with
          pc := .storeBev (some client.bevs.length)
          bev := some client.bevs.length } []
  | newBevFails :
      thread.pc = .newBev →
      ConnectAccess client thread false client
        { thread with pc := .storeBev none } []
  | storeBev (ok : Bool) (bev : Option Handle) :
      thread.pc = .storeBev bev →
      ConnectAccess client thread ok { client with bev }
        { thread with pc := .testBev } []
  | nullBev (ok : Bool) :
      thread.pc = .testBev →
      client.bev = none →
      ConnectAccess client thread ok client
        { thread with pc := .freeBaseOnly } []
  | testBev (ok : Bool) (bev : Handle) :
      thread.pc = .testBev →
      client.bev = some bev →
      ConnectAccess client thread ok client { thread with pc := .setcb } []
  | setcb (ok : Bool) :
      thread.pc = .setcb →
      ConnectAccess client thread ok client { thread with pc := .connect } []
  | connect (bev : Handle) :
      thread.pc = .connect →
      client.bev = some bev →
      ConnectAccess client thread true
        (client.modifyBev bev fun object => { object with active := true })
        { thread with pc := .enable } []
  | connectFails :
      thread.pc = .connect →
      ConnectAccess client thread false client
        { thread with pc := .freeBevUnconnected } []
  | enable (ok : Bool) :
      thread.pc = .enable →
      ConnectAccess client thread ok client { thread with pc := .dispatch } []
  | dispatch (ok : Bool) (base : Handle) :
      thread.pc = .dispatch →
      client.base = some base →
      ConnectAccess client thread ok client
        { thread with pc := .dispatching base } []
  | leaveLoop (ok : Bool) (base : Handle) :
      thread.pc = .dispatching base →
      ¬client.Live base →
      ConnectAccess client thread ok client { thread with pc := .freeBev } []
  | freeBev (ok : Bool) (next : ConnectPc) :
      (thread.pc = .freeBevUnconnected ∧ next = .freeBaseUnconnected) ∨
        (thread.pc = .freeBev ∧ next = .clearBev) →
      ConnectAccess client thread ok client.freeBev
        { thread with pc := next } [.bev client.bev]
  | freeBaseOnly (ok : Bool) :
      thread.pc = .freeBaseOnly →
      ConnectAccess client thread ok client.freeBase
        { thread with pc := .finished } [.base client.base]
  | freeBase (ok : Bool) (next : ConnectPc) :
      (thread.pc = .freeBaseUnconnected ∧ next = .finished) ∨
        (thread.pc = .freeBase ∧ next = .clearBase) →
      ConnectAccess client thread ok client.freeBase
        { thread with pc := next } [.base client.base]
  | clearBev (ok : Bool) :
      thread.pc = .clearBev →
      ConnectAccess client thread ok { client with bev := none }
        { thread with pc := .freeBase } []
  | clearBase (ok : Bool) :
      thread.pc = .clearBase →
      ConnectAccess client thread ok { client with base := none }
        { thread with pc := .finished } []

theorem connectEntryStep_access {client following : TcpClient}
    {thread next : ConnectThread} {ok : Bool} {calls : List FreeCall}
    (stepped : connectEntryStep client thread ok =
      some (following, next, calls)) :
    ConnectAccess client thread ok following next calls := by
  unfold connectEntryStep at stepped
  cases pc : thread.pc with
  | newBase =>
      simp only [pc] at stepped
      split at stepped
      · rename_i success
        subst success
        obtain ⟨rfl, rfl, rfl⟩ := by simpa using stepped
        exact .newBase pc
      · rename_i failure
        obtain rfl : ok = false := by simpa using failure
        obtain ⟨rfl, rfl, rfl⟩ := by simpa using stepped
        exact .newBaseFails pc
  | testBase =>
      simp only [pc] at stepped
      split at stepped
      · rename_i null
        obtain ⟨rfl, rfl, rfl⟩ := by simpa using stepped
        exact .nullBase ok pc null
      · rename_i base present
        obtain ⟨rfl, rfl, rfl⟩ := by simpa using stepped
        exact .testBase ok base pc present
  | newBev =>
      simp only [pc] at stepped
      obtain ⟨base, present, result⟩ := Option.bind_eq_some_iff.mp stepped
      split at result
      · rename_i success
        subst success
        obtain ⟨rfl, rfl, rfl⟩ := by simpa using result
        exact .newBev base pc present
      · rename_i failure
        obtain rfl : ok = false := by simpa using failure
        obtain ⟨rfl, rfl, rfl⟩ := by simpa using result
        exact .newBevFails pc
  | storeBev bev =>
      simp only [pc] at stepped
      obtain ⟨rfl, rfl, rfl⟩ := by simpa using stepped
      exact .storeBev ok bev pc
  | testBev =>
      simp only [pc] at stepped
      split at stepped
      · rename_i null
        obtain ⟨rfl, rfl, rfl⟩ := by simpa using stepped
        exact .nullBev ok pc null
      · rename_i bev present
        obtain ⟨rfl, rfl, rfl⟩ := by simpa using stepped
        exact .testBev ok bev pc present
  | setcb =>
      simp only [pc] at stepped
      obtain ⟨bev, _, stepped⟩ := Option.bind_eq_some_iff.mp stepped
      obtain ⟨rfl, rfl, rfl⟩ := by simpa using stepped
      exact .setcb ok pc
  | connect =>
      simp only [pc] at stepped
      obtain ⟨bev, present, result⟩ := Option.bind_eq_some_iff.mp stepped
      split at result
      · rename_i success
        subst success
        obtain ⟨rfl, rfl, rfl⟩ := by simpa using result
        exact .connect bev pc present
      · rename_i failure
        obtain rfl : ok = false := by simpa using failure
        obtain ⟨rfl, rfl, rfl⟩ := by simpa using result
        exact .connectFails pc
  | enable =>
      simp only [pc] at stepped
      obtain ⟨bev, _, stepped⟩ := Option.bind_eq_some_iff.mp stepped
      obtain ⟨rfl, rfl, rfl⟩ := by simpa using stepped
      exact .enable ok pc
  | dispatch =>
      simp only [pc] at stepped
      obtain ⟨base, present, stepped⟩ := Option.bind_eq_some_iff.mp stepped
      obtain ⟨rfl, rfl, rfl⟩ := by simpa using stepped
      exact .dispatch ok base pc present
  | dispatching base =>
      simp only [pc] at stepped
      split at stepped
      · cases stepped
      · rename_i quiet
        obtain ⟨rfl, rfl, rfl⟩ := by simpa using stepped
        exact .leaveLoop ok base pc quiet
  | freeBevUnconnected =>
      simp only [pc] at stepped
      obtain ⟨rfl, rfl, rfl⟩ := by simpa using stepped
      exact .freeBev ok .freeBaseUnconnected (Or.inl ⟨pc, rfl⟩)
  | freeBev =>
      simp only [pc] at stepped
      obtain ⟨rfl, rfl, rfl⟩ := by simpa using stepped
      exact .freeBev ok .clearBev (Or.inr ⟨pc, rfl⟩)
  | freeBaseOnly =>
      simp only [pc] at stepped
      obtain ⟨rfl, rfl, rfl⟩ := by simpa using stepped
      exact .freeBaseOnly ok pc
  | freeBaseUnconnected =>
      simp only [pc] at stepped
      obtain ⟨rfl, rfl, rfl⟩ := by simpa using stepped
      exact .freeBase ok .finished (Or.inl ⟨pc, rfl⟩)
  | freeBase =>
      simp only [pc] at stepped
      obtain ⟨rfl, rfl, rfl⟩ := by simpa using stepped
      exact .freeBase ok .clearBase (Or.inr ⟨pc, rfl⟩)
  | clearBev =>
      simp only [pc] at stepped
      obtain ⟨rfl, rfl, rfl⟩ := by simpa using stepped
      exact .clearBev ok pc
  | clearBase =>
      simp only [pc] at stepped
      obtain ⟨rfl, rfl, rfl⟩ := by simpa using stepped
      exact .clearBase ok pc
  | finished =>
      simp only [pc] at stepped
      cases stepped

/-- Every step of the connection threads. -/
inductive TcpTransition (system : TcpSystem) :
    TcpEvent → TcpSystem → List (Nat × FreeCall) → Prop where
  | access (index : Nat) (ok : Bool) (thread next : ConnectThread)
      (client : TcpClient) (calls : List FreeCall) :
      system.threads[index]? = some thread →
      connectEntryStep system.client thread ok = some (client, next, calls) →
      TcpTransition system (.access index ok)
        { client, threads := system.threads.set index next }
        (calls.map fun call => (index, call))
  | connected (index : Nat) (base bev : Handle) :
      system.dispatched index = some base →
      system.client.Produces base bev →
      TcpTransition system (.connected index bev)
        { system with client := eventCbConnected system.client } []
  | error (index : Nat) (base bev own : Handle) (active : Bool)
      (object : EventBase) :
      system.dispatched index = some base →
      system.client.Produces base bev →
      system.client.base = some own →
      system.client.bases[own]? = some object →
      object.freed = false →
      TcpTransition system (.error index bev active)
        { system with client := system.client.afterError bev own active } []
  | retry (index : Nat) (base : Handle) (object : EventBase) :
      system.dispatched index = some base →
      system.client.bases[base]? = some object →
      0 < object.timers →
      object.freed = false →
      system.client.recntAtt < system.client.maxRecntAtt →
      TcpTransition system (.timer index)
        { client :=
            { system.client.takeTimer base with
              recntAtt := system.client.recntAtt + 1 }
          threads := system.threads ++ [.created] } []
  | giveUp (index : Nat) (base : Handle) (object : EventBase) :
      system.dispatched index = some base →
      system.client.bases[base]? = some object →
      0 < object.timers →
      object.freed = false →
      ¬system.client.recntAtt < system.client.maxRecntAtt →
      TcpTransition system (.timer index)
        { system with client := system.client.takeTimer base } []

theorem tcpStep_transition {system following : TcpSystem} {event : TcpEvent}
    {emitted : List (Nat × FreeCall)}
    (stepped : tcpStep system event = some (following, emitted)) :
    TcpTransition system event following emitted := by
  cases event with
  | access index ok =>
      simp only [tcpStep, Option.bind_eq_bind, Option.bind_eq_some_iff,
        Prod.exists, Option.some.injEq, Prod.mk.injEq] at stepped
      obtain ⟨thread, found, client, next, calls, step, rfl, rfl⟩ := stepped
      exact .access index ok thread next client calls found step
  | connected index bev =>
      obtain ⟨base, running, handled⟩ := Option.bind_eq_some_iff.mp stepped
      split at handled
      · rename_i produces
        obtain ⟨rfl, rfl⟩ := Prod.mk.inj (Option.some.inj handled)
        exact .connected index base bev running produces
      · cases handled
  | error index bev active =>
      obtain ⟨base, running, handled⟩ := Option.bind_eq_some_iff.mp stepped
      split at handled
      · rename_i produces
        obtain ⟨client, callback, result⟩ :=
          Option.bind_eq_some_iff.mp handled
        obtain ⟨rfl, rfl⟩ := Prod.mk.inj (Option.some.inj result)
        obtain ⟨own, ownBase, registered⟩ :=
          Option.bind_eq_some_iff.mp callback
        obtain ⟨object, there, registered⟩ :=
          Option.bind_eq_some_iff.mp registered
        split at registered
        · cases registered
        · rename_i usable
          rw [← Option.some.inj registered]
          exact .error index base bev own active object running produces
            ownBase there (by simpa using usable)
      · cases handled
  | timer index =>
      simp only [tcpStep, Option.bind_eq_bind,
        Option.bind_eq_some_iff] at stepped
      obtain ⟨base, running, object, there, handled⟩ := stepped
      split at handled
      · rename_i pending
        obtain ⟨rfl, rfl⟩ := Prod.mk.inj (Option.some.inj handled)
        unfold tcpClientReconnect
        split
        · rename_i attempts
          exact .retry index base object running there pending.1 pending.2
            attempts
        · rename_i exhausted
          exact .giveUp index base object running there pending.1 pending.2
            exhausted
      · cases handled

end RtA100
