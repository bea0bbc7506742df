import Mathlib.Logic.Function.Basic
import RtA100.Library.Machine

/-!
# Critical sections

An object is used by any number of threads, and every operation on it locks one
mutex, runs its statements one at a time and unlocks the mutex.  The threads
take their steps in any order.

`Meaning` says what the rest of a section computes when nothing else runs.
With it, every run of the threads is a run of atomic operations in the order in
which they commit, and the thread that holds the mutex can always reach its
unlock.
-/

namespace Library

universe u v w x y

/-- The code between lock and unlock of the operations on an object. -/
structure Guarded (Shared : Type u) (Call : Type v) (Place : Type w)
    (Answer : Type x) where
  enter : Call → Place
  /-- One statement, which is followed by another one or leaves with an
  answer; it is `none` where its behaviour is undefined. -/
  statement : Shared → Place → Option (Shared × (Place ⊕ Answer))

namespace Guarded

variable {Shared : Type u} {Call : Type v} {Place : Type w} {Answer : Type x}

/-- Go on behind a statement. -/
def goOn (finish : Shared → Place → Option (Shared × Answer)) :
    Option (Shared × (Place ⊕ Answer)) → Option (Shared × Answer)
  | none => none
  | some (following, .inl next) => finish following next
  | some (following, .inr answer) => some (following, answer)

/-- What the rest of a section computes, and a bound of its length. -/
structure Meaning (guarded : Guarded Shared Call Place Answer) where
  finish : Shared → Place → Option (Shared × Answer)
  remaining : Place → Nat
  unfolds : ∀ shared place,
    finish shared place = goOn finish (guarded.statement shared place)
  shorter : ∀ {shared following : Shared} {place next : Place},
    guarded.statement shared place = some (following, .inl next) →
    remaining next < remaining place

/-! ## Threads -/

variable (Call Place Answer) in
/-- Where a thread stands. -/
inductive Position where
  | idle
  | waiting (call : Call)
  | inside (call : Call) (place : Place)
  | leaving (call : Call) (answer : Answer)

variable (Shared Call Place Answer) in
/-- The object, the thread that holds its mutex, and all threads. -/
structure Threads (Thread : Type y) where
  shared : Shared
  owner : Option Thread
  position : Thread → Position Call Place Answer

variable (Call) in
inductive Event (Thread : Type y) where
  | invoke (thread : Thread) (call : Call)
  | run (thread : Thread)

variable (Call Answer) in
inductive Output (Thread : Type y) where
  | invoked (thread : Thread) (call : Call)
  | committed (thread : Thread) (call : Call) (answer : Answer)
  | returned (thread : Thread) (call : Call) (answer : Answer)

variable {Thread : Type y} [DecidableEq Thread]

/-- The thread goes to a position. -/
def Threads.move (threads : Threads Shared Call Place Answer Thread)
    (thread : Thread) (position : Position Call Place Answer) :
    Threads Shared Call Place Answer Thread :=
  { threads with position := Function.update threads.position thread position }

/-- One step of one thread; a locked mutex makes it wait. -/
def step (guarded : Guarded Shared Call Place Answer)
    (threads : Threads Shared Call Place Answer Thread) :
    Event Call Thread →
      Option (Threads Shared Call Place Answer Thread ×
        List (Output Call Answer Thread))
  | .invoke thread call =>
      match threads.position thread with
      | .idle => some (threads.move thread (.waiting call),
          [.invoked thread call])
      | _ => none
  | .run thread =>
      match threads.position thread with
      | .idle => none
      | .waiting call =>
          match threads.owner with
          | none =>
              some ({ threads with owner := some thread }.move thread
                (.inside call (guarded.enter call)), [])
          | some _ => none
      | .inside call place =>
          match guarded.statement threads.shared place with
          | none => none
          | some (shared, .inl next) =>
              some ({ threads with shared }.move thread (.inside call next),
                [])
          | some (shared, .inr answer) =>
              some ({ threads with shared }.move thread (.leaving call answer),
                [.committed thread call answer])
      | .leaving call answer =>
          some ({ threads with owner := none }.move thread .idle,
            [.returned thread call answer])

/-- Only calls as given are made. -/
def Event.Permits (permitted : Call → Prop) : Event Call Thread → Prop
  | .invoke _ call => permitted call
  | .run _ => True

/-- The threads of an object that is initially as given; all are idle. -/
def machine (guarded : Guarded Shared Call Place Answer)
    (initial : Shared → Prop) :
    Machine (Threads Shared Call Place Answer Thread) (Event Call Thread)
      (Output Call Answer Thread) :=
  { initial := fun threads => initial threads.shared ∧
      threads.owner = none ∧ ∀ thread, threads.position thread = .idle
    step := guarded.step }

/-! ## Atomic operations -/

/-- An operation with the thread that called it and its answer. -/
abbrev Commit (Thread : Type y) (Call : Type v) (Answer : Type x) :=
  Thread × Call × Answer

/-- The object with operations that run at once. -/
def Meaning.machine {guarded : Guarded Shared Call Place Answer}
    (meaning : guarded.Meaning) (initial : Shared → Prop) :
    Machine Shared (Thread × Call) (Commit Thread Call Answer) :=
  { initial
    step := fun shared (thread, call) =>
      (meaning.finish shared (guarded.enter call)).map
        fun (following, answer) => (following, [(thread, call, answer)]) }

def commits (outputs : List (Output Call Answer Thread)) :
    List (Commit Thread Call Answer) :=
  outputs.filterMap fun output =>
    match output with
    | .committed thread call answer => some (thread, call, answer)
    | _ => none

def Output.thread : Output Call Answer Thread → Thread
  | .invoked thread _ => thread
  | .committed thread _ _ => thread
  | .returned thread _ _ => thread

/-- The outputs of one thread. -/
def ofThread (thread : Thread) (outputs : List (Output Call Answer Thread)) :
    List (Output Call Answer Thread) :=
  outputs.filter fun output => output.thread = thread

variable (Call Answer) in
/-- The call that a thread is in. -/
inductive Stage where
  | idle
  | called (call : Call)
  | answered (call : Call) (answer : Answer)

/-- Every call of a thread commits once between its invocation and its return,
and returns the answer it committed. -/
inductive InTurn (thread : Thread) :
    List (Output Call Answer Thread) → Stage Call Answer → Prop where
  | start : InTurn thread [] .idle
  | invoked {outputs : List (Output Call Answer Thread)} {call : Call} :
      InTurn thread outputs .idle →
      InTurn thread (outputs ++ [.invoked thread call]) (.called call)
  | committed {outputs : List (Output Call Answer Thread)} {call : Call}
      {answer : Answer} :
      InTurn thread outputs (.called call) →
      InTurn thread (outputs ++ [.committed thread call answer])
        (.answered call answer)
  | returned {outputs : List (Output Call Answer Thread)} {call : Call}
      {answer : Answer} :
      InTurn thread outputs (.answered call answer) →
      InTurn thread (outputs ++ [.returned thread call answer]) .idle

/-- The thread holds the mutex. -/
def Position.Holding : Position Call Place Answer → Prop
  | .inside _ _ => True
  | .leaving _ _ => True
  | _ => False

def Position.stage : Position Call Place Answer → Stage Call Answer
  | .idle => .idle
  | .waiting call => .called call
  | .inside call _ => .called call
  | .leaving call answer => .answered call answer

/-! ## Steps -/

/-- Everything a step can do. -/
inductive Steps (guarded : Guarded Shared Call Place Answer)
    (threads : Threads Shared Call Place Answer Thread) :
    Event Call Thread → Threads Shared Call Place Answer Thread →
      List (Output Call Answer Thread) → Prop where
  | invoke {thread : Thread} {call : Call} :
      threads.position thread = .idle →
      Steps guarded threads (.invoke thread call)
        (threads.move thread (.waiting call))
        [.invoked thread call]
  | lock {thread : Thread} {call : Call} :
      threads.position thread = .waiting call → threads.owner = none →
      Steps guarded threads (.run thread)
        ({ threads with owner := some thread }.move thread
          (.inside call (guarded.enter call))) []
  | next {thread : Thread} {call : Call} {place following : Place}
      {shared : Shared} :
      threads.position thread = .inside call place →
      guarded.statement threads.shared place =
        some (shared, .inl following) →
      Steps guarded threads (.run thread)
        ({ threads with shared }.move thread (.inside call following)) []
  | commit {thread : Thread} {call : Call} {place : Place} {shared : Shared}
      {answer : Answer} :
      threads.position thread = .inside call place →
      guarded.statement threads.shared place = some (shared, .inr answer) →
      Steps guarded threads (.run thread)
        ({ threads with shared }.move thread (.leaving call answer))
        [.committed thread call answer]
  | unlock {thread : Thread} {call : Call} {answer : Answer} :
      threads.position thread = .leaving call answer →
      Steps guarded threads (.run thread)
        ({ threads with owner := none }.move thread .idle)
        [.returned thread call answer]

variable {guarded : Guarded Shared Call Place Answer}
  {threads following : Threads Shared Call Place Answer Thread}

theorem step_cases {event : Event Call Thread}
    {emitted : List (Output Call Answer Thread)}
    (stepped : guarded.step threads event = some (following, emitted)) :
    Steps guarded threads event following emitted := by
  cases event with
  | invoke thread call =>
      simp only [step] at stepped
      split at stepped
      · rename_i idle
        cases stepped
        exact .invoke idle
      · cases stepped
  | run thread =>
      simp only [step] at stepped
      split at stepped
      · cases stepped
      · rename_i call waiting
        split at stepped
        · rename_i free
          cases stepped
          exact .lock waiting free
        · cases stepped
      · rename_i call place inside
        split at stepped
        · cases stepped
        · rename_i ran
          cases stepped
          exact .next inside ran
        · rename_i ran
          cases stepped
          exact .commit inside ran
      · rename_i call answer leaving
        cases stepped
        exact .unlock leaving

@[simp] theorem Threads.move_shared (thread : Thread)
    (position : Position Call Place Answer) :
    (threads.move thread position).shared = threads.shared := rfl

@[simp] theorem Threads.move_owner (thread : Thread)
    (position : Position Call Place Answer) :
    (threads.move thread position).owner = threads.owner := rfl

@[simp] theorem Threads.move_same (thread : Thread)
    (position : Position Call Place Answer) :
    (threads.move thread position).position thread = position :=
  Function.update_self _ _ _

theorem Threads.move_other {thread other : Thread} (differs : other ≠ thread)
    (position : Position Call Place Answer) :
    (threads.move thread position).position other = threads.position other :=
  Function.update_of_ne differs _ _

theorem ofThread_append (thread : Thread)
    (outputs emitted : List (Output Call Answer Thread)) :
    ofThread thread (outputs ++ emitted) =
      ofThread thread outputs ++ ofThread thread emitted :=
  List.filter_append _ _

omit [DecidableEq Thread] in
theorem commits_append (outputs emitted : List (Output Call Answer Thread)) :
    commits (outputs ++ emitted) = commits outputs ++ commits emitted :=
  List.filterMap_append

/-! ## Runs -/

/-- What every run keeps: `base` is the object after the operations that have
committed. -/
structure Serial (meaning : guarded.Meaning) (initial : Shared → Prop)
    (permitted : Call → Prop) (outputs : List (Output Call Answer Thread))
    (threads : Threads Shared Call Place Answer Thread) (base : Shared) :
    Prop where
  atomic : (meaning.machine initial).Reaches
    (fun _ (called : Thread × Call) => permitted called.2)
    (commits outputs) base
  asked : ∀ thread call, (threads.position thread).stage = .called call →
    permitted call
  holding : ∀ thread, (threads.position thread).Holding ↔
    threads.owner = some thread
  ahead : ∀ thread call place,
    threads.position thread = .inside call place →
    meaning.finish base (guarded.enter call) =
      meaning.finish threads.shared place
  settled : (∀ thread call place,
    threads.position thread ≠ .inside call place) → threads.shared = base
  turns : ∀ thread, InTurn thread (ofThread thread outputs)
    (threads.position thread).stage

variable {meaning : guarded.Meaning} {initial : Shared → Prop}
  {permitted : Call → Prop}
  {outputs emitted : List (Output Call Answer Thread)} {base : Shared}

theorem Serial.start (initially : initial threads.shared)
    (free : threads.owner = none)
    (idle : ∀ thread, threads.position thread = .idle) :
    Serial meaning initial permitted [] threads threads.shared where
  atomic := .start initially
  asked thread call called := by
    rw [idle] at called
    cases called
  holding thread := by
    rw [idle, free]
    exact iff_of_false id (Option.some_ne_none thread).symm
  ahead thread call place inside := by
    rw [idle] at inside
    cases inside
  settled _ := rfl
  turns thread := by
    rw [idle]
    exact .start

/-- With nobody inside, the object is as the committed operations left it. -/
theorem Serial.free
    (serial : Serial meaning initial permitted outputs threads base)
    (free : threads.owner = none) : threads.shared = base := by
  apply serial.settled
  intro thread call place inside
  have holds := (serial.holding thread).mp (by rw [inside]; trivial)
  rw [free] at holds
  cases holds

/-- Only one thread is inside. -/
theorem Serial.alone
    (serial : Serial meaning initial permitted outputs threads base)
    {thread other : Thread} (holds : (threads.position thread).Holding)
    (otherHolds : (threads.position other).Holding) : other = thread := by
  have owner := (serial.holding thread).mp holds
  rw [(serial.holding other).mp otherHolds] at owner
  exact Option.some.inj owner

/-- The other threads keep their turns. -/
theorem Serial.turns_step
    (serial : Serial meaning initial permitted outputs threads base)
    {thread : Thread}
    {position : Position Call Place Answer}
    (own : ∀ output ∈ emitted, output.thread = thread)
    (turn : InTurn thread (ofThread thread outputs ++ emitted)
      position.stage) (other : Thread) :
    InTurn other (ofThread other (outputs ++ emitted))
      (Function.update threads.position thread position other).stage := by
  rw [ofThread_append]
  by_cases same : other = thread
  · subst same
    have whole : ofThread other emitted = emitted :=
      List.filter_eq_self.mpr fun output member =>
        decide_eq_true (own output member)
    rw [Function.update_self, whole]
    exact turn
  · have nothing : ofThread other emitted = [] :=
      List.filter_eq_nil_iff.mpr fun output member => by
        rw [own output member]
        simpa using Ne.symm same
    rw [Function.update_of_ne same, nothing, List.append_nil]
    exact serial.turns other

/-- A call from outside leaves the object and its mutex alone. -/
theorem Serial.invoke
    (serial : Serial meaning initial permitted outputs threads base)
    {thread : Thread}
    {call : Call} (idle : threads.position thread = .idle)
    (permits : permitted call) :
    Serial meaning initial permitted (outputs ++ [.invoked thread call])
      (threads.move thread (.waiting call)) base where
  atomic := by
    rw [commits_append]
    exact (List.append_nil (commits outputs)).symm ▸ serial.atomic
  asked other asking called := by
    by_cases same : other = thread
    · subst same
      rw [Threads.move_same] at called
      cases called
      exact permits
    · rw [Threads.move_other same] at called
      exact serial.asked other asking called
  holding other := by
    by_cases same : other = thread
    · subst same
      have outside := serial.holding other
      rw [idle] at outside
      rw [Threads.move_same]
      exact outside
    · rw [Threads.move_other same]
      exact serial.holding other
  ahead other called place inside := by
    by_cases same : other = thread
    · subst same
      rw [Threads.move_same] at inside
      cases inside
    · rw [Threads.move_other same] at inside
      exact serial.ahead other called place inside
  settled outside := by
    refine serial.settled fun other called place inside => ?_
    have differs : other ≠ thread := by
      rintro rfl
      rw [idle] at inside
      cases inside
    exact outside other called place
      (by rw [Threads.move_other differs]; exact inside)
  turns := serial.turns_step (by simp [Output.thread]) (by
    have turn := serial.turns thread
    rw [idle] at turn
    exact .invoked turn)

/-- The thread that takes, holds or releases the mutex goes on. -/
theorem Serial.holder
    (serial : Serial meaning initial permitted outputs threads base)
    {thread : Thread} {position : Position Call Place Answer}
    (shared following : Shared) (owner : Option Thread)
    (alone : ∀ other, other ≠ thread → ¬(threads.position other).Holding)
    (atomic : (meaning.machine initial).Reaches
      (fun _ (called : Thread × Call) => permitted called.2)
      (commits outputs ++ commits emitted) following)
    (asked : ∀ call, position.stage = .called call →
      (threads.position thread).stage = .called call)
    (holding : position.Holding ↔ owner = some thread)
    (own : ∀ other, owner = some other → other = thread)
    (ahead : ∀ call place, position = .inside call place →
      meaning.finish following (guarded.enter call) =
        meaning.finish shared place)
    (settled : (∀ call place, position ≠ .inside call place) →
      shared = following)
    (emits : ∀ output ∈ emitted, output.thread = thread)
    (turn : InTurn thread (ofThread thread outputs ++ emitted)
      position.stage) :
    Serial meaning initial permitted (outputs ++ emitted)
      ({ threads with shared, owner }.move thread position) following where
  atomic := by
    rw [commits_append]
    exact atomic
  asked other asking called := by
    by_cases same : other = thread
    · subst same
      rw [Threads.move_same] at called
      exact serial.asked other asking (asked asking called)
    · rw [Threads.move_other same] at called
      exact serial.asked other asking called
  holding other := by
    by_cases same : other = thread
    · subst same
      rw [Threads.move_same]
      exact holding
    · rw [Threads.move_other same]
      exact iff_of_false (alone other same) fun owns => same (own other owns)
  ahead other call place inside := by
    by_cases same : other = thread
    · subst same
      rw [Threads.move_same] at inside
      exact ahead call place inside
    · rw [Threads.move_other same] at inside
      change threads.position other = _ at inside
      exact absurd (by rw [inside]; trivial) (alone other same)
  settled outside := settled fun call place inside =>
    outside thread call place (by rw [Threads.move_same]; exact inside)
  turns := serial.turns_step emits turn

/-- While one thread holds the mutex, no other one does. -/
theorem Serial.others
    (serial : Serial meaning initial permitted outputs threads base)
    {thread : Thread}
    (holds : (threads.position thread).Holding) (other : Thread)
    (differs : other ≠ thread) : ¬(threads.position other).Holding :=
  fun otherHolds => differs (serial.alone holds otherHolds)

theorem Serial.step
    (serial : Serial meaning initial permitted outputs threads base)
    {event : Event Call Thread} (permits : event.Permits permitted)
    (stepped : Steps guarded threads event following emitted) :
    ∃ next, Serial meaning initial permitted (outputs ++ emitted) following
      next := by
  cases stepped with
  | invoke idle =>
      exact ⟨base, serial.invoke idle permits⟩
  | @lock thread call waiting free =>
      have turn := serial.turns thread
      rw [waiting] at turn
      refine ⟨base, serial.holder threads.shared base (some thread)
        (fun other _ holds => ?_) ?_ ?_ (iff_of_true trivial rfl)
        (fun other same => ?_) ?_ ?_ (by simp) ?_⟩
      · have owner := (serial.holding other).mp holds
        rw [free] at owner
        cases owner
      · exact (List.append_nil (commits outputs)).symm ▸ serial.atomic
      · rw [waiting]
        exact fun _ called => called
      · exact (Option.some.inj same).symm
      · rintro _ _ ⟨⟩
        rw [serial.free free]
      · exact fun outside => absurd rfl (outside _ _)
      · rw [List.append_nil]
        exact turn
  | @next thread call place later shared inside ran =>
      have holds : (threads.position thread).Holding := by
        rw [inside]
        trivial
      have owner := (serial.holding thread).mp holds
      have turn := serial.turns thread
      rw [inside] at turn
      refine ⟨base, serial.holder shared base threads.owner
        (serial.others holds) ?_ ?_ (iff_of_true trivial owner)
        (fun other same => ?_) ?_ ?_ (by simp) ?_⟩
      · exact (List.append_nil (commits outputs)).symm ▸ serial.atomic
      · rw [inside]
        exact fun _ called => called
      · rw [owner] at same
        exact (Option.some.inj same).symm
      · rintro _ _ ⟨⟩
        rw [serial.ahead thread call place inside, meaning.unfolds, ran]
        rfl
      · exact fun outside => absurd rfl (outside _ _)
      · rw [List.append_nil]
        exact turn
  | @commit thread call place shared answer inside ran =>
      have holds : (threads.position thread).Holding := by
        rw [inside]
        trivial
      have owner := (serial.holding thread).mp holds
      have turn := serial.turns thread
      rw [inside] at turn
      have atomic : meaning.finish base (guarded.enter call) =
          some (shared, answer) := by
        rw [serial.ahead thread call place inside, meaning.unfolds, ran]
        rfl
      refine ⟨shared, serial.holder shared shared threads.owner
        (serial.others holds) ?_ (fun _ called => by cases called)
        (iff_of_true trivial owner) (fun other same => ?_)
        (fun _ _ same => by cases same) (fun _ => rfl)
        (by simp [Output.thread]) (.committed turn)⟩
      · have asked : permitted call :=
          serial.asked thread call (by rw [inside]; rfl)
        refine @Machine.Reaches.next _ _ _ _ _ _ _ (thread, call) _ _
          serial.atomic asked ?_
        simp only [Meaning.machine, atomic]
        rfl
      · rw [owner] at same
        exact (Option.some.inj same).symm
  | @unlock thread call answer leaving =>
      have holds : (threads.position thread).Holding := by
        rw [leaving]
        trivial
      have turn := serial.turns thread
      rw [leaving] at turn
      refine ⟨base, serial.holder threads.shared base none
        (serial.others holds) ?_ (fun _ called => by cases called)
        (iff_of_false id (by simp)) (fun other same => by cases same)
        (fun _ _ same => by cases same) (fun _ => ?_)
        (by simp [Output.thread]) (.returned turn)⟩
      · exact (List.append_nil (commits outputs)).symm ▸ serial.atomic
      · refine serial.settled fun other called place inside => ?_
        have otherHolds : (threads.position other).Holding := by
          rw [inside]
          trivial
        have same := serial.alone holds otherHolds
        subst same
        rw [leaving] at inside
        cases inside

/-- A run of the threads is a run of atomic operations, in the order in which
they commit. -/
theorem serial_of_reaches (meaning : guarded.Meaning)
    (reached : (guarded.machine initial).Reaches
      (fun _ event => event.Permits permitted) outputs threads) :
    ∃ base, Serial meaning initial permitted outputs threads base := by
  refine @Machine.invariant _ _ _ (guarded.machine initial)
    (fun _ event => event.Permits permitted) (fun outputs threads =>
      ∃ base, Serial meaning initial permitted outputs threads base) ?_ ?_
    outputs threads reached
  · rintro threads ⟨initially, free, idle⟩
    exact ⟨_, Serial.start initially free idle⟩
  · rintro outputs threads event following emitted ⟨base, serial⟩ permits
      stepped
    exact serial.step permits (step_cases stepped)

/-! ## Progress -/

/-- Steps of one thread alone bring the threads from one state to another. -/
inductive RunsTo (guarded : Guarded Shared Call Place Answer)
    (thread : Thread) : Threads Shared Call Place Answer Thread →
      Threads Shared Call Place Answer Thread → Prop where
  | done {threads : Threads Shared Call Place Answer Thread} :
      RunsTo guarded thread threads threads
  | next {threads following final : Threads Shared Call Place Answer Thread}
      {emitted : List (Output Call Answer Thread)} :
      guarded.step threads (.run thread) = some (following, emitted) →
      RunsTo guarded thread following final →
      RunsTo guarded thread threads final

/-- The mutex is free, the thread is done, and the others stand where they
stood. -/
structure Released (thread : Thread)
    (threads final : Threads Shared Call Place Answer Thread) : Prop where
  free : final.owner = none
  idle : final.position thread = .idle
  others : ∀ other, other ≠ thread →
    final.position other = threads.position other

theorem leaving_releases {thread : Thread} {call : Call} {answer : Answer}
    (leaving : threads.position thread = .leaving call answer) :
    ∃ final, RunsTo guarded thread threads final ∧
      Released thread threads final := by
  refine ⟨_, .next (by simp only [step, leaving]; rfl) .done, rfl,
    Threads.move_same _ _, fun other differs => ?_⟩
  exact Threads.move_other differs _

/-- A thread inside its section comes to the unlock, if the rest of the section
is defined. -/
theorem inside_releases (meaning : guarded.Meaning) {thread : Thread}
    {call : Call} {place : Place} {result : Shared × Answer}
    (inside : threads.position thread = .inside call place)
    (defined : meaning.finish threads.shared place = some result) :
    ∃ final, RunsTo guarded thread threads final ∧
      Released thread threads final := by
  induction length : meaning.remaining place using Nat.strongRecOn
    generalizing threads place with
  | _ bound induction =>
      rw [meaning.unfolds, goOn.eq_def] at defined
      split at defined
      · cases defined
      · rename_i shared later ran
        have ahead : ({ threads with shared }.move thread
            (.inside call later)).position thread = .inside call later :=
          Threads.move_same _ _
        obtain ⟨final, runs, released⟩ := induction _
          (length ▸ meaning.shorter ran) ahead defined rfl
        refine ⟨final, .next (by simp only [step, inside, ran]; rfl) runs,
          released.free, released.idle, fun other differs => ?_⟩
        rw [released.others other differs, Threads.move_other differs]
      · rename_i shared answer ran
        have ahead : ({ threads with shared }.move thread
            (.leaving call answer)).position thread = .leaving call answer :=
          Threads.move_same _ _
        obtain ⟨final, runs, released⟩ := @leaving_releases _ _ _ _ _ _
          guarded _ thread call answer ahead
        refine ⟨final, .next (by simp only [step, inside, ran]; rfl) runs,
          released.free, released.idle, fun other differs => ?_⟩
        rw [released.others other differs, Threads.move_other differs]

/-- The permitted operations are defined on all objects that they lead to. -/
structure Meaning.Defined (meaning : guarded.Meaning)
    (initial : Shared → Prop) (permitted : Call → Prop)
    (keeps : Shared → Prop) : Prop where
  initially : ∀ shared, initial shared → keeps shared
  defined : ∀ shared call, keeps shared → permitted call →
    ∃ following answer, meaning.finish shared (guarded.enter call) =
      some (following, answer) ∧ keeps following

section Progress

variable {keeps : Shared → Prop}
  (total : meaning.Defined initial permitted keeps)
include total

theorem Serial.kept
    (serial : Serial meaning initial permitted outputs threads base) :
    keeps base := by
  refine @Machine.invariant _ _ _ (meaning.machine initial)
    (fun _ called => permitted called.2) (fun _ shared => keeps shared)
    total.initially ?_ _ base serial.atomic
  rintro _ shared ⟨caller, call⟩ following _ holds permits stepped
  obtain ⟨next, answer, finished, keeps⟩ :=
    total.defined shared call holds permits
  simp only [Meaning.machine, finished, Option.map_some, Option.some.injEq,
    Prod.mk.injEq] at stepped
  exact stepped.1 ▸ keeps

/-- The thread that holds the mutex can go on to its unlock. -/
theorem Serial.releases
    (serial : Serial meaning initial permitted outputs threads base)
    {thread : Thread} (owns : threads.owner = some thread) :
    ∃ final, RunsTo guarded thread threads final ∧
      Released thread threads final := by
  have holds := (serial.holding thread).mpr owns
  cases position : threads.position thread with
  | idle =>
      rw [position] at holds
      cases holds
  | waiting call =>
      rw [position] at holds
      cases holds
  | inside call place =>
      obtain ⟨following, answer, finished, _⟩ :=
        total.defined base call (serial.kept total)
          (serial.asked thread call (by rw [position]; rfl))
      rw [serial.ahead thread call place position] at finished
      exact inside_releases meaning position finished
  | leaving call answer => exact leaving_releases position

omit total in
theorem RunsTo.serial {thread : Thread}
    {final : Threads Shared Call Place Answer Thread}
    (runs : RunsTo guarded thread threads final)
    (serial : Serial meaning initial permitted outputs threads base) :
    ∃ outputs base, Serial meaning initial permitted outputs final base := by
  induction runs generalizing outputs base with
  | done => exact ⟨outputs, base, serial⟩
  | next stepped _ induction =>
      have permits : (Event.run thread).Permits permitted := trivial
      obtain ⟨following, kept⟩ := serial.step permits (step_cases stepped)
      exact induction kept

/-- With the mutex free, a waiting call can run to its return. -/
theorem Serial.returns
    (serial : Serial meaning initial permitted outputs threads base)
    (free : threads.owner = none) {thread : Thread} {call : Call}
    (waiting : threads.position thread = .waiting call) :
    ∃ final, RunsTo guarded thread threads final ∧
      final.position thread = .idle := by
  have locked : guarded.step threads (.run thread) =
      some ({ threads with owner := some thread }.move thread
        (.inside call (guarded.enter call)), []) := by
    simp only [Guarded.step, waiting, free]
  have permits : (Event.run thread).Permits permitted := trivial
  obtain ⟨next, kept⟩ := serial.step permits (step_cases locked)
  obtain ⟨final, runs, released⟩ := kept.releases total rfl
  exact ⟨final, .next locked runs, released.idle⟩

/-- A call that has been made can come to its return: first the thread that
holds the mutex goes on to its unlock, and then the caller runs. -/
theorem Serial.serves
    (serial : Serial meaning initial permitted outputs threads base)
    {caller : Thread} (busy : threads.position caller ≠ .idle) :
    ∃ holder middle final, RunsTo guarded holder threads middle ∧
      RunsTo guarded caller middle final ∧
      final.position caller = .idle := by
  cases owner : threads.owner with
  | none =>
      cases position : threads.position caller with
      | idle => exact absurd position busy
      | waiting call =>
          obtain ⟨final, runs, idle⟩ :=
            serial.returns total owner position
          exact ⟨caller, threads, final, .done, runs, idle⟩
      | inside call place =>
          have holds := (serial.holding caller).mp (by rw [position]; trivial)
          rw [owner] at holds
          cases holds
      | leaving call answer =>
          have holds := (serial.holding caller).mp (by rw [position]; trivial)
          rw [owner] at holds
          cases holds
  | some holder =>
      obtain ⟨middle, runs, released⟩ := serial.releases total owner
      by_cases same : caller = holder
      · subst same
        exact ⟨caller, threads, middle, .done, runs, released.idle⟩
      · obtain ⟨_, _, kept⟩ := runs.serial serial
        have outside : ¬(threads.position caller).Holding := fun holds =>
          same (serial.alone ((serial.holding holder).mpr owner) holds)
        cases position : threads.position caller with
        | idle => exact absurd position busy
        | waiting call =>
            obtain ⟨final, later, idle⟩ := kept.returns total released.free
              ((released.others caller same).trans position)
            exact ⟨holder, middle, final, runs, later, idle⟩
        | inside call place =>
            rw [position] at outside
            exact absurd trivial outside
        | leaving call answer =>
            rw [position] at outside
            exact absurd trivial outside

end Progress

end Guarded

end Library
