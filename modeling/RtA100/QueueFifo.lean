import RtA100.Library.Fifo
import RtA100.Library.Machine
import RtA100.Queue

/-!
# The thread-safe queue as a bounded FIFO

Each call runs under `q->mutex`, so a run of `queueMachine` is any interleaving
of the calls of any number of threads.  The outputs record the memory that a
call wrote or loaded besides what it answered.  Every history of answers is one
of the abstract queue of 63 messages, and whatever `dequeue` loads was written
to that slot by the latest `enqueue` that used it.
-/

namespace RtA100

open Library

/-- A message as its receiver sees it. -/
structure Message where
  len : Nat
  bytes : List UInt8
deriving DecidableEq

def Message.of (bytes : List UInt8) : Message :=
  { len := bytes.length, bytes }

inductive QueueCall where
  | enqueue (thread : Nat) (data : List UInt8) (len : Nat)
  | dequeue (thread : Nat) {capacity : Nat} (data : Buffer capacity)

inductive QueueOutput where
  | wrote (slot : Nat) (message : Message)
  | loaded (slot : Nat) (message : Message)
  | answered (thread : Nat) (call : Fifo.Call Message)
      (answer : Fifo.Answer Message)

variable {slotSize : Nat}

/-- One call.  `wrote` and `loaded` are the slot, size and bytes that its
`memcpy` and its access to `sizes` touch. -/
def queueStep (queue : ThreadSafeQueue slotSize) :
    QueueCall → Option (ThreadSafeQueue slotSize × List QueueOutput)
  | .enqueue thread data len => do
      let (following, status) ← queue.enqueue data len
      let message : Message := { len, bytes := data.take len }
      if status = 0 then
        some (following, [.wrote queue.head.toNat message,
          .answered thread (.put message) .accepted])
      else
        some (following, [.answered thread (.put message) .full])
  | .dequeue thread data => do
      let (following, copied, received) ← queue.dequeue data
      match received with
      | none => some (following, [.answered thread .take .empty])
      | some len =>
          let message : Message := { len, bytes := copied.bytes.take len }
          some (following, [.loaded queue.tail.toNat message,
            .answered thread .take (.returned message)])

/-- A queue that `init_queue` has set up.  It clears the slots as well, but
nothing depends on that, so they hold anything here. -/
def QueueInitial (queue : ThreadSafeQueue slotSize) : Prop :=
  ∃ buffers sizes, queue = { initQueue slotSize sizes with buffers }

def queueMachine (slotSize : Nat) :
    Machine (ThreadSafeQueue slotSize) QueueCall QueueOutput :=
  { initial := QueueInitial
    step := queueStep }

def queueHistory (outputs : List QueueOutput) :
    List (Fifo.Call Message × Fifo.Answer Message) :=
  outputs.filterMap fun output =>
    match output with
    | .answered _ call answer => some (call, answer)
    | _ => none

/-- The latest `enqueue` that used the slot wrote the message there. -/
def LastWritten (outputs : List QueueOutput) (slot : Nat)
    (message : Message) : Prop :=
  ∃ before after, outputs = before ++ .wrote slot message :: after ∧
    ∀ other, .wrote slot other ∉ after

/-- Sizes and bytes are loaded only as an `enqueue` has written them. -/
def LoadsWritten (outputs : List QueueOutput) : Prop :=
  ∀ before slot message after,
    outputs = before ++ .loaded slot message :: after →
    LastWritten before slot message

/-- What the next call does to a queue that holds `pending`. -/
structure AnswersAsFifo (queue : ThreadSafeQueue slotSize)
    (pending : List (List UInt8)) : Prop where
  headInside : queue.head.toNat < maxSegments
  tailInside : queue.tail.toNat < maxSegments
  enqueued : ∀ data len, len ≤ slotSize → len ≤ data.length →
    ∃ following status, queue.enqueue data len = some (following, status) ∧
      (status = -1 ↔ pending.length = 63) ∧
      (status = 0 ↔ pending.length < 63)
  refused : ∀ data len following,
    queue.enqueue data len = some (following, -1) → following = queue
  dequeued : ∀ {capacity : Nat} (data : Buffer capacity),
    (∀ message ∈ pending.head?, message.length ≤ capacity) →
    ∃ following copied received,
      queue.dequeue data = some (following, copied, received) ∧
        (received = none ↔ pending = [])
  nothing : ∀ {capacity : Nat} (data copied : Buffer capacity) following,
    queue.dequeue data = some (following, copied, none) →
    following = queue ∧ copied = data

/-! ## Single calls -/

namespace ThreadSafeQueue

variable {queue following : ThreadSafeQueue slotSize}
  {pending : List (List UInt8)}

/-- An `enqueue` that respects its slot and its source is defined. -/
theorem enqueue_defined (represents : queue.Represents pending)
    {data : List UInt8} {len : Nat} (fits : len ≤ slotSize)
    (available : len ≤ data.length) :
    ∃ following status, queue.enqueue data len = some (following, status) := by
  unfold enqueue
  by_cases full : (queue.head + 1) % 64 = queue.tail
  · exact ⟨queue, -1, by simp [full]⟩
  · have inside := represents.headInside
    obtain ⟨written, copied⟩ :=
      Buffer.memcpy_defined (queue.buffers[queue.head.toNat]) fits available
    simp only [full, if_false, Vector.getElem?_eq_getElem inside,
      Option.bind_eq_bind, Option.bind_some, copied, Option.pure_def]
    exact ⟨_, _, rfl⟩

/-- A `dequeue` into a buffer with room for the oldest message is defined. -/
theorem dequeue_defined (represents : queue.Represents pending)
    {capacity : Nat} (data : Buffer capacity)
    (fits : ∀ message ∈ pending.head?, message.length ≤ capacity) :
    ∃ following copied received,
      queue.dequeue data = some (following, copied, received) := by
  unfold dequeue
  by_cases empty : queue.tail = queue.head
  · exact ⟨queue, data, none, by simp [empty]⟩
  · have inside := represents.tailInside
    cases pending with
    | nil => exact absurd (represents.empty_iff.mpr rfl) empty
    | cons message rest =>
        obtain ⟨_, size, content⟩ := represents.stored.oldest inside
        have room : message.length ≤ capacity := fits message (by simp)
        have available : message.length ≤
            (queue.buffers[queue.tail.toNat]).bytes.length := by
          have length := congrArg List.length content
          simp only [List.length_take] at length
          omega
        obtain ⟨_, copied⟩ := Buffer.memcpy_defined data room available
        simp only [empty, if_false, Vector.getElem?_eq_getElem inside,
          Option.bind_eq_bind, Option.bind_some, size, copied,
          Option.pure_def]
        exact ⟨_, _, _, rfl⟩

theorem enqueue_tail {data : List UInt8} {len : Nat} {status : Int}
    (result : queue.enqueue data len = some (following, status)) :
    following.tail = queue.tail := by
  unfold enqueue at result
  by_cases full : (queue.head + 1) % 64 = queue.tail
  · simp only [full, if_true, Option.pure_def, Option.some.injEq,
      Prod.mk.injEq] at result
    rw [result.1]
  · simp only [full, if_false, Option.pure_def, Option.bind_eq_bind,
      Option.bind_eq_some_iff, Option.some.injEq, Prod.mk.injEq] at result
    obtain ⟨_, _, _, _, rfl, _⟩ := result
    rfl

theorem dequeue_tail {capacity : Nat} {data copied : Buffer capacity}
    {len : Nat}
    (result : queue.dequeue data = some (following, copied, some len)) :
    following.tail = (queue.tail + 1) % 64 := by
  unfold dequeue at result
  by_cases empty : queue.tail = queue.head
  · simp [empty] at result
  · simp only [empty, if_false, Option.pure_def, Option.bind_eq_bind,
      Option.bind_eq_some_iff, Option.some.injEq, Prod.mk.injEq] at result
    obtain ⟨_, _, _, _, _, _, rfl, _⟩ := result
    rfl

end ThreadSafeQueue

theorem answersAsFifo {queue : ThreadSafeQueue slotSize}
    {pending : List (List UInt8)} (slotBound : slotSize < 65536)
    (represents : queue.Represents pending) :
    AnswersAsFifo queue pending := by
  refine ⟨represents.headInside, represents.tailInside, ?_, ?_, ?_, ?_⟩
  · intro data len fits available
    obtain ⟨following, status, result⟩ :=
      ThreadSafeQueue.enqueue_defined represents fits available
    refine ⟨following, status, result, ?_⟩
    rcases ThreadSafeQueue.enqueue_cases slotBound represents result with
      ⟨full, _, rfl⟩ | ⟨room, _, _, rfl, _⟩
    · simp [full]
    · simp [room]
      omega
  · intro data len following result
    rcases ThreadSafeQueue.enqueue_cases slotBound represents result with
      ⟨_, same, _⟩ | ⟨_, _, _, accepted, _⟩
    · exact same
    · cases accepted
  · intro capacity data fits
    obtain ⟨following, copied, received, result⟩ :=
      ThreadSafeQueue.dequeue_defined represents data fits
    refine ⟨following, copied, received, result, ?_⟩
    rcases ThreadSafeQueue.dequeue_cases represents result with
      ⟨empty, _, _, rfl⟩ | ⟨message, rest, _, rfl, _, rfl, _⟩
    · simp [empty]
    · simp
  · intro capacity data copied following result
    rcases ThreadSafeQueue.dequeue_cases represents result with
      ⟨_, sameQueue, sameData, _⟩ | ⟨_, _, _, _, _, received, _⟩
    · exact ⟨sameQueue, sameData⟩
    · cases received

/-! ## Runs -/

theorem LastWritten.extend {outputs emitted : List QueueOutput} {slot : Nat}
    {message : Message} (written : LastWritten outputs slot message)
    (untouched : ∀ other, .wrote slot other ∉ emitted) :
    LastWritten (outputs ++ emitted) slot message := by
  obtain ⟨before, after, rfl, latest⟩ := written
  refine ⟨before, after ++ emitted, by simp, fun other member => ?_⟩
  rcases List.mem_append.mp member with earlier | later
  · exact latest other earlier
  · exact untouched other later

theorem LoadsWritten.nil : LoadsWritten [] := by
  intro before slot message after same
  simp at same

/-- Emitting one output keeps the law, provided that a load finds its message
written. -/
theorem LoadsWritten.snoc {outputs : List QueueOutput}
    {output : QueueOutput} (sound : LoadsWritten outputs)
    (loads : ∀ slot message, output = .loaded slot message →
      LastWritten outputs slot message) :
    LoadsWritten (outputs ++ [output]) := by
  intro before slot message after same
  rcases List.eq_nil_or_concat after with rfl | ⟨first, last, rfl⟩
  · obtain ⟨rfl, loaded⟩ := List.append_inj' same rfl
    exact loads slot message (List.cons.inj loaded).1
  · rw [List.concat_eq_append, ← List.cons_append,
      ← List.append_assoc] at same
    obtain ⟨earlier, _⟩ := List.append_inj' same rfl
    exact sound before slot message first earlier

/-- What every run keeps, over the messages that the ring holds. -/
structure QueueSound (outputs : List QueueOutput)
    (queue : ThreadSafeQueue slotSize) (pending : List (List UInt8)) :
    Prop where
  represents : queue.Represents pending
  explains : Fifo.Explains 63 (queueHistory outputs) (pending.map Message.of)
  written : Ring.Holds
    (fun slot bytes => LastWritten outputs slot (Message.of bytes))
    maxSegments queue.tail.toNat pending
  loads : LoadsWritten outputs

theorem QueueSound.initial {queue : ThreadSafeQueue slotSize}
    (starts : QueueInitial queue) : QueueSound [] queue [] := by
  obtain ⟨buffers, sizes, rfl⟩ := starts
  obtain ⟨tailInside, bounded, headPosition, _⟩ :=
    ThreadSafeQueue.initQueue_represents slotSize sizes
  exact ⟨⟨tailInside, bounded, headPosition, Ring.holds_nil _⟩, .start,
    Ring.holds_nil _, .nil⟩

theorem queueHistory_append (outputs emitted : List QueueOutput) :
    queueHistory (outputs ++ emitted) =
      queueHistory outputs ++ queueHistory emitted :=
  List.filterMap_append

/-- A refused call only adds its answer. -/
theorem QueueSound.answer {outputs : List QueueOutput}
    {queue : ThreadSafeQueue slotSize} {pending : List (List UInt8)}
    (sound : QueueSound outputs queue pending) {thread : Nat}
    {call : Fifo.Call Message} {answer : Fifo.Answer Message}
    (answers : Fifo.Answers 63 (pending.map Message.of) call answer
      (pending.map Message.of)) :
    QueueSound (outputs ++ [.answered thread call answer]) queue pending := by
  refine ⟨sound.represents, ?_, ?_, ?_⟩
  · rw [queueHistory_append]
    exact .next sound.explains answers
  · intro offset inside
    exact (sound.written offset inside).extend (by simp)
  · exact sound.loads.snoc (by simp)

theorem QueueSound.accept {outputs : List QueueOutput}
    {queue following : ThreadSafeQueue slotSize}
    {pending : List (List UInt8)} (sound : QueueSound outputs queue pending)
    {thread : Nat} {message : List UInt8}
    (room : pending.length < 63) (tail : following.tail = queue.tail)
    (represents : following.Represents (pending ++ [message])) :
    QueueSound
      (outputs ++ [.wrote queue.head.toNat (Message.of message),
        .answered thread (.put (Message.of message)) .accepted])
      following (pending ++ [message]) := by
  refine ⟨represents, ?_, ?_, ?_⟩
  · rw [queueHistory_append, List.map_append]
    exact .next sound.explains (.accepted _ (by simpa using room))
  · rw [tail]
    refine sound.written.push sound.represents.bounded ?_ ?_
    · intro index stored different written
      rw [← sound.represents.headPosition] at different
      exact written.extend (by simp [different])
    · rw [← sound.represents.headPosition]
      exact ⟨outputs, _, rfl, by simp⟩
  · have wrote : LoadsWritten
        (outputs ++ [.wrote queue.head.toNat (Message.of message)]) :=
      sound.loads.snoc (by simp)
    rw [List.append_cons]
    exact wrote.snoc (by simp)

theorem QueueSound.return {outputs : List QueueOutput}
    {queue following : ThreadSafeQueue slotSize}
    {message : List UInt8} {rest : List (List UInt8)}
    (sound : QueueSound outputs queue (message :: rest)) {thread : Nat}
    (tail : following.tail = (queue.tail + 1) % 64)
    (represents : following.Represents rest) :
    QueueSound
      (outputs ++ [.loaded queue.tail.toNat (Message.of message),
        .answered thread .take (.returned (Message.of message))])
      following rest := by
  have inside := sound.represents.tailInside
  refine ⟨represents, ?_, ?_, ?_⟩
  · rw [queueHistory_append]
    exact .next sound.explains (.returned _ _)
  · rw [tail, ThreadSafeQueue.advance_toNat inside]
    intro offset within
    exact (sound.written.pop offset within).extend (by simp)
  · have loaded : LoadsWritten
        (outputs ++ [.loaded queue.tail.toNat (Message.of message)]) := by
      refine sound.loads.snoc fun slot other same => ?_
      obtain ⟨rfl, rfl⟩ := QueueOutput.loaded.inj same
      exact sound.written.oldest inside
    rw [List.append_cons]
    exact loaded.snoc (by simp)

theorem QueueSound.step {outputs emitted : List QueueOutput}
    {queue following : ThreadSafeQueue slotSize}
    {pending : List (List UInt8)} (slotBound : slotSize < 65536)
    (sound : QueueSound outputs queue pending) {call : QueueCall}
    (stepped : queueStep queue call = some (following, emitted)) :
    ∃ after, QueueSound (outputs ++ emitted) following after := by
  cases call with
  | enqueue thread data len =>
      simp only [queueStep, Option.bind_eq_bind, Option.bind_eq_some_iff,
        Prod.exists] at stepped
      obtain ⟨next, status, result, stepped⟩ := stepped
      rcases ThreadSafeQueue.enqueue_cases slotBound sound.represents result
        with ⟨full, rfl, rfl⟩ | ⟨room, _, available, rfl, represents⟩
      · obtain ⟨rfl, rfl⟩ := by simpa using stepped
        exact ⟨pending, sound.answer (.full _ (by simpa using full))⟩
      · obtain ⟨rfl, rfl⟩ := by simpa using stepped
        have message : Message.of (data.take len) =
            { len, bytes := data.take len } := by
          simp [Message.of, available]
        rw [← message]
        exact ⟨_, sound.accept room (ThreadSafeQueue.enqueue_tail result)
          represents⟩
  | dequeue thread data =>
      simp only [queueStep, Option.bind_eq_bind, Option.bind_eq_some_iff,
        Prod.exists] at stepped
      obtain ⟨next, copied, received, result, stepped⟩ := stepped
      rcases ThreadSafeQueue.dequeue_cases sound.represents result with
        ⟨rfl, rfl, rfl, rfl⟩ | ⟨message, rest, fits, rfl, rfl, rfl, represents⟩
      · obtain ⟨rfl, rfl⟩ := by simpa using stepped
        exact ⟨[], sound.answer .empty⟩
      · obtain ⟨rfl, rfl⟩ := by simpa using stepped
        have tail := ThreadSafeQueue.dequeue_tail result
        exact ⟨rest, sound.return tail represents⟩

/-- After any run of any number of threads, the answers given are those of a
FIFO of 63 messages, the next call is answered likewise, and no load has found
anything but what an `enqueue` left in the slot. -/
theorem queue_refines_fifo {slotSize : Nat} (slotBound : slotSize < 65536)
    {outputs : List QueueOutput} {queue : ThreadSafeQueue slotSize}
    (reached :
      (queueMachine slotSize).Reaches Machine.anyStep outputs queue) :
    ∃ pending : List (List UInt8),
      Fifo.Explains 63 (queueHistory outputs) (pending.map Message.of) ∧
      Fifo.acceptedValues (queueHistory outputs) =
        Fifo.returnedValues (queueHistory outputs) ++
          pending.map Message.of ∧
      AnswersAsFifo queue pending ∧ LoadsWritten outputs := by
  have invariant : ∃ pending, QueueSound outputs queue pending := by
    refine @Machine.invariant _ _ _ (queueMachine slotSize) Machine.anyStep
      (fun outputs queue => ∃ pending, QueueSound outputs queue pending)
      ?_ ?_ outputs queue reached
    · intro queue starts
      exact ⟨[], QueueSound.initial starts⟩
    · intro outputs queue call following emitted kept _ stepped
      obtain ⟨pending, sound⟩ := kept
      exact sound.step slotBound stepped
  obtain ⟨pending, sound⟩ := invariant
  exact ⟨pending, sound.explains, sound.explains.conserved,
    answersAsFifo slotBound sound.represents, sound.loads⟩

/-! ## A first exchange -/

def firstExchange : List QueueOutput :=
  [.wrote 0 (Message.of [7, 8]),
    .answered 1 (.put (Message.of [7, 8])) .accepted,
    .loaded 0 (Message.of [7, 8]),
    .answered 2 .take (.returned (Message.of [7, 8]))]

theorem firstExchange_reached :
    ∃ queue, (queueMachine 4).Reaches Machine.anyStep firstExchange queue := by
  have starts : QueueInitial
      (initQueue 4 (Vector.replicate maxSegments 0xFFFF)) := ⟨_, _, rfl⟩
  have computed : ∃ queue, (queueMachine 4).run (fun _ _ => true)
      (initQueue 4 (Vector.replicate maxSegments 0xFFFF))
      [.enqueue 1 [7, 8, 9] 2, .dequeue 2 (Buffer.filled 4 0)] =
      some (queue, firstExchange) := ⟨_, rfl⟩
  obtain ⟨queue, run⟩ := computed
  exact ⟨queue, Machine.Reaches.extend (fun _ _ _ _ => trivial)
    (.start starts) run⟩

theorem queue_refines_fifo_firstExchange :
    ∃ (queue : ThreadSafeQueue 4) (pending : List (List UInt8)),
      (queueMachine 4).Reaches Machine.anyStep firstExchange queue ∧
      Fifo.Explains 63 (queueHistory firstExchange)
        (pending.map Message.of) ∧
      Fifo.acceptedValues (queueHistory firstExchange) =
        Fifo.returnedValues (queueHistory firstExchange) ++
          pending.map Message.of ∧
      AnswersAsFifo queue pending ∧ LoadsWritten firstExchange := by
  obtain ⟨queue, reached⟩ := firstExchange_reached
  obtain ⟨pending, refined⟩ := queue_refines_fifo (by decide) reached
  exact ⟨queue, pending, reached, refined⟩

end RtA100
