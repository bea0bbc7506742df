import Mathlib.Tactic.SplitIfs
import RtA100.Library.CriticalSection
import RtA100.QueueFifo

/-!
# The queue under its mutex

`enqueue` and `dequeue` statement by statement, with the bytes of each `memcpy`
copied one at a time.  Any number of threads take these steps in any order;
between `pthread_mutex_lock` and `pthread_mutex_unlock` a thread is alone.

A run is one of `queueMachine`, whose calls are atomic, in the order in which
the calls commit, and so its answers are those of a FIFO of 63 messages.
-/

namespace RtA100

open Library

/-! ## Copying byte by byte -/

/-- Write the byte at an offset. -/
def storeByte {capacity : Nat} (destination : Buffer capacity)
    (offset : Nat) (byte : UInt8) : Option (Buffer capacity) :=
  if offset < capacity then
    some
      { bytes := destination.bytes.set offset byte
        size := by rw [List.length_set]; exact destination.size }
  else none

/-- Copy `count` bytes from an offset on. -/
def copyBytes {capacity : Nat} (source : List UInt8) :
    Nat → Nat → Buffer capacity → Option (Buffer capacity)
  | 0, _, destination => some destination
  | count + 1, offset, destination => do
      let byte ← source[offset]?
      let stored ← storeByte destination offset byte
      copyBytes source count (offset + 1) stored

theorem copyBytes_inside {capacity : Nat} (source : List UInt8)
    (count offset : Nat) (destination : Buffer capacity)
    (fits : offset + count ≤ capacity)
    (available : offset + count ≤ source.length) :
    ∃ copied, copyBytes source count offset destination = some copied ∧
      copied.bytes = destination.bytes.take offset ++
        ((source.drop offset).take count ++
          destination.bytes.drop (offset + count)) := by
  induction count generalizing offset destination with
  | zero =>
      refine ⟨destination, rfl, ?_⟩
      rw [List.take_zero, List.nil_append, Nat.add_zero,
        List.take_append_drop]
  | succ count induction =>
      have inside : offset < capacity := by omega
      have present : offset < source.length := by omega
      obtain ⟨copied, defined, content⟩ := induction (offset + 1)
        { bytes := destination.bytes.set offset source[offset]
          size := by rw [List.length_set]; exact destination.size }
        (by omega) (by omega)
      refine ⟨copied, ?_, ?_⟩
      · rw [copyBytes, List.getElem?_eq_getElem present]
        simp only [Option.bind_eq_bind, Option.bind_some, storeByte,
          if_pos inside]
        exact defined
      · have size := destination.size
        have front : (destination.bytes.set offset source[offset]).take
            (offset + 1) = destination.bytes.take offset ++
              [source[offset]] := by
          rw [List.set_eq_take_append_cons_drop, if_pos (by omega),
            List.append_cons]
          exact List.take_left' (by
            rw [List.length_append, List.length_take,
              Nat.min_eq_left (by omega), List.length_singleton])
        rw [content, List.drop_eq_getElem_cons present, List.take_succ_cons,
          List.drop_set_of_lt (by omega), front, List.append_assoc,
          Nat.add_right_comm, Nat.add_assoc]
        rfl

theorem copyBytes_outside {capacity : Nat} (source : List UInt8)
    (count offset : Nat) (destination : Buffer capacity)
    (positive : 0 < count)
    (outside : ¬(offset + count ≤ capacity ∧
      offset + count ≤ source.length)) :
    copyBytes source count offset destination = none := by
  induction count generalizing offset destination with
  | zero => exact absurd positive (Nat.lt_irrefl _)
  | succ count induction =>
      rw [copyBytes]
      cases read : source[offset]? with
      | none => rfl
      | some byte =>
          have present := (List.getElem?_eq_some_iff.mp read).1
          simp only [Option.bind_eq_bind, Option.bind_some, storeByte]
          by_cases inside : offset < capacity
          · rw [if_pos inside, Option.bind_some]
            exact induction (offset + 1) _ (by omega) (by omega)
          · rw [if_neg inside]
            rfl

/-- The byte loop is `memcpy`. -/
theorem copyBytes_eq_memcpy {capacity : Nat} (source : List UInt8)
    (len : Nat) (destination : Buffer capacity) :
    copyBytes source len 0 destination = destination.memcpy source len := by
  unfold Buffer.memcpy
  by_cases inside : len ≤ capacity ∧ len ≤ source.length
  · obtain ⟨copied, defined, content⟩ := copyBytes_inside source len 0
      destination (by omega) (by omega)
    rw [defined, dif_pos inside, Option.some.injEq]
    ext1
    rw [content, Buffer.overwrite_bytes, List.length_take,
      Nat.min_eq_left inside.2]
    simp
  · rw [dif_neg inside]
    exact copyBytes_outside source len 0 destination (by omega) (by omega)

/-! ## The statements -/

inductive QueueRequest where
  | enqueue (data : List UInt8) (len : Nat)
  | dequeue {capacity : Nat} (data : Buffer capacity)

inductive QueueReply where
  | enqueued (status : Int)
  | dequeued {capacity : Nat} (data : Buffer capacity) (len : Option Nat)

/-- A statement between lock and unlock, with the variables of the thread. -/
inductive QueuePlace where
  | enqueueTest (data : List UInt8) (len : Nat)
  | enqueueCopy (data : List UInt8) (len : Nat) (next : UInt32)
      (slot : Fin maxSegments) (copied : Nat)
  | enqueueSize (len : Nat) (next : UInt32)
  | enqueueHead (next : UInt32)
  | dequeueTest {capacity : Nat} (data : Buffer capacity)
  | dequeueCopy {capacity : Nat} (data : Buffer capacity)
      (slot : Fin maxSegments) (size copied : Nat)
  | dequeueLen {capacity : Nat} (data : Buffer capacity)
  | dequeueTail {capacity : Nat} (data : Buffer capacity) (len : Nat)

variable {slotSize : Nat}

def queueStatement (queue : ThreadSafeQueue slotSize) :
    QueuePlace → Option (ThreadSafeQueue slotSize × (QueuePlace ⊕ QueueReply))
  | .enqueueTest data len =>
      let next := (queue.head + 1) % 64
      if next = queue.tail then some (queue, .inr (.enqueued (-1)))
      else if inside : queue.head.toNat < maxSegments then
        some (queue,
          .inl (.enqueueCopy data len next ⟨queue.head.toNat, inside⟩ 0))
      else none
  | .enqueueCopy data len next slot copied =>
      if copied < len then do
        let byte ← data[copied]?
        let written ← storeByte (queue.buffers.get slot) copied byte
        some
          ({ queue with
             buffers := queue.buffers.setIfInBounds slot.val written },
            .inl (.enqueueCopy data len next slot (copied + 1)))
      else some (queue, .inl (.enqueueSize len next))
  | .enqueueSize len next =>
      some
        ({ queue with
           sizes := queue.sizes.setIfInBounds queue.head.toNat
             (UInt16.ofNat len) }, .inl (.enqueueHead next))
  | .enqueueHead next =>
      some ({ queue with head := next }, .inr (.enqueued 0))
  | .dequeueTest data =>
      if queue.tail = queue.head then some (queue, .inr (.dequeued data none))
      else if inside : queue.tail.toNat < maxSegments then
        let slot : Fin maxSegments := ⟨queue.tail.toNat, inside⟩
        some (queue,
          .inl (.dequeueCopy data slot (queue.sizes.get slot).toNat 0))
      else none
  | .dequeueCopy data slot size copied =>
      if copied < size then do
        let byte ← (queue.buffers.get slot).bytes[copied]?
        let written ← storeByte data copied byte
        some (queue, .inl (.dequeueCopy written slot size (copied + 1)))
      else some (queue, .inl (.dequeueLen data))
  | .dequeueLen data => do
      let size ← queue.sizes[queue.tail.toNat]?
      some (queue, .inl (.dequeueTail data size.toNat))
  | .dequeueTail data len =>
      some ({ queue with tail := (queue.tail + 1) % 64 },
        .inr (.dequeued data (some len)))

/-- The sections of `enqueue` and `dequeue`. -/
def queueGuarded (slotSize : Nat) :
    Guarded (ThreadSafeQueue slotSize) QueueRequest QueuePlace QueueReply :=
  { enter := fun request =>
      match request with
      | .enqueue data len => .enqueueTest data len
      | .dequeue data => .dequeueTest data
    statement := queueStatement }

/-! ## What the sections compute -/

/-- The rest of a section. -/
def queueFinish (queue : ThreadSafeQueue slotSize) :
    QueuePlace → Option (ThreadSafeQueue slotSize × QueueReply)
  | .enqueueTest data len =>
      (queue.enqueue data len).map fun (following, status) =>
        (following, .enqueued status)
  | .enqueueCopy data len next slot copied => do
      let written ←
        copyBytes data (len - copied) copied (queue.buffers.get slot)
      some
        ({ buffers := queue.buffers.setIfInBounds slot.val written
           sizes := queue.sizes.setIfInBounds queue.head.toNat
             (UInt16.ofNat len)
           head := next
           tail := queue.tail }, .enqueued 0)
  | .enqueueSize len next =>
      some
        ({ queue with
           sizes := queue.sizes.setIfInBounds queue.head.toNat
             (UInt16.ofNat len)
           head := next }, .enqueued 0)
  | .enqueueHead next => some ({ queue with head := next }, .enqueued 0)
  | .dequeueTest data =>
      (queue.dequeue data).map fun (following, copied, len) =>
        (following, .dequeued copied len)
  | .dequeueCopy data slot size copied => do
      let written ←
        copyBytes (queue.buffers.get slot).bytes (size - copied) copied data
      let len ← queue.sizes[queue.tail.toNat]?
      some ({ queue with tail := (queue.tail + 1) % 64 },
        .dequeued written (some len.toNat))
  | .dequeueLen data => do
      let len ← queue.sizes[queue.tail.toNat]?
      some ({ queue with tail := (queue.tail + 1) % 64 },
        .dequeued data (some len.toNat))
  | .dequeueTail data len =>
      some ({ queue with tail := (queue.tail + 1) % 64 },
        .dequeued data (some len))

/-- A bound of the statements before the unlock. -/
def queueRemaining : QueuePlace → Nat
  | .enqueueTest _ len => len + 4
  | .enqueueCopy _ len _ _ copied => len - copied + 3
  | .enqueueSize _ _ => 2
  | .enqueueHead _ => 1
  | .dequeueTest _ => 70000
  | .dequeueCopy _ _ size copied => size - copied + 3
  | .dequeueLen _ => 2
  | .dequeueTail _ _ => 1

theorem copyBytes_next {capacity : Nat} (source : List UInt8)
    {len copied : Nat} (more : copied < len)
    (destination : Buffer capacity) :
    copyBytes source (len - copied) copied destination =
      source[copied]?.bind fun byte =>
        (storeByte destination copied byte).bind fun stored =>
          copyBytes source (len - (copied + 1)) (copied + 1) stored := by
  rw [show len - copied = len - (copied + 1) + 1 by omega, copyBytes]
  rfl

theorem copyBytes_done {capacity : Nat} (source : List UInt8)
    {len copied : Nat} (done : ¬copied < len)
    (destination : Buffer capacity) :
    copyBytes source (len - copied) copied destination =
      some destination := by
  rw [show len - copied = 0 by omega, copyBytes]

theorem queueFinish_unfolds (queue : ThreadSafeQueue slotSize)
    (place : QueuePlace) :
    queueFinish queue place =
      Guarded.goOn queueFinish (queueStatement queue place) := by
  cases place with
  | enqueueTest data len =>
      simp only [queueFinish, queueStatement, ThreadSafeQueue.enqueue]
      by_cases full : (queue.head + 1) % 64 = queue.tail
      · rw [if_pos full, if_pos full]
        rfl
      · rw [if_neg full, if_neg full]
        by_cases inside : queue.head.toNat < maxSegments
        · rw [dif_pos inside, Vector.getElem?_eq_getElem inside]
          simp only [Guarded.goOn, queueFinish, Nat.sub_zero,
            copyBytes_eq_memcpy, Option.bind_eq_bind, Option.bind_some,
            Option.map_bind]
          rfl
        · rw [dif_neg inside, Vector.getElem?_eq_none (by omega)]
          rfl
  | enqueueCopy data len next slot copied =>
      simp only [queueFinish, queueStatement]
      by_cases more : copied < len
      · rw [if_pos more, copyBytes_next data more]
        cases data[copied]? with
        | none => rfl
        | some byte =>
            simp only [Option.bind_eq_bind, Option.bind_some]
            cases storeByte (queue.buffers.get slot) copied byte with
            | none => rfl
            | some written =>
                have reread :
                    (queue.buffers.setIfInBounds slot.val written).get slot =
                      written := Vector.getElem_setIfInBounds_self _
                simp only [Option.bind_some, Guarded.goOn, queueFinish,
                  reread, Vector.setIfInBounds_setIfInBounds]
                rfl
      · rw [if_neg more, copyBytes_done data more]
        have unchanged : queue.buffers.setIfInBounds slot.val
            (queue.buffers.get slot) = queue.buffers := by
          ext1 index inside
          rw [Vector.getElem_setIfInBounds]
          split
          · rename_i same
            subst same
            rfl
          · rfl
        simp only [Option.bind_eq_bind, Option.bind_some, unchanged]
        rfl
  | enqueueSize len next => rfl
  | enqueueHead next => rfl
  | dequeueTest data =>
      simp only [queueFinish, queueStatement, ThreadSafeQueue.dequeue]
      by_cases empty : queue.tail = queue.head
      · rw [if_pos empty, if_pos empty]
        rfl
      · rw [if_neg empty, if_neg empty]
        by_cases inside : queue.tail.toNat < maxSegments
        · rw [dif_pos inside, Vector.getElem?_eq_getElem inside,
            Vector.getElem?_eq_getElem inside]
          simp only [Guarded.goOn, queueFinish, Nat.sub_zero,
            copyBytes_eq_memcpy, Option.bind_eq_bind, Option.bind_some,
            Option.map_bind,
            Vector.getElem?_eq_getElem inside]
          rfl
        · rw [dif_neg inside, Vector.getElem?_eq_none (by omega)]
          rfl
  | dequeueCopy data slot size copied =>
      simp only [queueFinish, queueStatement]
      by_cases more : copied < size
      · rw [if_pos more, copyBytes_next _ more]
        cases (queue.buffers.get slot).bytes[copied]? with
        | none => rfl
        | some byte =>
            simp only [Option.bind_eq_bind, Option.bind_some]
            cases storeByte data copied byte with
            | none => rfl
            | some written => rfl
      · rw [if_neg more, copyBytes_done _ more]
        rfl
  | dequeueLen data =>
      simp only [queueFinish, queueStatement]
      cases queue.sizes[queue.tail.toNat]? <;> rfl
  | dequeueTail data len => rfl

theorem queueStatement_shorter {queue following : ThreadSafeQueue slotSize}
    {place next : QueuePlace}
    (ran : queueStatement queue place = some (following, .inl next)) :
    queueRemaining next < queueRemaining place := by
  cases place with
  | enqueueTest data len =>
      simp only [queueStatement] at ran
      split_ifs at ran
      · cases ran
      · cases ran
        simp only [queueRemaining]
        omega
  | enqueueCopy data len advanced slot copied =>
      simp only [queueStatement] at ran
      split_ifs at ran with more
      · simp only [Option.bind_eq_bind, Option.bind_eq_some_iff,
          Option.some.injEq, Prod.mk.injEq, Sum.inl.injEq] at ran
        obtain ⟨_, _, _, _, _, rfl⟩ := ran
        simp only [queueRemaining]
        omega
      · cases ran
        simp only [queueRemaining]
        omega
  | enqueueSize len advanced =>
      cases ran
      exact Nat.one_lt_two
  | enqueueHead advanced => cases ran
  | dequeueTest data =>
      simp only [queueStatement] at ran
      split_ifs at ran with empty inside
      · cases ran
      · cases ran
        simp only [queueRemaining]
        have small := (queue.sizes.get ⟨queue.tail.toNat, inside⟩).toNat_lt
        omega
  | dequeueCopy data slot size copied =>
      simp only [queueStatement] at ran
      split_ifs at ran with more
      · simp only [Option.bind_eq_bind, Option.bind_eq_some_iff,
          Option.some.injEq, Prod.mk.injEq, Sum.inl.injEq] at ran
        obtain ⟨_, _, _, _, _, rfl⟩ := ran
        simp only [queueRemaining]
        omega
      · cases ran
        simp only [queueRemaining]
        omega
  | dequeueLen data =>
      simp only [queueStatement, Option.bind_eq_bind,
        Option.bind_eq_some_iff, Option.some.injEq, Prod.mk.injEq,
        Sum.inl.injEq] at ran
      obtain ⟨_, _, _, rfl⟩ := ran
      exact Nat.one_lt_two
  | dequeueTail data len => cases ran

/-- The sections mean the atomic operations. -/
def queueMeaning (slotSize : Nat) : (queueGuarded slotSize).Meaning :=
  { finish := queueFinish
    remaining := queueRemaining
    unfolds := queueFinish_unfolds
    shorter := queueStatement_shorter }

/-! ## Runs -/

/-- The call of `queueMachine` that a request is. -/
def QueueRequest.call (thread : Nat) : QueueRequest → QueueCall
  | .enqueue data len => .enqueue thread data len
  | .dequeue data => .dequeue thread data

/-- A call as the FIFO sees it. -/
def answered : QueueRequest × QueueReply →
    Option (Fifo.Call Message × Fifo.Answer Message)
  | (.enqueue data len, .enqueued status) =>
      some (.put { len, bytes := data.take len },
        if status = 0 then .accepted else .full)
  | (.dequeue _, .dequeued data received) =>
      some (.take,
        match received with
        | none => .empty
        | some len => .returned { len, bytes := data.bytes.take len })
  | _ => none

/-- The answers of the calls that have committed, in that order. -/
def committedHistory
    (outputs : List (Guarded.Output QueueRequest QueueReply Nat)) :
    List (Fifo.Call Message × Fifo.Answer Message) :=
  (Guarded.commits outputs).filterMap fun commit => answered commit.2

/-- A queue that `init_queue` has set up, with all threads idle. -/
def queueThreads (slotSize : Nat) :
    Machine (Guarded.Threads (ThreadSafeQueue slotSize) QueueRequest
      QueuePlace QueueReply Nat) (Guarded.Event QueueRequest Nat)
      (Guarded.Output QueueRequest QueueReply Nat) :=
  (queueGuarded slotSize).machine QueueInitial

/-- An operation at once is a step of `queueMachine`. -/
theorem queueStep_of_finish {queue following : ThreadSafeQueue slotSize}
    {request : QueueRequest} {reply : QueueReply} (thread : Nat)
    (finished : queueFinish queue ((queueGuarded slotSize).enter request) =
      some (following, reply)) :
    ∃ emitted, queueStep queue (request.call thread) =
        some (following, emitted) ∧
      queueHistory emitted = (answered (request, reply)).toList := by
  cases request with
  | enqueue data len =>
      simp only [queueGuarded, queueFinish, Option.map_eq_some_iff,
        Prod.exists, Prod.mk.injEq] at finished
      obtain ⟨queue, status, result, rfl, rfl⟩ := finished
      simp only [QueueRequest.call, queueStep, result, Option.bind_eq_bind,
        Option.bind_some, answered]
      by_cases accepted : status = 0
      · rw [if_pos accepted, if_pos accepted]
        exact ⟨_, rfl, rfl⟩
      · rw [if_neg accepted, if_neg accepted]
        exact ⟨_, rfl, rfl⟩
  | dequeue data =>
      simp only [queueGuarded, queueFinish, Option.map_eq_some_iff,
        Prod.exists, Prod.mk.injEq] at finished
      obtain ⟨queue, copied, received, result, rfl, rfl⟩ := finished
      simp only [QueueRequest.call, queueStep, result, Option.bind_eq_bind,
        Option.bind_some, answered]
      cases received with
      | none => exact ⟨_, rfl, rfl⟩
      | some len => exact ⟨_, rfl, rfl⟩

/-- Operations at once, in any order, are a run of `queueMachine`. -/
theorem queueMachine_of_commits {permitted : QueueRequest → Prop}
    {commits : List (Guarded.Commit Nat QueueRequest QueueReply)}
    {queue : ThreadSafeQueue slotSize}
    (reached : ((queueMeaning slotSize).machine QueueInitial).Reaches
      (fun _ (called : Nat × QueueRequest) => permitted called.2) commits
      queue) :
    ∃ outputs, (queueMachine slotSize).Reaches Machine.anyStep outputs
        queue ∧
      queueHistory outputs =
        commits.filterMap fun commit => answered commit.2 := by
  refine @Machine.invariant _ _ _ ((queueMeaning slotSize).machine
    QueueInitial) (fun _ called => permitted called.2)
    (fun commits queue => ∃ outputs,
      (queueMachine slotSize).Reaches Machine.anyStep outputs queue ∧
        queueHistory outputs =
          commits.filterMap fun commit => answered commit.2) ?_ ?_
    commits queue reached
  · exact fun queue starts => ⟨[], .start starts, rfl⟩
  · rintro commits queue ⟨thread, request⟩ following emitted
      ⟨outputs, run, history⟩ _ stepped
    obtain ⟨⟨next, reply⟩, finished, result⟩ :=
      Option.map_eq_some_iff.mp stepped
    cases result
    obtain ⟨more, taken, added⟩ := queueStep_of_finish thread finished
    refine ⟨outputs ++ more, run.next trivial taken, ?_⟩
    rw [queueHistory_append, history, added, List.filterMap_append]
    cases shape : answered (request, reply) <;> simp [shape]

theorem queueSound_of_reaches (slotBound : slotSize < 65536)
    {outputs : List QueueOutput} {queue : ThreadSafeQueue slotSize}
    (reached :
      (queueMachine slotSize).Reaches Machine.anyStep outputs queue) :
    ∃ pending, QueueSound outputs queue pending := by
  refine @Machine.invariant _ _ _ (queueMachine slotSize) Machine.anyStep
    (fun outputs queue => ∃ pending, QueueSound outputs queue pending)
    ?_ ?_ outputs queue reached
  · exact fun queue starts => ⟨[], QueueSound.initial starts⟩
  · rintro outputs queue call following emitted ⟨pending, sound⟩ _ stepped
    exact sound.step slotBound stepped

/-- In every run of any number of threads, statement by statement, the calls
take effect one after another as on a FIFO of 63 messages, each between its
invocation and its return, and one thread at a time is inside. -/
theorem queue_linearizable (slotBound : slotSize < 65536)
    {outputs : List (Guarded.Output QueueRequest QueueReply Nat)}
    {threads : Guarded.Threads (ThreadSafeQueue slotSize) QueueRequest
      QueuePlace QueueReply Nat}
    (reached : (queueThreads slotSize).Reaches Machine.anyStep outputs
      threads) :
    (∃ pending, Fifo.Explains 63 (committedHistory outputs)
        (pending.map Message.of) ∧
      (threads.owner = none → threads.shared.Represents pending)) ∧
    (∀ thread, ∃ stage, Guarded.InTurn thread
      (Guarded.ofThread thread outputs) stage) ∧
    ∀ thread other, (threads.position thread).Holding →
      (threads.position other).Holding → other = thread := by
  have permitted : (queueThreads slotSize).Reaches
      (fun _ event => event.Permits fun _ => True) outputs threads :=
    reached.mono (by rintro _ (_ | _) _ <;> trivial)
  obtain ⟨base, serial⟩ :=
    Guarded.serial_of_reaches (queueMeaning slotSize) permitted
  obtain ⟨atomic, run, history⟩ :=
    @queueMachine_of_commits slotSize (fun _ => True) _ _ serial.atomic
  obtain ⟨pending, sound⟩ := queueSound_of_reaches slotBound run
  refine ⟨⟨pending, ?_, fun free => ?_⟩,
    fun thread => ⟨_, serial.turns thread⟩,
    fun thread other holds otherHolds => serial.alone holds otherHolds⟩
  · rw [committedHistory, ← history]
    exact sound.explains
  · rw [serial.free free]
    exact sound.represents

/-- The call stays inside its slot, its source and its destination. -/
def QueueRequest.Fits (slotSize : Nat) : QueueRequest → Prop
  | .enqueue data len => len ≤ slotSize ∧ len ≤ data.length
  | @QueueRequest.dequeue capacity _ => slotSize ≤ capacity

theorem queueMeaning_defined (slotBound : slotSize < 65536) :
    (queueMeaning slotSize).Defined QueueInitial (QueueRequest.Fits slotSize)
      (fun queue => ∃ pending, queue.Represents pending) where
  initially queue starts := ⟨[], (QueueSound.initial starts).represents⟩
  defined := by
    rintro queue request ⟨pending, represents⟩ fits
    cases request with
    | enqueue data len =>
        obtain ⟨following, status, result⟩ :=
          ThreadSafeQueue.enqueue_defined represents fits.1 fits.2
        refine ⟨following, .enqueued status, ?_, ?_⟩
        · simp only [queueMeaning, queueGuarded, queueFinish, result,
            Option.map_some]
        · rcases ThreadSafeQueue.enqueue_cases slotBound represents result
            with ⟨_, rfl, _⟩ | ⟨_, _, _, _, after⟩
          · exact ⟨pending, represents⟩
          · exact ⟨_, after⟩
    | @dequeue capacity data =>
        have room : ∀ message ∈ pending.head?, message.length ≤ capacity :=
          fun message first => Nat.le_trans (represents.message_fits
            (List.mem_of_mem_head? first)) fits
        obtain ⟨following, copied, received, result⟩ :=
          ThreadSafeQueue.dequeue_defined represents data room
        refine ⟨following, .dequeued copied received, ?_, ?_⟩
        · simp only [queueMeaning, queueGuarded, queueFinish, result,
            Option.map_some]
        · rcases ThreadSafeQueue.dequeue_cases represents result with
            ⟨_, rfl, _⟩ | ⟨_, rest, _, _, _, _, after⟩
          · exact ⟨pending, represents⟩
          · exact ⟨rest, after⟩

/-- As long as all calls fit, no run gets stuck: whatever the threads have
done, every call that has been made can come to its return. -/
theorem queue_never_stuck (slotBound : slotSize < 65536)
    {outputs : List (Guarded.Output QueueRequest QueueReply Nat)}
    {threads : Guarded.Threads (ThreadSafeQueue slotSize) QueueRequest
      QueuePlace QueueReply Nat}
    (reached : (queueThreads slotSize).Reaches
      (fun _ event => event.Permits (QueueRequest.Fits slotSize)) outputs
      threads) {caller : Nat} (busy : threads.position caller ≠ .idle) :
    ∃ holder middle final,
      Guarded.RunsTo (queueGuarded slotSize) holder threads middle ∧
        Guarded.RunsTo (queueGuarded slotSize) caller middle final ∧
        final.position caller = .idle := by
  obtain ⟨base, serial⟩ :=
    Guarded.serial_of_reaches (queueMeaning slotSize) reached
  exact serial.serves (queueMeaning_defined slotBound) busy

/-! ## Two threads -/

def idleThreads : Guarded.Threads (ThreadSafeQueue 4) QueueRequest QueuePlace
    QueueReply Nat :=
  { shared := initQueue 4 (Vector.replicate maxSegments 0xFFFF)
    owner := none
    position := fun _ => .idle }

/-- A thread enqueues two bytes, and another one, which has called in between,
dequeues them. -/
def twoThreads : List (Guarded.Output QueueRequest QueueReply Nat) :=
  [.invoked 1 (.enqueue [7, 8] 2),
    .invoked 2 (.dequeue (Buffer.filled 4 0)),
    .committed 1 (.enqueue [7, 8] 2) (.enqueued 0),
    .returned 1 (.enqueue [7, 8] 2) (.enqueued 0),
    .committed 2 (.dequeue (Buffer.filled 4 0))
      (.dequeued { bytes := [7, 8, 0, 0], size := rfl : Buffer 4 } (some 2)),
    .returned 2 (.dequeue (Buffer.filled 4 0))
      (.dequeued { bytes := [7, 8, 0, 0], size := rfl : Buffer 4 } (some 2))]

def twoThreadsEvents : List (Guarded.Event QueueRequest Nat) :=
  .invoke 1 (.enqueue [7, 8] 2) :: .run 1 ::
    .invoke 2 (.dequeue (Buffer.filled 4 0)) ::
      (List.replicate 7 (.run 1) ++ List.replicate 8 (.run 2))

theorem twoThreads_reached : ∃ threads,
    (queueThreads 4).Reaches Machine.anyStep twoThreads threads := by
  have starts : (queueThreads 4).initial idleThreads :=
    ⟨⟨_, _, rfl⟩, rfl, fun _ => rfl⟩
  have computed : ∃ threads, (queueThreads 4).run (fun _ _ => true)
      idleThreads twoThreadsEvents = some (threads, twoThreads) := ⟨_, rfl⟩
  obtain ⟨threads, run⟩ := computed
  exact ⟨threads, Machine.Reaches.extend (fun _ _ _ _ => trivial)
    (.start starts) run⟩

theorem queue_linearizable_twoThreads : ∃ threads,
    (queueThreads 4).Reaches Machine.anyStep twoThreads threads ∧
      ∃ pending : List (List UInt8), Fifo.Explains 63
        (committedHistory twoThreads) (pending.map Message.of) := by
  obtain ⟨threads, reached⟩ := twoThreads_reached
  obtain ⟨⟨pending, explains, _⟩, _⟩ := queue_linearizable (by decide) reached
  exact ⟨threads, reached, pending, explains⟩

/-- The second thread finds the mutex locked. -/
theorem queue_never_stuck_locked : ∃ outputs threads,
    (queueThreads 4).Reaches
        (fun _ event => event.Permits (QueueRequest.Fits 4)) outputs threads ∧
      threads.owner = some 1 ∧ ∃ holder middle final,
        Guarded.RunsTo (queueGuarded 4) holder threads middle ∧
          Guarded.RunsTo (queueGuarded 4) 2 middle final ∧
          final.position 2 = .idle := by
  have starts : (queueThreads 4).initial idleThreads :=
    ⟨⟨_, _, rfl⟩, rfl, fun _ => rfl⟩
  have fits : QueueRequest.Fits 4 (.enqueue [7, 8] 2) :=
    ⟨by decide, by decide⟩
  have called := @Machine.Reaches.next _ _ _ (queueThreads 4)
    (fun _ event => event.Permits (QueueRequest.Fits 4)) _ _
    (.invoke 1 (.enqueue [7, 8] 2)) _ _ (.start starts) fits rfl
  have locked := @Machine.Reaches.next _ _ _ _ _ _ _
    (Guarded.Event.run 1) _ _ called trivial rfl
  have reached := @Machine.Reaches.next _ _ _ _ _ _ _
    (Guarded.Event.invoke 2 (QueueRequest.dequeue (Buffer.filled 4 0))) _ _
    locked (Nat.le_refl 4) rfl
  exact ⟨_, _, reached, rfl, queue_never_stuck (by decide) reached
    (fun idle => by cases idle)⟩

end RtA100
