import RtA100.Library.Bytes
import RtA100.Library.Ring

/-!
# The thread-safe queue

`ThreadSafeQueue` is the ring of 64 slots of `lib/queue.c`.  Each operation
runs under `q->mutex`, so it is one atomic step of a system that uses the
queue.  Neither operation checks a length: a copy that would leave a slot or
the consumer's buffer is undefined, hence `none`.

`Represents` relates a ring to the list of messages accepted and not yet
returned.  `enqueue_cases` and `dequeue_cases` say everything a defined
operation can do in terms of that list, and are all that later modules use.
-/

namespace RtA100

open Library

def maxSegments : Nat := 64

/-- `st_ThreadSafeQueue` with slots of `slotSize` bytes. -/
structure ThreadSafeQueue (slotSize : Nat) where
  buffers : Vector (Buffer slotSize) maxSegments
  sizes : Vector UInt16 maxSegments
  head : UInt32
  tail : UInt32
deriving DecidableEq

/-- `init_queue`.  The call `bzero(q->sizes, MAX_SEGMENTS)` clears 64 bytes,
that is the first 32 of the 64 entries; the others keep what memory held. -/
def initQueue (slotSize : Nat) (sizes : Vector UInt16 maxSegments) :
    ThreadSafeQueue slotSize :=
  { buffers := Vector.replicate maxSegments (Buffer.filled slotSize 0)
    sizes := Vector.ofFn fun index =>
      if index.val < maxSegments / 2 then 0 else sizes[index]
    head := 0
    tail := 0 }

namespace ThreadSafeQueue

variable {slotSize : Nat}

/-- `enqueue`; the second component is the returned status. -/
def enqueue (queue : ThreadSafeQueue slotSize) (data : List UInt8)
    (len : Nat) : Option (ThreadSafeQueue slotSize × Int) := do
  let next := (queue.head + 1) % 64
  if next = queue.tail then
    return (queue, -1)
  let slot ← queue.buffers[queue.head.toNat]?
  let written ← slot.memcpy data len
  return ({ buffers := queue.buffers.setIfInBounds queue.head.toNat written
            sizes := queue.sizes.setIfInBounds queue.head.toNat
              (UInt16.ofNat len)
            head := next
            tail := queue.tail }, 0)

/-- `dequeue` into the consumer's buffer.  The last component is the received
length; `none` stands for the status -1 of an empty queue. -/
def dequeue {capacity : Nat} (queue : ThreadSafeQueue slotSize)
    (data : Buffer capacity) :
    Option (ThreadSafeQueue slotSize × Buffer capacity × Option Nat) := do
  if queue.tail = queue.head then
    return (queue, data, none)
  let slot ← queue.buffers[queue.tail.toNat]?
  let size ← queue.sizes[queue.tail.toNat]?
  let copied ← data.memcpy slot.bytes size.toNat
  return ({ queue with tail := (queue.tail + 1) % 64 }, copied,
    some size.toNat)

/-- The slot at `index` and its entry of `sizes` hold a message. -/
def Stores (queue : ThreadSafeQueue slotSize) (index : Nat)
    (message : List UInt8) : Prop :=
  ∃ _inside : index < maxSegments,
    queue.sizes[index].toNat = message.length ∧
      queue.buffers[index].bytes.take message.length = message

/-- The ring holds exactly the messages `pending`, oldest first. -/
structure Represents (queue : ThreadSafeQueue slotSize)
    (pending : List (List UInt8)) : Prop where
  tailInside : queue.tail.toNat < maxSegments
  bounded : pending.length < maxSegments
  headPosition : queue.head.toNat =
    Ring.position maxSegments queue.tail.toNat pending.length
  stored : Ring.Holds queue.Stores maxSegments queue.tail.toNat pending

theorem initQueue_represents (slotSize : Nat)
    (sizes : Vector UInt16 maxSegments) :
    (initQueue slotSize sizes).Represents [] := by
  refine ⟨?_, ?_, ?_, Ring.holds_nil _⟩
  · simp [initQueue, maxSegments]
  · simp [maxSegments]
  · simp [initQueue, Ring.position]

theorem advance_toNat {index : UInt32} (inside : index.toNat < maxSegments) :
    ((index + 1) % 64).toNat = (index.toNat + 1) % maxSegments := by
  have bound : index.toNat < 64 := inside
  simp only [maxSegments, UInt32.toNat_mod, UInt32.toNat_add]
  have one : (1 : UInt32).toNat = 1 := rfl
  have sixtyFour : (64 : UInt32).toNat = 64 := rfl
  rw [one, sixtyFour]
  omega

namespace Represents

variable {queue : ThreadSafeQueue slotSize} {pending : List (List UInt8)}

theorem headInside (represents : queue.Represents pending) :
    queue.head.toNat < maxSegments := by
  rw [represents.headPosition]
  exact Ring.position_lt (by simp [maxSegments]) _

/-- The full test of `enqueue` is true exactly with 63 messages pending. -/
theorem full_iff (represents : queue.Represents pending) :
    (queue.head + 1) % 64 = queue.tail ↔ pending.length = 63 := by
  rw [← UInt32.toNat_inj, advance_toNat represents.headInside,
    represents.headPosition, Ring.position_succ,
    Ring.next_eq_tail_iff represents.tailInside represents.bounded]
  simp [maxSegments]

/-- The empty test of `dequeue` is true exactly with no message pending. -/
theorem empty_iff (represents : queue.Represents pending) :
    queue.tail = queue.head ↔ pending = [] := by
  rw [← UInt32.toNat_inj, represents.headPosition,
    Ring.position_eq_tail_iff represents.tailInside represents.bounded,
    List.length_eq_zero_iff]

/-- A pending message fits the slots of its queue. -/
theorem message_fits (represents : queue.Represents pending)
    {message : List UInt8} (member : message ∈ pending) :
    message.length ≤ slotSize := by
  obtain ⟨offset, inside, rfl⟩ := List.getElem_of_mem member
  obtain ⟨slotInside, _, content⟩ := represents.stored offset inside
  have length := congrArg List.length content
  have size := (queue.buffers[Ring.position maxSegments queue.tail.toNat
    offset]).size
  simp only [List.length_take] at length
  omega

end Represents

/-- Everything a defined `enqueue` can do. -/
theorem enqueue_cases {queue following : ThreadSafeQueue slotSize}
    {pending : List (List UInt8)} {data : List UInt8} {len : Nat}
    {status : Int} (slotBound : slotSize < 65536)
    (represents : queue.Represents pending)
    (result : queue.enqueue data len = some (following, status)) :
    (pending.length = 63 ∧ following = queue ∧ status = -1) ∨
      (pending.length < 63 ∧ len ≤ slotSize ∧ len ≤ data.length ∧
        status = 0 ∧ following.Represents (pending ++ [data.take len])) := by
  have bounded := represents.bounded
  simp only [maxSegments] at bounded
  unfold enqueue at result
  by_cases full : (queue.head + 1) % 64 = queue.tail
  · left
    simp only [full, if_true, Option.pure_def, Option.some.injEq,
      Prod.mk.injEq] at result
    exact ⟨represents.full_iff.mp full, result.1.symm, result.2.symm⟩
  · right
    have room : pending.length < 63 := by
      have notFull := mt represents.full_iff.mpr full
      omega
    simp only [full, if_false, Option.pure_def, Option.bind_eq_bind,
      Option.bind_eq_some_iff, Option.some.injEq, Prod.mk.injEq] at result
    obtain ⟨slot, slotRead, written, copied, rfl, rfl⟩ := result
    obtain ⟨fits, available, rfl⟩ := Buffer.memcpy_eq_some_iff.mp copied
    have headInside := represents.headInside
    have lenBound : len ≤ slotSize := by
      simpa only [List.length_take, Nat.min_eq_left available] using fits
    refine ⟨room, lenBound, available, rfl, ?_⟩
    refine ⟨represents.tailInside, ?_, ?_, ?_⟩
    · simp only [List.length_append, List.length_singleton, maxSegments]
      omega
    · rw [advance_toNat headInside, represents.headPosition,
        Ring.position_succ]
      simp
    · refine represents.stored.push represents.bounded ?_ ?_
      · rintro index message different ⟨inside, sizeEq, content⟩
        rw [← represents.headPosition] at different
        refine ⟨inside, ?_, ?_⟩
        · simpa [Vector.getElem_setIfInBounds, Ne.symm different] using sizeEq
        · simpa [Vector.getElem_setIfInBounds, Ne.symm different]
            using content
      · rw [← represents.headPosition]
        refine ⟨headInside, ?_, ?_⟩
        · simp [List.length_take]
          omega
        · simp

/-- Everything a defined `dequeue` can do. -/
theorem dequeue_cases {capacity : Nat}
    {queue following : ThreadSafeQueue slotSize}
    {pending : List (List UInt8)} {data copied : Buffer capacity}
    {received : Option Nat} (represents : queue.Represents pending)
    (result : queue.dequeue data = some (following, copied, received)) :
    (pending = [] ∧ following = queue ∧ copied = data ∧ received = none) ∨
      ∃ (message : List UInt8) (rest : List (List UInt8))
        (fits : message.length ≤ capacity),
        pending = message :: rest ∧ copied = data.overwrite message fits ∧
          received = some message.length ∧ following.Represents rest := by
  unfold dequeue at result
  by_cases empty : queue.tail = queue.head
  · left
    simp only [empty, if_true, Option.pure_def, Option.some.injEq,
      Prod.mk.injEq] at result
    obtain ⟨sameQueue, sameData, nothing⟩ := result
    exact ⟨represents.empty_iff.mp empty, sameQueue.symm, sameData.symm,
      nothing.symm⟩
  · right
    simp only [empty, if_false, Option.pure_def, Option.bind_eq_bind,
      Option.bind_eq_some_iff, Option.some.injEq, Prod.mk.injEq] at result
    obtain ⟨slot, slotRead, size, sizeRead, written, copy, rfl, rfl, rfl⟩ :=
      result
    have tailInside := represents.tailInside
    rw [Vector.getElem?_eq_getElem tailInside] at slotRead sizeRead
    cases pending with
    | nil => exact absurd (represents.empty_iff.mpr rfl) empty
    | cons message rest =>
        obtain ⟨_, sizeEq, content⟩ := represents.stored.oldest tailInside
        have slotEq := Option.some.inj slotRead
        have sizeOf : size.toNat = message.length := by
          rw [← Option.some.inj sizeRead]
          exact sizeEq
        rw [sizeOf, ← slotEq] at copy
        obtain ⟨fits, _, copiedEq⟩ := Buffer.memcpy_eq_some_iff.mp copy
        refine ⟨message, rest, by rw [content] at fits; exact fits, rfl, ?_,
          by rw [sizeOf], ?_⟩
        · rw [copiedEq]
          ext1
          simp only [Buffer.overwrite_bytes, content]
        · refine ⟨?_, ?_, ?_, ?_⟩
          · rw [advance_toNat tailInside]
            exact Nat.mod_lt _ (by simp [maxSegments])
          · have bounded := represents.bounded
            simp only [List.length_cons] at bounded
            omega
          · rw [advance_toNat tailInside, represents.headPosition,
              Ring.position_step]
            simp
          · rw [advance_toNat tailInside]
            exact represents.stored.pop

end ThreadSafeQueue

end RtA100
