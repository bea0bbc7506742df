import RtA100.Library.Heap
import RtA100.Library.Machine

/-!
# The linked list as a queue

A `struct List` keeps a chain of `ListNode` blocks on the heap, its two ends
and a 16-bit count.  `malloc` succeeds and may choose any address that is not
live.  `listMachine` runs the calls beside the list of the values inserted and
not yet deleted, oldest first.

`List_GetHead` and `List_DelHead` take a list whose count is zero for an empty
one, and the count wraps: the list is that queue exactly as long as it never
holds 2^16 values.
-/

namespace RtA100

open Library

/-- `struct ListNode` -/
structure ListNode (α : Type) where
  next : Option Nat
  arg : α

/-- `struct List`, with the state of its mutex. -/
structure LinkedList where
  pHead : Option Nat
  pTail : Option Nat
  count : UInt16
  mutexOpt : Bool
  mutexHeld : Bool

/-- A list and the heap of its nodes. -/
structure ListMemory (α : Type) where
  list : LinkedList
  heap : Heap (ListNode α)

/-- `List_Init_Thread` -/
def listInitThread (_ : LinkedList) : LinkedList :=
  { pHead := none
    pTail := none
    count := 0
    mutexOpt := true
    mutexHeld := false }

/-- `List_Init`, which leaves the mutex as it is. -/
def listInit (list : LinkedList) : LinkedList :=
  { list with
    pHead := none
    pTail := none
    count := 0
    mutexOpt := false }

/-- `pthread_mutex_lock`, if the list has a mutex.  A thread that holds it
already would wait for itself. -/
def LinkedList.lock (list : LinkedList) : Option LinkedList :=
  if list.mutexOpt = true then
    if list.mutexHeld = true then none
    else some { list with mutexHeld := true }
  else some list

def LinkedList.unlock (list : LinkedList) : LinkedList :=
  if list.mutexOpt = true then { list with mutexHeld := false } else list

section Calls

variable {α : Type}

/-- `List_Insert` -/
def listInsert (allocator : Heap.Allocator (ListNode α)) (arg : α)
    (memory : ListMemory α) : Option (ListMemory α × Int) := do
  let newNode := allocator.malloc memory.heap
  let heap := memory.heap.store newNode (some { next := none, arg })
  let list ← memory.list.lock
  if list.pHead = none then
    let list := { list with
      pHead := some newNode
      pTail := some newNode
      count := list.count + 1 }
    some ({ list := list.unlock, heap }, 0)
  else
    let pTail ← list.pTail
    let tail ← heap.read pTail
    let heap ← heap.write pTail { tail with next := some newNode }
    let list := { list with
      pTail := some newNode
      count := list.count + 1 }
    some ({ list := list.unlock, heap }, 0)

/-- `List_GetHead` -/
def listGetHead (list : LinkedList) : Option Nat :=
  if list.count = 0 ∨ list.pHead = none then none else list.pHead

/-- `List_DelHead` -/
def listDelHead (memory : ListMemory α) : Option (ListMemory α × Int) := do
  let list ← memory.list.lock
  if list.count = 0 ∨ list.pHead = none then
    some ({ memory with list := list.unlock }, -1)
  else
    let pTmpNode ← list.pHead
    let node ← memory.heap.read pTmpNode
    let list := { list with pHead := node.next, count := list.count - 1 }
    let list :=
      if list.count = 0 then { list with pHead := none, pTail := none }
      else list
    let heap ← memory.heap.free pTmpNode
    some ({ list := list.unlock, heap }, 0)

/-- The list holds exactly the values of the queue, each in a node of its own
and no other node alive, and the next call answers as a queue does. -/
structure IsQueue (memory : ListMemory α) (queue : List α) : Prop where
  stored : ∃ nodes, Chain ListNode.next memory.heap memory.list.pHead nodes ∧
    nodes.map (fun node => node.2.arg) = queue ∧
    ∀ address, (memory.heap.read address).isSome ↔ address ∈ addresses nodes
  oldest : ∀ arg rest, queue = arg :: rest → ∃ node cell,
    listGetHead memory.list = some node ∧
      memory.heap.read node = some cell ∧ cell.arg = arg
  null : listGetHead memory.list = none ↔ queue = []
  deletes : ∃ following status,
    listDelHead memory = some (following, status) ∧
      (status = -1 ↔ queue = []) ∧ (status = 0 ↔ queue ≠ [])
  inserts : ∀ allocator arg, ∃ following,
    listInsert allocator arg memory = some (following, 0)

inductive ListCall (α : Type) where
  | insert (allocator : Heap.Allocator (ListNode α)) (arg : α)
  | getHead
  | delHead

/-- A call on the list and on the queue of the values not yet deleted. -/
def listStep (state : ListMemory α × List α) :
    ListCall α → Option ((ListMemory α × List α) × List Empty)
  | .insert allocator arg => do
      let (memory, _) ← listInsert allocator arg state.1
      some ((memory, state.2 ++ [arg]), [])
  | .getHead => some (state, [])
  | .delHead => do
      let (memory, _) ← listDelHead state.1
      some ((memory, state.2.tail), [])

inductive ListInitialiser where
  | listInit
  | listInitThread

/-- An initialised list, from any content of its memory. -/
def ListInitialiser.memory (initialiser : ListInitialiser)
    (list : LinkedList) : ListMemory α :=
  { list :=
      match initialiser with
      | .listInit => RtA100.listInit list
      | .listInitThread => RtA100.listInitThread list
    heap := Heap.empty }

def listMachine (α : Type) :
    Machine (ListMemory α × List α) (ListCall α) Empty :=
  { initial := fun state => ∃ initialiser list,
      state = (ListInitialiser.memory initialiser list, [])
    step := listStep }

/-- An insertion meets fewer than 2^16 - 1 queued values. -/
def BelowCapacity (state : ListMemory α × List α) : ListCall α → Prop
  | .insert _ _ => state.2.length < 65535
  | _ => True

/-! ## What the list represents -/

/-- The representation of a queue: the chain of nodes, its end and the count
modulo 2^16. -/
structure RepresentsQueue (memory : ListMemory α) (queue : List α)
    (nodes : List (Nat × ListNode α)) : Prop where
  chain : Chain ListNode.next memory.heap memory.list.pHead nodes
  args : nodes.map (fun node => node.2.arg) = queue
  live : ∀ address, (memory.heap.read address).isSome ↔
    address ∈ addresses nodes
  tail : memory.list.pTail = (addresses nodes).getLast?
  count : memory.list.count = UInt16.ofNat queue.length
  unlocked : memory.list.mutexOpt = true → memory.list.mutexHeld = false

theorem LinkedList.lock_of_unlocked {list : LinkedList}
    (unlocked : list.mutexOpt = true → list.mutexHeld = false) :
    ∃ held, list.lock = some { list with mutexHeld := held } := by
  obtain ⟨pHead, pTail, count, mutexOpt, mutexHeld⟩ := list
  cases mutexOpt with
  | false => exact ⟨mutexHeld, rfl⟩
  | true =>
      have free : mutexHeld = false := unlocked rfl
      subst free
      exact ⟨true, rfl⟩

@[simp] theorem LinkedList.unlock_pHead (list : LinkedList) :
    list.unlock.pHead = list.pHead := by
  unfold LinkedList.unlock
  split <;> rfl

@[simp] theorem LinkedList.unlock_pTail (list : LinkedList) :
    list.unlock.pTail = list.pTail := by
  unfold LinkedList.unlock
  split <;> rfl

@[simp] theorem LinkedList.unlock_count (list : LinkedList) :
    list.unlock.count = list.count := by
  unfold LinkedList.unlock
  split <;> rfl

theorem LinkedList.unlock_unlocked (list : LinkedList)
    (opt : list.unlock.mutexOpt = true) : list.unlock.mutexHeld = false := by
  unfold LinkedList.unlock at opt ⊢
  split
  · rfl
  · rename_i noMutex
    rw [if_neg noMutex] at opt
    exact absurd opt noMutex

variable {memory : ListMemory α} {queue : List α}
  {nodes : List (Nat × ListNode α)}

theorem RepresentsQueue.empty_iff
    (represents : RepresentsQueue memory queue nodes) :
    memory.list.pHead = none ↔ queue = [] := by
  rw [represents.chain.null_iff, ← represents.args, List.map_eq_nil_iff]

/-- A call ends by unlocking the list, which changes nothing else. -/
theorem representsQueue_unlock {list : LinkedList} {heap : Heap (ListNode α)}
    (chain : Chain ListNode.next heap list.pHead nodes)
    (args : nodes.map (fun node => node.2.arg) = queue)
    (live : ∀ address, (heap.read address).isSome ↔
      address ∈ addresses nodes)
    (tail : list.pTail = (addresses nodes).getLast?)
    (count : list.count = UInt16.ofNat queue.length) :
    RepresentsQueue { list := list.unlock, heap } queue nodes :=
  { chain := by
      rw [LinkedList.unlock_pHead]
      exact chain
    args
    live
    tail := (LinkedList.unlock_pTail list).trans tail
    count := (LinkedList.unlock_count list).trans count
    unlocked := LinkedList.unlock_unlocked list }

theorem RepresentsQueue.malloc_fresh
    (represents : RepresentsQueue memory queue nodes)
    (allocator : Heap.Allocator (ListNode α)) {address : Nat}
    (member : address ∈ addresses nodes) :
    address ≠ allocator.malloc memory.heap := by
  intro same
  have live := (represents.live address).mpr member
  rw [same, allocator.fresh] at live
  cases live

theorem ListInitialiser.represents (initialiser : ListInitialiser)
    (list : LinkedList) :
    RepresentsQueue (initialiser.memory list) ([] : List α) [] := by
  cases initialiser with
  | listInit =>
      exact
        { chain := rfl
          args := rfl
          live := fun _ => iff_of_false Bool.false_ne_true List.not_mem_nil
          tail := rfl
          count := rfl
          unlocked := nofun }
  | listInitThread =>
      exact
        { chain := rfl
          args := rfl
          live := fun _ => iff_of_false Bool.false_ne_true List.not_mem_nil
          tail := rfl
          count := rfl
          unlocked := fun _ => rfl }

/-- The first node is both ends of the list. -/
theorem listInsert_first {allocator : Heap.Allocator (ListNode α)} {arg : α}
    (represents : RepresentsQueue memory [] []) :
    ∃ following,
      listInsert allocator arg memory = some (following, 0) ∧
        RepresentsQueue following [arg]
          [(allocator.malloc memory.heap, { next := none, arg })] := by
  obtain ⟨held, locked⟩ :=
    LinkedList.lock_of_unlocked represents.unlocked
  let fresh := allocator.malloc memory.heap
  let new : ListNode α := { next := none, arg }
  have null : memory.list.pHead = none := represents.chain
  let list : LinkedList :=
    { memory.list with
      mutexHeld := held
      pHead := some fresh
      pTail := some fresh
      count := memory.list.count + 1 }
  let following : ListMemory α :=
    { list := list.unlock
      heap := memory.heap.store fresh (some new) }
  refine ⟨following, ?_, ?_⟩
  · simp only [listInsert, locked, Option.bind_eq_bind, Option.bind_some, null,
      if_true]
    rfl
  · have live : ∀ address,
        ((memory.heap.store fresh (some new)).read address).isSome ↔
          address ∈ addresses [(fresh, new)] := by
      intro address
      rw [Heap.live_store_some, represents.live]
      exact List.mem_cons.symm
    have count : list.count = UInt16.ofNat [arg].length := by
      change memory.list.count + 1 = 1
      rw [represents.count]
      rfl
    exact representsQueue_unlock
      ⟨rfl, Heap.read_store_same memory.heap fresh _, rfl⟩ rfl live rfl count

/-- The assignments of an insertion behind a last node. -/
theorem listInsert_eq {allocator : Heap.Allocator (ListNode α)} {arg : α}
    {last : Nat} {old : ListNode α} {held : Bool}
    (locked : memory.list.lock = some { memory.list with mutexHeld := held })
    (notNull : memory.list.pHead ≠ none)
    (tail : memory.list.pTail = some last)
    (live : (memory.heap.store (allocator.malloc memory.heap)
      (some { next := none, arg })).read last = some old) :
    listInsert allocator arg memory = some
      ({ list :=
          LinkedList.unlock
            { memory.list with
              mutexHeld := held
              pTail := some (allocator.malloc memory.heap)
              count := memory.list.count + 1 }
         heap :=
          (memory.heap.store (allocator.malloc memory.heap)
            (some { next := none, arg })).store last
              (some { old with
                next := some (allocator.malloc memory.heap) }) }, 0) := by
  simp only [listInsert, locked, Option.bind_eq_bind, Option.bind_some,
    notNull, if_false, tail, live, Heap.write_of_read live]

/-- The last node before the insertion gets a successor. -/
theorem listInsert_next {allocator : Heap.Allocator (ListNode α)} {arg : α}
    {before : List (Nat × ListNode α)} {last : Nat × ListNode α}
    (represents : RepresentsQueue memory queue (before ++ [last])) :
    ∃ following,
      listInsert allocator arg memory = some (following, 0) ∧
        RepresentsQueue following (queue ++ [arg])
          (before ++
            [(last.1,
                { last.2 with next := some (allocator.malloc memory.heap) }),
              (allocator.malloc memory.heap, { next := none, arg })]) := by
  obtain ⟨held, locked⟩ :=
    LinkedList.lock_of_unlocked represents.unlocked
  let fresh := allocator.malloc memory.heap
  let new : ListNode α := { next := none, arg }
  let linked : ListNode α := { last.2 with next := some fresh }
  let heap := (memory.heap.store fresh (some new)).store last.1 (some linked)
  have split : addresses (before ++ [last]) = addresses before ++ [last.1] := by
    rw [addresses, List.map_append]
    rfl
  have notFresh : ∀ address ∈ addresses before ++ [last.1],
      address ≠ fresh := by
    rw [← split]
    exact fun address member => represents.malloc_fresh allocator member
  have lastNotFresh : last.1 ≠ fresh :=
    notFresh last.1 (List.mem_append_right _ List.mem_cons_self)
  have lastElsewhere : ∀ address ∈ addresses before, address ≠ last.1 := by
    intro address member
    have nodup := represents.chain.nodup
    rw [split, List.nodup_append] at nodup
    exact nodup.2.2 address member last.1 List.mem_cons_self
  have lastLive : (memory.heap.store fresh (some new)).read last.1 =
      some last.2 := by
    rw [Heap.read_store_other lastNotFresh]
    exact represents.chain.read
      (List.mem_append_right before List.mem_cons_self)
  have notNull : memory.list.pHead ≠ none := by
    rw [Ne, represents.chain.null_iff]
    exact List.append_ne_nil_of_right_ne_nil before (List.cons_ne_nil _ _)
  have tail : memory.list.pTail = some last.1 := by
    rw [represents.tail, split, List.getLast?_concat]
  have sameBefore : ∀ address ∈ addresses before,
      heap.read address = memory.heap.read address := by
    intro address member
    rw [Heap.read_store_other (lastElsewhere address member),
      Heap.read_store_other (notFresh address (List.mem_append_left _ member))]
  have freshCell : heap.read fresh = some new := by
    rw [Heap.read_store_other (Ne.symm lastNotFresh), Heap.read_store_same]
  have chain : Chain ListNode.next heap memory.list.pHead
      (before ++ [(last.1, linked), (fresh, new)]) :=
    represents.chain.snoc sameBefore (Heap.read_store_same _ last.1 _) rfl
      freshCell rfl
  have extended : addresses (before ++ [(last.1, linked), (fresh, new)]) =
      addresses before ++ [last.1, fresh] := by
    rw [addresses, List.map_append]
    rfl
  have args : (before ++ [(last.1, linked), (fresh, new)]).map
      (fun node => node.2.arg) = queue ++ [arg] := by
    rw [← represents.args, List.map_append, List.map_append, List.append_assoc]
    rfl
  have live : ∀ address, (heap.read address).isSome ↔
      address ∈ addresses (before ++ [(last.1, linked), (fresh, new)]) := by
    intro address
    rw [Heap.live_store_some, Heap.live_store_some, represents.live, split,
      extended]
    simp only [List.mem_append, List.mem_cons, List.not_mem_nil, or_false]
    grind
  have ends : some fresh =
      (addresses (before ++ [(last.1, linked), (fresh, new)])).getLast? := by
    rw [extended, List.append_cons, List.getLast?_concat]
  have count : memory.list.count + 1 =
      UInt16.ofNat (queue ++ [arg]).length := by
    rw [List.length_append, UInt16.ofNat_add, ← represents.count]
    rfl
  exact ⟨_, listInsert_eq locked notNull tail lastLive,
    representsQueue_unlock chain args live ends count⟩

/-- An insertion is defined and appends to the represented queue, whatever the
count. -/
theorem listInsert_represents
    (represents : RepresentsQueue memory queue nodes)
    (allocator : Heap.Allocator (ListNode α)) (arg : α) :
    ∃ following extended,
      listInsert allocator arg memory = some (following, 0) ∧
        RepresentsQueue following (queue ++ [arg]) extended := by
  cases List.eq_nil_or_concat nodes with
  | inl nothing =>
      subst nothing
      have noValue : queue = [] := represents.args.symm
      subst noValue
      obtain ⟨following, inserted, extended⟩ := listInsert_first represents
      exact ⟨following, _, inserted, extended⟩
  | inr something =>
      obtain ⟨before, last, split⟩ := something
      rw [List.concat_eq_append] at split
      subst split
      obtain ⟨following, inserted, extended⟩ := listInsert_next represents
      exact ⟨following, _, inserted, extended⟩

theorem RepresentsQueue.count_zero_iff
    (represents : RepresentsQueue memory queue nodes)
    (bounded : queue.length < 65536) :
    memory.list.count = 0 ↔ queue = [] := by
  rw [represents.count, ← UInt16.toNat_inj, UInt16.toNat_ofNat',
    Nat.mod_eq_of_lt bounded, ← List.length_eq_zero_iff]
  rfl

/-- Below 2^16 values both tests for an empty list say the same. -/
theorem RepresentsQueue.empty_test_iff
    (represents : RepresentsQueue memory queue nodes)
    (bounded : queue.length < 65536) :
    (memory.list.count = 0 ∨ memory.list.pHead = none) ↔ queue = [] := by
  rw [represents.count_zero_iff bounded, represents.empty_iff, or_self]

theorem listGetHead_represents
    (represents : RepresentsQueue memory queue nodes)
    (bounded : queue.length < 65536) :
    listGetHead memory.list = (addresses nodes).head? := by
  rw [← represents.chain.start_eq, listGetHead]
  split
  · rename_i empty
    have noValue := (represents.empty_test_iff bounded).mp empty
    exact (represents.empty_iff.mpr noValue).symm
  · rfl

/-- With 2^16 values the count is zero, and the list is taken for empty. -/
theorem listGetHead_wrapped
    (represents : RepresentsQueue memory queue nodes)
    (wrapped : queue.length = 65536) : listGetHead memory.list = none := by
  have zero : memory.list.count = 0 := by
    rw [represents.count, wrapped]
    rfl
  rw [listGetHead, if_pos (Or.inl zero)]

theorem listDelHead_empty (represents : RepresentsQueue memory [] nodes) :
    ∃ following, listDelHead memory = some (following, -1) ∧
      RepresentsQueue following [] nodes := by
  obtain ⟨held, locked⟩ :=
    LinkedList.lock_of_unlocked represents.unlocked
  have null := represents.empty_iff.mpr rfl
  let list : LinkedList := { memory.list with mutexHeld := held }
  refine ⟨{ memory with list := list.unlock }, ?_, ?_⟩
  · have empty : memory.list.count = 0 ∨ memory.list.pHead = none :=
      Or.inr null
    simp only [listDelHead, locked, Option.bind_eq_bind, Option.bind_some,
      empty, if_true]
    rfl
  · exact representsQueue_unlock represents.chain represents.args
      represents.live represents.tail represents.count

/-- The ends of a list from which one node has been taken. -/
def LinkedList.afterDelete (list : LinkedList) (next : Option Nat) :
    LinkedList :=
  if list.count - 1 = 0 then
    { list with pHead := none, pTail := none, count := list.count - 1 }
  else { list with pHead := next, count := list.count - 1 }

theorem LinkedList.afterDelete_pHead {list : LinkedList}
    {next : Option Nat} (emptied : list.count - 1 = 0 → next = none) :
    (list.afterDelete next).pHead = next := by
  unfold LinkedList.afterDelete
  split
  · rename_i zero
    exact (emptied zero).symm
  · rfl

theorem LinkedList.afterDelete_pTail {list : LinkedList}
    {next last : Option Nat} (emptied : list.count - 1 = 0 → last = none)
    (kept : list.count - 1 ≠ 0 → list.pTail = last) :
    (list.afterDelete next).pTail = last := by
  unfold LinkedList.afterDelete
  split
  · rename_i zero
    exact (emptied zero).symm
  · rename_i more
    exact kept more

theorem LinkedList.afterDelete_count (list : LinkedList)
    (next : Option Nat) :
    (list.afterDelete next).count = list.count - 1 := by
  unfold LinkedList.afterDelete
  split
  · rfl
  · rfl

theorem listDelHead_eq {head : Nat} {node : ListNode α}
    {heap : Heap (ListNode α)} {held : Bool}
    (locked : memory.list.lock = some { memory.list with mutexHeld := held })
    (counted : memory.list.count ≠ 0)
    (starts : memory.list.pHead = some head)
    (live : memory.heap.read head = some node)
    (freed : memory.heap.free head = some heap) :
    listDelHead memory = some
      ({ list := (LinkedList.afterDelete
            { memory.list with mutexHeld := held } node.next).unlock
         heap }, 0) := by
  simp only [listDelHead, locked, Option.bind_eq_bind, Option.bind_some,
    counted, starts, live, freed, reduceCtorEq, or_false, if_false,
    LinkedList.afterDelete]

theorem listDelHead_represents {arg : α} {first : Nat × ListNode α}
    (represents : RepresentsQueue memory (arg :: queue) (first :: nodes))
    (bounded : (arg :: queue).length < 65536) :
    ∃ following, listDelHead memory = some (following, 0) ∧
      RepresentsQueue following queue nodes := by
  obtain ⟨held, locked⟩ :=
    LinkedList.lock_of_unlocked represents.unlocked
  obtain ⟨starts, live, rest⟩ := represents.chain
  have counted : memory.list.count ≠ 0 := by
    rw [Ne, represents.count_zero_iff bounded]
    exact List.cons_ne_nil arg queue
  have args : nodes.map (fun node => node.2.arg) = queue :=
    (List.cons.inj represents.args).2
  have countLess : memory.list.count - 1 = UInt16.ofNat queue.length := by
    rw [represents.count, List.length_cons, UInt16.ofNat_add]
    exact UInt16.add_sub_cancel _ _
  have lastGone : memory.list.count - 1 = 0 ↔ nodes = [] := by
    have less : queue.length < 65536 := by
      rw [List.length_cons] at bounded
      omega
    rw [countLess, ← UInt16.toNat_inj, UInt16.toNat_ofNat',
      Nat.mod_eq_of_lt less, ← args, List.length_map]
    exact List.length_eq_zero_iff
  have elsewhere : ∀ address ∈ addresses nodes, address ≠ first.1 := by
    intro address member same
    have nodup := represents.chain.nodup
    rw [same] at member
    exact (List.nodup_cons.mp nodup).1 member
  let list : LinkedList := { memory.list with mutexHeld := held }
  have head : (list.afterDelete first.2.next).pHead = first.2.next :=
    LinkedList.afterDelete_pHead fun zero =>
      rest.null_iff.mpr (lastGone.mp zero)
  have tail : (list.afterDelete first.2.next).pTail =
      (addresses nodes).getLast? := by
    apply LinkedList.afterDelete_pTail
    · intro zero
      rw [lastGone.mp zero]
      rfl
    · intro more
      cases nodes with
      | nil => exact absurd (lastGone.mpr rfl) more
      | cons second nodes => exact represents.tail
  have count : (list.afterDelete first.2.next).count =
      UInt16.ofNat queue.length :=
    (list.afterDelete_count first.2.next).trans countLess
  have chain : Chain ListNode.next (memory.heap.store first.1 none)
      (list.afterDelete first.2.next).pHead nodes := by
    rw [head]
    exact rest.congr fun address member =>
      Heap.read_store_other (elsewhere address member)
  have others : ∀ address,
      ((memory.heap.store first.1 none).read address).isSome ↔
        address ∈ addresses nodes := by
    intro address
    rw [Heap.live_store_none, represents.live, addresses, List.map_cons,
      List.mem_cons]
    constructor
    · intro kept
      exact kept.2.resolve_left kept.1
    · intro member
      exact ⟨elsewhere address member, Or.inr member⟩
  exact ⟨_, listDelHead_eq locked counted starts live
    (Heap.free_of_read live),
    representsQueue_unlock chain args others tail count⟩

/-- A represented queue below 2^16 values answers every call as a queue. -/
theorem isQueue_of_represents
    (represents : RepresentsQueue memory queue nodes)
    (bounded : queue.length < 65536) : IsQueue memory queue := by
  have head := listGetHead_represents represents bounded
  exact
    { stored :=
        ⟨nodes, represents.chain, represents.args, represents.live⟩
      oldest := by
        intro arg rest same
        cases nodes with
        | nil =>
            have noValue : queue = [] := represents.args.symm
            rw [noValue] at same
            cases same
        | cons first nodes =>
            refine ⟨first.1, first.2, head, represents.chain.2.1, ?_⟩
            have args := represents.args
            rw [same] at args
            exact (List.cons.inj args).1
      null := by
        rw [head, ← represents.chain.start_eq]
        exact represents.empty_iff
      deletes := by
        cases queue with
        | nil =>
            obtain ⟨following, deleted, _⟩ := listDelHead_empty represents
            exact ⟨following, -1, deleted, by simp⟩
        | cons arg queue =>
            cases nodes with
            | nil => exact absurd represents.args nofun
            | cons first nodes =>
                obtain ⟨following, deleted, _⟩ :=
                  listDelHead_represents represents bounded
                exact ⟨following, 0, deleted, by simp⟩
      inserts := by
        intro allocator arg
        obtain ⟨following, _, inserted, _⟩ :=
          listInsert_represents represents allocator arg
        exact ⟨following, inserted⟩ }

theorem not_isQueue_of_wrapped
    (represents : RepresentsQueue memory queue nodes)
    (wrapped : queue.length = 65536) : ¬IsQueue memory queue := by
  intro isQueue
  have empty := isQueue.null.mp (listGetHead_wrapped represents wrapped)
  rw [empty] at wrapped
  cases wrapped

/-! ## Runs -/

/-- The invariant of the runs that stay below the capacity. -/
def KeepsQueue (state : ListMemory α × List α) : Prop :=
  state.2.length < 65536 ∧ ∃ nodes, RepresentsQueue state.1 state.2 nodes

theorem KeepsQueue.isQueue {state : ListMemory α × List α}
    (keeps : KeepsQueue state) : IsQueue state.1 state.2 := by
  obtain ⟨bounded, nodes, represents⟩ := keeps
  exact isQueue_of_represents represents bounded

theorem ListInitialiser.keepsQueue (initialiser : ListInitialiser)
    (list : LinkedList) :
    KeepsQueue ((initialiser.memory list, []) : ListMemory α × List α) :=
  ⟨by simp, [], initialiser.represents list⟩

/-- What a step from a kept queue leads to: again a kept queue, or, after an
insertion into 2^16 - 1 values, one whose count has wrapped. -/
theorem listStep_cases {state following : ListMemory α × List α}
    {call : ListCall α} {emitted : List Empty} (keeps : KeepsQueue state)
    (stepped : listStep state call = some (following, emitted)) :
    (BelowCapacity state call ∧ KeepsQueue following) ∨
      (¬BelowCapacity state call ∧ ¬IsQueue following.1 following.2) := by
  obtain ⟨bounded, nodes, represents⟩ := keeps
  obtain ⟨memory, queue⟩ := state
  cases call with
  | insert allocator arg =>
      obtain ⟨inserted, extended, result, after⟩ :=
        listInsert_represents represents allocator arg
      simp only [listStep, result, Option.bind_eq_bind, Option.bind_some,
        Option.some.injEq, Prod.mk.injEq] at stepped
      obtain ⟨rfl, _⟩ := stepped
      simp only at bounded
      by_cases room : queue.length < 65535
      · refine Or.inl ⟨room, ?_, extended, after⟩
        rw [List.length_append, List.length_singleton]
        omega
      · refine Or.inr ⟨room, not_isQueue_of_wrapped after ?_⟩
        rw [List.length_append, List.length_singleton]
        omega
  | getHead =>
      simp only [listStep, Option.some.injEq, Prod.mk.injEq] at stepped
      obtain ⟨rfl, _⟩ := stepped
      exact Or.inl ⟨trivial, bounded, nodes, represents⟩
  | delHead =>
      refine Or.inl ⟨trivial, ?_⟩
      cases queue with
      | nil =>
          obtain ⟨deleted, result, after⟩ := listDelHead_empty represents
          simp only [listStep, result, Option.bind_eq_bind, Option.bind_some,
            Option.some.injEq, Prod.mk.injEq] at stepped
          obtain ⟨rfl, _⟩ := stepped
          exact ⟨bounded, nodes, after⟩
      | cons arg queue =>
          cases nodes with
          | nil => exact absurd represents.args nofun
          | cons first nodes =>
              obtain ⟨deleted, result, after⟩ :=
                listDelHead_represents represents bounded
              simp only [listStep, result, Option.bind_eq_bind,
                Option.bind_some, Option.some.injEq, Prod.mk.injEq] at stepped
              obtain ⟨rfl, _⟩ := stepped
              exact ⟨Nat.lt_of_succ_lt bounded, nodes, after⟩

theorem keepsQueue_step {state following : ListMemory α × List α}
    {call : ListCall α} {emitted : List Empty} (keeps : KeepsQueue state)
    (allowed : BelowCapacity state call)
    (stepped : listStep state call = some (following, emitted)) :
    KeepsQueue following := by
  cases listStep_cases keeps stepped with
  | inl kept => exact kept.2
  | inr wrapped => exact absurd allowed wrapped.1

theorem isQueue_step_iff {state following : ListMemory α × List α}
    {call : ListCall α} {emitted : List Empty} (keeps : KeepsQueue state)
    (stepped : listStep state call = some (following, emitted)) :
    IsQueue following.1 following.2 ↔ BelowCapacity state call := by
  cases listStep_cases keeps stepped with
  | inl kept => exact iff_of_true kept.2.isQueue kept.1
  | inr wrapped => exact iff_of_false wrapped.2 wrapped.1

theorem along_isQueue_iff {state : ListMemory α × List α}
    (keeps : KeepsQueue state) (calls : List (ListCall α)) :
    (listMachine α).Along (fun state => IsQueue state.1 state.2) state calls ↔
      (listMachine α).Takes BelowCapacity state calls :=
  @Machine.along_iff_takes_allowed _ _ _ (listMachine α) BelowCapacity
    KeepsQueue (fun state => IsQueue state.1 state.2)
    (fun _ _ _ _ keeps allowed stepped =>
      keepsQueue_step keeps allowed stepped)
    (fun _ _ _ _ keeps _ stepped => isQueue_step_iff keeps stepped)
    _ keeps keeps.isQueue calls

/-- After either initialisation the list is a queue in every state of a run
exactly when every insertion of the run meets fewer than 2^16 - 1 values. -/
theorem linkedList_isQueue_iff (initialiser : ListInitialiser)
    (list : LinkedList) (calls : List (ListCall α)) :
    (listMachine α).Along (fun state => IsQueue state.1 state.2)
        (initialiser.memory list, []) calls ↔
      (listMachine α).Takes BelowCapacity
        (initialiser.memory list, []) calls :=
  along_isQueue_iff (initialiser.keepsQueue list) calls

theorem replicate_insert_takes {state : ListMemory α × List α}
    (keeps : KeepsQueue state) (allocator : Heap.Allocator (ListNode α))
    (arg : α) (count : Nat)
    (takes : (listMachine α).Takes BelowCapacity state
      (List.replicate count (.insert allocator arg))) :
    state.2.length + count < 65536 := by
  induction count generalizing state with
  | zero => exact keeps.1
  | succ count induction =>
      obtain ⟨nodes, represents⟩ := keeps.2
      obtain ⟨inserted, extended, result, after⟩ :=
        listInsert_represents represents allocator arg
      have stepped : listStep state (.insert allocator arg) =
          some ((inserted, state.2 ++ [arg]), []) := by
        simp only [listStep, result, Option.bind_eq_bind, Option.bind_some]
      obtain ⟨allowed, rest⟩ := takes _ _ stepped
      have bound := induction (keepsQueue_step keeps allowed stepped) rest
      rw [List.length_append, List.length_singleton] at bound
      omega

end Calls

/-- A list object as the stack leaves it. -/
def clearedList : LinkedList :=
  { pHead := none
    pTail := none
    count := 0
    mutexOpt := false
    mutexHeld := false }

theorem fullList_not_queue :
    ¬∀ (initialiser : ListInitialiser) (list : LinkedList)
        (calls : List (ListCall Nat)),
      (listMachine Nat).Along (fun state => IsQueue state.1 state.2)
        (initialiser.memory list, []) calls := by
  intro claimed
  let calls : List (ListCall Nat) :=
    List.replicate 65536 (.insert Heap.Allocator.bump 7)
  have keeps : KeepsQueue ((ListInitialiser.listInitThread.memory clearedList,
      []) : ListMemory Nat × List Nat) :=
    ListInitialiser.keepsQueue .listInitThread clearedList
  have takes := (along_isQueue_iff keeps calls).mp
    (claimed .listInitThread clearedList calls)
  have bound := replicate_insert_takes keeps Heap.Allocator.bump 7 65536 takes
  exact absurd bound (Nat.not_lt.mpr (Nat.le_add_left 65536 _))

end RtA100
