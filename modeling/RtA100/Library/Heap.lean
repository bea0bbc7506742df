/-!
# Heaps of cells and chains through them

A heap gives a cell to each of finitely many live addresses.  Access to an
address that is not live is `none`, so a computation that ends in `some` has
neither read, written nor freed a dead cell.  An allocator is any choice of
addresses that are not live.

`Chain` is the list of the nodes met on the way from a start pointer to the
null pointer.  A start pointer determines its chain, so no address is met
twice.
-/

namespace Library

universe u

/-- Cells of one type, below a bound. -/
structure Heap (Cell : Type u) where
  cells : Nat → Option Cell
  bound : Nat
  beyond : ∀ address, bound ≤ address → cells address = none

namespace Heap

variable {Cell : Type u}

def empty : Heap Cell :=
  { cells := fun _ => none
    bound := 0
    beyond := fun _ _ => rfl }

def read (heap : Heap Cell) (address : Nat) : Option Cell := heap.cells address

/-- The heap with the content of one address replaced. -/
def store (heap : Heap Cell) (address : Nat) (content : Option Cell) :
    Heap Cell :=
  { cells := fun other =>
      if other = address then content else heap.cells other
    bound := max heap.bound (address + 1)
    beyond := by
      intro other outside
      have different : other ≠ address := by omega
      rw [if_neg different]
      exact heap.beyond other (by omega) }

/-- Write to a live cell. -/
def write (heap : Heap Cell) (address : Nat) (cell : Cell) :
    Option (Heap Cell) :=
  if (heap.read address).isSome then
    some (heap.store address (some cell))
  else none

/-- Free a live cell. -/
def free (heap : Heap Cell) (address : Nat) : Option (Heap Cell) :=
  if (heap.read address).isSome then some (heap.store address none)
  else none

/-- A way to choose the address of the next cell. -/
structure Allocator (Cell : Type u) where
  malloc : Heap Cell → Nat
  fresh : ∀ heap : Heap Cell, heap.read (malloc heap) = none

/-- The allocator that never reuses an address. -/
def Allocator.bump : Allocator Cell :=
  { malloc := fun heap => heap.bound
    fresh := fun heap => heap.beyond heap.bound (Nat.le_refl _) }

variable {heap following : Heap Cell} {address : Nat} {cell : Cell}

theorem read_store_same (heap : Heap Cell) (address : Nat)
    (content : Option Cell) :
    (heap.store address content).read address = content := if_pos rfl

theorem read_store_other {other : Nat} {content : Option Cell}
    (different : other ≠ address) :
    (heap.store address content).read other = heap.read other :=
  if_neg different

/-- A stored cell is live, and so is every cell that was. -/
theorem live_store_some {other : Nat} :
    ((heap.store address (some cell)).read other).isSome ↔
      other = address ∨ (heap.read other).isSome := by
  by_cases same : other = address
  · rw [same, read_store_same]
    exact iff_of_true rfl (Or.inl rfl)
  · rw [read_store_other same]
    exact (or_iff_right same).symm

/-- Only the freed cell is no longer live. -/
theorem live_store_none {other : Nat} :
    ((heap.store address none).read other).isSome ↔
      other ≠ address ∧ (heap.read other).isSome := by
  by_cases same : other = address
  · rw [same, read_store_same]
    exact iff_of_false Bool.false_ne_true fun live => live.1 rfl
  · rw [read_store_other same]
    exact (and_iff_right same).symm

theorem write_of_read {old : Cell} (live : heap.read address = some old) :
    heap.write address cell = some (heap.store address (some cell)) := by
  rw [write, live]
  rfl

theorem free_of_read (live : heap.read address = some cell) :
    heap.free address = some (heap.store address none) := by
  rw [free, live]
  rfl

end Heap

section Chains

variable {Cell : Type u} (next : Cell → Option Nat)

/-- Following `next` from `start` meets exactly `nodes`, then null. -/
def Chain (heap : Heap Cell) : Option Nat → List (Nat × Cell) → Prop
  | start, [] => start = none
  | start, node :: nodes =>
      start = some node.1 ∧ heap.read node.1 = some node.2 ∧
        Chain heap (next node.2) nodes

variable {next} {heap other : Heap Cell} {start : Option Nat}
  {nodes : List (Nat × Cell)}

/-- The addresses met. -/
def addresses (nodes : List (Nat × Cell)) : List Nat := nodes.map Prod.fst

theorem Chain.start_eq (chain : Chain next heap start nodes) :
    start = (addresses nodes).head? := by
  cases nodes with
  | nil => exact chain
  | cons node nodes => exact chain.1

theorem Chain.null_iff (chain : Chain next heap start nodes) :
    start = none ↔ nodes = [] := by
  cases nodes with
  | nil => exact iff_of_true chain rfl
  | cons node nodes =>
      refine iff_of_false ?_ (List.cons_ne_nil node nodes)
      rw [chain.1]
      exact nofun

/-- A chain only depends on the cells it meets. -/
theorem Chain.congr (chain : Chain next heap start nodes)
    (same : ∀ address ∈ addresses nodes,
      other.read address = heap.read address) :
    Chain next other start nodes := by
  induction nodes generalizing start with
  | nil => exact chain
  | cons node nodes induction =>
      obtain ⟨here, live, rest⟩ := chain
      refine ⟨here, ?_, induction rest fun address member =>
        same address (List.mem_cons_of_mem _ member)⟩
      rw [same node.1 List.mem_cons_self, live]

theorem Chain.read (chain : Chain next heap start nodes)
    {node : Nat × Cell} (member : node ∈ nodes) :
    heap.read node.1 = some node.2 := by
  induction nodes generalizing start with
  | nil => exact absurd member List.not_mem_nil
  | cons first nodes induction =>
      obtain ⟨_, live, rest⟩ := chain
      cases List.mem_cons.mp member with
      | inl here =>
          rw [here]
          exact live
      | inr later => exact induction rest later

theorem Chain.unique {others : List (Nat × Cell)}
    (chain : Chain next heap start nodes)
    (again : Chain next heap start others) : nodes = others := by
  induction nodes generalizing start others with
  | nil => exact (again.null_iff.mp chain).symm
  | cons node nodes induction =>
      obtain ⟨here, live, rest⟩ := chain
      cases others with
      | nil =>
          have null : start = none := again
          rw [null] at here
          cases here
      | cons first others =>
          obtain ⟨there, alive, remaining⟩ := again
          have sameAddress : node.1 = first.1 := by
            rw [here] at there
            exact Option.some.inj there
          have sameCell : node.2 = first.2 := by
            rw [sameAddress, alive] at live
            exact (Option.some.inj live).symm
          rw [sameCell] at rest
          rw [induction rest remaining, Prod.ext sameAddress sameCell]

theorem Chain.suffix {before after : List (Nat × Cell)} {node : Nat × Cell}
    (chain : Chain next heap start (before ++ node :: after)) :
    Chain next heap (some node.1) (node :: after) := by
  induction before generalizing start with
  | nil =>
      obtain ⟨_, live, rest⟩ := chain
      exact ⟨rfl, live, rest⟩
  | cons first before induction => exact induction chain.2.2

/-- No address is met twice. -/
theorem Chain.nodup (chain : Chain next heap start nodes) :
    (addresses nodes).Nodup := by
  induction nodes generalizing start with
  | nil => exact List.nodup_nil
  | cons node nodes induction =>
      refine List.nodup_cons.mpr ⟨?_, induction chain.2.2⟩
      intro member
      obtain ⟨again, inside, same⟩ := List.mem_map.mp member
      obtain ⟨before, after, split⟩ := List.append_of_mem inside
      have fromHere : Chain next heap (some node.1) (node :: nodes) :=
        ⟨rfl, chain.2⟩
      have fromThere : Chain next heap (some again.1) (again :: after) := by
        have rest := chain.2.2
        rw [split] at rest
        exact rest.suffix
      rw [same] at fromThere
      have lengths := congrArg List.length (fromHere.unique fromThere)
      simp only [split, List.length_cons, List.length_append] at lengths
      omega

/-- A new cell behind the last one: the last cell now points to it. -/
theorem Chain.snoc {last fresh : Nat} {old linked new : Cell}
    (chain : Chain next heap start (nodes ++ [(last, old)]))
    (same : ∀ address ∈ addresses nodes,
      other.read address = heap.read address)
    (rewritten : other.read last = some linked)
    (links : next linked = some fresh)
    (allocated : other.read fresh = some new)
    (ends : next new = none) :
    Chain next other start (nodes ++ [(last, linked), (fresh, new)]) := by
  induction nodes generalizing start with
  | nil => exact ⟨chain.1, rewritten, links, allocated, ends⟩
  | cons node nodes induction =>
      obtain ⟨here, live, rest⟩ := chain
      refine ⟨here, ?_, induction rest fun address member =>
        same address (List.mem_cons_of_mem _ member)⟩
      rw [same node.1 List.mem_cons_self, live]

end Chains

end Library
