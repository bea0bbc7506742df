/-!
# Bounded first-in-first-out queues

The abstract queue is the list of values accepted and not yet returned, oldest
first.  `Answers` says what one call may answer there, and `Explains` that a
whole history of answered calls is one of the abstract queue; an implementation
refines the queue when `Explains` holds of every history it produces.
-/

namespace Library.Fifo

universe u

variable {α : Type u}

inductive Call (α : Type u) where
  | put (value : α)
  | take

inductive Answer (α : Type u) where
  | accepted
  | full
  | returned (value : α)
  | empty

/-- What a queue of `capacity` values that holds `pending` answers to a call,
and what it holds afterwards. -/
inductive Answers (capacity : Nat) :
    List α → Call α → Answer α → List α → Prop where
  | accepted {pending : List α} (value : α) :
      pending.length < capacity →
      Answers capacity pending (.put value) .accepted (pending ++ [value])
  | full {pending : List α} (value : α) :
      pending.length = capacity →
      Answers capacity pending (.put value) .full pending
  | returned (value : α) (rest : List α) :
      Answers capacity (value :: rest) .take (.returned value) rest
  | empty : Answers capacity [] .take .empty []

/-- A history of answered calls, from the empty queue to `pending`. -/
inductive Explains (capacity : Nat) :
    List (Call α × Answer α) → List α → Prop where
  | start : Explains capacity [] []
  | next {history : List (Call α × Answer α)} {pending following : List α}
      {call : Call α} {answer : Answer α} :
      Explains capacity history pending →
      Answers capacity pending call answer following →
      Explains capacity (history ++ [(call, answer)]) following

def acceptedValues (history : List (Call α × Answer α)) : List α :=
  history.filterMap fun answered =>
    match answered with
    | (.put value, .accepted) => some value
    | _ => none

def returnedValues (history : List (Call α × Answer α)) : List α :=
  history.filterMap fun answered =>
    match answered with
    | (_, .returned value) => some value
    | _ => none

variable {capacity : Nat} {history : List (Call α × Answer α)}
  {pending : List α}

theorem Explains.bounded (explains : Explains capacity history pending) :
    pending.length ≤ capacity := by
  induction explains with
  | start => simp
  | next _ answers bounded =>
      cases answers with
      | accepted value room =>
          simp only [List.length_append, List.length_singleton]
          omega
      | full value _ => exact bounded
      | returned value rest =>
          simp only [List.length_cons] at bounded
          omega
      | empty => exact bounded

/-- Every accepted value has been returned, in the order of acceptance, or is
still pending. -/
theorem Explains.conserved (explains : Explains capacity history pending) :
    acceptedValues history = returnedValues history ++ pending := by
  induction explains with
  | start => rfl
  | next _ answers conserved =>
      simp only [acceptedValues, returnedValues, List.filterMap_append] at *
      cases answers with
      | accepted value _ => simp [conserved]
      | full value _ => simp [conserved]
      | returned value rest => simp [conserved]
      | empty => simp [conserved]

end Library.Fifo
