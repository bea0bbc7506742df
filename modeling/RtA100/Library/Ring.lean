/-!
# Ring buffers as bounded queues

A ring of `size` slots with one slot kept free stores at most `size - 1`
values.  `Holds` says that the slots from `tail` on store a list of values; the
lemmas below are the only place where wrapping indices are compared.
-/

namespace Library.Ring

universe u

variable {α : Type u} {size tail : Nat}

/-- The position reached by walking `offset` slots from `tail`. -/
def position (size tail offset : Nat) : Nat := (tail + offset) % size

/-- The slots of a ring from `tail` on store exactly `contents`. -/
def Holds (stores : Nat → α → Prop) (size tail : Nat)
    (contents : List α) : Prop :=
  ∀ (offset : Nat) (inside : offset < contents.length),
    stores (position size tail offset) contents[offset]

theorem position_lt (positive : 0 < size) (offset : Nat) :
    position size tail offset < size :=
  Nat.mod_lt _ positive

theorem position_zero (inside : tail < size) : position size tail 0 = tail := by
  simp [position, Nat.mod_eq_of_lt inside]

theorem position_succ (offset : Nat) :
    (position size tail offset + 1) % size =
      position size tail (offset + 1) := by
  simp [position, Nat.add_assoc]

theorem position_step (offset : Nat) :
    position size ((tail + 1) % size) offset =
      position size tail (offset + 1) := by
  simp only [position, Nat.mod_add_mod]
  congr 1
  omega

/-- Fewer than `size` steps from one slot lead to distinct slots. -/
theorem position_injective {first second : Nat}
    (firstInside : first < size) (secondInside : second < size)
    (same : position size tail first = position size tail second) :
    first = second := by
  unfold position at same
  have firstSplit := Nat.div_add_mod (tail + first) size
  have secondSplit := Nat.div_add_mod (tail + second) size
  rw [same] at firstSplit
  rcases Nat.lt_trichotomy ((tail + first) / size)
      ((tail + second) / size) with less | equal | greater
  · have gap : size * ((tail + first) / size) + size ≤
        size * ((tail + second) / size) := by
      rw [← Nat.mul_succ]
      exact Nat.mul_le_mul_left size less
    omega
  · rw [equal] at firstSplit
    omega
  · have gap : size * ((tail + second) / size) + size ≤
        size * ((tail + first) / size) := by
      rw [← Nat.mul_succ]
      exact Nat.mul_le_mul_left size greater
    omega

/-- The writing position meets `tail` exactly when nothing is stored. -/
theorem position_eq_tail_iff {count : Nat} (inside : tail < size)
    (count_lt : count < size) :
    tail = position size tail count ↔ count = 0 := by
  constructor
  · intro meets
    have zero : position size tail 0 = position size tail count :=
      (position_zero inside).trans meets
    exact (position_injective (by omega) count_lt zero).symm
  · rintro rfl
    exact (position_zero inside).symm

/-- The slot after the writing position is `tail` exactly when all but one of
the slots are in use. -/
theorem next_eq_tail_iff {count : Nat} (inside : tail < size)
    (count_lt : count < size) :
    position size tail (count + 1) = tail ↔ count + 1 = size := by
  constructor
  · intro meets
    by_cases last : count + 1 = size
    · exact last
    · have shorter : count + 1 < size := by omega
      have zero := (position_eq_tail_iff inside shorter).mp meets.symm
      omega
  · intro last
    rw [last]
    simp [position, Nat.mod_eq_of_lt inside]

theorem holds_nil (stores : Nat → α → Prop) :
    Holds stores size tail [] := by
  intro offset inside
  simp at inside

/-- Writing the next free slot and leaving the others alone appends a value. -/
theorem Holds.push {stores stores' : Nat → α → Prop} {contents : List α}
    {value : α} (holds : Holds stores size tail contents)
    (room : contents.length < size)
    (kept : ∀ index stored,
      index ≠ position size tail contents.length →
      stores index stored → stores' index stored)
    (written : stores' (position size tail contents.length) value) :
    Holds stores' size tail (contents ++ [value]) := by
  intro offset inside
  simp only [List.length_append, List.length_singleton] at inside
  by_cases old : offset < contents.length
  · rw [List.getElem_append_left old]
    apply kept _ _ _ (holds offset old)
    intro same
    have equal := position_injective (by omega) room same
    omega
  · have last : offset = contents.length := by omega
    subst last
    rw [List.getElem_concat_length rfl]
    exact written

/-- The oldest value is stored at `tail`. -/
theorem Holds.oldest {stores : Nat → α → Prop} {value : α} {rest : List α}
    (holds : Holds stores size tail (value :: rest)) (inside : tail < size) :
    stores tail value := by
  have stored := holds 0 (by simp)
  simpa [position_zero inside] using stored

/-- Moving `tail` one slot on drops the oldest value. -/
theorem Holds.pop {stores : Nat → α → Prop} {value : α} {rest : List α}
    (holds : Holds stores size tail (value :: rest)) :
    Holds stores size ((tail + 1) % size) rest := by
  intro offset inside
  have stored := holds (offset + 1) (by simpa using inside)
  rw [position_step]
  simpa using stored

end Library.Ring
