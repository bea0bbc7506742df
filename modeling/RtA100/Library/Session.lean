/-!
# Programs that call a service

A session makes calls, and its environment answers each of them, knowing every
call and answer before.  A session ends with a value, or leaves early with an
exit code.

`Session.Meets` says what a session adds to the history: `goes` when it ends
with a value, `exits` when it leaves.  There is one rule for each constructor
and one for loops.
-/

namespace Library

abbrev History (Call Answer : Type) := List (Call × Answer)

abbrev Environment (Call Answer : Type) :=
  History Call Answer → Call → Answer

def Session (Call Answer Exit α : Type) : Type :=
  Environment Call Answer → History Call Answer →
    Except Exit α × History Call Answer

namespace Session

variable {Call Answer Exit α β : Type}

def bind (session : Session Call Answer Exit α)
    (next : α → Session Call Answer Exit β) :
    Session Call Answer Exit β :=
  fun environment history =>
    match session environment history with
    | (.ok value, later) => next value environment later
    | (.error code, later) => (.error code, later)

instance : Monad (Session Call Answer Exit) where
  pure value := fun _ history => (.ok value, history)
  bind := Session.bind

/-- Make a call. -/
def call (request : Call) : Session Call Answer Exit Answer :=
  fun environment history =>
    (.ok (environment history request),
      history ++ [(request, environment history request)])

/-- Leave with a code. -/
def exit (code : Exit) : Session Call Answer Exit α :=
  fun _ history => (.error code, history)

/-- Run `body` for so many numbers, the given one first. -/
def forNumbers (body : Nat → Session Call Answer Exit Unit) :
    Nat → Nat → Session Call Answer Exit Unit
  | 0, _ => pure ()
  | remaining + 1, number => do
      body number
      forNumbers body remaining (number + 1)

/-- What a session adds to any history in any environment. -/
def Meets (session : Session Call Answer Exit α)
    (goes : History Call Answer → α → Prop)
    (exits : History Call Answer → Exit → Prop) : Prop :=
  ∀ environment history, ∃ calls,
    (∃ value, session environment history = (.ok value, history ++ calls) ∧
      goes calls value) ∨
    ∃ code, session environment history = (.error code, history ++ calls) ∧
      exits calls code

variable {goes : History Call Answer → α → Prop}
  {exits : History Call Answer → Exit → Prop}

theorem meets_pure {value : α} (holds : goes [] value) :
    (pure value : Session Call Answer Exit α).Meets goes exits := by
  intro environment history
  refine ⟨[], Or.inl ⟨value, ?_, holds⟩⟩
  rw [List.append_nil]
  rfl

theorem meets_exit {code : Exit} (holds : exits [] code) :
    (exit code : Session Call Answer Exit α).Meets goes exits := by
  intro environment history
  refine ⟨[], Or.inr ⟨code, ?_, holds⟩⟩
  rw [List.append_nil]
  rfl

theorem meets_call (request : Call) :
    (call request : Session Call Answer Exit Answer).Meets
      (fun calls answer => calls = [(request, answer)]) exits := by
  intro environment history
  exact ⟨[(request, environment history request)], Or.inl ⟨_, rfl, rfl⟩⟩

/-- The second session starts with what the first one has added. -/
theorem meets_bind {session : Session Call Answer Exit α}
    {next : α → Session Call Answer Exit β}
    {middle : History Call Answer → α → Prop}
    {ends : History Call Answer → β → Prop}
    (first : session.Meets middle exits)
    (second : ∀ calls value, middle calls value →
      (next value).Meets (fun more => ends (calls ++ more))
        (fun more => exits (calls ++ more))) :
    (session >>= next).Meets ends exits := by
  intro environment history
  change ∃ calls,
    (∃ value, session.bind next environment history = _ ∧ _) ∨
      ∃ code, session.bind next environment history = _ ∧ _
  obtain ⟨calls, ended⟩ := first environment history
  cases ended with
  | inl went =>
      obtain ⟨value, result, holds⟩ := went
      obtain ⟨more, ended⟩ :=
        second calls value holds environment (history ++ calls)
      refine ⟨calls ++ more, ?_⟩
      simp only [Session.bind, result]
      rw [← List.append_assoc]
      exact ended
  | inr left =>
      obtain ⟨code, result, holds⟩ := left
      refine ⟨calls, Or.inr ⟨code, ?_, holds⟩⟩
      simp only [Session.bind, result]

theorem meets_mono {session : Session Call Answer Exit α}
    {ends : History Call Answer → α → Prop}
    {leaves : History Call Answer → Exit → Prop}
    (meets : session.Meets goes exits)
    (goesOn : ∀ calls value, goes calls value → ends calls value)
    (exitsOn : ∀ calls code, exits calls code → leaves calls code) :
    session.Meets ends leaves := by
  intro environment history
  obtain ⟨calls, ended⟩ := meets environment history
  refine ⟨calls, ?_⟩
  cases ended with
  | inl went =>
      obtain ⟨value, result, holds⟩ := went
      exact Or.inl ⟨value, result, goesOn _ _ holds⟩
  | inr left =>
      obtain ⟨code, result, holds⟩ := left
      exact Or.inr ⟨code, result, exitsOn _ _ holds⟩

/-! ## A kind of calls that all steps keep to -/

/-- The calls all satisfy `keeps` if the session ends with a value. -/
def Keeps (keeps : Call × Answer → Prop)
    (exits : History Call Answer → Exit → Prop)
    (session : Session Call Answer Exit α) : Prop :=
  session.Meets (fun calls _ => ∀ made ∈ calls, keeps made) exits

variable {keeps : Call × Answer → Prop}

/-- What holds of some calls still holds with calls of the kind in front. -/
def Prepends {γ : Type} (keeps : Call × Answer → Prop)
    (holds : History Call Answer → γ → Prop) : Prop :=
  ∀ calls more value, (∀ made ∈ calls, keeps made) → holds more value →
    holds (calls ++ more) value

theorem keeps_pure (value : α) :
    Keeps keeps exits (pure value : Session Call Answer Exit α) :=
  meets_pure nofun

/-- A session behind calls of the kind. -/
theorem meets_after_keeps {ends : History Call Answer → β → Prop}
    (prependsEnd : Prepends keeps ends) (prependsExit : Prepends keeps exits)
    {session : Session Call Answer Exit α}
    {next : α → Session Call Answer Exit β}
    (first : Keeps keeps exits session)
    (second : ∀ value, (next value).Meets ends exits) :
    (session >>= next).Meets ends exits := by
  refine meets_bind first fun calls value kept => ?_
  exact meets_mono (second value)
    (fun more ended holds => prependsEnd calls more ended kept holds)
    (fun more code leaves => prependsExit calls more code kept leaves)

theorem keeps_bind (prepends : Prepends keeps exits)
    {session : Session Call Answer Exit α}
    {next : α → Session Call Answer Exit β}
    (first : Keeps keeps exits session)
    (second : ∀ value, Keeps keeps exits (next value)) :
    Keeps keeps exits (session >>= next) := by
  refine meets_after_keeps ?_ prepends first second
  intro calls more _ kept keptToo made member
  cases List.mem_append.mp member with
  | inl earlier => exact kept made earlier
  | inr later => exact keptToo made later

theorem keeps_forNumbers (prepends : Prepends keeps exits)
    {body : Nat → Session Call Answer Exit Unit}
    (each : ∀ number, Keeps keeps exits (body number)) (remaining : Nat) :
    ∀ number, Keeps keeps exits (forNumbers body remaining number) := by
  induction remaining with
  | zero => exact fun _ => keeps_pure ()
  | succ remaining induction =>
      intro number
      exact keeps_bind prepends (each number) fun _ => induction (number + 1)

end Session

end Library
