import RtA100.Library.Search

/-!
# Assembling the body of a response

For every piece of the body that curl delivers, `post_write_callback` sizes the
response with `strlen` and copies the piece to its beginning.  So the pieces
replace one another, and the copy ends at the first zero in memory, wherever
the piece ends.
-/

namespace RtA100

open Library

/-- A piece of the body, what stands behind it in memory up to where reading is
no longer defined, and whether `realloc` returns memory for it. -/
structure Delivery where
  contents : CString
  nonempty : contents ≠ []
  behind : CString
  allocated : Bool

/-- What `strlen` and `strcpy` read. -/
def Delivery.memory (delivery : Delivery) : CString :=
  delivery.contents ++ delivery.behind

/-- What a call of `post_write_callback` leaves in the response. -/
def Delivery.stored (delivery : Delivery) : Option CString :=
  if delivery.allocated then some (untilNul delivery.memory) else none

/-- `post_write_callback`: the response and the number of bytes it reports.  It
is not defined where no zero ends the string. -/
def postWriteCallback (delivery : Delivery) (_response : Option CString) :
    Option (Option CString × Nat) :=
  if '\x00' ∈ delivery.memory then
    some (delivery.stored, delivery.contents.length)
  else none

/-- The calls of the callback in `curl_easy_perform`, which gives up when one
reports another number of bytes. -/
def curlDeliver :
    List Delivery → Option CString → Option (Bool × Option CString)
  | [], response => some (true, response)
  | delivery :: deliveries, response =>
      match postWriteCallback delivery response with
      | none => none
      | some (following, reported) =>
          if reported = delivery.contents.length then
            curlDeliver deliveries following
          else some (false, following)

/-- `http_post_request`: its result and the response.  `initialised` and
`completed` are the results of curl. -/
def httpPostRequest (initialised completed : Bool)
    (deliveries : List Delivery) (response : Option CString) :
    Option (Int × Option CString) :=
  if initialised then
    match curlDeliver deliveries response with
    | none => none
    | some (accepted, following) =>
        if accepted ∧ completed then some (0, following)
        else some (-1, following)
  else some (-1, response)

/-! ## Whole bodies -/

def responseBody (deliveries : List Delivery) : CString :=
  (deliveries.map Delivery.contents).flatten

/-- A request that ends without an error returns the body. -/
def AssembledWhole (deliveries : List Delivery) : Prop :=
  httpPostRequest true true deliveries none =
    some (0, some (responseBody deliveries))

/-- Every piece is followed by a zero, and the last one, up to that zero, reads
as the body. -/
structure LastReadsWhole (deliveries : List Delivery) : Prop where
  terminated : ∀ delivery ∈ deliveries, '\x00' ∈ delivery.memory
  last : ∃ delivery, deliveries.getLast? = some delivery ∧
    delivery.allocated = true ∧ '\x00' ∉ delivery.contents ∧
      delivery.contents ++ untilNul delivery.behind = responseBody deliveries

/-- What the deliveries leave in the response. -/
def lastStored : List Delivery → Option CString → Option CString
  | [], response => response
  | delivery :: deliveries, _ => lastStored deliveries delivery.stored

theorem lastStored_getLast {deliveries : List Delivery} {delivery : Delivery}
    (last : deliveries.getLast? = some delivery) (response : Option CString) :
    lastStored deliveries response = delivery.stored := by
  induction deliveries generalizing response with
  | nil => cases last
  | cons first others induction =>
      cases others with
      | nil =>
          cases last
          rfl
      | cons second others =>
          rw [List.getLast?_cons_cons] at last
          exact induction last first.stored

theorem postWriteCallback_terminated {delivery : Delivery}
    (terminated : '\x00' ∈ delivery.memory) (response : Option CString) :
    postWriteCallback delivery response =
      some (delivery.stored, delivery.contents.length) :=
  if_pos terminated

theorem postWriteCallback_unterminated {delivery : Delivery}
    (unterminated : '\x00' ∉ delivery.memory) (response : Option CString) :
    postWriteCallback delivery response = none :=
  if_neg unterminated

/-- All strings end, and only the last piece counts. -/
theorem curlDeliver_eq_some_iff {deliveries : List Delivery}
    {response : Option CString} {outcome : Bool × Option CString} :
    curlDeliver deliveries response = some outcome ↔
      (∀ delivery ∈ deliveries, '\x00' ∈ delivery.memory) ∧
        (true, lastStored deliveries response) = outcome := by
  induction deliveries generalizing response with
  | nil =>
      rw [curlDeliver, Option.some.injEq]
      exact ⟨fun same => ⟨nofun, same⟩, fun same => same.2⟩
  | cons delivery deliveries induction =>
      rw [List.forall_mem_cons, lastStored, and_assoc, curlDeliver]
      by_cases terminated : '\x00' ∈ delivery.memory
      · rw [postWriteCallback_terminated terminated]
        simp only [if_true, terminated, true_and]
        exact induction
      · rw [postWriteCallback_unterminated terminated]
        exact ⟨nofun, fun all => absurd all.1 terminated⟩

theorem httpPostRequest_eq_zero_iff {deliveries : List Delivery}
    {response following : Option CString} :
    httpPostRequest true true deliveries response = some (0, following) ↔
      curlDeliver deliveries response = some (true, following) := by
  unfold httpPostRequest
  rw [if_pos rfl]
  cases curlDeliver deliveries response with
  | none => exact ⟨nofun, nofun⟩
  | some outcome =>
      obtain ⟨accepted, stored⟩ := outcome
      cases accepted with
      | false => simp
      | true => simp

/-- The last piece counts. -/
theorem lastStored_eq_some_iff {deliveries : List Delivery}
    {body : CString} :
    lastStored deliveries none = some body ↔
      ∃ delivery, deliveries.getLast? = some delivery ∧
        delivery.stored = some body := by
  cases last : deliveries.getLast? with
  | none =>
      rw [List.getLast?_eq_none_iff.mp last]
      exact ⟨nofun, fun ⟨_, found, _⟩ => nomatch found⟩
  | some delivery =>
      rw [lastStored_getLast last]
      constructor
      · intro stored
        exact ⟨delivery, rfl, stored⟩
      · rintro ⟨other, found, stored⟩
        cases found
        exact stored

theorem Delivery.stored_eq_some_iff {delivery : Delivery} {body : CString} :
    delivery.stored = some body ↔
      delivery.allocated = true ∧ untilNul delivery.memory = body := by
  unfold Delivery.stored
  cases delivery.allocated with
  | false => exact ⟨nofun, fun both => nomatch both.1⟩
  | true => simp

theorem length_le_responseBody {deliveries : List Delivery}
    {delivery : Delivery} (member : delivery ∈ deliveries) :
    delivery.contents.length ≤ (responseBody deliveries).length :=
  (List.infix_of_mem_flatten (List.mem_map_of_mem member)).length_le

/-- A string that is no shorter than the piece has no zero in the piece. -/
theorem Delivery.untilNul_eq_iff {delivery : Delivery} {body : CString}
    (long : delivery.contents.length ≤ body.length) :
    untilNul delivery.memory = body ↔
      '\x00' ∉ delivery.contents ∧
        delivery.contents ++ untilNul delivery.behind = body := by
  by_cases zero : '\x00' ∈ delivery.contents
  · obtain ⟨front, rest, cut, free⟩ := List.eq_append_cons_of_mem zero
    refine ⟨fun same => ?_, fun both => absurd zero both.1⟩
    have short : untilNul delivery.memory = front := by
      unfold Delivery.memory untilNul
      rw [cut, List.append_assoc]
      exact takeWhile_stop (rest ++ delivery.behind) free
    rw [← same, short, cut, List.length_append, List.length_cons] at long
    omega
  · have split : untilNul delivery.memory =
        delivery.contents ++ untilNul delivery.behind :=
      List.takeWhile_append_of_pos (ne_of_not_mem zero)
    rw [split]
    exact ⟨fun same => ⟨zero, same⟩, fun both => both.2⟩

/-- A body is assembled whole exactly when all strings end and the last piece,
up to the zero behind it, reads as the body. -/
theorem assembledWhole_iff (deliveries : List Delivery) :
    AssembledWhole deliveries ↔ LastReadsWhole deliveries := by
  unfold AssembledWhole
  rw [httpPostRequest_eq_zero_iff, curlDeliver_eq_some_iff, Prod.mk.injEq,
    lastStored_eq_some_iff]
  constructor
  · rintro ⟨terminated, _, delivery, last, stored⟩
    have member := List.mem_of_getLast? last
    obtain ⟨allocated, reads⟩ := Delivery.stored_eq_some_iff.mp stored
    have whole := (Delivery.untilNul_eq_iff
      (length_le_responseBody member)).mp reads
    exact ⟨terminated, delivery, last, allocated, whole⟩
  · rintro ⟨terminated, delivery, last, allocated, whole⟩
    have member := List.mem_of_getLast? last
    have reads := (Delivery.untilNul_eq_iff
      (length_le_responseBody member)).mpr whole
    exact ⟨terminated, rfl, delivery, last,
      Delivery.stored_eq_some_iff.mpr ⟨allocated, reads⟩⟩

/-! ## Two pieces, and one without a terminator -/

def secondPiece : Delivery :=
  { contents := "c".toList
    nonempty := by decide
    behind := ['\x00']
    allocated := true }

def firstPiece : Delivery :=
  { contents := "ab".toList
    nonempty := by decide
    behind := ['\x00']
    allocated := true }

def openPiece : Delivery :=
  { contents := "ab".toList
    nonempty := by decide
    behind := ['x', '\x00']
    allocated := true }

theorem pieces_not_assembled :
    ¬AssembledWhole [firstPiece, secondPiece] ∧
      ¬AssembledWhole [openPiece] := by
  unfold AssembledWhole
  exact ⟨by decide, by decide⟩

end RtA100
