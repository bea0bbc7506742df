import RtA100.CloudEvent

/-!
# Dispatch in the cloud event loop

The cursor of the handler table is never set back, so a message is dispatched
by its sign exactly when the entry it needs has not been passed by an earlier
message.  `position` places a sign in the table, an unknown sign behind its last
entry, and the main theorem says that a run dispatches every message it accepts
exactly when the positions of the accepted signs never decrease.
-/

namespace RtA100

open Library

/-- Index of the first entry for a sign, or the length of the table. -/
def position (table : List MsgProcInf) (ucSign : UInt8) : Nat :=
  table.findIdx (fun entry => decide (entry.sign = ucSign))

/-- The message was handed once to every entry with its sign, and to no other
entry. -/
def DispatchedBySign (table : List MsgProcInf) (message : AcceptedMessage) :
    Prop :=
  message.called.Nodup ∧
    ∀ index, index ∈ message.called ↔
      ∃ entry, table[index]? = some entry ∧ entry.sign = message.ucSign

/-- The signs of the messages that pass the test, from the contents of the
receive buffer before the first message. -/
def acceptedSigns : Buffer 256 → List (List UInt8) → List UInt8
  | _, [] => []
  | buf, message :: messages =>
      match buf.memcpy message message.length with
      | none => []
      | some filled =>
          if cloudFrameTest filled.bytes = some true then
            signOf filled.bytes :: acceptedSigns filled messages
          else acceptedSigns filled messages

theorem position_le_length (table : List MsgProcInf) (ucSign : UInt8) :
    position table ucSign ≤ table.length :=
  List.findIdx_le_length

theorem position_cons (entry : MsgProcInf) (table : List MsgProcInf)
    (ucSign : UInt8) :
    position (entry :: table) ucSign =
      if entry.sign = ucSign then 0 else position table ucSign + 1 := by
  unfold position
  rw [List.findIdx_cons]
  by_cases same : entry.sign = ucSign
  · simp [same]
  · simp [same]

theorem position_lt_length_iff (table : List MsgProcInf) (ucSign : UInt8) :
    position table ucSign < table.length ↔
      ∃ entry ∈ table, entry.sign = ucSign := by
  unfold position
  rw [List.findIdx_lt_length]
  simp

theorem sign_at_position {table : List MsgProcInf} {ucSign : UInt8}
    (registered : position table ucSign < table.length) :
    table[position table ucSign].sign = ucSign := by
  have found := @List.findIdx_getElem _
    (fun entry : MsgProcInf => decide (entry.sign = ucSign)) table registered
  exact of_decide_eq_true found

theorem index_eq_position {table : List MsgProcInf}
    (distinct : (table.map MsgProcInf.sign).Nodup) {index : Nat}
    {entry : MsgProcInf} (there : table[index]? = some entry) :
    index = position table entry.sign := by
  obtain ⟨inside, entryEq⟩ := List.getElem?_eq_some_iff.mp there
  have registered : position table entry.sign < table.length :=
    (position_lt_length_iff table entry.sign).mpr
      ⟨entry, entryEq ▸ List.getElem_mem inside, rfl⟩
  have sameSign := sign_at_position registered
  have indexInside : index < (table.map MsgProcInf.sign).length := by
    simpa using inside
  apply (List.getElem?_inj indexInside distinct).mp
  simp [List.getElem?_eq_getElem inside,
    List.getElem?_eq_getElem registered, sameSign, entryEq]

theorem scanFrom_eq (entries : List MsgProcInf) (start : Nat)
    (ucSign : UInt8) :
    scanFrom entries start ucSign =
      (start + position entries ucSign,
        entries[position entries ucSign]?) := by
  induction entries generalizing start with
  | nil => simp [scanFrom, position]
  | cons entry entries induction =>
      rw [scanFrom, position_cons]
      by_cases same : entry.sign = ucSign
      · simp [same]
      · simp only [same, if_false, induction, List.getElem?_cons_succ,
          Prod.mk.injEq, and_true]
        omega

theorem position_split {table : List MsgProcInf} {start : Nat}
    (inside : start ≤ table.length) (ucSign : UInt8) :
    position table ucSign =
      if position (table.take start) ucSign < start then
        position (table.take start) ucSign
      else position (table.drop start) ucSign + start := by
  have split : table = table.take start ++ table.drop start :=
    (List.take_append_drop start table).symm
  have prefixLength : (table.take start).length = start := by
    simp [inside]
  unfold position
  conv =>
    lhs
    rw [split, List.findIdx_append, prefixLength]

theorem dispatch_found {table : List MsgProcInf} {start following : Nat}
    {ucSign : UInt8} {entry : MsgProcInf}
    (found : dispatch table start ucSign = (following, some entry)) :
    entry ∈ table ∧ entry.sign = ucSign := by
  rw [dispatch, scanFrom_eq, Prod.mk.injEq] at found
  obtain ⟨inside, entryEq⟩ := List.getElem?_eq_some_iff.mp found.2
  have sameSign := sign_at_position inside
  rw [entryEq] at sameSign
  exact ⟨List.mem_of_mem_drop (List.mem_of_getElem? found.2), sameSign⟩

theorem dispatch_ahead {table : List MsgProcInf} {start : Nat}
    {ucSign : UInt8} (inside : start ≤ table.length)
    (ahead : start ≤ position table ucSign) :
    dispatch table start ucSign =
      (position table ucSign, table[position table ucSign]?) := by
  have split := position_split inside ucSign
  have notBefore : ¬position (table.take start) ucSign < start := by
    intro before
    rw [if_pos before] at split
    omega
  rw [if_neg notBefore] at split
  rw [dispatch, scanFrom_eq, List.getElem?_drop, split, Nat.add_comm start]

/-- A sign already passed is not found again, and the cursor runs off the
table. -/
theorem dispatch_behind {table : List MsgProcInf} {start : Nat}
    {ucSign : UInt8} (distinct : (table.map MsgProcInf.sign).Nodup)
    (inside : start ≤ table.length)
    (behind : position table ucSign < start) :
    dispatch table start ucSign = (table.length, none) := by
  have absent : position (table.drop start) ucSign =
      (table.drop start).length := by
    have bound := position_le_length (table.drop start) ucSign
    apply Nat.le_antisymm bound
    apply Nat.le_of_not_lt
    intro registered
    have sameSign := sign_at_position registered
    have there : table[start + position (table.drop start) ucSign]? =
        some (table.drop start)[position (table.drop start) ucSign] := by
      rw [← List.getElem?_drop]
      exact List.getElem?_eq_getElem registered
    have again := index_eq_position distinct there
    rw [sameSign] at again
    omega
  rw [dispatch, scanFrom_eq, absent]
  simp only [List.length_drop, Prod.mk.injEq, List.getElem?_drop,
    List.getElem?_eq_none_iff]
  omega

theorem dispatchedBySign_nil {table : List MsgProcInf}
    {message : AcceptedMessage} (nothing : message.called = []) :
    DispatchedBySign table message ↔
      position table message.ucSign = table.length := by
  have bound := position_le_length table message.ucSign
  have registered := position_lt_length_iff table message.ucSign
  unfold DispatchedBySign
  rw [nothing]
  constructor
  · rintro ⟨_, exact⟩
    apply Nat.le_antisymm bound
    apply Nat.le_of_not_lt
    intro known
    obtain ⟨entry, member, same⟩ := registered.mp known
    obtain ⟨index, inside, entryEq⟩ := List.getElem_of_mem member
    have called := (exact index).mpr
      ⟨entry, by rw [List.getElem?_eq_getElem inside, entryEq], same⟩
    exact absurd called List.not_mem_nil
  · intro unknown
    refine ⟨List.nodup_nil, fun index => ?_⟩
    constructor
    · intro called
      exact absurd called List.not_mem_nil
    · rintro ⟨entry, there, same⟩
      have member := List.mem_of_getElem? there
      have known := registered.mpr ⟨entry, member, same⟩
      omega

theorem dispatchedBySign_position {table : List MsgProcInf}
    {message : AcceptedMessage}
    (distinct : (table.map MsgProcInf.sign).Nodup)
    (registered : position table message.ucSign < table.length)
    (called : message.called = [position table message.ucSign]) :
    DispatchedBySign table message := by
  refine ⟨by simp [called], fun index => ?_⟩
  rw [called, List.mem_singleton]
  constructor
  · rintro rfl
    exact ⟨_, List.getElem?_eq_getElem registered,
      sign_at_position registered⟩
  · rintro ⟨entry, there, same⟩
    rw [← same]
    exact index_eq_position distinct there

/-- What one iteration does to the cursor and to the message it accepts. -/
theorem cloudEventBody_dispatch {table : List MsgProcInf}
    (distinct : (table.map MsgProcInf.sign).Nodup)
    {loop following : CloudEventLoop} {outcome : Option AcceptedMessage}
    (inside : loop.start ≤ table.length)
    (accepted : cloudFrameTest loop.buf.bytes = some true)
    (result : cloudEventBody table loop = some (following, outcome)) :
    ∃ message, outcome = some message ∧
      following.buf = loop.buf ∧ following.start ≤ table.length ∧
      (DispatchedBySign table message ↔
        loop.start ≤ position table (signOf loop.buf.bytes)) ∧
      (loop.start ≤ position table (signOf loop.buf.bytes) →
        following.start = position table (signOf loop.buf.bytes)) := by
  rcases cloudEventBody_cases result with
    ⟨rejected, _, _⟩ | ⟨_, sameBuf, message, rfl, sign, _, walked⟩
  · rw [accepted] at rejected
    cases rejected
  · refine ⟨message, rfl, sameBuf, ?_⟩
    rw [← sign]
    by_cases ahead : loop.start ≤ position table message.ucSign
    · have found := dispatch_ahead inside ahead
      have bound := position_le_length table message.ucSign
      rcases walked with ⟨ends, called, _⟩ | ⟨entry, _, ends, called, _, _⟩
      · rw [found, Prod.mk.injEq, List.getElem?_eq_none_iff] at ends
        obtain ⟨cursor, unknown⟩ := ends
        have unregistered : position table message.ucSign = table.length := by
          omega
        have dispatched := (dispatchedBySign_nil called).mpr unregistered
        exact ⟨by omega, iff_of_true dispatched ahead, fun _ => cursor.symm⟩
      · rw [found, Prod.mk.injEq] at ends
        obtain ⟨cursor, there⟩ := ends
        obtain ⟨registered, _⟩ := List.getElem?_eq_some_iff.mp there
        rw [← cursor] at called
        have dispatched :=
          dispatchedBySign_position distinct registered called
        exact ⟨by omega, iff_of_true dispatched ahead, fun _ => cursor.symm⟩
    · have behind : position table message.ucSign < loop.start := by omega
      have lost := dispatch_behind distinct inside behind
      rcases walked with ⟨ends, called, _⟩ | ⟨entry, _, ends, _⟩
      · rw [lost, Prod.mk.injEq] at ends
        have missed : ¬DispatchedBySign table message := by
          rw [dispatchedBySign_nil called]
          omega
        exact ⟨by omega, iff_of_false missed ahead,
          fun reachable => absurd reachable ahead⟩
      · rw [lost, Prod.mk.injEq] at ends
        cases ends.2

/-- The law of a run from any cursor: the accepted signs lie at or behind the
cursor, in non-decreasing order. -/
theorem cloudEventRun_dispatched_from {table : List MsgProcInf}
    (distinct : (table.map MsgProcInf.sign).Nodup)
    {loop final : CloudEventLoop} {messages : List (List UInt8)}
    {outcomes : List (Option AcceptedMessage)}
    (inside : loop.start ≤ table.length)
    (result : cloudEventRun table loop messages = some (final, outcomes)) :
    (∀ message, some message ∈ outcomes →
        DispatchedBySign table message) ↔
      (∀ ucSign ∈ acceptedSigns loop.buf messages,
        loop.start ≤ position table ucSign) ∧
      (acceptedSigns loop.buf messages).Pairwise (fun first later =>
        position table first ≤ position table later) := by
  induction messages generalizing loop outcomes with
  | nil =>
      simp only [cloudEventRun, Option.some.injEq, Prod.mk.injEq] at result
      simp [← result.2, acceptedSigns]
  | cons message messages induction =>
      simp only [cloudEventRun, Option.bind_eq_bind, Option.bind_eq_some_iff,
        Prod.exists, Option.some.injEq, Prod.mk.injEq] at result
      obtain ⟨following, outcome, stepped, last, later, rest, rfl, rfl⟩ :=
        result
      simp only [cloudEventStep, Option.bind_eq_bind,
        Option.bind_eq_some_iff] at stepped
      obtain ⟨filled, copied, body⟩ := stepped
      simp only [acceptedSigns, copied]
      by_cases accepted : cloudFrameTest filled.bytes = some true
      · rw [if_pos accepted]
        obtain ⟨handled, rfl, sameBuf, stillInside, dispatched, advanced⟩ :=
          @cloudEventBody_dispatch _ distinct { loop with buf := filled } _ _
            inside accepted body
        have tail := induction stillInside rest
        simp only [sameBuf] at tail
        simp only at dispatched advanced
        simp only [List.mem_cons, Option.some.injEq, forall_eq_or_imp,
          List.pairwise_cons, dispatched, tail]
        constructor
        · rintro ⟨ahead, later, ordered⟩
          rw [advanced ahead] at later
          exact ⟨⟨ahead, fun ucSign member =>
            Nat.le_trans ahead (later ucSign member)⟩, later, ordered⟩
        · rintro ⟨⟨ahead, _⟩, later, ordered⟩
          rw [advanced ahead]
          exact ⟨ahead, later, ordered⟩
      · rw [if_neg accepted]
        rcases cloudEventBody_cases body with
          ⟨_, rfl, rfl⟩ | ⟨passed, _⟩
        · have tail := @induction { loop with buf := filled } _ inside rest
          simpa using tail
        · exact absurd passed accepted

/-- A run dispatches every message it accepts by its sign exactly when the
accepted signs come in the order of the table, unknown ones last. -/
theorem cloudEventRun_dispatched_iff {table : List MsgProcInf}
    (distinct : (table.map MsgProcInf.sign).Nodup) {buf : Buffer 256}
    {messages : List (List UInt8)} {final : CloudEventLoop}
    {outcomes : List (Option AcceptedMessage)}
    (result : cloudEventRun table { buf, start := 0 } messages =
      some (final, outcomes)) :
    (∀ message, some message ∈ outcomes →
        DispatchedBySign table message) ↔
      (acceptedSigns buf messages).Pairwise (fun first later =>
        position table first ≤ position table later) := by
  have law := cloudEventRun_dispatched_from distinct (Nat.zero_le _) result
  simpa using law

def canFrame : List UInt8 := [0xAA, 0xAA, 0, 7, 0x91, 1, 0xEC]

def confFrame : List UInt8 := [0xAA, 0xAA, 0, 7, 0x72, 1, 0xCD]

def unknownFrame : List UInt8 := [0xAA, 0xAA, 0, 7, 1, 1, 0x5C]

theorem messageProcessing_distinct (services : CloudServices) :
    ((messageProcessing services).map MsgProcInf.sign).Nodup := by
  have signs : (messageProcessing services).map MsgProcInf.sign =
      [174, 145, 114, 89, 130, 132, 135, 147, 156, 158, 108, 110] := rfl
  rw [signs]
  decide

/-- Two frames whose signs come in the order of the table. -/
theorem canFrame_run_dispatched : ∃ final can conf,
    cloudEventRun (messageProcessing exampleServices)
        { buf := Buffer.filled 256 0, start := 0 } [canFrame, confFrame] =
      some (final, [some can, some conf]) ∧
    DispatchedBySign (messageProcessing exampleServices) can ∧
    DispatchedBySign (messageProcessing exampleServices) conf := by
  have accepted : (cloudEventRun (messageProcessing exampleServices)
      { buf := Buffer.filled 256 0, start := 0 }
      [canFrame, confFrame]).map (fun result => result.2.map Option.isSome) =
        some [true, true] := by
    decide +kernel
  obtain ⟨⟨final, outcomes⟩, result, both⟩ :=
    Option.map_eq_some_iff.mp accepted
  have dispatched := (cloudEventRun_dispatched_iff
    (messageProcessing_distinct _) result).mpr (by decide +kernel)
  match outcomes, both with
  | [some can, some conf], _ =>
      exact ⟨final, can, conf, result, dispatched can List.mem_cons_self,
        dispatched conf (List.mem_cons_of_mem _ List.mem_cons_self)⟩

/-- An unknown frame moves the cursor behind the table, and the registered one
after it reaches no entry. -/
theorem unknown_then_can_not_dispatched :
    ¬∀ final outcomes,
      cloudEventRun (messageProcessing exampleServices)
          { buf := Buffer.filled 256 0, start := 0 }
          [unknownFrame, canFrame] = some (final, outcomes) →
      ∀ message, some message ∈ outcomes →
        DispatchedBySign (messageProcessing exampleServices) message := by
  intro claimed
  have defined : (cloudEventRun (messageProcessing exampleServices)
      { buf := Buffer.filled 256 0, start := 0 }
      [unknownFrame, canFrame]).isSome := by
    decide +kernel
  obtain ⟨⟨final, outcomes⟩, result⟩ := Option.isSome_iff_exists.mp defined
  have ordered := ((cloudEventRun_dispatched_from
    (messageProcessing_distinct _) (Nat.zero_le _) result).mp
      (claimed final outcomes result)).2
  have signs : acceptedSigns (Buffer.filled 256 0)
      [unknownFrame, canFrame] = [1, 0x91] := by
    decide +kernel
  rw [signs, List.pairwise_pair] at ordered
  exact absurd ordered (by decide)

end RtA100
