import RtA100.LinkTransitions

/-!
# The loops of `on_message_cb`

A payload of another length than it declares is sent in chunks of the declared
length.  The inner loop repeats a call of `send` until it succeeds, and the
outer one advances by the chunk.  Here the loops run against any sequence of
results of `send`, in which every call has an end to its failures.

The chunks of a run that ends are the multiples of the declared length below
the length of the payload, so the last one ends with the payload exactly when
the one divides the other.
-/

namespace RtA100

open Library

/-- The bytes of the payload that one call of `send` is given. -/
structure Chunk where
  start : Nat
  len : Nat
deriving DecidableEq

def SplitLoop.chunk (loop : SplitLoop) : Chunk :=
  { start := loop.index, len := loop.len }

/-- The loops after a call of `send`, by its result. -/
def SplitLoop.after (loop : SplitLoop) (ret : Int) : Option SplitLoop :=
  if ret ≠ 0 then some loop else loop.next

/-- The loops that `on_message_cb` enters for a payload. -/
def enteredLoop (payload : List UInt8) : Option SplitLoop :=
  if signOf payload = mqttMsgSignHeartbeatReq then none
  else if declaredLength payload ≠ payload.length then
    some { payload, len := declaredLength payload, index := 0 }
  else none

/-- The loops after a number of calls, if they have not ended before, and the
chunks of the successful ones. -/
def splitRun (results : Nat → Int) : Nat → Option SplitLoop →
    Option SplitLoop × List Chunk
  | 0, state => (state, [])
  | _ + 1, none => (none, [])
  | count + 1, some loop =>
      let rest := splitRun (fun call => results (call + 1)) count
        (loop.after (results 0))
      (rest.1, if results 0 = 0 then loop.chunk :: rest.2 else rest.2)

/-- Each send succeeds after finitely many failures. -/
def SendsSucceed (results : Nat → Int) : Prop :=
  ∀ call, ∃ later, results (call + later) = 0

/-! ## The loops are those of the link -/

theorem onMessageCb_enters {link following : Link} {payload : List UInt8}
    {emitted : List LinkOutput} (outside : link.splitting = none)
    (handled : onMessageCb link payload = some (following, emitted)) :
    following.splitting = enteredLoop payload := by
  unfold onMessageCb at handled
  rw [if_neg (by simpa using outside)] at handled
  obtain ⟨pHdr, headerRead, result⟩ := Option.bind_eq_some_iff.mp handled
  obtain ⟨lenValue, signValue⟩ := MsgFramHdr.read_fields headerRead
  simp only [lenValue, signValue] at result
  unfold enteredLoop
  split at result
  · rename_i heartbeat
    obtain ⟨rfl, rfl⟩ := Prod.mk.inj (Option.some.inj result)
    rw [if_pos heartbeat, outside]
  · rename_i other
    rw [if_neg other]
    split at result
    · rename_i several
      obtain ⟨rfl, rfl⟩ := Prod.mk.inj (Option.some.inj result)
      rw [if_pos several]
    · rename_i single
      simp only [Option.bind_eq_bind, Option.bind_eq_some_iff, Prod.exists,
        Option.some.injEq, Prod.mk.injEq] at result
      obtain ⟨_, _, _, rfl, _⟩ := result
      rw [if_neg single]
      exact outside

theorem tcpClientSend_splitting {link sent : Link} {call : SendCall}
    {ret : Int} {emitted : List LinkOutput}
    (sending : tcpClientSend link call = some (sent, ret, emitted)) :
    sent.splitting = link.splitting := by
  unfold tcpClientSend at sending
  split at sending
  · cases sending
    rfl
  · simp only [Option.pure_def, Option.bind_eq_bind, Option.bind_eq_some_iff,
      Prod.exists, Option.some.injEq, Prod.mk.injEq] at sending
    obtain ⟨_, _, _, rfl, _⟩ := sending
    rfl

/-- An iteration of the callback in the link, by the result of its `send`. -/
theorem onMessageCbSend_after {link following : Link}
    {emitted : List LinkOutput}
    (handled : onMessageCbSend link = some (following, emitted)) :
    ∃ loop sent ret, link.splitting = some loop ∧
      tcpClientSend link loop.call = some (sent, ret, emitted) ∧
      following = { sent with splitting := loop.after ret } := by
  simp only [onMessageCbSend, Option.bind_eq_bind, Option.bind_eq_some_iff,
    Prod.exists] at handled
  obtain ⟨loop, splitting, sent, ret, outputs, call, result⟩ := handled
  refine ⟨loop, sent, ret, splitting, ?_⟩
  have kept := tcpClientSend_splitting call
  unfold SplitLoop.after
  split at result
  · rename_i refused
    obtain ⟨rfl, rfl⟩ := Prod.mk.inj (Option.some.inj result)
    rw [if_pos refused, ← splitting, ← kept]
    exact ⟨call, rfl⟩
  · rename_i success
    obtain ⟨rfl, rfl⟩ := Prod.mk.inj (Option.some.inj result)
    rw [if_neg success]
    exact ⟨call, rfl⟩

/-! ## Runs -/

theorem SendsSucceed.shift {results : Nat → Int}
    (succeed : SendsSucceed results) (calls : Nat) :
    SendsSucceed fun call => results (call + calls) := by
  intro call
  obtain ⟨later, success⟩ := succeed (call + calls)
  have position : call + later + calls = call + calls + later := by omega
  exact ⟨later, (congrArg results position).trans success⟩

theorem splitRun_none (results : Nat → Int) (count : Nat) :
    splitRun results count none = (none, []) := by
  cases count <;> rfl

theorem splitRun_success {results : Nat → Int} (success : results 0 = 0)
    (count : Nat) (loop : SplitLoop) :
    splitRun results (count + 1) (some loop) =
      ((splitRun (fun call => results (call + 1)) count loop.next).1,
        loop.chunk ::
          (splitRun (fun call => results (call + 1)) count loop.next).2) := by
  rw [splitRun, SplitLoop.after, if_neg (by simpa using success),
    if_pos success]

theorem splitRun_failure {results : Nat → Int} (failure : results 0 ≠ 0)
    (count : Nat) (loop : SplitLoop) :
    splitRun results (count + 1) (some loop) =
      splitRun (fun call => results (call + 1)) count (some loop) := by
  rw [splitRun, SplitLoop.after, if_pos failure, if_neg failure]

/-- A send is repeated until it succeeds; then the loops go on with the next
chunk. -/
theorem splitRun_retry {results : Nat → Int} {later : Nat}
    (success : results later = 0) (loop : SplitLoop) :
    ∃ calls, ∀ count, splitRun results (count + calls) (some loop) =
      ((splitRun (fun call => results (call + calls)) count loop.next).1,
        loop.chunk ::
          (splitRun (fun call => results (call + calls)) count
            loop.next).2) := by
  induction later generalizing results with
  | zero => exact ⟨1, fun count => splitRun_success success count loop⟩
  | succ later induction =>
      by_cases first : results 0 = 0
      · exact ⟨1, fun count => splitRun_success first count loop⟩
      · obtain ⟨calls, rest⟩ := @induction (fun call => results (call + 1))
          success
        refine ⟨calls + 1, fun count => ?_⟩
        have further := splitRun_failure first (count + calls) loop
        rw [rest count] at further
        exact further

/-- A number of chunks of one length, from an index on. -/
def chunksFrom (len : Nat) : Nat → Nat → List Chunk
  | _, 0 => []
  | index, count + 1 =>
      { start := index, len } :: chunksFrom len (index + len) count

/-- How many chunks it takes to reach the end of what remains. -/
def chunkCount (len remaining : Nat) : Nat := (remaining + len - 1) / len

theorem chunkCount_last {len remaining : Nat} (some : 0 < remaining)
    (last : remaining ≤ len) : chunkCount len remaining = 1 := by
  unfold chunkCount
  exact Nat.div_eq_of_lt_le (by omega) (by omega)

theorem chunkCount_more {len remaining : Nat} (progress : 0 < len)
    (more : len < remaining) :
    chunkCount len remaining = chunkCount len (remaining - len) + 1 := by
  unfold chunkCount
  have split : remaining + len - 1 = remaining - len + len - 1 + len := by
    omega
  rw [split, Nat.add_div_right _ progress]

/-- With a length to advance by, the loops end, and these are their chunks. -/
theorem splitRun_ends {results : Nat → Int} {loop : SplitLoop}
    (succeed : SendsSucceed results) (progress : 0 < loop.len)
    {remaining : Nat}
    (inside : loop.index + remaining = loop.payload.length)
    (some : 0 < remaining) :
    ∃ calls, splitRun results calls (.some loop) =
      (none, chunksFrom loop.len loop.index
        (chunkCount loop.len remaining)) := by
  induction remaining using Nat.strongRecOn generalizing loop results with
  | ind remaining induction =>
      obtain ⟨later, success⟩ := succeed 0
      obtain ⟨calls, rest⟩ := splitRun_retry success loop
      by_cases last : remaining ≤ loop.len
      · have ended : loop.next = none := by
          unfold SplitLoop.next
          rw [if_neg (by omega)]
        refine ⟨0 + calls, ?_⟩
        rw [rest 0, ended, chunkCount_last some last]
        rfl
      · have more : loop.len < remaining := by omega
        have next : loop.next =
            .some { loop with index := loop.index + loop.len } := by
          unfold SplitLoop.next
          rw [if_pos (by omega)]
        obtain ⟨further, finished⟩ :=
          @induction (remaining - loop.len) (by omega)
            (fun call => results (call + calls))
            { loop with index := loop.index + loop.len }
            (succeed.shift calls) progress
            (show loop.index + loop.len + (remaining - loop.len) =
              loop.payload.length by omega) (by omega)
        refine ⟨further + calls, ?_⟩
        rw [rest further, next, finished, chunkCount_more progress more]
        rfl

/-! ## The chunks cover the payload -/

/-- Each chunk begins where the one before it ends. -/
def Consecutive : Nat → List Chunk → Prop
  | _, [] => True
  | start, chunk :: chunks =>
      chunk.start = start ∧ Consecutive (start + chunk.len) chunks

def Chunk.bytes (payload : List UInt8) (chunk : Chunk) : List UInt8 :=
  (payload.drop chunk.start).take chunk.len

/-- The chunks are consecutive pieces of the payload, none reaches past its
end, and together they are the payload. -/
structure PayloadCovered (payload : List UInt8) (chunks : List Chunk) :
    Prop where
  consecutive : Consecutive 0 chunks
  inside : ∀ chunk ∈ chunks, chunk.start + chunk.len ≤ payload.length
  whole : chunks.flatMap (Chunk.bytes payload) = payload

theorem chunksFrom_consecutive (len index count : Nat) :
    Consecutive index (chunksFrom len index count) := by
  induction count generalizing index with
  | zero => exact trivial
  | succ count induction => exact ⟨rfl, induction (index + len)⟩

theorem chunksFrom_bytes (payload : List UInt8) (len index count : Nat) :
    (chunksFrom len index count).flatMap (Chunk.bytes payload) =
      (payload.drop index).take (count * len) := by
  induction count generalizing index with
  | zero => simp [chunksFrom]
  | succ count induction =>
      have length : (count + 1) * len = len + count * len := by
        rw [Nat.succ_mul, Nat.add_comm]
      rw [chunksFrom, List.flatMap_cons, induction, length, List.take_add,
        List.drop_drop]
      rfl

theorem chunksFrom_inside_iff {len bound : Nat} (index count : Nat) :
    (∀ chunk ∈ chunksFrom len index (count + 1),
        chunk.start + chunk.len ≤ bound) ↔
      index + (count + 1) * len ≤ bound := by
  induction count generalizing index with
  | zero => simp [chunksFrom]
  | succ count induction =>
      have length : index + (count + 1 + 1) * len =
          index + len + (count + 1) * len := by
        rw [Nat.succ_mul]
        omega
      rw [chunksFrom, List.forall_mem_cons, induction, length]
      constructor
      · exact fun inside => inside.2
      · intro inside
        have first : index + len ≤ index + len + (count + 1) * len :=
          Nat.le_add_right _ _
        exact ⟨Nat.le_trans first inside, inside⟩

/-- The chunks from the beginning cover the payload exactly when the last one
ends with it. -/
theorem chunksFrom_covered_iff {payload : List UInt8} {len : Nat}
    (progress : 0 < len) (some : 0 < payload.length) :
    PayloadCovered payload
        (chunksFrom len 0 (chunkCount len payload.length)) ↔
      len ∣ payload.length := by
  obtain ⟨count, nonempty⟩ : ∃ count,
      chunkCount len payload.length = count + 1 := by
    refine Nat.exists_eq_add_one.mpr ?_
    unfold chunkCount
    exact Nat.div_pos (by omega) progress
  have enough : payload.length ≤ (count + 1) * len := by
    have remainder := Nat.mod_lt (payload.length + len - 1) progress
    have division := Nat.div_add_mod (payload.length + len - 1) len
    unfold chunkCount at nonempty
    rw [nonempty, Nat.mul_comm] at division
    omega
  rw [nonempty]
  constructor
  · intro covered
    have last := (chunksFrom_inside_iff 0 count).mp covered.inside
    rw [Nat.zero_add] at last
    exact ⟨count + 1, by rw [Nat.mul_comm]; omega⟩
  · rintro ⟨factor, length⟩
    have exact : payload.length = (count + 1) * len := by
      unfold chunkCount at nonempty
      rw [length, Nat.add_sub_assoc progress, Nat.mul_add_div progress,
        Nat.div_eq_of_lt (by omega), Nat.add_zero] at nonempty
      rw [length, nonempty, Nat.mul_comm]
    refine ⟨chunksFrom_consecutive len 0 (count + 1), ?_, ?_⟩
    · have inside : 0 + (count + 1) * len ≤ payload.length := by omega
      exact (chunksFrom_inside_iff 0 count).mpr inside
    · rw [chunksFrom_bytes, List.drop_zero, ← exact, List.take_length]

/-- Whatever sends fail, the callback sends the payload piece by piece. -/
def SplitCovers (payload : List UInt8) : Prop :=
  ∀ results, SendsSucceed results → ∃ calls chunks,
    splitRun results calls (enteredLoop payload) = (none, chunks) ∧
      PayloadCovered payload chunks

/-- Once the loops have ended, further calls change nothing. -/
theorem splitRun_final {results : Nat → Int} {calls other : Nat}
    {state : Option SplitLoop} {chunks otherChunks : List Chunk}
    (ended : splitRun results calls state = (none, chunks))
    (otherEnded : splitRun results other state = (none, otherChunks)) :
    chunks = otherChunks := by
  induction calls generalizing results other state chunks otherChunks with
  | zero =>
      obtain ⟨rfl, rfl⟩ := Prod.mk.inj ended
      rw [splitRun_none] at otherEnded
      exact (Prod.mk.inj otherEnded).2
  | succ calls induction =>
      cases state with
      | none =>
          rw [splitRun_none] at ended otherEnded
          exact (Prod.mk.inj ended).2.symm.trans (Prod.mk.inj otherEnded).2
      | some loop =>
          cases other with
          | zero => cases (Prod.mk.inj otherEnded).1
          | succ other =>
              obtain ⟨later, rfl⟩ := Prod.mk.inj ended
              obtain ⟨otherLater, rfl⟩ := Prod.mk.inj otherEnded
              have rest := @induction (fun call => results (call + 1)) other
                (loop.after (results 0)) _ _ (Prod.ext later rfl)
                (Prod.ext otherLater rfl)
              simp only [rest]

theorem enteredLoop_split {payload : List UInt8}
    (other : signOf payload ≠ mqttMsgSignHeartbeatReq)
    (several : declaredLength payload ≠ payload.length) :
    enteredLoop payload =
      some { payload, len := declaredLength payload, index := 0 } := by
  unfold enteredLoop
  rw [if_neg other, if_pos several]

/-- The chunks cover the payload exactly when its length is a multiple of the
declared one. -/
theorem splitCovers_iff {payload : List UInt8} (long : 5 ≤ payload.length)
    (other : signOf payload ≠ mqttMsgSignHeartbeatReq)
    (progress : 1 ≤ declaredLength payload)
    (several : declaredLength payload ≠ payload.length) :
    SplitCovers payload ↔ declaredLength payload ∣ payload.length := by
  have entered := enteredLoop_split other several
  have ends (results : Nat → Int) (succeed : SendsSucceed results) :=
    @splitRun_ends results
      { payload, len := declaredLength payload, index := 0 } succeed progress
      payload.length (Nat.zero_add _) (by omega)
  have some : 0 < payload.length := by omega
  rw [← chunksFrom_covered_iff progress some]
  constructor
  · intro covers
    have succeed : SendsSucceed fun _ => 0 := fun _ => ⟨0, rfl⟩
    obtain ⟨calls, chunks, ended, covered⟩ := covers _ succeed
    obtain ⟨otherCalls, otherEnded⟩ := ends _ succeed
    rw [entered] at ended
    rw [← splitRun_final ended otherEnded]
    exact covered
  · intro covered results succeed
    obtain ⟨calls, ended⟩ := ends results succeed
    exact ⟨calls, _, entered ▸ ended, covered⟩

theorem sevenBytesTwice_covered :
    SplitCovers
      [0xAA, 0xAA, 0, 7, 0x20, 1, 0x7B, 0xAA, 0xAA, 0, 7, 0x20, 1, 0x7B] :=
  (splitCovers_iff (by decide) (by decide) (by decide) (by decide)).mpr
    (by decide)

/-- Six bytes that declare five: the second chunk reaches past the end. -/
theorem fiveOfSixBytes_not_covered :
    ¬∀ payload : List UInt8, 5 ≤ payload.length →
      signOf payload ≠ mqttMsgSignHeartbeatReq →
      1 ≤ declaredLength payload →
      declaredLength payload ≠ payload.length → SplitCovers payload := by
  intro claimed
  have covers := claimed [0, 0, 0, 5, 1, 0] (by decide) (by decide)
    (by decide) (by decide)
  have succeed : SendsSucceed fun _ => 0 := fun _ => ⟨0, rfl⟩
  have sent : splitRun (fun _ => 0) 2 (enteredLoop [0, 0, 0, 5, 1, 0]) =
      (none, [⟨0, 5⟩, ⟨5, 5⟩]) := by
    decide
  obtain ⟨calls, chunks, ended, covered⟩ := covers _ succeed
  have inside := covered.inside
  rw [splitRun_final ended sent] at inside
  exact absurd (inside ⟨5, 5⟩ (by decide)) (by decide)

/-! ## The loops end -/

/-- Both loops end, when each send succeeds after finitely many failures. -/
def CallbackEnds (payload : List UInt8) : Prop :=
  ∀ results, SendsSucceed results → ∃ calls,
    (splitRun results calls (enteredLoop payload)).1 = none

/-- Without a length to advance by, the same empty chunk is sent again and
again. -/
theorem splitRun_stuck {loop : SplitLoop} (stuck : loop.len = 0)
    (inside : loop.index < loop.payload.length) (results : Nat → Int)
    (calls : Nat) : (splitRun results calls (some loop)).1 = some loop := by
  have same : loop.next = some loop := by
    have still : loop.index + loop.len = loop.index := by omega
    unfold SplitLoop.next
    rw [still, if_pos inside]
  induction calls generalizing results with
  | zero => rfl
  | succ calls induction =>
      by_cases success : results 0 = 0
      · rw [splitRun_success success, same]
        exact induction _
      · rw [splitRun_failure success]
        exact induction _

/-- The callback ends exactly on heartbeats and on payloads that declare some
length. -/
theorem callbackEnds_iff {payload : List UInt8} (long : 5 ≤ payload.length) :
    CallbackEnds payload ↔
      signOf payload = mqttMsgSignHeartbeatReq ∨
        declaredLength payload ≠ 0 := by
  by_cases heartbeat : signOf payload = mqttMsgSignHeartbeatReq
  · have outside : enteredLoop payload = none := by
      unfold enteredLoop
      rw [if_pos heartbeat]
    refine iff_of_true (fun _ _ => ⟨0, ?_⟩) (.inl heartbeat)
    rw [outside]
    rfl
  · by_cases single : declaredLength payload = payload.length
    · have outside : enteredLoop payload = none := by
        unfold enteredLoop
        rw [if_neg heartbeat, if_neg (by simpa using single)]
      refine iff_of_true (fun _ _ => ⟨0, ?_⟩) (.inr (by omega))
      rw [outside]
      rfl
    · have entered := enteredLoop_split heartbeat single
      constructor
      · intro ends
        refine Or.inr fun stuck => ?_
        obtain ⟨calls, ended⟩ := ends (fun _ => 0) fun _ => ⟨0, rfl⟩
        rw [entered, splitRun_stuck stuck (show 0 < payload.length by omega)]
          at ended
        cases ended
      · intro declared results succeed
        obtain ⟨calls, ended⟩ := @splitRun_ends results
          { payload, len := declaredLength payload, index := 0 } succeed
          (Nat.pos_of_ne_zero (declared.resolve_left heartbeat))
          payload.length (Nat.zero_add _) (by omega)
        exact ⟨calls, by rw [entered, ended]⟩

theorem fiveOfSixBytes_ends : CallbackEnds [0, 0, 0, 5, 1, 0] :=
  (callbackEnds_iff (by decide)).mpr (by decide)

theorem zeroLength_never_ends :
    ¬∀ payload : List UInt8, 5 ≤ payload.length → CallbackEnds payload := by
  intro claimed
  have ends := claimed [0xAA, 0xAA, 0, 0, 1] (by decide)
  obtain ⟨calls, ended⟩ := ends (fun _ => 0) fun _ => ⟨0, rfl⟩
  rw [enteredLoop_split (by decide) (by decide),
    splitRun_stuck (by decide) (by decide)] at ended
  cases ended

end RtA100
