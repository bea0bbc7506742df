/-!
# Reading from the serial port

`serial_read` calls the non-blocking `read` until the buffer is full up to one
byte or the result is 0.  Its counters are unsigned, so the result -1 is not
seen as an error but counts the bytes down by one; and the size that it asks
for is that of the whole buffer, wherever it reads to.
-/

namespace RtA100

/-- The size that each `read` asks for. -/
def requestedBytes (count : Nat) : Nat :=
  if count > 512 then 512 else count

/-- A buffer and the results of the successive calls of `read`.  No object has
2^63 bytes or more. -/
structure ReadCall where
  count : Nat
  least : 2 ≤ count
  sized : count < 0x8000000000000000
  result : Nat → Int
  returned : ∀ turn, result turn = -1 ∨
    0 ≤ result turn ∧ result turn ≤ requestedBytes count

structure ReadState where
  tBytes : Nat
  turn : Nat
  received : Nat
  buffer : Nat → UInt8
  requests : List (Nat × Nat)

/-- The conversion of `ssize_t` to `size_t`. -/
def toSize (value : Int) : Nat := (value % 0x10000000000000000).toNat

/-- The conversion of `size_t` to `ssize_t`. -/
def toSsize (value : Nat) : Int :=
  if value < 0x8000000000000000 then value else value - 0x10000000000000000

/-- The bytes of the line, in order, that a `read` puts at an offset of the
buffer. -/
def storeBytes (stream : Nat → UInt8) (received offset number : Nat)
    (buffer : Nat → UInt8) : Nat → UInt8 :=
  fun address =>
    if offset ≤ address ∧ address < offset + number then
      stream (received + (address - offset))
    else buffer address

/-- One call of `read`, for the bytes that arrive on the line. -/
def ReadCall.read (call : ReadCall) (stream : Nat → UInt8)
    (state : ReadState) : ReadState :=
  let number := (call.result state.turn).toNat
  { state with
    turn := state.turn + 1
    received := state.received + number
    buffer := storeBytes stream state.received state.tBytes number state.buffer
    requests := state.requests ++
      [(state.tBytes, requestedBytes call.count)] }

/-- The loop of `serial_read`, with a bound on its turns. -/
def readLoop (call : ReadCall) (stream : Nat → UInt8) :
    Nat → ReadState → Option ReadState
  | 0, _ => none
  | fuel + 1, state =>
      if state.tBytes < call.count - 1 then
        let rBytes := toSize (call.result state.turn)
        let following := call.read stream state
        if rBytes ≤ 0 then some following
        else
          readLoop call stream fuel
            { following with
              tBytes := (state.tBytes + rBytes) % 0x10000000000000000 }
      else some state

def startRead (buffer : Nat → UInt8) : ReadState :=
  { tBytes := 0, turn := 0, received := 0, buffer, requests := [] }

/-- `serial_read` on an open port: its result, the buffer and the requests. -/
def serialRead (call : ReadCall) (stream buffer : Nat → UInt8)
    (fuel : Nat) : Option (Int × (Nat → UInt8) × List (Nat × Nat)) :=
  (readLoop call stream fuel (startRead buffer)).map fun state =>
    (toSsize state.tBytes, state.buffer, state.requests)

/-! ## What should be returned -/

/-- The bytes that the first calls of `read` return. -/
def ReadCall.arrived (call : ReadCall) : Nat → Nat
  | 0 => 0
  | turn + 1 => call.arrived turn + (call.result turn).toNat

/-- The first turn with a result that is not positive, or before which the
buffer is full up to one byte. -/
structure ReadCall.EndsAt (call : ReadCall) (last : Nat) : Prop where
  positive : ∀ turn < last, 0 < call.result turn
  room : ∀ turn < last, call.arrived turn < call.count - 1
  stops : call.result last ≤ 0 ∨ call.count - 1 ≤ call.arrived last

/-- If a result that is not positive comes, the call ends, asks for no bytes
beyond the buffer, and returns exactly what had arrived, in order. -/
def ReadCall.Exact (call : ReadCall) : Prop :=
  (∃ turn, call.result turn ≤ 0) →
    ∃ last, call.EndsAt last ∧
      ∀ stream buffer, ∃ fuel final requests,
        serialRead call stream buffer fuel =
            some ((call.arrived last : Int), final, requests) ∧
          (∀ request ∈ requests, request.1 + request.2 ≤ call.count) ∧
          ∀ address < call.arrived last, final address = stream address

/-- With up to 512 bytes the first result is 0 or fills the buffer up to one
byte; with more, at most the size less 512 bytes have arrived before each
`read`.  The result that ends the call is not -1. -/
structure ReadCall.Tame (call : ReadCall) (last : Nat) : Prop where
  small : call.count ≤ 512 →
    call.result 0 = 0 ∨ call.count - 1 ≤ (call.result 0).toNat
  large : 512 < call.count → ∀ turn ≤ last,
    call.arrived turn < call.count - 1 →
      call.arrived turn ≤ call.count - 512
  ends : call.arrived last < call.count - 1 → call.result last = 0

/-- A turn calls `read`. -/
def ReadCall.Reads (call : ReadCall) (last turn : Nat) : Prop :=
  turn ≤ last ∧ call.arrived turn < call.count - 1

/-- Every `read` is issued while the whole request still fits behind what has
arrived, and the result that ends the call is not -1. -/
structure ReadCall.InPlace (call : ReadCall) (last : Nat) : Prop where
  inside : ∀ turn, call.Reads last turn →
    call.arrived turn + requestedBytes call.count ≤ call.count
  ends : call.arrived last < call.count - 1 → call.result last = 0

/-! ## The loop -/

theorem requestedBytes_le (count : Nat) : requestedBytes count ≤ count := by
  unfold requestedBytes
  split <;> omega

/-- A positive result is not changed by the conversion, and -1 becomes the
largest size. -/
theorem toSize_positive {value : Int} (positive : 0 < value)
    (small : value < 0x10000000000000000) : toSize value = value.toNat := by
  rw [toSize, Int.emod_eq_of_lt (by omega) small]

theorem toSize_minus_one : toSize (-1) = 0xFFFFFFFFFFFFFFFF := by decide

theorem ReadCall.result_small (call : ReadCall) (turn : Nat) :
    call.result turn ≤ call.count := by
  have inside := requestedBytes_le call.count
  rcases call.returned turn with failed | ⟨_, bounded⟩ <;> omega

/-- A result of a longer run is that of the shorter one. -/
theorem readLoop_more {call : ReadCall} {stream : Nat → UInt8} {fuel : Nat}
    {state final : ReadState} (extra : Nat)
    (run : readLoop call stream fuel state = some final) :
    readLoop call stream (fuel + extra) state = some final := by
  induction fuel generalizing state with
  | zero => cases run
  | succ fuel induction =>
      rw [readLoop] at run
      rw [Nat.succ_add, readLoop]
      split
      · rename_i guarded
        rw [if_pos guarded] at run
        simp only at run ⊢
        split
        · rename_i ended
          rw [if_pos ended] at run
          exact run
        · rename_i going
          rw [if_neg going] at run
          exact induction run
      · rename_i full
        rw [if_neg full] at run
        exact run

/-- What every turn keeps, the whole loop keeps. -/
theorem readLoop_invariant {call : ReadCall} {stream : Nat → UInt8}
    {invariant : ReadState → Prop}
    (kept : ∀ state, invariant state → state.tBytes < call.count - 1 →
      invariant (call.read stream state) ∧
        (toSize (call.result state.turn) ≠ 0 →
          invariant { call.read stream state with
            tBytes := (state.tBytes + toSize (call.result state.turn)) %
              0x10000000000000000 }))
    {fuel : Nat} {state final : ReadState} (holds : invariant state)
    (run : readLoop call stream fuel state = some final) :
    invariant final := by
  induction fuel generalizing state with
  | zero => cases run
  | succ fuel induction =>
      rw [readLoop] at run
      split at run
      · rename_i guarded
        obtain ⟨stopped, continued⟩ := kept state holds guarded
        simp only at run
        split at run
        · cases run
          exact stopped
        · rename_i going
          exact induction (continued (by omega)) run
      · cases run
        exact holds

/-! ## Runs up to the end -/

/-- The state after some turns that all have read in place. -/
def ReadCall.stateAt (call : ReadCall) (stream buffer : Nat → UInt8)
    (turn : Nat) : ReadState :=
  { tBytes := call.arrived turn
    turn
    received := call.arrived turn
    buffer := fun address =>
      if address < call.arrived turn then stream address else buffer address
    requests := (List.range turn).map fun earlier =>
      (call.arrived earlier, requestedBytes call.count) }

theorem ReadCall.stateAt_zero (call : ReadCall)
    (stream buffer : Nat → UInt8) :
    call.stateAt stream buffer 0 = startRead buffer := by
  rw [ReadCall.stateAt, startRead]
  simp [ReadCall.arrived]

theorem ReadCall.read_stateAt (call : ReadCall)
    (stream buffer : Nat → UInt8) (turn : Nat) :
    call.read stream (call.stateAt stream buffer turn) =
      { call.stateAt stream buffer (turn + 1) with
        tBytes := call.arrived turn } := by
  have buffers : storeBytes stream (call.arrived turn) (call.arrived turn)
      (call.result turn).toNat (fun address =>
        if address < call.arrived turn then stream address
        else buffer address) =
      fun address => if address < call.arrived (turn + 1) then
        stream address else buffer address := by
    funext address
    rw [storeBytes, ReadCall.arrived]
    by_cases before : address < call.arrived turn
    · rw [if_neg (by omega), if_pos before, if_pos (by omega)]
    · by_cases here : address < call.arrived turn + (call.result turn).toNat
      · rw [if_pos ⟨by omega, here⟩, if_pos here]
        congr 1
        omega
      · rw [if_neg (by omega), if_neg before, if_neg here]
  simp only [ReadCall.read, ReadCall.stateAt, buffers, List.range_succ,
    List.map_append, List.map_cons, List.map_nil]
  rfl

/-- A turn with a positive result that reads in place. -/
theorem readLoop_stateAt {call : ReadCall} {turn : Nat}
    (positive : 0 < call.result turn)
    (room : call.arrived turn < call.count - 1)
    (stream buffer : Nat → UInt8) (fuel : Nat) :
    readLoop call stream (fuel + 1) (call.stateAt stream buffer turn) =
      readLoop call stream fuel (call.stateAt stream buffer (turn + 1)) := by
  have bounded := call.result_small turn
  have sized := call.sized
  have number : toSize (call.result turn) = (call.result turn).toNat :=
    toSize_positive positive (by omega)
  have sum : (call.arrived turn + toSize (call.result turn)) %
      0x10000000000000000 = call.arrived (turn + 1) := by
    rw [number, ReadCall.arrived]
    omega
  have guarded : (call.stateAt stream buffer turn).tBytes <
      call.count - 1 := room
  have going : ¬toSize (call.result (call.stateAt stream buffer turn).turn) ≤
      0 := by
    show ¬toSize (call.result turn) ≤ 0
    omega
  rw [readLoop, if_pos guarded]
  simp only [if_neg going, ReadCall.read_stateAt]
  congr 1
  rw [show (call.stateAt stream buffer turn).tBytes = call.arrived turn from
    rfl, show (call.stateAt stream buffer turn).turn = turn from rfl, sum]
  rfl

theorem readLoop_reaches {call : ReadCall} {last : Nat}
    (ending : call.EndsAt last) (stream buffer : Nat → UInt8) (fuel : Nat)
    {turn : Nat} (before : turn ≤ last) :
    readLoop call stream (turn + fuel) (startRead buffer) =
      readLoop call stream fuel (call.stateAt stream buffer turn) := by
  induction turn generalizing fuel with
  | zero => rw [ReadCall.stateAt_zero, Nat.zero_add]
  | succ turn induction =>
      have step := readLoop_stateAt (ending.positive turn before)
        (ending.room turn before) stream buffer fuel
      rw [← step, ← induction (fuel + 1) (Nat.le_of_succ_le before)]
      congr 1
      omega

/-! ## Where a call ends -/

/-- The requests of a run are those of its turns. -/
theorem ReadCall.InPlace.requests_inside {call : ReadCall} {last bound : Nat}
    (inPlace : call.InPlace last)
    (reads : ∀ turn < bound, call.Reads last turn) :
    ∀ request ∈ (List.range bound).map fun turn =>
        (call.arrived turn, requestedBytes call.count),
      request.1 + request.2 ≤ call.count := by
  intro request member
  obtain ⟨turn, inRange, rfl⟩ := List.mem_map.mp member
  exact inPlace.inside turn (reads turn (List.mem_range.mp inRange))

theorem toSsize_arrived {call : ReadCall} {turn : Nat}
    (inside : call.arrived turn ≤ call.count) :
    toSsize (call.arrived turn) = (call.arrived turn : Int) := by
  have sized := call.sized
  exact if_pos (by omega)

theorem ReadCall.InPlace.arrived_le {call : ReadCall} {last : Nat}
    (inPlace : call.InPlace last) (ending : call.EndsAt last) :
    call.arrived last ≤ call.count := by
  cases last with
  | zero => exact Nat.zero_le _
  | succ before =>
      have room := ending.room before (Nat.lt_succ_self before)
      have inside := inPlace.inside before ⟨Nat.le_succ before, room⟩
      have bounded := call.returned before
      rw [ReadCall.arrived]
      omega

theorem ReadCall.InPlace.exact {call : ReadCall} {last : Nat}
    (inPlace : call.InPlace last) (ending : call.EndsAt last)
    (stream buffer : Nat → UInt8) :
    ∃ fuel final requests,
      serialRead call stream buffer fuel =
          some ((call.arrived last : Int), final, requests) ∧
        (∀ request ∈ requests, request.1 + request.2 ≤ call.count) ∧
        ∀ address < call.arrived last, final address = stream address := by
  have returned := toSsize_arrived (inPlace.arrived_le ending)
  have reached := readLoop_reaches ending stream buffer 1 (Nat.le_refl last)
  have earlier : ∀ turn < last, call.Reads last turn := fun turn before =>
    ⟨Nat.le_of_lt before, ending.room turn before⟩
  by_cases room : call.arrived last < call.count - 1
  · have zero := inPlace.ends room
    have nothing : toSize (call.result
        (call.stateAt stream buffer last).turn) ≤ 0 := by
      show toSize (call.result last) ≤ 0
      rw [zero]
      decide
    have guarded : (call.stateAt stream buffer last).tBytes <
        call.count - 1 := room
    have ended : readLoop call stream 1 (call.stateAt stream buffer last) =
        some { call.stateAt stream buffer (last + 1) with
          tBytes := call.arrived last } := by
      rw [readLoop, if_pos guarded]
      simp only [if_pos nothing, ReadCall.read_stateAt]
    rw [ended] at reached
    refine ⟨last + 1, (call.stateAt stream buffer (last + 1)).buffer,
      (call.stateAt stream buffer (last + 1)).requests, ?_,
      inPlace.requests_inside ?_, ?_⟩
    · rw [serialRead, reached, Option.map_some]
      exact congrArg some (congrArg (·, _) returned)
    · intro turn before
      rcases Nat.lt_succ_iff_lt_or_eq.mp before with less | same
      · exact earlier turn less
      · rw [same]
        exact ⟨Nat.le_refl last, room⟩
    · intro address inside
      have within : address < call.arrived (last + 1) :=
        Nat.lt_add_right _ inside
      exact if_pos within
  · have full : ¬(call.stateAt stream buffer last).tBytes <
        call.count - 1 := room
    have ended : readLoop call stream 1 (call.stateAt stream buffer last) =
        some (call.stateAt stream buffer last) := by
      rw [readLoop, if_neg full]
    rw [ended] at reached
    refine ⟨last + 1, (call.stateAt stream buffer last).buffer,
      (call.stateAt stream buffer last).requests, ?_,
      inPlace.requests_inside earlier, ?_⟩
    · rw [serialRead, reached, Option.map_some]
      exact congrArg some (congrArg (·, _) returned)
    · intro address inside
      exact if_pos inside

/-! ## Exact calls read in place -/

/-- A request that has been made stays on record. -/
theorem readLoop_request {call : ReadCall} {stream : Nat → UInt8}
    {fuel : Nat} {state final : ReadState}
    (guarded : state.tBytes < call.count - 1)
    (run : readLoop call stream fuel state = some final) :
    (state.tBytes, requestedBytes call.count) ∈ final.requests := by
  cases fuel with
  | zero => cases run
  | succ fuel =>
      have here : (state.tBytes, requestedBytes call.count) ∈
          (call.read stream state).requests :=
        List.mem_append_right _ List.mem_cons_self
      rw [readLoop, if_pos guarded] at run
      simp only at run
      split at run
      · cases run
        exact here
      · have keeps := @readLoop_invariant call stream fun later =>
          (state.tBytes, requestedBytes call.count) ∈ later.requests
        refine keeps (fun later member _ => ?_) ?_ run
        · exact ⟨List.mem_append_left _ member,
            fun _ => List.mem_append_left _ member⟩
        · exact here

/-- Zeros arrive up to a position, then ones. -/
def markedStream (mark : Nat) : Nat → UInt8 :=
  fun position => if position < mark then 0 else 1

/-- After an error at a position, the count is below it or has wrapped, or a
later byte has been stored in front of it. -/
structure Spoiled (mark : Nat) (state : ReadState) : Prop where
  received : mark ≤ state.received
  spoiled : state.tBytes < mark ∨ state.tBytes = 0xFFFFFFFFFFFFFFFF ∨
    ∃ position < mark, state.buffer position = 1

theorem storeBytes_marked {mark received offset number : Nat}
    {buffer : Nat → UInt8} {position : Nat} (behind : mark ≤ received)
    (one : buffer position = 1 ∨
      offset ≤ position ∧ position < offset + number) :
    storeBytes (markedStream mark) received offset number buffer position =
      1 := by
  unfold storeBytes
  split
  · exact if_neg (by omega)
  · rename_i outside
    rcases one with kept | inside
    · exact kept
    · exact absurd inside outside

theorem Spoiled.read (call : ReadCall) {mark : Nat} {state : ReadState}
    (spoiled : Spoiled mark state) :
    Spoiled mark (call.read (markedStream mark) state) := by
  refine ⟨Nat.le_add_right_of_le spoiled.received, ?_⟩
  rcases spoiled.spoiled with below | wrapped | ⟨position, inside, one⟩
  · exact .inl below
  · exact .inr (.inl wrapped)
  · exact .inr (.inr ⟨position, inside,
      storeBytes_marked spoiled.received (.inl one)⟩)

/-- Another turn does not repair the state. -/
theorem Spoiled.advance {call : ReadCall} {mark : Nat} {state : ReadState}
    (spoiled : Spoiled mark state) (guarded : state.tBytes < call.count - 1)
    (going : toSize (call.result state.turn) ≠ 0) :
    Spoiled mark { call.read (markedStream mark) state with
      tBytes := (state.tBytes + toSize (call.result state.turn)) %
        0x10000000000000000 } := by
  have sized := call.sized
  have read := spoiled.read call
  refine ⟨read.received, ?_⟩
  rcases spoiled.spoiled with below | wrapped | ⟨position, inside, one⟩
  · rcases call.returned state.turn with failed | ⟨nonneg, _⟩
    · rw [failed, toSize_minus_one]
      by_cases zero : state.tBytes = 0
      · rw [zero]
        exact .inr (.inl rfl)
      · exact .inl (by simp only; omega)
    · have positive : 0 < call.result state.turn := by
        rcases Int.lt_or_eq_of_le nonneg with more | none
        · exact more
        · rw [← none] at going
          exact absurd (by decide) going
      exact .inr (.inr ⟨state.tBytes, below,
        storeBytes_marked spoiled.received (.inr (by omega))⟩)
  · omega
  · exact .inr (.inr ⟨position, inside,
      storeBytes_marked spoiled.received (.inl one)⟩)

/-- A spoiled state does not end with what had arrived. -/
theorem Spoiled.not_exact {mark : Nat} {state : ReadState}
    (spoiled : Spoiled mark state) (bounded : mark < 0x8000000000000000)
    (returned : toSsize state.tBytes = (mark : Int)) :
    ∃ address < mark, state.buffer address ≠ markedStream mark address := by
  unfold toSsize at returned
  rcases spoiled.spoiled with below | wrapped | ⟨position, inside, one⟩
  · rw [if_pos (by omega)] at returned
    omega
  · rw [wrapped, if_neg (by decide)] at returned
    omega
  · refine ⟨position, inside, ?_⟩
    rw [one, markedStream, if_pos inside]
    decide

/-- A run that meets -1 with room left does not end with what had arrived. -/
theorem readLoop_failed {call : ReadCall} {last fuel : Nat}
    {buffer : Nat → UInt8} {final : ReadState}
    (room : call.arrived last < call.count - 1)
    (failed : call.result last = -1)
    (run : readLoop call (markedStream (call.arrived last)) fuel
      (call.stateAt (markedStream (call.arrived last)) buffer last) =
        some final) : Spoiled (call.arrived last) final := by
  cases fuel with
  | zero => cases run
  | succ fuel =>
      have guarded : (call.stateAt (markedStream (call.arrived last)) buffer
          last).tBytes < call.count - 1 := room
      have going : ¬toSize (call.result (call.stateAt
          (markedStream (call.arrived last)) buffer last).turn) ≤ 0 := by
        show ¬toSize (call.result last) ≤ 0
        rw [failed, toSize_minus_one]
        decide
      have sized := call.sized
      rw [readLoop, if_pos guarded] at run
      simp only [if_neg going] at run
      refine readLoop_invariant (fun state spoiled guarded =>
        ⟨spoiled.read call, spoiled.advance guarded⟩) ?_ run
      refine ⟨Nat.le_add_right _ _, ?_⟩
      show (call.arrived last + toSize (call.result last)) %
          0x10000000000000000 < call.arrived last ∨
        (call.arrived last + toSize (call.result last)) %
          0x10000000000000000 = 0xFFFFFFFFFFFFFFFF ∨ _
      rw [failed, toSize_minus_one]
      by_cases zero : call.arrived last = 0
      · rw [zero]
        exact .inr (.inl rfl)
      · exact .inl (by omega)

theorem ReadCall.Exact.inPlace {call : ReadCall} (exact : call.Exact)
    (stop : ∃ turn, call.result turn ≤ 0) :
    ∃ last, call.EndsAt last ∧ call.InPlace last := by
  obtain ⟨last, ending, every⟩ := exact stop
  refine ⟨last, ending, ?_, ?_⟩
  · rintro turn ⟨before, room⟩
    obtain ⟨fuel, final, requests, run, inside, _⟩ :=
      every (fun _ => 0) fun _ => 0
    obtain ⟨state, looped, same⟩ := Option.map_eq_some_iff.mp run
    simp only [Prod.mk.injEq] at same
    obtain ⟨_, _, rfl⟩ := same
    have longer := readLoop_more turn looped
    rw [Nat.add_comm, readLoop_reaches ending _ _ fuel before] at longer
    exact inside _ (readLoop_request room longer)
  · intro room
    rcases call.returned last with failed | ⟨nonneg, _⟩
    · obtain ⟨fuel, final, requests, run, _, bytes⟩ :=
        every (markedStream (call.arrived last)) fun _ => 0
      obtain ⟨state, looped, same⟩ := Option.map_eq_some_iff.mp run
      simp only [Prod.mk.injEq] at same
      obtain ⟨returned, rfl, _⟩ := same
      have longer := readLoop_more last looped
      rw [Nat.add_comm, readLoop_reaches ending _ _ fuel (Nat.le_refl last)]
        at longer
      have sized := call.sized
      obtain ⟨address, inside, other⟩ :=
        (readLoop_failed room failed longer).not_exact (by omega) returned
      exact absurd (bytes address inside) other
    · have ended := ending.stops
      omega

/-! ## The condition on the results -/

theorem ReadCall.arrived_mono (call : ReadCall) {turn later : Nat}
    (before : turn ≤ later) : call.arrived turn ≤ call.arrived later := by
  induction before with
  | refl => exact Nat.le_refl _
  | step _ induction => exact Nat.le_add_right_of_le induction

theorem ReadCall.Tame.inPlace {call : ReadCall} {last : Nat}
    (tame : call.Tame last) (ending : call.EndsAt last) :
    call.InPlace last := by
  refine ⟨?_, tame.ends⟩
  rintro turn ⟨before, room⟩
  have least := call.least
  by_cases small : call.count ≤ 512
  · have start : turn = 0 := by
      rcases tame.small small with empty | filled
      · rcases Nat.eq_zero_or_pos last with zero | positive
        · omega
        · have first := ending.positive 0 positive
          omega
      · rcases Nat.eq_zero_or_pos turn with zero | positive
        · exact zero
        · have first : call.arrived 1 = (call.result 0).toNat :=
            Nat.zero_add _
          have more : call.arrived 1 ≤ call.arrived turn :=
            call.arrived_mono positive
          omega
    rw [start, ReadCall.arrived, Nat.zero_add]
    exact requestedBytes_le call.count
  · have behind := tame.large (by omega) turn before room
    rw [requestedBytes, if_pos (by omega)]
    omega

theorem ReadCall.InPlace.tame {call : ReadCall} {last : Nat}
    (inPlace : call.InPlace last) (ending : call.EndsAt last) :
    call.Tame last := by
  have least := call.least
  refine ⟨fun small => ?_, fun large turn before room => ?_, inPlace.ends⟩
  · rcases Nat.eq_zero_or_pos last with zero | positive
    · have ends := inPlace.ends
      rw [zero] at ends
      exact .inl (ends (show 0 < call.count - 1 by omega))
    · have first : call.arrived 1 = (call.result 0).toNat := Nat.zero_add _
      have more := ending.positive 0 positive
      refine .inr (Nat.le_of_not_lt fun room => ?_)
      have inside := inPlace.inside 1 ⟨positive, by omega⟩
      rw [requestedBytes, if_neg (by omega)] at inside
      omega
  · have inside := inPlace.inside turn ⟨before, room⟩
    rw [requestedBytes, if_pos (by omega)] at inside
    omega

/-- A call returns what it read exactly when the sizes of its reads are
tame. -/
theorem serialRead_exact_iff (call : ReadCall) :
    call.Exact ↔
      ((∃ turn, call.result turn ≤ 0) →
        ∃ last, call.EndsAt last ∧ call.Tame last) := by
  constructor
  · intro exact stop
    obtain ⟨last, ending, inPlace⟩ := exact.inPlace stop
    exact ⟨last, ending, inPlace.tame ending⟩
  · intro tame stop
    obtain ⟨last, ending, tamed⟩ := tame stop
    exact ⟨last, ending, (tamed.inPlace ending).exact ending⟩

/-- Twenty bytes arrive, then the line is empty: a further `read` returns 0 or
-1. -/
def twentyBytes (failed : Bool) : ReadCall :=
  { count := 256
    least := by decide
    sized := by decide
    result := fun turn => if turn = 0 then 20
      else if failed = true then -1 else 0
    returned := by
      intro turn
      have request : requestedBytes 256 = 256 := by decide
      rw [request]
      split
      · omega
      · split <;> omega }

theorem twentyBytes_overruns (failed : Bool) :
    ¬(twentyBytes failed).Exact := by
  intro exact
  have stop : (twentyBytes failed).result 1 ≤ 0 := by
    cases failed <;> decide
  obtain ⟨last, ending, inPlace⟩ := exact.inPlace ⟨1, stop⟩
  have first : (twentyBytes failed).result 0 = 20 := rfl
  have arrived : (twentyBytes failed).arrived 1 = 20 := rfl
  have count : (twentyBytes failed).count = 256 := rfl
  have request : requestedBytes (twentyBytes failed).count = 256 := rfl
  have nothing : (twentyBytes failed).arrived 0 = 0 := rfl
  have later : 1 ≤ last := by
    rcases Nat.eq_zero_or_pos last with zero | positive
    · have stops := ending.stops
      rw [zero] at stops
      omega
    · exact positive
  have inside := inPlace.inside 1 ⟨later, by omega⟩
  omega

/-- The second `read` asks for bytes behind the buffer. -/
theorem short_answer_not_exact :
    ¬(twentyBytes true).Exact ∧ ¬(twentyBytes false).Exact :=
  ⟨twentyBytes_overruns true, twentyBytes_overruns false⟩

end RtA100
