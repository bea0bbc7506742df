import RtA100.Library.Scan
import RtA100.Library.Search

/-!
# Streams read with `fgets`

A call of `fgets` takes the next piece of a stream: up to a newline, and at most
as many characters as there is room for.  It stores the piece and a zero over
the front of the memory.  A loop that reads every piece into the same memory
leaves the last one, which is `lastChunk` of the stream.  Of a stream of one
line that is what stands behind the full pieces.
-/

namespace Library

/-- The next piece of a stream, and the rest. -/
def takePiece : Nat → CString → CString × CString
  | 0, stream => ([], stream)
  | _ + 1, [] => ([], [])
  | room + 1, character :: stream =>
      if character = '\n' then ([character], stream)
      else
        let (piece, rest) := takePiece room stream
        (character :: piece, rest)

/-- The memory with a string stored at its front. -/
def storeString (memory : List Char) (text : CString) : List Char :=
  text ++ '\x00' :: memory.drop (text.length + 1)

/-- `fgets`, which stores nothing at the end of the stream. -/
def fgets (room : Nat) (memory : List Char) :
    CString → Option (List Char × CString)
  | [] => none
  | character :: stream =>
      let (piece, rest) := takePiece room (character :: stream)
      some (storeString memory piece, rest)

variable {room : Nat}

theorem takePiece_append (room : Nat) (stream : CString) :
    (takePiece room stream).1 ++ (takePiece room stream).2 = stream := by
  induction stream generalizing room with
  | nil => cases room <;> rfl
  | cons character stream induction =>
      cases room with
      | zero => rfl
      | succ room =>
          rw [takePiece]
          split
          · rfl
          · exact congrArg (character :: ·) (induction room)

theorem takePiece_length_le (room : Nat) (stream : CString) :
    (takePiece room stream).1.length ≤ room := by
  induction stream generalizing room with
  | nil => cases room <;> exact Nat.zero_le _
  | cons character stream induction =>
      cases room with
      | zero => exact Nat.le_refl 0
      | succ room =>
          rw [takePiece]
          split
          · exact Nat.succ_le_succ (Nat.zero_le room)
          · exact Nat.succ_le_succ (induction room)

/-- With room for a character a call takes one. -/
theorem takePiece_shorter (positive : 0 < room) {stream : CString}
    (something : stream ≠ []) :
    (takePiece room stream).2.length < stream.length := by
  have split := takePiece_append room stream
  have taken : (takePiece room stream).1 ≠ [] := by
    cases room with
    | zero => exact absurd positive (Nat.lt_irrefl 0)
    | succ room =>
        cases stream with
        | nil => exact absurd rfl something
        | cons character stream =>
            rw [takePiece]
            split <;> exact List.cons_ne_nil _ _
  have lengths := congrArg List.length split
  have positiveLength := List.length_pos_iff.mpr taken
  rw [List.length_append] at lengths
  omega

theorem fgets_next (room : Nat) (memory : List Char) {stream : CString}
    (something : stream ≠ []) :
    fgets room memory stream =
      some (storeString memory (takePiece room stream).1,
        (takePiece room stream).2) := by
  cases stream with
  | nil => exact absurd rfl something
  | cons character stream => rfl

theorem fgets_shorter (positive : 0 < room) {memory after : List Char}
    {stream rest : CString}
    (taken : fgets room memory stream = some (after, rest)) :
    rest.length < stream.length := by
  by_cases something : stream = []
  · rw [something] at taken
    cases taken
  · rw [fgets_next room memory something] at taken
    cases taken
    exact takePiece_shorter positive something

/-- The loop that calls `fgets` to the end of a stream. -/
def fgetsLoop (positive : 0 < room) (memory : List Char) (stream : CString) :
    List Char :=
  match _taken : fgets room memory stream with
  | none => memory
  | some (memory, rest) => fgetsLoop positive memory rest
termination_by stream.length
decreasing_by exact fgets_shorter positive _taken

theorem fgetsLoop_nil (positive : 0 < room) (memory : List Char) :
    fgetsLoop positive memory [] = memory := by
  rw [fgetsLoop, fgets]

theorem fgetsLoop_next (positive : 0 < room) (memory : List Char)
    {stream : CString} (something : stream ≠ []) :
    fgetsLoop positive memory stream =
      fgetsLoop positive (storeString memory (takePiece room stream).1)
        (takePiece room stream).2 := by
  rw [fgetsLoop, fgets_next room memory something]

/-- What the storing of a piece keeps, the loop keeps. -/
theorem fgetsLoop_keeps {holds : List Char → Prop} (positive : 0 < room)
    (stored : ∀ memory piece, piece.length ≤ room → holds memory →
      holds (storeString memory piece))
    {memory : List Char} (initially : holds memory) (stream : CString) :
    holds (fgetsLoop positive memory stream) := by
  by_cases nothing : stream = []
  · rw [nothing, fgetsLoop_nil]
    exact initially
  · rw [fgetsLoop_next positive memory nothing]
    refine fgetsLoop_keeps positive stored ?_ _
    exact stored memory _ (takePiece_length_le room stream) initially
termination_by stream.length
decreasing_by exact takePiece_shorter positive nothing

theorem storeString_terminated (memory : List Char) (text : CString) :
    '\x00' ∈ storeString memory text :=
  List.mem_append_right text List.mem_cons_self

/-- A piece and its zero stay in front of what lies behind the room. -/
theorem storeString_behind {memory : List Char} {text : CString}
    (short : text.length ≤ room) :
    (storeString memory text).drop (room + 1) = memory.drop (room + 1) := by
  have front : (text ++ ['\x00']).length ≤ room + 1 := by
    rw [List.length_append, List.length_singleton]
    omega
  have split : storeString memory text =
      (text ++ ['\x00']) ++ memory.drop (text.length + 1) := by
    rw [storeString, List.append_assoc]
    rfl
  rw [split, List.drop_append, List.drop_eq_nil_of_le front, List.nil_append,
    List.drop_drop, List.length_append, List.length_singleton]
  congr 1
  omega

theorem storeString_string {memory : List Char} {text : CString}
    (free : '\x00' ∉ text) : untilNul (storeString memory text) = text :=
  takeWhile_stop _ free

/-! ## The last piece -/

theorem lastChunk_begin (positive : 0 < room) (next : Char)
    (rest : CString) :
    lastChunk room [] (next :: rest) = lastChunk room [next] rest := by
  have unfinished : ¬(([] : CString).length = room ∨
      ([] : CString).getLast? = some '\n') := by
    rintro (full | ended)
    · exact Nat.ne_of_lt positive full
    · cases ended
  exact if_neg unfinished

/-- A piece begun behind `chunk` ends where the next call takes over. -/
theorem lastChunk_piece {chunk : CString} {left : Nat} (positive : 0 < room)
    (begun : chunk.length + left = room)
    (goesOn : chunk.getLast? ≠ some '\n') (stream : CString) :
    lastChunk room chunk stream =
      if (takePiece left stream).2 = [] then
        chunk ++ (takePiece left stream).1
      else lastChunk room [] (takePiece left stream).2 := by
  induction stream generalizing chunk left with
  | nil => cases left <;> simp [takePiece, lastChunk]
  | cons next stream induction =>
      cases left with
      | zero =>
          rw [Nat.add_zero] at begun
          rw [lastChunk, if_pos (Or.inl begun), ← lastChunk_begin positive]
          exact (if_neg (List.cons_ne_nil next stream)).symm
      | succ left =>
          have unfinished : ¬(chunk.length = room ∨
              chunk.getLast? = some '\n') := by
            rintro (full | ended)
            · omega
            · exact goesOn ended
          rw [lastChunk, if_neg unfinished, takePiece]
          by_cases newline : next = '\n'
          · subst newline
            rw [if_pos rfl]
            cases stream with
            | nil => rfl
            | cons second stream =>
                have ended : (chunk ++ ['\n']).getLast? = some '\n' :=
                  List.getLast?_concat
                rw [lastChunk, if_pos (Or.inr ended),
                  ← lastChunk_begin positive]
                exact (if_neg (List.cons_ne_nil second stream)).symm
          · have longer : (chunk ++ [next]).length + left = room := by
              rw [List.length_append, List.length_singleton]
              omega
            have stillGoesOn : (chunk ++ [next]).getLast? ≠ some '\n' := by
              rw [List.getLast?_concat]
              exact fun same => newline (Option.some.inj same)
            rw [if_neg newline, induction longer stillGoesOn]
            simp only [List.append_assoc, List.singleton_append]

theorem lastChunk_next (positive : 0 < room) (stream : CString) :
    lastChunk room [] stream =
      if (takePiece room stream).2 = [] then (takePiece room stream).1
      else lastChunk room [] (takePiece room stream).2 := by
  have goesOn : ([] : CString).getLast? ≠ some '\n' :=
    (Option.some_ne_none '\n').symm
  exact lastChunk_piece positive (Nat.zero_add room) goesOn stream

/-- The loop leaves the last piece of the stream. -/
theorem fgetsLoop_string (positive : 0 < room) {stream : CString}
    (something : stream ≠ []) (free : '\x00' ∉ stream)
    (memory : List Char) :
    untilNul (fgetsLoop positive memory stream) =
      lastChunk room [] stream := by
  have split := takePiece_append room stream
  rw [← split, List.mem_append, not_or] at free
  rw [fgetsLoop_next positive memory something, lastChunk_next positive]
  by_cases ended : (takePiece room stream).2 = []
  · rw [if_pos ended, ended, fgetsLoop_nil]
    exact storeString_string free.1
  · rw [if_neg ended]
    exact fgetsLoop_string positive ended free.2 _
termination_by stream.length
decreasing_by exact takePiece_shorter positive something

/-! ## Streams of one line -/

theorem not_mem_dropLast {text : CString} {character : Char}
    (free : character ∉ text) : character ∉ text.dropLast :=
  fun member => free ((List.dropLast_sublist text).subset member)

/-- The pieces of a line are cut by their length alone. -/
theorem takePiece_oneLine {stream : CString}
    (oneLine : '\n' ∉ stream.dropLast) (room : Nat) :
    takePiece room stream = (stream.take room, stream.drop room) := by
  induction stream generalizing room with
  | nil => cases room <;> rfl
  | cons character stream induction =>
      cases room with
      | zero => rfl
      | succ room =>
          cases stream with
          | nil =>
              rw [takePiece]
              split
              · simp
              · cases room <;> rfl
          | cons second stream =>
              rw [List.dropLast_cons_cons, List.mem_cons, not_or] at oneLine
              rw [takePiece, if_neg (Ne.symm oneLine.1),
                induction oneLine.2]
              rfl

/-- Of a line the last call leaves what stands behind the full pieces. -/
theorem lastChunk_oneLine (positive : 0 < room) {stream : CString}
    (oneLine : '\n' ∉ stream.dropLast) :
    lastChunk room [] stream =
      stream.drop ((stream.length - 1) / room * room) := by
  rw [lastChunk_next positive, takePiece_oneLine oneLine]
  by_cases short : stream.length ≤ room
  · have ended : stream.drop room = [] := List.drop_eq_nil_of_le short
    have first : (stream.length - 1) / room = 0 :=
      Nat.div_eq_of_lt (by omega)
    rw [if_pos ended, first, Nat.zero_mul, List.drop_zero]
    exact List.take_of_length_le short
  · have more : stream.drop room ≠ [] := by
      rw [Ne, List.drop_eq_nil_iff]
      exact short
    have restOneLine : '\n' ∉ (stream.drop room).dropLast := by
      rw [← List.take_append_drop room stream,
        List.dropLast_append_of_ne_nil more, List.mem_append,
        not_or] at oneLine
      exact oneLine.2
    have turns : (stream.length - 1) / room =
        (stream.length - 1 - room) / room + 1 :=
      Nat.div_eq_sub_div positive (by omega)
    rw [if_neg more, lastChunk_oneLine positive restOneLine, List.drop_drop,
      List.length_drop, turns, Nat.succ_mul, Nat.sub_right_comm, Nat.add_comm]
termination_by stream.length
decreasing_by
  rw [List.length_drop]
  omega

/-- A line is left whole exactly when there is room for it. -/
theorem lastChunk_oneLine_iff (positive : 0 < room) {stream : CString}
    (oneLine : '\n' ∉ stream.dropLast) :
    lastChunk room [] stream = stream ↔ stream.length ≤ room := by
  rw [lastChunk_oneLine positive oneLine]
  by_cases short : stream.length ≤ room
  · have first : (stream.length - 1) / room = 0 :=
      Nat.div_eq_of_lt (by omega)
    rw [first, Nat.zero_mul]
    exact iff_of_true List.drop_zero short
  · refine iff_of_false (fun whole => ?_) short
    have turns : 0 < (stream.length - 1) / room :=
      Nat.div_pos (by omega) positive
    have cut : room ≤ (stream.length - 1) / room * room :=
      Nat.le_mul_of_pos_left room turns
    have lengths := congrArg List.length whole
    rw [List.length_drop] at lengths
    omega

end Library
