import RtA100.Library.Search

/-!
# Tokens of C text

`strtok_r` skips separators and cuts the text at the next one.  Successive
calls return the non-empty pieces between the separators, each at its place.
-/

namespace Library

/-- A part of a text and its offset. -/
structure Token where
  offset : Nat
  text : CString
deriving DecidableEq

/-- The text from the first token on. -/
def tokenStart (stop : Char) (text : CString) : CString :=
  text.dropWhile (· = stop)

/-- The text behind the separator that ends the first token. -/
def tokenRest (stop : Char) (text : CString) : CString :=
  ((tokenStart stop text).dropWhile (· ≠ stop)).tail

theorem tokenStart_length_le (stop : Char) (text : CString) :
    (tokenStart stop text).length ≤ text.length :=
  (List.dropWhile_suffix _).length_le

theorem tokenRest_length_le (stop : Char) (text : CString) :
    (tokenRest stop text).length ≤ (tokenStart stop text).length - 1 := by
  rw [tokenRest, List.length_tail]
  exact Nat.sub_le_sub_right (List.dropWhile_suffix _).length_le 1

/-- `strtok_r`: the token, and what its save pointer then points to. -/
def strtokR (stop : Char) (rest : Token) : Option (Token × Token) :=
  if tokenStart stop rest.text = [] then none
  else
    some
      ({ offset := rest.offset +
           (rest.text.length - (tokenStart stop rest.text).length)
         text := (tokenStart stop rest.text).takeWhile (· ≠ stop) },
       { offset := rest.offset +
           (rest.text.length - (tokenRest stop rest.text).length)
         text := tokenRest stop rest.text })

theorem strtokR_shorter {stop : Char} {rest : Token} {found : Token × Token}
    (result : strtokR stop rest = some found) :
    found.2.text.length < rest.text.length := by
  unfold strtokR at result
  split at result
  · cases result
  · rename_i nonempty
    cases result
    have skipped := tokenStart_length_le stop rest.text
    have cut := tokenRest_length_le stop rest.text
    have positive := List.length_pos_iff.mpr nonempty
    exact Nat.lt_of_le_of_lt cut (by omega)

/-- The tokens that successive calls of `strtok_r` return. -/
def tokens (stop : Char) (rest : Token) : List Token :=
  match _result : strtokR stop rest with
  | none => []
  | some found => found.1 :: tokens stop found.2
termination_by rest.text.length
decreasing_by exact strtokR_shorter _result

/-! ## Pieces between separators -/

/-- A character in front of the first piece. -/
def lengthen (offset : Nat) (character : Char) : List Token → List Token
  | [] => []
  | first :: others =>
      { offset, text := character :: first.text } :: others

/-- All pieces between separators, the empty ones too. -/
def pieces (stop : Char) : Nat → CString → List Token
  | offset, [] => [{ offset, text := [] }]
  | offset, character :: rest =>
      if character = stop then
        { offset, text := [] } :: pieces stop (offset + 1) rest
      else lengthen offset character (pieces stop (offset + 1) rest)

theorem pieces_cons (stop : Char) (offset : Nat) (text : CString) :
    ∃ first others, pieces stop offset text = first :: others ∧
      first.offset = offset := by
  induction text generalizing offset with
  | nil => exact ⟨_, _, rfl, rfl⟩
  | cons character rest induction =>
      unfold pieces
      split
      · exact ⟨_, _, rfl, rfl⟩
      · obtain ⟨first, others, same, _⟩ := induction (offset + 1)
        rw [same]
        exact ⟨_, _, rfl, rfl⟩

theorem pieces_append (stop : Char) (offset : Nat) (front rest : CString) :
    pieces stop offset (front ++ stop :: rest) =
      pieces stop offset front ++
        pieces stop (offset + front.length + 1) rest := by
  induction front generalizing offset with
  | nil =>
      rw [List.nil_append]
      exact if_pos rfl
  | cons character front induction =>
      have shifted : offset + 1 + front.length + 1 =
          offset + (character :: front).length + 1 := by
        rw [List.length_cons]
        omega
      rw [List.cons_append, pieces, pieces, induction, shifted]
      split
      · rfl
      · obtain ⟨first, others, same, _⟩ := pieces_cons stop (offset + 1) front
        rw [same]
        rfl

theorem pieces_free {stop : Char} {text : CString} (offset : Nat)
    (free : stop ∉ text) : pieces stop offset text = [{ offset, text }] := by
  induction text generalizing offset with
  | nil => rfl
  | cons character rest induction =>
      rw [List.mem_cons, not_or] at free
      rw [pieces, if_neg (Ne.symm free.1), induction (offset + 1) free.2]
      rfl

/-- Every piece lies in the text. -/
theorem pieces_within {stop : Char} {offset : Nat} {text : CString}
    {piece : Token} (member : piece ∈ pieces stop offset text) :
    offset ≤ piece.offset ∧
      piece.offset + piece.text.length ≤ offset + text.length := by
  induction text generalizing offset piece with
  | nil =>
      cases List.mem_singleton.mp member
      exact ⟨Nat.le_refl _, Nat.le_refl _⟩
  | cons character rest induction =>
      rw [List.length_cons]
      rw [pieces] at member
      split at member
      · cases List.mem_cons.mp member with
        | inl here =>
            rw [here]
            exact ⟨Nat.le_refl _, Nat.le_add_right _ _⟩
        | inr later =>
            have within := induction later
            omega
      · obtain ⟨first, others, same, starts⟩ :=
          pieces_cons stop (offset + 1) rest
        rw [same] at member
        cases List.mem_cons.mp member with
        | inl here =>
            have within := @induction (offset + 1) first
              (same ▸ List.mem_cons_self)
            rw [here]
            refine ⟨Nat.le_refl _, ?_⟩
            change offset + (first.text.length + 1) ≤ _
            omega
        | inr later =>
            have within := @induction (offset + 1) piece
              (same ▸ List.mem_cons_of_mem first later)
            omega

/-- The pieces stand in order. -/
theorem pieces_ordered (stop : Char) (offset : Nat) (text : CString) :
    (pieces stop offset text).Pairwise
      fun piece later => piece.offset < later.offset := by
  induction text generalizing offset with
  | nil => exact List.pairwise_singleton _ _
  | cons character rest induction =>
      have ordered := induction (offset + 1)
      rw [pieces]
      split
      · refine List.pairwise_cons.mpr ⟨?_, ordered⟩
        intro later member
        exact (pieces_within member).1
      · obtain ⟨first, others, same, _⟩ := pieces_cons stop (offset + 1) rest
        rw [same] at ordered ⊢
        have parts := List.pairwise_cons.mp ordered
        refine List.pairwise_cons.mpr ⟨?_, parts.2⟩
        intro later member
        exact (pieces_within (same ▸ List.mem_cons_of_mem first member)).1

/-- In order, only one of the parts stands at the offset of another. -/
theorem filter_offset {parts : List Token} {part : Token}
    (ordered : parts.Pairwise fun piece later => piece.offset < later.offset)
    (member : part ∈ parts) :
    (parts.filter fun piece => piece.offset = part.offset) = [part] := by
  induction parts with
  | nil => cases member
  | cons first others induction =>
      have rest := List.pairwise_cons.mp ordered
      cases List.mem_cons.mp member with
      | inl here =>
          have apart : ∀ piece ∈ others,
              ¬decide (piece.offset = part.offset) = true := by
            intro piece later same
            have before := rest.1 piece later
            rw [← here, of_decide_eq_true same] at before
            exact Nat.lt_irrefl _ before
          rw [← here, List.filter_cons, if_pos (decide_eq_true rfl),
            List.filter_eq_nil_iff.mpr apart]
      | inr later =>
          have before := rest.1 part later
          rw [List.filter_cons,
            if_neg fun same => Nat.ne_of_lt before (of_decide_eq_true same)]
          exact induction rest.2 later

/-! ## The tokens are the non-empty pieces -/

theorem tokenStart_skip (stop : Char) (rest : CString) :
    tokenStart stop (stop :: rest) = tokenStart stop rest :=
  List.dropWhile_cons_of_pos (decide_eq_true rfl)

theorem strtokR_skip (stop : Char) (offset : Nat) (rest : CString) :
    strtokR stop { offset, text := stop :: rest } =
      strtokR stop { offset := offset + 1, text := rest } := by
  have skipped := tokenStart_length_le stop rest
  have cut := tokenRest_length_le stop rest
  have first : offset + ((stop :: rest).length -
      (tokenStart stop rest).length) =
        offset + 1 + (rest.length - (tokenStart stop rest).length) := by
    rw [List.length_cons]
    omega
  have following : offset + ((stop :: rest).length -
      (tokenRest stop rest).length) =
        offset + 1 + (rest.length - (tokenRest stop rest).length) := by
    rw [List.length_cons]
    omega
  have sameRest : tokenRest stop (stop :: rest) = tokenRest stop rest := by
    rw [tokenRest, tokenStart_skip, tokenRest]
  unfold strtokR
  rw [tokenStart_skip, sameRest, first, following]

theorem tokenStart_line {stop first : Char} {rest : CString}
    (different : first ≠ stop) :
    tokenStart stop (first :: rest) = first :: rest :=
  List.dropWhile_cons_of_neg fun same => different (of_decide_eq_true same)

theorem strtokR_last {stop first : Char} {line : CString} (offset : Nat)
    (free : stop ∉ first :: line) :
    strtokR stop { offset, text := first :: line } =
      some ({ offset, text := first :: line },
        { offset := offset + (first :: line).length, text := [] }) := by
  have different : first ≠ stop := fun same =>
    free (same ▸ List.mem_cons_self)
  have kept : ∀ character ∈ first :: line,
      decide (character ≠ stop) = true :=
    ne_of_not_mem free
  have taken : (first :: line).takeWhile (· ≠ stop) = first :: line := by
    simpa using @List.takeWhile_append_of_pos _ _ _ [] kept
  have dropped : (first :: line).dropWhile (· ≠ stop) = [] := by
    simpa using @List.dropWhile_append_of_pos _ _ _ [] kept
  unfold strtokR tokenRest
  rw [tokenStart_line different, if_neg (List.cons_ne_nil _ _), taken,
    dropped, Nat.sub_self]
  rfl

theorem strtokR_line {stop first : Char} {line : CString} (offset : Nat)
    (rest : CString) (free : stop ∉ first :: line) :
    strtokR stop { offset, text := first :: line ++ stop :: rest } =
      some ({ offset, text := first :: line },
        { offset := offset + (first :: line).length + 1, text := rest }) := by
  have different : first ≠ stop := fun same =>
    free (same ▸ List.mem_cons_self)
  have taken := takeWhile_stop rest free
  have dropped := dropWhile_stop rest free
  have behind : (first :: line ++ stop :: rest).length - rest.length =
      (first :: line).length + 1 := by
    rw [List.length_append, List.length_cons, List.length_cons]
    omega
  unfold strtokR tokenRest
  rw [List.cons_append] at taken dropped behind ⊢
  rw [tokenStart_line different, if_neg (List.cons_ne_nil _ _), taken,
    dropped, List.tail_cons, behind, Nat.sub_self]
  rfl

/-- Whether a piece is a token. -/
def Token.filled (piece : Token) : Bool := !piece.text.isEmpty

/-- A call of `strtok_r` returns the first piece that is a token, and leaves
the pieces behind it. -/
theorem strtokR_pieces {stop : Char} {offset : Nat} {text : CString}
    {found : Token × Token}
    (result : strtokR stop { offset, text } = some found) :
    (pieces stop offset text).filter Token.filled =
      found.1 ::
        (pieces stop found.2.offset found.2.text).filter Token.filled := by
  induction text generalizing offset with
  | nil => cases result
  | cons first rest induction =>
      by_cases separator : first = stop
      · rw [separator] at result ⊢
        rw [strtokR_skip] at result
        rw [pieces, if_pos rfl, List.filter_cons_of_neg Bool.false_ne_true]
        exact induction result
      · by_cases member : stop ∈ first :: rest
        · obtain ⟨line, following, cut, free⟩ :=
            List.eq_append_cons_of_mem member
          cases line with
          | nil => exact absurd (List.cons.inj cut).1 separator
          | cons other line =>
              rw [cut] at result ⊢
              rw [strtokR_line offset following free] at result
              cases result
              rw [pieces_append, pieces_free offset free]
              rfl
        · rw [strtokR_last offset member] at result
          cases result
          rw [pieces_free offset member]
          rfl

theorem strtokR_none {stop : Char} {offset : Nat} {text : CString}
    (result : strtokR stop { offset, text } = none) :
    (pieces stop offset text).filter Token.filled = [] := by
  induction text generalizing offset with
  | nil => rfl
  | cons first rest induction =>
      by_cases separator : first = stop
      · rw [separator] at result ⊢
        rw [strtokR_skip] at result
        rw [pieces, if_pos rfl, List.filter_cons_of_neg Bool.false_ne_true]
        exact induction result
      · unfold strtokR at result
        rw [tokenStart_line separator, if_neg (List.cons_ne_nil _ _)] at result
        cases result

theorem tokens_eq_pieces (stop : Char) (rest : Token) :
    tokens stop rest =
      (pieces stop rest.offset rest.text).filter Token.filled := by
  fun_induction tokens stop rest with
  | case1 rest result => exact (strtokR_none result).symm
  | case2 rest found result induction =>
      rw [induction]
      exact (strtokR_pieces result).symm

end Library
