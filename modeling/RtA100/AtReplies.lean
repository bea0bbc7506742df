import Mathlib.Data.Nat.Find
import RtA100.ModemConnect

/-!
# Replies to AT commands

`send_at_command` looks for the end of a reply in what one read has returned:
every read starts at the beginning of the response buffer, and `OK` is looked
for before an error, wherever the two stand.
-/

namespace RtA100

open Library

def okReply : CString := "OK\r\n".toList

def errorReply : CString := "\r\nERROR\r\n".toList

def cmeError : CString := "+CME ERROR:".toList

def holdsOk (received : CString) : Bool :=
  strstr (untilNul received) okReply

def holdsError (received : CString) : Bool :=
  strstr (untilNul received) errorReply ||
    strstr (untilNul received) cmeError

/-- The command that `send_at_command` has written, its result, the response
buffer, and what it has not read of the reply. -/
structure AtResult (size : Nat) where
  sent : CString
  error : FX650Error
  resp : CArray size
  rest : List CString

/-- The loop of `send_at_command` for the reads of a reply.  After the last of
them `select` reports no more. -/
def awaitReply (size : Nat) (command : CString) :
    List CString → CArray size → Option (AtResult size)
  | [], resp => some { sent := command, error := .atTimeout, resp, rest := [] }
  | received :: rest, _ =>
      if fits : received.length < size then
        if holdsOk received then
          some { sent := command, error := .ok,
                 resp := { text := received, fits }, rest }
        else if holdsError received then
          some { sent := command, error := .atError,
                 resp := { text := received, fits }, rest }
        else awaitReply size command rest { text := received, fits }
      else none

/-- `send_at_command` -/
def sendAtCommand (size : Nat) (command : CString) (resp : CArray size)
    (reads : List CString) : Option (AtResult size) :=
  awaitReply size command reads resp

/-! ## What a reply says -/

def OkAt (text : CString) (position : Nat) : Prop :=
  okReply <+: text.drop position

def ErrorAt (text : CString) (position : Nat) : Prop :=
  errorReply <+: text.drop position ∨ cmeError <+: text.drop position

instance (text : CString) (position : Nat) :
    Decidable (OkAt text position) :=
  inferInstanceAs (Decidable (_ <+: _))

instance (text : CString) (position : Nat) :
    Decidable (ErrorAt text position) :=
  inferInstanceAs (Decidable (_ <+: _ ∨ _ <+: _))

def OkFirst (text : CString) : Prop :=
  ∃ position, OkAt text position ∧ ∀ earlier < position, ¬ErrorAt text earlier

def ErrorFirst (text : CString) : Prop :=
  ∃ position, ErrorAt text position ∧ ∀ earlier < position, ¬OkAt text earlier

/-- The successful reads that a reply arrives in. -/
structure Splitting (size : Nat) where
  reads : List CString
  successful : ∀ received ∈ reads, received ≠ []
  fits : reads.flatten.length < size

def Splitting.text {size : Nat} (splitting : Splitting size) : CString :=
  splitting.reads.flatten

/-- The result is that of the first marker in the reply and of one read of the
whole reply, and the response buffer holds what has been read. -/
structure AtResult.Recognises {size : Nat} (result : AtResult size)
    (command text : CString) (resp : CArray size) : Prop where
  written : result.sent = command
  ok : OkFirst text → result.error = .ok
  error : ErrorFirst text → result.error = .atError
  received : OkFirst text ∨ ErrorFirst text →
    result.resp.text ++ result.rest.flatten = text
  single : ∃ other, sendAtCommand size command resp [text] = some other ∧
    other.error = result.error

def Splitting.Recognised {size : Nat} (splitting : Splitting size) : Prop :=
  ∀ command resp, ∃ result,
    sendAtCommand size command resp splitting.reads = some result ∧
      result.Recognises command splitting.text resp

/-- The first read holds the marker, and no `OK` follows an error. -/
structure Splitting.FirstReadDecides {size : Nat}
    (splitting : Splitting size) : Prop where
  ok : OkFirst splitting.text → holdsOk (splitting.reads.headD []) = true
  error : ErrorFirst splitting.text →
    holdsError (splitting.reads.headD []) = true ∧
      holdsOk splitting.text = false

/-! ## Markers -/

theorem strstr_untilNul_append {received marker : CString} (back : CString)
    (found : strstr (untilNul received) marker = true) :
    strstr (untilNul (received ++ back)) marker = true :=
  strstr_iff.mpr ((strstr_iff.mp found).trans
    (untilNul_append received back).isInfix)

theorem holdsOk_append {received : CString} (back : CString)
    (found : holdsOk received = true) : holdsOk (received ++ back) = true :=
  strstr_untilNul_append back found

theorem holdsError_append {received : CString} (back : CString)
    (found : holdsError received = true) :
    holdsError (received ++ back) = true := by
  unfold holdsError at found ⊢
  rw [Bool.or_eq_true] at found ⊢
  exact found.imp (strstr_untilNul_append back) (strstr_untilNul_append back)

/-- A marker in a read stands in the reply. -/
theorem marker_at {received text marker : CString}
    (part : received <:+: text)
    (found : strstr (untilNul received) marker = true) :
    ∃ position, marker <+: text.drop position := by
  rw [← strstr_iff_position, strstr_iff]
  exact (strstr_iff.mp found).trans
    ((isPrefix_untilNul received).isInfix.trans part)

theorem holdsOk_at {received text : CString} (part : received <:+: text)
    (found : holdsOk received = true) : ∃ position, OkAt text position :=
  marker_at part found

theorem holdsError_at {received text : CString} (part : received <:+: text)
    (found : holdsError received = true) :
    ∃ position, ErrorAt text position := by
  unfold holdsError at found
  rw [Bool.or_eq_true] at found
  cases found with
  | inl plain =>
      obtain ⟨position, here⟩ := marker_at part plain
      exact ⟨position, Or.inl here⟩
  | inr extended =>
      obtain ⟨position, here⟩ := marker_at part extended
      exact ⟨position, Or.inr here⟩

/-- The first of the markers is an `OK` or an error. -/
theorem marker_first {text : CString}
    (marked : ∃ position, OkAt text position ∨ ErrorAt text position) :
    OkFirst text ∨ ErrorFirst text := by
  cases Nat.find_spec marked with
  | inl isOk =>
      refine Or.inl ⟨Nat.find marked, isOk, ?_⟩
      intro earlier before isError
      exact Nat.find_min marked before (Or.inr isError)
  | inr isError =>
      refine Or.inr ⟨Nat.find marked, isError, ?_⟩
      intro earlier before isOk
      exact Nat.find_min marked before (Or.inl isOk)

theorem unmarked_silent {text received : CString}
    (unmarked : ¬(OkFirst text ∨ ErrorFirst text))
    (part : received <:+: text) :
    holdsOk received = false ∧ holdsError received = false := by
  constructor
  · refine Bool.eq_false_iff.mpr fun found => unmarked (marker_first ?_)
    obtain ⟨position, here⟩ := holdsOk_at part found
    exact ⟨position, Or.inl here⟩
  · refine Bool.eq_false_iff.mpr fun found => unmarked (marker_first ?_)
    obtain ⟨position, here⟩ := holdsError_at part found
    exact ⟨position, Or.inr here⟩

/-! ## Reads -/

section

variable {size : Nat} {command received : CString} {rest : List CString}
  {resp : CArray size}

theorem awaitReply_ok (fits : received.length < size)
    (found : holdsOk received = true) :
    awaitReply size command (received :: rest) resp =
      some { sent := command, error := .ok,
             resp := { text := received, fits }, rest } := by
  rw [awaitReply, dif_pos fits, if_pos found]

theorem awaitReply_error (fits : received.length < size)
    (noOk : holdsOk received = false) (found : holdsError received = true) :
    awaitReply size command (received :: rest) resp =
      some { sent := command, error := .atError,
             resp := { text := received, fits }, rest } := by
  rw [awaitReply, dif_pos fits, noOk, if_neg Bool.false_ne_true,
    if_pos found]

theorem awaitReply_silent (fits : received.length < size)
    (noOk : holdsOk received = false) (noError : holdsError received = false) :
    awaitReply size command (received :: rest) resp =
      awaitReply size command rest { text := received, fits } := by
  rw [awaitReply, dif_pos fits, noOk, noError, if_neg Bool.false_ne_true,
    if_neg Bool.false_ne_true]

end

/-- What a read can do. -/
theorem awaitReply_cases {size : Nat} {command received : CString}
    {rest : List CString} {resp : CArray size} {result : AtResult size}
    (run : awaitReply size command (received :: rest) resp = some result) :
    ∃ fits : received.length < size,
      (holdsOk received = true ∧
        result = { sent := command, error := .ok,
                   resp := { text := received, fits }, rest }) ∨
      (holdsOk received = false ∧ holdsError received = true ∧
        result = { sent := command, error := .atError,
                   resp := { text := received, fits }, rest }) ∨
      (holdsOk received = false ∧ holdsError received = false ∧
        awaitReply size command rest { text := received, fits } =
          some result) := by
  by_cases fits : received.length < size
  · refine ⟨fits, ?_⟩
    cases isOk : holdsOk received with
    | true =>
        rw [awaitReply_ok fits isOk] at run
        exact Or.inl ⟨rfl, (Option.some.inj run).symm⟩
    | false =>
        cases isError : holdsError received with
        | true =>
            rw [awaitReply_error fits isOk isError] at run
            exact Or.inr (Or.inl ⟨rfl, rfl, (Option.some.inj run).symm⟩)
        | false =>
            rw [awaitReply_silent fits isOk isError] at run
            exact Or.inr (Or.inr ⟨rfl, rfl, run⟩)
  · rw [awaitReply, dif_neg fits] at run
    cases run

theorem awaitReply_returned {size : Nat} {command : CString}
    {reads : List CString} {resp : CArray size} {result : AtResult size}
    (run : awaitReply size command reads resp = some result) :
    result.error = .ok ∨ result.error = .atError ∨
      result.error = .atTimeout := by
  induction reads generalizing resp with
  | nil =>
      cases run
      exact Or.inr (Or.inr rfl)
  | cons received rest induction =>
      obtain ⟨fits, ⟨_, rfl⟩ | ⟨_, _, rfl⟩ | ⟨_, _, later⟩⟩ :=
        awaitReply_cases run
      · exact Or.inl rfl
      · exact Or.inr (Or.inl rfl)
      · exact induction later

/-- Every outcome in a buffer of the connection sequence is one of the replies
that the sequence is modelled on. -/
theorem sendAtCommand_reply {command : CString} {reads : List CString}
    {resp : CArray 256} {result : AtResult 256}
    (run : sendAtCommand 256 command resp reads = some result) :
    ∃ reply : AtReply, reply.error = result.error ∧
      reply.resp.text = untilNul result.resp.text := by
  have shorter := (isPrefix_untilNul result.resp.text).length_le
  exact ⟨{ error := result.error
           resp :=
            { text := untilNul result.resp.text
              fits := Nat.lt_of_le_of_lt shorter result.resp.fits }
           returned := awaitReply_returned run }, rfl, rfl⟩

/-- Without a timeout, what has been read last and what is left are no longer
than the reads. -/
theorem awaitReply_length {size : Nat} {command : CString}
    {reads : List CString} {resp : CArray size} {result : AtResult size}
    (run : awaitReply size command reads resp = some result)
    (decided : result.error ≠ .atTimeout) :
    result.resp.text.length + result.rest.flatten.length ≤
      reads.flatten.length := by
  induction reads generalizing resp with
  | nil =>
      cases run
      exact absurd rfl decided
  | cons received rest induction =>
      rw [List.flatten_cons, List.length_append]
      obtain ⟨fits, ⟨_, rfl⟩ | ⟨_, _, rfl⟩ | ⟨_, _, later⟩⟩ :=
        awaitReply_cases run
      · exact Nat.le_refl _
      · exact Nat.le_refl _
      · exact Nat.le_trans (induction later) (Nat.le_add_left _ _)

/-- Reads without a marker end in a timeout. -/
theorem awaitReply_timeout {size : Nat} {command : CString}
    {reads : List CString} (fits : ∀ received ∈ reads, received.length < size)
    (silent : ∀ received ∈ reads,
      holdsOk received = false ∧ holdsError received = false)
    (resp : CArray size) :
    ∃ result, awaitReply size command reads resp = some result ∧
      result.sent = command ∧ result.error = .atTimeout := by
  induction reads generalizing resp with
  | nil => exact ⟨_, rfl, rfl, rfl⟩
  | cons received rest induction =>
      have here := silent received List.mem_cons_self
      rw [awaitReply_silent (fits received List.mem_cons_self) here.1 here.2]
      exact induction
        (fun other member => fits other (List.mem_cons_of_mem _ member))
        (fun other member => silent other (List.mem_cons_of_mem _ member)) _

/-- If everything that a run has not left unread is in the response buffer,
then the first read decides. -/
theorem awaitReply_first {size : Nat} {command received : CString}
    {rest : List CString} {resp : CArray size} {result : AtResult size}
    (successful : received ≠ [])
    (run : awaitReply size command (received :: rest) resp = some result)
    (decided : result.error ≠ .atTimeout)
    (whole : result.resp.text ++ result.rest.flatten =
      (received :: rest).flatten) :
    (holdsOk received = true ∧ result.error = .ok) ∨
      (holdsOk received = false ∧ holdsError received = true ∧
        result.error = .atError) := by
  obtain ⟨fits, ⟨isOk, rfl⟩ | ⟨noOk, isError, rfl⟩ | ⟨_, _, later⟩⟩ :=
    awaitReply_cases run
  · exact Or.inl ⟨isOk, rfl⟩
  · exact Or.inr ⟨noOk, isError, rfl⟩
  · have shorter := awaitReply_length later decided
    have lengths := congrArg List.length whole
    rw [List.length_append, List.flatten_cons, List.length_append] at lengths
    have positive := List.length_pos_iff.mpr successful
    omega

section

variable {size : Nat} (splitting : Splitting size)

theorem Splitting.read_infix {received : CString}
    (member : received ∈ splitting.reads) : received <:+: splitting.text :=
  List.infix_of_mem_flatten member

theorem Splitting.read_fits {received : CString}
    (member : received ∈ splitting.reads) : received.length < size :=
  Nat.lt_of_le_of_lt (splitting.read_infix member).length_le splitting.fits

/-- What the first read decides. -/
theorem Splitting.decides_first {command : CString} {resp : CArray size}
    {result : AtResult size}
    (run : sendAtCommand size command resp splitting.reads = some result)
    (decided : result.error ≠ .atTimeout)
    (whole : result.resp.text ++ result.rest.flatten = splitting.text) :
    (holdsOk (splitting.reads.headD []) = true ∧ result.error = .ok) ∨
      (holdsOk (splitting.reads.headD []) = false ∧
        holdsError (splitting.reads.headD []) = true ∧
        result.error = .atError) := by
  have successful := splitting.successful
  unfold Splitting.text at whole
  unfold sendAtCommand at run
  cases reads : splitting.reads with
  | nil =>
      rw [reads] at run
      cases run
      exact absurd rfl decided
  | cons received rest =>
      rw [reads] at run whole successful
      exact awaitReply_first (successful received List.mem_cons_self) run
        decided whole

/-- An error that one read of the whole reply returns means that the reply
holds no `OK`. -/
theorem noOk_of_single {command text : CString} {resp : CArray size}
    {result : AtResult size}
    (run : sendAtCommand size command resp [text] = some result)
    (isError : result.error = .atError) : holdsOk text = false := by
  obtain ⟨fits, ⟨_, rfl⟩ | ⟨noOk, _, _⟩ | ⟨noOk, _, _⟩⟩ :=
    awaitReply_cases run
  · cases isError
  · exact noOk
  · exact noOk

theorem Splitting.firstReadDecides_of_recognised
    (recognised : splitting.Recognised) (resp : CArray size) :
    splitting.FirstReadDecides := by
  obtain ⟨result, run, recognises⟩ := recognised [] resp
  constructor
  case ok =>
      intro okFirst
      have isOk := recognises.ok okFirst
      have decided : result.error ≠ .atTimeout := by
        rw [isOk]
        decide
      have whole := recognises.received (Or.inl okFirst)
      cases splitting.decides_first run decided whole with
      | inl found => exact found.1
      | inr found => cases isOk.symm.trans found.2.2
  case error =>
      intro errorFirst
      have isError := recognises.error errorFirst
      have decided : result.error ≠ .atTimeout := by
        rw [isError]
        decide
      have whole := recognises.received (Or.inr errorFirst)
      obtain ⟨other, single, same⟩ := recognises.single
      refine ⟨?_, noOk_of_single single (same.trans isError)⟩
      cases splitting.decides_first run decided whole with
      | inl found => cases isError.symm.trans found.2
      | inr found => exact found.2.1

end

/-! ## A first read that decides -/

section

variable {size : Nat} (splitting : Splitting size) (command : CString)
  (resp : CArray size)

/-- A first read that decides, and the reads that are left. -/
structure Splitting.StartsWith (received : CString)
    (rest : List CString) : Prop where
  reads : splitting.reads = received :: rest
  fits : received.length < size
  whole : received ++ rest.flatten = splitting.text

theorem Splitting.startsWith_headD
    (found : splitting.reads.headD [] ≠ []) :
    splitting.StartsWith (splitting.reads.headD [])
      splitting.reads.tail := by
  have cut : splitting.reads =
      splitting.reads.headD [] :: splitting.reads.tail := by
    cases reads : splitting.reads with
    | nil =>
        rw [reads] at found
        exact absurd rfl found
    | cons received rest => rfl
  have member : splitting.reads.headD [] ∈ splitting.reads :=
    List.mem_of_mem_head? (by rw [cut]; rfl)
  exact
    { reads := cut
      fits := splitting.read_fits member
      whole := congrArg List.flatten cut.symm }

theorem ne_nil_of_holdsOk {received : CString}
    (found : holdsOk received = true) : received ≠ [] := by
  intro empty
  rw [empty] at found
  exact absurd found (by decide)

theorem ne_nil_of_holdsError {received : CString}
    (found : holdsError received = true) : received ≠ [] := by
  intro empty
  rw [empty] at found
  exact absurd found (by decide)

theorem Splitting.recognises_ok
    (found : holdsOk (splitting.reads.headD []) = true)
    (decides : splitting.FirstReadDecides) :
    ∃ result, sendAtCommand size command resp splitting.reads = some result ∧
      result.Recognises command splitting.text resp := by
  have first := splitting.startsWith_headD (ne_nil_of_holdsOk found)
  have wholeOk : holdsOk splitting.text = true :=
    first.whole ▸ holdsOk_append splitting.reads.tail.flatten found
  refine ⟨_, (congrArg (sendAtCommand size command resp) first.reads).trans
    (awaitReply_ok first.fits found), ?_⟩
  refine
    { written := rfl
      ok := fun _ => rfl
      error := ?_
      received := fun _ => first.whole
      single := ⟨_, awaitReply_ok splitting.fits wholeOk, rfl⟩ }
  intro errorFirst
  have noOk := (decides.error errorFirst).2
  rw [wholeOk] at noOk
  cases noOk

theorem Splitting.recognises_error
    (found : holdsError (splitting.reads.headD []) = true)
    (noOk : holdsOk splitting.text = false)
    (decides : splitting.FirstReadDecides) :
    ∃ result, sendAtCommand size command resp splitting.reads = some result ∧
      result.Recognises command splitting.text resp := by
  have first := splitting.startsWith_headD (ne_nil_of_holdsError found)
  have wholeError : holdsError splitting.text = true :=
    first.whole ▸ holdsError_append splitting.reads.tail.flatten found
  have firstNoOk : holdsOk (splitting.reads.headD []) = false := by
    refine Bool.eq_false_iff.mpr fun isOk => ?_
    have wholeOk := holdsOk_append splitting.reads.tail.flatten isOk
    rw [first.whole, noOk] at wholeOk
    cases wholeOk
  refine ⟨_, (congrArg (sendAtCommand size command resp) first.reads).trans
    (awaitReply_error first.fits firstNoOk found), ?_⟩
  refine
    { written := rfl
      ok := ?_
      error := fun _ => rfl
      received := fun _ => first.whole
      single := ⟨_, awaitReply_error splitting.fits noOk wholeError, rfl⟩ }
  intro okFirst
  rw [decides.ok okFirst] at firstNoOk
  cases firstNoOk

/-- A reply without a marker times out, however it arrives. -/
theorem Splitting.recognises_unmarked
    (unmarked : ¬(OkFirst splitting.text ∨ ErrorFirst splitting.text)) :
    ∃ result, sendAtCommand size command resp splitting.reads = some result ∧
      result.Recognises command splitting.text resp := by
  obtain ⟨result, run, written, timeout⟩ :=
    awaitReply_timeout (fun _ member => splitting.read_fits member)
      (fun _ member => unmarked_silent unmarked (splitting.read_infix member))
      resp
  obtain ⟨other, single, _, otherTimeout⟩ :=
    @awaitReply_timeout size command [splitting.text]
      (by
        intro received member
        rw [List.mem_singleton.mp member]
        exact splitting.fits)
      (by
        intro received member
        rw [List.mem_singleton.mp member]
        exact unmarked_silent unmarked List.infix_rfl)
      resp
  exact ⟨result, run,
    { written
      ok := fun okFirst => absurd (Or.inl okFirst) unmarked
      error := fun errorFirst => absurd (Or.inr errorFirst) unmarked
      received := fun marked => absurd marked unmarked
      single := ⟨other, single, otherTimeout.trans timeout.symm⟩ }⟩

theorem Splitting.recognised_of_firstReadDecides
    (decides : splitting.FirstReadDecides) : splitting.Recognised := by
  intro command resp
  by_cases okFirst : OkFirst splitting.text
  · exact splitting.recognises_ok command resp (decides.ok okFirst) decides
  · by_cases errorFirst : ErrorFirst splitting.text
    · have found := decides.error errorFirst
      exact splitting.recognises_error command resp found.1 found.2 decides
    · exact splitting.recognises_unmarked command resp
        fun marked => marked.elim okFirst errorFirst

end

/-- Replies are recognised however they arrive exactly when the first read
holds the marker and no `OK` follows an error. -/
theorem recognised_iff {size : Nat} (splitting : Splitting size) :
    splitting.Recognised ↔ splitting.FirstReadDecides := by
  constructor
  · intro recognised
    exact splitting.firstReadDecides_of_recognised recognised
      { text := [], fits := Nat.zero_lt_of_lt splitting.fits }
  · exact splitting.recognised_of_firstReadDecides

/-! ## Two replies -/

def cutReply : Splitting 256 :=
  { reads := ["\r\nO".toList, "K\r\n".toList]
    successful := by decide
    fits := by decide }

def overtakenError : Splitting 256 :=
  { reads := ["\r\nERROR\r\n\r\nOK\r\n".toList]
    successful := by decide
    fits := by decide }

theorem cutReply_okFirst : OkFirst cutReply.text :=
  ⟨2, by decide, by decide⟩

theorem overtakenError_errorFirst : ErrorFirst overtakenError.text :=
  ⟨0, by decide, by decide⟩

/-- An `OK` that two reads cut is not recognised, and an error in front of an
`OK` is not. -/
theorem cut_and_overtaken_not_recognised :
    ¬cutReply.Recognised ∧ ¬overtakenError.Recognised := by
  constructor
  · intro recognised
    have decides := cutReply.firstReadDecides_of_recognised recognised
      (CArray.cleared 255)
    exact absurd (decides.ok cutReply_okFirst) (by decide)
  · intro recognised
    have decides := overtakenError.firstReadDecides_of_recognised recognised
      (CArray.cleared 255)
    exact absurd (decides.error overtakenError_errorFirst).2 (by decide)

end RtA100
