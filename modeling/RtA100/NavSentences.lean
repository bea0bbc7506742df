import RtA100.Library.Tokens

/-!
# Finding the navigation sentences in a read

`laneTo_read_nav_data` looks for the first `$PBSOL` and the first `GNGGA` of a
read and cuts the text between the two at every `$`.  A read can begin anywhere,
so a `GNGGA` can stand in front of the first sentence.
-/

namespace RtA100

open Library

def sgMsgId : CString := "$PBSOL".toList

def gnggaMsgId : CString := "GNGGA".toList

/-- The identifiers of the registered parsers.  The one parser is
`sg_data_parse`. -/
def messageParsers : List CString := ["PBSOL".toList]

/-- Whether `message_parser_entry` passes a line to `sg_data_parse`. -/
def messageParserEntry (line : Token) : Bool :=
  messageParsers.any fun msgId => msgId.isPrefixOf line.text

/-- The lines that are passed to `message_parser_entry`, at their offsets in the
buffer, if `strndup` returns a copy. -/
def navLines (allocated : Bool) (buffer : CString) : List Token :=
  match strstrOffset buffer sgMsgId, strstrOffset buffer gnggaMsgId with
  | some start, some stop =>
      if stop > start then
        if allocated then
          tokens '$'
            { offset := start, text := (buffer.drop start).take (stop - start) }
        else []
      else []
  | _, _ => []

/-- The calls of `message_parser_entry` and those of `sg_data_parse`. -/
structure NavCalls where
  entered : List Token
  parsed : List Token

def parserCalls (lines : List Token) : NavCalls :=
  { entered := lines, parsed := lines.filter messageParserEntry }

/-- `laneTo_read_nav_data`, for what the read returns.  A read of the whole
buffer leaves no room for the zero behind it. -/
def laneToReadNavData (running allocated : Bool) (content : CString) :
    Option NavCalls :=
  if running = false then some (parserCalls [])
  else if content = [] then some (parserCalls [])
  else if content.length < 4096 then
    some (parserCalls (navLines allocated (untilNul content)))
  else none

/-! ## Sentences -/

structure NavContent where
  text : CString
  successful : text ≠ []
  fits : text.length < 4096
  noNul : '\x00' ∉ text

/-- A `$PBSOL` sentence that another `$` follows, and behind it a `GNGGA`. -/
structure Sentence (text : CString) where
  front : CString
  body : CString
  back : CString
  whole : text = front ++ '$' :: body ++ '$' :: back
  undivided : '$' ∉ body
  starts : "PBSOL".toList <+: body
  later : gnggaMsgId <:+: back

/-- The offset of the `$` behind the sentence. -/
def Sentence.stop {text : CString} (sentence : Sentence text) : Nat :=
  sentence.front.length + 1 + sentence.body.length

/-- The sentence without its `$`. -/
def Sentence.line {text : CString} (sentence : Sentence text) : Token :=
  { offset := sentence.front.length + 1, text := sentence.body }

/-- The calls with the offset of a line. -/
def callsAt (calls : List Token) (line : Token) : List Token :=
  calls.filter fun call => call.offset = line.offset

/-- Every sentence is passed once to both functions, in order. -/
structure NavCalls.Complete (calls : NavCalls) (text : CString) : Prop where
  entered : ∀ sentence : Sentence text,
    callsAt calls.entered sentence.line = [sentence.line]
  parsed : ∀ sentence : Sentence text,
    callsAt calls.parsed sentence.line = [sentence.line]
  enteredInOrder : calls.entered.Pairwise
    fun call later => call.offset < later.offset
  parsedInOrder : calls.parsed.Pairwise
    fun call later => call.offset < later.offset

/-- No sentence is missed. -/
def NavContent.Taken (content : NavContent) (allocated : Bool) : Prop :=
  ∃ calls, laneToReadNavData true allocated content.text = some calls ∧
    calls.Complete content.text

/-- No `GNGGA` starts in front of the end of the sentence. -/
def Sentence.Leads {text : CString} (sentence : Sentence text) : Prop :=
  ∀ position < sentence.stop, ¬gnggaMsgId <+: text.drop position

/-! ## The window -/

section

variable {text : CString} (sentence : Sentence text)

theorem Sentence.starts_at :
    sgMsgId <+: text.drop sentence.front.length := by
  obtain ⟨rest, continued⟩ := sentence.starts
  have cut : text.drop sentence.front.length =
      '$' :: sentence.body ++ '$' :: sentence.back := by
    have whole := congrArg (List.drop sentence.front.length) sentence.whole
    rw [List.append_assoc, List.drop_left] at whole
    exact whole
  have named : sgMsgId = '$' :: "PBSOL".toList := rfl
  rw [cut, ← continued, named]
  refine ⟨rest ++ '$' :: sentence.back, ?_⟩
  rw [List.cons_append, List.cons_append, List.append_assoc]

theorem Sentence.front_length :
    (sentence.front ++ '$' :: sentence.body).length = sentence.stop := by
  rw [List.length_append, List.length_cons, Sentence.stop]
  omega

theorem Sentence.drop_stop :
    text.drop sentence.stop = '$' :: sentence.back := by
  rw [← sentence.front_length]
  have whole := congrArg
    (List.drop (sentence.front ++ '$' :: sentence.body).length) sentence.whole
  rw [List.drop_left] at whole
  exact whole

/-- The first `GNGGA` stands behind the sentence. -/
theorem Sentence.stop_lt (leads : sentence.Leads) {stop : Nat}
    (here : gnggaMsgId <+: text.drop stop) : sentence.stop < stop := by
  refine Nat.lt_of_le_of_ne (Nat.le_of_not_lt fun before => ?_) ?_
  · exact leads stop before here
  · intro same
    rw [← same, sentence.drop_stop] at here
    exact absurd (List.cons_prefix_cons.mp here).1 (by decide)

/-- The window between the first `$PBSOL` and the first `GNGGA` holds the
sentence and the `$` behind it. -/
theorem Sentence.window {start stop : Nat}
    (starts : start ≤ sentence.front.length) (stops : sentence.stop < stop) :
    ∃ rest, (text.drop start).take (stop - start) =
      sentence.front.drop start ++ '$' :: sentence.body ++ '$' :: rest := by
  have cut : text.drop start =
      sentence.front.drop start ++ '$' :: sentence.body ++ ['$'] ++
        sentence.back := by
    have whole := congrArg (List.drop start) sentence.whole
    rw [List.append_assoc, List.drop_append_of_le_length starts] at whole
    simpa using whole
  have kept : (sentence.front.drop start ++ '$' :: sentence.body ++
      ['$']).length ≤ stop - start := by
    rw [List.length_append, List.length_append, List.length_drop,
      List.length_cons, List.length_singleton]
    unfold Sentence.stop at stops
    omega
  refine ⟨sentence.back.take (stop - start -
    (sentence.front.drop start ++ '$' :: sentence.body ++ ['$']).length), ?_⟩
  rw [cut, List.take_append, List.take_of_length_le kept,
    List.append_assoc, List.singleton_append]

/-- The sentence is one of the tokens of the window. -/
theorem Sentence.line_mem {start stop : Nat}
    (starts : start ≤ sentence.front.length) (stops : sentence.stop < stop) :
    sentence.line ∈ tokens '$'
      { offset := start, text := (text.drop start).take (stop - start) } := by
  obtain ⟨rest, window⟩ := sentence.window starts stops
  have place : start + (sentence.front.drop start).length + 1 =
      sentence.front.length + 1 := by
    rw [List.length_drop]
    omega
  have filled : sentence.line.filled = true := by
    obtain ⟨others, continued⟩ := sentence.starts
    unfold Token.filled Sentence.line
    rw [← continued]
    rfl
  rw [tokens_eq_pieces]
  refine List.mem_filter.mpr ⟨?_, filled⟩
  rw [window, List.append_assoc, List.cons_append, pieces_append,
    pieces_append, pieces_free _ sentence.undivided, place]
  exact List.mem_append_right _ List.mem_cons_self

end

theorem Sentence.gngga_at {text : CString} (sentence : Sentence text) :
    ∃ position, gnggaMsgId <+: text.drop position := by
  rw [← strstr_iff_position, strstr_iff]
  have suffix : sentence.back <:+ text := by
    have behind := List.drop_suffix (sentence.stop + 1) text
    rw [← List.drop_drop, sentence.drop_stop] at behind
    exact behind
  exact sentence.later.trans suffix.isInfix

/-! ## The calls -/

theorem tokens_ordered (stop : Char) (rest : Token) :
    (tokens stop rest).Pairwise
      fun token later => token.offset < later.offset := by
  rw [tokens_eq_pieces]
  exact (pieces_ordered stop rest.offset rest.text).filter _

theorem tokens_within {stop : Char} {rest token : Token}
    (member : token ∈ tokens stop rest) :
    token.offset + token.text.length ≤ rest.offset + rest.text.length := by
  rw [tokens_eq_pieces] at member
  exact (pieces_within (List.mem_filter.mp member).1).2

theorem navLines_ordered (allocated : Bool) (buffer : CString) :
    (navLines allocated buffer).Pairwise
      fun line later => line.offset < later.offset := by
  unfold navLines
  split
  · split
    · split
      · exact tokens_ordered '$' _
      · exact List.Pairwise.nil
    · exact List.Pairwise.nil
  · exact List.Pairwise.nil

/-- A line comes from a copy of the text in front of the first `GNGGA`. -/
theorem navLines_mem {allocated : Bool} {buffer : CString} {line : Token}
    (member : line ∈ navLines allocated buffer) :
    allocated = true ∧ ∃ stop,
      strstrOffset buffer gnggaMsgId = some stop ∧
        line.offset + line.text.length ≤ stop := by
  unfold navLines at member
  split at member
  · rename_i start stop _ found
    split at member
    · rename_i order
      split at member
      · rename_i copied
        refine ⟨copied, stop, found, Nat.le_trans (tokens_within member) ?_⟩
        have window := List.length_take_le (stop - start) (buffer.drop start)
        change start + ((buffer.drop start).take (stop - start)).length ≤ stop
        omega
      · cases member
    · cases member
  · cases member

/-- A sentence in front of the first `GNGGA` is one of the lines. -/
theorem Sentence.line_mem_navLines {text : CString}
    (sentence : Sentence text) (leads : sentence.Leads) :
    sentence.line ∈ navLines true text := by
  obtain ⟨start, startFound, starts⟩ :=
    strstrOffset_of_occurrence sentence.starts_at
  obtain ⟨position, later⟩ := sentence.gngga_at
  obtain ⟨stop, stopFound, _⟩ := strstrOffset_of_occurrence later
  have stops := sentence.stop_lt leads (strstrOffset_some stopFound).1
  have order : stop > start := by
    unfold Sentence.stop at stops
    omega
  unfold navLines
  rw [startFound, stopFound]
  simp only [if_pos order, if_true]
  exact sentence.line_mem starts stops

theorem Sentence.dispatched {text : CString} (sentence : Sentence text) :
    messageParserEntry sentence.line = true := by
  unfold messageParserEntry messageParsers
  rw [List.any_cons, List.any_nil, Bool.or_false,
    List.isPrefixOf_iff_prefix]
  exact sentence.starts

theorem parserCalls_complete {text : CString} {lines : List Token}
    (ordered : lines.Pairwise fun line later => line.offset < later.offset)
    (members : ∀ sentence : Sentence text, sentence.line ∈ lines) :
    (parserCalls lines).Complete text where
  entered sentence := filter_offset ordered (members sentence)
  parsed sentence :=
    filter_offset (ordered.filter _)
      (List.mem_filter.mpr ⟨members sentence, sentence.dispatched⟩)
  enteredInOrder := ordered
  parsedInOrder := ordered.filter _

theorem NavContent.read (content : NavContent) (allocated : Bool) :
    laneToReadNavData true allocated content.text =
      some (parserCalls (navLines allocated content.text)) := by
  unfold laneToReadNavData
  rw [if_neg (by decide), if_neg content.successful, if_pos content.fits,
    untilNul_eq content.noNul]

/-- No sentence of a read is missed exactly when each lies in front of the
first `GNGGA` and `strndup` returns a copy for it. -/
theorem navSentences_taken_iff (content : NavContent) (allocated : Bool) :
    content.Taken allocated ↔
      ∀ sentence : Sentence content.text,
        allocated = true ∧ sentence.Leads := by
  constructor
  · rintro ⟨calls, run, complete⟩ sentence
    rw [content.read] at run
    cases run
    have member : sentence.line ∈ navLines allocated content.text := by
      have only := List.mem_singleton_self sentence.line
      rw [← complete.entered sentence] at only
      exact (List.mem_filter.mp only).1
    obtain ⟨copied, stop, found, within⟩ := navLines_mem member
    refine ⟨copied, fun position before => ?_⟩
    exact (strstrOffset_some found).2 position
      (Nat.lt_of_lt_of_le before within)
  · intro condition
    refine ⟨_, content.read allocated,
      parserCalls_complete (navLines_ordered allocated content.text) ?_⟩
    intro sentence
    obtain ⟨copied, leads⟩ := condition sentence
    rw [copied]
    exact sentence.line_mem_navLines leads

/-! ## A read that begins behind a sentence -/

def lateRead : NavContent :=
  { text := "GNGGA,1$PBSOL,1$GNGGA,2".toList
    successful := by decide
    fits := by decide
    noNul := by decide }

def lateSentence : Sentence lateRead.text :=
  { front := "GNGGA,1".toList
    body := "PBSOL,1".toList
    back := "GNGGA,2".toList
    whole := rfl
    undivided := by decide
    starts := by decide
    later := by decide }

theorem lateRead_misses :
    ¬∀ (content : NavContent) (allocated : Bool),
      allocated = true → content.Taken allocated := by
  intro claimed
  obtain ⟨calls, run, complete⟩ := claimed lateRead true rfl
  rw [lateRead.read] at run
  cases run
  have once := complete.entered lateSentence
  cases once

end RtA100
