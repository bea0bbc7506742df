import RtA100.Library.Search
import RtA100.OtaUpdater

/-!
# The output of a remote command

`SSHClient_Execute` appends what the channel returns to whatever the caller's
array holds, piece by piece, and cuts the array at the first newline.  It does
not look at `output_size`, so its result is the first line of the output
exactly when the whole output fits behind what was there and what was there
does not show.  With a cleared array it is `sshExecute`.
-/

namespace RtA100

open Library

/-- `strncat`, with a bound that covers the source. -/
def strncat {size : Nat} (destination : CArray size) (source : CString) :
    Option (CArray size) :=
  if fits : (destination.text ++ untilNul source).length < size then
    some { text := destination.text ++ untilNul source, fits }
  else none

/-- `output[strcspn(output, "\n")] = '\0'` -/
def cutLine {size : Nat} (output : CArray size) : CArray size :=
  { text := output.text.takeWhile (· ≠ '\n')
    fits := Nat.lt_of_le_of_lt (List.takeWhile_prefix _).length_le
      output.fits }

/-- What one `ssh_channel_read` stores in the 1024 bytes of `buffer`. -/
structure ChannelRead where
  bytes : CString
  received : bytes ≠ []
  bounded : bytes.length ≤ 1024
  nulFree : '\x00' ∉ bytes

/-- The outcomes of the requests of a channel, and what it returns until a read
ends with 0 or an error. -/
structure SshChannel where
  created : Bool
  sessionOpened : Bool
  execRequested : Bool
  reads : List ChannelRead

/-- The loop around `ssh_channel_read`. -/
def channelReadLoop {size : Nat} :
    List ChannelRead → CArray size → Option (CArray size)
  | [], output => some output
  | read :: reads, output => do
      let output ← strncat output read.bytes
      channelReadLoop reads output

/-- `SSHClient_Execute` -/
def sshClientExecute {outputSize : Nat} (channel : SshChannel)
    (output : CArray outputSize) : Option (CArray outputSize × Int) :=
  if channel.created = false then some (output, -1)
  else if channel.sessionOpened = false then some (output, -1)
  else if channel.execRequested = false then some (output, -1)
  else do
    let output ← channelReadLoop channel.reads output
    some (cutLine output, 0)

def SshChannel.output (channel : SshChannel) : CString :=
  (channel.reads.map ChannelRead.bytes).flatten

def SshChannel.Started (channel : SshChannel) : Prop :=
  channel.created = true ∧ channel.sessionOpened = true ∧
    channel.execRequested = true

def lineOf (text : CString) : CString := text.takeWhile (· ≠ '\n')

/-- The call stays inside the array, and if it returns 0 the array holds the
first line of the output, cut to its size. -/
def ReturnsFirstLine {outputSize : Nat} (channel : SshChannel)
    (output : CArray outputSize) : Prop :=
  ∃ buffer status,
    sshClientExecute channel output = some (buffer, status) ∧
      (status = 0 →
        buffer.text = (lineOf channel.output).take (outputSize - 1))

/-- The array holds nothing, or a line that the output begins with. -/
def HiddenBefore (previous output : CString) : Prop :=
  previous = [] ∨ '\n' ∈ previous ∧ lineOf previous = lineOf output

theorem channelReadLoop_eq {size : Nat} (reads : List ChannelRead)
    (output : CArray size) :
    channelReadLoop reads output =
      strcpy size (output.text ++ (reads.map ChannelRead.bytes).flatten) := by
  induction reads generalizing output with
  | nil =>
      rw [channelReadLoop, List.map_nil, List.flatten_nil, List.append_nil,
        strcpy_self]
  | cons read reads induction =>
      have whole : untilNul read.bytes = read.bytes :=
        untilNul_eq read.nulFree
      rw [channelReadLoop, strncat, whole, List.map_cons, List.flatten_cons,
        ← List.append_assoc]
      by_cases here : (output.text ++ read.bytes).length < size
      · rw [dif_pos here, Option.bind_eq_bind, Option.bind_some, induction]
      · have later : ¬(output.text ++ read.bytes ++
            (reads.map ChannelRead.bytes).flatten).length < size := by
          rw [List.length_append]
          omega
        rw [dif_neg here, strcpy, dif_neg later]
        rfl

theorem sshClientExecute_started {outputSize : Nat} {channel : SshChannel}
    (started : channel.Started) (output : CArray outputSize) :
    sshClientExecute channel output =
      (strcpy outputSize (output.text ++ channel.output)).map
        fun output => (cutLine output, 0) := by
  obtain ⟨created, opened, requested⟩ := started
  simp only [sshClientExecute, created, opened, requested, Bool.true_eq_false,
    if_false, channelReadLoop_eq, SshChannel.output]
  cases strcpy outputSize _ <;> rfl

/-- A request that fails leaves the array alone. -/
theorem sshClientExecute_not_started {outputSize : Nat}
    {channel : SshChannel} (failed : ¬channel.Started)
    (output : CArray outputSize) :
    sshClientExecute channel output = some (output, -1) := by
  unfold SshChannel.Started at failed
  unfold sshClientExecute
  cases created : channel.created with
  | false => rfl
  | true =>
      cases opened : channel.sessionOpened with
      | false => rfl
      | true =>
          cases requested : channel.execRequested with
          | false => rfl
          | true => exact absurd ⟨created, opened, requested⟩ failed

/-- The callers' reading of a command, for an array that they have cleared. -/
theorem sshClientExecute_cleared {outputSize : Nat} {channel : SshChannel}
    (started : channel.Started) :
    (sshClientExecute channel (.cleared outputSize)).map
        (fun result => result.1.text) =
      sshExecute (outputSize + 1) channel.output := by
  rw [sshClientExecute_started started, sshExecute, CArray.cleared,
    List.nil_append]
  cases strcpy (outputSize + 1) channel.output <;> rfl

theorem lineOf_append_of_newline {before after : CString}
    (newline : '\n' ∈ before) :
    lineOf (before ++ after) = lineOf before := by
  obtain ⟨line, rest, split⟩ := List.append_of_mem newline
  rw [split, List.append_assoc, List.cons_append, lineOf, lineOf,
    takeWhile_append_stop, takeWhile_append_stop]

theorem lineOf_append_of_free {before after : CString}
    (free : '\n' ∉ before) :
    lineOf (before ++ after) = before ++ lineOf after :=
  List.takeWhile_append_of_pos (ne_of_not_mem free)

/-- What stood in front of the output does not show in its first line. -/
theorem hiddenBefore_iff (previous output : CString) :
    lineOf (previous ++ output) = lineOf output ↔
      HiddenBefore previous output := by
  unfold HiddenBefore
  by_cases newline : '\n' ∈ previous
  · have something : previous ≠ [] := List.ne_nil_of_mem newline
    rw [lineOf_append_of_newline newline]
    simp [newline, something]
  · rw [lineOf_append_of_free newline]
    simp [newline]

/-- A command returns the first line of its output exactly when it fails to
start, or the whole output fits behind the previous content of the array and
that content does not show. -/
theorem returnsFirstLine_iff {outputSize : Nat} (channel : SshChannel)
    (output : CArray outputSize) :
    ReturnsFirstLine channel output ↔
      (channel.Started →
        (output.text ++ channel.output).length < outputSize ∧
          HiddenBefore output.text channel.output) := by
  by_cases started : channel.Started
  · have executed := sshClientExecute_started started output
    by_cases fits : (output.text ++ channel.output).length < outputSize
    · rw [strcpy, dif_pos fits] at executed
      have inside : (lineOf channel.output).length ≤ outputSize - 1 := by
        have part : (lineOf channel.output).length ≤ channel.output.length :=
          (List.takeWhile_prefix _).length_le
        rw [List.length_append] at fits
        omega
      rw [← hiddenBefore_iff]
      constructor
      · rintro ⟨buffer, status, returned, line⟩ _
        rw [executed] at returned
        cases returned
        have shown := line rfl
        rw [List.take_of_length_le inside] at shown
        exact ⟨fits, shown⟩
      · intro condition
        refine ⟨_, 0, executed, fun _ => ?_⟩
        rw [List.take_of_length_le inside]
        exact (condition started).2
    · refine iff_of_false ?_ fun condition => fits (condition started).1
      rintro ⟨buffer, status, returned, _⟩
      rw [executed, strcpy, dif_neg fits] at returned
      cases returned
  · exact iff_of_true
      ⟨output, -1, sshClientExecute_not_started started output, nofun⟩
      fun begun => absurd begun started

/-- A command that answers with one line. -/
def chmodChannel : SshChannel :=
  { created := true
    sessionOpened := true
    execRequested := true
    reads := [{ bytes := ['o', 'k', '\n']
                received := nofun
                bounded := by decide
                nulFree := by decide }] }

theorem listRow_fits : ['3', ','].length < 512 := by decide

/-- The array that the row of a list has been read into. -/
def listRow : CArray 512 :=
  { text := ['3', ',']
    fits := listRow_fits }

theorem chmodChannel_shows_previous :
    ¬∀ (outputSize : Nat) (channel : SshChannel)
        (output : CArray outputSize), ReturnsFirstLine channel output := by
  intro claimed
  obtain ⟨buffer, status, returned, line⟩ := claimed 512 chmodChannel listRow
  have result : sshClientExecute chmodChannel listRow =
      some ({ text := ['3', ',', 'o', 'k'], fits := by decide }, 0) := by
    decide
  rw [result] at returned
  cases returned
  have shown := line rfl
  have first : lineOf chmodChannel.output = ['o', 'k'] := by decide
  rw [first] at shown
  exact absurd shown (by decide)

end RtA100
