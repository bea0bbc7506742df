import RtA100.Library.Bytes

/-!
# The log copies of an update

`fkz9_fw_update_func` copies the log of the upgrade and the logs of `wget` into
the log of the task: it reads up to 1023 bytes at a time into one array of 1024
bytes and prints the array with `%s`.  Nothing ends the bytes just read, so the
copy shows what the array holds behind them.  The second loop clears the array,
but only after it has printed it.
-/

namespace RtA100

open Library

/-- What `%s` prints of an array, if a zero ends it. -/
def printedString (bytes : List UInt8) : Option (List UInt8) :=
  if 0 ∈ bytes then some (bytes.takeWhile (· ≠ 0)) else none

/-- `fread(buf, 1, sizeof(buf) - 1, fp)` of a file with this rest. -/
def freadInto (buf : Buffer 1024) (content : List UInt8) : Buffer 1024 :=
  buf.overwrite (content.take 1023) (by
    rw [List.length_take]
    omega)

/-- A loop around `fread` and `UPDATE_LOG_FMT`, with what it does to the array
at the end of a turn. -/
def copyLogLoop (clear : Buffer 1024 → Buffer 1024) (content : List UInt8)
    (buf : Buffer 1024) (log : List UInt8) :
    Option (List UInt8 × Buffer 1024) :=
  match content with
  | [] => some (log, buf)
  | first :: rest => do
      let buf := freadInto buf (first :: rest)
      let text ← printedString buf.bytes
      copyLogLoop clear (rest.drop 1022) (clear buf) (log ++ text)
termination_by content.length
decreasing_by
  rw [List.length_drop, List.length_cons]
  omega

/-- The loop over the log of the upgrade. -/
def firstLogLoop : List UInt8 → Buffer 1024 → List UInt8 →
    Option (List UInt8 × Buffer 1024) :=
  copyLogLoop id

/-- The loop over a log of `wget`, with its `memset`. -/
def secondLogLoop : List UInt8 → Buffer 1024 → List UInt8 →
    Option (List UInt8 × Buffer 1024) :=
  copyLogLoop fun _ => Buffer.filled 1024 0

/-- A file without zeros. -/
def NulFree (content : List UInt8) : Prop := 0 ∉ content

/-- The loop appends the file to the log, and nothing else. -/
def CopiesExactly
    (loop : List UInt8 → Buffer 1024 → List UInt8 →
      Option (List UInt8 × Buffer 1024))
    (content : List UInt8) (buf : Buffer 1024) (log : List UInt8) : Prop :=
  ∃ left, loop content buf log = some (log ++ content, left)

/-- A zero stands behind the first bytes that are read. -/
def EndsFirstRead (content : List UInt8) (buf : Buffer 1024) : Prop :=
  buf.bytes[min 1023 content.length]? = some 0

theorem printedString_append {front : List UInt8} (free : NulFree front)
    (back : List UInt8) :
    printedString (front ++ back) =
      (printedString back).map fun text => front ++ text := by
  have allPrinted : ∀ byte ∈ front, decide (byte ≠ 0) = true := by
    intro byte member
    exact decide_eq_true fun zero => free (zero ▸ member)
  have inBack : 0 ∈ front ++ back ↔ 0 ∈ back := by
    rw [List.mem_append]
    exact or_iff_right free
  unfold printedString
  by_cases zero : 0 ∈ back
  · rw [if_pos zero, if_pos (inBack.mpr zero),
      List.takeWhile_append_of_pos allPrinted]
    rfl
  · rw [if_neg zero, if_neg fun inside => zero (inBack.mp inside)]
    rfl

theorem printedString_nothing_iff (bytes : List UInt8) :
    printedString bytes = some [] ↔ bytes[0]? = some 0 := by
  unfold printedString
  cases bytes with
  | nil => simp
  | cons first bytes =>
      by_cases zero : first = 0
      · simp [zero]
      · simp [zero]

theorem NulFree.drop {content : List UInt8} (free : NulFree content)
    (count : Nat) : NulFree (content.drop count) :=
  fun member => free (List.mem_of_mem_drop member)

theorem NulFree.take {content : List UInt8} (free : NulFree content)
    (count : Nat) : NulFree (content.take count) :=
  fun member => free (List.mem_of_mem_take member)

variable {clear : Buffer 1024 → Buffer 1024}

/-- One turn prints the bytes read and what stands behind them. -/
theorem copyLogLoop_turn {content : List UInt8} (something : content ≠ [])
    (free : NulFree content) (buf : Buffer 1024) (log : List UInt8) :
    copyLogLoop clear content buf log =
      (printedString (buf.bytes.drop (min 1023 content.length))).bind
        fun stale =>
          copyLogLoop clear (content.drop 1023)
            (clear (freadInto buf content))
            (log ++ (content.take 1023 ++ stale)) := by
  cases content with
  | nil => exact absurd rfl something
  | cons first rest =>
      have bytes : (freadInto buf (first :: rest)).bytes =
          (first :: rest).take 1023 ++
            buf.bytes.drop (min 1023 (first :: rest).length) := by
        rw [← List.length_take]
        rfl
      rw [copyLogLoop, bytes, printedString_append (free.take 1023)]
      cases printedString (buf.bytes.drop _) <;> rfl

/-- The loop prints at least the file. -/
theorem copyLogLoop_length {content : List UInt8} (free : NulFree content)
    {buf left : Buffer 1024} {log copied : List UInt8}
    (result : copyLogLoop clear content buf log = some (copied, left)) :
    log.length + content.length ≤ copied.length := by
  by_cases nothing : content = []
  · subst nothing
    rw [copyLogLoop] at result
    cases result
    exact Nat.le_refl _
  · have positive : 0 < content.length := List.length_pos_iff.mpr nothing
    rw [copyLogLoop_turn nothing free, Option.bind_eq_some_iff] at result
    obtain ⟨stale, _, later⟩ := result
    have bound := copyLogLoop_length (free.drop 1023) later
    simp only [List.length_append, List.length_take, List.length_drop]
      at bound
    omega
termination_by content.length
decreasing_by
  rw [List.length_drop]
  omega

/-- A file is copied exactly when nothing stale stands behind its first bytes
and the rest is copied exactly. -/
theorem copiesExactly_turn {content : List UInt8} (something : content ≠ [])
    (free : NulFree content) (buf : Buffer 1024) (log : List UInt8) :
    CopiesExactly (copyLogLoop clear) content buf log ↔
      EndsFirstRead content buf ∧
        CopiesExactly (copyLogLoop clear) (content.drop 1023)
          (clear (freadInto buf content)) (log ++ content.take 1023) := by
  have ended : EndsFirstRead content buf ↔
      printedString (buf.bytes.drop (min 1023 content.length)) =
        some [] := by
    rw [printedString_nothing_iff, List.getElem?_drop, Nat.add_zero]
    rfl
  have whole : log ++ content.take 1023 ++ content.drop 1023 =
      log ++ content := by
    rw [List.append_assoc, List.take_append_drop]
  unfold CopiesExactly
  rw [ended, copyLogLoop_turn something free, whole]
  constructor
  · rintro ⟨left, result⟩
    obtain ⟨stale, printed, later⟩ := Option.bind_eq_some_iff.mp result
    have bound := copyLogLoop_length (free.drop 1023) later
    have nothing : stale.length = 0 := by
      simp only [List.length_append, List.length_take, List.length_drop]
        at bound
      omega
    rw [List.eq_nil_of_length_eq_zero nothing] at printed later
    rw [List.append_nil] at later
    exact ⟨printed, left, later⟩
  · rintro ⟨printed, left, later⟩
    refine ⟨left, ?_⟩
    rw [printed, Option.bind_some, List.append_nil]
    exact later

theorem copiesExactly_nothing (buf : Buffer 1024) (log : List UInt8) :
    CopiesExactly (copyLogLoop clear) [] buf log := by
  refine ⟨buf, ?_⟩
  rw [copyLogLoop, List.append_nil]

/-- A file of one read. -/
theorem copiesExactly_short {content : List UInt8} (something : content ≠ [])
    (short : content.length ≤ 1023) (free : NulFree content)
    (buf : Buffer 1024) (log : List UInt8) :
    CopiesExactly (copyLogLoop clear) content buf log ↔
      EndsFirstRead content buf := by
  rw [copiesExactly_turn something free, List.drop_eq_nil_of_le short]
  exact and_iff_left (copiesExactly_nothing _ _)

/-- After a full read the array ends a further full read, and no shorter
one. -/
theorem endsFirstRead_freadInto {content : List UInt8}
    (free : NulFree content) (long : 1023 < content.length)
    {buf : Buffer 1024} (ended : EndsFirstRead content buf) :
    EndsFirstRead (content.drop 1023) (freadInto buf content) ↔
      1023 ≤ (content.drop 1023).length := by
  have front : (content.take 1023).length = 1023 := by
    rw [List.length_take]
    omega
  have bytes : (freadInto buf content).bytes =
      content.take 1023 ++ buf.bytes.drop 1023 := by
    rw [freadInto, Buffer.overwrite_bytes, front]
  have zeroBehind : buf.bytes[1023]? = some 0 := by
    rw [EndsFirstRead, Nat.min_eq_left (Nat.le_of_lt long)] at ended
    exact ended
  unfold EndsFirstRead
  rw [bytes]
  by_cases full : 1023 ≤ (content.drop 1023).length
  · refine iff_of_true ?_ full
    rw [Nat.min_eq_left full, List.getElem?_append_right (Nat.le_of_eq front),
      front, Nat.sub_self, List.getElem?_drop]
    exact zeroBehind
  · refine iff_of_false ?_ full
    have inFront : (content.drop 1023).length < (content.take 1023).length := by
      omega
    rw [Nat.min_eq_right (by omega), List.getElem?_append_left inFront]
    intro zero
    exact free.take 1023 (List.mem_of_getElem? zero)

/-- The first loop, on any array. -/
theorem firstLogLoop_copiesExactly_iff (content : List UInt8)
    (free : NulFree content) (buf : Buffer 1024) (log : List UInt8) :
    CopiesExactly firstLogLoop content buf log ↔
      content = [] ∨
        (content.length ≤ 1023 ∨ content.length % 1023 = 0) ∧
          EndsFirstRead content buf := by
  by_cases nothing : content = []
  · subst nothing
    exact iff_of_true (copiesExactly_nothing buf log) (Or.inl rfl)
  rw [or_iff_right nothing]
  by_cases short : content.length ≤ 1023
  · rw [or_iff_left_of_imp fun _ => short, and_iff_right short]
    exact copiesExactly_short nothing short free buf log
  · have rest : content.drop 1023 ≠ [] := by
      rw [Ne, List.drop_eq_nil_iff]
      exact short
    have turn := firstLogLoop_copiesExactly_iff (content.drop 1023)
      (free.drop 1023) (freadInto buf content) (log ++ content.take 1023)
    rw [or_iff_right rest] at turn
    rw [or_iff_right short, and_comm]
    refine (copiesExactly_turn nothing free buf log).trans
      (and_congr_right fun ended => turn.trans ?_)
    rw [endsFirstRead_freadInto free (Nat.lt_of_not_le short) ended,
      List.length_drop]
    omega
termination_by content.length
decreasing_by
  rw [List.length_drop]
  omega

theorem copiesExactly_cleared (content : List UInt8)
    (free : NulFree content) (log : List UInt8) :
    CopiesExactly secondLogLoop content (Buffer.filled 1024 0) log := by
  by_cases nothing : content = []
  · subst nothing
    exact copiesExactly_nothing _ log
  · refine (copiesExactly_turn nothing free _ log).mpr ⟨?_, ?_⟩
    · rw [EndsFirstRead, Buffer.filled,
        List.getElem?_replicate_of_lt (by omega)]
    · exact copiesExactly_cleared (content.drop 1023) (free.drop 1023) _
termination_by content.length
decreasing_by
  have positive : 0 < content.length := List.length_pos_iff.mpr nothing
  rw [List.length_drop]
  omega

/-- The second loop, on any array: it clears the array behind its first turn. -/
theorem secondLogLoop_copiesExactly_iff (content : List UInt8)
    (free : NulFree content) (buf : Buffer 1024) (log : List UInt8) :
    CopiesExactly secondLogLoop content buf log ↔
      content = [] ∨ EndsFirstRead content buf := by
  by_cases nothing : content = []
  · subst nothing
    exact iff_of_true (copiesExactly_nothing buf log) (Or.inl rfl)
  · rw [or_iff_right nothing]
    refine (copiesExactly_turn nothing free buf log).trans ?_
    exact and_iff_left
      (copiesExactly_cleared (content.drop 1023) (free.drop 1023) _)

/-- A log file. -/
structure LogFile where
  content : List UInt8
  nulFree : NulFree content

/-- The loops copy a file exactly when it is empty, or a zero of the array
stands behind the bytes of the first read; the first loop moreover only when
it is read at once or in full reads. -/
theorem logCopies_exact_iff (file : LogFile) (buf : Buffer 1024)
    (log : List UInt8) :
    (CopiesExactly firstLogLoop file.content buf log ↔
        file.content = [] ∨
          (file.content.length ≤ 1023 ∨ file.content.length % 1023 = 0) ∧
            EndsFirstRead file.content buf) ∧
      (CopiesExactly secondLogLoop file.content buf log ↔
        file.content = [] ∨ EndsFirstRead file.content buf) :=
  ⟨firstLogLoop_copiesExactly_iff file.content file.nulFree buf log,
    secondLogLoop_copiesExactly_iff file.content file.nulFree buf log⟩

/-- A log of 1024 letters. -/
def longLog : LogFile :=
  { content := List.replicate 1024 0x61
    nulFree := by
      intro member
      exact absurd (List.eq_of_mem_replicate member) (by decide) }

theorem longLog_copied_with_stale_bytes :
    ¬∀ (file : LogFile) (buf : Buffer 1024) (log : List UInt8),
      CopiesExactly firstLogLoop file.content buf log ∧
        CopiesExactly secondLogLoop file.content buf log := by
  intro claimed
  have copies := (claimed longLog (Buffer.filled 1024 0) []).1
  have length : longLog.content.length = 1024 := List.length_replicate
  have condition :=
    (firstLogLoop_copiesExactly_iff _ longLog.nulFree _ _).mp copies
  rw [length] at condition
  cases condition with
  | inl nothing =>
      rw [nothing] at length
      cases length
  | inr fits => exact absurd fits.1 (by decide)

end RtA100
