import RtA100.Library.Machine
import RtA100.NavRoundTrip
import RtA100.SgDataParse

/-!
# From a navigation sentence to the cloud

At every tick `nav_data_msg_task_cb` reads the receiver, parses the sentences of
this read into `sg_data`, and sends `sg_data` in a frame.  A read in which a
`GNGGA` follows the sentence of a fix makes the frame tell this fix, whatever
`sg_data` held before; and so do the frames of the following ticks, until
another sentence is parsed.
-/

namespace RtA100

open Library

/-! ## The receiver -/

/-- What a value looks like in a sentence; the last argument is the text of a
floating-point value. -/
def SgKind.print : (kind : SgKind) → kind.Value → CString → CString
  | .text, value, _ => CArray.text value
  | .u8, value, _ => decimal (UInt8.toNat value)
  | .u16, value, _ => decimal (UInt16.toNat value)
  | .u32, value, _ => decimal (UInt32.toNat value)
  | .i16, value, _ => signedDecimal (Int16.toInt value)
  | .i32, value, _ => signedDecimal (Int32.toInt value)
  | .double, _, shown => shown
  | .float, _, shown => shown

/-- The conversion reads the text of a floating-point value up to the next
comma. -/
def SgKind.Legible (floats : FloatScans) :
    (kind : SgKind) → kind.Value → CString → Prop
  | .double, value, shown => ∀ rest,
      floats.double (shown ++ ',' :: rest) = some (value, ',' :: rest)
  | .float, value, shown => ∀ rest,
      floats.float (shown ++ ',' :: rest) = some (value, ',' :: rest)
  | _, _, _ => True

/-- A fix of the receiver: the values of all fields, the texts of the four that
are floating-point values, and the checksum of its sentence. -/
structure NavFix (floats : FloatScans) where
  record : SgRecord
  shown : SgField → CString
  checksum : CString
  named : CArray.text (record .messageId) = "PBSOL".toList
  legible : ∀ field : SgField,
    field.kind.Legible floats (record field) (shown field)

def NavFix.print {floats : FloatScans} (fix : NavFix floats)
    (field : SgField) : CString :=
  field.kind.print (fix.record field) (fix.shown field)

/-- The arguments of `sscanf` in front of the last one. -/
def sgLeading : List SgField := sgArguments.dropLast

/-- The sentence of a fix, without its `$`. -/
def NavFix.line {floats : FloatScans} (fix : NavFix floats) : CString :=
  sgLeading.flatMap (fun field => fix.print field ++ [',']) ++
    (fix.print .reservedSecond ++ '*' :: fix.checksum)

/-! ## The device -/

/-- What a tick meets: whether the reader runs, whether `strndup` returns a
copy, and what the read returns. -/
structure NavTick where
  running : Bool
  allocated : Bool
  content : CString

/-- The frame of a tick, and the sentences that it was parsed from. -/
structure NavSent where
  tick : NavTick
  parsed : List CString
  frame : List UInt8

/-- `nav_data_msg_task_cb`, up to the call of `send`. -/
def navDataMsgTaskTick (floats : FloatScans) (convert : FloatConversions)
    (sg : SgRecord) (tick : NavTick) :
    Option (SgRecord × List NavSent) := do
  let calls ← laneToReadNavData tick.running tick.allocated tick.content
  let parsed := calls.parsed.map Token.text
  let sg ← parsed.foldlM (fun sg line => sgDataParse floats line sg) sg
  let frame ← navDataMsgTask convert sg.navData
  some (sg, [{ tick, parsed, frame }])

/-- The ticks of the timer, from the cleared `sg_data` of the program's
start. -/
def navigationMachine (floats : FloatScans) (convert : FloatConversions) :
    Machine SgRecord NavTick NavSent :=
  { initial := fun sg => sg = clearedSgData
    step := navDataMsgTaskTick floats convert }

/-- The reader runs, and in front of the first `GNGGA` of the read stands the
sentence of the fix. -/
structure NavTick.Shows {floats : FloatScans} (tick : NavTick)
    (fix : NavFix floats) : Prop where
  running : tick.running = true
  allocated : tick.allocated = true
  noNul : '\x00' ∉ tick.content
  sentence : ∃ sentence : Sentence tick.content,
    sentence.body = fix.line ∧ sentence.Leads ∧
      gnggaMsgId <+: sentence.back

/-! ## The sentence is read back -/

section

variable {floats : FloatScans} (fix : NavFix floats)

theorem convertText_printed {text : CArray 7} (something : text.text ≠ [])
    (free : ',' ∉ text.text) (rest : CString) :
    convertText (text.text ++ ',' :: rest) = .stored text (',' :: rest) := by
  rw [convertText, takeWhile_stop rest free, if_neg something, strcpy_self,
    dropWhile_stop rest free]

theorem convertNumber_decimal {α : Type} (store : Nat → α) {number : Nat}
    {ending : CString} (inRange : number < 0x10000000000000000)
    (ends : ∀ character ∈ ending.head?, character.isDigit = false) :
    convertNumber store (scanUnsigned (decimal number ++ ending)) =
      .stored (store number) ending := by
  rw [scanUnsigned_decimal inRange ends]
  rfl

theorem convertNumber_signedDecimal {α : Type} (store : Int → α)
    {number : Int} (inRange : number.natAbs < 0x8000000000000000)
    (rest : CString) :
    convertNumber store (scanInteger (signedDecimal number ++ ',' :: rest)) =
      .stored (store number) (',' :: rest) := by
  rw [scanInteger_signedDecimal rest inRange]
  rfl

/-- Every number is read back up to the comma behind it. -/
theorem SgKind.convert_print {floats : FloatScans} {kind : SgKind}
    {value : kind.Value} {shown : CString} (number : kind ≠ .text)
    (legible : kind.Legible floats value shown) (rest : CString) :
    kind.convert floats (kind.print value shown ++ ',' :: rest) =
      .stored value (',' :: rest) := by
  have comma := comma_ends_digits rest
  cases kind with
  | text => exact absurd rfl number
  | u8 =>
      have small := UInt8.toNat_lt value
      exact (convertNumber_decimal UInt8.ofNat (by omega) comma).trans
        (congrArg (Converted.stored · _) UInt8.ofNat_toNat)
  | u16 =>
      have small := UInt16.toNat_lt value
      exact (convertNumber_decimal UInt16.ofNat (by omega) comma).trans
        (congrArg (Converted.stored · _) UInt16.ofNat_toNat)
  | u32 =>
      have small := UInt32.toNat_lt value
      exact (convertNumber_decimal UInt32.ofNat (by omega) comma).trans
        (congrArg (Converted.stored · _) UInt32.ofNat_toNat)
  | i16 =>
      have above := Int16.le_toInt value
      have below := Int16.toInt_lt value
      exact (convertNumber_signedDecimal Int16.ofInt (by omega) rest).trans
        (congrArg (Converted.stored · _) (Int16.ofInt_toInt value))
  | i32 =>
      have above := Int32.le_toInt value
      have below := Int32.toInt_lt value
      exact (convertNumber_signedDecimal Int32.ofInt (by omega) rest).trans
        (congrArg (Converted.stored · _) (Int32.ofInt_toInt value))
  | double => exact congrArg (convertNumber id) (legible rest)
  | float => exact congrArg (convertNumber id) (legible rest)

theorem NavFix.reads_leading (field : SgField) (rest : CString) :
    sgConvert floats field (fix.print field ++ ',' :: rest) =
      .stored (fix.record field) (',' :: rest) := by
  by_cases first : field = .messageId
  · subst first
    refine convertText_printed ?_ ?_ rest
    · rw [fix.named]
      decide
    · rw [fix.named]
      decide
  · have number : field.kind ≠ .text := by
      cases field with
      | messageId => exact absurd rfl first
      | _ =>
          rw [SgField.kind]
          exact nofun
    exact SgKind.convert_print number (fix.legible field) rest

theorem NavFix.reads_last :
    sgConvert floats .reservedSecond
        (fix.print .reservedSecond ++ '*' :: fix.checksum) =
      .stored (fix.record .reservedSecond) ('*' :: fix.checksum) := by
  have small := UInt8.toNat_lt (fix.record .reservedSecond)
  have ends : ∀ character ∈ ('*' :: fix.checksum).head?,
      character.isDigit = false := by
    rintro _ ⟨⟩
    decide
  exact (convertNumber_decimal UInt8.ofNat (by omega) ends).trans
    (congrArg (Converted.stored · _) UInt8.ofNat_toNat)

/-- The sentence of a fix replaces all of `sg_data`. -/
theorem NavFix.parsed (before : SgRecord) :
    sgDataParse floats fix.line before = some fix.record := by
  have all : sgArguments = sgLeading ++ [.reservedSecond] := rfl
  have ends : afterComma ('*' :: fix.checksum) = none := rfl
  let stored (field : SgField) : Sigma fun field : SgField =>
      field.kind.Value := ⟨field, fix.record field⟩
  have distinct : ((sgArguments.map stored).map Sigma.fst).Nodup := by
    rw [List.map_map]
    exact sgArguments_distinct
  rw [sgDataParse, all, NavFix.line, scanFields_line (sgConvert floats)
    (fun field _ => fix.reads_leading field) fix.reads_last ends, ← all]
  congr 1
  funext field
  have named : field ∈ sgArguments := by
    cases field <;> decide
  exact storeAll_mem distinct (List.mem_map_of_mem (f := stored) named)

end

/-! ## The sentence is the last one -/

/-- The first `GNGGA`, if it stands right behind the sentence. -/
theorem Sentence.gngga_found {text : CString} (sentence : Sentence text)
    (leads : sentence.Leads) (follows : gnggaMsgId <+: sentence.back) :
    strstrOffset text gnggaMsgId = some (sentence.stop + 1) := by
  have behind : gnggaMsgId <+: text.drop (sentence.stop + 1) := by
    rw [← List.drop_drop, sentence.drop_stop]
    exact follows
  obtain ⟨stop, found, first⟩ := strstrOffset_of_occurrence behind
  have after := sentence.stop_lt leads (strstrOffset_some found).1
  rw [found, Nat.le_antisymm first after]

theorem Sentence.whole_window {text : CString} (sentence : Sentence text)
    {start : Nat} (starts : start ≤ sentence.front.length) :
    (text.drop start).take (sentence.stop + 1 - start) =
      sentence.front.drop start ++ '$' :: (sentence.body ++ ['$']) := by
  have cut : text.drop start =
      sentence.front.drop start ++ '$' :: (sentence.body ++ ['$']) ++
        sentence.back := by
    have whole := congrArg (List.drop start) sentence.whole
    rw [List.append_assoc, List.drop_append_of_le_length starts] at whole
    simpa using whole
  have length : (sentence.front.drop start ++
      '$' :: (sentence.body ++ ['$'])).length = sentence.stop + 1 - start := by
    simp only [List.length_append, List.length_drop, List.length_cons,
      List.length_nil, Sentence.stop]
    omega
  rw [cut, ← length, List.take_left]

theorem Sentence.filled {text : CString} (sentence : Sentence text) :
    sentence.line.filled = true := by
  obtain ⟨others, continued⟩ := sentence.starts
  rw [Token.filled, Sentence.line, ← continued]
  rfl

/-- Between the first `$PBSOL` and this `GNGGA` nothing follows the
sentence. -/
theorem Sentence.last_line {text : CString} (sentence : Sentence text)
    (leads : sentence.Leads) (follows : gnggaMsgId <+: sentence.back) :
    ∃ earlier, navLines true text = earlier ++ [sentence.line] := by
  obtain ⟨start, startFound, starts⟩ :=
    strstrOffset_of_occurrence sentence.starts_at
  have order : sentence.stop + 1 > start := by
    unfold Sentence.stop
    omega
  have place : start + (sentence.front.drop start).length + 1 =
      sentence.front.length + 1 := by
    rw [List.length_drop]
    omega
  refine ⟨(pieces '$' start (sentence.front.drop start)).filter
    Token.filled, ?_⟩
  rw [navLines, startFound, sentence.gngga_found leads follows]
  simp only [if_pos order, if_true]
  rw [tokens_eq_pieces]
  simp only [sentence.whole_window starts]
  rw [pieces_append, pieces_append, pieces_free _ sentence.undivided, place,
    List.filter_append]
  congr 1
  exact List.filter_cons_of_pos sentence.filled

theorem NavTick.Shows.parsed {floats : FloatScans} {tick : NavTick}
    {fix : NavFix floats} (shows : tick.Shows fix) {calls : NavCalls}
    (read : laneToReadNavData tick.running tick.allocated tick.content =
      some calls) :
    ∃ earlier, calls.parsed.map Token.text = earlier ++ [fix.line] := by
  obtain ⟨sentence, body, leads, follows⟩ := shows.sentence
  obtain ⟨earlier, lines⟩ := sentence.last_line leads follows
  have something : tick.content ≠ [] := by
    rw [sentence.whole, List.append_assoc]
    exact List.append_ne_nil_of_right_ne_nil _ (List.cons_ne_nil _ _)
  rw [laneToReadNavData, shows.running, shows.allocated,
    untilNul_eq shows.noNul, lines] at read
  simp only [Bool.true_eq_false, something, if_false] at read
  split at read
  · cases read
    refine ⟨(earlier.filter messageParserEntry).map Token.text, ?_⟩
    rw [parserCalls, List.filter_append,
      List.filter_cons_of_pos sentence.dispatched, List.filter_nil,
      List.map_append, ← body]
    rfl
  · cases read

/-! ## Any number of ticks -/

section

variable {floats : FloatScans} {convert : FloatConversions}
  {outputs : List NavSent} {sg following : SgRecord}

/-- A tick sends one frame, built from what its sentences have left. -/
theorem navDataMsgTaskTick_sent {tick : NavTick} {emitted : List NavSent}
    (stepped : navDataMsgTaskTick floats convert sg tick =
      some (following, emitted)) :
    ∃ sent calls, emitted = [sent] ∧ sent.tick = tick ∧
      laneToReadNavData tick.running tick.allocated tick.content =
        some calls ∧
      sent.parsed = calls.parsed.map Token.text ∧
      sent.parsed.foldlM (fun sg line => sgDataParse floats line sg) sg =
        some following ∧
      navDataMsgTask convert following.navData = some sent.frame := by
  simp only [navDataMsgTaskTick, Option.bind_eq_bind,
    Option.bind_eq_some_iff] at stepped
  obtain ⟨calls, read, after, parsed, frame, built, same⟩ := stepped
  cases same
  exact ⟨_, calls, rfl, rfl, read, rfl, parsed, built⟩

/-- `sg_data` after a tick that shows a fix. -/
theorem NavTick.Shows.stores {tick : NavTick} {fix : NavFix floats}
    (shows : tick.Shows fix) {calls : NavCalls}
    (read : laneToReadNavData tick.running tick.allocated tick.content =
      some calls)
    (stored : (calls.parsed.map Token.text).foldlM
      (fun sg line => sgDataParse floats line sg) sg = some following) :
    following = fix.record := by
  obtain ⟨earlier, lines⟩ := shows.parsed read
  rw [lines, List.foldlM_append] at stored
  obtain ⟨before, _, last⟩ := Option.bind_eq_some_iff.mp stored
  rw [List.foldlM_cons, fix.parsed, Option.bind_eq_bind, Option.bind_some,
    List.foldlM_nil] at last
  exact (Option.some.inj last).symm

/-- `sg_data` is the fix that was shown last. -/
def HoldsShown (floats : FloatScans) (outputs : List NavSent)
    (sg : SgRecord) : Prop :=
  ∀ (fix : NavFix floats) earlier shown later,
    outputs = earlier ++ shown :: later → shown.tick.Shows fix →
    (∀ sent ∈ later, sent.parsed = []) → sg = fix.record

theorem HoldsShown.step {tick : NavTick} {emitted : List NavSent}
    (holds : HoldsShown floats outputs sg)
    (stepped : navDataMsgTaskTick floats convert sg tick =
      some (following, emitted)) :
    HoldsShown floats (outputs ++ emitted) following := by
  obtain ⟨sent, calls, rfl, rfl, read, parsed, stored, _⟩ :=
    navDataMsgTaskTick_sent stepped
  intro fix earlier shown later split shows quiet
  rcases List.eq_nil_or_concat later with rfl | ⟨before, last, rfl⟩
  · obtain ⟨_, same⟩ := List.append_inj' split rfl
    cases same
    rw [parsed] at stored
    exact shows.stores read stored
  · rw [List.concat_eq_append] at split quiet
    rw [← List.cons_append, ← List.append_assoc] at split
    obtain ⟨rest, same⟩ := List.append_inj' split rfl
    cases same
    have nothing := quiet sent
      (List.mem_append_right _ (List.mem_singleton_self _))
    rw [nothing] at stored
    cases stored
    exact holds fix earlier shown before rest shows fun other member =>
      quiet other (List.mem_append_left _ member)

theorem navigation_holdsShown
    (reached : (navigationMachine floats convert).Reaches Machine.anyStep
      outputs sg) : HoldsShown floats outputs sg := by
  refine Machine.invariant ?_ ?_ reached
  · intro sg _ fix earlier shown later split
    exact absurd split.symm (List.append_ne_nil_of_right_ne_nil _
      (List.cons_ne_nil _ _))
  · intro outputs sg tick following emitted holds _ stepped
    exact holds.step stepped

/-- Every frame was built from the `sg_data` of its own tick. -/
theorem navigation_frame
    (reached : (navigationMachine floats convert).Reaches Machine.anyStep
      outputs sg) {earlier later : List NavSent} {told : NavSent}
    (split : outputs = earlier ++ told :: later) :
    ∃ current, (navigationMachine floats convert).Reaches Machine.anyStep
        (earlier ++ [told]) current ∧
      navDataMsgTask convert current.navData = some told.frame := by
  induction reached generalizing later with
  | start _ =>
      exact absurd split.symm (List.append_ne_nil_of_right_ne_nil _
        (List.cons_ne_nil _ _))
  | next before permitted stepped induction =>
      obtain ⟨sent, _, rfl, _, _, _, _, built⟩ :=
        navDataMsgTaskTick_sent stepped
      rcases List.eq_nil_or_concat later with rfl | ⟨rest, last, rfl⟩
      · obtain ⟨rfl, same⟩ := List.append_inj' split rfl
        cases same
        exact ⟨_, .next before permitted stepped, built⟩
      · rw [List.concat_eq_append, ← List.cons_append,
          ← List.append_assoc] at split
        exact induction (List.append_inj' split rfl).1

end

/-- After a read that shows a fix, this frame and the following ones tell the
cloud this fix, up to the next sentence that is parsed: all integers but the
time since the last differential correction, and what the swaps leave of the
position. -/
theorem navigation_told {floats : FloatScans} {convert : FloatConversions}
    {outputs : List NavSent} {sg : SgRecord}
    (reached : (navigationMachine floats convert).Reaches Machine.anyStep
      outputs sg)
    {earlier between later : List NavSent} {shown : NavSent}
    (split : outputs = earlier ++ (shown :: between) ++ later)
    {fix : NavFix floats} (shows : shown.tick.Shows fix)
    (quiet : ∀ sent ∈ between, sent.parsed = []) {told : NavSent}
    (member : told ∈ shown :: between) :
    ∃ fields, decodeNavData told.frame = some fields ∧
      fields.position = fix.record.navData.position convert ∧
      fields.integers = fix.record.navData.carried ∧
      (fields.integers = fix.record.navData.integers ↔
        fix.record.navData.timeSinceLastDiff = 0) := by
  obtain ⟨before, behind, part⟩ := List.append_of_mem member
  have whole : outputs = (earlier ++ before) ++ told :: (behind ++ later) := by
    rw [split, part]
    simp
  obtain ⟨current, reachedHere, built⟩ := navigation_frame reached whole
  have same : current = fix.record := by
    have holds := navigation_holdsShown reachedHere fix earlier shown
    cases before with
    | nil =>
        obtain ⟨rfl, rfl⟩ := List.cons.inj part
        exact holds [] (by rw [List.append_nil]) shows nofun
    | cons first rest =>
        obtain ⟨rfl, rfl⟩ := List.cons.inj part
        refine holds (rest ++ [told]) (by simp) shows fun sent here => ?_
        refine quiet sent ?_
        rcases List.mem_append.mp here with inside | last
        · exact List.mem_append_left _ inside
        · rw [List.mem_singleton.mp last]
          exact List.mem_append_right _ List.mem_cons_self
  rw [same] at built
  obtain ⟨frame, sent, decoded⟩ :=
    navDataMsgTask_decoded convert fix.record.navData
  cases built.symm.trans sent
  exact ⟨_, decoded, rfl, rfl,
    fix.record.navData.carried_eq_integers_iff⟩

/-- The conversions of a zero. -/
def zeroScans : FloatScans :=
  { double := fun input =>
      match input with
      | '0' :: rest => some (0, rest)
      | _ => none
    float := fun input =>
      match input with
      | '0' :: rest => some (0, rest)
      | _ => none }

/-- A fix in which everything is zero. -/
def zeroFix : NavFix zeroScans where
  record := Function.update clearedSgData .messageId
    { text := "PBSOL".toList, fits := by decide }
  shown := fun _ => ['0']
  checksum := "5A\r\n".toList
  named := rfl
  legible := by
    intro field
    cases field <;> first | exact trivial | exact fun _ => rfl

def zeroTick : NavTick :=
  { running := true
    allocated := true
    content := '$' :: zeroFix.line ++ '$' :: "GNGGA,1".toList }

theorem zeroTick_shows : zeroTick.Shows zeroFix where
  running := rfl
  allocated := rfl
  noNul := by decide +kernel
  sentence :=
    ⟨{ front := []
       body := zeroFix.line
       back := "GNGGA,1".toList
       whole := rfl
       undivided := by decide +kernel
       starts := by decide +kernel
       later := by decide +kernel },
      rfl, by
        unfold Sentence.Leads
        decide +kernel,
      by decide⟩

theorem zeroTick_defined :
    (navDataMsgTaskTick zeroScans ⟨id, id, id, id⟩ clearedSgData
      zeroTick).isSome = true := by
  decide +kernel

/-- A tick without anything to read. -/
def quietTick : NavTick :=
  { running := true, allocated := true, content := [] }

theorem quietTick_defined :
    (navDataMsgTaskTick zeroScans ⟨id, id, id, id⟩ zeroFix.record
      quietTick).isSome = true := by
  decide +kernel

/-- The frame of a quiet tick behind the fix tells the fix, too. -/
theorem navigation_told_zeroFix : ∃ outputs sg shown told,
    (navigationMachine zeroScans ⟨id, id, id, id⟩).Reaches Machine.anyStep
        outputs sg ∧
      outputs = [shown, told] ∧ shown.tick = zeroTick ∧
      told.tick = quietTick ∧
      ∃ fields, decodeNavData told.frame = some fields ∧
        fields.position = zeroFix.record.navData.position ⟨id, id, id, id⟩ ∧
        fields.integers = zeroFix.record.navData.carried ∧
        (fields.integers = zeroFix.record.navData.integers ↔
          zeroFix.record.navData.timeSinceLastDiff = 0) := by
  obtain ⟨⟨following, emitted⟩, stepped⟩ :=
    Option.isSome_iff_exists.mp zeroTick_defined
  obtain ⟨shown, calls, rfl, same, read, parsed, stored, _⟩ :=
    navDataMsgTaskTick_sent stepped
  have shows : shown.tick.Shows zeroFix := by
    rw [same]
    exact zeroTick_shows
  have record : following = zeroFix.record := by
    rw [parsed] at stored
    exact zeroTick_shows.stores read stored
  subst record
  obtain ⟨⟨final, later⟩, quiet⟩ :=
    Option.isSome_iff_exists.mp quietTick_defined
  obtain ⟨told, _, rfl, tick, nothing, none, _⟩ :=
    navDataMsgTaskTick_sent quiet
  cases Option.some.inj nothing
  have first : (navigationMachine zeroScans ⟨id, id, id, id⟩).Reaches
      Machine.anyStep _ zeroFix.record :=
    .next (.start rfl) trivial stepped
  have reached : (navigationMachine zeroScans ⟨id, id, id, id⟩).Reaches
      Machine.anyStep _ final :=
    .next first trivial quiet
  refine ⟨_, final, shown, told, reached, rfl, same, tick,
    @navigation_told _ _ _ _ reached [] [told] [] shown rfl _ shows ?_ told
      (List.mem_cons_of_mem _ List.mem_cons_self)⟩
  rw [List.forall_mem_singleton]
  exact none

end RtA100
