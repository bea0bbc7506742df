import Mathlib.Algebra.Group.Nat.Defs
import RtA100.DeviceInfo
import RtA100.JsonRoundTrip
import RtA100.UnitList

/-!
# What a heartbeat tells the server

`updater.sh` prints eight measurements as one line and the units as another,
`get_ota_heartbeat_info` reads both over SSH, and `create_ota_heartbeat_data`
prints them as JSON.  The server reads exactly what was measured when every
text fits the arrays and the buffers on its way, and nothing stands behind an
empty text: the scan of the first line stops there.
-/

namespace RtA100

open Library

/-! ## The script -/

/-- What `get_heartbeat_base_info` measures. -/
structure BaseMeasurement where
  devAddr : Nat
  cpuInfo : LineField
  totalDisk : LineField
  usedDisk : LineField
  totalMemory : LineField
  usedMemory : LineField
  upTime : LineField
  curTime : LineField

/-- The arrays that the first line is scanned into, in the order of the
scan. -/
inductive BaseField where
  | devAddr
  | cpuInfo
  | totalDisk
  | usedDisk
  | totalMem
  | usedMem
  | upTime
  | curTime
deriving DecidableEq

def baseArguments : List BaseField :=
  [.devAddr, .cpuInfo, .totalDisk, .usedDisk, .totalMem, .usedMem, .upTime,
   .curTime]

/-- What the script prints for an array. -/
def BaseMeasurement.field (measured : BaseMeasurement) :
    BaseField → LineField
  | .devAddr =>
      { text := scriptDevAddr measured.devAddr
        noComma := not_mem_scriptDevAddr (by decide)
        oneLine := not_mem_scriptDevAddr (by decide) }
  | .cpuInfo => measured.cpuInfo
  | .totalDisk => measured.totalDisk
  | .usedDisk => measured.usedDisk
  | .totalMem => measured.totalMemory
  | .usedMem => measured.usedMemory
  | .upTime => measured.upTime
  | .curTime => measured.curTime

def BaseMeasurement.text (measured : BaseMeasurement) (field : BaseField) :
    CString :=
  (measured.field field).text

/-- The texts, each with a comma behind it. -/
def commaLine (texts : List CString) : CString :=
  texts.flatMap fun text => text ++ ",".toList

def BaseMeasurement.texts (measured : BaseMeasurement) : List CString :=
  baseArguments.map measured.text

/-- `get_heartbeat_base_info` -/
def getHeartbeatBaseInfo (measured : BaseMeasurement) : CString :=
  commaLine measured.texts ++ ['\n']

/-- `get_heartbeat_unit_info` -/
def getHeartbeatUnitInfo (units : List ScriptUnit) : CString :=
  unitsLine units ++ ['\n']

/-! ## The device -/

/-- A content of the eight arrays. -/
abbrev BaseRecord := BaseField → CArray 32

/-- `sscanf` of the first line into the cleared arrays. -/
def scanBase (resp : CString) : Option BaseRecord :=
  @scanFields BaseField (fun _ => CArray 32) _ (fun _ => convertField 32)
    baseArguments (resp.dropWhile isSpace) fun _ => .cleared 31

/-- Keep the time of the last start, with `strncmp` and `strncpy`. -/
def refreshUpTime (upTime : CArray 30) (read : CArray 32) :
    Option (CArray 30) :=
  if read.text.isPrefixOf upTime.text = true then some upTime
  else strcpy 30 read.text

def BaseRecord.heartBeat (base : BaseRecord) (units : List UnitInfo)
    (counted : units.length < 65536) : OtaHeartBeat :=
  { devAddr := base .devAddr
    cpuInfo := base .cpuInfo
    usedMem := base .usedMem
    totalMem := base .totalMem
    usedDisk := base .usedDisk
    totalDisk := base .totalDisk
    upTime := base .upTime
    curTime := base .curTime
    units
    counted }

/-- The replies of the two commands, and the memory that `malloc` returns for
the units. -/
structure HeartbeatEnvironment where
  connects : Bool
  baseInfo : SshChannel
  unitInfo : SshChannel
  block : Nat → RawUnit

/-- `get_ota_heartbeat_info`, and `up_time` of `base_info` after it.  Without a
result it returns -1.  Units whose arrays hold no string are left out of the
model: printing them is undefined. -/
def getOtaHeartbeatInfo (environment : HeartbeatEnvironment)
    (upTime : CArray 30) : Option (Option OtaHeartBeat × CArray 30) :=
  if environment.connects = false then some (none, upTime)
  else do
    let (resp, ret) ←
      sshClientExecute environment.baseInfo (CArray.cleared 511)
    if ret ≠ 0 then some (none, upTime)
    else
      let base ← scanBase resp.text
      let upTime ← refreshUpTime upTime (base .upTime)
      let (_, ret) ←
        sshClientExecute environment.unitInfo (CArray.cleared 511)
      if ret ≠ 0 then some (none, upTime)
      else
        let (_, raw) ←
          heartbeatUnits environment.unitInfo.output environment.block
        let units ← raw.mapM RawUnit.info
        if counted : units.length < 65536 then
          some (some (base.heartBeat units counted), upTime)
        else none

/-! ## The server -/

/-- The document of eight texts and of units. -/
def heartbeatDocument (text : BaseField → CString)
    (units : List (CString × CString × CString)) : CJson :=
  .object
    [(langName, .string "zh_CN".toList),
      (deviceAddressName, .string (text .devAddr)),
      ("usageCpu".toList, .string (text .cpuInfo)),
      ("usageMemory".toList, .string (text .usedMem)),
      ("totalMemory".toList, .string (text .totalMem)),
      ("usageDisk".toList, .string (text .usedDisk)),
      ("totalDisk".toList, .string (text .totalDisk)),
      ("upTime".toList, .string (text .upTime)),
      ("systemTime".toList, .string (text .curTime)),
      ("extendInfo".toList, .string []),
      ("hardwareList".toList, .array (units.map (unitObject 0))),
      ("softwareList".toList, .array (units.map (unitObject 1)))]

/-- The commands succeed and print the measurements and the units. -/
structure PrintsHeartbeat (environment : HeartbeatEnvironment)
    (measured : BaseMeasurement) (units : List ScriptUnit) : Prop where
  connects : environment.connects = true
  baseStarted : environment.baseInfo.Started
  baseOutput : environment.baseInfo.output = getHeartbeatBaseInfo measured
  unitStarted : environment.unitInfo.Started
  unitOutput : environment.unitInfo.output = getHeartbeatUnitInfo units

/-- The server parses the buffer of the device as the document of what was
measured. -/
def HeartbeatTold (environment : HeartbeatEnvironment) (upTime : CArray 30)
    (measured : BaseMeasurement) (units : List ScriptUnit) : Prop :=
  ∃ heartBeat following buf,
    getOtaHeartbeatInfo environment upTime =
        some (some heartBeat, following) ∧
      (OutgoingDocument.heartbeat heartBeat).data = some buf ∧
      cJsonParse buf.text = some (heartbeatDocument measured.text
        (units.map ScriptUnit.strings))

/-- The characters that a unit takes in the two lists. -/
def ScriptUnit.width (unit : ScriptUnit) : Nat :=
  2 * escapedLength unit.unitName + escapedLength unit.hwVer +
    escapedLength unit.swVer

/-- What the way from the measurement to the server has room for. -/
structure BaseMeasurement.Tellable (measured : BaseMeasurement)
    (units : List ScriptUnit) : Prop where
  fields : ∀ text ∈ measured.texts, text.length < 32
  unbroken : ∀ text ∈ measured.texts.dropWhile (· ≠ []), text = []
  upTime : measured.upTime.text.length < 30
  unitsLine : (unitsLine units).length < 256
  complete : ∀ unit ∈ units, unit.Complete
  document : (measured.texts.map escapedLength).sum +
    (if units = [] then 4
      else 88 * units.length + (units.map ScriptUnit.width).sum) ≤
    797

/-! ## The first line -/

/-- The texts that a scan of a line with commas shows in cleared arrays. -/
def shownTexts (texts : List CString) : List CString :=
  texts.takeWhile (· ≠ []) ++ (texts.dropWhile (· ≠ [])).map fun _ => []

theorem shownTexts_eq_self_iff (texts : List CString) :
    shownTexts texts = texts ↔
      ∀ text ∈ texts.dropWhile (· ≠ []), text = [] := by
  have whole : texts.takeWhile (· ≠ []) ++ texts.dropWhile (· ≠ []) = texts :=
    List.takeWhile_append_dropWhile
  have shown : shownTexts texts = texts ↔
      (texts.dropWhile (· ≠ [])).map (fun _ => []) =
        (texts.dropWhile (· ≠ [])).map id := by
    constructor
    · intro same
      rw [List.map_id]
      exact List.append_cancel_left (same.trans whole.symm)
    · intro same
      rw [shownTexts, same, List.map_id, whole]
  rw [shown, List.map_inj_left]
  exact forall₂_congr fun _ _ => eq_comm

theorem mem_of_mem_shownTexts {texts : List CString} {text : CString}
    (member : text ∈ shownTexts texts) : text ∈ texts ∨ text = [] := by
  rcases List.mem_append.mp member with leading | behind
  · exact .inl ((List.takeWhile_prefix _).mem leading)
  · obtain ⟨_, _, same⟩ := List.mem_map.mp behind
    exact .inr same.symm

theorem shownTexts_nil_cons (texts : List CString) :
    shownTexts ([] :: texts) = [] :: texts.map fun _ => [] := rfl

theorem shownTexts_cons {text : CString} (something : text ≠ [])
    (texts : List CString) :
    shownTexts (text :: texts) = text :: shownTexts texts := by
  simp [shownTexts, something]

/-- A scan shows the texts of a line up to the first empty one, as long as
these fit. -/
theorem scanFields_commaLine {Field : Type} [DecidableEq Field] {size : Nat}
    {fields : List Field} {texts : List CString}
    (sameLength : texts.length = fields.length) (distinct : fields.Nodup)
    (free : ∀ text ∈ texts, ',' ∉ text) {record : Field → CArray size}
    (cleared : ∀ field ∈ fields, (record field).text = []) :
    ((∀ text ∈ texts.takeWhile (· ≠ []), text.length < size) ∧
      ∃ after : Field → CArray size,
        @scanFields Field (fun _ => CArray size) _ (fun _ => convertField size)
            fields (commaLine texts) record = some after ∧
          fields.map (fun field => (after field).text) = shownTexts texts ∧
          ∀ field ∉ fields, after field = record field) ∨
    ¬(∀ text ∈ texts.takeWhile (· ≠ []), text.length < size) ∧
      @scanFields Field (fun _ => CArray size) _ (fun _ => convertField size)
        fields (commaLine texts) record = none := by
  induction fields generalizing texts record with
  | nil =>
      have nothing := List.eq_nil_of_length_eq_zero sameLength
      subst nothing
      exact .inl ⟨nofun, record, rfl, rfl, fun _ _ => rfl⟩
  | cons field fields induction =>
      cases texts with
      | nil => cases sameLength
      | cons text texts =>
          rw [List.forall_mem_cons] at free cleared
          rw [List.nodup_cons] at distinct
          have split : commaLine (text :: texts) =
              text ++ ',' :: commaLine texts := by
            rw [commaLine, List.flatMap_cons, List.append_assoc]
            rfl
          rw [split]
          by_cases empty : text = []
          · subst empty
            refine .inl ⟨nofun, record, ?_, ?_, fun _ _ => rfl⟩
            · exact @scanFields_failed Field (fun _ => CArray size) _
                (fun _ => convertField size) field fields _ record
                (convertField_failed size _)
            · rw [shownTexts_nil_cons, List.map_cons, cleared.1,
                List.map_congr_left cleared.2, List.map_const',
                List.map_const', Nat.succ.inj sameLength]
          · have leading : (text :: texts).takeWhile (· ≠ []) =
                text :: texts.takeWhile (· ≠ []) :=
              List.takeWhile_cons_of_pos (by simpa using empty)
            rw [leading, List.forall_mem_cons, shownTexts_cons empty]
            by_cases fits : text.length < size
            · have stored := @scanFields_stored Field (fun _ => CArray size) _
                (fun _ => convertField size) field fields _ (commaLine texts)
                record _ (convertField_stored _ empty free.1 fits)
              rw [stored]
              have others : ∀ other ∈ fields,
                  (Function.update record field { text, fits } other).text =
                    [] := by
                intro other member
                rw [Function.update_of_ne, cleared.2 other member]
                rintro rfl
                exact distinct.1 member
              rcases induction (Nat.succ.inj sameLength) distinct.2 free.2
                  others with ⟨short, after, scan, shown, kept⟩ | ⟨long, scan⟩
              · refine .inl ⟨⟨fits, short⟩, after, scan, ?_, ?_⟩
                · rw [List.map_cons, kept field distinct.1,
                    Function.update_self, shown]
                · intro other absent
                  rw [List.mem_cons, not_or] at absent
                  rw [kept other absent.2, Function.update_of_ne absent.1]
              · exact .inr ⟨fun all => long all.2, scan⟩
            · exact .inr ⟨fun all => fits all.1,
                @scanFields_overflow Field (fun _ => CArray size) _
                  (fun _ => convertField size) field fields _ record
                  (convertField_overflow _ empty free.1 fits)⟩

theorem BaseMeasurement.texts_noComma (measured : BaseMeasurement) :
    ∀ text ∈ measured.texts, ',' ∉ text := by
  intro text member
  obtain ⟨field, _, rfl⟩ := List.mem_map.mp member
  exact (measured.field field).noComma

theorem BaseMeasurement.texts_oneLine (measured : BaseMeasurement) :
    ∀ text ∈ measured.texts, '\n' ∉ text := by
  intro text member
  obtain ⟨field, _, rfl⟩ := List.mem_map.mp member
  exact (measured.field field).oneLine

theorem commaLine_free {texts : List CString} {character : Char}
    (other : character ≠ ',') (free : ∀ text ∈ texts, character ∉ text) :
    character ∉ commaLine texts := by
  intro member
  obtain ⟨text, inside, found⟩ := List.mem_flatMap.mp member
  rcases List.mem_append.mp found with here | comma
  · exact free text inside here
  · exact other (List.mem_singleton.mp comma)

theorem commaLine_length_le {texts : List CString} {size : Nat}
    (fits : ∀ text ∈ texts, text.length < size) :
    (commaLine texts).length ≤ size * texts.length := by
  induction texts with
  | nil => exact Nat.zero_le _
  | cons text texts induction =>
      rw [List.forall_mem_cons] at fits
      have here := fits.1
      have later := induction fits.2
      have comma : ",".toList.length = 1 := by decide
      rw [commaLine, List.flatMap_cons, List.length_append,
        List.length_append, List.length_cons, Nat.mul_succ]
      rw [commaLine] at later
      omega

theorem scanBase_line (measured : BaseMeasurement) :
    ((∀ text ∈ measured.texts.takeWhile (· ≠ []), text.length < 32) ∧
      ∃ base : BaseRecord, scanBase (commaLine measured.texts) = some base ∧
        baseArguments.map (fun field => (base field).text) =
          shownTexts measured.texts) ∨
    ¬(∀ text ∈ measured.texts.takeWhile (· ≠ []), text.length < 32) ∧
      scanBase (commaLine measured.texts) = none := by
  have unspaced : (commaLine measured.texts).dropWhile isSpace =
      commaLine measured.texts := by
    have front : commaLine measured.texts = scriptDevAddr measured.devAddr ++
        ',' :: commaLine measured.texts.tail := by
      rw [commaLine, BaseMeasurement.texts, baseArguments, List.map_cons,
        List.flatMap_cons, List.append_assoc]
      rfl
    rw [front, dropWhile_isSpace_digits _ (scriptDevAddr_ne_nil _)
      fun _ => scriptDevAddr_isDigit]
  have distinct : baseArguments.Nodup := by decide
  have cleared : ∀ field ∈ baseArguments,
      (CArray.cleared 31).text = [] := fun _ _ => rfl
  rw [scanBase, unspaced]
  rcases scanFields_commaLine (List.length_map measured.text) distinct
      measured.texts_noComma cleared with
    ⟨short, base, scan, shown, _⟩ | ⟨long, scan⟩
  · exact .inl ⟨short, base, scan, shown⟩
  · exact .inr ⟨long, scan⟩

/-! ## The device -/

theorem mapM_eq_some_iff {α β : Type} {f : α → Option β} {list : List α}
    {results : List β} :
    list.mapM f = some results ↔ list.map f = results.map some := by
  induction list generalizing results with
  | nil => cases results <;> simp
  | cons head list induction =>
      simp only [List.mapM_cons, Option.bind_eq_bind,
        Option.bind_eq_some_iff, Option.pure_def, Option.some.injEq,
        induction]
      constructor
      · rintro ⟨first, here, others, later, rfl⟩
        rw [List.map_cons, List.map_cons, here, later]
      · intro same
        cases results with
        | nil => cases same
        | cons first results =>
            rw [List.map_cons, List.map_cons, List.cons.injEq] at same
            exact ⟨first, same.1, results, same.2, rfl⟩

/-- A line is read whole, if it fits. -/
theorem sshClientExecute_line {channel : SshChannel} {line : CString}
    (started : channel.Started) (output : channel.output = line ++ ['\n'])
    (oneLine : '\n' ∉ line) (fits : (line ++ ['\n']).length < 512) :
    ∃ resp, sshClientExecute channel (CArray.cleared 511) = some (resp, 0) ∧
      resp.text = line := by
  refine ⟨cutLine { text := line ++ ['\n'], fits }, ?_,
    takeWhile_stop [] oneLine⟩
  rw [sshClientExecute_started started, output, CArray.cleared,
    List.nil_append, strcpy, dif_pos fits]
  rfl

theorem sshClientExecute_long {channel : SshChannel}
    (started : channel.Started) (long : ¬channel.output.length < 512) :
    sshClientExecute channel (CArray.cleared 511) = none := by
  rw [sshClientExecute_started started, CArray.cleared, List.nil_append,
    strcpy, dif_neg long]
  rfl

/-- The units that are read, whatever memory they are put in. -/
theorem heartbeatUnits_complete {line : UnitsLine}
    (complete : ∀ unit ∈ line.units, unit.Complete) (block : Nat → RawUnit) :
    ∃ raw units,
      heartbeatUnits (getHeartbeatUnitInfo line.units) block =
          some (.ofNat line.units.length, raw) ∧
        raw.mapM RawUnit.info = some units ∧
        units.map UnitInfo.strings = line.units.map ScriptUnit.strings := by
  have sameLength : ((List.range line.units.length).map block).length =
      line.units.length := by
    rw [List.length_map, List.length_range]
  obtain ⟨raw, units, results, reads, strings⟩ :=
    scanUnits_complete sameLength complete
  refine ⟨raw, units, ?_, mapM_eq_some_iff.mpr reads, strings⟩
  rw [getHeartbeatUnitInfo, heartbeatUnits_line, results]
  rfl

/-- Memory without a zero would be read where a version is missing. -/
theorem complete_of_unterminated {line : UnitsLine} {unitNum : UInt16}
    {raw : List RawUnit} {units : List UnitInfo}
    (read : heartbeatUnits (getHeartbeatUnitInfo line.units)
      (fun _ => unterminatedUnit) = some (unitNum, raw))
    (infos : raw.mapM RawUnit.info = some units) :
    ∀ unit ∈ line.units, unit.Complete := by
  intro unit member
  by_contra incomplete
  rw [getHeartbeatUnitInfo, heartbeatUnits_line,
    Option.map_eq_some_iff] at read
  obtain ⟨scanned, results, same⟩ := read
  cases same
  have unterminated : ∀ unit ∈ (List.range line.units.length).map
      fun _ => unterminatedUnit, unit.hwVer.string = none := by
    intro unit member
    obtain ⟨_, _, rfl⟩ := List.mem_map.mp member
    exact unterminatedUnit_string
  have unread : none ∈ raw.map RawUnit.info :=
    scanUnits_incomplete unterminated results member incomplete
  rw [mapM_eq_some_iff.mp infos, List.mem_map] at unread
  obtain ⟨_, _, impossible⟩ := unread
  cases impossible

theorem UnitsLine.reply_length (line : UnitsLine) :
    (getHeartbeatUnitInfo line.units).length < 512 := by
  have short := line.short
  rw [getHeartbeatUnitInfo, List.length_append, List.length_singleton]
  omega

theorem exists_line {units : List ScriptUnit}
    (short : (unitsLine units).length < 256) :
    ∃ line : UnitsLine, units = line.units :=
  ⟨{ units, short := Nat.le_of_lt_succ short }, rfl⟩

/-- Units that are read came in a line that fits `tmp_resp`. -/
theorem heartbeatUnits_short {units : List ScriptUnit}
    {block : Nat → RawUnit} {result : UInt16 × List RawUnit}
    (read : heartbeatUnits (getHeartbeatUnitInfo units) block =
      some result) : (unitsLine units).length < 256 := by
  simp only [heartbeatUnits, sshExecute, Option.bind_eq_bind,
    Option.bind_eq_some_iff, Option.some.injEq] at read
  obtain ⟨_, ⟨reply, executed, rfl⟩, tmpResp, copied, _⟩ := read
  rw [strcpy_text executed, getHeartbeatUnitInfo,
    takeWhile_stop [] (unitsLine_noNewline units)] at copied
  exact strcpy_defined_iff.mp ⟨tmpResp, copied⟩

/-- Once both commands have run, the units are from a line that fits. -/
theorem PrintsHeartbeat.short {environment : HeartbeatEnvironment}
    {measured : BaseMeasurement} {units : List ScriptUnit}
    (prints : PrintsHeartbeat environment measured units)
    {upTime following : CArray 30} {info : Option OtaHeartBeat}
    (gathered : getOtaHeartbeatInfo environment upTime =
      some (info, following)) : (unitsLine units).length < 256 := by
  simp only [getOtaHeartbeatInfo, prints.connects, Bool.true_eq_false,
    if_false, sshClientExecute_started prints.baseStarted,
    sshClientExecute_started prints.unitStarted, Option.bind_eq_bind,
    Option.bind_eq_some_iff, Option.map_eq_some_iff, Prod.exists,
    Prod.mk.injEq] at gathered
  obtain ⟨_, _, ⟨_, _, _, rfl⟩, gathered⟩ := gathered
  rw [if_neg (fun failed => failed rfl)] at gathered
  simp only [Option.bind_eq_some_iff, Option.map_eq_some_iff, Prod.exists,
    Prod.mk.injEq] at gathered
  obtain ⟨_, _, _, _, _, _, ⟨_, _, _, rfl⟩, gathered⟩ := gathered
  rw [if_neg (fun failed => failed rfl)] at gathered
  simp only [Option.bind_eq_some_iff, Prod.exists] at gathered
  obtain ⟨_, _, read, _⟩ := gathered
  rw [prints.unitOutput] at read
  exact heartbeatUnits_short read

/-- What the device makes of the two lines. -/
theorem getOtaHeartbeatInfo_prints {environment : HeartbeatEnvironment}
    {measured : BaseMeasurement} {line : UnitsLine}
    (prints : PrintsHeartbeat environment measured line.units)
    (upTime : CArray 30) :
    getOtaHeartbeatInfo environment upTime =
      if (getHeartbeatBaseInfo measured).length < 512 then do
        let base ← scanBase (commaLine measured.texts)
        let upTime ← refreshUpTime upTime (base .upTime)
        let (_, raw) ←
          heartbeatUnits (getHeartbeatUnitInfo line.units) environment.block
        let units ← raw.mapM RawUnit.info
        if counted : units.length < 65536 then
          some (some (base.heartBeat units counted), upTime)
        else none
      else none := by
  have baseLine : '\n' ∉ commaLine measured.texts :=
    commaLine_free (by decide) measured.texts_oneLine
  obtain ⟨units, unitsRead, _⟩ := sshClientExecute_line prints.unitStarted
    prints.unitOutput (unitsLine_noNewline line.units) line.reply_length
  simp only [getOtaHeartbeatInfo, prints.connects, Bool.true_eq_false,
    if_false]
  by_cases fits : (getHeartbeatBaseInfo measured).length < 512
  · obtain ⟨resp, baseRead, text⟩ := sshClientExecute_line prints.baseStarted
      prints.baseOutput baseLine fits
    simp only [if_pos fits, baseRead, text, unitsRead, prints.unitOutput,
      Option.bind_eq_bind, Option.bind_some, ne_eq, not_true_eq_false,
      if_false]
  · rw [if_neg fits, sshClientExecute_long prints.baseStarted]
    · rfl
    · rwa [prints.baseOutput]

theorem refreshUpTime_defined_iff (upTime : CArray 30) (read : CArray 32) :
    (∃ following, refreshUpTime upTime read = some following) ↔
      read.text.length < 30 := by
  rw [refreshUpTime]
  by_cases same : read.text.isPrefixOf upTime.text = true
  · rw [if_pos same]
    have short := (List.isPrefixOf_iff_prefix.mp same).length_le
    have fits := upTime.fits
    exact iff_of_true ⟨upTime, rfl⟩ (by omega)
  · rw [if_neg same]
    exact strcpy_defined_iff

/-- The heartbeat that a device gathers from complete units. -/
theorem getOtaHeartbeatInfo_some {environment : HeartbeatEnvironment}
    {measured : BaseMeasurement} {line : UnitsLine}
    (prints : PrintsHeartbeat environment measured line.units)
    (complete : ∀ unit ∈ line.units, unit.Complete) (upTime : CArray 30) :
    ∃ (units : List UnitInfo) (counted : units.length < 65536),
      units.map UnitInfo.strings = line.units.map ScriptUnit.strings ∧
      getOtaHeartbeatInfo environment upTime =
        if (getHeartbeatBaseInfo measured).length < 512 then
          (scanBase (commaLine measured.texts)).bind fun base =>
            (refreshUpTime upTime (base .upTime)).map fun following =>
              (some (base.heartBeat units counted), following)
        else none := by
  obtain ⟨raw, units, read, infos, strings⟩ :=
    heartbeatUnits_complete complete environment.block
  have counted : units.length < 65536 := by
    have sameLength := congrArg List.length strings
    rw [List.length_map, List.length_map] at sameLength
    have bound := line.count_lt
    omega
  refine ⟨units, counted, strings, ?_⟩
  rw [getOtaHeartbeatInfo_prints prints]
  simp only [read, infos, counted, Option.bind_eq_bind, Option.bind_some,
    dif_pos, Option.map_eq_bind, Function.comp_def]

/-- Whoever reads the two lines has a heartbeat. -/
theorem getOtaHeartbeatInfo_gathers {environment : HeartbeatEnvironment}
    {measured : BaseMeasurement} {printed : List ScriptUnit}
    (prints : PrintsHeartbeat environment measured printed)
    (complete : ∀ unit ∈ printed, unit.Complete)
    {upTime following : CArray 30} {info : Option OtaHeartBeat}
    (result : getOtaHeartbeatInfo environment upTime =
      some (info, following)) :
    ∃ heartBeat, info = some heartBeat := by
  obtain ⟨line, rfl⟩ := exists_line (prints.short result)
  obtain ⟨units, counted, _, gathered⟩ :=
    getOtaHeartbeatInfo_some prints complete upTime
  rw [gathered] at result
  split at result
  · obtain ⟨base, _, result⟩ := Option.bind_eq_some_iff.mp result
    obtain ⟨_, _, same⟩ := Option.map_eq_some_iff.mp result
    cases same
    exact ⟨_, rfl⟩
  · cases result

/-! ## The document -/

theorem createOtaHeartbeatData_document {line : UnitsLine}
    {units : List UnitInfo} (base : BaseRecord)
    (counted : units.length < 65536)
    (strings : units.map UnitInfo.strings =
      line.units.map ScriptUnit.strings) :
    createOtaHeartbeatData (base.heartBeat units counted) =
      heartbeatDocument (fun field => (base field).text)
        (line.units.map ScriptUnit.strings) := by
  have sameLength := congrArg List.length strings
  rw [List.length_map, List.length_map] at sameLength
  have number : (base.heartBeat units counted).unitNum.toUInt8 =
      .ofNat line.units.length := by
    rw [OtaHeartBeat.unitNum, BaseRecord.heartBeat, sameLength,
      ← UInt8.toNat_inj, UInt16.toNat_toUInt8, line.unitNum_toNat,
      UInt8.toNat_ofNat']
  have arrays : ∀ type, createUnitInfoArray (.ofNat line.units.length) units
      type = .array ((line.units.map ScriptUnit.strings).map
        (unitObject type)) := by
    intro type
    rw [createUnitInfoArray_strings line.count_lt strings, List.map_map]
    rfl
  simp only [createOtaHeartbeatData, number]
  simp only [BaseRecord.heartBeat, arrays, heartbeatDocument]

theorem heartbeatDocument_inj {text other : BaseField → CString}
    {units : List (CString × CString × CString)} :
    heartbeatDocument text units = heartbeatDocument other units ↔
      text = other := by
  constructor
  · intro same
    simp only [heartbeatDocument, CJson.object.injEq, List.cons.injEq,
      Prod.mk.injEq, CJson.string.injEq, true_and, and_true] at same
    obtain ⟨devAddr, cpuInfo, usedMem, totalMem, usedDisk, totalDisk, upTime,
      curTime⟩ := same
    funext field
    cases field with
    | devAddr => exact devAddr
    | cpuInfo => exact cpuInfo
    | totalDisk => exact totalDisk
    | usedDisk => exact usedDisk
    | totalMem => exact totalMem
    | usedMem => exact usedMem
    | upTime => exact upTime
    | curTime => exact curTime
  · rintro rfl
    rfl

theorem SshChannel.output_nulFree (channel : SshChannel) :
    '\x00' ∉ channel.output := by
  intro member
  obtain ⟨bytes, read, found⟩ := List.mem_flatten.mp member
  obtain ⟨answer, _, rfl⟩ := List.mem_map.mp read
  exact answer.nulFree found

theorem PrintsHeartbeat.text_nulFree {environment : HeartbeatEnvironment}
    {measured : BaseMeasurement} {units : List ScriptUnit}
    (prints : PrintsHeartbeat environment measured units) :
    ∀ text ∈ measured.texts, '\x00' ∉ text := by
  intro text member zero
  apply environment.baseInfo.output_nulFree
  rw [prints.baseOutput, getHeartbeatBaseInfo, commaLine]
  exact List.mem_append_left _ (List.mem_flatMap.mpr
    ⟨text, member, List.mem_append_left _ zero⟩)

section

variable {line : UnitsLine} {units : List UnitInfo} {base : BaseRecord}
  {counted : units.length < 65536}
  (strings : units.map UnitInfo.strings = line.units.map ScriptUnit.strings)
include strings

theorem heartBeat_reported :
    (base.heartBeat units counted).reported = units := by
  have sameLength := congrArg List.length strings
  rw [List.length_map, List.length_map] at sameLength
  have bound := line.count_lt
  rw [OtaHeartBeat.reported, BaseRecord.heartBeat,
    List.take_of_length_le (by simp only; omega)]

theorem heartBeat_terminated
    (free : ∀ field ∈ baseArguments, '\x00' ∉ (base field).text) :
    (OutgoingDocument.heartbeat (base.heartBeat units counted)).Terminated := by
  have unitFree : ∀ unit ∈ units, '\x00' ∉ unit.unitName.text ∧
      '\x00' ∉ unit.hwVer.text ∧ '\x00' ∉ unit.swVer.text := by
    intro unit member
    have listed : unit.strings ∈ units.map UnitInfo.strings :=
      List.mem_map_of_mem member
    rw [strings] at listed
    obtain ⟨script, _, same⟩ := List.mem_map.mp listed
    simp only [ScriptUnit.strings, UnitInfo.strings, Prod.mk.injEq] at same
    rw [← same.1, ← same.2.1, ← same.2.2]
    exact ⟨script.nameString.free.1, script.hwString.free.1,
      script.swString.free.1⟩
  simp only [baseArguments, List.forall_mem_cons] at free
  obtain ⟨devAddr, cpuInfo, totalDisk, usedDisk, totalMem, usedMem, upTime,
    curTime, _⟩ := free
  rw [OutgoingDocument.Terminated, OutgoingDocument.strings,
    heartBeat_reported strings]
  simp only [List.forall_mem_append, List.forall_mem_cons,
    List.forall_mem_flatMap, BaseRecord.heartBeat]
  refine ⟨⟨devAddr, cpuInfo, usedMem, totalMem, usedDisk, totalDisk, upTime,
    curTime, List.forall_mem_nil _⟩, fun unit member => ?_⟩
  obtain ⟨name, hardware, software⟩ := unitFree unit member
  exact ⟨name, hardware, software, List.forall_mem_nil _⟩

theorem heartBeat_short_iff :
    (OutgoingDocument.heartbeat (base.heartBeat units counted)).Short ↔
      ((baseArguments.map fun field => (base field).text).map
          escapedLength).sum +
        (if line.units = [] then 4
          else 88 * line.units.length +
            (line.units.map ScriptUnit.width).sum) ≤ 797 := by
  have sameLength := congrArg List.length strings
  rw [List.length_map, List.length_map] at sameLength
  let width : CString × CString × CString → Nat :=
    fun strings => 2 * escapedLength strings.1 +
      escapedLength strings.2.2 + escapedLength strings.2.1
  have widths : units.map UnitInfo.width =
      line.units.map ScriptUnit.width := by
    have mapped := congrArg (List.map width) strings
    rwa [List.map_map, List.map_map] at mapped
  have empty : units = [] ↔ line.units = [] := by
    rw [← List.length_eq_zero_iff, sameLength, List.length_eq_zero_iff]
  rw [OutgoingDocument.Short, heartBeat_reported strings, widths, sameLength]
  simp only [empty, OtaHeartBeat.width, BaseRecord.heartBeat, baseArguments,
    List.map_cons, List.map_nil, List.sum_cons, List.sum_nil]
  omega

end

/-! ## From the measurement to the server -/

section

variable {environment : HeartbeatEnvironment} {measured : BaseMeasurement}
  {printed : List ScriptUnit}
  (prints : PrintsHeartbeat environment measured printed)
include prints

/-- The arrays hold strings. -/
theorem PrintsHeartbeat.base_nulFree {base : BaseRecord}
    (shown : baseArguments.map (fun field => (base field).text) =
      shownTexts measured.texts) :
    ∀ field ∈ baseArguments, '\x00' ∉ (base field).text := by
  intro field member
  have listed : (base field).text ∈
      baseArguments.map fun field => (base field).text :=
    List.mem_map_of_mem (f := fun field => (base field).text) member
  rw [shown] at listed
  rcases mem_of_mem_shownTexts listed with printed | empty
  · exact prints.text_nulFree _ printed
  · rw [empty]
    exact List.not_mem_nil

theorem BaseMeasurement.Tellable.of_told {upTime : CArray 30}
    (complete : ∀ unit ∈ printed, unit.Complete)
    (told : HeartbeatTold environment upTime measured printed) :
    measured.Tellable printed := by
  obtain ⟨heartBeat, following, buf, result, copied, parsed⟩ := told
  have short := prints.short result
  obtain ⟨line, rfl⟩ := exists_line short
  obtain ⟨units, counted, strings, gathered⟩ :=
    getOtaHeartbeatInfo_some prints complete upTime
  rw [gathered] at result
  split at result
  · obtain ⟨base, scan, result⟩ := Option.bind_eq_some_iff.mp result
    obtain ⟨_, refreshed, same⟩ := Option.map_eq_some_iff.mp result
    cases same
    rcases scanBase_line measured with
      ⟨_, other, otherScan, shown⟩ | ⟨_, nothing⟩
    · rw [scan, Option.some.injEq] at otherScan
      subst otherScan
      have root := (OutgoingDocument.readBack_iff copied).mpr
        (heartBeat_terminated strings (prints.base_nulFree shown))
      rw [parsed, Option.some.injEq, OutgoingDocument.root,
        createOtaHeartbeatData_document base counted strings,
        heartbeatDocument_inj] at root
      have texts : baseArguments.map (fun field => (base field).text) =
          measured.texts := by
        rw [BaseMeasurement.texts, root]
      have document := (heartBeat_short_iff strings).mp
        ((OutgoingDocument.fits_iff_short _).mp ⟨buf, copied⟩)
      rw [texts] at document shown
      refine ⟨?_, (shownTexts_eq_self_iff _).mp shown.symm, ?_, short,
        complete, document⟩
      · intro text member
        obtain ⟨field, _, rfl⟩ := List.mem_map.mp member
        rw [root]
        exact (base field).fits
      · have read := (refreshUpTime_defined_iff upTime _).mp ⟨_, refreshed⟩
        rwa [← congrFun root .upTime] at read
    · rw [scan] at nothing
      cases nothing
  · cases result

theorem BaseMeasurement.Tellable.told
    (tellable : measured.Tellable printed) (upTime : CArray 30) :
    HeartbeatTold environment upTime measured printed := by
  obtain ⟨line, rfl⟩ := exists_line tellable.unitsLine
  obtain ⟨units, counted, strings, gathered⟩ :=
    getOtaHeartbeatInfo_some prints tellable.complete upTime
  have length := commaLine_length_le tellable.fields
  have fits : (getHeartbeatBaseInfo measured).length < 512 := by
    have eight : measured.texts.length = 8 := rfl
    rw [getHeartbeatBaseInfo, List.length_append, List.length_singleton]
    omega
  rw [if_pos fits] at gathered
  rcases scanBase_line measured with ⟨_, base, scan, shown⟩ | ⟨long, _⟩
  · have whole := shown.trans
      ((shownTexts_eq_self_iff _).mpr tellable.unbroken)
    have text : (fun field => (base field).text) = measured.text := by
      funext field
      exact List.map_inj_left.mp whole field (by cases field <;> decide)
    obtain ⟨following, refreshed⟩ :=
      (refreshUpTime_defined_iff upTime (base .upTime)).mpr (by
        rw [congrFun text .upTime]
        exact tellable.upTime)
    obtain ⟨buf, copied⟩ := (OutgoingDocument.fits_iff_short _).mpr
      ((@heartBeat_short_iff line units base counted strings).mpr (by
        rw [whole]
        exact tellable.document))
    refine ⟨base.heartBeat units counted, following, buf, ?_, copied, ?_⟩
    · rw [gathered, scan, Option.bind_some, refreshed, Option.map_some]
    · rw [(OutgoingDocument.readBack_iff copied).mpr
          (heartBeat_terminated strings (prints.base_nulFree shown)),
        OutgoingDocument.root,
        createOtaHeartbeatData_document base counted strings, text]
  · exact absurd (fun text member => tellable.fields text
      ((List.takeWhile_prefix _).mem member)) long

end

/-- Whatever memory the units are put in, the server reads exactly what was
measured if and only if it can be told. -/
theorem heartbeatTold_iff {environment : HeartbeatEnvironment}
    {measured : BaseMeasurement} {units : List ScriptUnit}
    (prints : PrintsHeartbeat environment measured units)
    (upTime : CArray 30) :
    (∀ block,
        HeartbeatTold { environment with block } upTime measured units) ↔
      measured.Tellable units := by
  have printsInto : ∀ block,
      PrintsHeartbeat { environment with block } measured units := fun _ =>
    ⟨prints.connects, prints.baseStarted, prints.baseOutput,
      prints.unitStarted, prints.unitOutput⟩
  constructor
  · intro told
    obtain ⟨heartBeat, following, _, result, _⟩ :=
      told fun _ => unterminatedUnit
    obtain ⟨line, rfl⟩ := exists_line ((printsInto _).short result)
    have complete : ∀ unit ∈ line.units, unit.Complete := by
      rw [getOtaHeartbeatInfo_prints (printsInto _)] at result
      split at result
      · simp only [Option.bind_eq_bind, Option.bind_eq_some_iff,
          Prod.exists] at result
        obtain ⟨_, _, _, _, _, _, read, _, infos, _⟩ := result
        exact complete_of_unterminated read infos
      · cases result
    exact .of_told (printsInto environment.block) complete
      (told environment.block)
  · intro tellable block
    exact tellable.told (printsInto block) upTime

def exampleNumber : LineField :=
  { text := "10".toList, noComma := by decide, oneLine := by decide }

def exampleMeasurement : BaseMeasurement :=
  { devAddr := 356
    cpuInfo := exampleNumber
    totalDisk := exampleNumber
    usedDisk := exampleNumber
    totalMemory := exampleNumber
    usedMemory := exampleNumber
    upTime := exampleUpTime
    curTime := exampleUpTime }

def exampleUnits : List ScriptUnit :=
  [{ unversionedUnit with swVer := ['1'], swString := scriptString_one }]

def exampleHeartbeat : HeartbeatEnvironment :=
  { connects := true
    baseInfo := ranChannel (getHeartbeatBaseInfo exampleMeasurement)
      (by decide) (by decide +kernel) (by decide +kernel)
    unitInfo := ranChannel (getHeartbeatUnitInfo exampleUnits) (by decide)
      (by decide) (by decide)
    block := fun _ => unterminatedUnit }

theorem heartbeatTold_example :
    PrintsHeartbeat exampleHeartbeat exampleMeasurement exampleUnits ∧
      ∀ block, HeartbeatTold { exampleHeartbeat with block }
        (.cleared 29) exampleMeasurement exampleUnits := by
  have prints : PrintsHeartbeat exampleHeartbeat exampleMeasurement
      exampleUnits :=
    ⟨rfl, ⟨rfl, rfl, rfl⟩, rfl, ⟨rfl, rfl, rfl⟩, rfl⟩
  refine ⟨prints, (heartbeatTold_iff prints (.cleared 29)).mpr ?_⟩
  exact ⟨by decide +kernel, by decide +kernel, by decide, by decide,
    by decide, by decide +kernel⟩

end RtA100
