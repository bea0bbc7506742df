import RtA100.JsonBuffers
import RtA100.Library.Search

/-!
# The units of a heartbeat

`updater.sh` prints one `name:soft,hard;` for each unit.
`get_ota_heartbeat_info` counts the tokens of one copy of the line, allocates
as many units and scans the tokens of a second copy into them.  The scan of a
token stops at the first part that is empty, and what it has not stored stays
as `malloc` left it.
-/

namespace RtA100

open Library

/-! ## What the script prints -/

/-- A string of the script: at most 31 bytes without separators. -/
def ScriptString (text : CString) : Prop :=
  text.length < 32 ∧ ∀ character ∈ text, character ≠ '\x00' ∧
    character ≠ ':' ∧ character ≠ ',' ∧ character ≠ ';' ∧
      isSpace character = false

structure ScriptUnit where
  unitName : CString
  swVer : CString
  hwVer : CString
  named : unitName ≠ []
  nameString : ScriptString unitName
  swString : ScriptString swVer
  hwString : ScriptString hwVer

def ScriptUnit.token (unit : ScriptUnit) : CString :=
  unit.unitName ++ ':' :: (unit.swVer ++ ',' :: unit.hwVer)

/-- The line of `get_heartbeat_unit_info`. -/
def unitsLine : List ScriptUnit → CString
  | [] => []
  | unit :: units => unit.token ++ ';' :: unitsLine units

/-- The units of a line that fits `tmp_resp`. -/
structure UnitsLine where
  units : List ScriptUnit
  short : (unitsLine units).length ≤ 255

/-! ## What the heartbeat reads -/

/-- A `char` array of 32 bytes with any content. -/
structure RawArray where
  chars : List Char
  size : chars.length = 32

theorem RawArray.stored_size (array : RawArray) {text : CString}
    (fits : text.length < 32) :
    (text ++ '\x00' :: array.chars.drop (text.length + 1)).length = 32 := by
  have size := array.size
  rw [List.length_append, List.length_cons, List.length_drop]
  omega

/-- The array after a string has been stored in it, if it is. -/
def RawArray.store (array : RawArray) :
    Option CString → Option RawArray
  | none => some array
  | some text =>
      if fits : text.length < 32 then
        some { chars := text ++ '\x00' :: array.chars.drop (text.length + 1)
               size := array.stored_size fits }
      else none

theorem untilNul_length_lt {text : CString} (terminated : '\x00' ∈ text) :
    (untilNul text).length < text.length := by
  obtain ⟨front, back, split⟩ := List.append_of_mem terminated
  rw [split, untilNul, takeWhile_append_stop, List.length_append,
    List.length_cons]
  have part : (front.takeWhile (· ≠ '\x00')).length ≤ front.length :=
    (List.takeWhile_prefix _).length_le
  omega

/-- The string in an array, if a zero ends it there. -/
def RawArray.string (array : RawArray) : Option (CArray 32) :=
  if terminated : '\x00' ∈ array.chars then
    some { text := untilNul array.chars
           fits := by
             have shorter := untilNul_length_lt terminated
             have size := array.size
             omega }
  else none

/-- A `struct st_UnitInfo` in the memory that `malloc` returns. -/
structure RawUnit where
  unitName : RawArray
  hwVer : RawArray
  swVer : RawArray

/-- The unit, if its three arrays hold strings. -/
def RawUnit.info (unit : RawUnit) : Option UnitInfo := do
  let unitName ← unit.unitName.string
  let hwVer ← unit.hwVer.string
  let swVer ← unit.swVer.string
  some { unitName, hwVer, swVer }

/-- The versions that `%[^,],%s` stores. -/
def versionFields (text : CString) : List CString :=
  match text.takeWhile (· ≠ ',') with
  | [] => []
  | swVer =>
      swVer ::
        match text.dropWhile (· ≠ ',') with
        | [] => []
        | _ :: rest =>
            match (rest.dropWhile isSpace).takeWhile (!isSpace ·) with
            | [] => []
            | hwVer => [hwVer]

/-- The strings that `%[^:]:%[^,],%s` stores. -/
def unitFields (token : CString) : List CString :=
  match token.takeWhile (· ≠ ':') with
  | [] => []
  | unitName =>
      unitName ::
        match token.dropWhile (· ≠ ':') with
        | [] => []
        | _ :: rest => versionFields rest

/-- `sscanf` of a token into a unit. -/
def scanUnit (token : CString) (unit : RawUnit) : Option RawUnit := do
  let fields := unitFields token
  let unitName ← unit.unitName.store fields[0]?
  let swVer ← unit.swVer.store fields[1]?
  let hwVer ← unit.hwVer.store fields[2]?
  some { unitName, hwVer, swVer }

/-- The second loop over the tokens; a token without a unit would be stored
behind the block. -/
def scanUnits : List CString → List RawUnit → Option (List RawUnit)
  | [], units => some units
  | _ :: _, [] => none
  | token :: tokens, unit :: units => do
      let unit ← scanUnit token unit
      let units ← scanUnits tokens units
      some (unit :: units)

/-- The units that `get_ota_heartbeat_info` reads from the reply of
`unit_info`, in a block that `malloc` returns with this content. -/
def heartbeatUnits (reply : CString) (block : Nat → RawUnit) :
    Option (UInt16 × List RawUnit) := do
  let resp ← sshExecute 512 reply
  let tmpResp ← strcpy 256 resp
  let unitNum : UInt16 := .ofNat (strtok ';' resp).length
  let units ← scanUnits (strtok ';' tmpResp.text)
    ((List.range unitNum.toNat).map block)
  some (unitNum, units)

def UnitInfo.strings (info : UnitInfo) : CString × CString × CString :=
  (info.unitName.text, info.swVer.text, info.hwVer.text)

def ScriptUnit.strings (unit : ScriptUnit) : CString × CString × CString :=
  (unit.unitName, unit.swVer, unit.hwVer)

/-- What `create_unit_info_array` prints for a unit with these strings. -/
def unitObject (type : UInt8) :
    CString × CString × CString → CJson
  | (unitName, swVer, hwVer) =>
      .object
        [(if type = 1 then softwareName else hardwareName, .string unitName),
          (versionName, .string ('V' :: if type = 1 then swVer else hwVer))]

/-- The heartbeat reads exactly the units of the line, and prints only their
strings, whatever the block held. -/
def DecodesUnits (line : UnitsLine) : Prop :=
  ∀ block, ∃ (unitNum : UInt16) (raw : List RawUnit)
      (infos : List UnitInfo),
    heartbeatUnits (unitsLine line.units ++ ['\n']) block =
        some (unitNum, raw) ∧
      unitNum.toNat = line.units.length ∧
      raw.map RawUnit.info = infos.map some ∧
      infos.map UnitInfo.strings = line.units.map ScriptUnit.strings ∧
      ∀ type, createUnitInfoArray (.ofNat unitNum.toNat) infos type =
        .array (line.units.map fun unit => unitObject type unit.strings)

/-! ## The tokens -/

theorem ScriptString.free {text : CString} (string : ScriptString text) :
    '\x00' ∉ text ∧ ':' ∉ text ∧ ',' ∉ text ∧ ';' ∉ text ∧ '\n' ∉ text :=
  ⟨fun member => (string.2 _ member).1 rfl,
    fun member => (string.2 _ member).2.1 rfl,
    fun member => (string.2 _ member).2.2.1 rfl,
    fun member => (string.2 _ member).2.2.2.1 rfl,
    fun member => absurd (string.2 _ member).2.2.2.2 (by decide)⟩

theorem ScriptUnit.token_free (unit : ScriptUnit) {character : Char}
    (noColon : character ≠ ':') (noComma : character ≠ ',')
    (inName : character ∉ unit.unitName) (inSoft : character ∉ unit.swVer)
    (inHard : character ∉ unit.hwVer) : character ∉ unit.token := by
  simp only [ScriptUnit.token, List.mem_append, List.mem_cons, not_or]
  exact ⟨inName, noColon, inSoft, noComma, inHard⟩

theorem ScriptUnit.token_noSemicolon (unit : ScriptUnit) :
    ';' ∉ unit.token :=
  unit.token_free (by decide) (by decide) unit.nameString.free.2.2.2.1
    unit.swString.free.2.2.2.1 unit.hwString.free.2.2.2.1

theorem ScriptUnit.token_noNewline (unit : ScriptUnit) : '\n' ∉ unit.token :=
  unit.token_free (by decide) (by decide) unit.nameString.free.2.2.2.2
    unit.swString.free.2.2.2.2 unit.hwString.free.2.2.2.2

theorem ScriptUnit.token_something (unit : ScriptUnit) : unit.token ≠ [] :=
  List.append_ne_nil_of_left_ne_nil unit.named _

theorem strtok_unitsLine (units : List ScriptUnit) :
    strtok ';' (unitsLine units) = units.map ScriptUnit.token := by
  induction units with
  | nil => exact strtok_nothing ';'
  | cons unit units induction =>
      rw [unitsLine, strtok_piece unit.token_something unit.token_noSemicolon,
        induction, List.map_cons]

theorem unitsLine_noNewline (units : List ScriptUnit) :
    '\n' ∉ unitsLine units := by
  induction units with
  | nil => exact List.not_mem_nil
  | cons unit units induction =>
      simp only [unitsLine, List.mem_append, List.mem_cons, not_or]
      exact ⟨unit.token_noNewline, by decide, induction⟩

theorem unitsLine_length (units : List ScriptUnit) :
    units.length ≤ (unitsLine units).length := by
  induction units with
  | nil => exact Nat.le_refl 0
  | cons unit units induction =>
      rw [unitsLine, List.length_append, List.length_cons, List.length_cons]
      omega

theorem takeWhile_notSpace {text : CString}
    (string : ScriptString text) :
    (text.dropWhile isSpace).takeWhile (!isSpace ·) = text := by
  have visible : ∀ character ∈ text, (!isSpace character) = true := by
    intro character member
    rw [(string.2 character member).2.2.2.2]
    rfl
  have whole : text.takeWhile (!isSpace ·) = text := by
    simpa using @List.takeWhile_append_of_pos _ _ text [] visible
  cases text with
  | nil => rfl
  | cons first rest =>
      have firstVisible : isSpace first = false :=
        (string.2 first List.mem_cons_self).2.2.2.2
      rw [List.dropWhile_cons_of_neg (by rw [firstVisible]; decide), whole]

theorem versionFields_token (unit : ScriptUnit) :
    versionFields (unit.swVer ++ ',' :: unit.hwVer) =
      if unit.swVer = [] then []
      else unit.swVer :: if unit.hwVer = [] then [] else [unit.hwVer] := by
  unfold versionFields
  rw [takeWhile_stop _ unit.swString.free.2.2.1,
    dropWhile_stop _ unit.swString.free.2.2.1]
  cases unit.swVer with
  | nil => rfl
  | cons first rest =>
      simp only [takeWhile_notSpace unit.hwString]
      cases unit.hwVer with
      | nil => rfl
      | cons _ _ => rfl

/-- What the scan of a token stores: the parts up to the first empty one. -/
theorem unitFields_token (unit : ScriptUnit) :
    unitFields unit.token =
      unit.unitName ::
        if unit.swVer = [] then []
        else unit.swVer :: if unit.hwVer = [] then [] else [unit.hwVer] := by
  rw [← versionFields_token, unitFields, ScriptUnit.token,
    takeWhile_stop _ unit.nameString.free.2.1,
    dropWhile_stop _ unit.nameString.free.2.1]
  cases named : unit.unitName with
  | nil => exact absurd named unit.named
  | cons first rest => rfl

/-- A string of the script is stored and read back. -/
theorem RawArray.store_string (array : RawArray) {text : CString}
    (string : ScriptString text) :
    ∃ stored, array.store (some text) = some stored ∧
      stored.string = some { text, fits := string.1 } := by
  refine ⟨_, dif_pos string.1, ?_⟩
  have terminated : '\x00' ∈
      text ++ '\x00' :: array.chars.drop (text.length + 1) :=
    List.mem_append_right text List.mem_cons_self
  rw [RawArray.string, dif_pos terminated]
  have back : untilNul (text ++
      '\x00' :: array.chars.drop (text.length + 1)) = text :=
    takeWhile_stop _ string.free.1
  simp only [back]

/-- The versions of a unit are all there. -/
def ScriptUnit.Complete (unit : ScriptUnit) : Prop :=
  unit.swVer ≠ [] ∧ unit.hwVer ≠ []

instance (unit : ScriptUnit) : Decidable unit.Complete :=
  inferInstanceAs (Decidable (unit.swVer ≠ [] ∧ unit.hwVer ≠ []))

theorem scanUnit_complete {unit : ScriptUnit} (complete : unit.Complete)
    (raw : RawUnit) :
    ∃ (scanned : RawUnit) (info : UnitInfo),
      scanUnit unit.token raw = some scanned ∧
        scanned.info = some info ∧ info.strings = unit.strings := by
  obtain ⟨unitName, storedName, nameBack⟩ :=
    raw.unitName.store_string unit.nameString
  obtain ⟨swVer, storedSw, swBack⟩ := raw.swVer.store_string unit.swString
  obtain ⟨hwVer, storedHw, hwBack⟩ := raw.hwVer.store_string unit.hwString
  have fields : unitFields unit.token =
      [unit.unitName, unit.swVer, unit.hwVer] := by
    rw [unitFields_token, if_neg complete.1, if_neg complete.2]
  refine ⟨{ unitName, hwVer, swVer },
    { unitName := { text := unit.unitName, fits := unit.nameString.1 }
      hwVer := { text := unit.hwVer, fits := unit.hwString.1 }
      swVer := { text := unit.swVer, fits := unit.swString.1 } },
    ?_, ?_, rfl⟩
  · simp only [scanUnit, fields, List.getElem?_cons_zero,
      List.getElem?_cons_succ, storedName, storedSw, storedHw,
      Option.bind_eq_bind, Option.bind_some]
  · simp only [RawUnit.info, nameBack, swBack, hwBack, Option.bind_eq_bind,
      Option.bind_some]

/-- Without a version the last array keeps what it held. -/
theorem scanUnit_incomplete {unit : ScriptUnit} (incomplete : ¬unit.Complete)
    {raw scanned : RawUnit} (result : scanUnit unit.token raw = some scanned) :
    scanned.hwVer = raw.hwVer := by
  have missing : (unitFields unit.token)[2]? = none := by
    rw [unitFields_token]
    by_cases noSoft : unit.swVer = []
    · rw [if_pos noSoft]
      rfl
    · have noHard : unit.hwVer = [] := by
        by_cases hard : unit.hwVer = []
        · exact hard
        · exact absurd ⟨noSoft, hard⟩ incomplete
      rw [if_neg noSoft, if_pos noHard]
      rfl
  simp only [scanUnit, missing, Option.bind_eq_bind,
    Option.bind_eq_some_iff, RawArray.store, Option.some.injEq] at result
  obtain ⟨unitName, _, swVer, _, hwVer, same, rfl⟩ := result
  exact same.symm

/-! ## The whole line -/

theorem scanUnits_complete {units : List ScriptUnit} {block : List RawUnit}
    (sameLength : block.length = units.length)
    (complete : ∀ unit ∈ units, unit.Complete) :
    ∃ (raw : List RawUnit) (infos : List UnitInfo),
      scanUnits (units.map ScriptUnit.token) block = some raw ∧
        raw.map RawUnit.info = infos.map some ∧
          infos.map UnitInfo.strings = units.map ScriptUnit.strings := by
  induction units generalizing block with
  | nil =>
      have nothing : block = [] := List.eq_nil_of_length_eq_zero sameLength
      subst nothing
      exact ⟨[], [], rfl, rfl, rfl⟩
  | cons unit units induction =>
      cases block with
      | nil => cases sameLength
      | cons first block =>
          rw [List.forall_mem_cons] at complete
          obtain ⟨scanned, info, result, read, strings⟩ :=
            scanUnit_complete complete.1 first
          obtain ⟨raw, infos, results, reads, allStrings⟩ :=
            induction (Nat.succ.inj sameLength) complete.2
          refine ⟨scanned :: raw, info :: infos, ?_, ?_, ?_⟩
          · simp only [List.map_cons, scanUnits, result, results,
              Option.bind_eq_bind, Option.bind_some]
          · rw [List.map_cons, List.map_cons, read, reads]
          · rw [List.map_cons, List.map_cons, strings, allStrings]

/-- Memory in which no string ends shows wherever a version is missing. -/
theorem scanUnits_incomplete {units : List ScriptUnit}
    {block raw : List RawUnit}
    (unterminated : ∀ unit ∈ block, unit.hwVer.string = none)
    (result : scanUnits (units.map ScriptUnit.token) block = some raw)
    {unit : ScriptUnit} (member : unit ∈ units)
    (incomplete : ¬unit.Complete) : none ∈ raw.map RawUnit.info := by
  induction units generalizing block raw with
  | nil => exact absurd member List.not_mem_nil
  | cons head units induction =>
      cases block with
      | nil => cases result
      | cons first block =>
          rw [List.forall_mem_cons] at unterminated
          simp only [List.map_cons, scanUnits, Option.bind_eq_bind,
            Option.bind_eq_some_iff, Option.some.injEq] at result
          obtain ⟨scanned, here, others, later, rfl⟩ := result
          rw [List.map_cons, List.mem_cons]
          cases List.mem_cons.mp member with
          | inl same =>
              subst same
              left
              have kept := scanUnit_incomplete incomplete here
              rw [RawUnit.info, kept, unterminated.1]
              cases scanned.unitName.string <;> rfl
          | inr inTail =>
              exact Or.inr (induction unterminated.2 later inTail)

theorem UnitsLine.count_lt (line : UnitsLine) : line.units.length < 256 :=
  Nat.lt_succ_of_le (Nat.le_trans (unitsLine_length _) line.short)

theorem UnitsLine.unitNum_toNat (line : UnitsLine) :
    (UInt16.ofNat line.units.length).toNat = line.units.length := by
  have bound := line.count_lt
  rw [UInt16.toNat_ofNat']
  omega

/-- The two passes over the line agree on the number of units. -/
theorem heartbeatUnits_line (line : UnitsLine) (block : Nat → RawUnit) :
    heartbeatUnits (unitsLine line.units ++ ['\n']) block =
      (scanUnits (line.units.map ScriptUnit.token)
        ((List.range line.units.length).map block)).map
          fun raw => (.ofNat line.units.length, raw) := by
  have short := line.short
  have copied : (unitsLine line.units ++ ['\n']).length < 512 := by
    rw [List.length_append, List.length_singleton]
    omega
  have executed : sshExecute 512 (unitsLine line.units ++ ['\n']) =
      some (unitsLine line.units) := by
    rw [sshExecute, strcpy, dif_pos copied]
    exact congrArg some (takeWhile_stop [] (unitsLine_noNewline line.units))
  have stored : strcpy 256 (unitsLine line.units) =
      some { text := unitsLine line.units, fits := Nat.lt_succ_of_le short } :=
    dif_pos (Nat.lt_succ_of_le short)
  simp only [heartbeatUnits, executed, stored, Option.bind_eq_bind,
    Option.bind_some, strtok_unitsLine, List.length_map,
    line.unitNum_toNat]
  cases scanUnits (line.units.map ScriptUnit.token)
      ((List.range line.units.length).map block) with
  | none => rfl
  | some raw => rfl

theorem createUnitInfoObject_strings (type : UInt8) (info : UnitInfo) :
    createUnitInfoObject type info = unitObject type info.strings := by
  have shortSw := info.swVer.fits
  have shortHw := info.hwVer.fits
  unfold createUnitInfoObject unitObject UnitInfo.strings
  by_cases software : type = 1
  · simp only [software, if_true]
    rw [CArray.truncate_text (by rw [List.length_cons]; omega)]
  · simp only [software, if_false]
    rw [CArray.truncate_text (by rw [List.length_cons]; omega)]

theorem createUnitInfoArray_strings {infos : List UnitInfo}
    {units : List ScriptUnit} (short : units.length < 256)
    (strings : infos.map UnitInfo.strings = units.map ScriptUnit.strings)
    (type : UInt8) :
    createUnitInfoArray (.ofNat units.length) infos type =
      .array (units.map fun unit => unitObject type unit.strings) := by
  have sameLength := congrArg List.length strings
  rw [List.length_map, List.length_map] at sameLength
  have counted : (UInt8.ofNat units.length).toNat = units.length := by
    rw [UInt8.toNat_ofNat']
    omega
  have objects : infos.map (createUnitInfoObject type) =
      (infos.map UnitInfo.strings).map (unitObject type) := by
    rw [List.map_map]
    exact List.map_congr_left fun info _ =>
      createUnitInfoObject_strings type info
  rw [createUnitInfoArray, counted, ← sameLength, List.take_length, objects,
    strings, List.map_map]
  rfl

/-- A block of letters without a zero. -/
def unterminatedUnit : RawUnit :=
  { unitName :=
      { chars := List.replicate 32 'x', size := List.length_replicate }
    hwVer := { chars := List.replicate 32 'x', size := List.length_replicate }
    swVer :=
      { chars := List.replicate 32 'x', size := List.length_replicate } }

theorem unterminatedUnit_string : unterminatedUnit.hwVer.string = none := by
  decide

/-- A missing version shows what the memory held. -/
theorem not_decodesUnits {line : UnitsLine} {unit : ScriptUnit}
    (member : unit ∈ line.units) (incomplete : ¬unit.Complete) :
    ¬DecodesUnits line := by
  intro decodes
  obtain ⟨unitNum, raw, infos, result, _, reads, _⟩ :=
    decodes fun _ => unterminatedUnit
  rw [heartbeatUnits_line, Option.map_eq_some_iff] at result
  obtain ⟨scanned, results, same⟩ := result
  rw [(Prod.mk.inj same).2] at results
  have unterminated : ∀ unit ∈ (List.range line.units.length).map
      fun _ => unterminatedUnit, unit.hwVer.string = none := by
    intro unit member
    obtain ⟨_, _, rfl⟩ := List.mem_map.mp member
    exact unterminatedUnit_string
  have unread : none ∈ raw.map RawUnit.info :=
    scanUnits_incomplete unterminated results member incomplete
  rw [reads, List.mem_map] at unread
  obtain ⟨_, _, impossible⟩ := unread
  cases impossible

theorem decodesUnits_of_complete {line : UnitsLine}
    (complete : ∀ unit ∈ line.units, unit.Complete) :
    DecodesUnits line := by
  intro block
  have sameLength : ((List.range line.units.length).map block).length =
      line.units.length := by
    rw [List.length_map, List.length_range]
  obtain ⟨raw, infos, results, reads, strings⟩ :=
    scanUnits_complete sameLength complete
  refine ⟨.ofNat line.units.length, raw, infos, ?_, line.unitNum_toNat, reads,
    strings, ?_⟩
  · rw [heartbeatUnits_line, results]
    rfl
  · intro type
    rw [line.unitNum_toNat]
    exact createUnitInfoArray_strings line.count_lt strings type

/-- The units are decoded, whatever memory they are allocated in, exactly when
no version is empty. -/
theorem decodesUnits_iff (line : UnitsLine) :
    DecodesUnits line ↔ ∀ unit ∈ line.units, unit.Complete := by
  constructor
  · intro decodes unit member
    exact Decidable.byContradiction fun incomplete =>
      not_decodesUnits member incomplete decodes
  · exact decodesUnits_of_complete

theorem scriptString_nothing : ScriptString [] :=
  ⟨Nat.zero_lt_succ 31, fun _ member => absurd member List.not_mem_nil⟩

theorem scriptString_single {character : Char}
    (allowed : character ≠ '\x00' ∧ character ≠ ':' ∧ character ≠ ',' ∧
      character ≠ ';' ∧ isSpace character = false) :
    ScriptString [character] := by
  refine ⟨Nat.lt_add_left 30 Nat.one_lt_two, fun other member => ?_⟩
  rw [List.mem_singleton.mp member]
  exact allowed

theorem scriptString_one : ScriptString ['1'] :=
  scriptString_single (by decide)

/-- A unit whose software version is NULL in the database. -/
def unversionedUnit : ScriptUnit :=
  { unitName := ['1']
    swVer := []
    hwVer := ['1']
    named := List.cons_ne_nil '1' []
    nameString := scriptString_one
    swString := scriptString_nothing
    hwString := scriptString_one }

theorem unversionedLine_short :
    (unitsLine [unversionedUnit]).length ≤ 255 := by
  decide

def unversionedLine : UnitsLine :=
  { units := [unversionedUnit]
    short := unversionedLine_short }

/-- The printed versions of the unit are what the memory held. -/
theorem unversionedUnit_not_decoded :
    ¬∀ line : UnitsLine, DecodesUnits line := by
  intro claimed
  have member : unversionedUnit ∈ unversionedLine.units :=
    List.mem_singleton_self unversionedUnit
  exact not_decodesUnits member (by decide) (claimed unversionedLine)

end RtA100
