import RtA100.JsonBuffers
import RtA100.JsonGrammar

/-!
# Printing and parsing JSON

What `cJSON_Print` writes for a tree whose numbers are integers of C,
`cJSON_Parse` reads back to the same tree, as long as the strings of the tree
end at their terminators and it is not nested too deeply.
-/

namespace RtA100

open Library

/-! ## Trees that a text can denote -/

mutual

/-- The number of arrays and objects inside one another. -/
def CJson.depth : CJson → Nat
  | .array elements => depthElements elements + 1
  | .object members => depthMembers members + 1
  | _ => 0

def depthElements : List CJson → Nat
  | [] => 0
  | element :: rest => max element.depth (depthElements rest)

def depthMembers : List (CString × CJson) → Nat
  | [] => 0
  | (_, value) :: rest => max value.depth (depthMembers rest)

end

mutual

/-- All numbers and strings of a tree, the names of its members included. -/
def CJson.All (number : Int → Prop) (string : CString → Prop) : CJson → Prop
  | .number valueint => number valueint
  | .string valuestring => string valuestring
  | .array elements => AllElements number string elements
  | .object members => AllMembers number string members
  | _ => True

def AllElements (number : Int → Prop) (string : CString → Prop) :
    List CJson → Prop
  | [] => True
  | element :: rest =>
      element.All number string ∧ AllElements number string rest

def AllMembers (number : Int → Prop) (string : CString → Prop) :
    List (CString × CJson) → Prop
  | [] => True
  | (name, value) :: rest =>
      (string name ∧ value.All number string) ∧ AllMembers number string rest

end

/-- The numbers are of type `int`, so that `valuedouble` is `valueint`. -/
def CJson.Ints : CJson → Prop :=
  CJson.All (fun valueint => -2147483648 ≤ valueint ∧ valueint ≤ 2147483647)
    fun _ => True

/-- The strings end at their terminators. -/
def CJson.Terminated : CJson → Prop :=
  CJson.All (fun _ => True) fun valuestring => '\x00' ∉ valuestring

theorem depthElements_le_iff {elements : List CJson} {limit : Nat} :
    depthElements elements ≤ limit ↔
      ∀ element ∈ elements, element.depth ≤ limit := by
  induction elements with
  | nil => simp [depthElements]
  | cons element rest induction =>
      rw [depthElements, Nat.max_le, induction, List.forall_mem_cons]

theorem depthMembers_le_iff {members : List (CString × CJson)}
    {limit : Nat} :
    depthMembers members ≤ limit ↔
      ∀ member ∈ members, member.2.depth ≤ limit := by
  induction members with
  | nil => simp [depthMembers]
  | cons member rest induction =>
      rw [depthMembers, Nat.max_le, induction, List.forall_mem_cons]

section All

variable {number : Int → Prop} {string : CString → Prop}

theorem allElements_iff {elements : List CJson} :
    AllElements number string elements ↔
      ∀ element ∈ elements, element.All number string := by
  induction elements with
  | nil => simp [AllElements]
  | cons element rest induction =>
      rw [AllElements, induction, List.forall_mem_cons]

theorem allMembers_iff {members : List (CString × CJson)} :
    AllMembers number string members ↔
      ∀ member ∈ members, string member.1 ∧ member.2.All number string := by
  induction members with
  | nil => simp [AllMembers]
  | cons member rest induction =>
      rw [AllMembers, induction, List.forall_mem_cons]

end All

/-! ## What a text denotes -/

theorem valueint_range (number : ℚ) :
    -2147483648 ≤ valueint number ∧ valueint number ≤ 2147483647 := by
  unfold valueint
  split_ifs with high low nonnegative
  · decide
  · decide
  · have above := Int.floor_nonneg.mpr nonnegative
    have below : ⌊number⌋ < 2147483647 :=
      Int.floor_lt.mpr (by push_cast; exact not_le.mp high)
    omega
  · have above : -2147483648 < ⌈number⌉ :=
      Int.lt_ceil.mpr (by push_cast; exact not_le.mp low)
    have below : ⌈number⌉ ≤ 0 :=
      Int.ceil_le.mpr (by push_cast; exact (not_le.mp nonnegative).le)
    omega

theorem StringText.free {text string : CString}
    (quoted : StringText text string) : '\x00' ∉ string := by
  cases quoted
  exact not_mem_takeWhile _ _

theorem Scalar.all {text : CString} {value : CJson}
    (scalar : Scalar text value) :
    value.Ints ∧ value.Terminated ∧ value.depth = 0 := by
  cases scalar with
  | null => exact ⟨trivial, trivial, rfl⟩
  | false => exact ⟨trivial, trivial, rfl⟩
  | true => exact ⟨trivial, trivial, rfl⟩
  | string quoted => exact ⟨trivial, quoted.free, rfl⟩
  | number numeral =>
      obtain ⟨_, _, rfl⟩ := numeral.value
      exact ⟨valueint_range _, trivial, rfl⟩

theorem Denotes.all {limit : Nat} {text : CString} {value : CJson}
    (denoted : Denotes limit text value) :
    value.Ints ∧ value.Terminated ∧ value.depth ≤ limit := by
  induction limit generalizing text value with
  | zero =>
      obtain ⟨ints, terminated, flat⟩ := Scalar.all denoted
      exact ⟨ints, terminated, flat.le⟩
  | succ limit induction =>
      cases denoted with
      | scalar scalar =>
          obtain ⟨ints, terminated, flat⟩ := scalar.all
          exact ⟨ints, terminated, flat.le.trans (Nat.zero_le _)⟩
      | array bracketed =>
          have all := bracketed.forall fun _ _ denoted => induction denoted
          rw [CJson.Ints, CJson.Terminated, CJson.All, CJson.All, CJson.depth,
            allElements_iff, allElements_iff, Nat.add_le_add_iff_right,
            depthElements_le_iff]
          exact ⟨fun element member => (all element member).1,
            fun element member => (all element member).2.1,
            fun element member => (all element member).2.2⟩
      | object bracketed =>
          have each : ∀ text member, MemberText (Denotes limit) text member →
              '\x00' ∉ member.1 ∧ member.2.Ints ∧ member.2.Terminated ∧
                member.2.depth ≤ limit := by
            rintro text member (⟨quoted, _, _, denoted⟩)
            exact ⟨quoted.free, induction denoted⟩
          have all := bracketed.forall each
          rw [CJson.Ints, CJson.Terminated, CJson.All, CJson.All, CJson.depth,
            allMembers_iff, allMembers_iff, Nat.add_le_add_iff_right,
            depthMembers_le_iff]
          exact ⟨fun member inside => ⟨trivial, (all member inside).2.1⟩,
            fun member inside =>
              ⟨(all member inside).1, (all member inside).2.2.1⟩,
            fun member inside => (all member inside).2.2.2⟩

/-! ## Printed strings and numbers -/

theorem utf8Bytes_ascii {character : Char} (small : character.toNat < 128) :
    utf8Bytes character = [character] := by
  have same : character.val.toNat = character.toNat := rfl
  rw [utf8Bytes, String.utf8EncodeChar]
  simp only [same]
  rw [if_pos (by omega), List.map_singleton, UInt8.toNat_ofNat',
    Nat.mod_eq_of_lt (by omega), Char.ofNat_toNat]

theorem escapeLetter_part {letter character : Char}
    (listed : (letter, character) ∈ escapeLetters) :
    StringPart ['\\', letter] [character] := by
  rw [← (escapeLetters_sequence listed []).2]
  exact (Spelling.letter listed).part

theorem paddedHex_unit {code : Nat} (small : code < 32) :
    HexUnit (paddedHex 4 code) code := by
  have digits : ∀ code < 32, (paddedHex 4 code).length = 4 ∧
      (paddedHex 4 code).mapM hexDigit = some [0, 0, code / 16, code % 16] := by
    decide
  obtain ⟨long, values⟩ := digits code small
  refine ⟨long, _, values, ?_⟩
  simp only [List.foldl_cons, List.foldl_nil]
  omega

theorem escapeCharacter_part (character : Char) :
    StringPart (escapeCharacter character) [character] := by
  have named : ∀ code, character.toNat = code → character = Char.ofNat code :=
    fun code same => by rw [← same, Char.ofNat_toNat]
  unfold escapeCharacter
  split
  case h_8 code notQuote notEscape _ _ _ _ _ =>
    split
    · rename_i control
      have spelled := (Spelling.unit (paddedHex_unit control)).part
      rwa [utf8Bytes_ascii (control.trans (by decide))] at spelled
    · refine .plains ?_ ?_
      · rw [List.mem_singleton]
        rintro rfl
        exact notQuote rfl
      · rw [List.mem_singleton]
        rintro rfl
        exact notEscape rfl
  all_goals
    rename_i code
    rw [named _ code]
    exact escapeLetter_part (by decide)

/-- A printed string denotes its characters. -/
theorem printString_text {text : CString} (free : '\x00' ∉ text) :
    StringText (printString text) text := by
  have part : StringPart (text.flatMap escapeCharacter) _ :=
    StringPart.flatMap fun character _ => escapeCharacter_part character
  have quoted := part.text
  rwa [List.flatMap_singleton', untilNul_eq free] at quoted

theorem valueint_intCast {value : Int} (low : -2147483648 ≤ value)
    (high : value ≤ 2147483647) : valueint (value : ℚ) = value := by
  unfold valueint
  split_ifs with most least nonnegative
  · have bound : (2147483647 : Int) ≤ value := by exact_mod_cast most
    omega
  · have bound : value ≤ (-2147483648 : Int) := by exact_mod_cast least
    omega
  · exact Int.floor_intCast value
  · exact Int.ceil_intCast value

theorem decimal_length_le {value : Nat} (small : value < 10 ^ 10) :
    (decimal value).length ≤ 10 :=
  (Nat.length_toDigits_le_iff (by decide) (by decide)).mpr small

/-- A printed number denotes itself. -/
theorem printNumber_text {value : Int} (low : -2147483648 ≤ value)
    (high : value ≤ 2147483647) : NumberText (printNumber value) value := by
  have few : (decimal value.natAbs).length ≤ 10 :=
    decimal_length_le (by omega)
  unfold printNumber
  by_cases negative : value < 0
  · rw [if_pos negative]
    refine ⟨?_, ⟨'-', _, rfl, .inl rfl⟩, _, SignText.minus.decimal _, ?_⟩
    · rw [List.length_cons]
      omega
    · rw [Numeral.double_digits (by omega),
        show -1 * (value.natAbs : Int) = value by omega,
        valueint_intCast low high]
  · rw [if_neg negative]
    obtain ⟨first, rest, shape⟩ := List.exists_cons_of_ne_nil
      (Nat.toDigits_ne_nil (b := 10) (n := value.natAbs))
    have starts : first.isDigit = true := decimal_digits value.natAbs first (by
      rw [decimal, shape]
      exact List.mem_cons_self)
    refine ⟨few.trans (by decide), ⟨first, rest, shape, .inr starts⟩,
      _, SignText.none.decimal _, ?_⟩
    rw [Numeral.double_digits (by omega),
      show 1 * (value.natAbs : Int) = value by omega,
      valueint_intCast low high]

/-! ## Printed trees -/

theorem blank_tabs (depth : Nat) : Blank (tabs depth) := by
  intro character member
  rw [(List.mem_replicate.mp member).2]
  decide

theorem blank_nil : Blank [] := by
  intro character member
  cases member

theorem blank_singleton {character : Char}
    (blank : isBlank character = true) : Blank [character] := by
  intro other member
  rwa [List.mem_singleton.mp member]

@[simp] theorem arrayPunctuation_separator :
    arrayPunctuation.separator = ',' := rfl

@[simp] theorem objectPunctuation_separator :
    objectPunctuation.separator = ',' := rfl

theorem printMember_text {denotes : CString → CJson → Prop} {name : CString}
    {value : CJson} {text : CString} (free : '\x00' ∉ name)
    (denoted : denotes text value) :
    MemberText denotes (printString name ++ [':', '\t'] ++ text)
      (name, value) := by
  have tab : isBlank '\t' = true := by decide
  have member := MemberText.pair (printString_text free) blank_nil
    (blank_singleton tab) denoted
  rwa [List.nil_append, List.singleton_append,
    ← List.singleton_append (l := '\t' :: text), ← List.append_assoc,
    ← List.singleton_append (l := text), ← List.append_assoc,
    List.append_assoc (printString name)] at member

mutual

/-- A printed tree denotes itself. -/
theorem CJson.print_denotes (depth : Nat) {limit : Nat} (root : CJson)
    (ints : root.Ints) (terminated : root.Terminated)
    (shallow : root.depth ≤ limit) :
    Denotes limit (root.print depth) root := by
  cases root with
  | null => exact Denotes.scalar .null
  | bool value =>
      cases value with
      | false => exact Denotes.scalar .false
      | true => exact Denotes.scalar .true
  | number value =>
      exact Denotes.scalar
        (.number (printNumber_text ints.1 ints.2))
  | string text =>
      exact Denotes.scalar (.string (printString_text terminated))
  | array elements =>
      obtain ⟨inner, rfl⟩ : ∃ inner, limit = inner + 1 := by
        rw [CJson.depth] at shallow
        exact ⟨limit - 1, by omega⟩
      apply Composite.array
      cases elements with
      | nil => exact .nothing blank_nil.array
      | cons element rest =>
          exact .items (printElements_separated (depth + 1) element rest
            ints terminated (Nat.le_of_succ_le_succ shallow))
  | object members =>
      obtain ⟨inner, rfl⟩ : ∃ inner, limit = inner + 1 := by
        rw [CJson.depth] at shallow
        exact ⟨limit - 1, by omega⟩
      have newline : Blank ['\n'] := blank_singleton (by decide)
      have lines := newline.object.append (blank_tabs depth).object
      apply Composite.object
      rw [← List.cons_append, ← List.cons_append]
      cases members with
      | nil => exact .nothing lines
      | cons member rest =>
          have separated := printMembers_separated (depth + 1) member rest
            ints terminated (Nat.le_of_succ_le_succ shallow)
          exact .items ((separated.leading newline.object).trailing
            (blank_tabs depth).object)

theorem printElements_separated (depth : Nat) {limit : Nat}
    (element : CJson) (rest : List CJson)
    (ints : (CJson.array (element :: rest)).Ints)
    (terminated : (CJson.array (element :: rest)).Terminated)
    (shallow : depthElements (element :: rest) ≤ limit) :
    Separated arrayPunctuation (Denotes limit)
      (printElements depth (element :: rest)) (element :: rest) := by
  rw [depthElements, Nat.max_le] at shallow
  have denoted :=
    CJson.print_denotes depth element ints.1 terminated.1 shallow.1
  cases rest with
  | nil =>
      rw [printElements]
      simpa [printElements] using
        Separated.last blank_nil.array denoted blank_nil.array
  | cons next rest =>
      have following := printElements_separated depth next rest
        ints.2 terminated.2 shallow.2
      have space : isBlank ' ' = true := by decide
      rw [printElements]
      simpa using
        Separated.next blank_nil.array denoted blank_nil.array
          (following.leading (blank_singleton space).array)

theorem printMembers_separated (depth : Nat) {limit : Nat}
    (member : CString × CJson) (rest : List (CString × CJson))
    (ints : (CJson.object (member :: rest)).Ints)
    (terminated : (CJson.object (member :: rest)).Terminated)
    (shallow : depthMembers (member :: rest) ≤ limit) :
    Separated objectPunctuation (MemberText (Denotes limit))
      (printMembers depth (member :: rest)) (member :: rest) := by
  obtain ⟨name, value⟩ := member
  rw [depthMembers, Nat.max_le] at shallow
  have denoted :=
    CJson.print_denotes depth value ints.1.2 terminated.1.2 shallow.1
  have here := printMember_text terminated.1.1 denoted
  have newline : Blank ['\n'] := blank_singleton (by decide)
  have indented := (blank_tabs depth).object
  cases rest with
  | nil =>
      rw [printMembers]
      simpa [printMembers] using
        Separated.last indented here newline.object
  | cons next rest =>
      have following := printMembers_separated depth next rest
        ints.2 terminated.2 shallow.2
      rw [printMembers]
      simpa using
        Separated.next indented here blank_nil.object
          (following.leading newline.object)

end

/-! ## The round trip -/

/-- A text that starts with a value is parsed as that value. -/
theorem cJsonParse_denoted {front rest : CString} {root : CJson}
    (denoted : Denotes nestingLimit front root)
    (stops : Stops isNumeric rest) :
    cJsonParse (front ++ rest) = some root := by
  refine cJsonParse_complete ?_ blank_nil denoted
    (endsAt_of_stops stops)
  obtain ⟨first, tail, rfl, _, _, _, ascii⟩ := denoted.first
  rw [skipUtf8Bom, if_neg]
  · rfl
  · rintro ⟨_, mark⟩
    rw [List.cons_append, List.take_succ_cons, List.cons.injEq] at mark
    exact ascii mark.1

/-- Only trees that have a text are parsed. -/
theorem cJsonParse_all {value : CString} {root : CJson}
    (parsed : cJsonParse value = some root) :
    root.Ints ∧ root.Terminated ∧ root.depth ≤ nestingLimit := by
  obtain ⟨_, _, _, _, _, denoted, _⟩ := cJsonParse_sound parsed
  exact denoted.all

theorem cJsonParse_print {root : CJson} (ints : root.Ints)
    (terminated : root.Terminated) (shallow : root.depth ≤ nestingLimit) :
    cJsonParse (cJsonPrint root) = some root := by
  have denoted := CJson.print_denotes 0 root ints terminated shallow
  rw [cJsonPrint, ← List.append_nil (root.print 0)]
  exact cJsonParse_denoted denoted (.nil _)

/-- The strings of a document that come from elsewhere. -/
def OutgoingDocument.strings : OutgoingDocument → List CString
  | .heartbeat heartBeat =>
      [heartBeat.devAddr.text, heartBeat.cpuInfo.text, heartBeat.usedMem.text,
        heartBeat.totalMem.text, heartBeat.usedDisk.text,
        heartBeat.totalDisk.text, heartBeat.upTime.text,
        heartBeat.curTime.text] ++
        heartBeat.reported.flatMap fun unitInfo =>
          [unitInfo.unitName.text, unitInfo.hwVer.text, unitInfo.swVer.text]
  | .report content => [content.time.text, content.report.text]
  | .fileUpload info =>
      [info.devAddr.text, info.uploadPath.text, info.base64Str.text]

/-- The strings of a document end at their terminators. -/
def OutgoingDocument.Terminated (document : OutgoingDocument) : Prop :=
  ∀ text ∈ document.strings, '\x00' ∉ text

theorem nul_not_mem_decimal (value : Nat) : '\x00' ∉ decimal value := by
  intro member
  exact absurd (decimal_isDigit member) (by decide)

theorem createUnitInfoObject_terminated_iff (type : UInt8)
    (unitInfo : UnitInfo) :
    (createUnitInfoObject type unitInfo).Terminated ↔
      '\x00' ∉ unitInfo.unitName.text ∧
        '\x00' ∉ (unitInfo.version type).text := by
  have names : '\x00' ∉ softwareName ∧ '\x00' ∉ hardwareName ∧
      '\x00' ∉ versionName ∧ '\x00' ≠ 'V' := by decide
  by_cases isSoftware : type = 1
  · simp [createUnitInfoObject, UnitInfo.version, isSoftware,
      CJson.Terminated, CJson.All, AllMembers, version_text, names]
  · simp [createUnitInfoObject, UnitInfo.version, isSoftware,
      CJson.Terminated, CJson.All, AllMembers, version_text, names]

theorem createUnitInfoArray_terminated_iff (heartBeat : OtaHeartBeat)
    (type : UInt8) :
    (createUnitInfoArray heartBeat.unitNum.toUInt8 heartBeat.units
        type).Terminated ↔
      ∀ unitInfo ∈ heartBeat.reported, '\x00' ∉ unitInfo.unitName.text ∧
        '\x00' ∉ (unitInfo.version type).text := by
  rw [createUnitInfoArray, CJson.Terminated, CJson.All, allElements_iff,
    List.forall_mem_map, OtaHeartBeat.take_reported]
  exact forall₂_congr fun unitInfo _ =>
    createUnitInfoObject_terminated_iff type unitInfo

theorem OutgoingDocument.terminated_iff (document : OutgoingDocument) :
    document.root.Terminated ↔ document.Terminated := by
  have names : '\x00' ∉ langName ∧ '\x00' ∉ deviceAddressName ∧
      '\x00' ∉ taskIdName ∧ '\x00' ∉ executionTimeName ∧
      '\x00' ∉ executionReportName ∧ '\x00' ∉ "zh_CN".toList ∧
      '\x00' ∉ "usageCpu".toList ∧ '\x00' ∉ "usageMemory".toList ∧
      '\x00' ∉ "totalMemory".toList ∧ '\x00' ∉ "usageDisk".toList ∧
      '\x00' ∉ "totalDisk".toList ∧ '\x00' ∉ "upTime".toList ∧
      '\x00' ∉ "systemTime".toList ∧ '\x00' ∉ "extendInfo".toList ∧
      '\x00' ∉ "hardwareList".toList ∧ '\x00' ∉ "softwareList".toList ∧
      '\x00' ∉ "filePath".toList ∧ '\x00' ∉ "base64Str".toList := by decide
  have versions : ∀ units : List UnitInfo,
      ((∀ unitInfo ∈ units, '\x00' ∉ unitInfo.unitName.text ∧
          '\x00' ∉ unitInfo.hwVer.text) ∧
        ∀ unitInfo ∈ units, '\x00' ∉ unitInfo.unitName.text ∧
          '\x00' ∉ unitInfo.swVer.text) ↔
        ∀ unitInfo ∈ units, '\x00' ∉ unitInfo.unitName.text ∧
          '\x00' ∉ unitInfo.hwVer.text ∧ '\x00' ∉ unitInfo.swVer.text := by
    grind
  unfold OutgoingDocument.Terminated
  cases document with
  | heartbeat heartBeat =>
      have units := createUnitInfoArray_terminated_iff heartBeat
      simp only [CJson.Terminated] at units
      simp only [OutgoingDocument.root, createOtaHeartbeatData,
        CJson.Terminated, CJson.All, AllMembers, units, names,
        not_false_eq_true, true_and, and_true, OutgoingDocument.strings,
        List.forall_mem_append, List.forall_mem_cons, List.forall_mem_flatMap,
        UnitInfo.version]
      simp only [List.not_mem_nil, not_false_eq_true, false_implies,
        implies_true, and_true, true_and, and_assoc, ← versions,
        show ¬(0 : UInt8) = 1 by decide, if_false, if_true]
  | report content =>
      simp only [OutgoingDocument.root, createOtaReportData,
        getOtaReportInfo, CJson.Terminated, CJson.All, AllMembers, names,
        nul_not_mem_decimal, OutgoingDocument.strings,
        List.forall_mem_cons]
      simp
  | fileUpload info =>
      simp only [OutgoingDocument.root, createFileUploadData,
        CJson.Terminated, CJson.All, AllMembers, names,
        OutgoingDocument.strings, List.forall_mem_cons]
      simp

/-- The numbers of a document are ids. -/
theorem OutgoingDocument.ints (document : OutgoingDocument) :
    document.root.Ints := by
  have array : ∀ num units type, (createUnitInfoArray num units type).Ints := by
    intro num units type
    rw [createUnitInfoArray, CJson.Ints, CJson.All, allElements_iff,
      List.forall_mem_map]
    intro unitInfo _
    by_cases isSoftware : type = 1 <;>
      simp [createUnitInfoObject, isSoftware, CJson.All, AllMembers]
  cases document with
  | heartbeat heartBeat =>
      rw [OutgoingDocument.root, createOtaHeartbeatData, CJson.Ints, CJson.All,
        allMembers_iff]
      simp only [List.forall_mem_cons, CJson.All, true_and, List.not_mem_nil,
        false_implies, implies_true, and_true]
      exact ⟨array _ _ _, array _ _ _⟩
  | report content =>
      have small := content.info.id.toNat_lt
      simp only [OutgoingDocument.root, createOtaReportData,
        getOtaReportInfo, CJson.Ints, CJson.All, AllMembers, true_and,
        and_true]
      omega
  | fileUpload info =>
      simp [OutgoingDocument.root, createFileUploadData, CJson.Ints,
        CJson.All, AllMembers]

theorem OutgoingDocument.depth_le (document : OutgoingDocument) :
    document.root.depth ≤ nestingLimit := by
  have object : ∀ type unitInfo,
      (createUnitInfoObject type unitInfo).depth ≤ 1 := by
    intro type unitInfo
    by_cases isSoftware : type = 1 <;>
      simp [createUnitInfoObject, isSoftware, CJson.depth, depthMembers]
  have array : ∀ num units type,
      (createUnitInfoArray num units type).depth ≤ 2 := by
    intro num units type
    rw [createUnitInfoArray, CJson.depth, Nat.add_le_add_iff_right,
      depthElements_le_iff, List.forall_mem_map]
    exact fun unitInfo _ => object type unitInfo
  cases document with
  | heartbeat heartBeat =>
      rw [OutgoingDocument.root, createOtaHeartbeatData, CJson.depth,
        nestingLimit, Nat.add_le_add_iff_right, depthMembers_le_iff]
      simp only [List.forall_mem_cons, CJson.depth, List.not_mem_nil,
        false_implies, implies_true, Nat.zero_le, true_and, and_true]
      exact ⟨(array _ _ _).trans (by decide), (array _ _ _).trans (by decide)⟩
  | report content =>
      simp [OutgoingDocument.root, createOtaReportData, CJson.depth,
        depthMembers, nestingLimit]
  | fileUpload info =>
      simp [OutgoingDocument.root, createFileUploadData, CJson.depth,
        depthMembers, nestingLimit]

theorem OutgoingDocument.fits_iff_short (document : OutgoingDocument) :
    document.Fits ↔ document.Short := by
  cases document with
  | heartbeat heartBeat => exact OutgoingDocument.heartbeat_fits_iff _
  | report content => exact OutgoingDocument.report_fits_iff content
  | fileUpload info => exact OutgoingDocument.fileUpload_fits_iff info

/-- The text in the buffer is read back exactly when its strings end at their
terminators. -/
theorem OutgoingDocument.readBack_iff {document : OutgoingDocument}
    {data : CArray document.bufferSize}
    (copied : document.data = some data) :
    cJsonParse data.text = some document.root ↔ document.Terminated := by
  rw [strcpy_text copied, ← OutgoingDocument.terminated_iff]
  exact ⟨fun parsed => (cJsonParse_all parsed).2.1, fun terminated =>
    cJsonParse_print document.ints terminated document.depth_le⟩

/-- A document reaches its buffer as a text that is read back to the document
exactly when its strings are short enough and end at their terminators. -/
theorem outgoingDocument_readBack_iff (document : OutgoingDocument) :
    (∃ data, document.data = some data ∧
        cJsonParse data.text = some document.root) ↔
      document.Short ∧ document.Terminated := by
  rw [← OutgoingDocument.fits_iff_short]
  constructor
  · rintro ⟨data, copied, parsed⟩
    exact ⟨⟨data, copied⟩,
      (OutgoingDocument.readBack_iff copied).mp parsed⟩
  · rintro ⟨⟨data, copied⟩, terminated⟩
    exact ⟨data, copied,
      (OutgoingDocument.readBack_iff copied).mpr terminated⟩

end RtA100
