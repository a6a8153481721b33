import AtlasPulse.GdeltFeed

/-!
# Rows of a GDELT export

A row is refused only for what the fields of a record ask of it, and a record
has what stands in its columns. The rows themselves reach the records when no
field of the export begins with a quote.
-/

namespace AtlasPulse.Gdelt

open PyTime Binary64

variable (m : GdeltModel)

/-! ## Fields -/

/-- A whole number of a column, within its bounds. -/
def IntIn (low high : Option ℤ) (value : String) (n : ℤ) : Prop :=
  m.int value = some n ∧ (∀ bound ∈ low, bound ≤ n) ∧ ∀ bound ∈ high, n ≤ bound

/-- A float of a column that is not out of its bounds. -/
def FloatIn (low high : ℤ) (value : String) (x : Float64) : Prop :=
  m.float value = some x ∧ x.lt (.ofInt low) = false ∧ (Float64.ofInt high).lt x = false

/-- A coordinate of a column, which may be empty. -/
def CoordinateIn (value : String) (x : Option Float64) : Prop :=
  (value = "" ∧ x = none) ∨ (value ≠ "" ∧ ∃ y, m.float value = some y ∧ x = some y)

section
variable {m} {low high : Option ℤ} {value : String} {n : ℤ}

theorem intField_ok : intField m low high value = .ok n ↔ IntIn m low high value n := by
  unfold intField IntIn
  cases m.int value with
  | none => simp
  | some k =>
    have hlow : low.any (k < ·) = true ↔ ¬ ∀ bound ∈ low, bound ≤ k := by cases low <;> simp
    have hhigh : high.any (· < k) = true ↔ ¬ ∀ bound ∈ high, k ≤ bound := by cases high <;> simp
    dsimp only
    split_ifs with h1 h2
    · simp only [Option.some.injEq, false_iff]
      rintro ⟨rfl, h, -⟩
      exact hlow.mp h1 h
    · simp only [Option.some.injEq, false_iff]
      rintro ⟨rfl, -, h⟩
      exact hhigh.mp h2 h
    · simp only [Except.ok.injEq, Option.some.injEq]
      constructor
      · rintro rfl
        exact ⟨rfl, not_not.mp (mt hlow.mpr h1), not_not.mp (mt hhigh.mpr h2)⟩
      · exact fun h => h.1

theorem positiveField_ok : positiveField m value = .ok n ↔ m.int value = some n ∧ 0 < n := by
  unfold positiveField
  cases m.int value with
  | none => simp
  | some k =>
    dsimp only
    split_ifs with hk
    · simp only [Option.some.injEq, false_iff]
      omega
    · simp only [Except.ok.injEq, Option.some.injEq]
      omega

theorem floatField_ok {low high : ℤ} {x : Float64} : floatField m low high value = .ok x ↔ FloatIn m low high value x := by
  unfold floatField FloatIn
  cases m.float value with
  | none => simp
  | some y =>
    dsimp only
    split_ifs with h1 h2
    · simp only [Option.some.injEq, false_iff]
      rintro ⟨rfl, h, -⟩
      exact absurd (h1.symm.trans h) (by decide)
    · simp only [Option.some.injEq, false_iff]
      rintro ⟨rfl, -, h⟩
      exact absurd (h2.symm.trans h) (by decide)
    · simp only [Except.ok.injEq, Option.some.injEq]
      constructor
      · rintro rfl
        exact ⟨rfl, Bool.not_eq_true _ ▸ h1, Bool.not_eq_true _ ▸ h2⟩
      · exact fun h => h.1

theorem coordinateField_ok {x : Option Float64} : coordinateField m value = .ok x ↔ CoordinateIn m value x := by
  unfold coordinateField CoordinateIn
  by_cases hempty : value = ""
  · simp [hempty, eq_comm]
  · cases m.float value with
    | none => simp [hempty]
    | some y => simp [hempty, eq_comm]

theorem geoTypeField_ok : geoTypeField m value = .ok n ↔ (value = "" ∧ n = 0) ∨ (value ≠ "" ∧ IntIn m (some 0) (some 5) value n) := by
  unfold geoTypeField
  by_cases hempty : value = ""
  · simp [hempty, eq_comm]
  · simp [hempty, intField_ok]

theorem dateField_ok {date : Date} : dateField m value = .ok date ↔ ∃ d, m.strptime value dateFormat = some d ∧ date = ⟨d.micros / usPerDay⟩ := by
  unfold dateField
  cases m.strptime value dateFormat with
  | none => simp
  | some d => simp [eq_comm]

theorem detectedField_ok {t : Datetime} : detectedField m value = .ok t ↔ ∃ d, m.strptime value timestampFormat = some d ∧ t = replaceUtc d := by
  unfold detectedField parseGdeltTimestamp
  cases m.strptime value timestampFormat with
  | none => simp [Except.mapError]
  | some d => simp [Except.mapError, eq_comm]

theorem eventCodeField_ok {code : String} : eventCodeField m value = .ok code ↔ code = m.strip value ∧ isEventCode m code = true := by
  unfold eventCodeField
  rw [map_ok, exists_unit, check_eq_ok]
  constructor
  · rintro ⟨h, rfl⟩
    exact ⟨rfl, h⟩
  · rintro ⟨rfl, h⟩
    exact ⟨h, rfl⟩

theorem rootCodeField_ok {code : String} : rootCodeField m value = .ok code ↔ code = m.strip value ∧ code ∈ rootCodes := by
  unfold rootCodeField
  rw [map_ok, exists_unit, check_eq_ok, List.contains_iff_mem]
  constructor
  · rintro ⟨h, rfl⟩
    exact ⟨rfl, h⟩
  · rintro ⟨rfl, h⟩
    exact ⟨h, rfl⟩

end

/-! ## Rows -/

/-- The columns of a row as a record gives them, within the bounds that its
fields state. -/
structure Gives (row : List String) (record : GDELTEventRecord) : Prop where
  columns : row.length = columnCount
  globalEventId : m.int (column row 0) = some record.globalEventId ∧ 0 < record.globalEventId
  eventDate : ∃ d, m.strptime (column row 1) dateFormat = some d ∧ record.eventDate = ⟨d.micros / usPerDay⟩
  actor1 : record.actor1Code = emptyTextIsMissing m (column row 5) ∧ record.actor1Name = emptyTextIsMissing m (column row 6) ∧
    record.actor1CountryCode = emptyTextIsMissing m (column row 7)
  actor2 : record.actor2Code = emptyTextIsMissing m (column row 15) ∧ record.actor2Name = emptyTextIsMissing m (column row 16) ∧
    record.actor2CountryCode = emptyTextIsMissing m (column row 17)
  isRootEvent : IntIn m (some 0) (some 1) (column row 25) record.isRootEvent
  eventCode : record.eventCode = m.strip (column row 26) ∧ isEventCode m record.eventCode = true
  eventBaseCode : record.eventBaseCode = m.strip (column row 27) ∧ isEventCode m record.eventBaseCode = true
  eventRootCode : record.eventRootCode = m.strip (column row 28) ∧ record.eventRootCode ∈ rootCodes
  quadClass : IntIn m (some 1) (some 4) (column row 29) record.quadClass
  goldsteinScale : FloatIn m (-10) 10 (column row 30) record.goldsteinScale
  numMentions : IntIn m (some 0) none (column row 31) record.numMentions
  numSources : IntIn m (some 0) none (column row 32) record.numSources
  numArticles : IntIn m (some 0) none (column row 33) record.numArticles
  averageTone : FloatIn m (-100) 100 (column row 34) record.averageTone
  actionGeoType : (column row 51 = "" ∧ record.actionGeoType = 0) ∨
    (column row 51 ≠ "" ∧ IntIn m (some 0) (some 5) (column row 51) record.actionGeoType)
  actionGeo : record.actionGeoName = emptyTextIsMissing m (column row 52) ∧
    record.actionGeoCountryCode = emptyTextIsMissing m (column row 53) ∧
    record.actionGeoAdm1Code = emptyTextIsMissing m (column row 54) ∧ record.actionGeoAdm2Code = emptyTextIsMissing m (column row 55) ∧
    record.actionGeoFeatureId = emptyTextIsMissing m (column row 58)
  actionGeoLatitude : CoordinateIn m (column row 56) record.actionGeoLatitude
  actionGeoLongitude : CoordinateIn m (column row 57) record.actionGeoLongitude
  detectedAt : ∃ d, m.strptime (column row 59) timestampFormat = some d ∧ record.detectedAt = replaceUtc d
  sourceReportUrl : record.sourceReportUrl = m.strip (column row 60)
  geography : (record.actionGeoLatitude.isNone ↔ record.actionGeoLongitude.isNone) ∧
    (record.actionGeoType = 0 → record.actionGeoLatitude = none) ∧ (0 < record.actionGeoType → record.actionGeoLatitude ≠ none) ∧
    within 90 record.actionGeoLatitude = true ∧ within 180 record.actionGeoLongitude = true

variable {m} {row : List String} {record : GDELTEventRecord} {rowNumber : ℕ}

theorem validateActionGeography_ok : validateActionGeography record = .ok () ↔
    (record.actionGeoLatitude.isNone ↔ record.actionGeoLongitude.isNone) ∧
    (record.actionGeoType = 0 → record.actionGeoLatitude = none) ∧ (0 < record.actionGeoType → record.actionGeoLatitude ≠ none) ∧
    within 90 record.actionGeoLatitude = true ∧ within 180 record.actionGeoLongitude = true := by
  unfold validateActionGeography
  simp only [bind_unit_ok, check_eq_ok]
  refine and_congr ?_ (and_congr ?_ (and_congr ?_ Iff.rfl))
  · rw [beq_iff_eq, Bool.eq_iff_iff]
  · cases record.actionGeoLatitude <;> simp
  · cases record.actionGeoLatitude <;> simp

theorem fromRow_ok : fromRow m row rowNumber = .ok record ↔ Gives m row record := by
  have hmodel : fromRow m row rowNumber = .ok record ↔
      row.length = columnCount ∧ readFields m row = .ok record ∧ validateActionGeography record = .ok () := by
    unfold fromRow modelValidate
    by_cases hcolumns : row.length = columnCount
    · rw [if_neg (not_not.mpr hcolumns)]
      cases hread : readFields m row with
      | error e => simp
      | ok read =>
        dsimp only
        cases hcheck : validateActionGeography read with
        | error e =>
          simp only [reduceCtorEq, Except.ok.injEq, false_iff, not_and]
          rintro - rfl
          simp [hcheck]
        | ok u =>
          simp only [Except.ok.injEq]
          constructor
          · rintro rfl
            exact ⟨hcolumns, rfl, hcheck⟩
          · exact fun h => h.2.1
    · rw [if_pos hcolumns]
      simp [hcolumns]
  rw [hmodel, validateActionGeography_ok]
  unfold readFields
  simp only [bind_ok, intField_ok, positiveField_ok, floatField_ok, coordinateField_ok, geoTypeField_ok, dateField_ok, detectedField_ok,
    eventCodeField_ok, rootCodeField_ok]
  constructor
  · rintro ⟨hcolumns, ⟨_, h0, _, h1, _, h25, _, h26, _, h27, _, h28, _, h29, _, h30, _, h31, _, h32, _, h33, _, h34, _, h51, _, h56, _, h57,
      _, h59, hrecord⟩, hgeography⟩
    cases hrecord
    exact ⟨hcolumns, h0, h1, ⟨rfl, rfl, rfl⟩, ⟨rfl, rfl, rfl⟩, h25, h26, h27, h28, h29, h30, h31, h32, h33, h34, h51,
      ⟨rfl, rfl, rfl, rfl, rfl⟩, h56, h57, h59, rfl, hgeography⟩
  · intro h
    obtain ⟨h5, h6, h7⟩ := h.actor1
    obtain ⟨h15, h16, h17⟩ := h.actor2
    obtain ⟨h52, h53, h54, h55, h58⟩ := h.actionGeo
    refine ⟨h.columns, ⟨_, h.globalEventId, _, h.eventDate, _, h.isRootEvent, _, h.eventCode, _, h.eventBaseCode, _, h.eventRootCode,
      _, h.quadClass, _, h.goldsteinScale, _, h.numMentions, _, h.numSources, _, h.numArticles, _, h.averageTone, _, h.actionGeoType,
      _, h.actionGeoLatitude, _, h.actionGeoLongitude, _, h.detectedAt, ?_⟩, h.geography⟩
    rw [← h5, ← h6, ← h7, ← h15, ← h16, ← h17, ← h52, ← h53, ← h54, ← h55, ← h58, ← h.sourceReportUrl]
    rfl

/-! ## Feeds -/

variable (m) in
/-- An archive whose one member is an export with this text. -/
def Contains (raw : ByteArray) (maxUncompressedBytes : ℕ) (exportedAt : Datetime) (text : String) : Prop :=
  ∃ archive member timestamp d, m.zipFile raw = .ok archive ∧ archive.infolist = [member] ∧
    exportMember m member.filename = some timestamp ∧ member.isDir = false ∧ member.flagBits % 2 = 0 ∧
    member.fileSize = text.toUTF8.size ∧ text.toUTF8.size ≤ maxUncompressedBytes ∧
    archive.read member (maxUncompressedBytes + 1) = .ok text.toUTF8 ∧
    m.strptime timestamp timestampFormat = some d ∧ exportedAt = replaceUtc d

theorem fromUTF8_toUTF8 (text : String) : String.fromUTF8? text.toUTF8 = some text := dif_pos text.isValidUTF8

theorem bind_feed_ok {α β : Type} {x : Except FeedError α} {f : α → Except FeedError β} {b : β} :
    (x >>= f) = .ok b ↔ ∃ a, x = .ok a ∧ f a = .ok b := by
  cases x with
  | error e => simp [bind, Except.bind]
  | ok a => simp [bind, Except.bind]

theorem mapError_feed_ok {α : Type} {x : Except String α} {a : α} : x.mapError FeedError.valueError = .ok a ↔ x = .ok a := by
  cases x <;> simp [Except.mapError]

theorem fromZip_of_contains {raw : ByteArray} {maxUncompressedBytes maxRows : ℕ} {exportedAt : Datetime} {text : String}
    (h : Contains m raw maxUncompressedBytes exportedAt text) :
    fromZip m raw maxUncompressedBytes maxRows =
      (readRecords m maxRows 1 (Tsv.reader '\t' text).1 (Tsv.reader '\t' text).2).map (GDELTFeed.mk exportedAt) := by
  obtain ⟨archive, member, timestamp, d, hzip, hmembers, hname, hdir, hflag, hsize, hmax, hread, htime, rfl⟩ := h
  have hopen : openExport m raw maxUncompressedBytes = .ok (text.toUTF8, timestamp) := by
    have hbytes : text.utf8ByteSize ≤ maxUncompressedBytes := hmax
    unfold openExport
    rw [hzip]
    simp [zipError, hmembers, hname, hdir, hflag, hsize, hbytes, hread, require, bind, Except.bind, pure, Except.pure]
  have hstamp : parseGdeltTimestamp m timestamp "ZIP member name" = .ok (replaceUtc d) := by
    unfold parseGdeltTimestamp
    rw [htime]
  unfold fromZip
  rw [hopen]
  simp only [bind, Except.bind, fromUTF8_toUTF8, hstamp]
  cases readRecords m maxRows 1 (Tsv.reader '\t' text).1 (Tsv.reader '\t' text).2 with
  | error e => rfl
  | ok records => rfl

/-- The loop gives one record for each row, as long as there are not too many. -/
theorem readRecords_ok {rows : List (List String)} {records : List GDELTEventRecord} {maxRows : ℕ} :
    readRecords m maxRows rowNumber rows none = .ok records ↔
      (rows = [] ∨ rowNumber + rows.length ≤ maxRows + 1) ∧ List.Forall₂ (Gives m) rows records := by
  induction rows generalizing rowNumber records with
  | nil =>
    rw [readRecords, List.forall₂_nil_left_iff, Except.ok.injEq, eq_comm]
    exact (and_iff_right (Or.inl rfl)).symm
  | cons row rows ih =>
    rw [readRecords, List.length_cons]
    by_cases hmany : rowNumber > maxRows
    · rw [if_pos hmany]
      refine iff_of_false (fun h => nomatch h) fun h => ?_
      rcases h.1 with h | h
      · cases h
      · omega
    · rw [if_neg hmany, bind_feed_ok]
      constructor
      · rintro ⟨record, hrecord, h⟩
        obtain ⟨rest, hrest, h⟩ := bind_feed_ok.mp h
        cases h
        obtain ⟨hlen, hall⟩ := ih.mp hrest
        refine ⟨Or.inr ?_, .cons (fromRow_ok.mp (mapError_feed_ok.mp hrecord)) hall⟩
        rcases hlen with rfl | hlen
        · rw [List.length_nil]
          omega
        · omega
      · rintro ⟨hlen, hall⟩
        cases hall with
        | @cons _ record _ rest hrecord hall =>
          have hlen' : rows = [] ∨ rowNumber + 1 + rows.length ≤ maxRows + 1 := by
            rcases hlen with h | h
            · cases h
            · exact Or.inr (by omega)
          exact ⟨record, mapError_feed_ok.mpr (fromRow_ok.mpr hrecord), bind_feed_ok.mpr ⟨rest, ih.mpr ⟨hlen', hall⟩, rfl⟩⟩

/-! ## Main result -/

/-- A row of the documented columns, with the characters that TSV admits. -/
def WellFormed (row : List String) : Prop := row.length = columnCount ∧ ∀ field ∈ row, Tsv.Unbroken '\t' field

variable (m) in
/-- Every field of every row is recovered, and every archive of the export gives
one record for each row unless a stated bound is violated. -/
structure Recovered (rows : List (List String)) : Prop where
  fields : Tsv.reader '\t' (Tsv.exportText '\t' rows) = (rows, none)
  records : ∀ raw maxUncompressedBytes maxRows exportedAt,
    Contains m raw maxUncompressedBytes exportedAt (Tsv.exportText '\t' rows) → ∀ feed,
      fromZip m raw maxUncompressedBytes maxRows = .ok feed ↔
        feed.exportedAt = exportedAt ∧ rows.length ≤ maxRows ∧ List.Forall₂ (Gives m) rows feed.records

theorem recovered_of_fields {rows : List (List String)} (h : Tsv.reader '\t' (Tsv.exportText '\t' rows) = (rows, none)) :
    Recovered m rows := by
  refine ⟨h, fun raw maxUncompressedBytes maxRows exportedAt hraw feed => ?_⟩
  rw [fromZip_of_contains hraw, h]
  have hlen : (rows = [] ∨ 1 + rows.length ≤ maxRows + 1) ↔ rows.length ≤ maxRows := by
    constructor
    · rintro (rfl | h)
      · exact Nat.zero_le _
      · omega
    · exact fun h => Or.inr (by omega)
  cases hrecords : readRecords m maxRows 1 rows none with
  | error e =>
    refine iff_of_false (fun h => nomatch h) fun h => ?_
    rw [readRecords_ok.mpr ⟨hlen.mpr h.2.1, h.2.2⟩] at hrecords
    cases hrecords
  | ok records =>
    have hread := readRecords_ok.mp hrecords
    show Except.ok (GDELTFeed.mk exportedAt records) = Except.ok feed ↔ _
    rw [Except.ok.injEq]
    constructor
    · rintro rfl
      exact ⟨rfl, hlen.mp hread.1, hread.2⟩
    · rintro ⟨rfl, hmax, hall⟩
      have hsame := readRecords_ok.mpr ⟨hlen.mpr hmax, hall⟩
      rw [hrecords, Except.ok.injEq] at hsame
      rw [hsame]

namespace Chennai

/-- A row of an export with this place. -/
def exportRow (place : String) : List String :=
  ["1234567890", "20260912", "202609", "2026", "2026.6986", "INDGOV", "GOVERNMENT", "IND", "", "", "", "", "", "", "", "REB",
    "REBELS", "IND", "", "", "", "", "", "", "", "1", "190", "190", "19", "4", "-10", "7", "3", "4", "-7", "", "", "", "", "", "",
    "", "", "", "", "", "", "", "", "", "", "4", place, "IN", "IN25", "", "13", "80", "-2103041", "20260912143000",
    "https://news.example.org/reports/123"]

/-- An archive with one export of one row, and the texts that the row has. -/
def model (place : String) : GdeltModel where
  zipFile _ := .ok
    { infolist := [⟨"20260912143000.export.CSV", false, 0, (Tsv.exportText '\t' [exportRow place]).toUTF8.size⟩]
      read := fun _ _ => .ok (Tsv.exportText '\t' [exportRow place]).toUTF8 }
  strptime value _ :=
    if value = "20260912" then some ⟨63924768000000000, none, by decide, offsetBound_none⟩
    else if value = "20260912143000" then some ⟨63924820200000000, none, by decide, offsetBound_none⟩
    else none
  isDecimal := Char.isDigit
  strip := id
  int := String.toInt?
  float value := value.toInt?.map .ofInt
  validationError _ := "validation error"

end Chennai

theorem wellFormed_of_all {row : List String} (hlength : row.length = columnCount)
    (hfields : (row.all fun field => field.toList.all fun c => c ≠ '\t' && c ≠ '\n' && c ≠ '\r') = true) : WellFormed row := by
  refine ⟨hlength, fun field hfield c hc => ?_⟩
  have hall := List.all_eq_true.mp (List.all_eq_true.mp hfields field hfield) c hc
  simpa only [Bool.and_eq_true, decide_eq_true_eq, and_assoc] using hall

end AtlasPulse.Gdelt
