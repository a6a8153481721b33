import AtlasPulse.Lib.Binary64
import AtlasPulse.Lib.Datetime
import AtlasPulse.Lib.Tsv
import AtlasPulse.Validation

/-!
# GDELT Event exports

`GDELTEventRecord.from_row` and `GDELTFeed.from_zip` of `sources/gdelt.py`.
The ZIP archive, `strptime`, the decimal characters of a pattern and what
pydantic reads from a text are parameters.
-/

namespace AtlasPulse.Gdelt

open PyTime Binary64

/-! ## Surroundings -/

inductive ZipFailure
  | badZipFile
  | other (kind : String)

structure ZipInfo where
  filename : String
  isDir : Bool
  flagBits : ℕ
  fileSize : ℕ

structure ZipFile where
  infolist : List ZipInfo
  /-- `archive.open(member)` and `stream.read(size)` -/
  read : ZipInfo → ℕ → Except ZipFailure ByteArray

structure GdeltModel where
  zipFile : ByteArray → Except ZipFailure ZipFile
  strptime : String → String → Option Datetime
  isDecimal : Char → Bool
  /-- `str_strip_whitespace` -/
  strip : String → String
  int : String → Option ℤ
  float : String → Option Float64
  /-- the text of a `ValidationError` with these fields and messages -/
  validationError : List (String × String) → String

/-- A `ValueError`, or another exception that is passed on. -/
inductive FeedError
  | valueError (message : String)
  | other (kind : String)

variable (m : GdeltModel)

/-! ## Records -/

/-- A day, as `date` has it. -/
structure Date where
  day : ℕ
  deriving DecidableEq

structure GDELTEventRecord where
  globalEventId : ℤ
  eventDate : Date
  actor1Code : Option String
  actor1Name : Option String
  actor1CountryCode : Option String
  actor2Code : Option String
  actor2Name : Option String
  actor2CountryCode : Option String
  isRootEvent : ℤ
  eventCode : String
  eventBaseCode : String
  eventRootCode : String
  quadClass : ℤ
  goldsteinScale : Float64
  numMentions : ℤ
  numSources : ℤ
  numArticles : ℤ
  averageTone : Float64
  actionGeoType : ℤ
  actionGeoName : Option String
  actionGeoCountryCode : Option String
  actionGeoAdm1Code : Option String
  actionGeoAdm2Code : Option String
  actionGeoLatitude : Option Float64
  actionGeoLongitude : Option Float64
  actionGeoFeatureId : Option String
  detectedAt : Datetime
  sourceReportUrl : String
  deriving DecidableEq

def columnCount : ℕ := 61

/-- `strftime` directives of a day and of a time of day. -/
def dateFormat : String := "%Y%m%d"

def timestampFormat : String := "%Y%m%d%H%M%S"

/-- `replace(tzinfo=UTC)` -/
def replaceUtc (d : Datetime) : Datetime := ⟨d.micros, some 0, d.inRange, offsetBound_zero⟩

/-- `_parse_gdelt_timestamp` -/
def parseGdeltTimestamp (value field : String) : Except String Datetime :=
  match m.strptime value timestampFormat with
  | some d => .ok (replaceUtc d)
  | none => .error (field ++ " must be a valid YYYYMMDDHHMMSS UTC timestamp")

/-! ## Fields -/

/-- `empty_text_is_missing`, before the text is stripped. -/
def emptyTextIsMissing (value : String) : Option String := if value = "" then none else some (m.strip value)

/-- `int` with its bounds. -/
def intField (low high : Option ℤ) (value : String) : Except String ℤ :=
  match m.int value with
  | none => .error "Input should be a valid integer, unable to parse string as an integer"
  | some n =>
    if low.any (n < ·) then .error ("Input should be greater than or equal to " ++ toString (low.getD 0))
    else if high.any (· < n) then .error ("Input should be less than or equal to " ++ toString (high.getD 0))
    else .ok n

/-- `int = Field(gt=0)` -/
def positiveField (value : String) : Except String ℤ :=
  match m.int value with
  | none => .error "Input should be a valid integer, unable to parse string as an integer"
  | some n => if n ≤ 0 then .error "Input should be greater than 0" else .ok n

/-- `float` with its bounds. -/
def floatField (low high : ℤ) (value : String) : Except String Float64 :=
  match m.float value with
  | none => .error "Input should be a valid number, unable to parse string as a number"
  | some x =>
    if x.lt (.ofInt low) then .error ("Input should be greater than or equal to " ++ toString low)
    else if (Float64.ofInt high).lt x then .error ("Input should be less than or equal to " ++ toString high)
    else .ok x

/-- `empty_coordinate_is_missing` -/
def coordinateField (value : String) : Except String (Option Float64) :=
  if value = "" then .ok none
  else
    match m.float value with
    | none => .error "Input should be a valid number, unable to parse string as a number"
    | some x => .ok (some x)

/-- `empty_geo_type_is_zero` -/
def geoTypeField (value : String) : Except String ℤ :=
  if value = "" then .ok 0 else intField m (some 0) (some 5) value

/-- `parse_event_date` -/
def dateField (value : String) : Except String Date :=
  match m.strptime value dateFormat with
  | some d => .ok ⟨d.micros / usPerDay⟩
  | none => .error "Value error, event_date must be a valid YYYYMMDD date"

/-- `parse_detected_at` -/
def detectedField (value : String) : Except String Datetime :=
  (parseGdeltTimestamp m value "DATEADDED").mapError ("Value error, " ++ ·)

/-- `_EVENT_CODE` -/
def isEventCode (code : String) : Bool := 2 ≤ code.length && code.length ≤ 4 && code.toList.all m.isDecimal

/-- `validate_event_code` -/
def eventCodeField (value : String) : Except String String :=
  (check (isEventCode m (m.strip value)) "Value error, CAMEO event codes must contain two to four digits").map fun _ => m.strip value

def rootCodes : List String :=
  ["01", "02", "03", "04", "05", "06", "07", "08", "09", "10", "11", "12", "13", "14", "15", "16", "17", "18", "19", "20"]

/-- `validate_root_code` -/
def rootCodeField (value : String) : Except String String :=
  (check (rootCodes.contains (m.strip value)) "Value error, CAMEO root code must be between 01 and 20").map fun _ => m.strip value

/-- `-bound <= value <= bound`, where a coordinate is there -/
def within (bound : ℤ) (value : Option Float64) : Bool :=
  value.all fun x => (Float64.ofInt (-bound)).le x && x.le (.ofInt bound)

/-- `validate_action_geography` -/
def validateActionGeography (record : GDELTEventRecord) : Except String Unit := do
  check (record.actionGeoLatitude.isNone == record.actionGeoLongitude.isNone)
    "Value error, GDELT action geography must contain both latitude and longitude"
  check (!(record.actionGeoType = 0 && record.actionGeoLatitude.isSome))
    "Value error, GDELT action geography type is required when coordinates exist"
  check (!(record.actionGeoType > 0 && record.actionGeoLatitude.isNone))
    "Value error, GDELT action geography coordinates are required for a typed location"
  check (within 90 record.actionGeoLatitude) "Value error, GDELT action latitude is outside WGS84 bounds"
  check (within 180 record.actionGeoLongitude) "Value error, GDELT action longitude is outside WGS84 bounds"

/-! ## Rows -/

/-- `row[index]`, in rows of the right length. -/
def column (row : List String) (index : ℕ) : String := row.getD index ""

/-- The fields of a row when all of them are accepted. -/
def readFields (row : List String) : Except String GDELTEventRecord := do
  let globalEventId ← positiveField m (column row 0)
  let eventDate ← dateField m (column row 1)
  let isRootEvent ← intField m (some 0) (some 1) (column row 25)
  let eventCode ← eventCodeField m (column row 26)
  let eventBaseCode ← eventCodeField m (column row 27)
  let eventRootCode ← rootCodeField m (column row 28)
  let quadClass ← intField m (some 1) (some 4) (column row 29)
  let goldsteinScale ← floatField m (-10) 10 (column row 30)
  let numMentions ← intField m (some 0) none (column row 31)
  let numSources ← intField m (some 0) none (column row 32)
  let numArticles ← intField m (some 0) none (column row 33)
  let averageTone ← floatField m (-100) 100 (column row 34)
  let actionGeoType ← geoTypeField m (column row 51)
  let actionGeoLatitude ← coordinateField m (column row 56)
  let actionGeoLongitude ← coordinateField m (column row 57)
  let detectedAt ← detectedField m (column row 59)
  return {
    globalEventId, eventDate, isRootEvent, eventCode, eventBaseCode, eventRootCode, quadClass, goldsteinScale, numMentions, numSources,
    numArticles, averageTone, actionGeoType, actionGeoLatitude, actionGeoLongitude, detectedAt
    actor1Code := emptyTextIsMissing m (column row 5)
    actor1Name := emptyTextIsMissing m (column row 6)
    actor1CountryCode := emptyTextIsMissing m (column row 7)
    actor2Code := emptyTextIsMissing m (column row 15)
    actor2Name := emptyTextIsMissing m (column row 16)
    actor2CountryCode := emptyTextIsMissing m (column row 17)
    actionGeoName := emptyTextIsMissing m (column row 52)
    actionGeoCountryCode := emptyTextIsMissing m (column row 53)
    actionGeoAdm1Code := emptyTextIsMissing m (column row 54)
    actionGeoAdm2Code := emptyTextIsMissing m (column row 55)
    actionGeoFeatureId := emptyTextIsMissing m (column row 58)
    sourceReportUrl := m.strip (column row 60) }

/-- The name of a field and its error. -/
def named {α : Type} (field : String) (value : Except String α) : Option (String × String) :=
  match value with
  | .ok _ => none
  | .error message => some (field, message)

/-- The errors of all fields of a row. -/
def fieldErrors (row : List String) : List (String × String) :=
  [named "global_event_id" (positiveField m (column row 0)), named "event_date" (dateField m (column row 1)),
    named "is_root_event" (intField m (some 0) (some 1) (column row 25)), named "event_code" (eventCodeField m (column row 26)),
    named "event_base_code" (eventCodeField m (column row 27)), named "event_root_code" (rootCodeField m (column row 28)),
    named "quad_class" (intField m (some 1) (some 4) (column row 29)), named "goldstein_scale" (floatField m (-10) 10 (column row 30)),
    named "num_mentions" (intField m (some 0) none (column row 31)), named "num_sources" (intField m (some 0) none (column row 32)),
    named "num_articles" (intField m (some 0) none (column row 33)), named "average_tone" (floatField m (-100) 100 (column row 34)),
    named "action_geo_type" (geoTypeField m (column row 51)), named "action_geo_latitude" (coordinateField m (column row 56)),
    named "action_geo_longitude" (coordinateField m (column row 57)), named "detected_at" (detectedField m (column row 59))].reduceOption

/-- `model_validate`: the fields, then the check of the model. -/
def modelValidate (row : List String) : Except (List (String × String)) GDELTEventRecord :=
  match readFields m row with
  | .error _ => .error (fieldErrors m row)
  | .ok record =>
    match validateActionGeography record with
    | .error message => .error [("", message)]
    | .ok () => .ok record

def fromRow (row : List String) (rowNumber : ℕ) : Except String GDELTEventRecord :=
  if row.length ≠ columnCount then
    .error ("GDELT row " ++ toString rowNumber ++ " has " ++ toString row.length ++ " columns; expected " ++ toString columnCount)
  else
    match modelValidate m row with
    | .error errors => .error ("GDELT row " ++ toString rowNumber ++ " is invalid: " ++ m.validationError errors)
    | .ok record => .ok record

/-! ## Feeds -/

structure GDELTFeed where
  exportedAt : Datetime
  records : List GDELTEventRecord

/-- The timestamp of `_EXPORT_MEMBER`. -/
def exportMember (filename : String) : Option String :=
  if (filename.toList.take 14).all m.isDecimal ∧ filename.toList.drop 14 = ".export.CSV".toList then
    some (String.ofList (filename.toList.take 14))
  else none

/-- `BadZipFile` is reported as a `ValueError`. -/
def zipError {α : Type} : Except ZipFailure α → Except FeedError α
  | .ok x => .ok x
  | .error .badZipFile => .error (.valueError "GDELT export must be a valid ZIP archive")
  | .error (.other kind) => .error (.other kind)

def require (ok : Bool) (message : String) : Except FeedError Unit := if ok then .ok () else .error (.valueError message)

/-- The content of the one member, and the timestamp of its name. -/
def openExport (raw : ByteArray) (maxUncompressedBytes : ℕ) : Except FeedError (ByteArray × String) := do
  let archive ← zipError (m.zipFile raw)
  match archive.infolist with
  | [member] =>
    match exportMember m member.filename with
    | none => .error (.valueError "GDELT export ZIP member has an unexpected name")
    | some timestamp =>
      require (!member.isDir) "GDELT export ZIP member has an unexpected name"
      require (member.flagBits % 2 = 0) "GDELT export ZIP member must not be encrypted"
      require (member.fileSize ≤ maxUncompressedBytes) "GDELT export exceeds the uncompressed byte limit"
      let content ← zipError (archive.read member (maxUncompressedBytes + 1))
      require (content.size ≤ maxUncompressedBytes) "GDELT export exceeds the uncompressed byte limit"
      require (content.size = member.fileSize) "GDELT export ZIP member size is inconsistent"
      return (content, timestamp)
  | _ => .error (.valueError "GDELT export ZIP must contain exactly one member")

/-- The loop over the rows of the reader, which may end in an error of its own. -/
def readRecords (maxRows : ℕ) : ℕ → List (List String) → Option String → Except FeedError (List GDELTEventRecord)
  | _, [], none => .ok []
  | _, [], some error => .error (.valueError ("GDELT Event export contains malformed TSV: " ++ error))
  | rowNumber, row :: rows, ended =>
    if rowNumber > maxRows then .error (.valueError "GDELT export exceeds the configured row limit")
    else do
      let record ← (fromRow m row rowNumber).mapError .valueError
      let records ← readRecords maxRows (rowNumber + 1) rows ended
      return record :: records

def fromZip (raw : ByteArray) (maxUncompressedBytes maxRows : ℕ) : Except FeedError GDELTFeed := do
  let (content, timestamp) ← openExport m raw maxUncompressedBytes
  match String.fromUTF8? content with
  | none => .error (.valueError "GDELT Event export must be UTF-8")
  | some decoded =>
    let scanned := Tsv.reader '\t' decoded
    let records ← readRecords m maxRows 1 scanned.1 scanned.2
    let exportedAt ← (parseGdeltTimestamp m timestamp "ZIP member name").mapError .valueError
    return ⟨exportedAt, records⟩

end AtlasPulse.Gdelt
