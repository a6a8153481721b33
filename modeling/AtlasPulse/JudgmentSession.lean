import AtlasPulse.JudgmentSheets

/-!
# Judgment sessions

`evaluation/judging.py`: the terminal sessions that grade the pending rows of a
judgment or an adjudication sheet and save the sheet after every grade. What
they print is not modelled, nor the temporary file by which a save replaces the
sheet as a whole.
-/

namespace AtlasPulse.JudgmentSession

open PyJson PyTime Binary64 RetrievalAdjudication JudgmentSheets

/-- What a reviewer enters at a prompt; the end of the input interrupts too. -/
inductive Input
  | line (text : String)
  | interrupt

/-- What tells the two sessions apart. -/
structure SessionKind where
  columns : List String
  gradeColumn : String
  rationaleColumn : String
  leastRationale : Nat

def judgmentKind : SessionKind := ⟨judgmentColumns, "relevance_0_to_3", "rationale", 0⟩

def adjudicationKind : SessionKind := ⟨adjudicationColumns, "adjudicated_relevance_0_to_3", "adjudication_rationale", 10⟩

/-- `path.read_text(encoding="utf-8")`, which reads every newline as `\n`. -/
def universalNewlines (text : String) : String := String.ofList (newlines text.toList)
where
  newlines : List Char → List Char
    | [] => []
    | '\r' :: '\n' :: cs => '\n' :: newlines cs
    | '\r' :: cs => '\n' :: newlines cs
    | c :: cs => c :: newlines cs

/-! ## Prompts -/

inductive Choice
  | quit
  | skip
  | grade (answer : String)

/-- The choice of an answer; the rubric and an invalid answer are asked again. -/
def choice? (casefold : String → String) (text : String) : Option Choice :=
  let answer := casefold (strip text)
  if answer = "q" then some .quit
  else if answer = "s" then some .skip
  else if answer = "?" then none
  else if answer ∉ ["0", "1", "2", "3"] then none
  else some (.grade answer)

/-- The loop over grade prompts; `none` if it is interrupted. -/
def askGrade (casefold : String → String) : List Input → Option (Choice × List Input)
  | .line text :: inputs =>
    match choice? casefold text with
    | some choice => some (choice, inputs)
    | none => askGrade casefold inputs
  | _ => none

namespace SessionKind

variable (k : SessionKind)

/-- The loop over rationale prompts. -/
def askRationale : List Input → Option (String × List Input)
  | .line text :: inputs =>
    let rationale := normalizeText text
    if k.leastRationale ≤ rationale.length ∧ rationale.length ≤ 1000 then some (rationale, inputs) else askRationale inputs
  | _ => none

/-! ## Rows -/

def cell (row : List String) (name : String) : String := (Csv.cell k.columns row name).getD ""

def isPending (row : List String) : Bool := strip (k.cell row k.gradeColumn) = ""

/-- A row with a decision. -/
def decide (answer rationale : String) (row : List String) : List String :=
  Csv.setCell k.columns k.rationaleColumn (spreadsheetSafeText rationale) (Csv.setCell k.columns k.gradeColumn answer row)

def render (rows : List (List String)) : String := Csv.write (k.columns :: rows)

def pendingIndices (rows : List (List String)) : List Nat :=
  (List.range rows.length).filter fun index => (rows[index]?).any k.isPending

end SessionKind

structure JudgmentProgress where
  totalCount : Nat
  gradedCount : Nat
  pendingCount : Nat
  stoppedEarly : Bool

def SessionKind.progress (k : SessionKind) (rows : List (List String)) (stoppedEarly : Bool) : JudgmentProgress :=
  let graded := rows.countP fun row => !k.isPending row
  ⟨rows.length, graded, rows.length - graded, stoppedEarly⟩

/-! ## Sessions -/

/-- A decision, the rows with it, and the file that they are saved in. -/
structure Save where
  index : Nat
  grade : String
  rationale : String
  rows : List (List String)
  content : String

structure SessionState where
  rows : List (List String)
  saves : List Save
  inputs : List Input

def SessionState.save (k : SessionKind) (s : SessionState) (index : Nat) (grade rationale : String) (inputs : List Input) : SessionState :=
  let rows := s.rows.modify index (k.decide grade rationale)
  { rows, saves := s.saves ++ [⟨index, grade, rationale, rows, k.render rows⟩], inputs }

/-- One turn of the loop over the pending rows, and whether the loop goes on. -/
def turn (k : SessionKind) (casefold : String → String) (s : SessionState) (index : Nat) : SessionState × Bool :=
  match askGrade casefold s.inputs with
  | none => (s, false)
  | some (.quit, inputs) => ({ s with inputs }, false)
  | some (.skip, inputs) => ({ s with inputs }, true)
  | some (.grade answer, inputs) =>
    match k.askRationale inputs with
    | none => (s, false)
    | some (rationale, inputs) => (s.save k index answer rationale inputs, true)

def turns (k : SessionKind) (casefold : String → String) (s : SessionState) : List Nat → SessionState × Bool
  | [] => (s, true)
  | index :: indices =>
    match turn k casefold s index with
    | (s, true) => turns k casefold s indices
    | (s, false) => (s, false)

/-- The session over the rows of a sheet, with the files that it saves. -/
def runSession (k : SessionKind) (casefold : String → String) (rows : List (List String)) (inputs : List Input) :
    JudgmentProgress × List Save :=
  let (s, completed) := turns k casefold ⟨rows, [], inputs⟩ (k.pendingIndices rows)
  (k.progress s.rows !completed, s.saves)

section
variable {F : Type} {m : PoolModel F}

def runJudgmentSession (pool : CandidatePool m) (sheet : String) (inputs : List Input) : Except String (JudgmentProgress × List Save) :=
  (validatePartialJudgments pool (universalNewlines sheet)).map fun rows => runSession judgmentKind m.casefold rows inputs

def runRetrievalAdjudicationSession [DecidableEq F] (now : Datetime) (first second : CandidatePool m) (sheet : String)
    (inputs : List Input) : Except String (JudgmentProgress × List Save) :=
  (validatePartialRetrievalAdjudication now first second (universalNewlines sheet)).map fun rows =>
    runSession adjudicationKind m.casefold rows inputs

end

end AtlasPulse.JudgmentSession
