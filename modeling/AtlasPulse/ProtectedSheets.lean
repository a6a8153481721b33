import AtlasPulse.ReviewAgreement

/-!
# Protected sheets

The loops of `relationship_evaluation/` over the rows of an edited sheet. A row
names a case, whose protected cells must be as they were, and fills the other
ones. The cells that a short row lacks are `None`, on which the methods of a
text fail with an `AttributeError`; the reader itself fails on a field that is
too long, after the rows before it have been read.
-/

namespace AtlasPulse

/-- The exceptions of an import. A `ValidationError` is a `ValueError`. -/
inductive Rejection
  | valueError (message : String)
  | attributeError
  | keyError
  | csvError
  deriving DecidableEq

namespace Rejection

def isValueError : Rejection → Bool
  | valueError _ => true
  | _ => false

/-- The message with the row that it is about. -/
def within (row : String) : Rejection → Rejection
  | valueError message => valueError (row ++ message)
  | e => e

end Rejection

def require (ok : Bool) (message : String) : Except Rejection Unit := if ok then .ok () else .error (.valueError message)

def raising {α : Type} (x : Except String α) : Except Rejection α := x.mapError .valueError

/-- `row[name]`, of which a method is called. -/
def textOf : Option String → Except Rejection String
  | some text => .ok text
  | none => .error .attributeError

/-- What tells the three imports apart: the columns, the texts of the errors,
the protected cells of a case, and how the other cells are read. -/
structure SheetFormat (D : Type) where
  columns : List String
  rowName : String
  unknown : String
  protectedOf : String → Option (List (String × String))
  edited : (String → Option String) → Except Rejection D

namespace SheetFormat

variable {D : Type} (f : SheetFormat D)

/-- `row[name]` -/
def cell (row : List String) (name : String) : Option String := Csv.cell f.columns row name

/-- One turn of the loop, but for the name of the row in its messages. -/
def readCells (read : List (String × D)) (row : List String) : Except Rejection (List (String × D)) := do
  require (row.length ≤ f.columns.length) " has unexpected columns"
  match f.cell row "case_id" with
  | none => .error (.valueError f.unknown)
  | some caseId =>
    match f.protectedOf caseId with
    | none => .error (.valueError f.unknown)
    | some fields => do
      require (caseId ∉ read.map Prod.fst) (" duplicates " ++ caseId)
      let changed := fields.filter fun field => f.cell row field.1 ≠ some field.2
      require changed.isEmpty (" changed protected fields: " ++ ", ".intercalate (changed.map Prod.fst))
      let value ← f.edited (f.cell row)
      .ok (read ++ [(caseId, value)])

def readRow (lineNumber : Nat) (read : List (String × D)) (row : List String) : Except Rejection (List (String × D)) :=
  (f.readCells read row).mapError (Rejection.within (f.rowName ++ String.ofList (Digits.decimal lineNumber)))

/-- The loop over the rows, which the reader may end with an error. -/
def readRows (failed : Bool) : Nat → List (String × D) → List (List String) → Except Rejection (List (String × D))
  | _, read, [] => if failed then .error .csvError else .ok read
  | line, read, row :: rows =>
    match f.readRow line read row with
    | .ok read => readRows failed (line + 1) read rows
    | .error e => .error e

/-- The header and the rows; `what` begins the message about the header. -/
def readSheet (what text : String) : Except Rejection (List (String × D)) :=
  match Csv.lazyReader text with
  | none => .error .csvError
  | some sheet =>
    if sheet.fieldnames ≠ f.columns then
      .error (.valueError (what ++ " columns must exactly equal (" ++
        ", ".intercalate (f.columns.map fun c => "'" ++ c ++ "'") ++ ")"))
    else f.readRows sheet.failed 2 [] sheet.rows

end SheetFormat

/-! ## Rules -/

section
variable {α β : Type}

theorem require_ok {ok : Bool} {message : String} : require ok message = .ok () ↔ ok = true := by
  cases ok <;> simp [require]

theorem require_error {ok : Bool} {message : String} {e : Rejection} :
    require ok message = .error e ↔ ok = false ∧ e = .valueError message := by
  cases ok <;> simp [require, eq_comm]

theorem mapError_ok {ε ε' : Type} {x : Except ε α} {g : ε → ε'} {a : α} : x.mapError g = .ok a ↔ x = .ok a := by
  cases x <;> simp [Except.mapError]

theorem raising_ok {x : Except String α} {a : α} : raising x = .ok a ↔ x = .ok a := mapError_ok

theorem raising_error {x : Except String α} {e : Rejection} (h : raising x = .error e) : e.isValueError = true := by
  cases x with
  | error message =>
    obtain rfl := Except.error.inj h
    rfl
  | ok a => cases h

theorem import_bind_ok {x : Except Rejection α} {g : α → Except Rejection β} {b : β} :
    (x >>= g) = .ok b ↔ ∃ a, x = .ok a ∧ g a = .ok b := by
  cases x with
  | error e => simp [bind, Except.bind]
  | ok a => simp [bind, Except.bind]

theorem import_bind_error {x : Except Rejection α} {g : α → Except Rejection β} {e : Rejection} :
    (x >>= g) = .error e ↔ x = .error e ∨ ∃ a, x = .ok a ∧ g a = .error e := by
  cases x with
  | error e => simp [bind, Except.bind]
  | ok a => simp [bind, Except.bind]

theorem textOf_ok {cell : Option String} {text : String} : textOf cell = .ok text ↔ cell = some text := by
  cases cell <;> simp [textOf]

theorem isValueError_within {row : String} {e : Rejection} : (e.within row).isValueError = e.isValueError := by
  cases e <;> rfl

end

namespace SheetFormat

variable {D : Type} {f : SheetFormat D}

/-- A row of a case with its protected cells as they were. -/
structure Framed (f : SheetFormat D) (row : List String) (caseId : String) : Prop where
  width : row.length ≤ f.columns.length
  named : f.cell row "case_id" = some caseId
  kept : ∃ fields, f.protectedOf caseId = some fields ∧ ∀ field ∈ fields, f.cell row field.1 = some field.2

/-- What a row gives. -/
def Gives (f : SheetFormat D) (row : List String) (caseId : String) (value : D) : Prop :=
  f.Framed row caseId ∧ f.edited (f.cell row) = .ok value

theorem Framed.unique {row : List String} {id id' : String} (h : f.Framed row id) (h' : f.Framed row id') : id = id' :=
  Option.some.inj (h.named.symm.trans h'.named)

/-- The outcome of a turn, on a row whose protected cells are as they were. -/
theorem readCells_framed {read : List (String × D)} {row : List String} {caseId : String} (h : f.Framed row caseId)
    (hfresh : caseId ∉ read.map Prod.fst) :
    f.readCells read row = (f.edited (f.cell row)).map fun value => read ++ [(caseId, value)] := by
  obtain ⟨fields, hfields, hkept⟩ := h.kept
  have hchanged : fields.filter (fun field => f.cell row field.1 ≠ some field.2) = [] := by
    rw [List.filter_eq_nil_iff]
    intro field hfield
    rw [decide_eq_true_eq, not_not]
    exact hkept field hfield
  have hwidth : require (decide (row.length ≤ f.columns.length)) " has unexpected columns" = .ok () :=
    require_ok.mpr (decide_eq_true h.width)
  have hnew : require (decide (caseId ∉ read.map Prod.fst)) (" duplicates " ++ caseId) = .ok () := require_ok.mpr (decide_eq_true hfresh)
  unfold readCells
  simp only [hwidth, h.named, hfields, hnew, hchanged]
  rfl

/-- A turn on any other row ends with a `ValueError`. -/
theorem readCells_cases (f : SheetFormat D) (read : List (String × D)) (row : List String) :
    (∃ caseId, f.Framed row caseId ∧ caseId ∉ read.map Prod.fst) ∨ ∃ message, f.readCells read row = .error (.valueError message) := by
  unfold readCells
  by_cases hwidth : row.length ≤ f.columns.length
  · rw [decide_eq_true hwidth]
    cases hcell : f.cell row "case_id" with
    | none => exact .inr ⟨_, rfl⟩
    | some caseId =>
      cases hprotected : f.protectedOf caseId with
      | none =>
        simp only [hprotected]
        exact .inr ⟨_, rfl⟩
      | some fields =>
        simp only [hprotected]
        by_cases hfresh : caseId ∉ read.map Prod.fst
        · rw [decide_eq_true hfresh]
          by_cases hchanged : (fields.filter fun field => f.cell row field.1 ≠ some field.2) = []
          · refine .inl ⟨caseId, ⟨hwidth, hcell, fields, hprotected, fun field hfield => ?_⟩, hfresh⟩
            rw [List.filter_eq_nil_iff] at hchanged
            simpa only [decide_eq_true_eq, not_not] using hchanged field hfield
          · rw [← List.isEmpty_iff, Bool.not_eq_true] at hchanged
            refine .inr ⟨" changed protected fields: " ++
              ", ".intercalate ((fields.filter fun field => f.cell row field.1 ≠ some field.2).map Prod.fst), ?_⟩
            simp only [hchanged]
            rfl
        · rw [decide_eq_false hfresh]
          exact .inr ⟨_, rfl⟩
  · rw [decide_eq_false hwidth]
    exact .inr ⟨_, rfl⟩

theorem readRow_ok {line : Nat} {read out : List (String × D)} {row : List String} : f.readRow line read row = .ok out ↔
    ∃ caseId value, f.Gives row caseId value ∧ caseId ∉ read.map Prod.fst ∧ out = read ++ [(caseId, value)] := by
  unfold readRow
  constructor
  · intro h
    rcases f.readCells_cases read row with ⟨caseId, hframed, hfresh⟩ | ⟨message, hmessage⟩
    · rw [readCells_framed hframed hfresh] at h
      cases hvalue : f.edited (f.cell row) with
      | error e =>
        rw [hvalue] at h
        cases h
      | ok value =>
        rw [hvalue] at h
        exact ⟨caseId, value, ⟨hframed, hvalue⟩, hfresh, (Except.ok.inj h).symm⟩
    · rw [hmessage] at h
      cases h
  · rintro ⟨caseId, value, ⟨hframed, hvalue⟩, hfresh, rfl⟩
    rw [readCells_framed hframed hfresh, hvalue]
    rfl

theorem readRow_error {line : Nat} {read : List (String × D)} {row : List String} {e : Rejection}
    (h : f.readRow line read row = .error e) : e.isValueError = true ∨
      ∃ caseId e', f.Framed row caseId ∧ caseId ∉ read.map Prod.fst ∧ f.edited (f.cell row) = .error e' ∧ e.isValueError = e'.isValueError := by
  unfold readRow at h
  rcases f.readCells_cases read row with ⟨caseId, hframed, hfresh⟩ | ⟨message, hmessage⟩
  · rw [readCells_framed hframed hfresh] at h
    cases hvalue : f.edited (f.cell row) with
    | ok value =>
      rw [hvalue] at h
      cases h
    | error e' =>
      rw [hvalue] at h
      obtain rfl := Except.error.inj h
      exact .inr ⟨caseId, e', hframed, hfresh, rfl, isValueError_within⟩
  · rw [hmessage] at h
    obtain rfl := Except.error.inj h
    exact .inl rfl

theorem readRows_false {line : Nat} {read out : List (String × D)} {rows : List (List String)} :
    f.readRows false line read rows = .ok out ↔
      Keyed.readRows (fun line read row => (f.readRow line read row).mapError fun _ => "") line read rows = .ok out := by
  induction rows generalizing line read with
  | nil => rw [readRows, Keyed.readRows, if_neg Bool.false_ne_true, Except.ok.injEq, Except.ok.injEq]
  | cons row rows ih =>
    rw [readRows, Keyed.readRows]
    cases f.readRow line read row with
    | ok read => exact ih
    | error e =>
      refine iff_of_false ?_ ?_
      · intro h
        cases h
      · intro h
        cases h

theorem readRow_reads (f : SheetFormat D) :
    Keyed.Reads (fun line read row => (f.readRow line read row).mapError fun _ => "") (f.Gives · · ·) := by
  intro line read row out
  dsimp only
  rw [mapError_ok, readRow_ok]

/-- The rows that are read, with what they give. -/
theorem readRows_ok {line : Nat} {failed : Bool} {items : List (String × D)} {rows : List (List String)} :
    f.readRows failed line [] rows = .ok items ↔
      failed = false ∧ List.Forall₂ (fun row item => f.Gives row item.1 item.2) rows items ∧ (items.map Prod.fst).Nodup := by
  cases failed with
  | false => rw [readRows_false, Keyed.readRows_nil f.readRow_reads, eq_self_iff_true, true_and]
  | true =>
    refine iff_of_false (fun h => ?_) fun h => nomatch h.1
    have hfails : ∀ (rows : List (List String)) (line : Nat) (read : List (String × D)), f.readRows true line read rows ≠ .ok items := by
      intro rows
      induction rows with
      | nil => exact fun _ _ h => nomatch h
      | cons row rows ih =>
        intro line read h
        rw [readRows] at h
        cases hrow : f.readRow line read row with
        | ok read' =>
          rw [hrow] at h
          exact ih _ _ h
        | error e =>
          rw [hrow] at h
          cases h
    exact hfails rows line [] h

theorem readSheet_ok {what text : String} {items : List (String × D)} : f.readSheet what text = .ok items ↔
    ∃ rows, Csv.dictReader text = .ok ⟨f.columns, rows⟩ ∧ List.Forall₂ (fun row item => f.Gives row item.1 item.2) rows items ∧
      (items.map Prod.fst).Nodup := by
  unfold readSheet
  simp only [Csv.dictReader_iff]
  cases Csv.lazyReader text with
  | none => simp
  | some sheet =>
    simp only [Option.some.injEq]
    by_cases hheader : sheet.fieldnames = f.columns
    · rw [if_neg (not_not.mpr hheader), readRows_ok]
      constructor
      · rintro ⟨hfailed, hgives, hnodup⟩
        exact ⟨sheet.rows, by rw [← hheader, ← hfailed], hgives, hnodup⟩
      · rintro ⟨rows, rfl, hgives, hnodup⟩
        exact ⟨rfl, hgives, hnodup⟩
    · rw [if_pos hheader]
      refine iff_of_false (fun h => nomatch h) ?_
      rintro ⟨rows, rfl, -⟩
      exact hheader rfl

/-! ## Other exceptions -/

/-- The loop meets a row whose other cells are not there to be read. -/
def Torn (f : SheetFormat D) (rows : List (List String)) : Prop :=
  ∃ before row after read caseId e, rows = before ++ row :: after ∧ List.Forall₂ (fun row item => f.Gives row item.1 item.2) before read ∧
    (read.map Prod.fst).Nodup ∧ f.Framed row caseId ∧ caseId ∉ read.map Prod.fst ∧ f.edited (f.cell row) = .error e ∧ e.isValueError = false

/-- The reader fails after rows that are all read. -/
def CutOff (f : SheetFormat D) (sheet : Csv.LazySheet) : Prop :=
  sheet.failed = true ∧ ∃ items, List.Forall₂ (fun row item => f.Gives row item.1 item.2) sheet.rows items ∧ (items.map Prod.fst).Nodup

/-- An import of the text ends with an exception other than a `ValueError`. -/
def Breaks (f : SheetFormat D) (text : String) : Prop :=
  Csv.lazyReader text = none ∨
    ∃ sheet, Csv.lazyReader text = some sheet ∧ sheet.fieldnames = f.columns ∧ (f.Torn sheet.rows ∨ f.CutOff sheet)

/-- The loop after some rows. -/
theorem readRows_append {failed : Bool} {line : Nat} {read read' : List (String × D)} {before rest : List (List String)}
    (h : f.readRows false line read before = .ok read') :
    f.readRows failed line read (before ++ rest) = f.readRows failed (line + before.length) read' rest := by
  induction before generalizing line read with
  | nil =>
    rw [readRows, if_neg Bool.false_ne_true] at h
    rw [Except.ok.inj h, List.nil_append, List.length_nil, Nat.add_zero]
  | cons row before ih =>
    rw [readRows] at h
    rw [List.cons_append, readRows, List.length_cons, Nat.add_comm before.length, ← Nat.add_assoc]
    cases hrow : f.readRow line read row with
    | ok read => 
      rw [hrow] at h
      exact ih h
    | error e =>
      rw [hrow] at h
      cases h

theorem readRows_error_cases {failed : Bool} {line : Nat} {read : List (String × D)} {rows : List (List String)} {e : Rejection}
    (h : f.readRows failed line read rows = .error e) :
    (e = .csvError ∧ failed = true ∧ ∃ items, f.readRows false line read rows = .ok items) ∨
      ∃ before row after read', rows = before ++ row :: after ∧ f.readRows false line read before = .ok read' ∧
        f.readRow (line + before.length) read' row = .error e := by
  induction rows generalizing line read with
  | nil =>
    rw [readRows] at h
    cases failed with
    | false => cases h
    | true => exact .inl ⟨(Except.error.inj h).symm, rfl, _, rfl⟩
  | cons row rows ih =>
    rw [readRows] at h
    cases hrow : f.readRow line read row with
    | error e' =>
      rw [hrow] at h
      exact .inr ⟨[], row, rows, read, rfl, rfl, h ▸ hrow⟩
    | ok read' =>
      rw [hrow] at h
      rcases ih h with ⟨rfl, hfailed, items, hitems⟩ | ⟨before, row', after, read'', rfl, hbefore, herror⟩
      · refine .inl ⟨rfl, hfailed, items, ?_⟩
        rw [readRows, hrow]
        exact hitems
      · refine .inr ⟨row :: before, row', after, read'', rfl, ?_, ?_⟩
        · rw [readRows, hrow]
          exact hbefore
        · rw [List.length_cons, Nat.add_comm before.length, ← Nat.add_assoc]
          exact herror

theorem readRows_breaks {line : Nat} {sheet : Csv.LazySheet} :
    (∃ e, f.readRows sheet.failed line [] sheet.rows = .error e ∧ e.isValueError = false) ↔ f.Torn sheet.rows ∨ f.CutOff sheet := by
  constructor
  · rintro ⟨e, herror, hother⟩
    rcases readRows_error_cases herror with ⟨-, hfailed, items, hitems⟩ | ⟨before, row, after, read, hrows, hbefore, hrow⟩
    · exact .inr ⟨hfailed, items, (readRows_ok.mp hitems).2⟩
    · rcases readRow_error hrow with hvalue | ⟨caseId, e', hframed, hfresh, hedited, hsame⟩
      · rw [hvalue] at hother
        cases hother
      · obtain ⟨-, hgives, hnodup⟩ := readRows_ok.mp hbefore
        exact .inl ⟨before, row, after, read, caseId, e', hrows, hgives, hnodup, hframed, hfresh, hedited, hsame ▸ hother⟩
  · rintro (⟨before, row, after, read, caseId, e, hrows, hgives, hnodup, hframed, hfresh, hedited, hother⟩ | ⟨hfailed, items, hgives, hnodup⟩)
    · have hbefore : f.readRows false line [] before = .ok read := readRows_ok.mpr ⟨rfl, hgives, hnodup⟩
      refine ⟨e.within (f.rowName ++ String.ofList (Digits.decimal (line + before.length))), ?_, isValueError_within.trans hother⟩
      rw [hrows, readRows_append hbefore, readRows, readRow, readCells_framed hframed hfresh, hedited]
      rfl
    · have hall : f.readRows false line [] sheet.rows = .ok items := readRows_ok.mpr ⟨rfl, hgives, hnodup⟩
      have hend : f.readRows true line [] (sheet.rows ++ []) = f.readRows true (line + sheet.rows.length) items [] := readRows_append hall
      rw [List.append_nil] at hend
      refine ⟨.csvError, ?_, rfl⟩
      rw [hfailed, hend]
      rfl

/-- **Exceptions.** When an import ends with another exception than a `ValueError`. -/
theorem readSheet_breaks {what text : String} :
    (∃ e, f.readSheet what text = .error e ∧ e.isValueError = false) ↔ f.Breaks text := by
  unfold readSheet Breaks
  cases Csv.lazyReader text with
  | none => exact iff_of_true ⟨_, rfl, rfl⟩ (.inl rfl)
  | some sheet =>
    simp only [reduceCtorEq, Option.some.injEq, false_or, exists_eq_left']
    by_cases hheader : sheet.fieldnames = f.columns
    · rw [if_neg (not_not.mpr hheader), readRows_breaks]
      exact (and_iff_right hheader).symm
    · rw [if_pos hheader]
      refine iff_of_false ?_ fun h => hheader h.1
      rintro ⟨e, he, hother⟩
      rw [← Except.error.inj he] at hother
      cases hother

end SheetFormat

end AtlasPulse
