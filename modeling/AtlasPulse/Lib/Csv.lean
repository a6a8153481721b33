import Mathlib

/-!
# Comma-separated text

The reader of the excel dialect: fields between commas, quotes that are
doubled inside quoted fields, records that end at any newline.
-/

namespace Csv

inductive Mode
  | startRecord
  /-- after a carriage return, which a line feed may follow -/
  | afterReturn
  | startField
  | inField
  | inQuoted
  | quoteInQuoted
  deriving DecidableEq

def fieldLimit : Nat := 131072

/-- Add a character to a field, which is kept in reverse. -/
def addChar (field : List Char) (c : Char) : Except String (List Char) :=
  if field.length < fieldLimit then .ok (c :: field) else .error "field larger than field limit (131072)"

/-- The record that ends here; a line without characters has no fields. -/
def endRecord (mode : Mode) (fields : List String) (field : List Char) : List String :=
  match mode with
  | .startRecord | .afterReturn => []
  | _ => fields ++ [String.ofList field.reverse]

def recordsFrom : Mode → List String → List Char → List Char → Except String (List (List String))
  | .startRecord, _, _, [] => .ok []
  | .afterReturn, _, _, [] => .ok []
  | mode, fields, field, [] => .ok [endRecord mode fields field]
  | .inQuoted, fields, field, c :: cs =>
    if c = '"' then recordsFrom .quoteInQuoted fields field cs
    else addChar field c >>= fun field => recordsFrom .inQuoted fields field cs
  | mode, fields, field, c :: cs =>
    if mode = .afterReturn ∧ c = '\n' then recordsFrom .startRecord [] [] cs
    else if c = '\n' then (recordsFrom .startRecord [] [] cs).map (endRecord mode fields field :: ·)
    else if c = '\r' then (recordsFrom .afterReturn [] [] cs).map (endRecord mode fields field :: ·)
    else if c = ',' then recordsFrom .startField (fields ++ [String.ofList field.reverse]) [] cs
    else if c = '"' ∧ (mode = .startRecord ∨ mode = .afterReturn ∨ mode = .startField) then recordsFrom .inQuoted fields [] cs
    else addChar field c >>= fun field => recordsFrom (if c = '"' ∧ mode = .quoteInQuoted then .inQuoted else .inField) fields field cs

/-- `csv.reader` over the whole text. -/
def records (text : String) : Except String (List (List String)) := recordsFrom .startRecord [] [] text.toList

/-- The header and the rows of a `DictReader`, which leaves out empty records. -/
structure Sheet where
  fieldnames : List String
  rows : List (List String)
  deriving DecidableEq

def dictReader (text : String) : Except String Sheet :=
  (records text).map fun
    | [] => ⟨[], []⟩
    | fieldnames :: rest => ⟨fieldnames, rest.filter (· ≠ [])⟩

/-- `row[name]`, which is there unless the row ends before it. -/
def cell (columns row : List String) (name : String) : Option String := (columns.zip row).lookup name

/-- `row[name] = value` -/
def setCell (columns : List String) (name value : String) (row : List String) : List String :=
  (columns.zip row).map fun item => if item.1 = name then value else item.2

example : records "a,\"b,\"\"c\"\"\"\r\n\n,x" = .ok [["a", "b,\"c\""], [], ["", "x"]] := by decide +kernel

/-! ## Writing -/

/-- What makes a field quoted. -/
def isSpecial (c : Char) : Bool := c = ',' || c = '"' || c = '\n' || c = '\r'

def doubleQuotes (field : List Char) : List Char := field.flatMap fun c => if c = '"' then ['"', '"'] else [c]

def writeField (field : List Char) : List Char :=
  if field.any isSpecial then '"' :: doubleQuotes field ++ ['"'] else field

/-- A line of a `csv.writer` with the line terminator `\n`. -/
def writeRow : List String → List Char
  | [] => ['\n']
  | [""] => ['"', '"', '\n']
  | row => [','].intercalate (row.map fun field => writeField field.toList) ++ ['\n']

def write (rows : List (List String)) : String := String.ofList (rows.flatMap writeRow)

section
variable {fields : List String} {field rest : List Char} {mode : Mode}

/-- A field can begin here. -/
def Mode.isStart (mode : Mode) : Prop := mode = .startRecord ∨ mode = .startField

theorem recordsFrom_cons {c : Char} (hmode : mode ≠ .inQuoted) : recordsFrom mode fields field (c :: rest) =
    if mode = .afterReturn ∧ c = '\n' then recordsFrom .startRecord [] [] rest
    else if c = '\n' then (recordsFrom .startRecord [] [] rest).map (endRecord mode fields field :: ·)
    else if c = '\r' then (recordsFrom .afterReturn [] [] rest).map (endRecord mode fields field :: ·)
    else if c = ',' then recordsFrom .startField (fields ++ [String.ofList field.reverse]) [] rest
    else if c = '"' ∧ (mode = .startRecord ∨ mode = .afterReturn ∨ mode = .startField) then recordsFrom .inQuoted fields [] rest
    else addChar field c >>= fun field =>
      recordsFrom (if c = '"' ∧ mode = .quoteInQuoted then .inQuoted else .inField) fields field rest := by
  cases mode with
  | inQuoted => exact absurd rfl hmode
  | _ => rw [recordsFrom]; exact fun h => nomatch h

theorem recordsFrom_plain {c : Char} (hmode : mode.isStart ∨ mode = .inField) (hc : isSpecial c = false) (hlen : field.length < fieldLimit) :
    recordsFrom mode fields field (c :: rest) = recordsFrom .inField fields (c :: field) rest := by
  simp only [isSpecial, Bool.or_eq_false_iff, decide_eq_false_iff_not] at hc
  obtain ⟨⟨⟨hcomma, hquote⟩, hline⟩, hreturn⟩ := hc
  have hadd : addChar field c = .ok (c :: field) := if_pos hlen
  have hquoted : mode ≠ .inQuoted := by rcases hmode with (rfl | rfl) | rfl <;> decide
  rw [recordsFrom_cons hquoted, if_neg fun h => hline h.2, if_neg hline, if_neg hreturn, if_neg hcomma, if_neg fun h => hquote h.1,
    if_neg fun h => hquote h.1, hadd]
  rfl

theorem recordsFrom_plains {cs : List Char} (hcs : cs.any isSpecial = false) (hlen : cs.length + field.length ≤ fieldLimit) :
    recordsFrom .inField fields field (cs ++ rest) = recordsFrom .inField fields (cs.reverse ++ field) rest := by
  induction cs generalizing field with
  | nil => rfl
  | cons c cs ih =>
    rw [List.any_cons, Bool.or_eq_false_iff] at hcs
    rw [List.length_cons] at hlen
    rw [List.cons_append, recordsFrom_plain (Or.inr rfl) hcs.1 (by omega), ih hcs.2 (by rw [List.length_cons]; omega),
      List.reverse_cons, List.append_assoc, List.singleton_append]

theorem recordsFrom_doubled {cs : List Char} (hlen : cs.length + field.length ≤ fieldLimit) :
    recordsFrom .inQuoted fields field (doubleQuotes cs ++ '"' :: rest) =
      recordsFrom .quoteInQuoted fields (cs.reverse ++ field) rest := by
  induction cs generalizing field with
  | nil => simp [doubleQuotes, recordsFrom]
  | cons c cs ih =>
    rw [List.length_cons] at hlen
    have hadd : addChar field c = .ok (c :: field) := if_pos (by omega)
    have hnext := @ih (c :: field) (by rw [List.length_cons]; omega)
    rw [List.reverse_cons, List.append_assoc, List.singleton_append, ← hnext]
    by_cases hc : c = '"'
    · subst hc
      simp [doubleQuotes, recordsFrom, hadd, bind, Except.bind]
    · simp [doubleQuotes, recordsFrom, hadd, hc, bind, Except.bind]

/-- The mode after a field. -/
def Mode.afterField (mode : Mode) (field : List Char) : Mode :=
  if field.any isSpecial then .quoteInQuoted else if field = [] then mode else .inField

theorem recordsFrom_writeField {cs : List Char} (hmode : mode.isStart) (hlen : cs.length ≤ fieldLimit) :
    recordsFrom mode fields [] (writeField cs ++ rest) = recordsFrom (mode.afterField cs) fields cs.reverse rest := by
  unfold writeField Mode.afterField
  split
  · have hquoted : recordsFrom .inQuoted fields [] (doubleQuotes cs ++ '"' :: rest) =
        recordsFrom .quoteInQuoted fields (cs.reverse ++ []) rest := recordsFrom_doubled (by simpa using hlen)
    rw [List.append_nil] at hquoted
    have hstart : mode ≠ .inQuoted ∧ mode ≠ .afterReturn ∧ (mode = .startRecord ∨ mode = .afterReturn ∨ mode = .startField) := by
      rcases hmode with rfl | rfl <;> decide
    rw [← hquoted, List.cons_append, List.cons_append, List.append_assoc, List.singleton_append, recordsFrom_cons hstart.1,
      if_neg fun h => hstart.2.1 h.1, if_neg (by decide), if_neg (by decide), if_neg (by decide), if_pos ⟨rfl, hstart.2.2⟩]
  · rename_i hplain
    cases cs with
    | nil => rfl
    | cons c cs =>
      rw [Bool.not_eq_true, List.any_cons, Bool.or_eq_false_iff] at hplain
      rw [List.length_cons] at hlen
      rw [List.cons_append, recordsFrom_plain (Or.inl hmode) hplain.1 (by simp [fieldLimit]),
        recordsFrom_plains hplain.2 (by simpa using hlen), if_neg (List.cons_ne_nil _ _), List.reverse_cons]

theorem afterField_ne (cs : List Char) (hmode : mode.isStart) :
    mode.afterField cs ≠ .inQuoted ∧ mode.afterField cs ≠ .afterReturn := by
  unfold Mode.afterField
  rcases hmode with rfl | rfl
  all_goals
    split
    · decide
    · split <;> decide

theorem recordsFrom_comma {cs : List Char} (hmode : mode.isStart) (hlen : cs.length ≤ fieldLimit) :
    recordsFrom mode fields [] (writeField cs ++ ',' :: rest) = recordsFrom .startField (fields ++ [String.ofList cs]) [] rest := by
  obtain ⟨hquoted, hreturn⟩ := afterField_ne cs hmode
  rw [recordsFrom_writeField hmode hlen, recordsFrom_cons hquoted, if_neg fun h => hreturn h.1, if_neg (by decide), if_neg (by decide),
    if_pos rfl, List.reverse_reverse]

theorem recordsFrom_newline {cs : List Char} (hmode : mode.isStart) (hlen : cs.length ≤ fieldLimit)
    (hsome : mode = .startField ∨ cs ≠ []) : recordsFrom mode fields [] (writeField cs ++ '\n' :: rest) =
      (recordsFrom .startRecord [] [] rest).map ((fields ++ [String.ofList cs]) :: ·) := by
  obtain ⟨hquoted, hreturn⟩ := afterField_ne cs hmode
  have hend : endRecord (mode.afterField cs) fields cs.reverse = fields ++ [String.ofList cs] := by
    have hfield : fields ++ [String.ofList cs.reverse.reverse] = fields ++ [String.ofList cs] := by rw [List.reverse_reverse]
    unfold Mode.afterField
    split
    · exact hfield
    · split
      · rename_i hnil
        rw [hsome.resolve_right fun h => h hnil]
        exact hfield
      · exact hfield
  rw [recordsFrom_writeField hmode hlen, recordsFrom_cons hquoted, if_neg fun h => hreturn h.1, if_pos rfl, hend]

theorem recordsFrom_fields {row : List String} (hrow : row ≠ []) (hlen : ∀ f ∈ row, f.length ≤ fieldLimit) :
    recordsFrom .startField fields [] ([','].intercalate (row.map fun f => writeField f.toList) ++ '\n' :: rest) =
      (recordsFrom .startRecord [] [] rest).map ((fields ++ row) :: ·) := by
  induction row generalizing fields with
  | nil => exact absurd rfl hrow
  | cons f row ih =>
    obtain ⟨hf, hlen⟩ := List.forall_mem_cons.mp hlen
    rw [← String.length_toList] at hf
    cases row with
    | nil =>
      rw [List.map_singleton, List.intercalate_singleton, recordsFrom_newline (Or.inr rfl) hf (Or.inl rfl), String.ofList_toList]
    | cons g row =>
      have hrest := @ih (fields ++ [f]) (List.cons_ne_nil _ _) hlen
      rw [List.map_cons] at hrest
      rw [List.map_cons, List.map_cons, List.intercalate_cons_cons, List.append_assoc, List.append_assoc, List.singleton_append,
        recordsFrom_comma (Or.inr rfl) hf, String.ofList_toList, hrest, List.append_assoc, List.singleton_append]

theorem recordsFrom_writeRow {row : List String} (hlen : ∀ f ∈ row, f.length ≤ fieldLimit) :
    recordsFrom .startRecord [] [] (writeRow row ++ rest) = (recordsFrom .startRecord [] [] rest).map (row :: ·) := by
  unfold writeRow
  split
  · rw [List.singleton_append, recordsFrom_cons (by decide), if_neg (by decide), if_pos rfl]
    rfl
  · simp [recordsFrom, endRecord]
  · rename_i hnil hblank
    rw [List.append_assoc, List.singleton_append]
    cases row with
    | nil => exact (hnil rfl).elim
    | cons f row =>
      obtain ⟨hf, hlen⟩ := List.forall_mem_cons.mp hlen
      rw [← String.length_toList] at hf
      cases row with
      | nil =>
        have hsome : f.toList ≠ [] := fun h => hblank (by rw [String.toList_eq_nil_iff.mp h])
        rw [List.map_singleton, List.intercalate_singleton, recordsFrom_newline (Or.inl rfl) hf (Or.inr hsome),
          String.ofList_toList, List.nil_append]
      | cons g row =>
        have hfields : recordsFrom .startField [f] [] ([','].intercalate ((g :: row).map fun f => writeField f.toList) ++ '\n' :: rest) =
            (recordsFrom .startRecord [] [] rest).map (([f] ++ g :: row) :: ·) := recordsFrom_fields (List.cons_ne_nil _ _) hlen
        rw [List.map_cons] at hfields
        rw [List.map_cons, List.map_cons, List.intercalate_cons_cons, List.append_assoc, List.append_assoc, List.singleton_append,
          recordsFrom_comma (Or.inl rfl) hf, String.ofList_toList, List.nil_append, hfields, List.singleton_append]

/-- **Round trip.** What is written is read back, whatever its fields hold. -/
theorem records_write {rows : List (List String)} (hlen : ∀ row ∈ rows, ∀ f ∈ row, f.length ≤ fieldLimit) :
    records (write rows) = .ok rows := by
  unfold records write
  rw [String.toList_ofList]
  induction rows with
  | nil => rfl
  | cons row rows ih =>
    obtain ⟨hrow, hlen⟩ := List.forall_mem_cons.mp hlen
    rw [List.flatMap_cons, recordsFrom_writeRow hrow, ih hlen]
    rfl

theorem dictReader_write {fieldnames : List String} {rows : List (List String)} (hnames : ∀ f ∈ fieldnames, f.length ≤ fieldLimit)
    (hrows : ∀ row ∈ rows, row ≠ []) (hlen : ∀ row ∈ rows, ∀ f ∈ row, f.length ≤ fieldLimit) :
    dictReader (write (fieldnames :: rows)) = .ok ⟨fieldnames, rows⟩ := by
  unfold dictReader
  rw [records_write (List.forall_mem_cons.mpr ⟨hnames, hlen⟩)]
  exact congrArg (fun rows => Except.ok (Sheet.mk fieldnames rows)) (List.filter_eq_self.mpr fun row hrow => decide_eq_true (hrows row hrow))

end

/-! ## Cells -/

section
variable {columns row : List String} {name other value : String}

theorem length_setCell (h : row.length = columns.length) : (setCell columns name value row).length = columns.length := by
  rw [setCell, List.length_map, List.length_zip, h, Nat.min_self]

theorem zip_setCell (h : row.length = columns.length) :
    columns.zip (setCell columns name value row) = (columns.zip row).map fun item => (item.1, if item.1 = name then value else item.2) := by
  induction columns generalizing row with
  | nil => rfl
  | cons column columns ih =>
    cases row with
    | nil => cases h
    | cons field row =>
      simp only [List.length_cons, Nat.add_right_cancel_iff] at h
      exact congrArg _ (ih h)

theorem lookup_map_value {l : List (String × String)} {f : String → String → String} :
    (l.map fun item => (item.1, f item.1 item.2)).lookup other = (l.lookup other).map (f other) := by
  induction l with
  | nil => rfl
  | cons item l ih =>
    rw [List.map_cons, List.lookup_cons, List.lookup_cons]
    by_cases h : (other == item.1) = true
    · rw [h, beq_iff_eq.mp h]
      rfl
    · rw [Bool.not_eq_true] at h
      rw [h, ih]

theorem cell_setCell (h : row.length = columns.length) :
    cell columns (setCell columns name value row) other = (cell columns row other).map fun field => if other = name then value else field := by
  rw [cell, zip_setCell h]
  exact lookup_map_value (f := fun column field => if column = name then value else field)

theorem cell_setCell_ne (h : row.length = columns.length) (hne : other ≠ name) :
    cell columns (setCell columns name value row) other = cell columns row other := by
  rw [cell_setCell h]
  simp only [if_neg hne, Option.map_id']

theorem isSome_cell (h : row.length = columns.length) (hname : name ∈ columns) : (cell columns row name).isSome = true := by
  have hkeys : (columns.zip row).map Prod.fst = columns := List.map_fst_zip (by omega)
  obtain ⟨item, hitem, rfl⟩ := List.mem_map.mp (hkeys ▸ hname)
  exact List.lookup_isSome_iff.mpr ⟨item, hitem, beq_self_eq_true _⟩

theorem cell_setCell_self (h : row.length = columns.length) (hname : name ∈ columns) :
    cell columns (setCell columns name value row) name = some value := by
  obtain ⟨field, hfield⟩ := Option.isSome_iff_exists.mp (isSome_cell h hname)
  rw [cell_setCell h, hfield, Option.map_some, if_pos rfl]

theorem mem_setCell {field : String} (h : field ∈ setCell columns name value row) : field = value ∨ field ∈ row := by
  obtain ⟨item, hitem, rfl⟩ := List.mem_map.mp h
  by_cases hname : item.1 = name
  · exact Or.inl (if_pos hname)
  · exact Or.inr (if_neg hname ▸ (List.of_mem_zip hitem).2)

end

/-! ## What is read -/

/-- A field that the reader gives: not too long, of characters of the text. -/
def FieldOf (text : List Char) (field : String) : Prop := field.length ≤ fieldLimit ∧ ∀ c ∈ field.toList, c ∈ text

section
variable {text : List Char}

theorem fieldOf_reverse {field : List Char} (hlen : field.length ≤ fieldLimit) (hchars : ∀ c ∈ field, c ∈ text) :
    FieldOf text (String.ofList field.reverse) := by
  refine ⟨by rwa [String.length_ofList, List.length_reverse], fun c hc => hchars c ?_⟩
  rwa [String.toList_ofList, List.mem_reverse] at hc

theorem fieldOf_endRecord {mode : Mode} {fields : List String} {field : List Char} (hlen : field.length ≤ fieldLimit)
    (hchars : ∀ c ∈ field, c ∈ text) (hfields : ∀ f ∈ fields, FieldOf text f) : ∀ f ∈ endRecord mode fields field, FieldOf text f := by
  have hall : ∀ f ∈ fields ++ [String.ofList field.reverse], FieldOf text f := by
    intro f hf
    rcases List.mem_append.mp hf with hf | hf
    · exact hfields f hf
    · rw [List.mem_singleton.mp hf]
      exact fieldOf_reverse hlen hchars
  intro f hf
  cases mode with
  | startRecord => cases hf
  | afterReturn => cases hf
  | _ => exact hall f hf

theorem fieldOf_recordsFrom {cs : List Char} {mode : Mode} {fields : List String} {field : List Char} {rows : List (List String)}
    (h : recordsFrom mode fields field cs = .ok rows) (hcs : ∀ c ∈ cs, c ∈ text) (hlen : field.length ≤ fieldLimit)
    (hchars : ∀ c ∈ field, c ∈ text) (hfields : ∀ f ∈ fields, FieldOf text f) : ∀ row ∈ rows, ∀ f ∈ row, FieldOf text f := by
  have hstart : ∀ c ∈ ([] : List Char), c ∈ text := fun c hc => absurd hc List.not_mem_nil
  have hnone : ∀ f ∈ ([] : List String), FieldOf text f := fun f hf => absurd hf List.not_mem_nil
  induction cs generalizing mode fields field rows with
  | nil =>
    have hend : ∀ row ∈ [endRecord mode fields field], ∀ f ∈ row, FieldOf text f := by
      intro row hrow
      rw [List.mem_singleton.mp hrow]
      exact fieldOf_endRecord hlen hchars hfields
    cases mode with
    | startRecord =>
      rw [← Except.ok.inj h]
      exact fun row hrow => absurd hrow List.not_mem_nil
    | afterReturn =>
      rw [← Except.ok.inj h]
      exact fun row hrow => absurd hrow List.not_mem_nil
    | _ =>
      rw [recordsFrom] at h
      · rw [← Except.ok.inj h]
        exact hend
      all_goals exact fun hmode => nomatch hmode
  | cons c cs ih =>
    obtain ⟨hc, hcs⟩ := List.forall_mem_cons.mp hcs
    have hadd : ∀ {mode' : Mode}, (addChar field c >>= fun field => recordsFrom mode' fields field cs) = .ok rows →
        ∀ row ∈ rows, ∀ f ∈ row, FieldOf text f := by
      intro mode' h
      unfold addChar at h
      split at h
      · rename_i hroom
        exact ih h hcs hroom (List.forall_mem_cons.mpr ⟨hc, hchars⟩) hfields
      · cases h
    have hmore : ∀ {mode' : Mode}, (recordsFrom mode' [] [] cs).map (endRecord mode fields field :: ·) = .ok rows →
        ∀ row ∈ rows, ∀ f ∈ row, FieldOf text f := by
      intro mode' h
      cases hrest : recordsFrom mode' [] [] cs with
      | error e =>
        rw [hrest] at h
        cases h
      | ok rest =>
        rw [hrest] at h
        rw [← Except.ok.inj h]
        exact List.forall_mem_cons.mpr ⟨fieldOf_endRecord hlen hchars hfields, ih hrest hcs (Nat.zero_le _) hstart hnone⟩
    by_cases hmode : mode = .inQuoted
    · subst hmode
      rw [recordsFrom] at h
      split at h
      · exact ih h hcs hlen hchars hfields
      · exact hadd h
    · rw [recordsFrom_cons hmode] at h
      split at h
      · exact ih h hcs (Nat.zero_le _) hstart hnone
      · split at h
        · exact hmore h
        · split at h
          · exact hmore h
          · split at h
            · refine ih h hcs (Nat.zero_le _) hstart fun f hf => ?_
              rcases List.mem_append.mp hf with hf | hf
              · exact hfields f hf
              · rw [List.mem_singleton.mp hf]
                exact fieldOf_reverse hlen hchars
            · split at h
              · exact ih h hcs (Nat.zero_le _) hstart hfields
              · exact hadd h

/-- The rows of a sheet have bounded fields of its characters. -/
theorem fieldOf_dictReader {text : String} {sheet : Sheet} (h : dictReader text = .ok sheet) :
    ∀ row ∈ sheet.rows, row ≠ [] ∧ ∀ f ∈ row, FieldOf text.toList f := by
  unfold dictReader at h
  cases hrecords : records text with
  | error e =>
    rw [hrecords] at h
    cases h
  | ok rows =>
    have hfields := fieldOf_recordsFrom hrecords (fun c (hc : c ∈ text.toList) => hc) (Nat.zero_le _)
      (fun c hc => absurd hc List.not_mem_nil) fun f hf => absurd hf List.not_mem_nil
    rw [hrecords] at h
    rw [← Except.ok.inj h]
    intro row hrow
    cases rows with
    | nil => cases hrow
    | cons header rest =>
      obtain ⟨hrow, hne⟩ := List.mem_filter.mp hrow
      exact ⟨of_decide_eq_true hne, hfields row (List.mem_cons_of_mem _ hrow)⟩

theorem mem_writeField {c : Char} {field : List Char} (h : c ∈ writeField field) : c = '"' ∨ c ∈ field := by
  unfold writeField at h
  split at h
  · rcases List.mem_append.mp h with h | h
    · rcases List.mem_cons.mp h with h | h
      · exact Or.inl h
      · obtain ⟨d, hd, hc⟩ := List.mem_flatMap.mp h
        split at hc
        · exact Or.inl (by simpa using hc)
        · exact Or.inr (List.mem_singleton.mp hc ▸ hd)
    · exact Or.inl (List.mem_singleton.mp h)
  · exact Or.inr h

theorem mem_intercalate {c sep : Char} {ls : List (List Char)} (h : c ∈ [sep].intercalate ls) : c = sep ∨ ∃ l ∈ ls, c ∈ l := by
  induction ls with
  | nil => cases h
  | cons l ls ih =>
    cases ls with
    | nil =>
      rw [List.intercalate_singleton] at h
      exact Or.inr ⟨l, List.mem_cons_self, h⟩
    | cons l' ls =>
      rw [List.intercalate_cons_cons, List.append_assoc, List.mem_append, List.singleton_append, List.mem_cons] at h
      rcases h with h | h | h
      · exact Or.inr ⟨l, List.mem_cons_self, h⟩
      · exact Or.inl h
      · exact (ih h).imp_right fun ⟨x, hx, hc⟩ => ⟨x, List.mem_cons_of_mem _ hx, hc⟩

/-- A text is written of its fields and of separators. -/
theorem mem_write {rows : List (List String)} {c : Char} (h : c ∈ (write rows).toList) :
    c = ',' ∨ c = '"' ∨ c = '\n' ∨ ∃ row ∈ rows, ∃ f ∈ row, c ∈ f.toList := by
  rw [write, String.toList_ofList] at h
  obtain ⟨row, hrow, h⟩ := List.mem_flatMap.mp h
  unfold writeRow at h
  split at h
  · exact Or.inr (Or.inr (Or.inl (List.mem_singleton.mp h)))
  · simp only [List.mem_cons, List.not_mem_nil, or_false] at h
    rcases h with h | h | h
    · exact Or.inr (Or.inl h)
    · exact Or.inr (Or.inl h)
    · exact Or.inr (Or.inr (Or.inl h))
  · rcases List.mem_append.mp h with h | h
    · rcases mem_intercalate h with h | ⟨l, hl, hc⟩
      · exact Or.inl h
      · obtain ⟨f, hf, rfl⟩ := List.mem_map.mp hl
        rcases mem_writeField hc with h | h
        · exact Or.inr (Or.inl h)
        · exact Or.inr (Or.inr (Or.inr ⟨_, hrow, f, hf, h⟩))
    · exact Or.inr (Or.inr (Or.inl (List.mem_singleton.mp h)))

end

/-! ## Reading lazily -/

/-- The records before the reader fails, and whether it does. -/
def scanFrom : Mode → List String → List Char → List Char → List (List String) × Bool
  | .startRecord, _, _, [] => ([], false)
  | .afterReturn, _, _, [] => ([], false)
  | mode, fields, field, [] => ([endRecord mode fields field], false)
  | .inQuoted, fields, field, c :: cs =>
    if c = '"' then scanFrom .quoteInQuoted fields field cs
    else if field.length < fieldLimit then scanFrom .inQuoted fields (c :: field) cs else ([], true)
  | mode, fields, field, c :: cs =>
    if mode = .afterReturn ∧ c = '\n' then scanFrom .startRecord [] [] cs
    else if c = '\n' then (scanFrom .startRecord [] [] cs).map (endRecord mode fields field :: ·) id
    else if c = '\r' then (scanFrom .afterReturn [] [] cs).map (endRecord mode fields field :: ·) id
    else if c = ',' then scanFrom .startField (fields ++ [String.ofList field.reverse]) [] cs
    else if c = '"' ∧ (mode = .startRecord ∨ mode = .afterReturn ∨ mode = .startField) then scanFrom .inQuoted fields [] cs
    else if field.length < fieldLimit then
      scanFrom (if c = '"' ∧ mode = .quoteInQuoted then .inQuoted else .inField) fields (c :: field) cs
    else ([], true)

/-- What a reader gives in the end. -/
def whole (scanned : List (List String) × Bool) : Except String (List (List String)) :=
  if scanned.2 then .error "field larger than field limit (131072)" else .ok scanned.1

theorem whole_map (record : List String) (scanned : List (List String) × Bool) :
    whole (scanned.map (record :: ·) id) = (whole scanned).map (record :: ·) := by
  obtain ⟨records, failed⟩ := scanned
  cases failed with
  | false => rfl
  | true => rfl

theorem addChar_bind {field : List Char} {c : Char} {f : List Char → Except String (List (List String))}
    {g : List (List String) × Bool} (h : field.length < fieldLimit → f (c :: field) = whole g) :
    (addChar field c >>= f) = whole (if field.length < fieldLimit then g else ([], true)) := by
  unfold addChar
  by_cases hlen : field.length < fieldLimit
  · rw [if_pos hlen, if_pos hlen]
    exact h hlen
  · rw [if_neg hlen, if_neg hlen]
    rfl

theorem recordsFrom_eq (cs : List Char) : ∀ (mode : Mode) (fields : List String) (field : List Char),
    recordsFrom mode fields field cs = whole (scanFrom mode fields field cs) := by
  induction cs with
  | nil =>
    intro mode fields field
    cases mode with
    | startRecord => rfl
    | afterReturn => rfl
    | startField => rfl
    | inField => rfl
    | inQuoted => rfl
    | quoteInQuoted => rfl
  | cons c cs ih =>
    intro mode fields field
    by_cases hmode : mode = .inQuoted
    · subst hmode
      rw [recordsFrom, scanFrom]
      by_cases hquote : c = '"'
      · rw [if_pos hquote, if_pos hquote, ih]
      · rw [if_neg hquote, if_neg hquote]
        exact addChar_bind fun _ => ih _ _ _
    · have hscan : scanFrom mode fields field (c :: cs) =
          if mode = .afterReturn ∧ c = '\n' then scanFrom .startRecord [] [] cs
          else if c = '\n' then (scanFrom .startRecord [] [] cs).map (endRecord mode fields field :: ·) id
          else if c = '\r' then (scanFrom .afterReturn [] [] cs).map (endRecord mode fields field :: ·) id
          else if c = ',' then scanFrom .startField (fields ++ [String.ofList field.reverse]) [] cs
          else if c = '"' ∧ (mode = .startRecord ∨ mode = .afterReturn ∨ mode = .startField) then scanFrom .inQuoted fields [] cs
          else if field.length < fieldLimit then
            scanFrom (if c = '"' ∧ mode = .quoteInQuoted then .inQuoted else .inField) fields (c :: field) cs
          else ([], true) := by
        cases mode with
        | inQuoted => exact absurd rfl hmode
        | _ => rw [scanFrom]; exact fun h => nomatch h
      rw [recordsFrom_cons hmode, hscan]
      split
      · rw [ih]
      · split
        · rw [ih, whole_map]
        · split
          · rw [ih, whole_map]
          · split
            · rw [ih]
            · split
              · rw [ih]
              · exact addChar_bind fun _ => ih _ _ _

/-- A `DictReader` that gives its rows one after another until it fails. -/
structure LazySheet where
  fieldnames : List String
  rows : List (List String)
  failed : Bool
  deriving DecidableEq

/-- The rows of a sheet; `none` if the reader fails on the header. -/
def lazyReader (text : String) : Option LazySheet :=
  match scanFrom .startRecord [] [] text.toList with
  | ([], true) => none
  | (records, failed) => some ⟨records.headD [], records.tail.filter (· ≠ []), failed⟩

theorem dictReader_iff {text : String} {fieldnames : List String} {rows : List (List String)} :
    dictReader text = .ok ⟨fieldnames, rows⟩ ↔ lazyReader text = some ⟨fieldnames, rows, false⟩ := by
  unfold dictReader records lazyReader
  rw [recordsFrom_eq]
  obtain ⟨records, failed⟩ := scanFrom .startRecord [] [] text.toList
  cases records with
  | nil =>
    cases failed with
    | false => simp [whole, Except.map]
    | true => simp [whole, Except.map]
  | cons record records =>
    cases failed with
    | false => simp [whole, Except.map]
    | true => simp [whole, Except.map]

end Csv
