import AtlasPulse.Lib.Csv

/-!
# Delimited text without quoting

The strict `csv.reader` on text whose fields stand between delimiters as they
are. It reads its own quoting into them: the fields are recovered when none
begins with a quote, and only then.
-/

namespace Tsv

open Csv

/-- The records that a strict reader gives, and the error that ends them. -/
def scan (delimiter : Char) : Mode → List String → List Char → List Char → List (List String) × Option String
  | .startRecord, _, _, [] => ([], none)
  | .afterReturn, _, _, [] => ([], none)
  | .inQuoted, _, _, [] => ([], some "unexpected end of data")
  | mode, fields, field, [] => ([endRecord mode fields field], none)
  | .inQuoted, fields, field, c :: cs =>
    if c = '"' then scan delimiter .quoteInQuoted fields field cs
    else if field.length < fieldLimit then scan delimiter .inQuoted fields (c :: field) cs
    else ([], some "field larger than field limit (131072)")
  | mode, fields, field, c :: cs =>
    if mode = .afterReturn ∧ c = '\n' then scan delimiter .startRecord [] [] cs
    else if c = '\n' then (scan delimiter .startRecord [] [] cs).map (endRecord mode fields field :: ·) id
    else if c = '\r' then (scan delimiter .afterReturn [] [] cs).map (endRecord mode fields field :: ·) id
    else if c = delimiter then scan delimiter .startField (fields ++ [String.ofList field.reverse]) [] cs
    else if c = '"' ∧ (mode = .startRecord ∨ mode = .afterReturn ∨ mode = .startField) then scan delimiter .inQuoted fields [] cs
    else if mode = .quoteInQuoted ∧ c ≠ '"' then ([], some ("'" ++ delimiter.toString ++ "' expected after '\"'"))
    else if field.length < fieldLimit then scan delimiter (if mode = .quoteInQuoted then .inQuoted else .inField) fields (c :: field) cs
    else ([], some "field larger than field limit (131072)")

/-- The rows of a text and the error after them. -/
def reader (delimiter : Char) (text : String) : List (List String) × Option String := scan delimiter .startRecord [] [] text.toList

/-- A text with its fields as they are. -/
def exportText (delimiter : Char) (rows : List (List String)) : String :=
  String.ofList (rows.flatMap fun row => [delimiter].intercalate (row.map String.toList) ++ ['\n'])

example : reader '\t' "a\t\"b\tc\"\n" = ([["a", "b\tc"]], none) := by decide +kernel

/-- A field that no separator breaks. -/
def Unbroken (delimiter : Char) (field : String) : Prop := ∀ c ∈ field.toList, c ≠ delimiter ∧ c ≠ '\n' ∧ c ≠ '\r'

/-- A field that the reader takes as it is. -/
def Plain (field : String) : Prop := field.toList.head? ≠ some '"' ∧ field.length ≤ fieldLimit

instance (field : String) : Decidable (Plain field) := inferInstanceAs (Decidable (_ ∧ _))

section
variable {delimiter : Char} {mode : Mode} {fields row : List String} {field cs rest : List Char} {rows : List (List String)}

/-! ## Steps -/

theorem scan_cons {c : Char} (hmode : mode ≠ .inQuoted) : scan delimiter mode fields field (c :: rest) =
    if mode = .afterReturn ∧ c = '\n' then scan delimiter .startRecord [] [] rest
    else if c = '\n' then (scan delimiter .startRecord [] [] rest).map (endRecord mode fields field :: ·) id
    else if c = '\r' then (scan delimiter .afterReturn [] [] rest).map (endRecord mode fields field :: ·) id
    else if c = delimiter then scan delimiter .startField (fields ++ [String.ofList field.reverse]) [] rest
    else if c = '"' ∧ (mode = .startRecord ∨ mode = .afterReturn ∨ mode = .startField) then scan delimiter .inQuoted fields [] rest
    else if mode = .quoteInQuoted ∧ c ≠ '"' then ([], some ("'" ++ delimiter.toString ++ "' expected after '\"'"))
    else if field.length < fieldLimit then
      scan delimiter (if mode = .quoteInQuoted then .inQuoted else .inField) fields (c :: field) rest
    else ([], some "field larger than field limit (131072)") := by
  cases mode with
  | inQuoted => exact absurd rfl hmode
  | _ => rw [scan]; exact fun h => nomatch h

/-- A state in which a record is open, with a field after those before it. -/
structure Open (mode : Mode) (field : List Char) : Prop where
  record : mode ≠ .startRecord ∧ mode ≠ .afterReturn
  start : mode = .startField → field = []

theorem Open.of_inside (h : mode = .inField ∨ mode = .inQuoted ∨ mode = .quoteInQuoted) : Open mode field := by
  rcases h with rfl | rfl | rfl <;> exact ⟨by decide, fun h => nomatch h⟩

theorem endRecord_open (h : Open mode field) : endRecord mode fields field = fields ++ [String.ofList field.reverse] := by
  cases mode with
  | startRecord => exact absurd rfl h.record.1
  | afterReturn => exact absurd rfl h.record.2
  | _ => rfl

/-- An open record is given with its fields, and with what its last field has. -/
theorem scan_open (hopen : Open mode field) (h : scan delimiter mode fields field cs = (rows, none)) :
    ∃ last more rows', rows = (fields ++ String.ofList (field.reverse ++ last) :: more) :: rows' := by
  induction cs generalizing mode fields field with
  | nil =>
    by_cases hquoted : mode = .inQuoted
    · subst hquoted
      simp [scan] at h
    · have hrows : rows = [endRecord mode fields field] := by
        cases mode with
        | startRecord => exact absurd rfl hopen.record.1
        | afterReturn => exact absurd rfl hopen.record.2
        | inQuoted => exact absurd rfl hquoted
        | _ => exact (congrArg Prod.fst h).symm
      exact ⟨[], [], [], by rw [hrows, endRecord_open hopen, List.append_nil]⟩
  | cons c cs ih =>
    have hlonger : ∀ {mode' : Mode}, Open mode' (c :: field) → scan delimiter mode' fields (c :: field) cs = (rows, none) →
        ∃ last more rows', rows = (fields ++ String.ofList (field.reverse ++ last) :: more) :: rows' := by
      intro mode' hmode' h'
      obtain ⟨last, more, rows', hrows⟩ := ih hmode' h'
      refine ⟨c :: last, more, rows', ?_⟩
      rw [hrows, List.reverse_cons, List.append_assoc, List.singleton_append]
    by_cases hquoted : mode = .inQuoted
    · subst hquoted
      rw [scan] at h
      split at h
      · exact ih (.of_inside (Or.inr (Or.inr rfl))) h
      · split at h
        · exact hlonger (.of_inside (Or.inr (Or.inl rfl))) h
        · simp at h
    · have hended : ∀ {scanned : List (List String) × Option String}, scanned.map (endRecord mode fields field :: ·) id = (rows, none) →
          ∃ last more rows', rows = (fields ++ String.ofList (field.reverse ++ last) :: more) :: rows' := by
        intro scanned h'
        refine ⟨[], [], scanned.1, ?_⟩
        rw [List.append_nil, ← endRecord_open hopen]
        exact (congrArg Prod.fst h').symm
      rw [scan_cons hquoted, if_neg fun h => hopen.record.2 h.1] at h
      split at h
      · exact hended h
      split at h
      · exact hended h
      split at h
      · obtain ⟨last, more, rows', hrows⟩ := ih ⟨by decide, fun _ => rfl⟩ h
        refine ⟨[], String.ofList ([].reverse ++ last) :: more, rows', ?_⟩
        rw [hrows, List.append_nil, List.append_assoc, List.singleton_append]
      split at h
      · rename_i hquote
        obtain rfl := hopen.start ((hquote.2.resolve_left hopen.record.1).resolve_left hopen.record.2)
        exact ih (.of_inside (Or.inr (Or.inl rfl))) h
      split at h
      · simp at h
      split at h
      · refine hlonger (.of_inside ?_) h
        split
        · exact Or.inr (Or.inl rfl)
        · exact Or.inl rfl
      · simp at h

/-! ## A field that begins with a quote -/

/-- A quoted field is shorter than what it is read from, or goes on after it. -/
theorem scan_quoted {sep : Char} {n : ℕ} (hsep : sep = delimiter ∨ sep = '\n') (hquote : delimiter ≠ '"')
    (hmode : mode = .inQuoted ∨ mode = .quoteInQuoted) (hcs : ∀ c ∈ cs, c ≠ delimiter ∧ c ≠ '\n' ∧ c ≠ '\r')
    (hlen : field.length + cs.length < n) (h : scan delimiter mode fields field (cs ++ sep :: rest) = (rows, none)) :
    ∃ given more rows', rows = (fields ++ given :: more) :: rows' ∧ (given.length < n ∨ sep ∈ given.toList) := by
  induction cs generalizing mode field with
  | nil =>
    rcases hmode with rfl | rfl
    · have hplain : sep ≠ '"' := by
        rcases hsep with rfl | rfl
        · exact hquote
        · decide
      rw [List.nil_append, scan, if_neg hplain] at h
      split at h
      · obtain ⟨last, more, rows', hrows⟩ := scan_open (.of_inside (Or.inr (Or.inl rfl))) h
        refine ⟨_, more, rows', hrows, Or.inr ?_⟩
        rw [String.toList_ofList, List.reverse_cons]
        exact List.mem_append_left _ (List.mem_append_right _ List.mem_cons_self)
      · simp at h
    · have hshort : (String.ofList field.reverse).length < n := by
        rw [String.length_ofList, List.length_reverse]
        exact hlen
      rw [List.nil_append, scan_cons (by decide), if_neg fun h => nomatch h.1] at h
      by_cases hline : sep = '\n'
      · rw [if_pos hline] at h
        exact ⟨_, [], _, (congrArg Prod.fst h).symm, Or.inl hshort⟩
      · obtain rfl := hsep.resolve_right hline
        rw [if_neg hline] at h
        by_cases hreturn : sep = '\r'
        · rw [if_pos hreturn] at h
          exact ⟨_, [], _, (congrArg Prod.fst h).symm, Or.inl hshort⟩
        · rw [if_neg hreturn, if_pos rfl] at h
          obtain ⟨last, more, rows', hrows⟩ := scan_open ⟨by decide, fun _ => rfl⟩ h
          refine ⟨_, String.ofList ([].reverse ++ last) :: more, rows', ?_, Or.inl hshort⟩
          rw [hrows, List.append_assoc, List.singleton_append]
  | cons c cs ih =>
    obtain ⟨⟨hdelim, hline, hreturn⟩, hcs⟩ := List.forall_mem_cons.mp hcs
    rw [List.length_cons] at hlen
    rcases hmode with rfl | rfl
    · rw [List.cons_append, scan] at h
      split at h
      · exact ih (Or.inr rfl) hcs (by omega) h
      · split at h
        · exact ih (Or.inl rfl) hcs (by rw [List.length_cons]; omega) h
        · simp at h
    · rw [List.cons_append, scan_cons (by decide), if_neg fun h => hline h.2, if_neg hline, if_neg hreturn, if_neg hdelim,
        if_neg fun h => nomatch h.2] at h
      split at h
      · simp at h
      · split at h
        · exact ih (Or.inl rfl) hcs (by rw [List.length_cons]; omega) h
        · simp at h

/-! ## Plain fields -/

theorem scan_plains (hcs : ∀ c ∈ cs, c ≠ delimiter ∧ c ≠ '\n' ∧ c ≠ '\r') (hlen : field.length + cs.length ≤ fieldLimit) :
    scan delimiter .inField fields field (cs ++ rest) = scan delimiter .inField fields (cs.reverse ++ field) rest := by
  induction cs generalizing field with
  | nil => rfl
  | cons c cs ih =>
    obtain ⟨⟨hdelim, hline, hreturn⟩, hcs⟩ := List.forall_mem_cons.mp hcs
    rw [List.length_cons] at hlen
    rw [List.cons_append, scan_cons (by decide), if_neg fun h => hline h.2, if_neg hline, if_neg hreturn, if_neg hdelim,
      if_neg (by simp), if_neg (by simp), if_pos (by omega), if_neg (by decide), ih hcs (by rw [List.length_cons]; omega),
      List.reverse_cons, List.append_assoc, List.singleton_append]

theorem scan_long (hcs : ∀ c ∈ cs, c ≠ delimiter ∧ c ≠ '\n' ∧ c ≠ '\r') (hlen : fieldLimit < field.length + cs.length) (hfield : field.length ≤ fieldLimit) :
    (scan delimiter .inField fields field (cs ++ rest)).2 ≠ none := by
  induction cs generalizing field with
  | nil =>
    rw [List.length_nil] at hlen
    omega
  | cons c cs ih =>
    obtain ⟨⟨hdelim, hline, hreturn⟩, hcs⟩ := List.forall_mem_cons.mp hcs
    rw [List.length_cons] at hlen
    rw [List.cons_append, scan_cons (by decide), if_neg fun h => hline h.2, if_neg hline, if_neg hreturn, if_neg hdelim,
      if_neg (by simp), if_neg (by simp)]
    split
    · rw [if_neg (by decide)]
      exact ih hcs (by rw [List.length_cons]; omega) (by rw [List.length_cons]; omega)
    · simp

/-- The first character of a field. -/
theorem scan_first {c : Char} (hc : c ≠ delimiter ∧ c ≠ '\n' ∧ c ≠ '\r') :
    scan delimiter .startField fields [] (c :: cs) =
      if c = '"' then scan delimiter .inQuoted fields [] cs else scan delimiter .inField fields [c] cs := by
  rw [scan_cons (by decide), if_neg fun h => hc.2.1 h.2, if_neg hc.2.1, if_neg hc.2.2, if_neg hc.1]
  by_cases hquote : c = '"'
  · rw [if_pos hquote, if_pos ⟨hquote, Or.inr (Or.inr rfl)⟩]
  · rw [if_neg hquote, if_neg fun h => hquote h.1, if_neg fun h => nomatch h.1]
    rfl

/-- What the separators after a plain field lead to. -/
theorem scan_plain {f : String} (hf : Unbroken delimiter f) (hplain : Plain f) (hd : delimiter ≠ '\n' ∧ delimiter ≠ '\r') :
    scan delimiter .startField fields [] (f.toList ++ delimiter :: rest) = scan delimiter .startField (fields ++ [f]) [] rest ∧
      scan delimiter .startField fields [] (f.toList ++ '\n' :: rest) =
        (scan delimiter .startRecord [] [] rest).map ((fields ++ [f]) :: ·) id := by
  have hread : ∀ tail, ∃ mode, (mode = .startField ∨ mode = .inField) ∧
      scan delimiter .startField fields [] (f.toList ++ tail) = scan delimiter mode fields f.toList.reverse tail := by
    intro tail
    unfold Unbroken at hf
    rw [Plain, ← String.length_toList] at hplain
    cases hcs : f.toList with
    | nil => exact ⟨.startField, Or.inl rfl, rfl⟩
    | cons c cs =>
      rw [hcs] at hf hplain
      obtain ⟨⟨hdelim, hline, hreturn⟩, hf⟩ := List.forall_mem_cons.mp hf
      have hquote : c ≠ '"' := fun h => hplain.1 (by rw [h]; rfl)
      have hlen : [c].length + cs.length ≤ fieldLimit := by
        have := hplain.2
        rw [List.length_cons] at this
        rw [List.length_singleton]
        omega
      refine ⟨.inField, Or.inr rfl, ?_⟩
      rw [List.cons_append, scan_first ⟨hdelim, hline, hreturn⟩, if_neg hquote, scan_plains hf hlen, List.reverse_cons]
  have hname : String.ofList f.toList.reverse.reverse = f := by rw [List.reverse_reverse, String.ofList_toList]
  constructor
  · obtain ⟨mode, hmode, hscan⟩ := hread (delimiter :: rest)
    have hquoted : mode ≠ .inQuoted := by rcases hmode with rfl | rfl <;> decide
    have hreturn : mode ≠ .afterReturn := by rcases hmode with rfl | rfl <;> decide
    rw [hscan, scan_cons hquoted, if_neg fun h => hreturn h.1, if_neg hd.1, if_neg hd.2, if_pos rfl, hname]
  · obtain ⟨mode, hmode, hscan⟩ := hread ('\n' :: rest)
    have hquoted : mode ≠ .inQuoted := by rcases hmode with rfl | rfl <;> decide
    have hreturn : mode ≠ .afterReturn := by rcases hmode with rfl | rfl <;> decide
    have hend : endRecord mode fields f.toList.reverse = fields ++ [f] := by
      rcases hmode with rfl | rfl <;> exact congrArg (fun name => fields ++ [name]) hname
    rw [hscan, scan_cons hquoted, if_neg fun h => hreturn h.1, if_pos rfl, hend]

/-- A field that is not plain is not given as it is. -/
theorem scan_not_plain {f : String} {sep : Char} (hf : Unbroken delimiter f) (hplain : ¬ Plain f)
    (hsep : sep = delimiter ∨ sep = '\n') (hquote : delimiter ≠ '"')
    (h : scan delimiter .startField fields [] (f.toList ++ sep :: rest) = (rows, none)) :
    ∃ given more rows', rows = (fields ++ given :: more) :: rows' ∧ given ≠ f := by
  unfold Unbroken at hf
  rw [Plain, ← String.length_toList] at hplain
  cases hcs : f.toList with
  | nil =>
    rw [hcs] at hplain
    exact absurd ⟨by simp, by simp⟩ hplain
  | cons c cs =>
    rw [hcs] at hf hplain h
    have hsepf : sep ∉ f.toList := by
      intro hmem
      rw [hcs] at hmem
      rcases hsep with rfl | rfl
      · exact (hf _ hmem).1 rfl
      · exact (hf _ hmem).2.1 rfl
    obtain ⟨⟨hdelim, hline, hreturn⟩, hf⟩ := List.forall_mem_cons.mp hf
    rw [List.cons_append, scan_first ⟨hdelim, hline, hreturn⟩] at h
    by_cases hc : c = '"'
    · rw [if_pos hc] at h
      obtain ⟨given, more, rows', hrows, hgiven⟩ :=
        scan_quoted (n := cs.length + 1) hsep hquote (Or.inl rfl) hf (by simp) h
      refine ⟨given, more, rows', hrows, ?_⟩
      rintro rfl
      rw [← String.length_toList, hcs, List.length_cons] at hgiven
      rcases hgiven with hgiven | hgiven
      · exact absurd hgiven (Nat.lt_irrefl _)
      · exact hsepf (hcs ▸ hgiven)
    · rw [if_neg hc] at h
      have hlong : fieldLimit < [c].length + cs.length := by
        by_contra hle
        refine hplain ⟨fun h => hc (Option.some.inj h), ?_⟩
        rw [List.length_singleton] at hle
        rw [List.length_cons]
        omega
      exact absurd (congrArg Prod.snd h) (scan_long hf hlong (by rw [List.length_singleton, fieldLimit]; omega))

theorem map_eq_iff {record : List String} {scanned : List (List String) × Option String} :
    scanned.map (record :: ·) id = (record :: rows, none) ↔ scanned = (rows, none) := by
  simp [Prod.map, Prod.ext_iff]

/-- The fields of a row are given as they are when all of them are plain. -/
theorem scan_row_iff (hrow : row ≠ []) (hunbroken : ∀ f ∈ row, Unbroken delimiter f)
    (hd : delimiter ≠ '"' ∧ delimiter ≠ '\n' ∧ delimiter ≠ '\r') :
    scan delimiter .startField fields [] ([delimiter].intercalate (row.map String.toList) ++ '\n' :: rest) =
      ((fields ++ row) :: rows, none) ↔ (∀ f ∈ row, Plain f) ∧ scan delimiter .startRecord [] [] rest = (rows, none) := by
  induction row generalizing fields with
  | nil => exact absurd rfl hrow
  | cons f row ih =>
    obtain ⟨hf, hunbroken⟩ := List.forall_mem_cons.mp hunbroken
    -- a field that is not plain stands changed in its place
    have hchanged : ∀ {sep tail}, (sep = delimiter ∨ sep = '\n') → ¬ Plain f →
        scan delimiter .startField fields [] (f.toList ++ sep :: tail) ≠ ((fields ++ f :: row) :: rows, none) := by
      intro sep tail hsep hplain h
      obtain ⟨given, more, rows', hrows, hne⟩ := scan_not_plain hf hplain hsep hd.1 h
      have hfields := List.append_cancel_left (List.cons.inj hrows).1
      exact hne (List.cons.inj hfields).1.symm
    by_cases hplain : Plain f
    · cases row with
      | nil =>
        rw [List.map_singleton, List.intercalate_singleton, (scan_plain hf hplain hd.2).2, map_eq_iff]
        exact ⟨fun h => ⟨by simpa using hplain, h⟩, fun h => h.2⟩
      | cons g row =>
        have hnext := @ih (fields ++ [f]) (List.cons_ne_nil _ _) hunbroken
        rw [List.map_cons] at hnext
        rw [List.map_cons, List.map_cons, List.intercalate_cons_cons, List.append_assoc, List.append_assoc, List.singleton_append,
          (scan_plain hf hplain hd.2).1, List.forall_mem_cons, and_assoc, ← hnext, List.append_assoc, List.singleton_append]
        exact (and_iff_right hplain).symm
    · refine iff_of_false ?_ fun h => hplain (h.1 f List.mem_cons_self)
      cases row with
      | nil =>
        rw [List.map_singleton, List.intercalate_singleton]
        exact hchanged (Or.inr rfl) hplain
      | cons g row =>
        rw [List.map_cons, List.map_cons, List.intercalate_cons_cons, List.append_assoc, List.append_assoc, List.singleton_append]
        exact hchanged (Or.inl rfl) hplain

theorem scan_startRecord {c : Char} (hc : c ≠ '\n' ∧ c ≠ '\r') :
    scan delimiter .startRecord [] [] (c :: cs) = scan delimiter .startField [] [] (c :: cs) := by
  rw [scan_cons (by decide), scan_cons (by decide)]
  simp only [hc.1, hc.2, and_false, if_false, reduceCtorEq, or_false, false_or, and_true, false_and]

/-- **Rows of a text without quoting.** They are read as they are when their
fields are plain, and only then. -/
theorem reader_export_iff (hrows : ∀ row ∈ rows, 2 ≤ row.length) (hunbroken : ∀ row ∈ rows, ∀ f ∈ row, Unbroken delimiter f)
    (hd : delimiter ≠ '"' ∧ delimiter ≠ '\n' ∧ delimiter ≠ '\r') :
    reader delimiter (exportText delimiter rows) = (rows, none) ↔ ∀ row ∈ rows, ∀ f ∈ row, Plain f := by
  unfold reader exportText
  rw [String.toList_ofList]
  induction rows with
  | nil => exact ⟨fun _ row hrow => absurd hrow List.not_mem_nil, fun _ => rfl⟩
  | cons row rows ih =>
    obtain ⟨hrow, hrows⟩ := List.forall_mem_cons.mp hrows
    obtain ⟨hfields, hunbroken⟩ := List.forall_mem_cons.mp hunbroken
    rw [List.flatMap_cons, List.append_assoc, List.singleton_append, List.forall_mem_cons, ← ih hrows hunbroken]
    have hne : row ≠ [] := by
      rintro rfl
      simp at hrow
    rw [← @scan_row_iff delimiter [] row _ _ hne hfields hd, List.nil_append]
    -- the row begins with a character of its first field, or with the delimiter
    have hfirst : ∃ c cs, c ≠ '\n' ∧ c ≠ '\r' ∧ ∀ tail, [delimiter].intercalate (row.map String.toList) ++ tail = c :: (cs ++ tail) := by
      cases row with
      | nil => exact absurd rfl hne
      | cons f row =>
        cases row with
        | nil => simp at hrow
        | cons g row =>
          rw [List.map_cons, List.map_cons, List.intercalate_cons_cons]
          cases hcs : f.toList with
          | nil => exact ⟨delimiter, _, hd.2.1, hd.2.2, fun tail => rfl⟩
          | cons c cs =>
            have hc := hfields f List.mem_cons_self c (hcs ▸ List.mem_cons_self)
            exact ⟨c, _, hc.2.1, hc.2.2, fun tail => rfl⟩
    obtain ⟨c, cs, hline, hreturn, hshape⟩ := hfirst
    rw [hshape, scan_startRecord ⟨hline, hreturn⟩]

end

end Tsv
