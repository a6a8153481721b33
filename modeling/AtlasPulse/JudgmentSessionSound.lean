import AtlasPulse.JudgmentSession
import AtlasPulse.JudgmentSheetsSound

/-!
# Soundness of judgment sessions

Every save of a session decides one pending row and leaves the others as they
were. What is saved is read back as the same rows; whether the rows are accepted
again is settled by the rationale, which the quote before a formula can make too
long for the reader.
-/

namespace AtlasPulse.JudgmentSession

open PyJson PyTime Binary64 RetrievalAdjudication JudgmentSheets

/-! ## Saves -/

section
variable {k : SessionKind} {casefold : String → String} {rows : List (List String)}

/-- A decision on a pending row, and what it saves. -/
structure Decides (k : SessionKind) (rows : List (List String)) (s : Save) : Prop where
  pending : (rows[s.index]?).any k.isPending = true
  grade : s.grade ∈ ["0", "1", "2", "3"]
  normal : normalizeText s.rationale = s.rationale
  least : k.leastRationale ≤ s.rationale.length
  most : s.rationale.length ≤ 1000
  saved : s.rows = rows.modify s.index (k.decide s.grade s.rationale)
  content : s.content = k.render s.rows

/-- The saves of a session, each on the rows that the one before has saved. -/
inductive Trace (k : SessionKind) : List (List String) → List Save → Prop
  | nil {rows : List (List String)} : Trace k rows []
  | cons {rows : List (List String)} {s : Save} {saves : List Save} : Decides k rows s → Trace k s.rows saves → Trace k rows (s :: saves)

theorem choice_grade {text answer : String} (h : choice? casefold text = some (.grade answer)) : answer ∈ ["0", "1", "2", "3"] := by
  unfold choice? at h
  dsimp only at h
  by_cases hq : casefold (strip text) = "q"
  · rw [if_pos hq] at h
    cases h
  rw [if_neg hq] at h
  by_cases hs : casefold (strip text) = "s"
  · rw [if_pos hs] at h
    cases h
  rw [if_neg hs] at h
  by_cases hr : casefold (strip text) = "?"
  · rw [if_pos hr] at h
    cases h
  rw [if_neg hr] at h
  by_cases hg : casefold (strip text) ∉ ["0", "1", "2", "3"]
  · rw [if_pos hg] at h
    cases h
  rw [if_neg hg] at h
  have heq : casefold (strip text) = answer := Choice.grade.inj (Option.some.inj h)
  rw [← heq]
  exact not_not.mp hg

theorem askGrade_grade : ∀ {inputs rest : List Input} {answer : String},
    askGrade casefold inputs = some (.grade answer, rest) → answer ∈ ["0", "1", "2", "3"]
  | [], _, _, h => by cases h
  | .interrupt :: _, _, _, h => by cases h
  | .line text :: inputs, _, _, h => by
    rw [askGrade] at h
    cases hchoice : choice? casefold text with
    | none =>
      simp only [hchoice] at h
      exact askGrade_grade h
    | some choice =>
      simp only [hchoice, Option.some.injEq, Prod.mk.injEq] at h
      obtain ⟨rfl, -⟩ := h
      exact choice_grade hchoice

theorem askRationale_ok : ∀ {inputs rest : List Input} {rationale : String}, k.askRationale inputs = some (rationale, rest) →
    normalizeText rationale = rationale ∧ k.leastRationale ≤ rationale.length ∧ rationale.length ≤ 1000
  | [], _, _, h => by cases h
  | .interrupt :: _, _, _, h => by cases h
  | .line text :: inputs, _, _, h => by
    rw [SessionKind.askRationale] at h
    by_cases hfits : k.leastRationale ≤ (normalizeText text).length ∧ (normalizeText text).length ≤ 1000
    · rw [if_pos hfits] at h
      obtain ⟨rfl, -⟩ := Prod.mk.inj (Option.some.inj h)
      exact ⟨normalizeText_idem text, hfits⟩
    · rw [if_neg hfits] at h
      exact askRationale_ok h

/-- What a turn does: nothing to the rows, or one save. -/
theorem turn_cases (s : SessionState) {index : Nat} (hpending : (s.rows[index]?).any k.isPending = true) :
    (turn k casefold s index).1.rows = s.rows ∧ (turn k casefold s index).1.saves = s.saves ∨
      ∃ save, save.index = index ∧ Decides k s.rows save ∧ (turn k casefold s index).1.rows = save.rows ∧
        (turn k casefold s index).1.saves = s.saves ++ [save] := by
  unfold turn
  cases hgrade : askGrade casefold s.inputs with
  | none => exact .inl ⟨rfl, rfl⟩
  | some answered =>
    obtain ⟨choice, inputs⟩ := answered
    cases choice with
    | quit => exact .inl ⟨rfl, rfl⟩
    | skip => exact .inl ⟨rfl, rfl⟩
    | grade answer =>
      dsimp only
      cases hrationale : k.askRationale inputs with
      | none => exact .inl ⟨rfl, rfl⟩
      | some entered =>
        obtain ⟨rationale, rest⟩ := entered
        obtain ⟨hnormal, hleast, hmost⟩ := askRationale_ok hrationale
        let rows := s.rows.modify index (k.decide answer rationale)
        refine .inr ⟨⟨index, answer, rationale, rows, k.render rows⟩, rfl, ?_, rfl, rfl⟩
        exact ⟨hpending, askGrade_grade hgrade, hnormal, hleast, hmost, rfl, rfl⟩

theorem Decides.getElem_ne {s : Save} (h : Decides k rows s) {i : Nat} (hi : i ≠ s.index) : s.rows[i]? = rows[i]? := by
  rw [h.saved, List.getElem?_modify]
  simp only [if_neg (Ne.symm hi), Option.map_eq_map, Option.map_id']

theorem turns_trace : ∀ (indices : List Nat) (s : SessionState), indices.Nodup →
    (∀ i ∈ indices, (s.rows[i]?).any k.isPending = true) →
    ∃ saves, (turns k casefold s indices).1.saves = s.saves ++ saves ∧ Trace k s.rows saves
  | [], s, _, _ => ⟨[], (List.append_nil _).symm, .nil⟩
  | index :: indices, s, hnodup, hpending => by
    obtain ⟨hfresh, hrest⟩ := List.nodup_cons.mp hnodup
    obtain ⟨hindex, hindices⟩ := List.forall_mem_cons.mp hpending
    have hturn := @turn_cases k casefold s _ hindex
    rw [turns]
    obtain ⟨⟨s', more⟩, hs'⟩ : ∃ out, turn k casefold s index = out := ⟨_, rfl⟩
    rw [hs'] at hturn ⊢
    obtain ⟨hrows, hsaves⟩ | ⟨save, rfl, hdecides, hrows, hsaves⟩ := hturn
    · cases more with
      | false => exact ⟨[], by rw [List.append_nil]; exact hsaves, .nil⟩
      | true =>
        obtain ⟨saves, hall, htrace⟩ := turns_trace indices s' hrest (by rw [hrows]; exact hindices)
        rw [hsaves] at hall
        rw [hrows] at htrace
        exact ⟨saves, hall, htrace⟩
    · cases more with
      | false => exact ⟨[save], hsaves, .cons hdecides .nil⟩
      | true =>
        have hstill : ∀ i ∈ indices, (s'.rows[i]?).any k.isPending = true := by
          intro i hi
          have hne : i ≠ save.index := fun heq => hfresh (heq ▸ hi)
          rw [hrows, hdecides.getElem_ne hne]
          exact hindices i hi
        obtain ⟨saves, hall, htrace⟩ := turns_trace indices s' hrest hstill
        rw [hsaves, List.append_assoc, List.singleton_append] at hall
        rw [hrows] at htrace
        exact ⟨save :: saves, hall, .cons hdecides htrace⟩

theorem runSession_trace {inputs : List Input} {progress : JudgmentProgress} {saves : List Save}
    (h : runSession k casefold rows inputs = (progress, saves)) : Trace k rows saves := by
  have hpending : ∀ i ∈ k.pendingIndices rows, (rows[i]?).any k.isPending = true := fun i hi => (List.mem_filter.mp hi).2
  obtain ⟨saves', hsaves, htrace⟩ := @turns_trace k casefold (k.pendingIndices rows) ⟨rows, [], inputs⟩
    (List.nodup_range.filter _) hpending
  have heq : saves' = saves := hsaves.symm.trans (congrArg Prod.snd h)
  rwa [← heq]

/-! ## Files -/

/-- The columns of a sheet, with those that a session fills. -/
structure Columns (k : SessionKind) : Prop where
  graded : k.gradeColumn ∈ k.columns
  explained : k.rationaleColumn ∈ k.columns
  apart : k.gradeColumn ≠ k.rationaleColumn
  names : ∀ name ∈ k.columns, name.length ≤ Csv.fieldLimit ∧ '\r' ∉ name.toList

theorem judgmentKind_columns : Columns judgmentKind := ⟨by decide, by decide, by decide, by decide⟩

theorem adjudicationKind_columns : Columns adjudicationKind := ⟨by decide, by decide, by decide, by decide⟩

/-- A row that is read back as it is written. -/
structure Writable (k : SessionKind) (row : List String) : Prop where
  width : row.length = k.columns.length
  fields : ∀ field ∈ row, field.length ≤ Csv.fieldLimit ∧ '\r' ∉ field.toList

theorem newlines_of_not_mem : ∀ {cs : List Char}, '\r' ∉ cs → universalNewlines.newlines cs = cs
  | [], _ => rfl
  | c :: cs, h => by
    rw [List.mem_cons, not_or] at h
    rw [universalNewlines.newlines, newlines_of_not_mem h.2]
    · rintro rest rfl -
      exact h.1 rfl
    · rintro rfl
      exact h.1 rfl

theorem not_mem_newlines : ∀ cs : List Char, '\r' ∉ universalNewlines.newlines cs := by
  intro cs
  induction cs using universalNewlines.newlines.induct with
  | case1 => exact List.not_mem_nil
  | case2 cs ih =>
    rw [universalNewlines.newlines, List.mem_cons, not_or]
    exact ⟨by decide, ih⟩
  | case3 cs hnext ih =>
    rw [universalNewlines.newlines, List.mem_cons, not_or]
    · exact ⟨by decide, ih⟩
    · exact hnext
  | case4 c cs hpair hreturn ih =>
    rw [universalNewlines.newlines, List.mem_cons, not_or]
    · exact ⟨fun h => hreturn h.symm, ih⟩
    · exact hpair
    · exact hreturn

theorem writable_of_read {text : String} {columns : List String} (h : Csv.dictReader (universalNewlines text) = .ok ⟨columns, rows⟩)
    (hwidth : ∀ row ∈ rows, row.length = k.columns.length) : ∀ row ∈ rows, Writable k row := by
  intro row hrow
  refine ⟨hwidth row hrow, fun field hfield => ?_⟩
  obtain ⟨hlength, hchars⟩ := (Csv.fieldOf_dictReader h row hrow).2 field hfield
  refine ⟨hlength, fun hreturn => ?_⟩
  have hmem := hchars _ hreturn
  rw [universalNewlines, String.toList_ofList] at hmem
  exact not_mem_newlines _ hmem

/-- **Round trip.** A saved file is read back as the rows that it holds. -/
theorem render_read (hk : Columns k) (hrows : ∀ row ∈ rows, Writable k row) :
    universalNewlines (k.render rows) = k.render rows ∧ Csv.dictReader (k.render rows) = .ok ⟨k.columns, rows⟩ := by
  have hreturn : '\r' ∉ (k.render rows).toList := by
    intro h
    rcases Csv.mem_write h with h | h | h | ⟨row, hrow, field, hfield, h⟩
    · exact absurd h (by decide)
    · exact absurd h (by decide)
    · exact absurd h (by decide)
    · rcases List.mem_cons.mp hrow with rfl | hrow
      · exact (hk.names field hfield).2 h
      · exact ((hrows row hrow).fields field hfield).2 h
  constructor
  · rw [universalNewlines, newlines_of_not_mem hreturn, String.ofList_toList]
  · refine Csv.dictReader_write (fun name hname => (hk.names name hname).1) (fun row hrow hnil => ?_)
      fun row hrow field hfield => ((hrows row hrow).fields field hfield).1
    have hwidth := (hrows row hrow).width
    rw [hnil] at hwidth
    exact List.ne_nil_of_mem hk.graded (List.length_eq_zero_iff.mp hwidth.symm)

/-! ## Rows -/

variable {row : List String} {answer rationale : String}

theorem width_decide (h : row.length = k.columns.length) : (k.decide answer rationale row).length = k.columns.length :=
  Csv.length_setCell (Csv.length_setCell h)

theorem cell_decide_ne {name : String} (h : row.length = k.columns.length) (hgrade : name ≠ k.gradeColumn) (hrationale : name ≠ k.rationaleColumn) :
    k.cell (k.decide answer rationale row) name = k.cell row name := by
  unfold SessionKind.cell SessionKind.decide
  rw [Csv.cell_setCell_ne (Csv.length_setCell h) hrationale, Csv.cell_setCell_ne h hgrade]

theorem cell_decide_grade (hk : Columns k) (h : row.length = k.columns.length) :
    k.cell (k.decide answer rationale row) k.gradeColumn = answer := by
  unfold SessionKind.cell SessionKind.decide
  rw [Csv.cell_setCell_ne (Csv.length_setCell h) hk.apart, Csv.cell_setCell_self h hk.graded]
  rfl

theorem cell_decide_rationale (hk : Columns k) (h : row.length = k.columns.length) :
    k.cell (k.decide answer rationale row) k.rationaleColumn = spreadsheetSafeText rationale := by
  unfold SessionKind.cell SessionKind.decide
  rw [Csv.cell_setCell_self (Csv.length_setCell h) hk.explained]
  rfl

theorem grade_plain (h : answer ∈ ["0", "1", "2", "3"]) :
    strip answer ≠ "" ∧ answer.length ≤ Csv.fieldLimit ∧ '\r' ∉ answer.toList := by
  simp only [List.mem_cons, List.not_mem_nil, or_false] at h
  rcases h with rfl | rfl | rfl | rfl
  all_goals decide

theorem safeText_writable (hnormal : normalizeText rationale = rationale) (hmost : rationale.length ≤ 1000) :
    (spreadsheetSafeText rationale).length ≤ Csv.fieldLimit ∧ '\r' ∉ (spreadsheetSafeText rationale).toList := by
  constructor
  · rw [length_safeText, Csv.fieldLimit]
    split <;> omega
  · intro h
    have hspace := not_space_of_normal (safeText_normal hnormal) _ h (by decide)
    exact absurd hspace (by decide)

theorem writable_decide (hrow : Writable k row) (hgrade : answer ∈ ["0", "1", "2", "3"]) (hnormal : normalizeText rationale = rationale)
    (hmost : rationale.length ≤ 1000) : Writable k (k.decide answer rationale row) := by
  refine ⟨width_decide hrow.width, fun field hfield => ?_⟩
  rcases Csv.mem_setCell hfield with rfl | hfield
  · exact safeText_writable hnormal hmost
  · rcases Csv.mem_setCell hfield with rfl | hfield
    · exact (grade_plain hgrade).2
    · exact hrow.fields field hfield

theorem Decides.mem {s : Save} (h : Decides k rows s) : ∃ row ∈ rows, k.isPending row = true ∧
    k.decide s.grade s.rationale row ∈ s.rows ∧ s.rows[s.index]? = some (k.decide s.grade s.rationale row) ∧
      ∀ row' ∈ s.rows, row' ∈ rows ∨ row' = k.decide s.grade s.rationale row := by
  obtain ⟨row, hrow, hpending⟩ := (Option.any_eq_true _ _).mp h.pending
  have hsaved : s.rows[s.index]? = some (k.decide s.grade s.rationale row) := by
    rw [h.saved, List.getElem?_modify, hrow]
    exact congrArg some (if_pos rfl)
  refine ⟨row, List.mem_of_getElem? hrow, hpending, List.mem_of_getElem? hsaved, hsaved, fun row' hrow' => ?_⟩
  obtain ⟨i, hi⟩ := List.mem_iff_getElem?.mp hrow'
  by_cases hindex : i = s.index
  · rw [hindex, hsaved] at hi
    exact .inr (Option.some.inj hi).symm
  · rw [h.getElem_ne hindex] at hi
    exact .inl (List.mem_of_getElem? hi)

theorem Decides.writable {s : Save} (h : Decides k rows s) (hrows : ∀ row ∈ rows, Writable k row) : ∀ row ∈ s.rows, Writable k row := by
  obtain ⟨row, hrow, -, -, -, hcases⟩ := h.mem
  intro row' hrow'
  rcases hcases row' hrow' with hmem | rfl
  · exact hrows row' hmem
  · exact writable_decide (hrows row hrow) h.grade h.normal h.most

/-! ## Readers -/

/-- How the rows of a sheet are read: each under its key, in the frame that the
pool gives it, with a grade and a rationale that are accepted. -/
structure Reading (k : SessionKind) where
  key : List String → JudgmentKey
  covers : List JudgmentKey → Prop
  framed : List String → Prop
  accepts : Bool → String → String → Prop
  width : ∀ {row}, framed row → row.length = k.columns.length
  decide_framed : ∀ {row} (answer rationale), framed row →
    framed (k.decide answer rationale row) ∧ key (k.decide answer rationale row) = key row
  accepts_decided : ∀ {answer rationale}, answer ∈ ["0", "1", "2", "3"] → normalizeText rationale = rationale →
    k.leastRationale ≤ rationale.length → (accepts false answer (spreadsheetSafeText rationale) ↔ (spreadsheetSafeText rationale).length ≤ 1000)
  accepts_complete : ∀ {answer rationale}, accepts false answer rationale → strip answer ≠ "" → accepts true answer rationale

structure Reading.Accepts (R : Reading k) (complete : Bool) (rows : List (List String)) : Prop where
  nodup : (rows.map R.key).Nodup
  covered : R.covers (rows.map R.key)
  rows : ∀ row ∈ rows, R.framed row ∧ R.accepts complete (k.cell row k.gradeColumn) (k.cell row k.rationaleColumn)

/-- A rationale that is not too long behind the quote. -/
def Fits (rationale : String) : Prop := (spreadsheetSafeText rationale).length ≤ 1000

instance (rationale : String) : Decidable (Fits rationale) := inferInstanceAs (Decidable (_ ≤ _))

variable {R : Reading k}

theorem Decides.keys {s : Save} (h : Decides k rows s) (hrows : ∀ row ∈ rows, R.framed row) : s.rows.map R.key = rows.map R.key := by
  rw [h.saved]
  refine List.ext_getElem? fun i => ?_
  rw [List.getElem?_map, List.getElem?_map, List.getElem?_modify]
  cases hrow : rows[i]? with
  | none => rfl
  | some row =>
    have hkey := (R.decide_framed s.grade s.rationale (hrows row (List.mem_of_getElem? hrow))).2
    by_cases hindex : s.index = i
    · simp only [if_pos hindex, Option.map_eq_map, Option.map_some, hkey]
    · simp only [if_neg hindex, Option.map_eq_map, Option.map_some]

/-- A save is accepted again if its rationale fits. -/
theorem Decides.accepts_iff {s : Save} (hk : Columns k) (h : Decides k rows s) (hrows : R.Accepts false rows) :
    R.Accepts false s.rows ↔ Fits s.rationale := by
  obtain ⟨row, hrow, -, hmem, -, hcases⟩ := h.mem
  have hframed := (hrows.rows row hrow).1
  have hcell : R.accepts false (k.cell (k.decide s.grade s.rationale row) k.gradeColumn)
      (k.cell (k.decide s.grade s.rationale row) k.rationaleColumn) ↔ Fits s.rationale := by
    rw [cell_decide_grade hk (R.width hframed), cell_decide_rationale hk (R.width hframed)]
    exact R.accepts_decided h.grade h.normal h.least
  constructor
  · intro hsaved
    exact hcell.mp (hsaved.rows _ hmem).2
  · intro hfits
    have hkeys := h.keys fun row hrow => (hrows.rows row hrow).1
    refine ⟨hkeys ▸ hrows.nodup, hkeys ▸ hrows.covered, fun row' hrow' => ?_⟩
    rcases hcases row' hrow' with hold | rfl
    · exact hrows.rows row' hold
    · exact ⟨(R.decide_framed _ _ hframed).1, hcell.mpr hfits⟩

theorem Trace.accepts_iff (hk : Columns k) {saves : List Save} (h : Trace k rows saves) (hrows : R.Accepts false rows) :
    (∀ s ∈ saves, R.Accepts false s.rows) ↔ ∀ s ∈ saves, Fits s.rationale := by
  induction h with
  | nil => exact iff_of_true (fun s hs => absurd hs List.not_mem_nil) fun s hs => absurd hs List.not_mem_nil
  | cons hdecides _ ih =>
    have hsave := hdecides.accepts_iff hk hrows
    rw [List.forall_mem_cons, List.forall_mem_cons, hsave]
    exact and_congr_right fun hfits => ih (hsave.mpr hfits)

theorem Trace.writable {saves : List Save} (h : Trace k rows saves) (hrows : ∀ row ∈ rows, Writable k row) :
    ∀ s ∈ saves, (∀ row ∈ s.rows, Writable k row) ∧ s.content = k.render s.rows := by
  induction h with
  | nil => exact fun s hs => absurd hs List.not_mem_nil
  | cons hdecides _ ih =>
    have hsaved := hdecides.writable hrows
    exact List.forall_mem_cons.mpr ⟨⟨hsaved, hdecides.content⟩, ih hsaved⟩

theorem Trace.reread (hk : Columns k) {saves : List Save} (h : Trace k rows saves) (hrows : ∀ row ∈ rows, Writable k row) :
    ∀ s ∈ saves, Csv.dictReader (universalNewlines s.content) = .ok ⟨k.columns, s.rows⟩ := by
  intro s hs
  obtain ⟨hsaved, hcontent⟩ := h.writable hrows s hs
  obtain ⟨hplain, hread⟩ := render_read hk hsaved
  rw [hcontent, hplain, hread]

/-! ## Earlier grades -/

/-- The graded rows are the same later on. -/
def KeepsGrades (k : SessionKind) (earlier later : List (List String)) : Prop :=
  ∀ (i : Nat) (row : List String), earlier[i]? = some row → k.isPending row = false → later[i]? = some row

theorem Decides.keeps {s : Save} (h : Decides k rows s) : KeepsGrades k rows s.rows := by
  intro i row hrow hgraded
  have hne : i ≠ s.index := by
    rintro rfl
    have hpending := h.pending
    rw [hrow, Option.any_some, hgraded] at hpending
    cases hpending
  rw [h.getElem_ne hne, hrow]

theorem Trace.keeps {saves : List Save} (h : Trace k rows saves) : (rows :: saves.map Save.rows).Pairwise (KeepsGrades k) := by
  induction h with
  | nil => exact List.pairwise_singleton _ _
  | cons hdecides _ ih =>
    have hkeeps := hdecides.keeps
    rw [List.map_cons, List.pairwise_cons]
    refine ⟨List.forall_mem_cons.mpr ⟨hkeeps, fun later hlater => ?_⟩, ih⟩
    intro i row hrow hgraded
    exact (List.pairwise_cons.mp ih).1 later hlater i row (hkeeps i row hrow hgraded) hgraded

/-- The row of a save shows what was entered. -/
def Shows (k : SessionKind) (s : Save) : Prop :=
  ∃ row, s.rows[s.index]? = some row ∧ k.cell row k.gradeColumn = s.grade ∧ k.cell row k.rationaleColumn = spreadsheetSafeText s.rationale

theorem Trace.shows (hk : Columns k) {saves : List Save} (h : Trace k rows saves) (hrows : ∀ row ∈ rows, Writable k row) :
    ∀ s ∈ saves, Shows k s := by
  induction h with
  | nil => exact fun s hs => absurd hs List.not_mem_nil
  | cons hdecides _ ih =>
    obtain ⟨row, hrow, -, -, hsaved, -⟩ := hdecides.mem
    have hwidth := (hrows row hrow).width
    refine List.forall_mem_cons.mpr ⟨⟨_, hsaved, cell_decide_grade hk hwidth, cell_decide_rationale hk hwidth⟩, ?_⟩
    exact ih (hdecides.writable hrows)

end

/-! ## Judgment sheets -/

section
variable {F : Type} {m : PoolModel F}

theorem grade_parsed {answer : String} (h : answer ∈ ["0", "1", "2", "3"]) :
    (∃ grade, parseGrade false "" answer = .ok (some grade)) ∧ ∃ grade, parseRelevance false "" answer = .ok (some grade) := by
  simp only [List.mem_cons, List.not_mem_nil, or_false] at h
  rcases h with rfl | rfl | rfl | rfl
  · exact ⟨⟨0, by decide⟩, 0, by decide⟩
  · exact ⟨⟨1, by decide⟩, 1, by decide⟩
  · exact ⟨⟨2, by decide⟩, 2, by decide⟩
  · exact ⟨⟨3, by decide⟩, 3, by decide⟩

theorem rationaleOf_safe {rationale : String} (h : normalizeText rationale = rationale) :
    (rationaleOf (spreadsheetSafeText rationale)).all (·.length ≤ 1000) = true ↔ (spreadsheetSafeText rationale).length ≤ 1000 := by
  unfold rationaleOf
  rw [safeText_normal h]
  by_cases hblank : spreadsheetSafeText rationale = ""
  · rw [if_pos hblank, hblank]
    exact iff_of_true rfl (Nat.zero_le _)
  · rw [if_neg hblank, Option.all_some, decide_eq_true_eq]

/-- A row of a candidate with its metadata as they are. -/
def FramedJudgment (pool : CandidatePool m) (row : List String) : Prop :=
  row.length = judgmentColumns.length ∧ ∃ queryText candidate,
    PyDict.get (expectedCandidates pool) (judgmentKey row) = some (queryText, candidate) ∧
      ∀ field ∈ judgmentMetadata (judgmentKey row).1 queryText candidate.toCandidateEvidence, judgmentCell row field.1 = field.2

theorem metadata_columns {queryId queryText : String} {candidate : CandidateEvidence} {field : String × String}
    (h : field ∈ judgmentMetadata queryId queryText candidate) : field.1 ≠ "relevance_0_to_3" ∧ field.1 ≠ "rationale" ∧
      field.1 ≠ "adjudicated_relevance_0_to_3" ∧ field.1 ≠ "adjudication_rationale" := by
  have hname := List.mem_map_of_mem (f := Prod.fst) h
  have hnames : ∀ name ∈ (judgmentMetadata queryId queryText candidate).map Prod.fst, name ≠ "relevance_0_to_3" ∧ name ≠ "rationale" ∧
      name ≠ "adjudicated_relevance_0_to_3" ∧ name ≠ "adjudication_rationale" := by
    unfold judgmentMetadata
    simp only [List.map_cons, List.map_nil]
    decide
  exact hnames field.1 hname

/-- The rows of a judgment sheet. -/
def judgmentReading (pool : CandidatePool m) : Reading judgmentKind where
  key := judgmentKey
  covers keys := ∀ key ∈ (expectedCandidates pool).map Prod.fst, key ∈ keys
  framed := FramedJudgment pool
  accepts complete answer rationale :=
    (∃ grade, parseGrade complete "" answer = .ok grade) ∧ (rationaleOf rationale).all (·.length ≤ 1000) = true
  width h := h.1
  decide_framed {row} answer rationale h := by
    obtain ⟨hwidth, queryText, candidate, hget, hsame⟩ := h
    have hcell : ∀ name, name ≠ "relevance_0_to_3" → name ≠ "rationale" →
        judgmentCell (judgmentKind.decide answer rationale row) name = judgmentCell row name := fun name => cell_decide_ne (k := judgmentKind) hwidth
    have hkey : judgmentKey (judgmentKind.decide answer rationale row) = judgmentKey row :=
      Prod.ext (hcell _ (by decide) (by decide)) (hcell _ (by decide) (by decide))
    refine ⟨⟨width_decide (k := judgmentKind) hwidth, queryText, candidate, by rw [hkey, hget], fun field hfield => ?_⟩, hkey⟩
    rw [hkey] at hfield
    obtain ⟨hgrade, hrationale, -⟩ := metadata_columns hfield
    rw [hcell _ hgrade hrationale]
    exact hsame field hfield
  accepts_decided hanswer hnormal _ := by
    obtain ⟨⟨grade, hgrade⟩, -⟩ := grade_parsed hanswer
    rw [rationaleOf_safe hnormal]
    exact and_iff_right ⟨_, hgrade⟩
  accepts_complete := by
    rintro answer rationale ⟨⟨grade, hgrade⟩, hshort⟩ hblank
    refine ⟨⟨grade, ?_⟩, hshort⟩
    unfold parseGrade at hgrade ⊢
    rwa [if_neg fun h => hblank h.1] at hgrade ⊢

theorem parseJudgmentRows_iff {pool : CandidatePool m} {text : String} {complete : Bool} {rows : List (List String)} :
    (∃ grades, parseJudgmentRows pool text complete = .ok (rows, grades)) ↔
      Csv.dictReader text = .ok ⟨judgmentColumns, rows⟩ ∧ (judgmentReading pool).Accepts complete rows := by
  have hrow : ∀ row, (∃ value, Gives pool complete row (judgmentKey row) value) ↔ (judgmentReading pool).framed row ∧
      (judgmentReading pool).accepts complete (judgmentKind.cell row judgmentKind.gradeColumn)
        (judgmentKind.cell row judgmentKind.rationaleColumn) := by
    intro row
    constructor
    · rintro ⟨value, hwidth, -, hknown, hgrade, hrationale, hshort⟩
      exact ⟨⟨hwidth, hknown⟩, ⟨_, hgrade⟩, hrationale ▸ hshort⟩
    · rintro ⟨⟨hwidth, hknown⟩, ⟨grade, hgrade⟩, hshort⟩
      exact ⟨(grade, _), hwidth, rfl, hknown, hgrade, rfl, hshort⟩
  have hitems := Keyed.exists_items_iff judgmentKey (judgmentReading pool).covers rows
    fun row key value (h : Gives pool complete row key value) => h.named.symm
  simp only [parseJudgmentRows_ok, exists_and_left]
  refine and_congr_right fun _ => hitems.trans ?_
  simp only [hrow]
  exact ⟨fun h => ⟨h.1, h.2.1, h.2.2⟩, fun h => ⟨h.nodup, h.covered, h.rows⟩⟩

/-! ## Adjudication sheets -/

variable [DecidableEq F]

/-- A row of a disagreement with its protected fields as they are. -/
def FramedDisagreement (m : PoolModel F) (report : AgreementReport) (candidates : List (JudgmentKey × EvaluationQuery F × PooledCandidate))
    (row : List String) : Prop :=
  row.length = adjudicationColumns.length ∧ ∃ d query candidate,
    PyDict.get (PyDict.ofItems (report.disagreements.map fun d => (d.key, d))) (rowKey row) = some d ∧
      PyDict.get candidates (rowKey row) = some (query, candidate) ∧
      ∀ field ∈ protectedAdjudicationFields (m := m) report d query candidate, cellOf row field.1 = field.2

omit [DecidableEq F] in
theorem protected_columns {report : AgreementReport} {d : Disagreement} {query : EvaluationQuery F} {candidate : PooledCandidate}
    {field : String × String} (h : field ∈ protectedAdjudicationFields (m := m) report d query candidate) :
    field.1 ≠ "adjudicated_relevance_0_to_3" ∧ field.1 ≠ "adjudication_rationale" := by
  rcases List.mem_append.mp h with h | h
  · exact (metadata_columns h).2.2
  · have hname := List.mem_map_of_mem (f := Prod.fst) h
    have hnames : ∀ name ∈ (reviewValues (m := m) report d).map Prod.fst,
        name ≠ "adjudicated_relevance_0_to_3" ∧ name ≠ "adjudication_rationale" := by
      unfold reviewValues
      simp only [List.map_cons, List.map_nil]
      decide
    exact hnames field.1 hname

/-- The rows of an adjudication sheet. -/
def adjudicationReading (m : PoolModel F) (report : AgreementReport)
    (candidates : List (JudgmentKey × EvaluationQuery F × PooledCandidate)) : Reading adjudicationKind where
  key := rowKey
  covers keys := ∀ d ∈ report.disagreements, d.key ∈ keys
  framed := FramedDisagreement m report candidates
  accepts complete answer rationale :=
    ∃ grade, parseRelevance complete "" answer = .ok grade ∧ ∃ explained, parseRationale "" grade rationale = .ok explained
  width h := h.1
  decide_framed {row} answer rationale h := by
    obtain ⟨hwidth, d, query, candidate, hd, hget, hsame⟩ := h
    have hcell : ∀ name, name ≠ "adjudicated_relevance_0_to_3" → name ≠ "adjudication_rationale" →
        cellOf (adjudicationKind.decide answer rationale row) name = cellOf row name := fun name => cell_decide_ne (k := adjudicationKind) hwidth
    have hkey : rowKey (adjudicationKind.decide answer rationale row) = rowKey row :=
      Prod.ext (hcell _ (by decide) (by decide)) (hcell _ (by decide) (by decide))
    refine ⟨⟨width_decide (k := adjudicationKind) hwidth, d, query, candidate, by rw [hkey, hd], by rw [hkey, hget], fun field hfield => ?_⟩,
      hkey⟩
    obtain ⟨hgrade, hrationale⟩ := protected_columns hfield
    rw [hcell _ hgrade hrationale]
    exact hsame field hfield
  accepts_decided {answer rationale} hanswer hnormal hleast := by
    obtain ⟨-, grade, hgrade⟩ := grade_parsed hanswer
    have hlong : 10 ≤ (spreadsheetSafeText rationale).length := by
      rw [length_safeText]
      exact Nat.le_add_right_of_le hleast
    have hne : spreadsheetSafeText rationale ≠ "" := by
      intro hblank
      rw [hblank] at hlong
      exact absurd hlong (by decide)
    have hrationale : (∃ explained, parseRationale "" (some grade) (spreadsheetSafeText rationale) = .ok explained) ↔
        (spreadsheetSafeText rationale).length ≤ 1000 := by
      simp only [parseRationale_ok, exists_eq_left', safeText_normal hnormal, if_neg hne, Option.isSome_some, Bool.true_or,
        Option.isNone_some, Bool.false_or, Option.any_some, Option.all_some, decide_eq_true_eq, hlong, true_and]
    rw [← hrationale]
    constructor
    · rintro ⟨grade', hgrade', h⟩
      rw [hgrade] at hgrade'
      rwa [← Except.ok.inj hgrade'] at h
    · exact fun h => ⟨_, hgrade, h⟩
  accepts_complete := by
    rintro answer rationale ⟨grade, hgrade, h⟩ hblank
    refine ⟨grade, ?_, h⟩
    unfold parseRelevance at hgrade ⊢
    rwa [if_neg fun h => hblank h.1] at hgrade ⊢

theorem validate_clock {casefold : String → String} {report : AgreementReport} {now : Datetime}
    (h : report.validate casefold = .ok ()) (haware : now.utcoffset.isSome = true) :
    ({ report with generatedAt := now } : AgreementReport).validate casefold = .ok () := by
  unfold AgreementReport.validate at h ⊢
  simp only [bind_ok, exists_unit, check_eq_ok] at h ⊢
  obtain ⟨hid, hhash, hfirst, hsecond, -, hrest⟩ := h
  exact ⟨hid, hhash, hfirst, hsecond, haware, hrest⟩

omit [DecidableEq F] in
theorem adjudicationReading_clock {report : AgreementReport} {now : Datetime}
    {candidates : List (JudgmentKey × EvaluationQuery F × PooledCandidate)} :
    adjudicationReading m { report with generatedAt := now } candidates = adjudicationReading m report candidates := by
  unfold adjudicationReading FramedDisagreement protectedAdjudicationFields reviewValues
  rfl

/-- The agreement of two reviews but for the time of its report. -/
theorem compare_clock {now now' : Datetime} {first second : CandidatePool m} {report : AgreementReport}
    (h : compareIndependentRetrievalReviews now first second = .ok report) (haware : now'.utcoffset.isSome = true) :
    compareIndependentRetrievalReviews now' first second = .ok { report with generatedAt := now' } := by
  unfold compareIndependentRetrievalReviews at h ⊢
  simp only [bind_ok, Except.ok.injEq] at h ⊢
  obtain ⟨reviews, hreviews, rows, hrows, overall, hoverall, queries, hqueries, slices, hslices, sources, hsources, valid, hvalid, rfl⟩ := h
  have hval := construct_val hvalid
  have hclock := validate_clock valid.2 haware
  rw [hval] at hclock ⊢
  exact ⟨reviews, hreviews, rows, hrows, overall, hoverall, queries, hqueries, slices, hslices, sources, hsources, ⟨_, hclock⟩,
    construct_of_valid hclock, rfl⟩

theorem parseAdjudicationRows_iff {now : Datetime} {first second : CandidatePool m} {pair : FirstPass m × FirstPass m} {capture text : String}
    {complete : Bool} {report : AgreementReport} {rows : List (List String)} (hpair : canonicalReviews first second = .ok (pair, capture))
    (hcompare : compareIndependentRetrievalReviews now first second = .ok report) :
    (∃ decisions, parseAdjudicationRows now first second text complete = .ok (rows, decisions)) ↔
      Csv.dictReader text = .ok ⟨adjudicationColumns, rows⟩ ∧
        (adjudicationReading m report (firstCandidateLookup pair.1.pool)).Accepts complete rows := by
  have hrow : ∀ row, (∃ value, Gives (m := m) report (firstCandidateLookup pair.1.pool) complete row (rowKey row) value) ↔
      (adjudicationReading m report (firstCandidateLookup pair.1.pool)).framed row ∧
        (adjudicationReading m report (firstCandidateLookup pair.1.pool)).accepts complete
          (adjudicationKind.cell row adjudicationKind.gradeColumn) (adjudicationKind.cell row adjudicationKind.rationaleColumn) := by
    intro row
    constructor
    · rintro ⟨value, hwidth, -, hknown, hgrade, hrationale⟩
      exact ⟨⟨hwidth, hknown⟩, _, hgrade, _, hrationale⟩
    · rintro ⟨⟨hwidth, hknown⟩, grade, hgrade, rationale, hrationale⟩
      exact ⟨(grade, rationale), hwidth, rfl, hknown, hgrade, hrationale⟩
  have hitems := Keyed.exists_items_iff rowKey (adjudicationReading m report (firstCandidateLookup pair.1.pool)).covers rows
    fun row key value (h : Gives (m := m) report (firstCandidateLookup pair.1.pool) complete row key value) => h.named.symm
  simp only [parseAdjudicationRows_ok hpair, hcompare, Except.ok.injEq, exists_eq_left', exists_and_left]
  refine and_congr_right fun _ => hitems.trans ?_
  simp only [hrow]
  exact ⟨fun h => ⟨h.1, h.2.1, h.2.2⟩, fun h => ⟨h.nodup, h.covered, h.rows⟩⟩

end

/-! ## Main theorem -/

/-- A save that is accepted again: the session resumes with its rows, and
an import takes it when no row is pending. -/
structure Kept (k : SessionKind) (resumes : String → List (List String) → Prop) (imports : String → Prop) (s : Save) : Prop where
  resumed : resumes (universalNewlines s.content) s.rows
  imported : (∀ row ∈ s.rows, k.isPending row = false) → imports (universalNewlines s.content)

/-- No work is lost in a session that starts from the rows. -/
structure LosesNothing (k : SessionKind) (resumes : String → List (List String) → Prop) (imports : String → Prop)
    (start : List (List String)) (saves : List Save) : Prop where
  kept : ∀ s ∈ saves, Kept k resumes imports s
  shown : ∀ s ∈ saves, Shows k s
  grades : (start :: saves.map Save.rows).Pairwise (KeepsGrades k)

theorem Reading.Accepts.complete {k : SessionKind} {R : Reading k} {rows : List (List String)} (h : R.Accepts false rows)
    (hgraded : ∀ row ∈ rows, k.isPending row = false) : R.Accepts true rows := by
  refine ⟨h.nodup, h.covered, fun row hrow => ⟨(h.rows row hrow).1, ?_⟩⟩
  exact R.accepts_complete (h.rows row hrow).2 (of_decide_eq_false (hgraded row hrow))

theorem losesNothing_iff {k : SessionKind} (hk : Columns k) {R : Reading k} {resumes : String → List (List String) → Prop}
    {imports : String → Prop} {text : String} {start : List (List String)} {saves : List Save}
    (hresumes : ∀ text rows, resumes text rows ↔ Csv.dictReader text = .ok ⟨k.columns, rows⟩ ∧ R.Accepts false rows)
    (himports : ∀ text rows, Csv.dictReader text = .ok ⟨k.columns, rows⟩ → R.Accepts true rows → imports text)
    (hstart : resumes (universalNewlines text) start) (htrace : Trace k start saves) :
    LosesNothing k resumes imports start saves ↔ ∀ s ∈ saves, Fits s.rationale := by
  obtain ⟨hread, haccepts⟩ := (hresumes _ _).mp hstart
  have hwritable := writable_of_read (k := k) hread fun row hrow => R.width (haccepts.rows row hrow).1
  have hreread := htrace.reread hk hwritable
  rw [← htrace.accepts_iff hk haccepts]
  constructor
  · intro h s hs
    exact ((hresumes _ _).mp (h.kept s hs).resumed).2
  · intro h
    refine ⟨fun s hs => ?_, htrace.shows hk hwritable, htrace.keeps⟩
    refine ⟨(hresumes _ _).mpr ⟨hreread s hs, h s hs⟩, fun hgraded => ?_⟩
    exact himports _ _ (hreread s hs) ((h s hs).complete hgraded)

section
variable {F : Type} {m : PoolModel F}

def resumesJudgments (pool : CandidatePool m) (text : String) (rows : List (List String)) : Prop :=
  validatePartialJudgments pool text = .ok rows

/-- Any reviewer can import the sheet. -/
def importsJudgments (pool : CandidatePool m) (text : String) : Prop :=
  ∀ now reviewer reviewedAt, MayReview reviewer → ∃ judged, applyJudgments now pool text reviewer reviewedAt = .ok judged

theorem resumesJudgments_iff {pool : CandidatePool m} {text : String} {rows : List (List String)} :
    resumesJudgments pool text rows ↔ pool.judgmentStatus = .unjudged ∧ Csv.dictReader text = .ok ⟨judgmentColumns, rows⟩ ∧
      (judgmentReading pool).Accepts false rows := by
  unfold resumesJudgments validatePartialJudgments
  simp only [bind_ok, exists_unit, check_eq_ok, decide_eq_true_eq, map_ok, Prod.exists, ← parseJudgmentRows_iff]
  refine and_congr_right fun _ => ⟨?_, ?_⟩
  · rintro ⟨read, grades, hparse, rfl⟩
    exact ⟨grades, hparse⟩
  · rintro ⟨grades, hparse⟩
    exact ⟨rows, grades, hparse, rfl⟩

theorem judgment_session_iff {pool : CandidatePool m} {sheet : String} {inputs : List Input} {progress : JudgmentProgress}
    {saves : List Save} (h : runJudgmentSession pool sheet inputs = .ok (progress, saves)) :
    ∃ start, validatePartialJudgments pool (universalNewlines sheet) = .ok start ∧
      (LosesNothing judgmentKind (resumesJudgments pool) (importsJudgments pool) start saves ↔ ∀ s ∈ saves, Fits s.rationale) := by
  obtain ⟨start, hstart, hrun⟩ := map_ok.mp h
  have hstatus := (resumesJudgments_iff.mp hstart).1
  refine ⟨start, hstart, losesNothing_iff judgmentKind_columns (R := judgmentReading pool) (fun text rows => ?_)
    (fun text rows hread haccepts now reviewer reviewedAt hmay => ?_) hstart (runSession_trace hrun)⟩
  · rw [resumesJudgments_iff]
    exact and_iff_right hstatus
  · obtain ⟨grades, hparse⟩ := parseJudgmentRows_iff.mpr ⟨hread, haccepts⟩
    exact (applyJudgments_of_parsed hparse hstatus hmay).imp fun judged hjudged => hjudged.1

variable [DecidableEq F]

/-- The session resumes at any time. -/
def resumesAdjudication (first second : CandidatePool m) (text : String) (rows : List (List String)) : Prop :=
  ∀ now : Datetime, now.utcoffset.isSome = true → validatePartialRetrievalAdjudication now first second text = .ok rows

/-- Any adjudicator can import the sheet. -/
def importsAdjudication (first second : CandidatePool m) (text : String) : Prop :=
  ∀ (now : Datetime) (adjudicator : String) (adjudicatedAt : Option Datetime), now.utcoffset.isSome = true →
    MayAdjudicate first second adjudicator (adjudicatedAt.getD now) →
    ∃ result, applyRetrievalAdjudication now first second text adjudicator adjudicatedAt = .ok result

theorem adjudication_session_iff {now : Datetime} {first second : CandidatePool m} {sheet : String} {inputs : List Input}
    {progress : JudgmentProgress} {saves : List Save}
    (h : runRetrievalAdjudicationSession now first second sheet inputs = .ok (progress, saves)) :
    ∃ start, validatePartialRetrievalAdjudication now first second (universalNewlines sheet) = .ok start ∧
      (LosesNothing adjudicationKind (resumesAdjudication first second) (importsAdjudication first second) start saves ↔
        ∀ s ∈ saves, Fits s.rationale) := by
  obtain ⟨start, hstart, hrun⟩ := map_ok.mp h
  obtain ⟨⟨rows, decisions⟩, hparse, hrows⟩ := map_ok.mp hstart
  obtain rfl : rows = start := hrows
  have hcanonical : ∃ result, canonicalReviews first second = .ok result := by
    unfold parseAdjudicationRows at hparse
    obtain ⟨result, hresult, -⟩ := bind_ok.mp hparse
    exact ⟨result, hresult⟩
  obtain ⟨⟨pair, capture⟩, hpair⟩ := hcanonical
  obtain ⟨report, hcompare, -⟩ := (parseAdjudicationRows_ok hpair).mp hparse
  have hparses : ∀ (now' : Datetime) (text : String) (complete : Bool) (rows : List (List String)), now'.utcoffset.isSome = true →
      ((∃ decisions, parseAdjudicationRows now' first second text complete = .ok (rows, decisions)) ↔
        Csv.dictReader text = .ok ⟨adjudicationColumns, rows⟩ ∧
          (adjudicationReading m report (firstCandidateLookup pair.1.pool)).Accepts complete rows) := by
    intro now' text complete rows haware
    rw [parseAdjudicationRows_iff hpair (compare_clock hcompare haware), adjudicationReading_clock]
  have hresumes : ∀ text rows, resumesAdjudication first second text rows ↔ Csv.dictReader text = .ok ⟨adjudicationColumns, rows⟩ ∧
      (adjudicationReading m report (firstCandidateLookup pair.1.pool)).Accepts false rows := by
    intro text rows
    constructor
    · intro hall
      have haware : ∃ now' : Datetime, now'.utcoffset.isSome = true := ⟨⟨0, some 0, by decide, by decide⟩, rfl⟩
      obtain ⟨now', haware⟩ := haware
      obtain ⟨⟨read, decisions⟩, hread, hsame⟩ := map_ok.mp (hall now' haware)
      obtain rfl : read = rows := hsame
      exact (hparses now' text false _ haware).mp ⟨decisions, hread⟩
    · intro haccepts now' haware
      obtain ⟨decisions, hread⟩ := (hparses now' text false rows haware).mpr haccepts
      exact map_ok.mpr ⟨_, hread, rfl⟩
  have hnow : (adjudicationReading m report (firstCandidateLookup pair.1.pool)).Accepts false rows ∧
      Csv.dictReader (universalNewlines sheet) = .ok ⟨adjudicationColumns, rows⟩ := by
    obtain ⟨hread, haccepts⟩ := (parseAdjudicationRows_iff hpair hcompare).mp ⟨decisions, hparse⟩
    exact ⟨haccepts, hread⟩
  refine ⟨rows, hstart, losesNothing_iff adjudicationKind_columns hresumes
    (fun text rows hread haccepts now' adjudicator adjudicatedAt haware hmay => ?_) ((hresumes _ _).mpr ⟨hnow.2, hnow.1⟩)
    (runSession_trace hrun)⟩
  obtain ⟨decisions', hparse'⟩ := (hparses now' text true rows haware).mpr ⟨hread, haccepts⟩
  exact apply_of_accepted hparse' hmay

/-- **Judgment sessions.** No work of a session is lost, provided that each
rationale that is entered fits behind the quote that a formula gets. -/
theorem sessions_lose_nothing (now : Datetime) (pool first second : CandidatePool m) (sheet : String) (inputs : List Input)
    (progress : JudgmentProgress) (saves : List Save) :
    (runJudgmentSession pool sheet inputs = .ok (progress, saves) →
      ∃ start, validatePartialJudgments pool (universalNewlines sheet) = .ok start ∧
        (LosesNothing judgmentKind (resumesJudgments pool) (importsJudgments pool) start saves ↔ ∀ s ∈ saves, Fits s.rationale)) ∧
    (runRetrievalAdjudicationSession now first second sheet inputs = .ok (progress, saves) →
      ∃ start, validatePartialRetrievalAdjudication now first second (universalNewlines sheet) = .ok start ∧
        (LosesNothing adjudicationKind (resumesAdjudication first second) (importsAdjudication first second) start saves ↔
          ∀ s ∈ saves, Fits s.rationale)) :=
  ⟨judgment_session_iff, adjudication_session_iff⟩

end

/-! ## A session on a quake -/

namespace Izmir

open RetrievalAdjudication.Izmir

def unjudged : CandidatePool model where
  toCandidatePoolData :=
    { data "Ana" 2 with
      judgmentStatus := .unjudged
      reviewer := none
      reviewedAt := none
      queries := [⟨⟨"quakes", "quakes", [], ()⟩, [⟨evidence, none, none⟩],
        [⟨.lexical, "rule", "none", Float64.ofInt 1, ["usgs:izmir"]⟩]⟩] }
  normalized := by decide +kernel
  valid := by decide +kernel

def ungraded : List String := row.take 10 ++ ["", ""]

def ungradedSheet : String := ",".intercalate judgmentColumns ++ "\n" ++ ",".intercalate ungraded ++ "\n"

def undecided : List String := row.take 15 ++ ["", ""]

def undecidedSheet : String := ",".intercalate adjudicationColumns ++ "\n" ++ ",".intercalate undecided ++ "\n"

/-- Both sheets are read as the rows they are written from. -/
theorem sheets_read :
    Csv.dictReader (universalNewlines ungradedSheet) = .ok ⟨judgmentColumns, [ungraded]⟩ ∧
      Csv.dictReader (universalNewlines undecidedSheet) = .ok ⟨adjudicationColumns, [undecided]⟩ := by
  unfold Csv.dictReader Csv.records ungradedSheet undecidedSheet universalNewlines
  rw [String.toList_ofList, String.toList_ofList]
  simp only [String.toList_append, String.toList_intercalate]
  decide +kernel

theorem sheets_accepted :
    validatePartialJudgments unjudged (universalNewlines ungradedSheet) = .ok [ungraded] ∧
      validatePartialRetrievalAdjudication moment firstReview secondReview (universalNewlines undecidedSheet) = .ok [undecided] := by
  unfold validatePartialJudgments parseJudgmentRows validatePartialRetrievalAdjudication parseAdjudicationRows
  rw [sheets_read.1, sheets_read.2]
  decide +kernel

theorem normalizeText_word {text : String} (hne : text.toList ≠ []) (hplain : ∀ c ∈ text.toList, isSpace c = false) :
    normalizeText text = text := by
  refine normalizeText_eq_self.mpr ⟨[text.toList], ⟨List.forall_mem_singleton.mpr hne, List.forall_mem_singleton.mpr hplain⟩, ?_⟩
  rw [List.intercalate_singleton]

/-- What is entered, at each save. -/
def entered (saves : List Save) : List (String × String) := saves.map fun s => (s.grade, s.rationale)

theorem one_chosen (inputs : List Input) : askGrade model.casefold (.line "1" :: inputs) = some (.grade "1", inputs) := by
  have hone : model.casefold (strip "1") = "1" := by decide
  rw [askGrade, choice?, hone]
  rfl

/-- A session over one pending row, in which one decision is made. -/
theorem one_save (k : SessionKind) (row : List String) (text : String) (hpending : k.isPending row = true)
    (hleast : k.leastRationale ≤ (normalizeText text).length) (hmost : (normalizeText text).length ≤ 1000) :
    entered (runSession k model.casefold [row] [.line "1", .line text]).2 = [("1", normalizeText text)] := by
  have hindices : k.pendingIndices [row] = [0] := by
    unfold SessionKind.pendingIndices
    rw [List.length_singleton, List.range_one, List.filter_cons_of_pos]
    · rfl
    · exact hpending
  have hrationale : k.askRationale [.line text] = some (normalizeText text, []) := by
    rw [SessionKind.askRationale]
    exact if_pos ⟨hleast, hmost⟩
  unfold runSession
  rw [hindices]
  simp only [turns, turn, one_chosen, hrationale, SessionState.save]
  rfl

/-- `=xx…x` -/
def formula (n : Nat) : String := String.ofList ('=' :: List.replicate n 'x')

theorem length_formula (n : Nat) : (formula n).length = n + 1 := by
  rw [formula, String.length_ofList, List.length_cons, List.length_replicate]

theorem toList_formula (n : Nat) : (formula n).toList = '=' :: List.replicate n 'x' := by
  rw [formula, String.toList_ofList]

theorem normalizeText_formula (n : Nat) : normalizeText (formula n) = formula n := by
  refine normalizeText_word ?_ ?_
  · rw [toList_formula]
    exact List.cons_ne_nil _ _
  · rw [toList_formula]
    refine List.forall_mem_cons.mpr ⟨by decide, fun c hc => ?_⟩
    rw [List.eq_of_mem_replicate hc]
    decide

theorem fits_formula (n : Nat) : Fits (formula n) ↔ n < 999 := by
  have hformula : isFormula (formula n) := by
    unfold isFormula
    rw [toList_formula, List.dropWhile_cons_of_neg (by decide)]
    rfl
  unfold Fits
  rw [length_safeText, if_pos hformula, length_formula]
  omega

end Izmir

open Izmir RetrievalAdjudication.Izmir in
/-- A rationale of a thousand characters is saved with one more, and the session
does not resume. -/
theorem full_formula_is_lost : ∃ progress save,
    runJudgmentSession unjudged ungradedSheet [.line "1", .line (formula 999)] = .ok (progress, [save]) ∧
      (save.grade, save.rationale) = ("1", formula 999) ∧
      ∀ rows, validatePartialJudgments unjudged (universalNewlines save.content) ≠ .ok rows := by
  have hentered := one_save judgmentKind ungraded (formula 999) (by decide) (Nat.zero_le _)
    (by rw [normalizeText_formula, length_formula])
  obtain ⟨⟨progress, saves⟩, hout⟩ : ∃ out, runSession judgmentKind model.casefold [ungraded] [.line "1", .line (formula 999)] = out :=
    ⟨_, rfl⟩
  have hrun : runJudgmentSession unjudged ungradedSheet [.line "1", .line (formula 999)] = .ok (progress, saves) :=
    map_ok.mpr ⟨_, sheets_accepted.1, hout⟩
  rw [hout, normalizeText_formula] at hentered
  obtain ⟨save, rfl, hsave⟩ := List.map_eq_singleton_iff.mp hentered
  refine ⟨progress, save, hrun, hsave, fun rows hrows => ?_⟩
  obtain ⟨-, hstart, haccepts⟩ := resumesJudgments_iff.mp sheets_accepted.1
  have htrace := runSession_trace hout
  have hwritable := writable_of_read (k := judgmentKind) hstart fun row hrow => (haccepts.rows row hrow).1.1
  obtain ⟨-, hread, hagain⟩ := resumesJudgments_iff.mp hrows
  rw [htrace.reread judgmentKind_columns hwritable save List.mem_cons_self] at hread
  obtain rfl := (Csv.Sheet.mk.inj (Except.ok.inj hread)).2
  have hfits := (htrace.accepts_iff judgmentKind_columns haccepts).mp (List.forall_mem_singleton.mpr hagain) save List.mem_cons_self
  have hrationale : save.rationale = formula 999 := congrArg Prod.snd hsave
  rw [hrationale, fits_formula] at hfits
  exact absurd hfits (by decide)

open Izmir RetrievalAdjudication.Izmir in
/-- Sessions with a rationale that fits. -/
theorem sessions_lose_nothing_quake :
    (∃ progress save, runJudgmentSession unjudged ungradedSheet [.line "1", .line "=Near the city"] = .ok (progress, [save]) ∧
      Kept judgmentKind (resumesJudgments unjudged) (importsJudgments unjudged) save) ∧
    ∃ progress save, runRetrievalAdjudicationSession moment firstReview secondReview undecidedSheet
        [.line "1", .line "=Another quake is meant"] = .ok (progress, [save]) ∧
      Kept adjudicationKind (resumesAdjudication firstReview secondReview) (importsAdjudication firstReview secondReview) save := by
  constructor
  · have hentered := one_save judgmentKind ungraded "=Near the city" (by decide) (Nat.zero_le _)
      (by decide)
    obtain ⟨⟨progress, saves⟩, hout⟩ : ∃ out, runSession judgmentKind model.casefold [ungraded] [.line "1", .line "=Near the city"] = out :=
      ⟨_, rfl⟩
    have hrun : runJudgmentSession unjudged ungradedSheet [.line "1", .line "=Near the city"] = .ok (progress, saves) :=
      map_ok.mpr ⟨_, sheets_accepted.1, hout⟩
    rw [hout] at hentered
    obtain ⟨save, rfl, hsave⟩ := List.map_eq_singleton_iff.mp hentered
    obtain ⟨start, -, hiff⟩ := (sessions_lose_nothing moment unjudged firstReview secondReview _ _ _ _).1 hrun
    have hrationale : save.rationale = normalizeText "=Near the city" := congrArg Prod.snd hsave
    have hfits : Fits save.rationale := by
      rw [hrationale]
      decide
    exact ⟨progress, save, hrun, (hiff.mpr (List.forall_mem_singleton.mpr hfits)).kept save List.mem_cons_self⟩
  · have hentered := one_save adjudicationKind undecided "=Another quake is meant" (by decide)
      (by decide) (by decide)
    obtain ⟨⟨progress, saves⟩, hout⟩ : ∃ out, runSession adjudicationKind model.casefold [undecided]
        [.line "1", .line "=Another quake is meant"] = out := ⟨_, rfl⟩
    have hrun : runRetrievalAdjudicationSession moment firstReview secondReview undecidedSheet
        [.line "1", .line "=Another quake is meant"] = .ok (progress, saves) := map_ok.mpr ⟨_, sheets_accepted.2, hout⟩
    rw [hout] at hentered
    obtain ⟨save, rfl, hsave⟩ := List.map_eq_singleton_iff.mp hentered
    obtain ⟨start, -, hiff⟩ := (sessions_lose_nothing moment unjudged firstReview secondReview _ _ _ _).2 hrun
    have hrationale : save.rationale = normalizeText "=Another quake is meant" := congrArg Prod.snd hsave
    have hfits : Fits save.rationale := by
      rw [hrationale]
      decide
    exact ⟨progress, save, hrun, (hiff.mpr (List.forall_mem_singleton.mpr hfits)).kept save List.mem_cons_self⟩

end AtlasPulse.JudgmentSession
