import AtlasPulse.Identity
import AtlasPulse.Ranking
import AtlasPulse.Lib.Csv
import AtlasPulse.Lib.Keyed

/-!
# Independent reviews

What the adjudications of `evaluation/`, `relationship_evaluation/` and
`grounded_answer_evaluation/` have in common: reviewers in canonical order,
agreement corrected for chance, and the values of an adjudication sheet.
-/

namespace AtlasPulse

open PyTime Binary64

/-! ## Texts -/

theorem splitOnP_intercalate_space : ∀ {parts : List (List Char)}, parts ≠ [] → (∀ part ∈ parts, ∀ c ∈ part, isSpace c = false) →
    ([' '].intercalate parts).splitOnP isSpace = parts
  | [], h, _ => absurd rfl h
  | [part], _, hparts => by
    rw [List.intercalate_singleton]
    exact List.splitOnP_eq_singleton (hparts part List.mem_cons_self)
  | part :: next :: rest, _, hparts => by
    rw [List.intercalate_cons_cons, List.append_assoc, List.singleton_append]
    rw [List.splitOnP_append_cons_of_forall_mem (hparts part List.mem_cons_self) ' ' (by decide),
      splitOnP_intercalate_space (List.cons_ne_nil _ _) fun p hp => hparts p (List.mem_cons_of_mem _ hp)]

theorem splitOnP_no_sep {α : Type} {p : α → Bool} : ∀ {l : List α}, ∀ part ∈ l.splitOnP p, ∀ c ∈ part, p c = false
  | [], part, hpart, c, hc => by
    rw [List.splitOnP_nil, List.mem_singleton] at hpart
    subst hpart
    cases hc
  | a :: l, part, hpart, c, hc => by
    rw [List.splitOnP_cons_eq_if_modifyHead] at hpart
    split at hpart
    · rcases List.mem_cons.mp hpart with rfl | hpart
      · cases hc
      · exact splitOnP_no_sep part hpart c hc
    · rename_i ha
      cases hl : l.splitOnP p with
      | nil => exact absurd hl (List.splitOnP_ne_nil p l)
      | cons head rest =>
        have hsub := splitOnP_no_sep (p := p) (l := l)
        rw [hl] at hpart hsub
        rcases List.mem_cons.mp hpart with rfl | hpart
        · rcases List.mem_cons.mp hc with rfl | hc
          · exact Bool.not_eq_true _ ▸ ha
          · exact hsub head List.mem_cons_self c hc
        · exact hsub part (List.mem_cons_of_mem _ hpart) c hc

/-- The words of a normalized text. -/
structure Words (parts : List (List Char)) : Prop where
  ne_nil : ∀ part ∈ parts, part ≠ []
  plain : ∀ part ∈ parts, ∀ c ∈ part, isSpace c = false

theorem words_filter (cs : List Char) : Words ((cs.splitOnP isSpace).filter (· ≠ [])) :=
  ⟨fun _ hpart => of_decide_eq_true (List.mem_filter.mp hpart).2, fun part hpart => splitOnP_no_sep part (List.mem_of_mem_filter hpart)⟩

theorem toList_normalizeText (text : String) :
    (normalizeText text).toList = [' '].intercalate ((text.toList.splitOnP isSpace).filter (· ≠ [])) := by
  have hspace : (" ".toList) = [' '] := rfl
  rw [normalizeText, splitText, String.toList_intercalate, List.map_map, hspace]
  exact congrArg _ (List.map_id'' (fun part => String.toList_ofList) _)

theorem Words.filter_splitOnP {parts : List (List Char)} (h : Words parts) :
    (([' '].intercalate parts).splitOnP isSpace).filter (· ≠ []) = parts := by
  rcases eq_or_ne parts [] with hnil | hne
  · rw [hnil]
    rfl
  · rw [splitOnP_intercalate_space hne h.plain]
    exact List.filter_eq_self.mpr fun part hpart => decide_eq_true (h.ne_nil part hpart)

theorem normalizeText_eq_self {text : String} : normalizeText text = text ↔ ∃ parts, Words parts ∧ text.toList = [' '].intercalate parts := by
  constructor
  · intro h
    exact ⟨_, words_filter text.toList, by rw [← toList_normalizeText, h]⟩
  · rintro ⟨parts, hwords, htext⟩
    rw [← String.toList_inj, toList_normalizeText, htext, hwords.filter_splitOnP]

theorem normalizeText_idem (text : String) : normalizeText (normalizeText text) = normalizeText text :=
  normalizeText_eq_self.mpr ⟨_, words_filter text.toList, toList_normalizeText text⟩

/-- The first word is made longer. -/
theorem normalizeText_append {lead text : String} (hlead : ∀ c ∈ lead.toList, isSpace c = false) (h : normalizeText text = text)
    (hne : text ≠ "") : normalizeText (lead ++ text) = lead ++ text := by
  obtain ⟨parts, hwords, htext⟩ := normalizeText_eq_self.mp h
  cases parts with
  | nil => exact absurd (String.toList_eq_nil_iff.mp htext) hne
  | cons part parts =>
    obtain ⟨hpart, hparts⟩ := List.forall_mem_cons.mp hwords.plain
    obtain ⟨hsome, hrest⟩ := List.forall_mem_cons.mp hwords.ne_nil
    refine normalizeText_eq_self.mpr ⟨(lead.toList ++ part) :: parts, ⟨?_, ?_⟩, ?_⟩
    · exact List.forall_mem_cons.mpr ⟨List.append_ne_nil_of_right_ne_nil _ hsome, hrest⟩
    · exact List.forall_mem_cons.mpr ⟨List.forall_mem_append.mpr ⟨hlead, hpart⟩, hparts⟩
    · rw [String.toList_append, htext]
      cases parts with
      | nil => rw [List.intercalate_singleton, List.intercalate_singleton]
      | cons next parts =>
        rw [List.intercalate_cons_cons, List.intercalate_cons_cons, List.append_assoc, List.append_assoc, List.append_assoc]

theorem filter_splitOnP_space {c : Char} {cs : List Char} (hc : isSpace c = true) :
    ((c :: cs).splitOnP isSpace).filter (· ≠ []) = (cs.splitOnP isSpace).filter (· ≠ []) := by
  rw [List.splitOnP_cons_eq_if_modifyHead, if_pos hc, List.filter_cons_of_neg (by decide)]

/-- The first character that is not a space stays the first. -/
theorem head_normalizeText (text : String) : (normalizeText text).toList.head? = (text.toList.dropWhile isSpace).head? := by
  rw [toList_normalizeText]
  generalize text.toList = cs
  induction cs with
  | nil => rfl
  | cons c cs ih =>
    by_cases hc : isSpace c = true
    · rw [filter_splitOnP_space hc, List.dropWhile_cons_of_pos hc]
      exact ih
    · rw [List.splitOnP_cons_eq_if_modifyHead, if_neg hc, List.dropWhile_cons_of_neg hc]
      cases hparts : cs.splitOnP isSpace with
      | nil => exact absurd hparts (List.splitOnP_ne_nil _ _)
      | cons part parts =>
        rw [List.modifyHead_cons, List.filter_cons_of_pos (by simp)]
        cases parts.filter (· ≠ []) with
        | nil =>
          rw [List.intercalate_singleton]
          rfl
        | cons next rest =>
          rw [List.intercalate_cons_cons]
          rfl

theorem not_space_of_normal {text : String} (h : normalizeText text = text) : ∀ c ∈ text.toList, isSpace c = true → c = ' ' := by
  obtain ⟨parts, hwords, htext⟩ := normalizeText_eq_self.mp h
  intro c hc hspace
  rw [htext] at hc
  rcases Csv.mem_intercalate hc with hc | ⟨part, hpart, hc⟩
  · exact hc
  · rw [hwords.plain part hpart c hc] at hspace
    cases hspace

/-- `value.lstrip()` starts with a formula, which a quote neutralizes. -/
def spreadsheetSafeText (value : String) : String :=
  if ((value.toList.dropWhile isSpace).head?).any (· ∈ ['=', '+', '-', '@']) then "'" ++ value else value

/-- A text that the quote is put before. -/
def isFormula (value : String) : Prop := ((value.toList.dropWhile isSpace).head?).any (· ∈ ['=', '+', '-', '@']) = true

instance (value : String) : Decidable (isFormula value) := inferInstanceAs (Decidable (_ = true))

theorem safeText_formula {value : String} (h : isFormula value) : spreadsheetSafeText value = "'" ++ value := if_pos h

theorem safeText_plain {value : String} (h : ¬ isFormula value) : spreadsheetSafeText value = value := if_neg h

theorem isFormula_normalizeText {value : String} : isFormula (normalizeText value) ↔ isFormula value := by
  unfold isFormula
  rw [← head_normalizeText, ← head_normalizeText, normalizeText_idem]

theorem isFormula_quoted {value : String} : ¬ isFormula ("'" ++ value) := by
  have hhead : (("'" ++ value).toList.dropWhile isSpace).head? = "'".toList.head? := by
    rw [String.toList_append]
    rfl
  unfold isFormula
  rw [hhead]
  decide

/-- A rationale stays normalized behind the quote. -/
theorem safeText_normal {value : String} (h : normalizeText value = value) :
    normalizeText (spreadsheetSafeText value) = spreadsheetSafeText value := by
  by_cases hformula : isFormula value
  · have hne : value ≠ "" := by
      rintro rfl
      exact absurd hformula (by decide)
    have hquote : ("'".toList.all fun c => !isSpace c) = true := by decide
    rw [safeText_formula hformula]
    exact normalizeText_append (fun c hc => (Bool.not_eq_true' _).mp (List.all_eq_true.mp hquote c hc)) h hne
  · rw [safeText_plain hformula, h]

theorem length_safeText (value : String) : (spreadsheetSafeText value).length = value.length + if isFormula value then 1 else 0 := by
  by_cases hformula : isFormula value
  · rw [safeText_formula hformula, if_pos hformula, String.length_append, Nat.add_comm]
    rfl
  · rw [safeText_plain hformula, if_neg hformula, Nat.add_zero]

/-- A text in `^[a-z0-9][a-z0-9…]{least,most}$`. -/
def matchesSlug (punctuation : List Char) (least most : Nat) (text : String) : Bool :=
  let alphanumeric (c : Char) : Bool := c.isDigit || c.isLower
  match text.toList with
  | [] => false
  | c :: cs => alphanumeric c && cs.all (fun c => alphanumeric c || c ∈ punctuation) && least ≤ cs.length && cs.length ≤ most

theorem length_of_matchesSlug {punctuation : List Char} {least most : Nat} {text : String}
    (h : matchesSlug punctuation least most text = true) : text.length ≤ most + 1 := by
  unfold matchesSlug at h
  rw [← String.length_toList]
  split at h
  · cases h
  · rename_i c cs htext
    simp only [Bool.and_eq_true, decide_eq_true_eq] at h
    rw [htext, List.length_cons]
    exact Nat.succ_le_succ h.2

/-- The zeros of the decimal digits of Unicode. -/
def decimalZeros : List Nat :=
  [0x30, 0x660, 0x6f0, 0x7c0, 0x966, 0x9e6, 0xa66, 0xae6, 0xb66, 0xbe6, 0xc66, 0xce6, 0xd66, 0xde6, 0xe50, 0xed0, 0xf20,
    0x1040, 0x1090, 0x17e0, 0x1810, 0x1946, 0x19d0, 0x1a80, 0x1a90, 0x1b50, 0x1bb0, 0x1c40, 0x1c50, 0xa620, 0xa8d0, 0xa900,
    0xa9d0, 0xa9f0, 0xaa50, 0xabf0, 0xff10, 0x104a0, 0x10d30, 0x11066, 0x110f0, 0x11136, 0x111d0, 0x112f0, 0x11450, 0x114d0,
    0x11650, 0x116c0, 0x11730, 0x118e0, 0x11950, 0x11c50, 0x11d50, 0x11da0, 0x11f50, 0x16a60, 0x16ac0, 0x16b50, 0x1d7ce,
    0x1d7d8, 0x1d7e2, 0x1d7ec, 0x1d7f6, 0x1e140, 0x1e2f0, 0x1e4f0, 0x1e950, 0x1fbf0]

def decimalValue? (c : Char) : Option Nat :=
  (decimalZeros.find? fun first => first ≤ c.toNat && c.toNat < first + 10).map fun first => c.toNat - first

/-- The digits of `int`, which single underscores can separate. -/
def digitsValue (value : Nat) (afterDigit : Bool) : List Char → Option Nat
  | [] => if afterDigit then some value else none
  | c :: cs =>
    if c = '_' then if afterDigit then digitsValue value false cs else none
    else match decimalValue? c with
      | some digit => digitsValue (value * 10 + digit) true cs
      | none => none

/-- `int(text)`, which takes 4300 digits at most. -/
def parseInt? (text : String) : Option Int :=
  let magnitude (digits : List Char) : Option Int :=
    if (digits.filter (· ≠ '_')).length ≤ 4300 then (digitsValue 0 false digits).map Int.ofNat else none
  match (strip text).toList with
  | '+' :: digits => magnitude digits
  | '-' :: digits => (magnitude digits).map fun n => -n
  | digits => magnitude digits

example : parseInt? " ٣ " = some 3 ∧ parseInt? "1_0" = some 10 ∧ parseInt? "1__0" = none ∧ parseInt? "2.0" = none := by
  decide +kernel

/-- `a == b` of datetimes; a naive one never equals an aware one. -/
def sameTime (a b : Datetime) : Bool := a.utcoffset.isSome = b.utcoffset.isSome && a.instant = b.instant

/-- `int(digest, 16) % 2` -/
def oddDigest (digest : HexDigest) : Bool :=
  digest.val.toList.getLast?.any (· ∈ ['1', '3', '5', '7', '9', 'b', 'd', 'f'])

/-- `digest[:n]` -/
def digestPrefix (n : Nat) (digest : String) : String := String.ofList (digest.toList.take n)

theorem length_digestPrefix_le (n : Nat) (digest : String) : (digestPrefix n digest).length ≤ n := by
  unfold digestPrefix
  rw [String.length_ofList]
  exact List.length_take_le _ _

/-! ## Reviewers -/

section
variable (casefold : String → String)

/-- The order of `(name.casefold(), name)`. -/
def namedBefore (a b : String) : Bool := casefold a < casefold b || (casefold a = casefold b && a < b)

/-- `sorted((first, second), key=…)` of two reviews. -/
def canonicalPair {P : Type} (reviewer : P → String) (first second : P) : P × P :=
  if namedBefore casefold (reviewer second) (reviewer first) then (second, first) else (first, second)

section
variable {casefold}

theorem namedBefore_of_ne {a b : String} (h : casefold a ≠ casefold b) : namedBefore casefold a b = decide (casefold a < casefold b) := by
  rw [namedBefore, decide_eq_false h, Bool.false_and, Bool.or_false]

variable {P : Type} {reviewer : P → String} {first second : P}

theorem canonicalPair_cases (casefold : String → String) (reviewer : P → String) (first second : P) : canonicalPair casefold reviewer first second = (first, second) ∨
    canonicalPair casefold reviewer first second = (second, first) := by
  unfold canonicalPair
  split
  · exact .inr rfl
  · exact .inl rfl

theorem canonicalPair_swap (h : casefold (reviewer first) ≠ casefold (reviewer second)) :
    canonicalPair casefold reviewer second first = canonicalPair casefold reviewer first second := by
  unfold canonicalPair
  rw [namedBefore_of_ne h, namedBefore_of_ne h.symm]
  rcases lt_or_gt_of_ne h with hlt | hlt
  · rw [if_pos (decide_eq_true hlt), if_neg (by rw [decide_eq_true_eq]; exact hlt.asymm)]
  · rw [if_pos (decide_eq_true hlt), if_neg (by rw [decide_eq_true_eq]; exact hlt.asymm)]

/-- Reviews that are already in order stay as they are. -/
theorem canonicalPair_of_ordered {pair : P × P} (h : canonicalPair casefold reviewer first second = pair)
    (hne : casefold (reviewer first) ≠ casefold (reviewer second)) : canonicalPair casefold reviewer pair.1 pair.2 = pair := by
  rcases canonicalPair_cases casefold reviewer first second with hpair | hpair
  · obtain rfl : (first, second) = pair := hpair.symm.trans h
    exact h
  · obtain rfl : (second, first) = pair := hpair.symm.trans h
    exact (canonicalPair_swap hne).trans h

theorem namedBefore_canonicalPair {pair : P × P} (h : canonicalPair casefold reviewer first second = pair)
    (hne : casefold (reviewer first) ≠ casefold (reviewer second)) :
    namedBefore casefold (reviewer pair.2) (reviewer pair.1) = false := by
  have hpair := canonicalPair_of_ordered h hne
  unfold canonicalPair at hpair
  split at hpair
  · rename_i hbefore
    have hswap : pair.2 = pair.1 := congrArg Prod.fst hpair
    rw [hswap, namedBefore, decide_eq_false (lt_irrefl _), decide_eq_false (lt_irrefl _), Bool.and_false, Bool.or_false]
  · rename_i hbefore
    exact Bool.not_eq_true _ ▸ hbefore
end

/-- Who reviewed which exact artifact. -/
structure ReviewIdentity where
  reviewer : String
  reviewedAt : Datetime
  poolSha256 : String
  deriving DecidableEq

def ReviewIdentity.validate (r : ReviewIdentity) : Except String Unit := do
  check (1 ≤ r.reviewer.length && r.reviewer.length ≤ 200) "String should have at most 200 characters"
  check (matchesSha256 r.poolSha256) "String should match pattern '^[0-9a-f]\x7b64\x7d$'"
  check (normalizeText r.reviewer ≠ "") "reviewer must not be blank"
  check r.reviewedAt.utcoffset.isSome "reviewed_at must be timezone-aware"

/-- `IndependentRetrievalAdjudicationProvenance` and
`IndependentAdjudicationProvenance`. -/
structure AdjudicationProvenance where
  independentReviewers : String × String
  reviewPoolSha256s : String × String
  agreementReportId : String
  observedAgreement : Float64
  cohenKappa : Option Float64
  adjudicator : String
  adjudicatedAt : Datetime
  adjudicationDecisionCount : Nat
  deriving DecidableEq

def AdjudicationProvenance.normalize (p : AdjudicationProvenance) : AdjudicationProvenance :=
  { p with
    independentReviewers := (normalizeText p.independentReviewers.1, normalizeText p.independentReviewers.2)
    adjudicator := normalizeText p.adjudicator }

theorem AdjudicationProvenance.normalize_idem (p : AdjudicationProvenance) : p.normalize.normalize = p.normalize := by
  simp only [normalize, normalizeText_idem]

/-- `low <= value <= high`, which holds for no `nan`. -/
def betweenInts (low : Int) (value : Float64) (high : Int) : Bool :=
  (Float64.ofInt low).le value && value.le (Float64.ofInt high)

def AdjudicationProvenance.validate (p : AdjudicationProvenance) : Except String Unit := do
  check (1 ≤ p.agreementReportId.length && p.agreementReportId.length ≤ 240) "String should have at most 240 characters"
  check (betweenInts 0 p.observedAgreement 1) "Input should be less than or equal to 1"
  check (p.cohenKappa.all fun kappa => betweenInts (-1) kappa 1) "Input should be less than or equal to 1"
  check (1 ≤ p.adjudicator.length && p.adjudicator.length ≤ 200) "String should have at most 200 characters"
  let reviewers := p.independentReviewers
  check (reviewers.1 ≠ "" && reviewers.2 ≠ "") "independent reviewers must not be blank"
  check (reviewers.1.length ≤ 200 && reviewers.2.length ≤ 200) "independent reviewer names cannot exceed 200 characters"
  check (casefold reviewers.1 ≠ casefold reviewers.2) "independent reviewers must be different people"
  check (!namedBefore casefold reviewers.2 reviewers.1) "independent reviewers must use canonical name order"
  check (matchesSha256 p.reviewPoolSha256s.1 && matchesSha256 p.reviewPoolSha256s.2)
    "independent review pool hashes must be lowercase SHA-256 values"
  check (p.adjudicator ≠ "") "adjudicator must not be blank"
  check (casefold p.adjudicator ∉ [casefold reviewers.1, casefold reviewers.2])
    "adjudicator must be independent from both reviewers"
  check p.adjudicatedAt.utcoffset.isSome "adjudicated_at must be timezone-aware"

end

/-! ## Agreement -/

structure AgreementMetrics where
  judgmentCount : Nat
  agreementCount : Nat
  disagreementCount : Nat
  observedAgreement : Float64
  expectedAgreement : Float64
  cohenKappa : Option Float64
  deriving DecidableEq

/-- `not abs(value - expected) > 1e-12` -/
def nearTo (value expected : Float64) : Bool := !(ofRat false (1 / 1000000000000)).lt (value.sub expected).abs

/-- `None if expected == 1 else (observed - expected) / (1 - expected)` -/
def kappaOf (observed expected : Float64) : Except String (Option Float64) :=
  if expected.beq (Float64.ofInt 1) then .ok none
  else ((observed.sub expected).div ((Float64.ofInt 1).sub expected)).map some

/-- `validate_counts_and_rates`; the message of the counts differs. -/
def AgreementMetrics.validate (uncovered : String) (m : AgreementMetrics) : Except String Unit := do
  check (1 ≤ m.judgmentCount) "Input should be greater than or equal to 1"
  check (betweenInts 0 m.observedAgreement 1) "Input should be less than or equal to 1"
  check (betweenInts 0 m.expectedAgreement 1) "Input should be less than or equal to 1"
  check (m.cohenKappa.all fun kappa => betweenInts (-1) kappa 1) "Input should be greater than or equal to -1"
  check (m.agreementCount + m.disagreementCount = m.judgmentCount) uncovered
  let observed ← intDiv m.agreementCount m.judgmentCount
  check (nearTo m.observedAgreement observed) "observed_agreement must match the agreement count"
  let expectedKappa ← kappaOf m.observedAgreement m.expectedAgreement
  match expectedKappa with
  | none => check m.cohenKappa.isNone "cohen_kappa must be undefined when expected agreement is one"
  | some expected => check (m.cohenKappa.any (nearTo · expected)) "cohen_kappa must match observed and expected agreement"

theorem AgreementMetrics.bounds_of_valid {uncovered : String} {metrics : AgreementMetrics} (h : metrics.validate uncovered = .ok ()) :
    betweenInts 0 metrics.observedAgreement 1 = true ∧ metrics.cohenKappa.all (fun kappa => betweenInts (-1) kappa 1) = true := by
  unfold validate at h
  simp only [bind_ok, exists_unit, check_eq_ok] at h
  exact ⟨h.2.1, h.2.2.2.1⟩

section
variable {L : Type} [DecidableEq L]

/-- `sum((first[value] / total) * (second[value] / total) for value in scale)` -/
def expectedAgreement (scale : List L) (first second : L → Nat) (total : Nat) : Except String Float64 := do
  let terms ← scale.mapM fun value => do
    let firstRate ← intDiv (first value) total
    let secondRate ← intDiv (second value) total
    .ok (firstRate.mul secondRate)
  .ok (Float64.sum terms)

/-- `_agreement_metrics` of the pairs of grades or labels on a scale. -/
def agreementMetrics (empty uncovered : String) (scale : List L) (pairs : List (L × L)) : Except String AgreementMetrics := do
  check (!pairs.isEmpty) empty
  let count := pairs.length
  let agreement := pairs.countP fun pair => pair.1 = pair.2
  let observed ← intDiv agreement count
  let expected ← expectedAgreement scale (fun value => pairs.countP fun pair => pair.1 = value)
    (fun value => pairs.countP fun pair => pair.2 = value) count
  let kappa ← kappaOf observed expected
  let metrics : AgreementMetrics := ⟨count, agreement, count - agreement, observed, expected, kappa⟩
  metrics.validate uncovered
  .ok metrics

theorem agreementMetrics_ok {empty uncovered : String} {scale : List L} {pairs : List (L × L)}
    {metrics : AgreementMetrics} (h : agreementMetrics empty uncovered scale pairs = .ok metrics) :
    metrics.judgmentCount = pairs.length ∧ metrics.agreementCount = pairs.countP (fun pair => pair.1 = pair.2) ∧
      pairs ≠ [] ∧ metrics.validate uncovered = .ok () := by
  unfold agreementMetrics at h
  simp only [bind_ok, exists_unit, check_eq_ok, Except.ok.injEq] at h
  obtain ⟨hne, observed, -, expected, -, kappa, -, hvalid, rfl⟩ := h
  refine ⟨rfl, rfl, ?_, hvalid⟩
  rintro rfl
  cases hne

/-- `_agreement_confusion`. -/
def agreementConfusion (scale : List L) (pairs : List (L × L)) : List (L × List (L × Nat)) :=
  scale.map fun first => (first, scale.map fun second => (second, pairs.countP fun pair => pair.1 = first && pair.2 = second))

/-- `matrix[first][second]` -/
def confusionCell (matrix : List (L × List (L × Nat))) (first second : L) : Nat :=
  ((matrix.lookup first).bind (·.lookup second)).getD 0

end

/-! ## Groups -/

section
variable {K V : Type} [DecidableEq K]

/-- `set(first) == set(second)` of lists. -/
def sameSet (first second : List K) : Bool := first ⊆ second && second ⊆ first

theorem sameSet_iff {first second : List K} : sameSet first second = true ↔ ∀ key, key ∈ first ↔ key ∈ second := by
  unfold sameSet
  rw [Bool.and_eq_true, decide_eq_true_eq, decide_eq_true_eq]
  exact ⟨fun h key => ⟨fun hkey => h.1 hkey, fun hkey => h.2 hkey⟩, fun h => ⟨fun _ hkey => (h _).mp hkey, fun _ hkey => (h _).mpr hkey⟩⟩

/-- `by_key[key].append(value)` over the items, into a `defaultdict(list)`. -/
def groupBy (items : List (K × V)) : List (K × List V) :=
  items.foldl (fun d item => PyDict.setItem d item.1 ((PyDict.get d item.1).getD [] ++ [item.2])) []

/-- `{key: metrics(values) for key, values in sorted(by_key.items())}` -/
def sortedGroups {M : Type} (le : K → K → Prop) [DecidableRel le] (metrics : List V → Except String M) (items : List (K × V)) :
    Except String (List (K × M)) :=
  ((groupBy items).insertionSort fun a b => le a.1 b.1).mapM fun group => (metrics group.2).map (group.1, ·)

end

end AtlasPulse
