import AtlasPulse.EvidencePacksSound

/-!
# Rank fusion

The scores of hits and the order they give. A merged candidate is what the two
channels list under its key, so the hits depend on the candidate lists as sets,
and the sort keys order them completely.
-/

namespace AtlasPulse

open PyText Binary64

variable {E : Type} (m : RetrievalModel E)

/-! ## Scores -/

/-- The ranks that a merged candidate has. -/
def ranksOf (merged : MergedCandidate E) : List Nat := merged.lexicalRank.toList ++ merged.denseRank.toList

def scoreOf (ranks : List Nat) : Except String Float64 := do
  let terms ← ranks.mapM fun rank => intDiv 1 (rrfK + rank : Nat)
  let top ← intDiv 2 (rrfK + 1 : Nat)
  (Float64.sum terms).div top

theorem rrfScore_eq (merged : MergedCandidate E) : rrfScore merged = scoreOf (ranksOf merged) := rfl

/-- The exact reciprocal rank sum, and the score that it gives. -/
def exactSum (ranks : List Nat) : ℚ := (ranks.map fun rank => (1 : ℚ) / (rrfK + rank : Nat)).sum

def exactScore (ranks : List Nat) : ℚ := exactSum ranks / (2 / 61)

theorem length_ranksOf (merged : MergedCandidate E) : (ranksOf merged).length ≤ 2 := by
  unfold ranksOf
  cases merged.lexicalRank <;> cases merged.denseRank <;> simp

theorem reciprocal_bounds (rank : Nat) : (0 : ℚ) < 1 / (rrfK + rank : Nat) ∧ (1 : ℚ) / (rrfK + rank : Nat) ≤ 1 / 60 := by
  have hpos : (0 : ℚ) < (rrfK + rank : Nat) := by exact_mod_cast (show 0 < rrfK + rank by unfold rrfK; omega)
  have hle : (60 : ℚ) ≤ (rrfK + rank : Nat) := by exact_mod_cast (show 60 ≤ rrfK + rank by unfold rrfK; omega)
  exact ⟨one_div_pos.mpr hpos, one_div_le_one_div_of_le (by norm_num) hle⟩

/-- One term of a sum: its float is finite, small and close. -/
theorem reciprocal_float (rank : Nat) : ∃ x p, intDiv 1 (rrfK + rank : Nat) = .ok x ∧ x.toRat? = some p ∧
    |p| ≤ 2 ^ (-5 : ℤ) ∧ |p - 1 / (rrfK + rank : Nat)| ≤ 2 ^ (-58 : ℤ) := by
  obtain ⟨hpos, hle⟩ := reciprocal_bounds rank
  have habs : |((1 : ℤ) : ℚ) / ((rrfK + rank : Nat) : ℤ)| ≤ 2 ^ (-5 : ℤ) := by
    rw [Int.cast_one, Int.cast_natCast, abs_of_pos hpos]
    exact hle.trans (by norm_num)
  obtain ⟨x, hx, hval, -⟩ := exists_intDiv (by unfold rrfK; omega) (by norm_num) (by norm_num) habs
  obtain ⟨p, hp, hbound⟩ := fit_of_abs_le (by norm_num) (by norm_num) habs
  obtain ⟨r, hr, herror⟩ := abs_fit_sub (by norm_num) (by norm_num) habs
  obtain rfl := Option.some.inj (hp.symm.trans hr)
  refine ⟨x, p, hx, hval.trans hp, hbound, ?_⟩
  simpa using herror

theorem exactSum_bounds {ranks : List Nat} (h : ranks.length ≤ 2) : 0 ≤ exactSum ranks ∧ exactSum ranks ≤ 1 / 30 := by
  match ranks, h with
  | [], _ => norm_num [exactSum]
  | [a], _ =>
    have ha := reciprocal_bounds a
    simp only [exactSum, List.map_cons, List.map_nil, List.sum_cons, List.sum_nil]
    constructor <;> linarith
  | [a, b], _ =>
    have ha := reciprocal_bounds a
    have hb := reciprocal_bounds b
    simp only [exactSum, List.map_cons, List.map_nil, List.sum_cons, List.sum_nil]
    constructor <;> linarith

theorem near_sum {ranks : List Nat} (h : ranks.length ≤ 2) :
    ∃ terms, ranks.mapM (fun rank => intDiv 1 (rrfK + rank : Nat)) = .ok terms ∧
      Near (Float64.sum terms) (exactSum ranks) (7 * 2 ^ (-55 : ℤ)) := by
  match ranks, h with
  | [], _ => exact ⟨[], rfl, Near.weaken (Near.exact Near.ofInt_zero) (by simp [exactSum]) (by norm_num)⟩
  | [a], _ =>
    obtain ⟨x, p, hx, hp, -, herror⟩ := reciprocal_float a
    refine ⟨[x], mapM_ok.mpr (.cons hx .nil), p, Near.sum_single hp, ?_⟩
    simp only [exactSum, List.map_cons, List.map_nil, List.sum_cons, List.sum_nil, add_zero]
    exact herror.trans (by norm_num)
  | [a, b], _ =>
    obtain ⟨x, p, hx, hp, hpb, hpe⟩ := reciprocal_float a
    obtain ⟨y, q, hy, hq, hqb, hqe⟩ := reciprocal_float b
    obtain ⟨r, hr, hre⟩ := Near.sum_pair hp hq (by norm_num) (by norm_num) hpb hqb
    refine ⟨[x, y], mapM_ok.mpr (.cons hx (.cons hy .nil)), r, hr, ?_⟩
    simp only [exactSum, List.map_cons, List.map_nil, List.sum_cons, List.sum_nil, add_zero]
    rw [abs_le] at *
    norm_num at *
    constructor <;> linarith

/-- The float of `2 / 61`. -/
theorem near_top : ∃ y, intDiv 2 (rrfK + 1 : Nat) = .ok y ∧ Near y (2 / 61) (2 ^ (-57 : ℤ)) := by
  have habs : |((2 : ℤ) : ℚ) / ((rrfK + 1 : Nat) : ℤ)| ≤ 2 ^ (-4 : ℤ) := by norm_num [rrfK, abs_of_pos]
  obtain ⟨y, hy, hval, -⟩ := exists_intDiv (by decide) (by norm_num) (by norm_num) habs
  obtain ⟨r, hr, herror⟩ := abs_fit_sub (by norm_num) (by norm_num) habs
  refine ⟨y, hy, r, hval.trans hr, ?_⟩
  norm_num [rrfK] at herror ⊢
  exact herror

/-- **Scores.** A score is computed, and up to `10⁻¹⁴`. -/
theorem near_score {ranks : List Nat} (h : ranks.length ≤ 2) :
    ∃ x, scoreOf ranks = .ok x ∧ Near x (exactScore ranks) (1 / 10 ^ 14) := by
  obtain ⟨terms, hterms, hsum⟩ := near_sum h
  obtain ⟨y, hy, htop⟩ := near_top
  obtain ⟨hnonneg, hle⟩ := exactSum_bounds h
  have hscore : |exactSum ranks / (2 / 61)| ≤ 61 / 60 := by
    rw [abs_of_nonneg (div_nonneg hnonneg (by norm_num)), div_le_iff₀ (by norm_num)]
    linarith
  have herror : (7 * 2 ^ (-55 : ℤ) + |exactSum ranks / (2 / 61)| * 2 ^ (-57 : ℤ)) / (1 / 32 : ℚ) ≤ 256 * 2 ^ (-55 : ℤ) := by
    rw [div_le_iff₀ (by norm_num)]
    norm_num at hscore ⊢
    linarith
  obtain ⟨z, hz, hnear⟩ := hsum.div htop (c := 1 / 32) (e := 1) (by norm_num) (by norm_num) (by norm_num) (by norm_num)
    (by norm_num) (by norm_num at hscore herror ⊢; linarith)
  refine ⟨z, bind_ok.mpr ⟨terms, hterms, bind_ok.mpr ⟨y, hy, hz⟩⟩, hnear.weaken rfl ?_⟩
  norm_num at herror ⊢
  linarith

/-! ## Hits -/

/-- What a hit tells of the candidate that it ranks. -/
structure Ranks (queryText : String) (merged : MergedCandidate E) (hit : SearchHit E) : Prop where
  message : hit.message = merged.candidate.message
  documentText : hit.documentText = merged.candidate.documentText
  distanceKm : hit.distanceKm = merged.candidate.distanceKm
  lexicalRank : hit.ranking.lexicalRank = merged.lexicalRank
  lexicalScore : hit.ranking.lexicalScore = merged.lexicalScore
  denseRank : hit.ranking.denseRank = merged.denseRank
  denseSimilarity : hit.ranking.denseSimilarity = merged.denseSimilarity
  rrfScore : ∃ x, scoreOf (ranksOf merged) = .ok x ∧ hit.ranking.rrfScore = x.round 8
  rerankScore : hit.ranking.rerankScore = hit.ranking.rrfScore
  tokenCoverage : hit.ranking.tokenCoverage.isFinite = true
  citation : hit.citation = validateEventCitation m merged.candidate.message.event

theorem tokenCoverage_ok (queryTokens documentTokens : List String) :
    ∃ x, tokenCoverage queryTokens documentTokens = .ok x ∧ Bounded x 0 := by
  unfold tokenCoverage
  split
  · exact ⟨_, rfl, Bounded.ofInt le_rfl (by norm_num) (by norm_num)⟩
  · rename_i hne
    have hpos : 0 < queryTokens.length := List.length_pos_iff.mpr hne
    have habs : |(((queryTokens.filter (· ∈ documentTokens)).length : ℤ) : ℚ) / (queryTokens.length : ℤ)| ≤ 2 ^ (0 : ℤ) := by
      rw [Int.cast_natCast, Int.cast_natCast, abs_of_nonneg (div_nonneg (Nat.cast_nonneg _) (Nat.cast_nonneg _)),
        zpow_zero, div_le_one (by exact_mod_cast hpos)]
      exact_mod_cast List.length_filter_le _ queryTokens
    obtain ⟨x, hx, -, hb⟩ := exists_intDiv (by omega) (by norm_num) (by norm_num) habs
    exact ⟨x, hx, hb⟩

/-- Every merged candidate gives a hit. -/
theorem exists_rankedHit (queryText : String) (merged : MergedCandidate E) :
    ∃ hit, rankedHit m queryText merged = .ok hit ∧ Ranks m queryText merged hit := by
  obtain ⟨x, hx, -⟩ := near_score (length_ranksOf merged)
  obtain ⟨c, hc, hb⟩ := tokenCoverage_ok (tokens m queryText) (tokens m merged.candidate.documentText)
  exact ⟨_, bind_ok.mpr ⟨x, hx, bind_ok.mpr ⟨c, hc, rfl⟩⟩, rfl, rfl, rfl, rfl, rfl, rfl, rfl, ⟨x, hx, rfl⟩, rfl,
    (hb.round 8 le_rfl (by norm_num)).isFinite, rfl⟩

theorem ranks_of_rankedHit {queryText : String} {merged : MergedCandidate E} {hit : SearchHit E}
    (h : rankedHit m queryText merged = .ok hit) : Ranks m queryText merged hit := by
  obtain ⟨hit', hhit, hranks⟩ := exists_rankedHit m queryText merged
  obtain rfl := Except.ok.inj (h.symm.trans hhit)
  exact hranks

theorem Ranks.rrfScore_isFinite {queryText : String} {merged : MergedCandidate E} {hit : SearchHit E}
    (h : Ranks m queryText merged hit) : hit.ranking.rrfScore.isFinite = true := by
  obtain ⟨x, hx, hround⟩ := h.rrfScore
  obtain ⟨y, hy, p, hp, herror⟩ := near_score (length_ranksOf merged)
  obtain rfl := Except.ok.inj (hx.symm.trans hy)
  obtain ⟨hnonneg, hle⟩ := exactSum_bounds (length_ranksOf merged)
  have hb : Bounded x 2 := by
    refine ⟨p, hp, ?_⟩
    have hscore : 0 ≤ exactScore (ranksOf merged) ∧ exactScore (ranksOf merged) ≤ 61 / 60 := by
      unfold exactScore
      constructor
      · exact div_nonneg hnonneg (by norm_num)
      · rw [div_le_iff₀ (by norm_num)]
        linarith
    rw [abs_le] at herror ⊢
    norm_num
    constructor <;> linarith [hscore.1, hscore.2]
  rw [hround]
  exact (hb.round 8 (by norm_num) (by norm_num)).isFinite

/-! ## Sort keys -/

/-- The value of a float. -/
def value (x : Float64) : ℚ := x.toRat?.getD 0

/-- The sort key of a hit: its rank or its score, the phrase and the coverage
where the mode asks for them, and its identity. -/
def sortKey (mode : RankingMode) (hit : SearchHit E) : ℚ ×ₗ ℕ ×ₗ ℚ ×ₗ String ×ₗ String :=
  toLex
    (match mode with
      | .lexical => (hit.ranking.lexicalRank.getD 0 : ℚ)
      | .dense => (hit.ranking.denseRank.getD 0 : ℚ)
      | _ => -value hit.ranking.rrfScore,
    toLex
      (match mode with
        | .hybrid => if hit.ranking.exactPhraseMatch then 0 else 1
        | _ => 0,
      toLex
        (match mode with
          | .hybrid => -value hit.ranking.tokenCoverage
          | _ => 0,
        toLex (hitKey m hit))))

/-- A hit that sorting can compare. -/
def Comparable (hit : SearchHit E) : Prop :=
  hit.ranking.rrfScore.isFinite = true ∧ hit.ranking.tokenCoverage.isFinite = true

theorem toRat?_value {x : Float64} (h : x.isFinite = true) : x.toRat? = some (value x) := by
  obtain ⟨p, hp⟩ := Float64.isFinite_iff.mp h
  rw [value, hp]
  rfl

theorem byScore_iff {x y : Float64} (hx : x.isFinite = true) (hy : y.isFinite = true) (rest : Bool) :
    (y.lt x || (x.beq y && rest)) = true ↔ -value x < -value y ∨ -value x = -value y ∧ rest = true := by
  rw [Bool.or_eq_true, Bool.and_eq_true, Float64.lt_iff (toRat?_value hy) (toRat?_value hx),
    Float64.beq_iff (toRat?_value hx) (toRat?_value hy), neg_lt_neg_iff, neg_inj]

theorem byRank_iff {x y : Nat} (rest : Bool) :
    (decide (x < y) || (decide (x = y) && rest)) = true ↔ (x : ℚ) < y ∨ (x : ℚ) = y ∧ rest = true := by
  rw [Bool.or_eq_true, Bool.and_eq_true, decide_eq_true_eq, decide_eq_true_eq, Nat.cast_lt, Nat.cast_inj]

theorem byPhrase_iff (x y rest : Bool) :
    ((x && !y) || (x == y && rest)) = true ↔
      (if x then 0 else 1) < (if y then 0 else 1) ∨ (if x then 0 else 1) = (if y then 0 else 1) ∧ rest = true := by
  cases x <;> cases y <;> simp

theorem ranksBefore_iff {mode : RankingMode} {a b : SearchHit E} (ha : Comparable a) (hb : Comparable b) :
    ranksBefore m mode a b = true ↔ sortKey m mode a ≤ sortKey m mode b := by
  have hkey : decide ((m.source a.message.event) < (m.source b.message.event) ∨
      m.source a.message.event = m.source b.message.event ∧ m.eventId a.message.event ≤ m.eventId b.message.event) = true ↔
      toLex (hitKey m a) ≤ toLex (hitKey m b) := by
    rw [decide_eq_true_eq, Prod.Lex.toLex_le_toLex]
    exact Iff.rfl
  unfold ranksBefore
  generalize decide ((m.source a.message.event) < (m.source b.message.event) ∨
      m.source a.message.event = m.source b.message.event ∧ m.eventId a.message.event ≤ m.eventId b.message.event) =
    byKey at hkey ⊢
  cases mode with
  | lexical =>
    simp only [byRank_iff, hkey, sortKey, Prod.Lex.toLex_le_toLex, lt_self_iff_false, false_or, true_and]
  | dense =>
    simp only [byRank_iff, hkey, sortKey, Prod.Lex.toLex_le_toLex, lt_self_iff_false, false_or, true_and]
  | rrf =>
    simp only [byScore_iff ha.1 hb.1, hkey, sortKey, Prod.Lex.toLex_le_toLex, lt_self_iff_false, false_or, true_and]
  | hybrid =>
    simp only [byScore_iff ha.1 hb.1, byScore_iff ha.2 hb.2, byPhrase_iff, hkey, sortKey, Prod.Lex.toLex_le_toLex]

/-! ## Merging -/

/-- One channel's candidates under their keys. -/
def keyed (candidates : List (ChannelCandidate E)) : List ((String × String) × ChannelCandidate E) :=
  candidates.map fun candidate => (candidateKey m candidate, candidate)

/-- A channel lists an identity at most once. -/
def ListsOnce (candidates : List (ChannelCandidate E)) : Prop := (candidates.map (candidateKey m)).Nodup

/-- A candidate with a distance replaces one without. -/
def withDistance (current : MergedCandidate E) (candidate : ChannelCandidate E) : MergedCandidate E :=
  if current.candidate.distanceKm.isNone && candidate.distanceKm.isSome then { current with candidate } else current

/-- What one channel's candidate makes of what is merged under its key. -/
def mergeInto (isLexical : Bool) (current : Option (MergedCandidate E)) (candidate : ChannelCandidate E) :
    MergedCandidate E :=
  let current := current.getD ⟨candidate, none, none, none, none⟩
  withDistance
    (if isLexical then { current with lexicalRank := some candidate.rank, lexicalScore := some candidate.score }
    else { current with denseRank := some candidate.rank, denseSimilarity := some candidate.score }) candidate

section
variable (current : MergedCandidate E) (candidate : ChannelCandidate E)

@[simp] theorem withDistance_lexicalRank : (withDistance current candidate).lexicalRank = current.lexicalRank := by
  unfold withDistance
  split <;> rfl

@[simp] theorem withDistance_lexicalScore : (withDistance current candidate).lexicalScore = current.lexicalScore := by
  unfold withDistance
  split <;> rfl

@[simp] theorem withDistance_denseRank : (withDistance current candidate).denseRank = current.denseRank := by
  unfold withDistance
  split <;> rfl

@[simp] theorem withDistance_denseSimilarity :
    (withDistance current candidate).denseSimilarity = current.denseSimilarity := by
  unfold withDistance
  split <;> rfl

theorem withDistance_candidate : (withDistance current candidate).candidate = candidate ∨
    (withDistance current candidate).candidate = current.candidate := by
  unfold withDistance
  split
  · exact Or.inl rfl
  · exact Or.inr rfl

end

theorem mergeCandidate_eq (isLexical : Bool) (merged : List ((String × String) × MergedCandidate E))
    (candidate : ChannelCandidate E) : mergeCandidate m isLexical merged candidate =
      PyDict.setItem merged (candidateKey m candidate)
        (mergeInto isLexical (PyDict.get merged (candidateKey m candidate)) candidate) := rfl

theorem map_fst_keyed (candidates : List (ChannelCandidate E)) :
    (keyed m candidates).map Prod.fst = candidates.map (candidateKey m) := by
  rw [keyed, List.map_map]
  rfl

theorem nodup_keyed {candidates : List (ChannelCandidate E)} (h : ListsOnce m candidates) :
    ((keyed m candidates).map Prod.fst).Nodup := by
  rw [map_fst_keyed]
  exact h

theorem get_mergeChannel (isLexical : Bool) {candidates : List (ChannelCandidate E)} (h : ListsOnce m candidates)
    {merged : List ((String × String) × MergedCandidate E)} (hmerged : (merged.map Prod.fst).Nodup)
    (key : String × String) :
    ((candidates.foldl (mergeCandidate m isLexical) merged).map Prod.fst).Nodup ∧
      PyDict.get (candidates.foldl (mergeCandidate m isLexical) merged) key =
        match PyDict.get (keyed m candidates) key with
        | none => PyDict.get merged key
        | some candidate => some (mergeInto isLexical (PyDict.get merged key) candidate) := by
  induction candidates generalizing merged with
  | nil => exact ⟨hmerged, rfl⟩
  | cons c candidates ih =>
    obtain ⟨hc, h⟩ := List.nodup_cons.mp h
    obtain ⟨hnodup, hget⟩ := ih h (PyDict.nodup_setItem hmerged)
    rw [List.foldl_cons, mergeCandidate_eq]
    refine ⟨hnodup, hget.trans ?_⟩
    rw [PyDict.get_setItem hmerged]
    have hhead : PyDict.get (keyed m (c :: candidates)) key =
        if key = candidateKey m c then some c else PyDict.get (keyed m candidates) key := by
      unfold PyDict.get keyed
      rw [List.map_cons, List.find?_cons]
      by_cases hkey : key = candidateKey m c
      · simp [hkey]
      · rw [if_neg hkey, decide_eq_false (fun he => hkey he.symm)]
    rw [hhead]
    by_cases hkey : key = candidateKey m c
    · -- the key of the head is listed once, so the rest of the channel leaves it alone
      have hnone : PyDict.get (keyed m candidates) key = none :=
        PyDict.get_eq_none.mpr (by rw [map_fst_keyed, hkey]; exact hc)
      rw [if_pos hkey, if_pos hkey, hnone, hkey]
    · rw [if_neg hkey, if_neg hkey]

/-- What the two channels list under a key, merged. -/
def mergedOf (lexical dense : Option (ChannelCandidate E)) : Option (MergedCandidate E) :=
  let afterLexical := lexical.map (mergeInto true none)
  match dense with
  | none => afterLexical
  | some candidate => some (mergeInto false afterLexical candidate)

/-- **Merge.** What is merged under a key depends on what the channels list
under it, and on nothing else. -/
theorem get_mergeBatch {batch : CandidateBatch E} (hlexical : ListsOnce m batch.lexical)
    (hdense : ListsOnce m batch.dense) (key : String × String) :
    ((mergeBatch m batch).map Prod.fst).Nodup ∧
      PyDict.get (mergeBatch m batch) key =
        mergedOf (PyDict.get (keyed m batch.lexical) key) (PyDict.get (keyed m batch.dense) key) := by
  obtain ⟨hnodup, hget⟩ := @get_mergeChannel E m true _ hlexical [] List.nodup_nil key
  obtain ⟨hnodup', hget'⟩ := get_mergeChannel m false hdense hnodup key
  refine ⟨hnodup', hget'.trans ?_⟩
  rw [hget]
  unfold mergedOf
  cases PyDict.get (keyed m batch.lexical) key <;> cases PyDict.get (keyed m batch.dense) key <;> rfl

theorem mergeInto_ranks (isLexical : Bool) (current : Option (MergedCandidate E)) (candidate : ChannelCandidate E) :
    (mergeInto isLexical current candidate).lexicalRank =
        (if isLexical then some candidate.rank else current.bind (·.lexicalRank)) ∧
      (mergeInto isLexical current candidate).lexicalScore =
        (if isLexical then some candidate.score else current.bind (·.lexicalScore)) ∧
      (mergeInto isLexical current candidate).denseRank =
        (if isLexical then current.bind (·.denseRank) else some candidate.rank) ∧
      (mergeInto isLexical current candidate).denseSimilarity =
        (if isLexical then current.bind (·.denseSimilarity) else some candidate.score) := by
  cases current <;> cases isLexical <;> simp [mergeInto]

theorem mergeInto_candidate (isLexical : Bool) (current : Option (MergedCandidate E)) (candidate : ChannelCandidate E) :
    (mergeInto isLexical current candidate).candidate = candidate ∨
      current.map (·.candidate) = some (mergeInto isLexical current candidate).candidate := by
  unfold mergeInto
  obtain hnew | hold := withDistance_candidate (if isLexical = true then
      { current.getD ⟨candidate, none, none, none, none⟩ with
        lexicalRank := some candidate.rank, lexicalScore := some candidate.score }
    else { current.getD ⟨candidate, none, none, none, none⟩ with
        denseRank := some candidate.rank, denseSimilarity := some candidate.score }) candidate
  · exact Or.inl hnew
  · cases current with
    | none =>
      refine Or.inl (hold.trans ?_)
      cases isLexical <;> rfl
    | some merged =>
      refine Or.inr (congrArg some (Eq.trans ?_ hold.symm))
      cases isLexical <;> rfl

/-- What every candidate passes on to what is merged under its key holds of the merge. -/
theorem mergeChannel_induction {P : String × String → MergedCandidate E → Prop} (isLexical : Bool)
    {candidates : List (ChannelCandidate E)}
    (step : ∀ c ∈ candidates, ∀ current : Option (MergedCandidate E), (∀ merged ∈ current, P (candidateKey m c) merged) →
      P (candidateKey m c) (mergeInto isLexical current c))
    {merged : List ((String × String) × MergedCandidate E)} (hnodup : (merged.map Prod.fst).Nodup)
    (hmerged : ∀ item ∈ merged, P item.1 item.2) :
    ((candidates.foldl (mergeCandidate m isLexical) merged).map Prod.fst).Nodup ∧
      ∀ item ∈ candidates.foldl (mergeCandidate m isLexical) merged, P item.1 item.2 := by
  induction candidates generalizing merged with
  | nil => exact ⟨hnodup, hmerged⟩
  | cons c candidates ih =>
    rw [List.foldl_cons, mergeCandidate_eq]
    apply ih (fun c hc => step c (List.mem_cons_of_mem _ hc)) (PyDict.nodup_setItem hnodup)
    intro item hitem
    obtain rfl | hitem := PyDict.mem_setItem hitem
    · apply step c List.mem_cons_self
      exact fun current hcurrent => hmerged _ ((PyDict.get_eq_some hnodup).mp hcurrent)
    · exact hmerged item hitem

theorem mergeBatch_induction {P : String × String → MergedCandidate E → Prop} {batch : CandidateBatch E}
    (step : ∀ isLexical, ∀ c ∈ batch.lexical ++ batch.dense, ∀ current : Option (MergedCandidate E),
      (∀ merged ∈ current, P (candidateKey m c) merged) → P (candidateKey m c) (mergeInto isLexical current c)) :
    ∀ item ∈ mergeBatch m batch, P item.1 item.2 := by
  obtain ⟨hnodup, hlexical⟩ := @mergeChannel_induction E m P true _
    (fun c hc => step true c (List.mem_append_left _ hc)) [] List.nodup_nil
    (fun item hitem => absurd hitem List.not_mem_nil)
  exact (mergeChannel_induction m false (fun c hc => step false c (List.mem_append_right _ hc)) hnodup hlexical).2

theorem nodup_mergeBatch (batch : CandidateBatch E) : ((mergeBatch m batch).map Prod.fst).Nodup := by
  obtain ⟨hnodup, h⟩ := @mergeChannel_induction E m (fun _ _ => True) true batch.lexical
    (fun _ _ _ _ => trivial) [] List.nodup_nil (fun _ _ => trivial)
  exact (mergeChannel_induction m (P := fun _ _ => True) false (fun _ _ _ _ => trivial) hnodup h).1

theorem key_of_mem_mergeBatch {batch : CandidateBatch E} {item : (String × String) × MergedCandidate E}
    (h : item ∈ mergeBatch m batch) : candidateKey m item.2.candidate = item.1 := by
  refine mergeBatch_induction m (P := fun key merged => candidateKey m merged.candidate = key) ?_ item h
  intro isLexical c _ current hcurrent
  obtain hnew | hold := mergeInto_candidate isLexical current c
  · rw [hnew]
  · obtain ⟨merged, hmerged, hsame⟩ := Option.map_eq_some_iff.mp hold
    rw [← hsame]
    exact hcurrent merged hmerged

theorem mergedOf_spec {lexical dense : Option (ChannelCandidate E)} {merged : MergedCandidate E}
    (h : mergedOf lexical dense = some merged) :
    merged.lexicalRank = lexical.map (·.rank) ∧ merged.lexicalScore = lexical.map (·.score) ∧
      merged.denseRank = dense.map (·.rank) ∧ merged.denseSimilarity = dense.map (·.score) ∧
      (lexical = some merged.candidate ∨ dense = some merged.candidate) := by
  have hfirst : ∀ l : ChannelCandidate E, (mergeInto true none l).candidate = l := fun l =>
    (mergeInto_candidate true none l).resolve_right (by simp)
  cases dense with
  | none =>
    cases lexical with
    | none => cases h
    | some l =>
      obtain rfl := Option.some.inj h
      obtain ⟨h1, h2, h3, h4⟩ := mergeInto_ranks true none l
      exact ⟨h1, h2, h3, h4, Or.inl (congrArg some (hfirst l).symm)⟩
  | some d =>
    obtain rfl := Option.some.inj h
    obtain ⟨h1, h2, h3, h4⟩ := mergeInto_ranks false (lexical.map (mergeInto true none)) d
    refine ⟨h1.trans ?_, h2.trans ?_, h3, h4, ?_⟩
    · cases lexical with
      | none => rfl
      | some l => exact (mergeInto_ranks true none l).1
    · cases lexical with
      | none => rfl
      | some l => exact (mergeInto_ranks true none l).2.1
    · obtain hd | hl := mergeInto_candidate false (lexical.map (mergeInto true none)) d
      · exact Or.inr (congrArg some hd.symm)
      · cases lexical with
        | none => cases hl
        | some l => exact Or.inl ((congrArg some (hfirst l)).symm.trans hl)

/-- An item of the merge, read off the channels. -/
theorem mem_mergeBatch {batch : CandidateBatch E} (hlexical : ListsOnce m batch.lexical) (hdense : ListsOnce m batch.dense)
    {item : (String × String) × MergedCandidate E} :
    item ∈ mergeBatch m batch ↔
      mergedOf (PyDict.get (keyed m batch.lexical) item.1) (PyDict.get (keyed m batch.dense) item.1) = some item.2 := by
  obtain ⟨hnodup, hget⟩ := get_mergeBatch m hlexical hdense item.1
  rw [← hget, PyDict.get_eq_some hnodup]

theorem get_keyed {candidates : List (ChannelCandidate E)} (h : ListsOnce m candidates) {key : String × String}
    {candidate : ChannelCandidate E} : PyDict.get (keyed m candidates) key = some candidate ↔
      candidate ∈ candidates ∧ candidateKey m candidate = key := by
  rw [PyDict.get_eq_some (nodup_keyed m h), keyed, List.mem_map]
  constructor
  · rintro ⟨c, hc, heq⟩
    obtain ⟨rfl, rfl⟩ := Prod.mk.injEq _ _ _ _ ▸ heq
    exact ⟨hc, rfl⟩
  · rintro ⟨hc, rfl⟩
    exact ⟨candidate, hc, rfl⟩

/-- The merge does not depend on the order of the candidate lists. -/
theorem mergeBatch_perm {batch batch' : CandidateBatch E} (hlexical : ListsOnce m batch.lexical)
    (hdense : ListsOnce m batch.dense) (hl : batch'.lexical.Perm batch.lexical) (hd : batch'.dense.Perm batch.dense) :
    (mergeBatch m batch').Perm (mergeBatch m batch) := by
  have hlexical' : ListsOnce m batch'.lexical := (hl.map _).nodup_iff.mpr hlexical
  have hdense' : ListsOnce m batch'.dense := (hd.map _).nodup_iff.mpr hdense
  have hkey : ∀ key, PyDict.get (mergeBatch m batch') key = PyDict.get (mergeBatch m batch) key := by
    intro key
    have hl : PyDict.get (keyed m batch'.lexical) key = PyDict.get (keyed m batch.lexical) key :=
      PyDict.get_perm (nodup_keyed m hlexical) (hl.map _) key
    have hd : PyDict.get (keyed m batch'.dense) key = PyDict.get (keyed m batch.dense) key :=
      PyDict.get_perm (nodup_keyed m hdense) (hd.map _) key
    rw [(get_mergeBatch m hlexical' hdense' key).2, (get_mergeBatch m hlexical hdense key).2, hl, hd]
  exact PyDict.perm_of_get (nodup_mergeBatch m batch') (nodup_mergeBatch m batch) hkey

/-! ## Sorting -/

theorem pairwise_sorted {mode : RankingMode} {hits : List (SearchHit E)} (h : ∀ hit ∈ hits, Comparable hit) :
    (hits.insertionSort fun a b => ranksBefore m mode a b = true).Pairwise
      fun a b => sortKey m mode a ≤ sortKey m mode b := by
  have hmap := List.map_insertionSort (r := fun a b => ranksBefore m mode a b = true) (s := (· ≤ ·)) (sortKey m mode) hits
    fun a ha b hb => ranksBefore_iff m (h a ha) (h b hb)
  rw [← List.pairwise_map, hmap]
  exact List.pairwise_insertionSort _ _

theorem hitKey_of_sortKey {mode : RankingMode} {a b : SearchHit E} (h : sortKey m mode a = sortKey m mode b) :
    hitKey m a = hitKey m b := by
  have h := congrArg (fun key => ofLex (ofLex (ofLex (ofLex key).2).2).2) h
  exact h

/-- **Sorting.** The sort keys order hits of different identities completely. -/
theorem sorted_perm {mode : RankingMode} {hits hits' : List (SearchHit E)} (h : ∀ hit ∈ hits, Comparable hit)
    (hkeys : (hits.map (hitKey m)).Nodup) (hperm : hits'.Perm hits) :
    hits'.insertionSort (fun a b => ranksBefore m mode a b = true) =
      hits.insertionSort fun a b => ranksBefore m mode a b = true := by
  have hinj : ∀ a ∈ hits, ∀ b ∈ hits, hitKey m a = hitKey m b → a = b := fun a ha b hb =>
    List.inj_on_of_nodup_map hkeys ha hb
  refine @List.Perm.eq_of_pairwise _ (fun a b => sortKey m mode a ≤ sortKey m mode b) _ _ ?_ ?_ ?_ ?_
  · intro a b ha hb hab hba
    have ha := hperm.mem_iff.mp (List.mem_insertionSort _ |>.mp ha)
    exact hinj a ha b (List.mem_insertionSort _ |>.mp hb) (hitKey_of_sortKey m (le_antisymm hab hba))
  · exact pairwise_sorted m fun hit hhit => h hit (hperm.mem_iff.mp hhit)
  · exact pairwise_sorted m h
  · exact (List.perm_insertionSort _ hits').trans (hperm.trans (List.perm_insertionSort _ hits).symm)

/-! ## Ranking -/

/-- The hits of a batch before a mode selects and sorts them. -/
def hitsOf (queryText : String) (batch : CandidateBatch E) : Except String (List (SearchHit E)) :=
  (mergeBatch m batch).mapM fun item => rankedHit m queryText item.2

theorem rankCandidates_eq {queryText : String} {batch : CandidateBatch E} {hits : List (SearchHit E)}
    (h : hitsOf m queryText batch = .ok hits) (limit : Nat) (mode : RankingMode) :
    rankCandidates m batch queryText limit mode =
      .ok (((hits.filter (rankedBy mode)).insertionSort fun a b => ranksBefore m mode a b = true).take limit) :=
  bind_ok.mpr ⟨hits, h, rfl⟩

theorem hitKey_of_ranks {queryText : String} {merged : MergedCandidate E} {hit : SearchHit E}
    (h : Ranks m queryText merged hit) : hitKey m hit = candidateKey m merged.candidate := by
  rw [hitKey, candidateKey, h.message]

theorem exists_hitsOf (queryText : String) (batch : CandidateBatch E) : ∃ hits, hitsOf m queryText batch = .ok hits :=
  exists_mapM fun item _ => (exists_rankedHit m queryText item.2).imp fun _ h => h.1

theorem comparable_of_ranks {queryText : String} {merged : MergedCandidate E} {hit : SearchHit E}
    (h : Ranks m queryText merged hit) : Comparable hit := ⟨h.rrfScore_isFinite m, h.tokenCoverage⟩

section
variable {queryText : String} {batch : CandidateBatch E} {hits : List (SearchHit E)}

theorem comparable_hits (h : hitsOf m queryText batch = .ok hits) : ∀ hit ∈ hits, Comparable hit := by
  intro hit hhit
  obtain ⟨item, -, hitem⟩ := (mem_mapM h).1 hit hhit
  exact comparable_of_ranks m (ranks_of_rankedHit m hitem)

theorem map_hitKey (h : hitsOf m queryText batch = .ok hits) : hits.map (hitKey m) = (mergeBatch m batch).map Prod.fst := by
  apply map_of_mapM h
  intro item hitem hit hhit
  rw [hitKey_of_ranks m (ranks_of_rankedHit m hhit), key_of_mem_mergeBatch m hitem]

theorem nodup_hitKey (h : hitsOf m queryText batch = .ok hits) : (hits.map (hitKey m)).Nodup := by
  rw [map_hitKey m h]
  exact nodup_mergeBatch m batch

/-- Permuted candidate lists give permuted hits. -/
theorem hitsOf_perm {batch' : CandidateBatch E} (hlexical : ListsOnce m batch.lexical) (hdense : ListsOnce m batch.dense)
    (hl : batch'.lexical.Perm batch.lexical) (hd : batch'.dense.Perm batch.dense)
    (h : hitsOf m queryText batch = .ok hits) : ∃ hits', hitsOf m queryText batch' = .ok hits' ∧ hits'.Perm hits := by
  choose hit hhit hranks using exists_rankedHit m queryText
  have hall : ∀ b : CandidateBatch E, hitsOf m queryText b = .ok ((mergeBatch m b).map fun item => hit item.2) := fun b =>
    mapM_of_ok fun item _ => hhit item.2
  obtain rfl := Except.ok.inj ((hall batch).symm.trans h)
  exact ⟨_, hall batch', (mergeBatch_perm m hlexical hdense hl hd).map _⟩

/-- The order of one channel: ranks, then identities. -/
def channelKey (candidate : ChannelCandidate E) : ℕ ×ₗ String ×ₗ String :=
  toLex (candidate.rank, toLex (candidateKey m candidate))

/-- A channel's identities in the order of their ranks. -/
def inRankOrder (candidates : List (ChannelCandidate E)) : List (String × String) :=
  (candidates.insertionSort fun a b => channelKey m a ≤ channelKey m b).map (candidateKey m)

/-- What one channel ranks, sorted by its ranks, is the channel in rank order. -/
theorem sorted_channel {mode : RankingMode} {rank : SearchHit E → Option Nat} {candidates : List (ChannelCandidate E)}
    {ranked : List (SearchHit E)} (hcandidates : ListsOnce m candidates) (hcomparable : ∀ hit ∈ ranked, Comparable hit)
    (hkeys : (ranked.map (hitKey m)).Nodup)
    (hmem : ∀ key n, (∃ hit ∈ ranked, hitKey m hit = key ∧ rank hit = some n) ↔
      ∃ candidate, PyDict.get (keyed m candidates) key = some candidate ∧ candidate.rank = n)
    (hranked : ∀ hit ∈ ranked, (rank hit).isSome)
    (hkey : ∀ a b : SearchHit E, sortKey m mode a ≤ sortKey m mode b ↔
      toLex ((rank a).getD 0, toLex (hitKey m a)) ≤ toLex ((rank b).getD 0, toLex (hitKey m b))) :
    (ranked.insertionSort fun a b => ranksBefore m mode a b = true).map (hitKey m) = inRankOrder m candidates := by
  have hsorted := List.map_insertionSort (r := fun a b => ranksBefore m mode a b = true) (s := (· ≤ ·))
    (fun hit => toLex ((rank hit).getD 0, toLex (hitKey m hit))) ranked
    fun a ha b hb => (ranksBefore_iff m (hcomparable a ha) (hcomparable b hb)).trans (hkey a b)
  have hchannel := List.map_insertionSort (r := fun a b => channelKey m a ≤ channelKey m b) (s := (· ≤ ·))
    (channelKey m) candidates fun a _ b _ => Iff.rfl
  have hnodup : (ranked.map fun hit => toLex ((rank hit).getD 0, toLex (hitKey m hit))).Nodup := by
    apply List.Nodup.of_map fun key : ℕ ×ₗ String ×ₗ String => ofLex (ofLex key).2
    rw [List.map_map]
    exact hkeys
  have hnodup' : (candidates.map (channelKey m)).Nodup := by
    apply List.Nodup.of_map fun key : ℕ ×ₗ String ×ₗ String => ofLex (ofLex key).2
    rw [List.map_map]
    exact hcandidates
  have hperm : (ranked.map fun hit => toLex ((rank hit).getD 0, toLex (hitKey m hit))).Perm
      (candidates.map (channelKey m)) := by
    rw [List.perm_ext_iff_of_nodup hnodup hnodup']
    intro x
    rw [List.mem_map, List.mem_map]
    constructor
    · rintro ⟨hit, hhit, rfl⟩
      obtain ⟨n, hn⟩ := Option.isSome_iff_exists.mp (hranked hit hhit)
      obtain ⟨candidate, hget, rfl⟩ := (hmem (hitKey m hit) n).mp ⟨hit, hhit, rfl, hn⟩
      obtain ⟨hc, hck⟩ := (get_keyed m hcandidates).mp hget
      exact ⟨candidate, hc, by rw [channelKey, hck, hn, Option.getD_some]⟩
    · rintro ⟨candidate, hc, rfl⟩
      obtain ⟨hit, hhit, hhk, hn⟩ := (hmem (candidateKey m candidate) candidate.rank).mpr
        ⟨candidate, (get_keyed m hcandidates).mpr ⟨hc, rfl⟩, rfl⟩
      exact ⟨hit, hhit, by rw [channelKey, hhk, hn, Option.getD_some]⟩
  have heq : (ranked.map fun hit => toLex ((rank hit).getD 0, toLex (hitKey m hit))).insertionSort (· ≤ ·) =
      (candidates.map (channelKey m)).insertionSort (· ≤ ·) :=
    ((List.perm_insertionSort _ _).trans (hperm.trans (List.perm_insertionSort _ _).symm)).eq_of_pairwise'
      (List.pairwise_insertionSort _ _) (List.pairwise_insertionSort _ _)
  rw [← hsorted, ← hchannel] at heq
  have hproj := congrArg (List.map fun key : ℕ ×ₗ String ×ₗ String => ofLex (ofLex key).2) heq
  rw [List.map_map, List.map_map] at hproj
  exact hproj

theorem mergedOf_isSome {lexical dense : Option (ChannelCandidate E)} :
    (∃ merged, mergedOf lexical dense = some merged) ↔ lexical.isSome ∨ dense.isSome := by
  unfold mergedOf
  cases lexical <;> cases dense <;> simp

/-- The hits of a batch, read off the channels. -/
theorem exists_hit_iff (hlexical : ListsOnce m batch.lexical) (hdense : ListsOnce m batch.dense)
    (h : hitsOf m queryText batch = .ok hits) (key : String × String) (p : Option Nat → Option Nat → Prop) :
    (∃ hit ∈ hits, hitKey m hit = key ∧ p hit.ranking.lexicalRank hit.ranking.denseRank) ↔
      ((PyDict.get (keyed m batch.lexical) key).isSome ∨ (PyDict.get (keyed m batch.dense) key).isSome) ∧
        p ((PyDict.get (keyed m batch.lexical) key).map (·.rank)) ((PyDict.get (keyed m batch.dense) key).map (·.rank)) := by
  constructor
  · rintro ⟨hit, hhit, rfl, hp⟩
    obtain ⟨item, hitem, hok⟩ := (mem_mapM h).1 hit hhit
    have hranks := ranks_of_rankedHit m hok
    have hkey : hitKey m hit = item.1 := by
      rw [hitKey_of_ranks m hranks, key_of_mem_mergeBatch m hitem]
    have hmerged := (mem_mergeBatch m hlexical hdense).mp hitem
    obtain ⟨hl, -, hd, -, -⟩ := mergedOf_spec hmerged
    rw [hkey, ← hl, ← hd, ← hranks.lexicalRank, ← hranks.denseRank]
    exact ⟨mergedOf_isSome.mp ⟨_, hmerged⟩, hp⟩
  · rintro ⟨hsome, hp⟩
    obtain ⟨merged, hmerged⟩ := mergedOf_isSome.mpr hsome
    have hitem : (key, merged) ∈ mergeBatch m batch := (mem_mergeBatch m hlexical hdense).mpr hmerged
    obtain ⟨hit, hhit, hok⟩ := (mem_mapM h).2 _ hitem
    have hranks := ranks_of_rankedHit m hok
    obtain ⟨hl, -, hd, -, -⟩ := mergedOf_spec hmerged
    refine ⟨hit, hhit, ?_, ?_⟩
    · rw [hitKey_of_ranks m hranks]
      exact key_of_mem_mergeBatch m hitem
    · rw [hranks.lexicalRank, hranks.denseRank, hl, hd]
      exact hp

/-- What the mode of one channel ranks, sorted, is the channel in rank order. -/
theorem channel_in_rank_order {mode : RankingMode} {rank : SearchHit E → Option Nat}
    {candidates : List (ChannelCandidate E)} (hcandidates : ListsOnce m candidates)
    (h : hitsOf m queryText batch = .ok hits)
    (hmem : ∀ key n, (∃ hit ∈ hits, hitKey m hit = key ∧ rank hit = some n) ↔
      (PyDict.get (keyed m candidates) key).map (·.rank) = some n)
    (hby : ∀ hit : SearchHit E, rankedBy mode hit = (rank hit).isSome)
    (hkey : ∀ a b : SearchHit E, sortKey m mode a ≤ sortKey m mode b ↔
      toLex ((rank a).getD 0, toLex (hitKey m a)) ≤ toLex ((rank b).getD 0, toLex (hitKey m b))) :
    ((hits.filter (rankedBy mode)).insertionSort fun a b => ranksBefore m mode a b = true).map (hitKey m) =
      inRankOrder m candidates := by
  apply @sorted_channel E m _ rank _ _ hcandidates
  · exact fun hit hhit => comparable_hits m h hit (List.mem_of_mem_filter hhit)
  · exact (nodup_hitKey m h).sublist (List.filter_sublist.map _)
  · intro key n
    rw [← Option.map_eq_some_iff, ← hmem key n]
    constructor
    · rintro ⟨hit, hhit, hkey, hn⟩
      exact ⟨hit, List.mem_of_mem_filter hhit, hkey, hn⟩
    · rintro ⟨hit, hhit, hkey, hn⟩
      exact ⟨hit, List.mem_filter.mpr ⟨hhit, by rw [hby, hn]; rfl⟩, hkey, hn⟩
  · intro hit hhit
    rw [← hby]
    exact (List.mem_filter.mp hhit).2
  · exact hkey

theorem lexical_in_rank_order (hlexical : ListsOnce m batch.lexical) (hdense : ListsOnce m batch.dense)
    (h : hitsOf m queryText batch = .ok hits) :
    ((hits.filter (rankedBy .lexical)).insertionSort fun a b => ranksBefore m .lexical a b = true).map (hitKey m) =
      inRankOrder m batch.lexical := by
  apply @channel_in_rank_order E m _ _ _ _ (fun hit => hit.ranking.lexicalRank) _ hlexical h
  · intro key n
    rw [exists_hit_iff m hlexical hdense h key fun l _ => l = some n, and_iff_right_iff_imp]
    exact fun hn => Or.inl (by rw [← Option.isSome_map (f := ChannelCandidate.rank), hn]; rfl)
  · exact fun hit => rfl
  · intro a b
    simp only [sortKey, Prod.Lex.toLex_le_toLex, lt_self_iff_false, false_or, true_and, Nat.cast_lt, Nat.cast_inj]

theorem dense_in_rank_order (hlexical : ListsOnce m batch.lexical) (hdense : ListsOnce m batch.dense)
    (h : hitsOf m queryText batch = .ok hits) :
    ((hits.filter (rankedBy .dense)).insertionSort fun a b => ranksBefore m .dense a b = true).map (hitKey m) =
      inRankOrder m batch.dense := by
  apply @channel_in_rank_order E m _ _ _ _ (fun hit => hit.ranking.denseRank) _ hdense h
  · intro key n
    rw [exists_hit_iff m hlexical hdense h key fun _ d => d = some n, and_iff_right_iff_imp]
    exact fun hn => Or.inr (by rw [← Option.isSome_map (f := ChannelCandidate.rank), hn]; rfl)
  · exact fun hit => rfl
  · intro a b
    simp only [sortKey, Prod.Lex.toLex_le_toLex, lt_self_iff_false, false_or, true_and, Nat.cast_lt, Nat.cast_inj]

end

/-- **Rank fusion.** Each identity is ranked once, whatever the order of the
candidate lists; a limit cuts the ranking off; and one channel's mode ranks the
channel's identities alone. -/
theorem rank_fusion_laws {batch : CandidateBatch E} (hlexical : ListsOnce m batch.lexical)
    (hdense : ListsOnce m batch.dense) (queryText : String) (mode : RankingMode) :
    ∃ hits : List (SearchHit E), (hits.map (hitKey m)).Nodup ∧
      (∀ batch' : CandidateBatch E, batch'.lexical.Perm batch.lexical → batch'.dense.Perm batch.dense → ∀ limit,
        rankCandidates m batch' queryText limit mode = .ok (hits.take limit)) ∧
      (mode = .lexical → hits.map (hitKey m) = inRankOrder m batch.lexical) ∧
      (mode = .dense → hits.map (hitKey m) = inRankOrder m batch.dense) := by
  obtain ⟨hits, hhits⟩ := exists_hitsOf m queryText batch
  have hnodup := nodup_hitKey m hhits
  have hfiltered : ((hits.filter (rankedBy mode)).map (hitKey m)).Nodup := hnodup.sublist (List.filter_sublist.map _)
  have hcomparable : ∀ hit ∈ hits.filter (rankedBy mode), Comparable hit := fun hit hhit =>
    comparable_hits m hhits hit (List.mem_of_mem_filter hhit)
  refine ⟨(hits.filter (rankedBy mode)).insertionSort fun a b => ranksBefore m mode a b = true, ?_, ?_, ?_, ?_⟩
  · exact ((List.perm_insertionSort _ _).map _).nodup_iff.mpr hfiltered
  · intro batch' hl hd limit
    obtain ⟨hits', hhits', hperm⟩ := hitsOf_perm m hlexical hdense hl hd hhits
    rw [rankCandidates_eq m hhits', sorted_perm m hcomparable hfiltered (hperm.filter _)]
  · rintro rfl
    exact lexical_in_rank_order m hlexical hdense hhits
  · rintro rfl
    exact dense_in_rank_order m hlexical hdense hhits

namespace QuakePack

def aftershock : Report := ⟨"aftershock", "usgs", day, "https://earthquake.usgs.gov/aftershock"⟩

/-- The quake is in both channels, with a distance in one of them. -/
def found : CandidateBatch Report where
  lexical := [⟨⟨"1-0", report⟩, document, 1, Float64.ofInt 1, none⟩]
  dense :=
    [⟨⟨"2-0", aftershock⟩, document, 1, Float64.ofInt 1, none⟩,
      ⟨⟨"1-0", report⟩, document, 2, Float64.ofInt 1, some (Float64.ofInt 1)⟩]

theorem found_lexical : ListsOnce reports found.lexical := by
  unfold ListsOnce
  decide

theorem found_dense : ListsOnce reports found.dense := by
  unfold ListsOnce
  decide

end QuakePack

open QuakePack in
theorem rank_fusion_laws_quakes :
    ∃ hits : List (SearchHit Report), (hits.map (hitKey reports)).Nodup ∧
      (∀ batch' : CandidateBatch Report, batch'.lexical.Perm found.lexical → batch'.dense.Perm found.dense → ∀ limit,
        rankCandidates reports batch' "earthquake" limit .dense = .ok (hits.take limit)) ∧
      (RankingMode.dense = .lexical → hits.map (hitKey reports) = inRankOrder reports found.lexical) ∧
      (RankingMode.dense = .dense → hits.map (hitKey reports) = inRankOrder reports found.dense) :=
  rank_fusion_laws reports found_lexical found_dense "earthquake" .dense

end AtlasPulse
