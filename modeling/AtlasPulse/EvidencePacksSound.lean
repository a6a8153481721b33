import AtlasPulse.PackBuildSound

/-!
# Soundness of evidence packs

A pack id is the hash of all that a reader relies on, so two accepted packs with
one id agree in it. A built pack is accepted: every ranked hit is an item or an
exclusion of its own, in the order of the ranks and within the budget.
-/

namespace AtlasPulse

open PyJson PyTime PyText Binary64

variable {E : Type} (m : RetrievalModel E)

/-! ## Packs that read alike -/

/-- A number as JSON writes it. -/
def Number.written : Number → Int ⊕ FloatRepr
  | .int n => .inl n
  | .float x => .inr (m.floatRepr x)

/-- Floats that JSON writes alike. -/
def SameFloat (x y : Float64) : Prop := m.floatRepr x = m.floatRepr y

structure SameRanking (a b : RankingExplanation) : Prop where
  lexicalRank : a.lexicalRank = b.lexicalRank
  lexicalScore : a.lexicalScore.map m.floatRepr = b.lexicalScore.map m.floatRepr
  denseRank : a.denseRank = b.denseRank
  denseSimilarity : a.denseSimilarity.map m.floatRepr = b.denseSimilarity.map m.floatRepr
  rrfScore : SameFloat m a.rrfScore b.rrfScore
  exactPhraseMatch : a.exactPhraseMatch = b.exactPhraseMatch
  tokenCoverage : SameFloat m a.tokenCoverage b.tokenCoverage
  rerankScore : SameFloat m a.rerankScore b.rerankScore

structure SameItem (a b : EvidencePackItem) : Prop where
  evidenceId : a.evidenceId = b.evidenceId
  retrievalRank : a.retrievalRank = b.retrievalRank
  streamId : a.streamId = b.streamId
  eventId : a.eventId = b.eventId
  eventType : a.eventType = b.eventType
  source : a.source = b.source
  occurredAt : canonicalTime a.occurredAt = canonicalTime b.occurredAt
  ingestedAt : canonicalTime a.ingestedAt = canonicalTime b.ingestedAt
  eventSchemaVersion : a.eventSchemaVersion = b.eventSchemaVersion
  text : a.text = b.text
  documentSha256 : a.documentSha256 = b.documentSha256
  textSha256 : a.textSha256 = b.textSha256
  documentCharacters : a.documentCharacters = b.documentCharacters
  textCharacters : a.textCharacters = b.textCharacters
  truncated : a.truncated = b.truncated
  distanceKm : a.distanceKm.map m.floatRepr = b.distanceKm.map m.floatRepr
  ranking : SameRanking m a.ranking b.ranking
  citation : a.citation = b.citation

structure SameExclusion (a b : EvidencePackExclusion) : Prop where
  retrievalRank : a.retrievalRank = b.retrievalRank
  streamId : a.streamId = b.streamId
  eventId : a.eventId = b.eventId
  eventType : a.eventType = b.eventType
  source : a.source = b.source
  occurredAt : canonicalTime a.occurredAt = canonicalTime b.occurredAt
  ingestedAt : canonicalTime a.ingestedAt = canonicalTime b.ingestedAt
  eventSchemaVersion : a.eventSchemaVersion = b.eventSchemaVersion
  documentSha256 : a.documentSha256 = b.documentSha256
  distanceKm : a.distanceKm.map m.floatRepr = b.distanceKm.map m.floatRepr
  ranking : SameRanking m a.ranking b.ranking
  citation : a.citation = b.citation
  reason : a.reason = b.reason

/-- The floats of a viewport, as written. -/
def writtenBounds (b : {b : GeoBounds // b.validate = .ok ()}) : List FloatRepr :=
  [b.val.west, b.val.south, b.val.east, b.val.north].map m.floatRepr

def writtenRadius (r : {r : GeoRadius // r.validate = .ok ()}) : List FloatRepr :=
  [r.val.longitude, r.val.latitude, r.val.radiusKm].map m.floatRepr

structure SameQuery (a b : SearchQuery) : Prop where
  text : a.text = b.text
  limit : a.limit = b.limit
  candidateLimit : a.candidateLimit = b.candidateLimit
  source : a.source = b.source
  occurredAfter : a.occurredAfter.map canonicalTime = b.occurredAfter.map canonicalTime
  occurredBefore : a.occurredBefore.map canonicalTime = b.occurredBefore.map canonicalTime
  bounds : a.bounds.map (writtenBounds m) = b.bounds.map (writtenBounds m)
  near : a.near.map (writtenRadius m) = b.near.map (writtenRadius m)
  activeOnly : a.activeOnly = b.activeOnly
  minMagnitude : a.minMagnitude.map (Number.written m) = b.minMagnitude.map (Number.written m)
  maxDepthKm : a.maxDepthKm.map (Number.written m) = b.maxDepthKm.map (Number.written m)
  tsunami : a.tsunami = b.tsunami
  alertType : a.alertType = b.alertType
  minConfidenceRank : a.minConfidenceRank = b.minConfidenceRank
  observationPeriod : a.observationPeriod = b.observationPeriod
  rankingMode : a.rankingMode = b.rankingMode

structure SameRetrieval (a b : EvidencePackRetrieval) : Prop where
  query : SameQuery m a.query b.query
  candidatesConsidered : a.candidatesConsidered = b.candidatesConsidered
  returnedHits : a.returnedHits = b.returnedHits
  embeddingModel : a.embeddingModel = b.embeddingModel
  rankingMode : a.rankingMode = b.rankingMode
  rankingRule : a.rankingRule = b.rankingRule
  caveat : a.caveat = b.caveat

/-- Packs that are equal, up to texts of times and floats, in all their fields. -/
structure SamePack (a b : EvidencePack) : Prop where
  packId : a.packId = b.packId
  schemaVersion : a.schemaVersion = b.schemaVersion
  ruleVersion : a.ruleVersion = b.ruleVersion
  identityAlgorithm : a.identityAlgorithm = b.identityAlgorithm
  status : a.status = b.status
  budget : a.budget = b.budget
  retrieval : SameRetrieval m a.retrieval b.retrieval
  items : List.Forall₂ (SameItem m) a.items b.items
  exclusions : List.Forall₂ (SameExclusion m) a.exclusions b.exclusions
  sourceTextCharacters : a.sourceTextCharacters = b.sourceTextCharacters
  trustBoundary : a.trustBoundary = b.trustBoundary
  caveat : a.caveat = b.caveat

/-! ## Reading canonical JSON back -/

variable {m}

theorem floatJson_ok {x : Float64} {v : Json} (h : floatJson m x = .ok v) : v = .float (m.floatRepr x) := by
  unfold floatJson at h
  split at h
  · exact (Except.ok.inj h).symm
  · cases h

theorem floatJson_ne_null {x : Float64} {v : Json} (h : floatJson m x = .ok v) : sortKeys v ≠ .null := by
  rw [floatJson_ok h]
  simp [sortKeys]

theorem sameFloat_of_json {x y : Float64} {v w : Json} (hx : floatJson m x = .ok v) (hy : floatJson m y = .ok w)
    (h : sortKeys v = sortKeys w) : SameFloat m x y := by
  rw [floatJson_ok hx, floatJson_ok hy] at h
  exact Json.float.inj h

/-- An optional value is read back when no value is written as a null. -/
theorem optionalJson_inj {α β : Type} {encode : α → Except String Json} {f : α → β}
    (hnull : ∀ {x v}, encode x = .ok v → sortKeys v ≠ .null)
    (hf : ∀ {x y v w}, encode x = .ok v → encode y = .ok w → sortKeys v = sortKeys w → f x = f y) {a b : Option α}
    {v w : Json} (ha : optionalJson encode a = .ok v) (hb : optionalJson encode b = .ok w) (h : sortKeys v = sortKeys w) :
    a.map f = b.map f := by
  cases a with
  | none =>
    obtain rfl := Except.ok.inj ha
    cases b with
    | none => rfl
    | some y => exact absurd h.symm (hnull hb)
  | some x =>
    cases b with
    | none =>
      obtain rfl := Except.ok.inj hb
      exact absurd h (hnull ha)
    | some y => exact congrArg some (hf ha hb h)

theorem sameFloats_of_json {x y : Option Float64} {v w : Json} (hx : optionalJson (floatJson m) x = .ok v)
    (hy : optionalJson (floatJson m) y = .ok w) (h : sortKeys v = sortKeys w) :
    x.map m.floatRepr = y.map m.floatRepr :=
  optionalJson_inj floatJson_ne_null sameFloat_of_json hx hy h

theorem optionalMember_inj {α β : Type} {key : String} {encode : α → Except String Json} {f : α → β}
    (hf : ∀ {x y v w}, encode x = .ok v → encode y = .ok w → sortKeys v = sortKeys w → f x = f y) {a b : Option α}
    {o o' : List (String × Json)} (ha : optionalMember key encode a = .ok o) (hb : optionalMember key encode b = .ok o')
    (h : o.head?.map (sortKeys ∘ Prod.snd) = o'.head?.map (sortKeys ∘ Prod.snd)) : a.map f = b.map f := by
  have hsome : ∀ {x : α} {o : List (String × Json)}, optionalMember key encode (some x) = .ok o →
      ∃ v, encode x = .ok v ∧ o = [(key, v)] := by
    intro x o hx
    obtain ⟨v, hv, ho⟩ := map_ok.mp hx
    exact ⟨v, hv, ho.symm⟩
  cases a with
  | none =>
    obtain rfl := Except.ok.inj ha
    cases b with
    | none => rfl
    | some y =>
      obtain ⟨w, -, rfl⟩ := hsome hb
      cases h
  | some x =>
    obtain ⟨v, hv, rfl⟩ := hsome ha
    cases b with
    | none =>
      obtain rfl := Except.ok.inj hb
      cases h
    | some y =>
      obtain ⟨w, hw, rfl⟩ := hsome hb
      exact congrArg some (hf hv hw (Option.some.inj h))

/-- An optional member is found under its key only. -/
theorem find_optionalMember {α : Type} {key : String} {encode : α → Except String Json} {a : Option α}
    {o : List (String × Json)} (h : optionalMember key encode a = .ok o) (k : String) :
    o.find? (fun p => p.1 = k) = if key = k then o.head? else none := by
  cases a with
  | none =>
    obtain rfl := Except.ok.inj h
    simp
  | some x =>
    obtain ⟨v, -, rfl⟩ := map_ok.mp h
    by_cases hk : key = k <;> simp [hk]

theorem textJson_inj {a b : Option String} (h : sortKeys (textJson a) = sortKeys (textJson b)) : a = b := by
  cases a <;> cases b <;> simp [textJson, sortKeys] at h ⊢
  exact h

theorem rankJson_inj {a b : Option Nat} (h : sortKeys (rankJson a) = sortKeys (rankJson b)) : a = b := by
  cases a <;> cases b <;> simp [rankJson, sortKeys] at h ⊢
  exact h

theorem texts_inj {a b : List String} (h : sortKeys (.arr (a.map Json.str)) = sortKeys (.arr (b.map Json.str))) :
    a = b := by
  have hitems := Json.arr.inj h
  rw [sortItems_eq_map, sortItems_eq_map, List.map_map, List.map_map] at hitems
  refine List.map_injective_iff.mpr ?_ hitems
  intro x y hxy
  exact Json.str.inj hxy

theorem CitationStatus.text_inj {a b : CitationStatus} (h : a.text = b.text) : a = b := by
  cases a <;> cases b <;> first | rfl | simp [CitationStatus.text] at h

theorem EvidencePackStatus.text_inj {a b : EvidencePackStatus} (h : a.text = b.text) : a = b := by
  cases a <;> cases b <;> first | rfl | simp [EvidencePackStatus.text] at h

theorem EvidenceExclusionReason.text_inj {a b : EvidenceExclusionReason} (h : a.text = b.text) : a = b := by
  cases a <;> cases b <;> first | rfl | simp [EvidenceExclusionReason.text] at h

theorem RankingMode.text_inj {a b : RankingMode} (h : a.text = b.text) : a = b := by
  cases a <;> cases b <;> first | rfl | simp [RankingMode.text] at h

theorem ObservationPeriod.text_inj {a b : ObservationPeriod} (h : a.text = b.text) : a = b := by
  cases a <;> cases b <;> first | rfl | simp [ObservationPeriod.text] at h

theorem citation_inj {a b : CitationValidation} (h : sortKeys a.asdict = sortKeys b.asdict) : a = b := by
  have hmembers := sortMembers_of_sortKeys_eq h rfl (by simp)
  simp only [sortMembers, List.cons.injEq, Prod.mk.injEq, true_and, and_true] at hmembers
  obtain ⟨hstatus, hurl, hfield, hreasons⟩ := hmembers
  obtain ⟨status, url, field, reasons⟩ := a
  obtain ⟨status', url', field', reasons'⟩ := b
  obtain rfl := CitationStatus.text_inj (Json.str.inj hstatus)
  obtain rfl := textJson_inj hurl
  obtain rfl := textJson_inj hfield
  obtain rfl := texts_inj hreasons
  rfl

theorem budget_inj {a b : EvidencePackBudget} (h : sortKeys a.asdict = sortKeys b.asdict) : a = b := by
  have hmembers := sortMembers_of_sortKeys_eq h rfl (by simp)
  simp only [sortMembers, sortKeys, List.cons.injEq, Prod.mk.injEq, true_and, and_true, Json.int.injEq] at hmembers
  obtain ⟨maxItems, maxCharactersPerItem, maxTotalCharacters⟩ := a
  obtain ⟨rfl, rfl, rfl⟩ := hmembers
  rfl

theorem sameRanking_of_json {a b : RankingExplanation} {v w : Json} (ha : a.asdict m = .ok v) (hb : b.asdict m = .ok w)
    (h : sortKeys v = sortKeys w) : SameRanking m a b := by
  simp only [RankingExplanation.asdict, bind_ok] at ha hb
  obtain ⟨l, hl, d, hd, r, hr, c, hc, k, hk, hv⟩ := ha
  obtain ⟨l', hl', d', hd', r', hr', c', hc', k', hk', hw⟩ := hb
  obtain rfl := Except.ok.inj hv
  obtain rfl := Except.ok.inj hw
  have hmembers := sortMembers_of_sortKeys_eq h rfl (by simp)
  simp only [sortMembers, List.cons.injEq, Prod.mk.injEq, true_and, and_true] at hmembers
  obtain ⟨h1, h2, h3, h4, h5, h6, h7, h8⟩ := hmembers
  exact
    { lexicalRank := rankJson_inj h1
      lexicalScore := sameFloats_of_json hl hl' h2
      denseRank := rankJson_inj h3
      denseSimilarity := sameFloats_of_json hd hd' h4
      rrfScore := sameFloat_of_json hr hr' h5
      exactPhraseMatch := Json.bool.inj h6
      tokenCoverage := sameFloat_of_json hc hc' h7
      rerankScore := sameFloat_of_json hk hk' h8 }

theorem sameItem_of_json {a b : EvidencePackItem} {v w : Json} (ha : a.asdict m = .ok v) (hb : b.asdict m = .ok w)
    (h : sortKeys v = sortKeys w) : SameItem m a b := by
  simp only [EvidencePackItem.asdict, bind_ok] at ha hb
  obtain ⟨d, hd, r, hr, hv⟩ := ha
  obtain ⟨d', hd', r', hr', hw⟩ := hb
  obtain rfl := Except.ok.inj hv
  obtain rfl := Except.ok.inj hw
  have hmembers := sortMembers_of_sortKeys_eq h rfl (by simp)
  simp only [sortMembers, sortKeys, List.cons.injEq, Prod.mk.injEq, true_and, and_true, Json.str.injEq, Json.int.injEq,
    Json.bool.injEq] at hmembers
  obtain ⟨h1, h2, h3, h4, h5, h6, h7, h8, h9, h10, h11, h12, h13, h14, h15, h16, h17, h18⟩ := hmembers
  exact
    { evidenceId := h1
      retrievalRank := h2
      streamId := h3
      eventId := h4
      eventType := h5
      source := h6
      occurredAt := h7
      ingestedAt := h8
      eventSchemaVersion := h9
      text := h10
      documentSha256 := h11
      textSha256 := h12
      documentCharacters := h13
      textCharacters := h14
      truncated := h15
      distanceKm := sameFloats_of_json hd hd' h16
      ranking := sameRanking_of_json hr hr' h17
      citation := citation_inj h18 }

theorem sameExclusion_of_json {a b : EvidencePackExclusion} {v w : Json} (ha : a.asdict m = .ok v)
    (hb : b.asdict m = .ok w) (h : sortKeys v = sortKeys w) : SameExclusion m a b := by
  simp only [EvidencePackExclusion.asdict, bind_ok] at ha hb
  obtain ⟨d, hd, r, hr, hv⟩ := ha
  obtain ⟨d', hd', r', hr', hw⟩ := hb
  obtain rfl := Except.ok.inj hv
  obtain rfl := Except.ok.inj hw
  have hmembers := sortMembers_of_sortKeys_eq h rfl (by simp)
  simp only [sortMembers, sortKeys, List.cons.injEq, Prod.mk.injEq, true_and, and_true, Json.str.injEq, Json.int.injEq]
    at hmembers
  obtain ⟨h1, h2, h3, h4, h5, h6, h7, h8, h9, h10, h11, h12, h13⟩ := hmembers
  exact
    { retrievalRank := h1
      streamId := h2
      eventId := h3
      eventType := h4
      source := h5
      occurredAt := h6
      ingestedAt := h7
      eventSchemaVersion := h8
      documentSha256 := h9
      distanceKm := sameFloats_of_json hd hd' h10
      ranking := sameRanking_of_json hr hr' h11
      citation := citation_inj h12
      reason := EvidenceExclusionReason.text_inj h13 }

theorem number_of_json {x y : Number} {v w : Json} (hx : numberJson m x = .ok v) (hy : numberJson m y = .ok w)
    (h : sortKeys v = sortKeys w) : x.written m = y.written m := by
  cases x with
  | int n =>
    obtain rfl := Except.ok.inj hx
    cases y with
    | int k =>
      obtain rfl := Except.ok.inj hy
      exact congrArg Sum.inl (Json.int.inj h)
    | float y =>
      rw [floatJson_ok (x := y) hy] at h
      cases h
  | float x =>
    cases y with
    | int k =>
      obtain rfl := Except.ok.inj hy
      rw [floatJson_ok (x := x) hx] at h
      cases h
    | float y => exact congrArg Sum.inr (sameFloat_of_json hx hy h)

/-- Lists whose values are written alike. -/
theorem forall₂_of_json {α : Type} {encode : α → Except String Json} {R : α → α → Prop}
    (hR : ∀ {a b v w}, encode a = .ok v → encode b = .ok w → sortKeys v = sortKeys w → R a b) {a b : List α}
    {v w : List Json} (ha : a.mapM encode = .ok v) (hb : b.mapM encode = .ok w)
    (h : sortKeys (.arr v) = sortKeys (.arr w)) : List.Forall₂ R a b := by
  have hitems := Json.arr.inj h
  rw [sortItems_eq_map, sortItems_eq_map] at hitems
  have hva := mapM_ok.mp ha
  have hwb := mapM_ok.mp hb
  clear ha hb h
  induction hva generalizing b w with
  | nil =>
    obtain rfl := List.map_eq_nil_iff.mp hitems.symm
    cases hwb
    exact List.Forall₂.nil
  | cons hx _ ih =>
    cases hwb with
    | nil => cases hitems
    | cons hy hrest =>
      obtain ⟨hhead, htail⟩ := List.cons.inj hitems
      exact List.Forall₂.cons (hR hx hy hhead) (ih htail hrest)

theorem floatsJson_inj {a b : List Float64} {v w : Json} (ha : (a.mapM (floatJson m)).map Json.arr = .ok v)
    (hb : (b.mapM (floatJson m)).map Json.arr = .ok w) (h : sortKeys v = sortKeys w) :
    a.map m.floatRepr = b.map m.floatRepr := by
  obtain ⟨vs, hv, rfl⟩ := map_ok.mp ha
  obtain ⟨ws, hw, rfl⟩ := map_ok.mp hb
  have hall : List.Forall₂ (SameFloat m) a b := forall₂_of_json sameFloat_of_json hv hw h
  clear ha hb h hv hw
  induction hall with
  | nil => rfl
  | cons hxy _ ih => rw [List.map_cons, List.map_cons, ih, hxy]

theorem floatsJson_ne_null {a : List Float64} {v : Json} (h : (a.mapM (floatJson m)).map Json.arr = .ok v) :
    sortKeys v ≠ .null := by
  obtain ⟨vs, -, rfl⟩ := map_ok.mp h
  simp [sortKeys]

theorem SourceName.text_inj {a b : SourceName} (h : a.text = b.text) : a = b := by
  cases a <;> cases b <;> first | rfl | simp [SourceName.text] at h

/-- The point and the radius of a search are members of their own. -/
theorem sameRadius {a b : Option {r : GeoRadius // r.validate = .ok ()}}
    (hpoint : a.map (fun r => [r.val.longitude, r.val.latitude].map m.floatRepr) =
      b.map fun r => [r.val.longitude, r.val.latitude].map m.floatRepr)
    (hkm : a.map (fun r => m.floatRepr r.val.radiusKm) = b.map fun r => m.floatRepr r.val.radiusKm) :
    a.map (writtenRadius m) = b.map (writtenRadius m) := by
  cases a with
  | none =>
    cases b with
    | none => rfl
    | some y => cases hkm
  | some x =>
    cases b with
    | none => cases hkm
    | some y =>
      have hpoint := Option.some.inj hpoint
      have hkm := Option.some.inj hkm
      simp only [List.map_cons, List.map_nil, List.cons.injEq, and_true] at hpoint
      simp only [Option.map_some, writtenRadius, List.map_cons, List.map_nil, hpoint.1, hpoint.2, hkm]

/-- Optional members that are written by a function. -/
theorem option_of_member {α : Type} {key : String} (write : α → Json)
    (hwrite : ∀ {x y : α}, sortKeys (write x) = sortKeys (write y) → x = y) {a b : Option α}
    {o o' : List (String × Json)} (ha : optionalMember key (fun x => .ok (write x)) a = .ok o)
    (hb : optionalMember key (fun x => .ok (write x)) b = .ok o')
    (h : o.head?.map (sortKeys ∘ Prod.snd) = o'.head?.map (sortKeys ∘ Prod.snd)) : a = b := by
  have hid := optionalMember_inj (f := id) (fun {x y v w} hv hw hvw => ?_) ha hb h
  · simpa using hid
  · obtain rfl := Except.ok.inj hv
    obtain rfl := Except.ok.inj hw
    exact hwrite hvw

theorem sameQuery_of_json {a b : SearchQuery} {v w : Json} (ha : queryIdentity m a = .ok v)
    (hb : queryIdentity m b = .ok w) (h : sortKeys v = sortKeys w) : SameQuery m a b := by
  simp only [queryIdentity, bind_ok] at ha hb
  obtain ⟨bbox, hbbox, near, hnear, radius, hradius, mag, hmag, depth, hdepth, tsu, htsu, alert, halert, conf, hconf,
    period, hperiod, hv⟩ := ha
  obtain ⟨bbox', hbbox', near', hnear', radius', hradius', mag', hmag', depth', hdepth', tsu', htsu', alert', halert',
    conf', hconf', period', hperiod', hw⟩ := hb
  obtain rfl := Except.ok.inj hv
  obtain rfl := Except.ok.inj hw
  have hmember := member_of_sortKeys_eq h
  have h1 := hmember "query"
  have h2 := hmember "limit"
  have h3 := hmember "candidate_limit"
  have h4 := hmember "source"
  have h5 := hmember "occurred_after"
  have h6 := hmember "occurred_before"
  have h7 := hmember "active_only"
  have h8 := hmember "bbox"
  have h9 := hmember "near"
  have h10 := hmember "radius_km"
  have h11 := hmember "ranking_mode"
  have h12 := hmember "min_magnitude"
  have h13 := hmember "max_depth_km"
  have h14 := hmember "tsunami"
  have h15 := hmember "alert_type"
  have h16 := hmember "min_confidence_rank"
  have h17 := hmember "observation_period"
  clear hmember
  simp [member, sortKeys] at h1 h2 h3 h4 h5 h6 h7 h8 h9 h10 h11
  simp [member, List.find?_append, find_optionalMember hmag, find_optionalMember hdepth, find_optionalMember htsu,
    find_optionalMember halert, find_optionalMember hconf, find_optionalMember hperiod, find_optionalMember hmag',
    find_optionalMember hdepth', find_optionalMember htsu', find_optionalMember halert', find_optionalMember hconf',
    find_optionalMember hperiod'] at h12 h13 h14 h15 h16 h17
  have hbounds : a.bounds.map (writtenBounds m) = b.bounds.map (writtenBounds m) :=
    optionalJson_inj floatsJson_ne_null floatsJson_inj hbbox hbbox' h8
  have hpoint : a.near.map (fun r => [r.val.longitude, r.val.latitude].map m.floatRepr) =
      b.near.map fun r => [r.val.longitude, r.val.latitude].map m.floatRepr :=
    optionalJson_inj floatsJson_ne_null floatsJson_inj hnear hnear' h9
  have hkm : a.near.map (fun r => m.floatRepr r.val.radiusKm) = b.near.map fun r => m.floatRepr r.val.radiusKm :=
    optionalJson_inj floatJson_ne_null sameFloat_of_json hradius hradius' h10
  exact
    { text := h1
      limit := h2
      candidateLimit := h3
      source := Option.map_injective (fun _ _ => SourceName.text_inj) (textJson_inj h4)
      occurredAfter := textJson_inj h5
      occurredBefore := textJson_inj h6
      bounds := hbounds
      near := sameRadius hpoint hkm
      activeOnly := h7
      minMagnitude := optionalMember_inj number_of_json hmag hmag' h12
      maxDepthKm := optionalMember_inj number_of_json hdepth hdepth' h13
      tsunami := option_of_member Json.bool (fun hxy => Json.bool.inj hxy) htsu htsu' h14
      alertType := option_of_member Json.str (fun hxy => Json.str.inj hxy) halert halert' h15
      minConfidenceRank := option_of_member Json.int (fun hxy => Json.int.inj hxy) hconf hconf' h16
      observationPeriod := option_of_member (fun p : ObservationPeriod => Json.str p.text)
        (fun hxy => ObservationPeriod.text_inj (Json.str.inj hxy)) hperiod hperiod' h17
      rankingMode := RankingMode.text_inj h11 }

/-! ## Tamper evidence -/

theorem samePack_of_json {a b : EvidencePack} {v w : Json}
    (ha : packContent m a.status a.budget a.retrieval a.items a.exclusions a.sourceTextCharacters = .ok v)
    (hb : packContent m b.status b.budget b.retrieval b.items b.exclusions b.sourceTextCharacters = .ok w)
    (h : sortKeys v = sortKeys w) :
    a.status = b.status ∧ a.budget = b.budget ∧ SameRetrieval m a.retrieval b.retrieval ∧
      List.Forall₂ (SameItem m) a.items b.items ∧ List.Forall₂ (SameExclusion m) a.exclusions b.exclusions ∧
      a.sourceTextCharacters = b.sourceTextCharacters := by
  simp only [packContent, bind_ok] at ha hb
  obtain ⟨q, hq, is, his, xs, hxs, hv⟩ := ha
  obtain ⟨q', hq', is', his', xs', hxs', hw⟩ := hb
  obtain rfl := Except.ok.inj hv
  obtain rfl := Except.ok.inj hw
  have hmembers := sortMembers_of_sortKeys_eq h rfl (by simp)
  simp only [sortMembers, List.cons.injEq, Prod.mk.injEq, true_and, and_true] at hmembers
  obtain ⟨hstatus, -, -, hcharacters, hbudget, hretrieval, hitems, hexclusions⟩ := hmembers
  have hfields := sortMembers_of_sortKeys_eq hretrieval rfl (by simp)
  simp only [sortMembers, List.cons.injEq, Prod.mk.injEq, true_and, and_true] at hfields
  obtain ⟨hquery, hconsidered, hreturned, hmodel, hmode, hrule, hcaveat⟩ := hfields
  exact ⟨EvidencePackStatus.text_inj (Json.str.inj hstatus), budget_inj hbudget,
    { query := sameQuery_of_json hq hq' hquery
      candidatesConsidered := Json.int.inj hconsidered
      returnedHits := Json.int.inj hreturned
      embeddingModel := Json.str.inj hmodel
      rankingMode := RankingMode.text_inj (Json.str.inj hmode)
      rankingRule := Json.str.inj hrule
      caveat := Json.str.inj hcaveat },
    forall₂_of_json sameItem_of_json his his' hitems, forall₂_of_json sameExclusion_of_json hxs hxs' hexclusions,
    Json.int.inj hcharacters⟩

variable (m) in
/-- The text that the id of a pack is the hash of. -/
def packText (pack : EvidencePack) : Except String String :=
  (packContent m pack.status pack.budget pack.retrieval pack.items pack.exclusions pack.sourceTextCharacters).map
    (dumps false)

/-- What acceptance says of a pack's identity. -/
theorem accepted_identity {pack : EvidencePack} (h : validateEvidencePackIdentity m pack = .ok ()) :
    (pack.schemaVersion = evidencePackSchemaVersion ∧ pack.ruleVersion = evidencePackRuleVersion ∧
      pack.identityAlgorithm = evidencePackIdentityAlgorithm ∧ pack.trustBoundary = evidencePackTrustBoundary ∧
      pack.caveat = evidencePackCaveat) ∧
    ∃ content, packContent m pack.status pack.budget pack.retrieval pack.items pack.exclusions
      pack.sourceTextCharacters = .ok content ∧ pack.packId = "pack-" ++ canonicalJsonHex m content := by
  simp only [validateEvidencePackIdentity, bind_ok, check_eq_ok, exists_unit, decide_eq_true_eq, Bool.and_eq_true] at h
  obtain ⟨hmeta, -, -, -, -, -, -, -, -, -, expected, hexpected, hid⟩ := h
  obtain ⟨content, hcontent, hpack⟩ := bind_ok.mp hexpected
  refine ⟨?_, content, hcontent, ?_⟩
  · simpa only [and_assoc] using hmeta
  · rw [hid, ← Except.ok.inj hpack]

/-- **Tamper evidence.** Accepted packs under one id are equal in all that a
reader relies on, unless their canonical texts collide under SHA-256. -/
theorem pack_id_is_tamper_evident {a b : EvidencePack} (ha : validateEvidencePackIdentity m a = .ok ())
    (hb : validateEvidencePackIdentity m b = .ok ())
    (hsha : Set.InjOn m.sha256 {text | packText m a = .ok text ∨ packText m b = .ok text}) (hid : a.packId = b.packId) :
    SamePack m a b := by
  obtain ⟨⟨h1, h2, h3, h4, h5⟩, v, hv, hav⟩ := accepted_identity ha
  obtain ⟨⟨h1', h2', h3', h4', h5'⟩, w, hw, hbw⟩ := accepted_identity hb
  have hhex : canonicalJsonHex m v = canonicalJsonHex m w := by
    rw [hav, hbw] at hid
    exact String.append_right_inj _ |>.mp hid
  have htext : dumps false v = dumps false w :=
    hsha (Or.inl (map_ok.mpr ⟨v, hv, rfl⟩)) (Or.inr (map_ok.mpr ⟨w, hw, rfl⟩)) hhex
  obtain ⟨hstatus, hbudget, hretrieval, hitems, hexclusions, hcharacters⟩ := samePack_of_json hv hw (dumps_inj htext)
  exact
    { packId := hid
      schemaVersion := h1.trans h1'.symm
      ruleVersion := h2.trans h2'.symm
      identityAlgorithm := h3.trans h3'.symm
      status := hstatus
      budget := hbudget
      retrieval := hretrieval
      items := hitems
      exclusions := hexclusions
      sourceTextCharacters := hcharacters
      trustBoundary := h4.trans h4'.symm
      caveat := h5.trans h5'.symm }

namespace QuakePack

/-- An earthquake report: its id, its source, when it happened, and its page. -/
structure Report where
  eventId : String
  source : String
  occurredAt : Datetime
  page : String
  deriving DecidableEq

def document : String := "Event type: seismic.earthquake"

def citation : CitationValidation :=
  ⟨.traceable, some "https://earthquake.usgs.gov/quake", some "source_url",
    ["public_http_url", "source_event_identity_attached"]⟩

def documentDigest : String := "dc05d0262c879e13db6527da408ee355310d84bfa7822c5517dc787ff90756a7"

/-- SHA-256 of the document, of its evidence content and of the text of the pack. -/
def digest (text : String) : String :=
  if text = document then documentDigest
  else if text = dumps false (evidenceContent "1-0" "quake" "usgs" documentDigest documentDigest citation) then
    "7445d86d02692ac7be39aba1dd9f7153e75e25b8468d0f231e0fa13406b732c0"
  else "d7c13e395230b5bd4d4d029d673aebcfdefaa9aa6c9e93359fc4c3b19d86608a"

def floats : FloatOps Float64 where
  ofRat := fun q => (intDiv q.num q.den).toOption.getD (Float64.ofInt 0)
  isfinite := Float64.isFinite
  lt := Float64.lt
  le := Float64.le
  abs := Float64.abs
  mul := Float64.mul
  div := fun x y => ((x.div y).toOption).getD x
  sum := Float64.sum
  radians := id
  degrees := id
  cos := id
  sin := id
  hypot := fun x _ => x
  atan2 := fun x _ => x
  round := fun x digits => x.round digits

theorem one_isToken : "1.0".toList.all isNumberChar = true := by decide

theorem one_isFloat : "1.0".toList.any (fun c => c = '.' || c = 'e') = true := by decide

def reports : RetrievalModel Report where
  eventId := Report.eventId
  source := Report.source
  modelDump := fun _ => .null
  modelDumpJson := fun _ => ""
  modelValidateJson := fun _ => .error "not stored"
  sha256 := digest
  float := floats
  eventType := fun _ => "seismic.earthquake"
  occurredAt := Report.occurredAt
  location := fun _ => none
  payload := fun event key => if key = "source_url" then some (.str event.page) else none
  totalSeconds := fun later earlier => (Float64.ofInt (later.instant - earlier.instant))
  isoformat := fun t => String.ofList t.isoChars
  formatGeneral := fun _ => ""
  formatFixed := fun _ => ""
  casefold := fun text => String.ofList (text.toList.map Char.toLower)
  isWord := fun c => c.isAlphanum || c = '_'
  ingestedAt := Report.occurredAt
  schemaVersion := fun _ => "1.0"
  urlsplit := fun _ => some ⟨"https", none, none, some "earthquake.usgs.gov", none, ""⟩
  isGlobalAddress := fun _ => none
  parseQsl := fun _ => []
  floatRepr := fun _ => ⟨"1.0".toList, one_isToken, one_isFloat⟩

def query : SearchQuery where
  text := "earthquake"
  limit := 10
  candidateLimit := 50
  source := none
  occurredAfter := none
  occurredBefore := none
  bounds := none
  near := none
  activeOnly := true
  minMagnitude := none
  maxDepthKm := none
  tsunami := none
  alertType := none
  minConfidenceRank := none
  observationPeriod := none
  rankingMode := .hybrid

/-- 2024-07-10T00:00:00Z. -/
def day : Datetime := ⟨63856166400000000, some 0, by decide, offsetBound_zero⟩

def report : Report := ⟨"quake", "usgs", day, "https://earthquake.usgs.gov/quake"⟩

def hit : SearchHit Report where
  message := ⟨"1-0", report⟩
  documentText := document
  distanceKm := none
  ranking := ⟨some 1, some (Float64.ofInt 1), some 1, some (Float64.ofInt 1), Float64.ofInt 1, true, Float64.ofInt 1, Float64.ofInt 1⟩
  citation

def result : SearchResult Report := ⟨[hit], 1, "bge", .hybrid, rankingRules .hybrid, retrievalCaveat⟩

theorem nodup_of_length_le_one {α : Type} : ∀ {l : List α}, l.length ≤ 1 → l.Nodup
  | [], _ => List.nodup_nil
  | [_], _ => List.nodup_singleton _

theorem packable : Packable reports result query where
  query := ⟨_, rfl⟩
  distance := by simp [result, hit]
  ranking := by
    intro h hh
    obtain rfl := List.mem_singleton.mp hh
    exact ranking_asdict_ok reports (by decide +kernel)
  url := by simp [result, hit, citation]
  considered := by simp [result]

end QuakePack

open QuakePack in
theorem pack_id_is_tamper_evident_quake :
    ∃ pack, buildEvidencePack reports result query none = .ok pack ∧ SamePack reports pack pack := by
  obtain ⟨pack, hbuild, hconsistent, haccepted⟩ := @build_accepted _ reports _ _ packable none rfl
  obtain ⟨outcomes, haccounts, hitems, -⟩ := hconsistent.accounted
  have hone : (pack.items.map (·.evidenceId)).length ≤ 1 := by
    rw [hitems, List.length_map]
    exact (List.length_filterMap_le _ outcomes).trans haccounts.length_eq.ge
  have hids := haccepted (nodup_of_length_le_one hone)
  refine ⟨pack, hbuild, pack_id_is_tamper_evident hids hids ?_ rfl⟩
  rintro x (hx | hx) y (hy | hy) _ <;> exact Except.ok.inj (hx.symm.trans hy)

end AtlasPulse
