import AtlasPulse.RankingSound

/-!
# Packs of search results

Search ranks what a store returned, and the pack of its result is consistent and
accepted. Scores and distances have to be numbers: canonical JSON has no others.
-/

namespace AtlasPulse

open PyJson PyText Binary64

variable {E : Type} (m : RetrievalModel E)

/-! ## Queries -/

theorem floatsJson_ok {xs : List Float64} (h : xs.all Float64.isFinite = true) :
    ∃ v, (xs.mapM (floatJson m)).map Json.arr = .ok v := by
  obtain ⟨r, hr⟩ := exists_mapM (f := floatJson m) fun x hx => ⟨_, floatJson_of_isFinite m (List.all_eq_true.mp h x hx)⟩
  exact ⟨_, map_ok.mpr ⟨r, hr, rfl⟩⟩

theorem optionalJson_exists {α : Type} {encode : α → Except String Json} {o : Option α}
    (h : ∀ a ∈ o, ∃ v, encode a = .ok v) : ∃ v, optionalJson encode o = .ok v := by
  cases o with
  | none => exact ⟨_, rfl⟩
  | some a => exact h a rfl

theorem optionalMember_exists {α : Type} {k : String} {e : α → Except String Json} {o : Option α}
    (h : ∀ a ∈ o, ∃ v, e a = .ok v) : ∃ v, optionalMember k e o = .ok v := by
  cases o with
  | none => exact ⟨_, rfl⟩
  | some a =>
    obtain ⟨v, hv⟩ := h a rfl
    exact ⟨_, map_ok.mpr ⟨v, hv, rfl⟩⟩

theorem numberJson_ok {n : Number} (h : n.toFloat.isFinite = true) : ∃ v, numberJson m n = .ok v := by
  cases n with
  | int n => exact ⟨_, rfl⟩
  | float x => exact ⟨_, floatJson_of_isFinite m h⟩

theorem bounds_finite (b : {b : GeoBounds // b.validate = .ok ()}) :
    [b.val.west, b.val.south, b.val.east, b.val.north].all Float64.isFinite = true :=
  check_eq_ok.mp (bind_unit_ok.mp b.property).1

theorem radius_finite (r : {r : GeoRadius // r.validate = .ok ()}) :
    [r.val.longitude, r.val.latitude, r.val.radiusKm].all Float64.isFinite = true :=
  check_eq_ok.mp (bind_unit_ok.mp r.property).1

/-- An accepted query has an identity. -/
theorem queryIdentity_ok {raw query : SearchQuery} (h : raw.postInit = .ok query) :
    ∃ v, queryIdentity m query = .ok v := by
  simp only [SearchQuery.postInit, bind_ok, check_eq_ok, exists_unit, pure, Except.pure, Except.ok.injEq] at h
  obtain ⟨-, -, -, -, -, hmagnitude, hdepth, -, -, -, rfl⟩ := h
  have hnear : ∀ r : {r : GeoRadius // r.validate = .ok ()},
      [r.val.longitude, r.val.latitude].all Float64.isFinite = true ∧ r.val.radiusKm.isFinite = true := by
    intro r
    have hr := radius_finite r
    simp only [List.all_cons, List.all_nil, Bool.and_true, Bool.and_eq_true] at hr ⊢
    exact ⟨⟨hr.1, hr.2.1⟩, hr.2.2⟩
  obtain ⟨bbox, hbbox⟩ := optionalJson_exists (o := raw.bounds) fun b _ => floatsJson_ok m (bounds_finite b)
  obtain ⟨near, hnearJson⟩ := optionalJson_exists (o := raw.near) fun r _ => floatsJson_ok m (hnear r).1
  obtain ⟨radius, hradius⟩ := optionalJson_exists (o := raw.near)
    fun r _ => ⟨_, floatJson_of_isFinite m (hnear r).2⟩
  obtain ⟨magnitude, hmag⟩ := optionalMember_exists (k := "min_magnitude") (o := raw.minMagnitude)
    fun n hn => numberJson_ok m (Option.all_eq_true _ _ |>.mp hmagnitude n hn)
  obtain ⟨depth, hdep⟩ := optionalMember_exists (k := "max_depth_km") (o := raw.maxDepthKm)
    fun n hn => numberJson_ok m (Option.all_eq_true _ _ |>.mp hdepth n hn)
  obtain ⟨tsunami, htsunami⟩ := optionalMember_exists (k := "tsunami") (e := fun b => .ok (.bool b))
    (o := raw.tsunami) fun b _ => ⟨_, rfl⟩
  obtain ⟨alert, halert⟩ := optionalMember_exists (k := "alert_type") (e := fun text => .ok (.str text))
    (o := raw.alertType.map normalizeText) fun b _ => ⟨_, rfl⟩
  obtain ⟨confidence, hconfidence⟩ := optionalMember_exists (k := "min_confidence_rank")
    (e := fun n => .ok (.int n)) (o := raw.minConfidenceRank) fun b _ => ⟨_, rfl⟩
  obtain ⟨period, hperiod⟩ := optionalMember_exists (k := "observation_period")
    (e := fun p : ObservationPeriod => .ok (.str p.text)) (o := raw.observationPeriod) fun b _ => ⟨_, rfl⟩
  exact ⟨_, bind_ok.mpr ⟨bbox, hbbox, bind_ok.mpr ⟨near, hnearJson, bind_ok.mpr ⟨radius, hradius, bind_ok.mpr
    ⟨magnitude, hmag, bind_ok.mpr ⟨depth, hdep, bind_ok.mpr ⟨tsunami, htsunami, bind_ok.mpr ⟨alert, halert, bind_ok.mpr
      ⟨confidence, hconfidence, bind_ok.mpr ⟨period, hperiod, rfl⟩⟩⟩⟩⟩⟩⟩⟩⟩⟩

/-! ## Citations -/

theorem citeFields_url (event : E) (rejected fields : List String) : (citeFields m event rejected fields).url ≠ some "" := by
  induction fields generalizing rejected with
  | nil =>
    unfold citeFields
    split <;> simp
  | cons field fields ih =>
    unfold citeFields
    cases hurl : evidenceUrl m event field with
    | none => exact ih rejected
    | some candidate =>
      have hne : candidate ≠ "" := by
        rintro rfl
        unfold evidenceUrl at hurl
        split at hurl
        · simp only [orNone] at hurl
          split at hurl
          · cases hurl
          · rename_i hstrip
            exact hstrip (Option.some.inj hurl)
        · cases hurl
      dsimp only
      split
      · exact fun h => hne (Option.some.inj h)
      · exact ih _

/-! ## Results -/

/-- A candidate whose score and distance are numbers. -/
def FiniteCandidate (c : ChannelCandidate E) : Prop :=
  c.score.isFinite = true ∧ ∀ d ∈ c.distanceKm, d.isFinite = true

def FiniteMerge (merged : MergedCandidate E) : Prop :=
  (∀ x ∈ merged.lexicalScore, x.isFinite = true) ∧ (∀ x ∈ merged.denseSimilarity, x.isFinite = true) ∧
    ∀ d ∈ merged.candidate.distanceKm, d.isFinite = true

theorem finite_mergeInto {isLexical : Bool} {current : Option (MergedCandidate E)} {candidate : ChannelCandidate E}
    (hcurrent : ∀ merged ∈ current, FiniteMerge merged) (hcandidate : FiniteCandidate candidate) :
    FiniteMerge (mergeInto isLexical current candidate) := by
  obtain ⟨-, hlexical, -, hdense⟩ := mergeInto_ranks isLexical current candidate
  have hold : (∀ x ∈ current.bind (·.lexicalScore), x.isFinite = true) ∧
      ∀ x ∈ current.bind (·.denseSimilarity), x.isFinite = true := by
    cases current with
    | none => simp
    | some merged => exact ⟨(hcurrent merged rfl).1, (hcurrent merged rfl).2.1⟩
  refine ⟨?_, ?_, ?_⟩
  · rw [hlexical]
    cases isLexical with
    | true => exact fun x hx => Option.some.inj hx ▸ hcandidate.1
    | false => exact hold.1
  · rw [hdense]
    cases isLexical with
    | true => exact hold.2
    | false => exact fun x hx => Option.some.inj hx ▸ hcandidate.1
  · obtain hnew | hkept := mergeInto_candidate isLexical current candidate
    · rw [hnew]
      exact hcandidate.2
    · obtain ⟨merged, hmerged, hsame⟩ := Option.map_eq_some_iff.mp hkept
      rw [← hsame]
      exact (hcurrent merged hmerged).2.2

section
variable {queryText : String} {batch : CandidateBatch E} {hits : List (SearchHit E)}

theorem hit_finite (hfinite : ∀ c ∈ batch.lexical ++ batch.dense, FiniteCandidate c)
    (h : hitsOf m queryText batch = .ok hits) {hit : SearchHit E} (hhit : hit ∈ hits) :
    (∀ d ∈ hit.distanceKm, d.isFinite = true) ∧ (∀ x ∈ hit.ranking.floats, x.isFinite = true) ∧
      hit.citation.url ≠ some "" := by
  obtain ⟨item, hitem, hok⟩ := (mem_mapM h).1 hit hhit
  have hranks := ranks_of_rankedHit m hok
  obtain ⟨hlexical, hdense, hdistance⟩ := mergeBatch_induction m (P := fun _ merged => FiniteMerge merged)
    (fun _ c hc _ hcurrent => finite_mergeInto hcurrent (hfinite c hc)) item hitem
  have hscore := hranks.rrfScore_isFinite m
  refine ⟨hranks.distanceKm ▸ hdistance, ?_, hranks.citation ▸ citeFields_url m _ _ _⟩
  intro x hx
  simp only [RankingExplanation.floats, List.mem_append, List.mem_cons, List.not_mem_nil, or_false,
    Option.mem_toList] at hx
  obtain (hx | hx) | rfl | rfl | rfl := hx
  · exact hlexical x (hranks.lexicalScore ▸ hx)
  · exact hdense x (hranks.denseSimilarity ▸ hx)
  · exact hscore
  · exact hranks.tokenCoverage
  · rw [hranks.rerankScore]
    exact hscore

/-- There are at most as many hits as identities. -/
theorem length_hits_le (h : hitsOf m queryText batch = .ok hits) :
    hits.length ≤ ((batch.lexical ++ batch.dense).map (candidateKey m)).dedup.length := by
  have hlength : hits.length = ((mergeBatch m batch).map Prod.fst).length := by
    rw [← map_hitKey m h, List.length_map]
  have hsubset : (mergeBatch m batch).map Prod.fst ⊆ ((batch.lexical ++ batch.dense).map (candidateKey m)).dedup := by
    intro key hkey
    obtain ⟨item, hitem, rfl⟩ := List.mem_map.mp hkey
    refine List.mem_dedup.mpr (mergeBatch_induction m
      (P := fun key _ => key ∈ (batch.lexical ++ batch.dense).map (candidateKey m)) ?_ item hitem)
    exact fun _ c hc _ _ => List.mem_map_of_mem hc
  rw [hlength]
  exact (List.subperm_of_subset (nodup_mergeBatch m batch) hsubset).length_le

end

/-- Search succeeds, and canonical JSON has all of its result. -/
theorem search_packable {raw query : SearchQuery} (hquery : raw.postInit = .ok query) {batch : CandidateBatch E}
    (hfinite : ∀ c ∈ batch.lexical ++ batch.dense, FiniteCandidate c) (modelName : String) :
    ∃ result, search m modelName query batch = .ok result ∧ Packable m result query ∧
      (result.hits.map (hitKey m)).Nodup := by
  obtain ⟨hits, hhits⟩ := exists_hitsOf m query.text batch
  have hsub : ∀ hit ∈ ((hits.filter (rankedBy query.rankingMode)).insertionSort fun a b =>
      ranksBefore m query.rankingMode a b = true).take query.limit.toNat, hit ∈ hits := fun hit hhit =>
    List.mem_of_mem_filter ((List.mem_insertionSort _).mp (List.mem_of_mem_take hhit))
  have hnodup : ((((hits.filter (rankedBy query.rankingMode)).insertionSort fun a b =>
      ranksBefore m query.rankingMode a b = true).take query.limit.toNat).map (hitKey m)).Nodup := by
    have hsorted := ((List.perm_insertionSort (fun a b => ranksBefore m query.rankingMode a b = true)
      (hits.filter (rankedBy query.rankingMode))).map (hitKey m)).nodup_iff.mpr
      ((nodup_hitKey m hhits).sublist (List.filter_sublist.map _))
    exact hsorted.sublist ((List.take_sublist _ _).map _)
  refine ⟨_, bind_ok.mpr ⟨_, rankCandidates_eq m hhits _ _, rfl⟩,
    { query := queryIdentity_ok m hquery
      distance := fun hit hhit => (hit_finite m hfinite hhits (hsub hit hhit)).1
      ranking := fun hit hhit => ranking_asdict_ok m (hit_finite m hfinite hhits (hsub hit hhit)).2.1
      url := fun hit hhit => (hit_finite m hfinite hhits (hsub hit hhit)).2.2
      considered := ?_ }, hnodup⟩
  have hcut := (List.take_sublist query.limit.toNat ((hits.filter (rankedBy query.rankingMode)).insertionSort fun a b =>
    ranksBefore m query.rankingMode a b = true)).length_le
  rw [List.length_insertionSort] at hcut
  exact hcut.trans ((List.length_filter_le _ hits).trans (length_hits_le m hhits))

/-! ## Evidence ids -/

/-- What the evidence ids of a pack are the hashes of. -/
def evidenceTexts (pack : EvidencePack) : Set String :=
  {text | ∃ item ∈ pack.items, text = dumps false (evidenceContent item.streamId item.eventId item.source
    item.documentSha256 item.textSha256 item.citation)}

theorem itemKeys_sublist {budget : EvidencePackBudget} {ranked : List (SearchHit E × Nat)}
    {outcomes : List (EvidencePackItem ⊕ EvidencePackExclusion)} (h : List.Forall₂ (Accounts m budget) ranked outcomes) :
    ((includedItems outcomes).map fun item => (item.source, item.eventId)).Sublist (ranked.map fun r => hitKey m r.1) := by
  induction h with
  | nil => exact .slnil
  | @cons r o ranked outcomes ha _ ih =>
    cases o with
    | inl item =>
      obtain ⟨length, -, -, -, -, -, rfl⟩ := ha
      exact ih.cons_cons _
    | inr exclusion => exact ih.cons _

theorem nodup_evidenceIds {hits : List (SearchHit E)} {budget : EvidencePackBudget} {pack : EvidencePack}
    (hkeys : (hits.map (hitKey m)).Nodup) (h : PackConsistent m hits budget pack)
    (hsha : Set.InjOn m.sha256 (evidenceTexts pack)) : (pack.items.map (·.evidenceId)).Nodup := by
  obtain ⟨outcomes, haccounts, hitems, -⟩ := h.accounted
  have hkeys' : (pack.items.map fun item => (item.source, item.eventId)).Nodup := by
    have hfst : ((hits.zipIdx 1).map fun r => hitKey m r.1) = hits.map (hitKey m) := by
      show (hits.zipIdx 1).map (hitKey m ∘ Prod.fst) = hits.map (hitKey m)
      rw [← List.map_map, List.zipIdx_map_fst]
    rw [hitems]
    exact (hfst ▸ hkeys).sublist (itemKeys_sublist m haccounts)
  refine List.Nodup.map_on ?_ (List.Nodup.of_map _ hkeys')
  intro a ha b hb hab
  rw [h.evidenceIds a ha, h.evidenceIds b hb] at hab
  have htext := hsha ⟨a, ha, rfl⟩ ⟨b, hb, rfl⟩ (String.append_right_inj _ |>.mp hab)
  have hmembers := sortMembers_of_sortKeys_eq (dumps_inj htext) rfl (by simp)
  simp only [sortMembers, List.cons.injEq, Prod.mk.injEq, true_and, and_true] at hmembers
  obtain ⟨-, hevent, hsource, -⟩ := hmembers
  exact List.inj_on_of_nodup_map hkeys' ha hb (Prod.ext (Json.str.inj hsource) (Json.str.inj hevent))

/-! ## Packs -/

/-- **Self-consistent packs.** The pack of what search ranks is consistent with
its hits, and it is accepted unless evidence texts collide under SHA-256. -/
theorem search_pack_consistent {raw query : SearchQuery} (hquery : raw.postInit = .ok query) {batch : CandidateBatch E}
    (hfinite : ∀ c ∈ batch.lexical ++ batch.dense, FiniteCandidate c) (modelName : String)
    {budget : Option EvidencePackBudget} (hbudget : (budget.getD .default).validate = .ok ()) :
    ∃ result pack, search m modelName query batch = .ok result ∧ buildEvidencePack m result query budget = .ok pack ∧
      PackConsistent m result.hits (budget.getD .default) pack ∧
      (Set.InjOn m.sha256 (evidenceTexts pack) → validateEvidencePackIdentity m pack = .ok ()) := by
  obtain ⟨result, hresult, hpackable, hkeys⟩ := search_packable m hquery hfinite modelName
  obtain ⟨pack, hpack, hconsistent, haccepted⟩ := build_accepted m hpackable hbudget
  exact ⟨result, pack, hresult, hpack, hconsistent, fun hsha => haccepted (nodup_evidenceIds m hkeys hconsistent hsha)⟩

namespace QuakePack

theorem query_accepted : query.postInit = .ok query := by
  have htext : normalizeText query.text = query.text := by decide
  have hlength : query.text.length = 10 := by decide
  simp only [SearchQuery.postInit, htext, hlength]
  rfl

/-- A dense candidate whose similarity is not a number. -/
def unscored : CandidateBatch Report := ⟨[], [⟨⟨"1-0", report⟩, document, 1, .nan, none⟩]⟩

/-- Whether the candidates are ranked, and their pack fails. -/
def hasNoPack (batch : CandidateBatch Report) : Bool :=
  match search reports "bge" query batch with
  | .ok result => match buildEvidencePack reports result query none with
    | .ok _ => false
    | .error _ => true
  | .error _ => false

end QuakePack

open QuakePack in
theorem search_pack_consistent_quakes :
    ∃ result pack, search reports "bge" query found = .ok result ∧
      buildEvidencePack reports result query none = .ok pack ∧ PackConsistent reports result.hits .default pack ∧
      (Set.InjOn reports.sha256 (evidenceTexts pack) → validateEvidencePackIdentity reports pack = .ok ()) :=
  search_pack_consistent reports query_accepted (by simp only [FiniteCandidate]; decide +kernel) "bge" rfl

open QuakePack in
/-- Canonical JSON refuses the pack of a candidate without a score. -/
theorem unscored_candidate_has_no_pack :
    query.postInit = .ok query ∧ EvidencePackBudget.default.validate = .ok () ∧
      ∃ result, search reports "bge" query unscored = .ok result ∧
        ∃ e, buildEvidencePack reports result query none = .error e := by
  refine ⟨query_accepted, rfl, ?_⟩
  have h : hasNoPack unscored = true := by decide +kernel
  unfold hasNoPack at h
  split at h
  · rename_i result hresult
    refine ⟨result, hresult, ?_⟩
    split at h
    · cases h
    · rename_i e he
      exact ⟨e, he⟩
  · cases h

end AtlasPulse
