import AtlasPulse.EvidencePacks

/-!
# A built pack is accepted

The loop over the hits turns each of them into one outcome, an item or an
exclusion. What the validator asks of a pack is read off the outcomes.
-/

namespace AtlasPulse

open PyJson PyText Binary64

variable {E : Type} (m : RetrievalModel E)

/-! ## Outcomes -/

/-- What the loop makes of one hit: an item with the start of its text, or an
exclusion with a reason. -/
def Accounts (budget : EvidencePackBudget) (ranked : SearchHit E × Nat) : EvidencePackItem ⊕ EvidencePackExclusion → Prop
  | .inl item => ∃ length : Nat, 1 ≤ length ∧ (length : Int) ≤ budget.maxCharactersPerItem ∧
      length ≤ ranked.1.documentText.length ∧ ranked.1.citation.status = .traceable ∧
      ranked.1.citation.url.isSome ∧ item = itemOf m ranked.2 ranked.1 length
  | .inr exclusion => ∃ reason, exclusion = exclusionOf m ranked.2 ranked.1 reason

def outcomeRank : EvidencePackItem ⊕ EvidencePackExclusion → Int
  | .inl item => item.retrievalRank
  | .inr exclusion => exclusion.retrievalRank

def includedItems (outcomes : List (EvidencePackItem ⊕ EvidencePackExclusion)) : List EvidencePackItem :=
  outcomes.filterMap Sum.getLeft?

def withheld (outcomes : List (EvidencePackItem ⊕ EvidencePackExclusion)) : List EvidencePackExclusion :=
  outcomes.filterMap Sum.getRight?

theorem outcomeRank_of_accounts {budget : EvidencePackBudget} {ranked : SearchHit E × Nat}
    {o : EvidencePackItem ⊕ EvidencePackExclusion} (h : Accounts m budget ranked o) : outcomeRank o = ranked.2 := by
  cases o with
  | inl item =>
    obtain ⟨length, -, -, -, -, -, rfl⟩ := h
    rfl
  | inr exclusion =>
    obtain ⟨reason, rfl⟩ := h
    rfl

theorem ranks_of_accounts {budget : EvidencePackBudget} {ranked : List (SearchHit E × Nat)}
    {outcomes : List (EvidencePackItem ⊕ EvidencePackExclusion)} (h : List.Forall₂ (Accounts m budget) ranked outcomes) :
    outcomes.map outcomeRank = ranked.map fun r => (r.2 : Int) := by
  induction h with
  | nil => rfl
  | cons ha _ ih => rw [List.map_cons, List.map_cons, ih, outcomeRank_of_accounts m ha]

theorem itemRanks_sublist (outcomes : List (EvidencePackItem ⊕ EvidencePackExclusion)) :
    ((includedItems outcomes).map (·.retrievalRank)).Sublist (outcomes.map outcomeRank) := by
  induction outcomes with
  | nil => exact .slnil
  | cons o outcomes ih =>
    cases o with
    | inl item => exact ih.cons_cons _
    | inr exclusion => exact ih.cons _

theorem exclusionRanks_sublist (outcomes : List (EvidencePackItem ⊕ EvidencePackExclusion)) :
    ((withheld outcomes).map (·.retrievalRank)).Sublist (outcomes.map outcomeRank) := by
  induction outcomes with
  | nil => exact .slnil
  | cons o outcomes ih =>
    cases o with
    | inl item => exact ih.cons _
    | inr exclusion => exact ih.cons_cons _

theorem ranks_perm (outcomes : List (EvidencePackItem ⊕ EvidencePackExclusion)) :
    ((includedItems outcomes).map (·.retrievalRank) ++ (withheld outcomes).map (·.retrievalRank)).Perm
      (outcomes.map outcomeRank) := by
  induction outcomes with
  | nil => exact .refl _
  | cons o outcomes ih =>
    cases o with
    | inl item => exact ih.cons _
    | inr exclusion => exact List.perm_middle.trans (ih.cons _)

/-! ## The loop -/

/-- The scan after some of the hits. -/
structure Scanned (budget : EvidencePackBudget) (ranked : List (SearchHit E × Nat)) (s : PackScan) : Prop where
  accounted : ∃ outcomes, List.Forall₂ (Accounts m budget) ranked outcomes ∧ s.items = includedItems outcomes ∧
    s.exclusions = withheld outcomes
  characters : s.sourceTextCharacters = (s.items.map (·.textCharacters)).sum
  itemLimit : s.items.length ≤ budget.maxItems
  characterLimit : s.sourceTextCharacters ≤ budget.maxTotalCharacters

theorem length_textPrefix {text : String} {length : Nat} (h : length ≤ text.length) :
    (textPrefix text length).length = length := by
  rw [textPrefix, if_pos (Int.natCast_nonneg length), Int.toNat_natCast, String.length_ofList, List.length_take]
  exact Nat.min_eq_left h

theorem itemOf_textCharacters {rank : Nat} {hit : SearchHit E} {n : Nat} (h : n ≤ hit.documentText.length) :
    (itemOf m rank hit n).textCharacters = n :=
  congrArg (Int.ofNat ·) (length_textPrefix h)

theorem exclusionReason_eq_none {budget : EvidencePackBudget} {s : PackScan} {hit : SearchHit E}
    (h : exclusionReason budget s hit = none) :
    hit.citation.status = .traceable ∧ hit.citation.url.isSome ∧ 1 ≤ hit.documentText.length ∧
      s.items.length < budget.maxItems ∧ s.sourceTextCharacters < budget.maxTotalCharacters := by
  unfold exclusionReason at h
  split_ifs at h with h1 h2 h3 h4 h5 h6
  have hstatus : hit.citation.status = .traceable := by
    cases hs : hit.citation.status with
    | traceable => rfl
    | missing => exact absurd hs h1
    | rejected => exact absurd hs h2
  rw [Bool.or_eq_true, not_or] at h3
  refine ⟨hstatus, ?_, ?_, ?_, ?_⟩
  · simpa [Option.isSome_iff_ne_none] using h3.1
  · exact Nat.one_le_iff_ne_zero.mpr fun hlength => h4 (String.length_eq_zero_iff.mp hlength)
  · exact not_le.mp h5
  · exact not_le.mp h6

theorem scanned_start {budget : EvidencePackBudget} (hbudget : budget.validate = .ok ()) :
    Scanned m budget [] .start := by
  simp only [EvidencePackBudget.validate, bind_unit_ok, check_eq_ok, Bool.and_eq_true, decide_eq_true_eq] at hbudget
  exact
    { accounted := ⟨[], .nil, rfl, rfl⟩
      characters := rfl
      itemLimit := by simp only [PackScan.start, List.length_nil]; omega
      characterLimit := by simp only [PackScan.start]; omega }

/-- One hit of the loop becomes one outcome. -/
theorem scanned_scanHit {budget : EvidencePackBudget} (hbudget : budget.validate = .ok ())
    {ranked : List (SearchHit E × Nat)} {s : PackScan} (h : Scanned m budget ranked s) (r : SearchHit E × Nat) :
    Scanned m budget (ranked ++ [r]) (scanHit m budget s r) := by
  obtain ⟨outcomes, haccounts, hitems, hexclusions⟩ := h.accounted
  unfold scanHit
  cases hreason : exclusionReason budget s r.1 with
  | some reason =>
    have hone : Accounts m budget r (.inr (exclusionOf m r.2 r.1 reason)) := ⟨reason, rfl⟩
    refine
      { accounted := ⟨outcomes ++ [.inr (exclusionOf m r.2 r.1 reason)], List.rel_append haccounts (.cons hone .nil), ?_, ?_⟩
        characters := h.characters
        itemLimit := h.itemLimit
        characterLimit := h.characterLimit }
    · simp [includedItems, hitems]
    · simp [withheld, hexclusions]
  | none =>
    obtain ⟨hstatus, hurl, hlength, hcount, hroom⟩ := exclusionReason_eq_none hreason
    simp only [EvidencePackBudget.validate, bind_unit_ok, check_eq_ok, Bool.and_eq_true, decide_eq_true_eq] at hbudget
    obtain ⟨n, hn⟩ : ∃ n : Nat, min (r.1.documentText.length : Int)
        (min budget.maxCharactersPerItem (budget.maxTotalCharacters - s.sourceTextCharacters)) = n :=
      Int.eq_ofNat_of_zero_le (by omega)
    have hdocument : n ≤ r.1.documentText.length := by omega
    have htext : (itemOf m r.2 r.1 n).textCharacters = n := itemOf_textCharacters m hdocument
    have hone : Accounts m budget r (.inl (itemOf m r.2 r.1 n)) :=
      ⟨n, by omega, by omega, hdocument, hstatus, hurl, rfl⟩
    simp only [hn]
    refine
      { accounted := ⟨outcomes ++ [.inl (itemOf m r.2 r.1 n)], List.rel_append haccounts (.cons hone .nil), ?_, ?_⟩
        characters := ?_
        itemLimit := ?_
        characterLimit := ?_ }
    · simp [includedItems, hitems]
    · simp [withheld, hexclusions]
    · simp [h.characters]
    · simp only [List.length_append, List.length_singleton, Nat.cast_add, Nat.cast_one]
      omega
    · simp only [htext]
      omega

theorem scanned {budget : EvidencePackBudget} (hbudget : budget.validate = .ok ()) (ranked : List (SearchHit E × Nat)) :
    Scanned m budget ranked (ranked.foldl (scanHit m budget) .start) := by
  induction ranked using List.reverseRecOn with
  | nil => exact scanned_start m hbudget
  | append_singleton ranked r ih =>
    rw [List.foldl_append]
    exact scanned_scanHit m hbudget ih r

/-! ## The validator's loop -/

/-- The checks of one item that look at no other item. -/
structure SoundItem (item : EvidencePackItem) : Prop where
  traceable : item.citation.status = .traceable
  url : item.citation.url.any (· ≠ "") = true
  textCharacters : item.textCharacters = item.text.length
  textSha256 : item.textSha256 = documentHash m.toTextModel item.text
  excerpt : item.textCharacters ≤ item.documentCharacters
  truncated : item.truncated = decide (item.textCharacters < item.documentCharacters)
  evidenceId : item.evidenceId =
    evidenceId m item.streamId item.eventId item.source item.documentSha256 item.textSha256 item.citation

theorem validateItem_eq_ok {seen : List String × List Int} {item : EvidencePackItem} (h : SoundItem m item)
    (hid : item.evidenceId ∉ seen.1) (hrank : item.retrievalRank ∉ seen.2) :
    validateItem m seen item = .ok (item.evidenceId :: seen.1, item.retrievalRank :: seen.2) := by
  have hfresh : check (!(seen.1.contains item.evidenceId || seen.2.contains item.retrievalRank))
      "evidence pack items must use unique identities and retrieval ranks" = .ok () :=
    check_eq_ok.mpr (by simp [hid, hrank])
  have htraceable := h.traceable
  have hurl := h.url
  have hcharacters := h.textCharacters
  have hsha := h.textSha256
  have hexcerpt := h.excerpt
  have htruncated := h.truncated
  have hevidence := h.evidenceId
  simp only [validateItem, bind_ok, check_eq_ok, exists_unit, decide_eq_true_eq, Bool.and_eq_true, pure, Except.pure]
  exact ⟨check_eq_ok.mp hfresh, ⟨htraceable, hurl⟩, ⟨hcharacters, hsha⟩, hexcerpt, htruncated, hevidence, trivial⟩

theorem validateItems_ok {items : List EvidencePackItem} (h : ∀ item ∈ items, SoundItem m item)
    (hids : (items.map (·.evidenceId)).Nodup) (hranks : (items.map (·.retrievalRank)).Nodup)
    (seen : List String × List Int) (hseen : ∀ item ∈ items, item.evidenceId ∉ seen.1 ∧ item.retrievalRank ∉ seen.2) :
    ∃ after, items.foldlM (validateItem m) seen = .ok after := by
  induction items generalizing seen with
  | nil => exact ⟨seen, rfl⟩
  | cons item items ih =>
    obtain ⟨hid, hids⟩ := List.nodup_cons.mp hids
    obtain ⟨hrank, hranks⟩ := List.nodup_cons.mp hranks
    obtain ⟨hfreshId, hfreshRank⟩ := hseen item List.mem_cons_self
    rw [List.foldlM_cons, validateItem_eq_ok m (h item List.mem_cons_self) hfreshId hfreshRank]
    apply ih (fun i hi => h i (List.mem_cons_of_mem _ hi)) hids hranks
    intro i hi
    obtain ⟨h1, h2⟩ := hseen i (List.mem_cons_of_mem _ hi)
    have hneId : i.evidenceId ≠ item.evidenceId := fun he => hid (List.mem_map.mpr ⟨i, hi, he⟩)
    have hneRank : i.retrievalRank ≠ item.retrievalRank := fun he => hrank (List.mem_map.mpr ⟨i, hi, he⟩)
    exact ⟨by simp [hneId, h1], by simp [hneRank, h2]⟩

/-! ## Acceptance -/

/-- A result whose pack has an identity: JSON has its floats, and a citation
that is traceable has a URL. -/
structure Packable (result : SearchResult E) (query : SearchQuery) : Prop where
  query : ∃ v, queryIdentity m query = .ok v
  distance : ∀ hit ∈ result.hits, ∀ d ∈ hit.distanceKm, d.isFinite = true
  ranking : ∀ hit ∈ result.hits, ∃ v, hit.ranking.asdict m = .ok v
  url : ∀ hit ∈ result.hits, hit.citation.url ≠ some ""
  considered : result.hits.length ≤ result.candidatesConsidered

theorem soundItem_itemOf {rank : Nat} {hit : SearchHit E} {n : Nat} (hlength : n ≤ hit.documentText.length)
    (hstatus : hit.citation.status = .traceable) (hsome : hit.citation.url.isSome) (hurl : hit.citation.url ≠ some "") :
    SoundItem m (itemOf m rank hit n) where
  traceable := hstatus
  url := by
    obtain ⟨url, hurl'⟩ := Option.isSome_iff_exists.mp hsome
    have hne : url ≠ "" := fun he => hurl (he ▸ hurl')
    show hit.citation.url.any (· ≠ "") = true
    simp [hurl', hne]
  textCharacters := rfl
  textSha256 := rfl
  excerpt := by
    rw [itemOf_textCharacters m hlength]
    exact Int.ofNat_le.mpr hlength
  truncated := by
    rw [itemOf_textCharacters m hlength]
    rfl
  evidenceId := rfl

theorem soundItem_of_accounts {budget : EvidencePackBudget} {ranked : SearchHit E × Nat} {item : EvidencePackItem}
    (h : Accounts m budget ranked (.inl item)) (hurl : ranked.1.citation.url ≠ some "") :
    SoundItem m item ∧ item.textCharacters ≤ budget.maxCharactersPerItem := by
  obtain ⟨n, -, hbudget, hlength, hstatus, hsome, rfl⟩ := h
  refine ⟨soundItem_itemOf m hlength hstatus hsome hurl, ?_⟩
  rw [itemOf_textCharacters m hlength]
  exact hbudget

theorem mem_includedItems {budget : EvidencePackBudget} {ranked : List (SearchHit E × Nat)}
    {outcomes : List (EvidencePackItem ⊕ EvidencePackExclusion)} (h : List.Forall₂ (Accounts m budget) ranked outcomes)
    {item : EvidencePackItem} (hitem : item ∈ includedItems outcomes) :
    ∃ r ∈ ranked, Accounts m budget r (.inl item) := by
  induction h with
  | nil => exact absurd hitem List.not_mem_nil
  | @cons r o ranked outcomes ha _ ih =>
    cases o with
    | inl i =>
      obtain rfl | hitem := List.mem_cons.mp hitem
      · exact ⟨r, List.mem_cons_self, ha⟩
      · obtain ⟨r', hr', ha'⟩ := ih hitem
        exact ⟨r', List.mem_cons_of_mem _ hr', ha'⟩
    | inr x =>
      obtain ⟨r', hr', ha'⟩ := ih hitem
      exact ⟨r', List.mem_cons_of_mem _ hr', ha'⟩

theorem mem_withheld {budget : EvidencePackBudget} {ranked : List (SearchHit E × Nat)}
    {outcomes : List (EvidencePackItem ⊕ EvidencePackExclusion)} (h : List.Forall₂ (Accounts m budget) ranked outcomes)
    {exclusion : EvidencePackExclusion} (hexclusion : exclusion ∈ withheld outcomes) :
    ∃ r ∈ ranked, Accounts m budget r (.inr exclusion) := by
  induction h with
  | nil => exact absurd hexclusion List.not_mem_nil
  | @cons r o ranked outcomes ha _ ih =>
    cases o with
    | inl i =>
      obtain ⟨r', hr', ha'⟩ := ih hexclusion
      exact ⟨r', List.mem_cons_of_mem _ hr', ha'⟩
    | inr x =>
      obtain rfl | hexclusion := List.mem_cons.mp hexclusion
      · exact ⟨r, List.mem_cons_self, ha⟩
      · obtain ⟨r', hr', ha'⟩ := ih hexclusion
        exact ⟨r', List.mem_cons_of_mem _ hr', ha'⟩

/-! ## Ranks -/

theorem map_rank_zipIdx (hits : List (SearchHit E)) :
    ((hits.zipIdx 1).map fun r => (r.2 : Int)) = rangeFromOne (hits.length + 1) := by
  have hsnd : (hits.zipIdx 1).map Prod.snd = List.range' 1 hits.length := List.zipIdx_map_snd 1 hits
  calc ((hits.zipIdx 1).map fun r => (r.2 : Int))
      = ((hits.zipIdx 1).map Prod.snd).map fun n : Nat => (n : Int) := by rw [List.map_map]; rfl
    _ = (List.range' 1 hits.length).map fun n : Nat => (n : Int) := by rw [hsnd]
    _ = rangeFromOne (hits.length + 1) := by
        unfold rangeFromOne
        rw [show ((hits.length : Int) + 1 - 1).toNat = hits.length by omega, List.range'_eq_map_range, List.map_map]
        apply List.map_congr_left
        intro i _
        show ((1 + i : Nat) : Int) = i + 1
        omega

theorem pairwise_rangeFromOne (stop : Int) : (rangeFromOne stop).Pairwise (· < ·) := by
  unfold rangeFromOne
  rw [List.pairwise_map]
  apply List.pairwise_lt_range.imp
  intro i j hij
  omega

theorem sortedInts_eq {values : List Int} (h : values.Pairwise (· < ·)) : sortedInts values = values :=
  (h.imp le_of_lt).insertionSort_eq

theorem sortedInts_perm {values sorted : List Int} (h : values.Perm sorted) (hsorted : sorted.Pairwise (· < ·)) :
    sortedInts values = sorted :=
  ((List.perm_insertionSort _ values).trans h).eq_of_pairwise' (List.pairwise_insertionSort _ values)
    (hsorted.imp le_of_lt)

/-! ## Identity -/

theorem optionalJson_ok {x : Option Float64} (h : ∀ d ∈ x, d.isFinite = true) :
    ∃ v, optionalJson (floatJson m) x = .ok v := by
  cases x with
  | none => exact ⟨_, rfl⟩
  | some d => exact ⟨_, if_pos (h d rfl)⟩

/-- The floats of an explanation. -/
def RankingExplanation.floats (r : RankingExplanation) : List Float64 :=
  r.lexicalScore.toList ++ r.denseSimilarity.toList ++ [r.rrfScore, r.tokenCoverage, r.rerankScore]

theorem floatJson_of_isFinite {x : Float64} (h : x.isFinite = true) : floatJson m x = .ok (.float (m.floatRepr x)) := if_pos h

theorem ranking_asdict_ok {r : RankingExplanation} (h : ∀ x ∈ r.floats, x.isFinite = true) :
    ∃ v, r.asdict m = .ok v := by
  simp only [RankingExplanation.floats, List.mem_append, List.mem_cons, List.not_mem_nil, or_false,
    Option.mem_toList] at h
  obtain ⟨lexical, hlexical⟩ := optionalJson_ok m fun x (hx : x ∈ r.lexicalScore) => h x (Or.inl (Or.inl hx))
  obtain ⟨dense, hdense⟩ := optionalJson_ok m fun x (hx : x ∈ r.denseSimilarity) => h x (Or.inl (Or.inr hx))
  have hrrf := floatJson_of_isFinite m (h r.rrfScore (Or.inr (Or.inl rfl)))
  have hcoverage := floatJson_of_isFinite m (h r.tokenCoverage (Or.inr (Or.inr (Or.inl rfl))))
  have hrerank := floatJson_of_isFinite m (h r.rerankScore (Or.inr (Or.inr (Or.inr rfl))))
  exact ⟨_, bind_ok.mpr ⟨lexical, hlexical, bind_ok.mpr ⟨dense, hdense, bind_ok.mpr ⟨_, hrrf, bind_ok.mpr
    ⟨_, hcoverage, bind_ok.mpr ⟨_, hrerank, rfl⟩⟩⟩⟩⟩⟩

theorem item_asdict_ok {item : EvidencePackItem} (hdistance : ∀ d ∈ item.distanceKm, d.isFinite = true)
    (hranking : ∃ v, item.ranking.asdict m = .ok v) : ∃ v, item.asdict m = .ok v := by
  obtain ⟨d, hd⟩ := optionalJson_ok m hdistance
  obtain ⟨r, hr⟩ := hranking
  exact ⟨_, bind_ok.mpr ⟨d, hd, bind_ok.mpr ⟨r, hr, rfl⟩⟩⟩

theorem exclusion_asdict_ok {exclusion : EvidencePackExclusion} (hdistance : ∀ d ∈ exclusion.distanceKm, d.isFinite = true)
    (hranking : ∃ v, exclusion.ranking.asdict m = .ok v) : ∃ v, exclusion.asdict m = .ok v := by
  obtain ⟨d, hd⟩ := optionalJson_ok m hdistance
  obtain ⟨r, hr⟩ := hranking
  exact ⟨_, bind_ok.mpr ⟨d, hd, bind_ok.mpr ⟨r, hr, rfl⟩⟩⟩

theorem packIdentity_ok {result : SearchResult E} {query : SearchQuery} (h : Packable m result query)
    {budget : EvidencePackBudget} {outcomes : List (EvidencePackItem ⊕ EvidencePackExclusion)}
    (haccounts : List.Forall₂ (Accounts m budget) (result.hits.zipIdx 1) outcomes) {retrieval : EvidencePackRetrieval}
    (hquery : retrieval.query = query) (status : EvidencePackStatus) (characters : Int) :
    ∃ packId, packIdentity m status budget retrieval (includedItems outcomes) (withheld outcomes) characters =
      .ok packId := by
  have hhit : ∀ r ∈ result.hits.zipIdx 1, r.1 ∈ result.hits := fun r hr => List.fst_mem_of_mem_zipIdx hr
  obtain ⟨q, hq⟩ := h.query
  obtain ⟨is, his⟩ : ∃ is, (includedItems outcomes).mapM (EvidencePackItem.asdict m) = .ok is := by
    apply exists_mapM
    intro item hitem
    obtain ⟨r, hr, length, -, -, -, -, -, rfl⟩ := mem_includedItems m haccounts hitem
    exact item_asdict_ok m (h.distance _ (hhit r hr)) (h.ranking _ (hhit r hr))
  obtain ⟨xs, hxs⟩ : ∃ xs, (withheld outcomes).mapM (EvidencePackExclusion.asdict m) = .ok xs := by
    apply exists_mapM
    intro exclusion hexclusion
    obtain ⟨r, hr, reason, rfl⟩ := mem_withheld m haccounts hexclusion
    exact exclusion_asdict_ok m (h.distance _ (hhit r hr)) (h.ranking _ (hhit r hr))
  rw [← hquery] at hq
  exact ⟨_, bind_ok.mpr ⟨_, bind_ok.mpr ⟨q, hq, bind_ok.mpr ⟨is, his, bind_ok.mpr ⟨xs, hxs, rfl⟩⟩⟩, rfl⟩⟩

/-! ## Acceptance -/

/-- A pack that agrees with the hits that it was built from: each of them is
accounted for once and in rank order, the budget is kept, and every id is the
hash of what is stored. -/
structure PackConsistent (hits : List (SearchHit E)) (budget : EvidencePackBudget) (pack : EvidencePack) : Prop where
  accounted : ∃ outcomes, List.Forall₂ (Accounts m budget) (hits.zipIdx 1) outcomes ∧
    pack.items = includedItems outcomes ∧ pack.exclusions = withheld outcomes
  itemOrder : (pack.items.map (·.retrievalRank)).Pairwise (· < ·)
  declared : pack.budget = budget
  itemLimit : pack.items.length ≤ budget.maxItems
  characterLimit : (pack.items.map (·.textCharacters)).sum ≤ budget.maxTotalCharacters
  itemCharacters : ∀ item ∈ pack.items, item.textCharacters ≤ budget.maxCharactersPerItem
  evidenceIds : ∀ item ∈ pack.items, item.evidenceId =
    evidenceId m item.streamId item.eventId item.source item.documentSha256 item.textSha256 item.citation
  packId : packIdentity m pack.status pack.budget pack.retrieval pack.items pack.exclusions pack.sourceTextCharacters =
    .ok pack.packId

/-- **Acceptance.** A built pack is consistent, and it is accepted if no two of
its evidence ids collide. -/
theorem build_accepted {result : SearchResult E} {query : SearchQuery} (h : Packable m result query)
    {budget : Option EvidencePackBudget} (hbudget : (budget.getD .default).validate = .ok ()) :
    ∃ pack, buildEvidencePack m result query budget = .ok pack ∧ PackConsistent m result.hits (budget.getD .default) pack ∧
      ((pack.items.map (·.evidenceId)).Nodup → validateEvidencePackIdentity m pack = .ok ()) := by
  have hs := scanned m hbudget (result.hits.zipIdx 1)
  obtain ⟨outcomes, haccounts, hitems, hexclusions⟩ := hs.accounted
  obtain ⟨packId, hid⟩ := @packIdentity_ok E m _ _ h _ _ haccounts
    ⟨query, result.candidatesConsidered, result.hits.length, result.embeddingModel, result.rankingMode, result.rankingRule,
      result.caveat⟩ rfl (packStatus (includedItems outcomes))
    ((result.hits.zipIdx 1).foldl (scanHit m (budget.getD .default)) .start).sourceTextCharacters
  rw [← hitems, ← hexclusions] at hid
  have hranks := (ranks_of_accounts m haccounts).trans (map_rank_zipIdx result.hits)
  have hsorted := pairwise_rangeFromOne (result.hits.length + 1)
  have hitemRanks : ((includedItems outcomes).map (·.retrievalRank)).Pairwise (· < ·) :=
    hsorted.sublist (hranks ▸ itemRanks_sublist outcomes)
  have hexclusionRanks : ((withheld outcomes).map (·.retrievalRank)).Pairwise (· < ·) :=
    hsorted.sublist (hranks ▸ exclusionRanks_sublist outcomes)
  have hperm := hranks ▸ ranks_perm outcomes
  have hlength := hperm.length_eq
  have hsound : ∀ item ∈ includedItems outcomes, SoundItem m item ∧
      item.textCharacters ≤ (budget.getD .default).maxCharactersPerItem := by
    intro item hitem
    obtain ⟨r, hr, ha⟩ := mem_includedItems m haccounts hitem
    exact soundItem_of_accounts m ha (h.url _ (List.fst_mem_of_mem_zipIdx hr))
  rw [← hitems] at hitemRanks hperm hlength hsound
  rw [← hexclusions] at hexclusionRanks hperm hlength
  refine ⟨_, bind_ok.mpr ⟨packId, hid, rfl⟩,
    { accounted := ⟨outcomes, haccounts, hitems, hexclusions⟩
      itemOrder := hitemRanks
      declared := rfl
      itemLimit := hs.itemLimit
      characterLimit := hs.characters ▸ hs.characterLimit
      itemCharacters := fun item hitem => (hsound item hitem).2
      evidenceIds := fun item hitem => (hsound item hitem).1.evidenceId
      packId := hid }, fun hids => ?_⟩
  obtain ⟨after, hafter⟩ := validateItems_ok m (fun item hitem => (hsound item hitem).1) hids
    (hitemRanks.imp ne_of_lt) ([], []) (by simp)
  simp only [validateEvidencePackIdentity, bind_ok, check_eq_ok, exists_unit, decide_eq_true_eq, Bool.and_eq_true,
    List.all_eq_true]
  refine ⟨⟨⟨⟨⟨trivial, trivial⟩, trivial⟩, trivial⟩, trivial⟩, trivial, hs.characters, ⟨(sortedInts_eq hitemRanks).symm,
    (sortedInts_eq hexclusionRanks).symm⟩, ?_, sortedInts_perm hperm hsorted, ?_, ⟨⟨hs.itemLimit, hs.characterLimit⟩,
    fun item hitem => (hsound item hitem).2⟩, after, hafter, packId, hid, rfl⟩
  · rw [hlength]
    simp [rangeFromOne]
  · exact_mod_cast h.considered

end AtlasPulse
