import AtlasPulse.CaptureSound

/-!
# Ambiguous operational text

`_operational_claims` drops a predicate when the text fields of a node show
both of its values. The fields are read as excerpts: what a text says after
the cut is not seen.
-/

namespace AtlasPulse

open PyJson PyText

section
variable {E T F : Type} (m : TextModel E T F)

/-- `_operational_claims`. -/
def operationalClaims (node : EvidenceNode E) : List EvidenceClaim :=
  (operationalContents m node.message.event).map (makeClaim m node.nodeId)

/-- The whole text of a field, `_clean_excerpt` without the cut. -/
def cleanText (value : String) : String := strip (collapseSpace value)

/-- A phrase of a value of the predicate is found in one of the text fields. -/
def saysValue (clean : String → String) (event : E) (predicate : ClaimPredicate) (value : String) : Bool :=
  relationshipTextFields.any fun field =>
    match m.payload event field with
    | some (.str raw) =>
      !(strip raw = "") && operationalPatterns.any fun row =>
        row.1 = predicate && row.2.1 = value && row.2.2.any fun pattern => pattern.search m.isWord (m.casefold (clean raw))
    | _ => false

/-- The place that the claims are about. -/
def hasPlace (event : E) : Bool :=
  match m.payload event "place" with
  | some (.str place) => (normalizedPlace m place).isSome
  | _ => false

/-! ## Matches -/

/-- The texts that show a value of a predicate. -/
def evidenceOf (event : E) (predicate : ClaimPredicate) : List (String × String × String) :=
  ((operationalMatches m event).filter fun x => x.1 = predicate).map Prod.snd

variable {m} {event : E} {predicate : ClaimPredicate}

theorem exists_operationalMatch {value : String} :
    (∃ found, (predicate, value, found) ∈ operationalMatches m event) ↔ saysValue m cleanExcerpt event predicate value = true := by
  unfold saysValue
  rw [List.any_eq_true]
  constructor
  · rintro ⟨found, h⟩
    obtain ⟨field, hfield, hmem⟩ := List.mem_flatMap.mp h
    refine ⟨field, hfield, ?_⟩
    obtain ⟨raw, heq⟩ : ∃ raw, m.payload event field = some (.str raw) := by
      split at hmem
      · exact ⟨_, ‹_›⟩
      · cases hmem
    simp only [heq] at hmem ⊢
    by_cases hraw : strip raw = ""
    · rw [if_pos hraw] at hmem
      cases hmem
    · rw [if_neg hraw] at hmem
      obtain ⟨row, hrow, hsome⟩ := List.mem_filterMap.mp hmem
      split at hsome
      · rename_i hsearch
        obtain ⟨rfl, rfl, rfl⟩ : row.1 = predicate ∧ row.2.1 = value ∧ ("payload." ++ field, raw) = found := by
          simpa using hsome
        simp only [hraw, decide_false, Bool.not_false, Bool.true_and, List.any_eq_true, Bool.and_eq_true, decide_eq_true_eq]
        exact ⟨row, hrow, ⟨rfl, rfl⟩, List.any_eq_true.mp hsearch⟩
      · cases hsome
  · rintro ⟨field, hfield, hsays⟩
    obtain ⟨raw, heq⟩ : ∃ raw, m.payload event field = some (.str raw) := by
      split at hsays
      · exact ⟨_, ‹_›⟩
      · cases hsays
    simp only [heq, Bool.and_eq_true, Bool.not_eq_true', decide_eq_false_iff_not, List.any_eq_true, decide_eq_true_eq] at hsays
    obtain ⟨hraw, row, hrow, ⟨hpredicate, hvalue⟩, hsearch⟩ := hsays
    refine ⟨("payload." ++ field, raw), List.mem_flatMap.mpr ⟨field, hfield, ?_⟩⟩
    simp only [heq, if_neg hraw]
    refine List.mem_filterMap.mpr ⟨row, hrow, ?_⟩
    rw [if_pos (List.any_eq_true.mpr hsearch), hpredicate, hvalue]

theorem mem_evidenceOf {value : String} :
    value ∈ (evidenceOf m event predicate).map Prod.fst ↔ saysValue m cleanExcerpt event predicate value = true := by
  rw [← exists_operationalMatch]
  unfold evidenceOf
  constructor
  · intro h
    obtain ⟨found, hfound, rfl⟩ := List.mem_map.mp h
    obtain ⟨x, hx, rfl⟩ := List.mem_map.mp hfound
    obtain ⟨hmem, hpredicate⟩ := List.mem_filter.mp hx
    rw [← of_decide_eq_true hpredicate]
    exact ⟨x.2.2, hmem⟩
  · rintro ⟨found, h⟩
    exact List.mem_map.mpr ⟨(value, found), List.mem_map.mpr ⟨_, List.mem_filter.mpr ⟨h, by simp⟩, rfl⟩, rfl⟩

/-! ## Values -/

/-- The patterns of a predicate with opposites show one of the two. -/
theorem operationalPatterns_value {sides : String × String} (ho : opposites predicate = some sides) :
    ∀ row ∈ operationalPatterns, row.1 = predicate → row.2.1 = sides.1 ∨ row.2.1 = sides.2 := by
  have hall : ∀ p, ∀ s ∈ opposites p, ∀ row ∈ operationalPatterns.map (fun row => (row.1, row.2.1)),
      row.1 = p → row.2 = s.1 ∨ row.2 = s.2 := by
    intro p
    cases p <;> decide
  exact fun row hrow hp => hall predicate sides ho _ (List.mem_map_of_mem hrow) hp

theorem opposites_ne {sides : String × String} (ho : opposites predicate = some sides) : sides.1 ≠ sides.2 := by
  cases predicate <;> cases ho <;> decide

theorem saysValue_side {clean : String → String} {sides : String × String} (ho : opposites predicate = some sides)
    {value : String} (h : saysValue m clean event predicate value = true) : value = sides.1 ∨ value = sides.2 := by
  unfold saysValue at h
  obtain ⟨field, -, hsays⟩ := List.any_eq_true.mp h
  split at hsays
  · simp only [Bool.and_eq_true, List.any_eq_true, decide_eq_true_eq] at hsays
    obtain ⟨-, row, hrow, ⟨hpredicate, rfl⟩, -⟩ := hsays
    exact operationalPatterns_value ho row hrow hpredicate
  · cases hsays

/-- The values that the matches show are one value just when one side is
shown without the other. -/
theorem values_single {sides : String × String} (ho : opposites predicate = some sides) :
    ((evidenceOf m event predicate).map Prod.fst).dedup.length = 1 ↔
      ¬ (saysValue m cleanExcerpt event predicate sides.1 = true ↔
        saysValue m cleanExcerpt event predicate sides.2 = true) := by
  rw [← mem_evidenceOf, ← mem_evidenceOf]
  have hside : ∀ value ∈ (evidenceOf m event predicate).map Prod.fst, value = sides.1 ∨ value = sides.2 :=
    fun value hvalue => saysValue_side ho (mem_evidenceOf.mp hvalue)
  have hne := opposites_ne ho
  revert hside
  generalize (evidenceOf m event predicate).map Prod.fst = values
  intro hside
  constructor
  · intro hlen heq
    obtain ⟨value, hvalue⟩ := List.length_eq_one_iff.mp hlen
    have hmem : ∀ w, w ∈ values ↔ w = value := fun w => by rw [← List.mem_dedup, hvalue, List.mem_singleton]
    have hboth : sides.1 ∈ values ∧ sides.2 ∈ values := by
      rcases hside value ((hmem value).mpr rfl) with h | h
      · have h1 := (hmem sides.1).mpr h.symm
        exact ⟨h1, heq.mp h1⟩
      · have h2 := (hmem sides.2).mpr h.symm
        exact ⟨heq.mpr h2, h2⟩
    exact hne (((hmem _).mp hboth.1).trans ((hmem _).mp hboth.2).symm)
  · intro hxor
    have hone : ∀ side ∈ values, (∀ w ∈ values, w = side) → values.dedup.length = 1 := by
      intro side hmem hall
      refine List.length_eq_one_iff.mpr ⟨side, ?_⟩
      refine List.perm_singleton.mp ((List.perm_ext_iff_of_nodup (List.nodup_dedup _) (List.nodup_singleton _)).mpr fun w => ?_)
      rw [List.mem_dedup, List.mem_singleton]
      exact ⟨hall w, fun h => h ▸ hmem⟩
    by_cases h1 : sides.1 ∈ values
    · have h2 : sides.2 ∉ values := fun h2 => hxor ⟨fun _ => h2, fun _ => h1⟩
      exact hone sides.1 h1 fun w hw => (hside w hw).resolve_right fun h => h2 (h ▸ hw)
    · have h2 : sides.2 ∈ values := by
        by_contra h2
        exact hxor ⟨fun h => absurd h h1, fun h => absurd h h2⟩
      exact hone sides.2 h2 fun w hw => (hside w hw).resolve_left fun h => h1 (h ▸ hw)

/-! ## Claims -/

theorem operationalContent_isSome {normalized display : String} :
    (operationalContent (operationalMatches m event) normalized display predicate).isSome ↔
      ((evidenceOf m event predicate).map Prod.fst).dedup.length = 1 := by
  unfold operationalContent
  dsimp only
  rw [show ((operationalMatches m event).filter fun x => x.1 = predicate).map Prod.snd = evidenceOf m event predicate from rfl]
  by_cases h : ((evidenceOf m event predicate).map Prod.fst).dedup.length = 1
  · rw [if_neg (not_not.mpr h)]
    cases hev : evidenceOf m event predicate with
    | nil =>
      rw [hev] at h
      cases h
    | cons found evidence =>
      rw [hev] at h
      exact iff_of_true rfl h
  · rw [if_pos h]
    simp [h]

theorem no_operationalContents (h : ¬ ∃ place, m.payload event "place" = some (.str place)) :
    operationalContents m event = [] ∧ hasPlace m event = false := by
  refine ⟨?_, ?_⟩
  · unfold operationalContents
    split
    · exact absurd ⟨_, ‹_›⟩ h
    · rfl
  · unfold hasPlace
    split
    · exact absurd ⟨_, ‹_›⟩ h
    · rfl

/-- A node makes a claim of a predicate just when it has a place and its
excerpts show one side without the other. -/
theorem operationalClaims_iff {node : EvidenceNode E} {sides : String × String} (ho : opposites predicate = some sides) :
    (∃ claim ∈ operationalClaims m node, claim.predicate = predicate) ↔
      hasPlace m node.message.event = true ∧
        ¬ (saysValue m cleanExcerpt node.message.event predicate sides.1 = true ↔
          saysValue m cleanExcerpt node.message.event predicate sides.2 = true) := by
  rw [← values_single ho]
  have hclaims : (∃ claim ∈ operationalClaims m node, claim.predicate = predicate) ↔
      ∃ c ∈ operationalContents m node.message.event, c.predicate = predicate := by
    unfold operationalClaims
    simp only [List.mem_map, exists_exists_and_eq_and]
    rfl
  rw [hclaims]
  by_cases hplace : ∃ place, m.payload node.message.event "place" = some (.str place)
  · obtain ⟨place, hplace⟩ := hplace
    simp only [operationalContents, hasPlace, hplace]
    cases hnormal : normalizedPlace m place with
    | none => simp
    | some found =>
      obtain ⟨normalized, display⟩ := found
      simp only [Option.isSome_some, true_and]
      rw [← @operationalContent_isSome _ _ _ m _ _ normalized display]
      constructor
      · rintro ⟨c, hc, rfl⟩
        obtain ⟨p, -, hcontent⟩ := List.mem_filterMap.mp hc
        rw [(operationalContent_spec hcontent).1, hcontent]
        rfl
      · intro hsome
        obtain ⟨c, hcontent⟩ := Option.isSome_iff_exists.mp hsome
        obtain ⟨hpredicate, hmatch, -⟩ := operationalContent_spec hcontent
        refine ⟨c, List.mem_filterMap.mpr ⟨predicate, ?_, hcontent⟩, hpredicate⟩
        rw [List.mem_insertionSort, List.mem_dedup, ← hpredicate]
        exact List.mem_map_of_mem hmatch
  · obtain ⟨hcontents, hno⟩ := no_operationalContents hplace
    rw [hcontents, hno]
    simp

/-- **Ambiguous text.** A node whose text says both sides of a predicate
makes no claim of it just when it has no usable place, or the excerpts show
both sides or none. -/
theorem ambiguous_text_iff (m : TextModel E T F) (node : EvidenceNode E) (predicate : ClaimPredicate) (sides : String × String)
    (ho : opposites predicate = some sides) :
    ((saysValue m cleanText node.message.event predicate sides.1 = true ∧
        saysValue m cleanText node.message.event predicate sides.2 = true) →
      ∀ claim ∈ operationalClaims m node, claim.predicate ≠ predicate) ↔
    ((saysValue m cleanText node.message.event predicate sides.1 = true ∧
        saysValue m cleanText node.message.event predicate sides.2 = true) →
      hasPlace m node.message.event = false ∨
        (saysValue m cleanExcerpt node.message.event predicate sides.1 = true ↔
          saysValue m cleanExcerpt node.message.event predicate sides.2 = true)) := by
  refine imp_congr_right fun _ => ?_
  have hiff := not_congr (@operationalClaims_iff E T F m _ node _ ho)
  rw [not_and_or, not_not, Bool.not_eq_true] at hiff
  rw [← hiff]
  push Not
  rfl

end

/-! ## A node with both sides -/

namespace LiftedThenOrdered

open QuakeAndAlert

def first : List Char := "evacuation orders lifted. ".toList ++ List.replicate 280 'x'

def last : List Char := " evacuation orders remain in effect".toList

def description : String := String.ofList (first ++ last)

def node (description : String) : EvidenceNode Signal where
  nodeId := "nws:orders"
  message := ⟨"1-0", ⟨"nws", "orders", "weather.alert", 60, [("place", "Ojai"), ("description", description)]⟩⟩

def stripChars (value : List Char) : List Char := ((value.dropWhile isSpace).reverse.dropWhile isSpace).reverse

theorem toList_strip (value : String) : (strip value).toList = stripChars value.toList := by
  unfold strip stripChars
  rw [String.toList_ofList]

theorem toList_cleanText (value : String) : (cleanText value).toList = stripChars (subRuns isSpace false value.toList) := by
  unfold cleanText collapseSpace
  rw [toList_strip, String.toList_ofList]

theorem cleanText_description : (cleanText description).toList = first ++ last := by
  rw [toList_cleanText, description, String.toList_ofList]
  decide +kernel

theorem cleanExcerpt_description : (cleanExcerpt description).toList = (first ++ last).take 280 := by
  unfold cleanExcerpt
  rw [String.toList_ofList, ← cleanText_description]
  rfl

theorem strip_description : strip description ≠ "" := by
  intro h
  have hnil := congrArg String.toList h
  rw [toList_strip, description, String.toList_ofList] at hnil
  exact absurd hnil (by decide +kernel)

/-- The one text field of the node is its description. -/
theorem saysValue_node {clean : String → String} {text : String} {shown : List Char} (hraw : strip text ≠ "")
    (hclean : (clean text).toList = shown) (predicate : ClaimPredicate) (value : String) :
    saysValue signals clean (node text).message.event predicate value =
      operationalPatterns.any fun row =>
        row.1 = predicate && row.2.1 = value && row.2.2.any fun pattern => pattern.searchFrom signals.isWord none shown := by
  subst hclean
  simp [saysValue, relationshipTextFields, node, signals, List.lookup, hraw, Pattern.search]

end LiftedThenOrdered

open LiftedThenOrdered QuakeAndAlert

/-- The order that remains in effect stands after the cut, and the node
claims that the orders were lifted. -/
theorem side_after_cut_is_claimed :
    saysValue signals cleanText (node description).message.event .evacuationState "active" = true ∧
      saysValue signals cleanText (node description).message.event .evacuationState "lifted" = true ∧
      ∃ claim ∈ operationalClaims signals (node description), claim.predicate = .evacuationState := by
  refine ⟨?_, ?_, (@operationalClaims_iff _ _ _ signals _ _ ("active", "lifted") rfl).mpr ⟨by decide +kernel, fun h => ?_⟩⟩
  · rw [saysValue_node strip_description cleanText_description]
    decide +kernel
  · rw [saysValue_node strip_description cleanText_description]
    decide +kernel
  · rw [saysValue_node strip_description cleanExcerpt_description,
      saysValue_node strip_description cleanExcerpt_description] at h
    exact absurd h (by decide +kernel)

/-- A text that says both sides at once. -/
theorem ambiguous_text_iff_both :
    (saysValue signals cleanExcerpt (node "evacuation orders lifted; evacuate now").message.event .evacuationState
        "active" = true) ∧
      ∀ claim ∈ operationalClaims signals (node "evacuation orders lifted; evacuate now"),
        claim.predicate ≠ .evacuationState :=
  ⟨by decide +kernel,
    (ambiguous_text_iff signals (node "evacuation orders lifted; evacuate now") .evacuationState ("active", "lifted") rfl).mpr
      (fun _ => Or.inr (by decide +kernel)) ⟨by decide +kernel, by decide +kernel⟩⟩

end AtlasPulse
