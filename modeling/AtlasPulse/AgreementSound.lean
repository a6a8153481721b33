import AtlasPulse.ExactAgreement
import AtlasPulse.Lib.Dict

/-!
# Soundness of the agreement metrics

What is measured of rated pairs passes the validators, over a group of a report
and over the whole of it.
-/

namespace AtlasPulse.ExactAgreement

open PyTime Kappa

/-! ## Groups -/

section
variable {K V : Type} [DecidableEq K] {items : List (K × V)} {key : K}

def valuesAt (items : List (K × V)) (key : K) : List V := (items.filter fun item => item.1 = key).map Prod.snd

theorem valuesAt_concat (items : List (K × V)) (item : K × V) (key : K) :
    valuesAt (items ++ [item]) key = if item.1 = key then valuesAt items key ++ [item.2] else valuesAt items key := by
  unfold valuesAt
  rw [List.filter_append, List.map_append, List.filter_singleton]
  by_cases h : item.1 = key <;> simp [h]

theorem valuesAt_ne_nil (h : key ∈ items.map Prod.fst) : valuesAt items key ≠ [] := by
  obtain ⟨item, hitem, rfl⟩ := List.mem_map.mp h
  exact List.ne_nil_of_mem (List.mem_map_of_mem (List.mem_filter.mpr ⟨hitem, decide_eq_true rfl⟩))

theorem valuesAt_eq_nil (h : key ∉ items.map Prod.fst) : valuesAt items key = [] := by
  have hnone : (items.filter fun item => item.1 = key) = [] :=
    List.filter_eq_nil_iff.mpr fun item hitem hkey => h (of_decide_eq_true hkey ▸ List.mem_map_of_mem hitem)
  rw [valuesAt, hnone, List.map_nil]

theorem mem_valuesAt {value : V} (h : value ∈ valuesAt items key) : (key, value) ∈ items := by
  obtain ⟨item, hitem, rfl⟩ := List.mem_map.mp h
  obtain ⟨hmem, hkey⟩ := List.mem_filter.mp hitem
  exact of_decide_eq_true hkey ▸ hmem

theorem length_valuesAt (items : List (K × V)) (key : K) : (valuesAt items key).length = items.countP fun item => item.1 = key := by
  rw [valuesAt, List.length_map, List.countP_eq_length_filter]

theorem groupBy_concat (items : List (K × V)) (item : K × V) : groupBy (items ++ [item]) =
    PyDict.setItem (groupBy items) item.1 ((PyDict.get (groupBy items) item.1).getD [] ++ [item.2]) := by
  rw [groupBy, List.foldl_append]
  rfl

theorem nodup_groupBy (items : List (K × V)) : ((groupBy items).map Prod.fst).Nodup := by
  induction items using List.reverseRecOn with
  | nil => exact List.nodup_nil
  | append_singleton items item ih =>
    rw [groupBy_concat]
    exact PyDict.nodup_setItem ih

theorem mem_keys_groupBy : key ∈ (groupBy items).map Prod.fst ↔ key ∈ items.map Prod.fst := by
  induction items using List.reverseRecOn with
  | nil => exact Iff.rfl
  | append_singleton items item ih =>
    rw [groupBy_concat, PyDict.map_fst_setItem, List.map_append, List.mem_append, List.map_singleton, List.mem_singleton]
    by_cases h : item.1 ∈ (groupBy items).map Prod.fst
    · rw [if_pos h, ih]
      exact ⟨Or.inl, fun hor => hor.elim id fun hkey => ih.mp (hkey ▸ h)⟩
    · rw [if_neg h, List.mem_append, List.mem_singleton, ih]

/-- A group has the values of its key, in the order of the items. -/
theorem mem_groupBy {g : K × List V} (h : g ∈ groupBy items) : g.2 = valuesAt items g.1 := by
  induction items using List.reverseRecOn generalizing g with
  | nil => exact absurd h List.not_mem_nil
  | append_singleton items item ih =>
    have hvalues : (PyDict.get (groupBy items) item.1).getD [] = valuesAt items item.1 := by
      cases hget : PyDict.get (groupBy items) item.1 with
      | some values => exact ih ((PyDict.get_eq_some (nodup_groupBy items)).mp hget)
      | none => exact (valuesAt_eq_nil fun hkey => PyDict.get_eq_none.mp hget (mem_keys_groupBy.mpr hkey)).symm
    rw [groupBy_concat, hvalues] at h
    rw [valuesAt_concat]
    by_cases hkey : item.1 = g.1
    · have hnodup : ((PyDict.setItem (groupBy items) item.1 (valuesAt items item.1 ++ [item.2])).map Prod.fst).Nodup :=
        PyDict.nodup_setItem (nodup_groupBy items)
      have hset := (PyDict.get_eq_some hnodup).mpr (PyDict.mem_setItem_self (groupBy items) item.1 _)
      have hget := (PyDict.get_eq_some hnodup).mpr h
      rw [← hkey, hset] at hget
      rw [if_pos hkey, ← hkey, ← Option.some.inj hget]
    · rw [if_neg hkey]
      apply ih
      exact (PyDict.mem_setItem h).resolve_left fun heq => hkey (heq ▸ rfl)

theorem sum_length_groupBy (items : List (K × V)) : ((groupBy items).map (·.2.length)).sum = items.length := by
  have hlength : (groupBy items).map (·.2.length) =
      ((groupBy items).map Prod.fst).map fun key => items.countP fun item => true && item.1 = key := by
    rw [List.map_map]
    refine List.map_congr_left fun g hg => ?_
    rw [mem_groupBy hg, length_valuesAt]
    simp only [Bool.true_and, Function.comp_apply]
  rw [hlength, sum_countP (nodup_groupBy items) (fun _ => true) fun item hitem => mem_keys_groupBy.mpr (List.mem_map_of_mem hitem),
    List.countP_true]

variable {M : Type} {le : K → K → Prop} [DecidableRel le]

/-- The groups, each measured by a function, sorted by their keys. -/
def sortedBy (le : K → K → Prop) [DecidableRel le] (f : List V → M) (items : List (K × V)) : List (K × M) :=
  ((groupBy items).insertionSort fun a b => le a.1 b.1).map fun g => (g.1, f g.2)

theorem mem_sortedBy {f : List V → M} {g : K × M} (h : g ∈ sortedBy le f items) :
    g.1 ∈ items.map Prod.fst ∧ g.2 = f (valuesAt items g.1) := by
  obtain ⟨group, hgroup, rfl⟩ := List.mem_map.mp h
  rw [List.mem_insertionSort] at hgroup
  refine ⟨mem_keys_groupBy.mp (List.mem_map_of_mem hgroup), ?_⟩
  rw [mem_groupBy hgroup]

theorem sortedGroups_of_ok {metrics : List V → Except String M} {f : List V → M}
    (h : ∀ values, values ≠ [] → (∀ value ∈ values, value ∈ items.map Prod.snd) → metrics values = .ok (f values)) :
    sortedGroups le metrics items = .ok (sortedBy le f items) := by
  refine mapM_of_ok fun group hgroup => ?_
  rw [List.mem_insertionSort] at hgroup
  have hkey := mem_keys_groupBy.mp (List.mem_map_of_mem hgroup)
  have hvalues := mem_groupBy hgroup
  rw [h group.2 (hvalues ▸ valuesAt_ne_nil hkey) fun value hvalue => List.mem_map_of_mem (mem_valuesAt (hvalues ▸ hvalue))]
  rfl

end

/-! ## Metrics -/

section
variable {L : Type} [DecidableEq L] {scale : List L} {pairs : List (L × L)} {u v : L}

/-- What `_agreement_metrics` computes of pairs. -/
def measured (scale : List L) (pairs : List (L × L)) : AgreementMetrics :=
  ⟨pairs.length, agreements pairs, pairs.length - agreements pairs, observed pairs, expected scale pairs,
    kappa (observed pairs) (expected scale pairs)⟩

theorem near_self (value : ℚ) : near value value = true := by
  rw [near, sub_self, abs_zero]
  exact decide_eq_true (by norm_num)

theorem between_iff {low value : ℚ} : between low value = true ↔ low ≤ value ∧ value ≤ 1 := by
  rw [between, Bool.and_eq_true, decide_eq_true_eq, decide_eq_true_eq]

theorem checkKappa_self (undefined mismatch : String) (value : Option ℚ) : checkKappa undefined mismatch value value = .ok () := by
  cases value with
  | none => rfl
  | some value => exact check_eq_ok.mpr (near_self value)

theorem all_kappa (h : OnScale scale pairs) (hne : pairs ≠ []) :
    (kappa (observed pairs) (expected scale pairs)).all (between (-1)) = true :=
  (Option.all_eq_true _ _).mpr fun k hk => between_iff.mpr (kappa_bounds h hne k hk)

theorem validate_measured (uncovered : String) (h : OnScale scale pairs) (hne : pairs ≠ []) :
    (measured scale pairs).validate uncovered = .ok () := by
  unfold AgreementMetrics.validate
  simp only [bind_ok, exists_unit, check_eq_ok, decide_eq_true_eq]
  refine ⟨List.length_pos_iff.mpr hne, between_iff.mpr ⟨observed_nonneg pairs, observed_le_one pairs⟩,
    between_iff.mpr ⟨expected_nonneg scale pairs, expected_le_one h⟩, all_kappa h hne, ?_, near_self _, checkKappa_self _ _ _⟩
  exact Nat.add_sub_of_le List.countP_le_length

theorem agreementMetrics_ok (empty uncovered : String) (h : OnScale scale pairs) (hne : pairs ≠ []) :
    agreementMetrics empty uncovered scale pairs = .ok (measured scale pairs) := by
  have hsome : check (!pairs.isEmpty) empty = .ok () := by
    rw [check_eq_ok, Bool.not_eq_true', List.isEmpty_eq_false_iff]
    exact hne
  unfold agreementMetrics
  simp only [bind_ok, exists_unit, Except.ok.injEq]
  exact ⟨hsome, validate_measured uncovered h hne, rfl⟩

theorem measured_swap (scale : List L) (pairs : List (L × L)) : measured scale (pairs.map Prod.swap) = measured scale pairs := by
  unfold measured
  rw [agreements_swap, observed_swap, expected_swap, List.length_map]

theorem agreementMetrics_swap (empty uncovered : String) (scale : List L) (pairs : List (L × L)) :
    agreementMetrics empty uncovered scale (pairs.map Prod.swap) = agreementMetrics empty uncovered scale pairs := by
  have hmeasured := measured_swap scale pairs
  have hempty : (pairs.map Prod.swap).isEmpty = pairs.isEmpty := List.isEmpty_map
  unfold measured at hmeasured
  unfold agreementMetrics
  rw [hmeasured, hempty]

/-- The rates of an agreement lie in their intervals. -/
structure Bounded (observed expected : ℚ) (cohenKappa : Option ℚ) : Prop where
  observed : 0 ≤ observed ∧ observed ≤ 1
  kappa : ∀ k ∈ cohenKappa, -1 ≤ k ∧ k ≤ 1
  undefined : cohenKappa = none ↔ expected = 1

def AgreementMetrics.Bounded (m : AgreementMetrics) : Prop :=
  ExactAgreement.Bounded m.observedAgreement m.expectedAgreement m.cohenKappa

theorem bounded_rates (h : OnScale scale pairs) (hne : pairs ≠ []) :
    Bounded (observed pairs) (expected scale pairs) (kappa (observed pairs) (expected scale pairs)) :=
  ⟨⟨observed_nonneg pairs, observed_le_one pairs⟩, kappa_bounds h hne, kappa_eq_none_iff⟩

/-! ## Matrices -/

theorem lookup_graph {W : Type} (f : L → W) (scale : List L) (u : L) :
    (scale.map fun v => (v, f v)).lookup u = if u ∈ scale then some (f u) else none := by
  induction scale with
  | nil => rfl
  | cons v scale ih =>
    rw [List.map_cons, List.lookup_cons, ih]
    by_cases huv : u = v
    · subst huv
      simp
    · have hbeq : (u == v) = false := beq_eq_false_iff_ne.mpr huv
      simp [hbeq, huv]

theorem confusionCell_confusion (scale : List L) (pairs : List (L × L)) (u v : L) :
    confusionCell (agreementConfusion scale pairs) u v = if u ∈ scale ∧ v ∈ scale then cell pairs u v else 0 := by
  unfold confusionCell agreementConfusion
  rw [lookup_graph]
  by_cases hu : u ∈ scale
  · rw [if_pos hu, Option.bind_some, lookup_graph]
    by_cases hv : v ∈ scale
    · rw [if_pos hv, if_pos ⟨hu, hv⟩]
      rfl
    · rw [if_neg hv, if_neg fun h => hv h.2]
      rfl
  · rw [if_neg hu, if_neg fun h => hu h.1]
    rfl

theorem confusionCell_of_mem (pairs : List (L × L)) (hu : u ∈ scale) (hv : v ∈ scale) :
    confusionCell (agreementConfusion scale pairs) u v = cell pairs u v := by
  rw [confusionCell_confusion, if_pos ⟨hu, hv⟩]

/-- The matrix with its rows and columns exchanged. -/
def transpose (scale : List L) (matrix : List (L × List (L × ℕ))) : List (L × List (L × ℕ)) :=
  scale.map fun first => (first, scale.map fun second => (second, confusionCell matrix second first))

theorem agreementConfusion_swap (scale : List L) (pairs : List (L × L)) :
    agreementConfusion scale (pairs.map Prod.swap) = transpose scale (agreementConfusion scale pairs) := by
  refine List.map_congr_left fun u hu => congrArg (Prod.mk u) (List.map_congr_left fun v hv => congrArg (Prod.mk v) ?_)
  rw [confusionCell_of_mem pairs hv hu]
  exact cell_swap

theorem isComplete_confusion (scale : List L) (pairs : List (L × L)) : isComplete scale (agreementConfusion scale pairs) = true := by
  unfold isComplete agreementConfusion
  rw [Bool.and_eq_true, List.map_map, List.all_eq_true]
  refine ⟨sameSet_iff.mpr fun label => ?_, fun row hrow => ?_⟩
  · simp
  · obtain ⟨first, -, rfl⟩ := List.mem_map.mp hrow
    exact sameSet_iff.mpr fun label => by simp

theorem rowSum_confusion (h : OnScale scale pairs) (hu : u ∈ scale) : rowSum scale (agreementConfusion scale pairs) u = firsts pairs u := by
  rw [← sum_cell_row h u]
  exact congrArg List.sum (List.map_congr_left fun v hv => confusionCell_of_mem pairs hu hv)

theorem columnSum_confusion (h : OnScale scale pairs) (hv : v ∈ scale) :
    columnSum scale (agreementConfusion scale pairs) v = seconds pairs v := by
  rw [← sum_cell_column h v]
  exact congrArg List.sum (List.map_congr_left fun u hu => confusionCell_of_mem pairs hu hv)

theorem matrixCount_confusion (h : OnScale scale pairs) : matrixCount scale (agreementConfusion scale pairs) = pairs.length := by
  rw [← sum_firsts h]
  exact congrArg List.sum (List.map_congr_left fun u hu => rowSum_confusion h hu)

theorem diagonalSum_confusion (h : OnScale scale pairs) : diagonalSum scale (agreementConfusion scale pairs) = agreements pairs := by
  rw [← sum_diagonal h]
  exact congrArg List.sum (List.map_congr_left fun u hu => confusionCell_of_mem pairs hu hu)

theorem marginalAgreement_confusion (h : OnScale scale pairs) :
    marginalAgreement scale (agreementConfusion scale pairs) = expected scale pairs := by
  unfold marginalAgreement expected
  rw [matrixCount_confusion h]
  refine congrArg List.sum (List.map_congr_left fun u hu => ?_)
  rw [rowSum_confusion h hu, columnSum_confusion h hu]

theorem checkMatrix_ok (incomplete uncovered diagonal : String) (h : OnScale scale pairs) :
    checkMatrix incomplete uncovered diagonal scale (agreementConfusion scale pairs) (measured scale pairs) = .ok () := by
  unfold checkMatrix
  simp only [bind_ok, exists_unit, check_eq_ok, decide_eq_true_eq]
  refine ⟨isComplete_confusion scale pairs, matrixCount_confusion h, diagonalSum_confusion h, ?_⟩
  rw [marginalAgreement_confusion h]
  exact near_self _

theorem checkOffDiagonal_ok {disagreements : List (L × L)} (hd : disagreements.Perm (pairs.filter fun pair => pair.1 ≠ pair.2)) :
    checkOffDiagonal scale (agreementConfusion scale pairs) disagreements = .ok () := by
  unfold checkOffDiagonal
  rw [check_eq_ok, List.all_eq_true]
  refine fun u hu => List.all_eq_true.mpr fun v hv => ?_
  rw [Bool.or_eq_true, decide_eq_true_eq, decide_eq_true_eq]
  by_cases huv : u = v
  · exact .inl huv
  · right
    rw [confusionCell_of_mem pairs hu hv, hd.countP_eq, List.countP_filter]
    refine List.countP_congr fun pair _ => ?_
    simp only [Bool.and_eq_true, decide_eq_true_eq]
    exact ⟨fun h => ⟨h, fun heq => huv (h.1.symm.trans (heq.trans h.2))⟩, fun h => h.1⟩

theorem length_filter_ne (pairs : List (L × L)) : (pairs.filter fun pair => pair.1 ≠ pair.2).length = pairs.length - agreements pairs := by
  have hsplit := List.length_eq_countP_add_countP (fun pair : L × L => decide (pair.1 = pair.2)) (l := pairs)
  rw [← List.countP_eq_length_filter]
  unfold agreements
  simp only [decide_eq_true_eq, ← ne_eq, decide_not] at hsplit ⊢
  omega

/-- The margins of a matrix are the counts of two reviewers. -/
def Marginals (scale : List L) (matrix : List (L × List (L × ℕ))) (first second : L → ℕ) : Prop :=
  ∀ label ∈ scale, rowSum scale matrix label = first label ∧ columnSum scale matrix label = second label

theorem marginals_confusion (h : OnScale scale pairs) :
    Marginals scale (agreementConfusion scale pairs) (firsts pairs) (seconds pairs) := fun _ hlabel =>
  ⟨rowSum_confusion h hlabel, columnSum_confusion h hlabel⟩

end

/-! ## Groups of pairs -/

section
variable {K L : Type} [DecidableEq K] [DecidableEq L] {scale : List L} {items : List (K × (L × L))} {le : K → K → Prop}
  [DecidableRel le]

omit [DecidableEq L] in
theorem OnScale.of_mem {pairs values : List (L × L)} (h : OnScale scale pairs) (hvalues : ∀ value ∈ values, value ∈ pairs) :
    OnScale scale values := ⟨h.1, fun value hvalue => h.2 value (hvalues value hvalue)⟩

theorem sortedGroups_measured {metrics : List (L × L) → Except String AgreementMetrics} (h : OnScale scale (items.map Prod.snd))
    (hmetrics : ∀ {values}, OnScale scale values → values ≠ [] → metrics values = .ok (measured scale values)) :
    sortedGroups le metrics items = .ok (sortedBy le (measured scale) items) :=
  sortedGroups_of_ok fun _ hne hvalues => hmetrics (OnScale.of_mem h hvalues) hne

theorem groupCount_measured (le : K → K → Prop) [DecidableRel le] (scale : List L) (items : List (K × (L × L))) :
    groupCount (sortedBy le (measured scale) items) = items.length := by
  rw [← sum_length_groupBy items, groupCount, sortedBy, List.map_map]
  exact ((List.perm_insertionSort _ _).map fun g : K × List (L × L) => g.2.length).sum_eq

theorem bounded_sortedBy (le : K → K → Prop) [DecidableRel le] (h : OnScale scale (items.map Prod.snd)) {g : K × AgreementMetrics}
    (hg : g ∈ sortedBy le (measured scale) items) : g.2.Bounded := by
  obtain ⟨hkey, hmeasured⟩ := mem_sortedBy hg
  rw [hmeasured]
  exact bounded_rates (OnScale.of_mem h fun value hvalue => List.mem_map_of_mem (mem_valuesAt hvalue)) (valuesAt_ne_nil hkey)

end

/-! ## Keys -/

open RetrievalAdjudication in
theorem keyLe_iff {a b : JudgmentKey} : keyLe a b = true ↔ a.1 < b.1 ∨ a.1 = b.1 ∧ a.2 ≤ b.2 := by
  rw [keyLe, Bool.or_eq_true, Bool.and_eq_true, decide_eq_true_eq, decide_eq_true_eq, decide_eq_true_eq]

open RetrievalAdjudication in
/-- Rows that are sorted by their keys have sorted keys. -/
theorem sorted_keys {α : Type} (key : α → JudgmentKey) (rows : List α) :
    (rows.insertionSort fun a b => keyLe (key a) (key b)).map key =
      ((rows.insertionSort fun a b => keyLe (key a) (key b)).map key).insertionSort fun a b => keyLe a b := by
  have htotal : Std.Total fun a b : JudgmentKey => keyLe a b = true := by
    refine ⟨fun a b => ?_⟩
    rw [keyLe_iff, keyLe_iff]
    rcases lt_trichotomy a.1 b.1 with hlt | heq | hlt
    · exact .inl (.inl hlt)
    · rcases le_total a.2 b.2 with hle | hle
      · exact .inl (.inr ⟨heq, hle⟩)
      · exact .inr (.inr ⟨heq.symm, hle⟩)
    · exact .inr (.inl hlt)
  have htrans : IsTrans JudgmentKey fun a b => keyLe a b = true := by
    refine ⟨fun a b c hab hbc => ?_⟩
    rw [keyLe_iff] at hab hbc ⊢
    rcases hab with hab | ⟨hab, hab'⟩
    · rcases hbc with hbc | ⟨hbc, -⟩
      · exact .inl (hab.trans hbc)
      · exact .inl (hbc ▸ hab)
    · rcases hbc with hbc | ⟨hbc, hbc'⟩
      · exact .inl (hab ▸ hbc)
      · exact .inr ⟨hab.trans hbc, hab'.trans hbc'⟩
  rw [List.map_insertionSort _ (fun a b => keyLe a b = true) _ _ fun _ _ _ _ => Iff.rfl]
  exact (List.Pairwise.insertionSort_eq (List.pairwise_insertionSort _ _)).symm

theorem checkReviewers_ok {casefold : String → String} {first second : String} (hne : casefold first ≠ casefold second)
    (hordered : namedBefore casefold second first = false) : checkReviewers casefold (first, second) = .ok () := by
  unfold checkReviewers
  simp only [bind_ok, exists_unit, check_eq_ok, decide_eq_true_eq, Bool.not_eq_true']
  exact ⟨hne, hordered⟩

end AtlasPulse.ExactAgreement
