import Mathlib

/-!
# Majorization

A list weighted along its places, with falling weights. Values that are drawn
from a list weigh at most what the list does in falling order, and they weigh
as much only when they stand in that order.
-/

namespace Majorization

open Finset

section
variable {K : Type*} [Field K] [LinearOrder K] [IsStrictOrderedRing K]

/-! ## Padded lists -/

/-- The values of a list, which goes on with zeros. -/
def pad (l : List K) (i : ℕ) : K := l.getD i 0

omit [LinearOrder K] [IsStrictOrderedRing K] in
theorem pad_of_le {l : List K} {i : ℕ} (h : l.length ≤ i) : pad l i = 0 := List.getD_eq_default _ _ h

omit [LinearOrder K] [IsStrictOrderedRing K] in
theorem pad_take {l : List K} {i k : ℕ} (h : i < k) : pad (l.take k) i = pad l i := by
  unfold pad
  simp only [List.getD_eq_getElem?_getD, List.getElem?_take, if_pos h]

omit [LinearOrder K] [IsStrictOrderedRing K] in
theorem sum_take (l : List K) (k : ℕ) : (l.take k).sum = ∑ i ∈ range k, pad l i := by
  induction l generalizing k with
  | nil => simp [pad]
  | cons x l ih =>
    cases k with
    | zero => rfl
    | succ k =>
      rw [List.take_succ_cons, List.sum_cons, sum_range_succ', ih, add_comm]
      rfl

omit [IsStrictOrderedRing K] in
theorem pad_nonneg {l : List K} (hpos : ∀ x ∈ l, 0 ≤ x) (i : ℕ) : 0 ≤ pad l i := by
  by_cases hi : i < l.length
  · rw [pad, List.getD_eq_getElem _ _ hi]
    exact hpos _ (List.getElem_mem hi)
  · rw [pad_of_le (Nat.le_of_not_lt hi)]

theorem sum_take_mono {l : List K} (hpos : ∀ x ∈ l, 0 ≤ x) {j k : ℕ} (h : j ≤ k) : (l.take j).sum ≤ (l.take k).sum := by
  rw [sum_take, sum_take]
  exact sum_le_sum_of_subset_of_nonneg (range_mono h) fun i _ _ => pad_nonneg hpos i

omit [LinearOrder K] [IsStrictOrderedRing K] in
theorem pad_append_zeros (l : List K) (n i : ℕ) : pad (l ++ List.replicate n 0) i = pad l i := by
  by_cases hi : i < l.length
  · exact List.getD_append _ _ _ _ hi
  · rw [pad_of_le (Nat.le_of_not_lt hi), pad, List.getD_append_right _ _ _ _ (Nat.le_of_not_lt hi)]
    by_cases hn : i - l.length < n
    · exact List.getD_replicate _ hn
    · exact List.getD_eq_default _ _ (by rw [List.length_replicate]; omega)

/-! ## Values drawn from a list -/

/-- The first values of a falling list have the largest sum. -/
theorem sum_le_sum_take {b l : List K} (hb : b.Pairwise (· ≥ ·)) (hpos : ∀ x ∈ b, 0 ≤ x) (h : l.Subperm b) :
    l.sum ≤ (b.take l.length).sum := by
  induction b generalizing l with
  | nil =>
    obtain rfl := List.subperm_nil.mp h
    exact le_refl _
  | cons x b ih =>
    obtain ⟨hx, hb⟩ := List.pairwise_cons.mp hb
    obtain ⟨hx0, hpos⟩ := List.forall_mem_cons.mp hpos
    by_cases hmem : x ∈ l
    · obtain ⟨front, back, rfl⟩ := List.append_of_mem hmem
      have hperm : (front ++ x :: back).Perm (x :: (front ++ back)) := List.perm_middle
      have hrest : (front ++ back).Subperm b := (List.subperm_cons x).mp (hperm.symm.subperm.trans h)
      rw [hperm.sum_eq, hperm.length_eq, List.length_cons, List.take_succ_cons, List.sum_cons, List.sum_cons]
      exact add_le_add (le_refl x) (ih hb hpos hrest)
    · -- the list is drawn from the rest, whose next value is at most the first
      have hl : l.Subperm b := by
        obtain ⟨l', hperm, hsub⟩ := h
        cases hsub with
        | cons _ hsub => exact ⟨l', hperm, hsub⟩
        | cons_cons _ hsub => exact absurd (hperm.subset List.mem_cons_self) hmem
      refine (ih hb hpos hl).trans ?_
      cases l with
      | nil => exact le_refl _
      | cons y l =>
        have hnext : pad b l.length ≤ x := by
          by_cases hlen : l.length < b.length
          · rw [pad, List.getD_eq_getElem _ _ hlen]
            exact hx _ (List.getElem_mem hlen)
          · rw [pad_of_le (Nat.le_of_not_lt hlen)]
            exact hx0
        rw [List.length_cons, List.take_succ_cons, List.sum_cons, sum_take, sum_range_succ, ← sum_take, add_comm]
        exact add_le_add hnext (le_refl _)

/-- One list majorizes another when its first values have the larger sums. -/
def Majorizes (b a : List K) (k : ℕ) : Prop := ∀ j ≤ k, (a.take j).sum ≤ (b.take j).sum

theorem majorizes_of_subperm {a b : List K} {n : ℕ} (hb : b.Pairwise (· ≥ ·)) (hpos : ∀ x ∈ b, 0 ≤ x)
    (h : a.Subperm (b ++ List.replicate n 0)) (k : ℕ) : Majorizes (b.take k) a k := by
  intro j hj
  have hzeros : (b ++ List.replicate n 0).Pairwise (· ≥ ·) := by
    refine List.pairwise_append.mpr ⟨hb, List.pairwise_replicate.mpr (Or.inr (le_refl _)), ?_⟩
    intro x hx z hz
    rw [List.eq_of_mem_replicate hz]
    exact hpos x hx
  have hpos' : ∀ x ∈ b ++ List.replicate n 0, 0 ≤ x := by
    intro x hx
    rcases List.mem_append.mp hx with hx | hx
    · exact hpos x hx
    · rw [List.eq_of_mem_replicate hx]
  have hdrawn : (a.take j).Subperm (b ++ List.replicate n 0) := (List.take_sublist j a).subperm.trans h
  calc (a.take j).sum ≤ ((b ++ List.replicate n 0).take (a.take j).length).sum := sum_le_sum_take hzeros hpos' hdrawn
    _ ≤ ((b ++ List.replicate n 0).take j).sum := sum_take_mono hpos' (List.length_take_le _ _)
    _ = (b.take j).sum := by
      rw [sum_take, sum_take]
      exact sum_congr rfl fun i _ => pad_append_zeros b n i
    _ = ((b.take k).take j).sum := by rw [List.take_take, min_eq_left hj]

/-! ## Weights -/

variable {w : ℕ → K} {a b : List K} {k : ℕ}

omit [LinearOrder K] [IsStrictOrderedRing K] in
/-- The sums of what one list has over the other, weighted by the falls of the weights. -/
theorem weighted_sub (w : ℕ → K) (a b : List K) (k : ℕ) :
    ∑ i ∈ range k, w i * pad b i - ∑ i ∈ range k, w i * pad a i =
      w (k - 1) * ((b.take k).sum - (a.take k).sum) +
        ∑ i ∈ range (k - 1), (w i - w (i + 1)) * ((b.take (i + 1)).sum - (a.take (i + 1)).sum) := by
  have hparts := sum_range_by_parts w (fun i => pad b i - pad a i) k
  simp only [smul_eq_mul, sum_sub_distrib, ← sum_take] at hparts
  rw [← sum_sub_distrib]
  simp only [← mul_sub]
  rw [hparts, sub_eq_add_neg, ← sum_neg_distrib]
  refine congrArg _ (sum_congr rfl fun i _ => ?_)
  rw [← neg_mul, neg_sub]

theorem gap_nonneg (hw : StrictAnti w) (h : Majorizes b a k) {i : ℕ} (hi : i ∈ range (k - 1)) :
    0 ≤ (w i - w (i + 1)) * ((b.take (i + 1)).sum - (a.take (i + 1)).sum) := by
  have hi' := mem_range.mp hi
  exact mul_nonneg (sub_nonneg.mpr (hw.antitone (Nat.le_succ i))) (sub_nonneg.mpr (h (i + 1) (by omega)))

/-- **Weights of a majorized list.** -/
theorem weighted_le (hpos : ∀ i, 0 < w i) (hw : StrictAnti w) (h : Majorizes b a k) :
    ∑ i ∈ range k, w i * pad a i ≤ ∑ i ∈ range k, w i * pad b i := by
  rw [← sub_nonneg, weighted_sub]
  exact add_nonneg (mul_nonneg (hpos _).le (sub_nonneg.mpr (h k (le_refl k)))) (sum_nonneg fun i hi => gap_nonneg hw h hi)

/-- Equal weights leave no sum of first values apart, and so no value. -/
theorem weighted_eq_iff (hpos : ∀ i, 0 < w i) (hw : StrictAnti w) (h : Majorizes b a k) :
    ∑ i ∈ range k, w i * pad a i = ∑ i ∈ range k, w i * pad b i ↔ ∀ i < k, pad a i = pad b i := by
  constructor
  · intro heq
    have hzero := weighted_sub w a b k
    rw [heq, sub_self, eq_comm] at hzero
    have hlast : 0 ≤ w (k - 1) * ((b.take k).sum - (a.take k).sum) := mul_nonneg (hpos _).le (sub_nonneg.mpr (h k (le_refl k)))
    have hgaps : ∀ i ∈ range (k - 1), 0 ≤ (w i - w (i + 1)) * ((b.take (i + 1)).sum - (a.take (i + 1)).sum) :=
      fun i hi => gap_nonneg hw h hi
    obtain ⟨hlast0, hgaps0⟩ := (add_eq_zero_iff_of_nonneg hlast (sum_nonneg hgaps)).mp hzero
    have hsums : ∀ j ≤ k, (a.take j).sum = (b.take j).sum := by
      intro j hj
      rcases Nat.eq_zero_or_pos j with rfl | hj0
      · rfl
      rcases Nat.lt_or_eq_of_le hj with hlt | rfl
      · obtain ⟨i, rfl⟩ : ∃ i, j = i + 1 := ⟨j - 1, by omega⟩
        have hi := (sum_eq_zero_iff_of_nonneg hgaps).mp hgaps0 i (mem_range.mpr (by omega))
        have hfall : w i - w (i + 1) ≠ 0 := (sub_pos.mpr (hw (Nat.lt_succ_self i))).ne'
        exact (sub_eq_zero.mp ((mul_eq_zero.mp hi).resolve_left hfall)).symm
      · exact (sub_eq_zero.mp ((mul_eq_zero.mp hlast0).resolve_left (hpos _).ne')).symm
    intro i hi
    have hthis := hsums i hi.le
    have hnext := hsums (i + 1) hi
    simp only [sum_take, sum_range_succ] at hthis hnext
    linarith
  · intro heq
    exact sum_congr rfl fun i hi => by rw [heq i (mem_range.mp hi)]

end

end Majorization
