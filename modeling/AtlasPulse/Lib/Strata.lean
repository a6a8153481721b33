import Mathlib

/-!
# Stratified samples

A list falls into strata by a key; each stratum is ranked, and the sample takes
the first elements of each. The sample is fair by stratum, it grows with the
cap, and it does not depend on the order of the list when no two elements of a
stratum have one rank.
-/

namespace Strata

variable {α S K : Type} [LinearOrder S] [LinearOrder K] (stratum : α → S) (rank : S → α → K)

def strata (l : List α) : List S := (l.map stratum).dedup.insertionSort (· ≤ ·)

def ranked (l : List α) (s : S) : List α :=
  (l.filter fun a => stratum a = s).insertionSort fun a b => rank s a ≤ rank s b

def sample (cap : Nat) (l : List α) : List α := (strata stratum l).flatMap fun s => (ranked stratum rank l s).take cap

/-- No two elements of a stratum have one rank. -/
def Ranked (l : List α) : Prop := ∀ a ∈ l, ∀ b ∈ l, stratum a = stratum b → rank (stratum a) a = rank (stratum a) b → a = b

section
variable {stratum rank} {l l' : List α} {s : S} {cap cap' : Nat} {a : α}

/-! ## Sorting -/

/-- Lists that hold the same, sorted by a key that tells their elements apart. -/
theorem insertionSort_eq_of_perm {κ : Type} [LinearOrder κ] (key : α → κ) (hperm : l.Perm l')
    (hkey : ∀ a ∈ l, ∀ b ∈ l, key a = key b → a = b) :
    (l.insertionSort fun a b => key a ≤ key b) = l'.insertionSort fun a b => key a ≤ key b := by
  have htotal : Std.Total fun a b => key a ≤ key b := ⟨fun a b => le_total (key a) (key b)⟩
  have htrans : IsTrans α fun a b => key a ≤ key b := ⟨fun _ _ _ => le_trans⟩
  have hsorted : ∀ l : List α, (l.insertionSort fun a b => key a ≤ key b).Pairwise fun a b => key a ≤ key b :=
    List.pairwise_insertionSort _
  have hsame : (l.insertionSort fun a b => key a ≤ key b).Perm (l'.insertionSort fun a b => key a ≤ key b) :=
    ((List.perm_insertionSort _ l).trans hperm).trans (List.perm_insertionSort _ l').symm
  refine hsame.eq_of_pairwise ?_ (hsorted l) (hsorted l')
  intro a b ha hb hab hba
  rw [List.mem_insertionSort] at ha hb
  exact hkey a ha b (hperm.mem_iff.mpr hb) (le_antisymm hab hba)

theorem sortedSet_congr {κ : Type} [LinearOrder κ] {k k' : List κ} (h : ∀ x, x ∈ k ↔ x ∈ k') :
    k.dedup.insertionSort (· ≤ ·) = k'.dedup.insertionSort (· ≤ ·) :=
  insertionSort_eq_of_perm id
    ((List.perm_ext_iff_of_nodup (List.nodup_dedup _) (List.nodup_dedup _)).mpr fun x => by simp only [List.mem_dedup, h])
    fun _ _ _ _ hab => hab

/-! ## Strata -/

theorem mem_strata : s ∈ strata stratum l ↔ ∃ a ∈ l, stratum a = s := by
  rw [strata, List.mem_insertionSort, List.mem_dedup, List.mem_map]

theorem nodup_strata : (strata stratum l).Nodup := (List.perm_insertionSort _ _).nodup_iff.mpr (List.nodup_dedup _)

theorem mem_ranked : a ∈ ranked stratum rank l s ↔ a ∈ l ∧ stratum a = s := by
  rw [ranked, List.mem_insertionSort, List.mem_filter, decide_eq_true_eq]

theorem length_ranked : (ranked stratum rank l s).length = (l.filter fun a => stratum a = s).length :=
  List.length_insertionSort _ _

theorem ranked_eq_nil (h : s ∉ strata stratum l) : ranked stratum rank l s = [] :=
  List.eq_nil_iff_forall_not_mem.mpr fun a ha => h (mem_strata.mpr ⟨a, mem_ranked.mp ha⟩)

/-! ## Samples -/

theorem mem_of_mem_sample (h : a ∈ sample stratum rank cap l) : a ∈ l := by
  obtain ⟨s, -, ha⟩ := List.mem_flatMap.mp h
  exact (mem_ranked.mp (List.mem_of_mem_take ha)).1

/-- The part of one stratum is the top of its ranking. -/
theorem filter_sample (cap : Nat) (l : List α) (s : S) :
    (sample stratum rank cap l).filter (fun a => stratum a = s) = (ranked stratum rank l s).take cap := by
  have hpart : ∀ x, ∀ a ∈ (ranked stratum rank l x).take cap, stratum a = x := fun x a ha =>
    (mem_ranked.mp (List.mem_of_mem_take ha)).2
  have hself : ((ranked stratum rank l s).take cap).filter (fun a => stratum a = s) = (ranked stratum rank l s).take cap :=
    List.filter_eq_self.mpr fun a ha => decide_eq_true (hpart s a ha)
  have hother : ∀ x, x ≠ s → ((ranked stratum rank l x).take cap).filter (fun a => stratum a = s) = [] := fun x hx =>
    List.filter_eq_nil_iff.mpr fun a ha h => hx ((hpart x a ha).symm.trans (of_decide_eq_true h))
  have hparts : ∀ ss : List S, ss.Nodup →
      (ss.flatMap fun x => (ranked stratum rank l x).take cap).filter (fun a => stratum a = s) =
        if s ∈ ss then (ranked stratum rank l s).take cap else [] := by
    intro ss hss
    induction ss with
    | nil => rfl
    | cons x ss ih =>
      obtain ⟨hx, hss⟩ := List.nodup_cons.mp hss
      rw [List.flatMap_cons, List.filter_append, ih hss]
      by_cases heq : x = s
      · subst heq
        rw [hself, if_neg hx, if_pos List.mem_cons_self, List.append_nil]
      · rw [hother x heq, List.nil_append]
        by_cases hmem : s ∈ ss
        · rw [if_pos hmem, if_pos (List.mem_cons_of_mem _ hmem)]
        · rw [if_neg hmem, if_neg fun h => (List.mem_cons.mp h).elim (fun h => heq h.symm) hmem]
  rw [sample, hparts _ nodup_strata]
  by_cases h : s ∈ strata stratum l
  · rw [if_pos h]
  · rw [if_neg h, ranked_eq_nil h, List.take_nil]

/-- **Fairness.** Each stratum gives as many elements as it has, up to the cap. -/
theorem length_filter_sample (cap : Nat) (l : List α) (s : S) :
    ((sample stratum rank cap l).filter fun a => stratum a = s).length = min cap (l.filter fun a => stratum a = s).length := by
  rw [filter_sample, List.length_take, length_ranked]

theorem sample_mono (h : cap ≤ cap') : (sample stratum rank cap l).Sublist (sample stratum rank cap' l) := by
  unfold sample
  induction strata stratum l with
  | nil => exact List.Sublist.refl _
  | cons s ss ih =>
    rw [List.flatMap_cons, List.flatMap_cons]
    exact (List.take_sublist_take_left h).append ih

theorem nodup_sample (h : l.Nodup) : (sample stratum rank cap l).Nodup := by
  rw [sample, List.nodup_flatMap]
  refine ⟨fun s _ => ?_, nodup_strata.imp fun {s s'} hne a ha ha' => ?_⟩
  · exact (((List.perm_insertionSort _ _).nodup_iff.mpr (h.filter _)).sublist (List.take_sublist _ _))
  · exact hne ((mem_ranked.mp (List.mem_of_mem_take ha)).2.symm.trans (mem_ranked.mp (List.mem_of_mem_take ha')).2)

/-- **Order.** The sample is that of any list with the same elements. -/
theorem sample_perm (hperm : l.Perm l') (h : Ranked stratum rank l) :
    sample stratum rank cap l = sample stratum rank cap l' := by
  have hstrata : strata stratum l = strata stratum l' :=
    sortedSet_congr fun x => (hperm.map stratum).mem_iff
  have hranked : ∀ s, ranked stratum rank l s = ranked stratum rank l' s := by
    intro s
    refine insertionSort_eq_of_perm (rank s) (hperm.filter _) fun a ha b hb heq => ?_
    obtain ⟨hal, hsa⟩ := List.mem_filter.mp ha
    obtain ⟨hbl, hsb⟩ := List.mem_filter.mp hb
    rw [decide_eq_true_eq] at hsa hsb
    exact h a hal b hbl (hsa.trans hsb.symm) (hsa.symm ▸ heq)
  unfold sample
  rw [hstrata]
  simp only [hranked]

/-- A sample that takes something has every stratum of the list. -/
theorem strata_sample (hcap : 0 < cap) : strata stratum (sample stratum rank cap l) = strata stratum l := by
  refine sortedSet_congr fun s => ?_
  rw [List.mem_map, List.mem_map]
  constructor
  · rintro ⟨a, ha, rfl⟩
    exact ⟨a, mem_of_mem_sample ha, rfl⟩
  · rintro ⟨a, ha, rfl⟩
    have hlen : ((sample stratum rank cap l).filter fun b => stratum b = stratum a).length =
        min cap (l.filter fun b => stratum b = stratum a).length := length_filter_sample cap l (stratum a)
    have hpos : 0 < (l.filter fun b => stratum b = stratum a).length :=
      List.length_pos_of_mem (List.mem_filter.mpr ⟨ha, decide_eq_true rfl⟩)
    obtain ⟨b, hb⟩ := List.exists_mem_of_length_pos (l := (sample stratum rank cap l).filter fun b => stratum b = stratum a)
      (by rw [hlen]; exact lt_min hcap hpos)
    obtain ⟨hb, hs⟩ := List.mem_filter.mp hb
    exact ⟨b, hb, of_decide_eq_true hs⟩

end

end Strata
