import Mathlib

/-!
# First-write-wins logs

A log that takes a value only when no value of the same key stands in it yet.
`find` is the position under which a key was first written; a key keeps it for
good. Of the values that were offered, the log ends with the last one unless
they return to an earlier one after something new (`Returns`).
-/

namespace Once

section log

variable {ι κ α : Type*} [DecidableEq κ] (key : α → κ)

/-- The position of a key. -/
def find (l : List (ι × α)) (k : κ) : Option ι := (l.find? fun x => key x.2 = k).map Prod.fst

def keys (l : List (ι × α)) : List κ := l.map fun x => key x.2

/-- Write a value under a position, unless its key is there. -/
def record (l : List (ι × α)) (i : ι) (a : α) : List (ι × α) :=
  if (find key l (key a)).isSome then l else l ++ [(i, a)]

section rules
variable {key} {l : List (ι × α)} {k : κ} {i j : ι} {a : α}

theorem find_eq_none : find key l k = none ↔ k ∉ keys key l := by
  simp only [find, Option.map_eq_none_iff, List.find?_eq_none, keys, List.mem_map, not_exists, not_and]
  simp

theorem mem_of_find (h : find key l k = some i) : ∃ a, (i, a) ∈ l ∧ key a = k := by
  obtain ⟨⟨j, a⟩, hx, rfl⟩ := Option.map_eq_some_iff.mp h
  exact ⟨a, List.mem_of_find?_eq_some hx, by simpa using List.find?_some hx⟩

theorem find_isSome : (find key l k).isSome ↔ k ∈ keys key l := by
  rw [← Option.ne_none_iff_isSome, ne_eq, find_eq_none, not_not]

theorem find_snoc (l : List (ι × α)) (i : ι) (a : α) (k : κ) :
    find key (l ++ [(i, a)]) k = (find key l k).or (if key a = k then some i else none) := by
  unfold find
  rw [List.find?_append]
  cases h : l.find? (fun x => key x.2 = k) with
  | some x => rfl
  | none => by_cases hk : key a = k <;> simp [hk]

theorem record_of_find (h : find key l (key a) = some j) (i : ι) : record key l i a = l := by simp [record, h]

theorem record_of_none (h : find key l (key a) = none) (i : ι) : record key l i a = l ++ [(i, a)] := by
  simp [record, h]

/-- Positions are kept. -/
theorem find_record (h : find key l k = some j) (i : ι) (a : α) : find key (record key l i a) k = some j := by
  unfold record
  split
  · exact h
  · rw [find_snoc, h]
    rfl

theorem find_record_self (l : List (ι × α)) (i : ι) (a : α) :
    find key (record key l i a) (key a) = some ((find key l (key a)).getD i) := by
  cases h : find key l (key a) with
  | some j => rw [record_of_find h, h]; rfl
  | none => rw [record_of_none h, find_snoc, h]; simp

theorem nodup_record (h : (keys key l).Nodup) (i : ι) (a : α) : (keys key (record key l i a)).Nodup := by
  unfold record
  split
  · exact h
  · rename_i hn
    rw [find_isSome] at hn
    simp only [keys, List.map_append, List.map_cons, List.map_nil]
    exact List.nodup_append.mpr ⟨h, List.nodup_singleton _, by
      rintro x hx y hy rfl
      rw [List.mem_singleton] at hy
      exact hn (hy ▸ hx)⟩

theorem mem_keys_record (l : List (ι × α)) (i : ι) (a : α) :
    k ∈ keys key (record key l i a) ↔ k ∈ keys key l ∨ k = key a := by
  unfold record
  split
  · rename_i h
    rw [find_isSome] at h
    constructor
    · exact Or.inl
    · rintro (h' | rfl)
      · exact h'
      · exact h
  · simp [keys]

theorem mem_record {x : ι × α} (h : x ∈ record key l i a) : x ∈ l ∨ x = (i, a) := by
  unfold record at h
  split at h
  · exact Or.inl h
  · simpa using h

/-- Renaming positions commutes with the log. -/
theorem find_map {ι' : Type*} (f : ι → ι') (l : List (ι × α)) (k : κ) :
    find key (l.map fun x => (f x.1, x.2)) k = (find key l k).map f := by
  simp only [find, List.find?_map, Option.map_map, Function.comp_def]

theorem record_map {ι' : Type*} (key : α → κ) (f : ι → ι') (l : List (ι × α)) (i : ι) (a : α) :
    (record key l i a).map (fun x => (f x.1, x.2)) = record key (l.map fun x => (f x.1, x.2)) (f i) a := by
  unfold record
  rw [find_map, Option.isSome_map]
  split <;> simp

end rules

end log

/-! ## What is written last -/

variable {κ : Type*}

/-- The last value of the list came before, and a new value in between. -/
def Returns (l : List κ) : Prop := ∃ pre k mid, l = pre ++ k :: (mid ++ [k]) ∧ ∃ k' ∈ mid, k' ∉ k :: pre

/-- The first occurrence decides. -/
theorem returns_iff {pre mid : List κ} {k : κ} (hk : k ∉ pre) :
    Returns (pre ++ k :: (mid ++ [k])) ↔ ∃ k' ∈ mid, k' ∉ k :: pre := by
  constructor
  · rintro ⟨pre', k₁, mid', heq, k', hk', hnew⟩
    rw [← List.cons_append, ← List.append_assoc, ← List.cons_append, ← List.append_assoc] at heq
    obtain ⟨heq, hkk⟩ := List.append_inj' heq rfl
    obtain rfl := List.singleton_inj.mp hkk
    rw [List.mem_cons, not_or] at hnew
    rcases List.append_eq_append_iff.mp heq with ⟨front, rfl, hmid⟩ | ⟨front, rfl, hmid⟩
    · cases front with
      | nil =>
        obtain rfl := (List.cons.inj hmid).2
        exact ⟨k', hk', by simpa using hnew⟩
      | cons a front =>
        obtain ⟨rfl, rfl⟩ := List.cons.inj hmid
        refine ⟨k', by simp [hk'], ?_⟩
        rw [List.mem_cons, not_or]
        exact ⟨hnew.1, fun h => hnew.2 (List.mem_append_left _ h)⟩
    · cases front with
      | nil =>
        obtain rfl := (List.cons.inj hmid).2
        exact ⟨k', hk', by simpa using hnew⟩
      | cons a front =>
        obtain ⟨rfl, -⟩ := List.cons.inj hmid
        exact absurd (List.mem_append_right _ List.mem_cons_self) hk
  · rintro ⟨k', hk', hnew⟩
    exact ⟨pre, k, mid, rfl, k', hk', hnew⟩

section dups
variable [DecidableEq κ]

theorem eraseDups_snoc (l : List κ) (k : κ) :
    (l ++ [k]).eraseDups = if k ∈ l then l.eraseDups else l.eraseDups ++ [k] := by
  rw [List.eraseDups_append, List.cons_removeAll]
  by_cases hk : k ∈ l
  · simp [hk, List.removeAll]
  · simp [hk, List.removeAll, List.eraseDups_cons]

theorem eraseDups_split {pre mid : List κ} {k : κ} (hk : k ∉ pre) :
    (pre ++ k :: mid).eraseDups = pre.eraseDups ++ k :: (mid.filter fun k' => k' ∉ k :: pre).eraseDups := by
  rw [List.eraseDups_append, List.cons_removeAll, if_pos (by simpa using hk), List.eraseDups_cons, List.removeAll,
    List.filter_filter]
  congr 3
  refine List.filter_congr fun k' _ => ?_
  simp [BEq.beq]

/-- **Last first write.** What a log writes last is the last value of the list,
unless the list returns. -/
theorem getLast_eraseDups_iff (l : List κ) : l.eraseDups.getLast? = l.getLast? ↔ ¬ Returns l := by
  induction l using List.reverseRecOn with
  | nil => simp [Returns]
  | append_singleton l k =>
    rw [eraseDups_snoc, List.getLast?_concat]
    split
    · rename_i hk
      obtain ⟨pre, mid, rfl, hpre⟩ := List.eq_append_cons_of_mem hk
      rw [List.append_assoc, List.cons_append, returns_iff hpre, eraseDups_split hpre, List.getLast?_append]
      have hfresh : (∃ k' ∈ mid, k' ∉ k :: pre) ↔ (mid.filter fun k' => k' ∉ k :: pre).eraseDups ≠ [] := by
        rw [ne_eq, List.eq_nil_iff_forall_not_mem]
        simp
      rw [hfresh, not_not]
      constructor
      · intro h
        by_contra hne
        -- the last fresh value is not `k`
        have hmem := List.getLast_mem hne
        have hlast : (k :: (mid.filter fun k' => k' ∉ k :: pre).eraseDups).getLast? =
            some ((mid.filter fun k' => k' ∉ k :: pre).eraseDups.getLast hne) := by
          rw [List.getLast?_cons, List.getLast?_eq_some_getLast hne]
          rfl
        rw [hlast] at h
        rw [Option.some.inj h, List.mem_eraseDups] at hmem
        simp at hmem
      · intro h
        rw [h]
        rfl
    · rename_i hk
      simp only [List.getLast?_concat, true_iff]
      rintro ⟨pre, k₁, mid, heq, -⟩
      rw [← List.cons_append, ← List.append_assoc] at heq
      obtain ⟨rfl, hkk⟩ := List.append_inj' heq rfl
      obtain rfl := List.singleton_inj.mp hkk
      exact hk (by simp)
end dups

end Once
