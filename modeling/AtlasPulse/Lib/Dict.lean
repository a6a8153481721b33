import Mathlib

/-!
# Dicts

A dict as its items in insertion order. Assignment replaces the value of a key
in its place, or appends a new item.
-/

namespace PyDict

variable {K V : Type} [DecidableEq K]

/-- `d[key] = value`. -/
def setItem (d : List (K × V)) (key : K) (value : V) : List (K × V) :=
  if key ∈ d.map Prod.fst then d.map fun item => if item.1 = key then (key, value) else item
  else d ++ [(key, value)]

/-- `{key: value for key, value in items}`. -/
def ofItems (items : List (K × V)) : List (K × V) := items.foldl (fun d item => setItem d item.1 item.2) []

/-- `d.get(key)`. -/
def get (d : List (K × V)) (key : K) : Option V := (d.find? fun item => item.1 = key).map Prod.snd

variable {d : List (K × V)} {key key' : K} {value : V}

theorem map_fst_setItem (d : List (K × V)) (key : K) (value : V) :
    (setItem d key value).map Prod.fst = if key ∈ d.map Prod.fst then d.map Prod.fst else d.map Prod.fst ++ [key] := by
  unfold setItem
  split
  · rw [List.map_map]
    refine List.map_congr_left fun item _ => ?_
    by_cases h : item.1 = key
    · simp [h]
    · simp [h]
  · simp

theorem nodup_setItem (h : (d.map Prod.fst).Nodup) : ((setItem d key value).map Prod.fst).Nodup := by
  rw [map_fst_setItem]
  split
  · exact h
  · rename_i hkey
    exact List.nodup_append.mpr ⟨h, List.nodup_singleton _, fun a ha b hb hab =>
      hkey (List.mem_singleton.mp hb ▸ hab ▸ ha)⟩

theorem mem_setItem {item : K × V} (h : item ∈ setItem d key value) : item = (key, value) ∨ item ∈ d := by
  unfold setItem at h
  split at h
  · obtain ⟨x, hx, rfl⟩ := List.mem_map.mp h
    by_cases hkey : x.1 = key
    · exact Or.inl (if_pos hkey)
    · exact Or.inr (by rwa [if_neg hkey])
  · rcases List.mem_append.mp h with h | h
    · exact Or.inr h
    · exact Or.inl (List.mem_singleton.mp h)

theorem mem_setItem_self (d : List (K × V)) (key : K) (value : V) : (key, value) ∈ setItem d key value := by
  unfold setItem
  split
  · rename_i h
    obtain ⟨x, hx, hkey⟩ := List.mem_map.mp h
    exact List.mem_map.mpr ⟨x, hx, if_pos hkey⟩
  · exact List.mem_append_right _ List.mem_cons_self

theorem mem_setItem_of_ne {item : K × V} (h : item ∈ d) (hkey : item.1 ≠ key) : item ∈ setItem d key value := by
  unfold setItem
  split
  · exact List.mem_map.mpr ⟨item, h, if_neg hkey⟩
  · exact List.mem_append_left _ h

/-! ## Comprehensions -/

variable {items : List (K × V)}

theorem ofItems_concat (items : List (K × V)) (item : K × V) :
    ofItems (items ++ [item]) = setItem (ofItems items) item.1 item.2 := by
  rw [ofItems, List.foldl_append]
  rfl

theorem nodup_ofItems (items : List (K × V)) : ((ofItems items).map Prod.fst).Nodup := by
  induction items using List.reverseRecOn with
  | nil => exact List.nodup_nil
  | append_singleton items item ih =>
    rw [ofItems_concat]
    exact nodup_setItem ih

theorem mem_of_mem_ofItems {item : K × V} (h : item ∈ ofItems items) : item ∈ items := by
  induction items using List.reverseRecOn with
  | nil => exact absurd h List.not_mem_nil
  | append_singleton items item' ih =>
    rw [ofItems_concat] at h
    rcases mem_setItem h with rfl | h
    · exact List.mem_append_right _ List.mem_cons_self
    · exact List.mem_append_left _ (ih h)

theorem mem_keys_ofItems : key ∈ (ofItems items).map Prod.fst ↔ key ∈ items.map Prod.fst := by
  induction items using List.reverseRecOn with
  | nil => exact Iff.rfl
  | append_singleton items item ih =>
    rw [ofItems_concat, map_fst_setItem, List.map_append, List.mem_append]
    by_cases h : item.1 ∈ (ofItems items).map Prod.fst
    · rw [if_pos h, ih]
      refine ⟨Or.inl, fun hor => hor.elim id fun hkey => ?_⟩
      obtain rfl := List.mem_singleton.mp hkey
      exact ih.mp h
    · rw [if_neg h, List.mem_append, ih]
      exact Iff.rfl

/-- A comprehension over distinct keys keeps every item. -/
theorem ofItems_of_nodup (h : (items.map Prod.fst).Nodup) : ofItems items = items := by
  induction items using List.reverseRecOn with
  | nil => rfl
  | append_singleton items item ih =>
    rw [List.map_append] at h
    have hkey : item.1 ∉ items.map Prod.fst := fun hmem =>
      (List.nodup_append.mp h).2.2 _ hmem _ List.mem_cons_self rfl
    rw [ofItems_concat, ih (List.nodup_append.mp h).1, setItem, if_neg hkey]

theorem length_ofItems_le (items : List (K × V)) : (ofItems items).length ≤ items.length := by
  induction items using List.reverseRecOn with
  | nil => exact Nat.le_refl _
  | append_singleton items item ih =>
    have hlen : (ofItems (items ++ [item])).length ≤ (ofItems items).length + 1 := by
      rw [ofItems_concat, ← List.length_map (f := Prod.fst), map_fst_setItem]
      split <;> simp
    rw [List.length_append, List.length_singleton]
    omega

/-- The dict is as long as its items only when their keys are distinct. -/
theorem length_ofItems_iff : (ofItems items).length = items.length ↔ (items.map Prod.fst).Nodup := by
  constructor
  · intro h
    have hsub : (ofItems items).map Prod.fst ⊆ items.map Prod.fst := fun key hkey => mem_keys_ofItems.mp hkey
    have hperm := List.subperm_of_subset (nodup_ofItems items) hsub
    have hlen : (items.map Prod.fst).length = ((ofItems items).map Prod.fst).length := by
      simp only [List.length_map, h]
    exact (hperm.perm_of_length_le (Nat.le_of_eq hlen)).nodup_iff.mp (nodup_ofItems items)
  · intro h
    rw [ofItems_of_nodup h]

/-! ## Lookups -/

theorem get_eq_some (h : (d.map Prod.fst).Nodup) : get d key = some value ↔ (key, value) ∈ d := by
  unfold get
  constructor
  · intro hget
    obtain ⟨item, hfind, rfl⟩ := Option.map_eq_some_iff.mp hget
    have hkey : item.1 = key := by simpa using List.find?_some hfind
    rw [← hkey]
    exact List.mem_of_find?_eq_some hfind
  · intro hmem
    cases hfind : d.find? fun item => item.1 = key with
    | none => exact absurd (decide_eq_true rfl) (List.find?_eq_none.mp hfind _ hmem)
    | some item =>
      have hkey : item.1 = key := by simpa using List.find?_some hfind
      have hitem : item = (key, value) :=
        List.inj_on_of_nodup_map h (List.mem_of_find?_eq_some hfind) hmem hkey
      rw [hitem, Option.map_some]

theorem get_setItem (h : (d.map Prod.fst).Nodup) (key key' : K) (value : V) :
    get (setItem d key value) key' = if key' = key then some value else get d key' := by
  split
  · rename_i hkey
    rw [hkey]
    exact (get_eq_some (nodup_setItem h)).mpr (mem_setItem_self d key value)
  · rename_i hkey
    apply Option.ext
    intro v
    rw [get_eq_some (nodup_setItem h), get_eq_some h]
    constructor
    · intro hmem
      obtain heq | hmem := mem_setItem hmem
      · exact absurd (congrArg Prod.fst heq) hkey
      · exact hmem
    · exact fun hmem => mem_setItem_of_ne hmem hkey

/-- Dicts with the same values have the same items, in some order. -/
theorem perm_of_get {d' : List (K × V)} (h : (d.map Prod.fst).Nodup) (h' : (d'.map Prod.fst).Nodup)
    (hget : ∀ key, get d key = get d' key) : d.Perm d' := by
  rw [List.perm_ext_iff_of_nodup (List.Nodup.of_map _ h) (List.Nodup.of_map _ h')]
  rintro ⟨key, value⟩
  rw [← get_eq_some h, ← get_eq_some h', hget]

/-- A dict does not depend on the order of its items. -/
theorem get_perm {d' : List (K × V)} (h : (d.map Prod.fst).Nodup) (hperm : d'.Perm d) (key : K) :
    get d' key = get d key := by
  apply Option.ext
  intro v
  rw [get_eq_some h, get_eq_some ((hperm.map Prod.fst).nodup_iff.mpr h), hperm.mem_iff]

theorem get_eq_none : get d key = none ↔ key ∉ d.map Prod.fst := by
  rw [get, Option.map_eq_none_iff, List.find?_eq_none]
  constructor
  · intro h hmem
    obtain ⟨item, hitem, hkey⟩ := List.mem_map.mp hmem
    exact h item hitem (decide_eq_true hkey)
  · intro h item hitem hkey
    exact h (List.mem_map.mpr ⟨item, hitem, of_decide_eq_true hkey⟩)

end PyDict
