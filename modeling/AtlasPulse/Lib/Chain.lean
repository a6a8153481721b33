import Mathlib

/-!
# Append-only chains

A list is admitted when each of its items was admitted after the items before
it. A list that carries its positions as signed numbers, and whose every item
is shown by an item of another such list, is a prefix of that list.
-/

namespace Chain

variable {α β : Type*}

def Admitted (admits : List α → α → Prop) (l : List α) : Prop :=
  ∀ before a, before ++ [a] <+: l → admits before a

section admitted
variable {admits : List α → α → Prop}

theorem admitted_nil : Admitted admits [] := by
  intro before a h
  rw [List.prefix_nil] at h
  simp at h

theorem admitted_snoc {l : List α} {a : α} : Admitted admits (l ++ [a]) ↔ Admitted admits l ∧ admits l a := by
  constructor
  · intro h
    exact ⟨fun before b hb => h before b (hb.trans (List.prefix_append l [a])), h l a (List.prefix_refl _)⟩
  · intro ⟨hl, ha⟩ before b hb
    rcases List.prefix_concat_iff.mp hb with heq | hpre
    · obtain ⟨rfl, hba⟩ := List.append_inj' heq rfl
      obtain rfl := List.singleton_inj.mp hba
      exact ha
    · exact hl before b hpre

theorem Admitted.of_initial {l m : List α} (h : Admitted admits m) (hp : l <+: m) : Admitted admits l :=
  fun before a ha => h before a (ha.trans hp)

theorem Admitted.mono {admits' : List α → α → Prop} (himp : ∀ l a, admits l a → admits' l a) {l : List α}
    (h : Admitted admits l) : Admitted admits' l :=
  fun before a ha => himp before a (h before a ha)

theorem Admitted.at_mem {l : List α} (h : Admitted admits l) {a : α} (ha : a ∈ l) : ∃ before, admits before a := by
  obtain ⟨s, t, rfl⟩ := List.append_of_mem ha
  exact ⟨s, h s a ⟨t, by simp⟩⟩

end admitted

/-! ## Numbered chains -/

/-- Items carry their positions, from one on. -/
def Numbered (number : α → Int) : List α → Prop := Admitted fun before a => number a = before.length + 1

theorem Numbered.at_index {number : α → Int} {l : List α} (h : Numbered number l) {i : Nat} (hi : i < l.length) :
    number l[i] = i + 1 := by
  have hp : l.take i ++ [l[i]] <+: l := by
    rw [List.take_append_getElem]
    exact List.take_prefix _ _
  rw [h _ _ hp, List.length_take, Nat.min_eq_left hi.le]

/-- **Prefix by numbers.** -/
theorem Numbered.prefix_of_shown {number : α → Int} {view : α → β} {l m : List α} (hl : Numbered number l)
    (hm : Numbered number m) (h : ∀ a ∈ l, ∃ b ∈ m, number a = number b ∧ view a = view b) :
    l.map view <+: m.map view := by
  rw [List.prefix_iff_getElem?]
  intro i hi
  rw [List.length_map] at hi
  obtain ⟨b, hb, hnum, hview⟩ := h l[i] (List.getElem_mem hi)
  obtain ⟨j, hj, rfl⟩ := List.getElem_of_mem hb
  rw [hl.at_index hi, hm.at_index hj] at hnum
  obtain rfl : i = j := by omega
  rw [List.getElem?_map, List.getElem?_eq_getElem hj, List.getElem_map, hview]
  rfl

end Chain
