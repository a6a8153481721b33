import Mathlib

/-!
# Union-find

Parent pointers as a function whose values do not exceed their arguments and
which moves finitely many points. Every point has a root, the fixed point at
the end of its path. Shortening a path keeps all roots; linking one root below
another merges two classes. So the points with equal roots are those that the
linked pairs generate.
-/

namespace UnionFind

variable {α : Type*} {f : α → α}

/-- A root at the end of the path. -/
def IsRoot (f : α → α) (x r : α) : Prop := f r = r ∧ ∃ n, f^[n] x = r

theorem IsRoot.eq {x r r' : α} (h : IsRoot f x r) (h' : IsRoot f x r') : r = r' := by
  obtain ⟨hr, n, rfl⟩ := h
  obtain ⟨hr', m, rfl⟩ := h'
  rcases Nat.le_total n m with hle | hle
  · obtain ⟨k, rfl⟩ := Nat.exists_eq_add_of_le' hle
    rw [Function.iterate_add_apply, Function.iterate_fixed hr]
  · obtain ⟨k, rfl⟩ := Nat.exists_eq_add_of_le' hle
    rw [Function.iterate_add_apply, Function.iterate_fixed hr']

open Classical in
/-- The root of a point. -/
noncomputable def root (f : α → α) (x : α) : α := if h : ∃ r, IsRoot f x r then h.choose else x

theorem IsRoot.root_eq {x r : α} (h : IsRoot f x r) : root f x = r := by
  have hex : ∃ r, IsRoot f x r := ⟨r, h⟩
  rw [root, dif_pos hex]
  exact hex.choose_spec.eq h

theorem root_of_fixed {r : α} (h : f r = r) : root f r = r := IsRoot.root_eq ⟨h, 0, rfl⟩

/-- Parents do not exceed their children, and only finitely many points have one. -/
structure Forest [LinearOrder α] (f : α → α) : Prop where
  le : ∀ x, f x ≤ x
  finite : {x | f x ≠ x}.Finite

section forest
variable [LinearOrder α]

/-- **Path induction**: what holds of the roots, and of a point when it holds of
its parent, holds of all points. -/
theorem Forest.induction (hf : Forest f) {P : α → Prop} (root : ∀ r, f r = r → P r)
    (step : ∀ x, f x < x → P (f x) → P x) (x : α) : P x := by
  induction hk : (hf.finite.toFinset.filter (· ≤ x)).card using Nat.strong_induction_on generalizing x with
  | _ k ih =>
    by_cases hx : f x = x
    · exact root x hx
    have hlt : f x < x := lt_of_le_of_ne (hf.le x) hx
    refine step x hlt (ih _ ?_ (f x) rfl)
    rw [← hk]
    refine Finset.card_lt_card ((Finset.ssubset_iff_of_subset ?_).mpr ⟨x, ?_, ?_⟩)
    · exact Finset.monotone_filter_right _ fun y _ hy => hy.trans hlt.le
    · simp [hx]
    · simp [hlt]

theorem Forest.exists_root (hf : Forest f) (x : α) : ∃ r, IsRoot f x r := by
  induction x using hf.induction with
  | root r hr => exact ⟨r, hr, 0, rfl⟩
  | step x _ ih =>
    obtain ⟨r, hr, n, hn⟩ := ih
    exact ⟨r, hr, n + 1, hn⟩

theorem Forest.isRoot_root (hf : Forest f) (x : α) : IsRoot f x (root f x) := by
  obtain ⟨r, h⟩ := hf.exists_root x
  rwa [h.root_eq]

theorem Forest.apply_root (hf : Forest f) (x : α) : f (root f x) = root f x := (hf.isRoot_root x).1

theorem Forest.root_apply (hf : Forest f) (x : α) : root f (f x) = root f x := by
  obtain ⟨hr, n, hn⟩ := hf.isRoot_root (f x)
  exact (IsRoot.root_eq ⟨hr, n + 1, hn⟩).symm

theorem Forest.root_root (hf : Forest f) (x : α) : root f (root f x) = root f x := root_of_fixed (hf.apply_root x)

theorem Forest.root_le (hf : Forest f) (x : α) : root f x ≤ x := by
  induction x using hf.induction with
  | root r hr => exact (root_of_fixed hr).le
  | step x hlt ih => exact (hf.root_apply x).symm.le.trans (ih.trans hlt.le)

/-- A map that the parents keep and that fixes the roots is the root map. -/
theorem Forest.root_eq_of_invariant (hf : Forest f) {g : α → α} (hstep : ∀ x, g (f x) = g x)
    (hroot : ∀ r, f r = r → g r = r) (x : α) : root f x = g x := by
  induction x using hf.induction with
  | root r hr => rw [root_of_fixed hr, hroot r hr]
  | step x _ ih => rw [← hf.root_apply, ih, hstep]

section update
variable [DecidableEq α] {p q : α}

theorem Forest.update (hf : Forest f) (hle : q ≤ p) : Forest (Function.update f p q) where
  le x := by
    rcases eq_or_ne x p with rfl | hx
    · rwa [Function.update_self]
    · rw [Function.update_of_ne hx]
      exact hf.le x
  finite := by
    refine (hf.finite.insert p).subset fun x hx => ?_
    rcases eq_or_ne x p with rfl | hne
    · exact Set.mem_insert _ _
    · rw [Set.mem_ofPred_eq, Function.update_of_ne hne] at hx
      exact Set.mem_insert_of_mem _ hx

/-- **Path shortening** keeps every root. -/
theorem Forest.root_shortcut (hf : Forest f) (hle : q ≤ p) (hself : q = p → f p = p) (hq : root f q = root f p)
    (x : α) : root (Function.update f p q) x = root f x := by
  refine (hf.update hle).root_eq_of_invariant (fun x => ?_) (fun r hr => ?_) x
  · rcases eq_or_ne x p with rfl | hx
    · rw [Function.update_self, hq]
    · rw [Function.update_of_ne hx, hf.root_apply]
  · rcases eq_or_ne r p with rfl | hne
    · rw [Function.update_self] at hr
      exact root_of_fixed (hself hr)
    · rw [Function.update_of_ne hne] at hr
      exact root_of_fixed hr

/-- **Linking** a root below another one. -/
theorem Forest.root_link (hf : Forest f) (hlt : q < p) (hp : f p = p) (hq : f q = q) (x : α) :
    root (Function.update f p q) x = if root f x = p then q else root f x := by
  have hne : q ≠ p := hlt.ne
  refine (hf.update hlt.le).root_eq_of_invariant (g := fun x => if root f x = p then q else root f x)
    (fun x => ?_) (fun r hr => ?_) x
  · rcases eq_or_ne x p with rfl | hx
    · rw [Function.update_self, root_of_fixed hq, root_of_fixed hp, if_neg hne, if_pos rfl]
    · rw [Function.update_of_ne hx, hf.root_apply]
  · rcases eq_or_ne r p with rfl | hr'
    · rw [Function.update_self] at hr
      exact absurd hr hne
    · rw [Function.update_of_ne hr'] at hr
      rw [root_of_fixed hr, if_neg hr']

end update

end forest

/-! ## Classes -/

/-- Equal roots are the equivalence that the relation generates. -/
def Represents (f : α → α) (R : α → α → Prop) : Prop := ∀ x y, root f x = root f y ↔ Relation.EqvGen R x y

theorem represents_id : Represents (id : α → α) fun _ _ => False := by
  intro x y
  rw [root_of_fixed (f := id) rfl, root_of_fixed (f := id) rfl]
  constructor
  · rintro rfl
    exact .refl x
  · intro h
    induction h with
    | rel _ _ h => exact h.elim
    | refl => rfl
    | symm _ _ _ ih => exact ih.symm
    | trans _ _ _ _ _ ih ih' => exact ih.trans ih'

theorem Represents.congr {f' : α → α} {R : α → α → Prop} (h : Represents f R) (heq : ∀ x, root f' x = root f x) :
    Represents f' R := fun x y => by rw [heq, heq, h]

/-- A pair within a class adds nothing. -/
theorem Represents.add {R : α → α → Prop} {a b : α} (h : Represents f R) (hab : root f a = root f b) :
    Represents f fun x y => R x y ∨ (x = a ∧ y = b) := by
  intro x y
  rw [h]
  constructor
  · exact Relation.EqvGen.mono (fun _ _ hR => Or.inl hR) x y
  · intro hxy
    induction hxy with
    | rel x y hR =>
      rcases hR with hR | ⟨rfl, rfl⟩
      · exact .rel _ _ hR
      · exact (h _ _).mp hab
    | refl x => exact .refl x
    | symm _ _ _ ih => exact ih.symm
    | trans _ _ _ _ _ ih ih' => exact ih.trans _ _ _ ih'

/-- **Union.** Linking the roots of two points merges their classes. -/
theorem Represents.link [LinearOrder α] [DecidableEq α] {R : α → α → Prop} {a b p q : α} (hf : Forest f) (h : Represents f R)
    (hlt : q < p) (hroots : (root f a = p ∧ root f b = q) ∨ (root f a = q ∧ root f b = p)) :
    Represents (Function.update f p q) fun x y => R x y ∨ (x = a ∧ y = b) := by
  have hp : f p = p := by rcases hroots with ⟨rfl, -⟩ | ⟨-, rfl⟩ <;> exact hf.apply_root _
  have hq : f q = q := by rcases hroots with ⟨-, rfl⟩ | ⟨rfl, -⟩ <;> exact hf.apply_root _
  have hroot := hf.root_link hlt hp hq
  have hwider : ∀ {x y}, root f x = root f y → Relation.EqvGen (fun x y => R x y ∨ (x = a ∧ y = b)) x y :=
    fun {x y} hxy => Relation.EqvGen.mono (fun _ _ hR => Or.inl hR) x y ((h _ _).mp hxy)
  have hab : Relation.EqvGen (fun x y => R x y ∨ (x = a ∧ y = b)) p q := by
    have hmid : Relation.EqvGen (fun x y => R x y ∨ (x = a ∧ y = b)) a b := .rel a b (Or.inr ⟨rfl, rfl⟩)
    rcases hroots with ⟨ha, hb⟩ | ⟨ha, hb⟩
    · exact ((hwider (by rw [root_of_fixed hp, ha])).trans _ _ _ hmid).trans _ _ _ (hwider (by rw [root_of_fixed hq, hb]))
    · exact ((hwider (by rw [root_of_fixed hp, hb])).trans _ _ _ (hmid.symm _ _)).trans _ _ _
        (hwider (by rw [root_of_fixed hq, ha]))
  intro x y
  rw [hroot, hroot]
  constructor
  · intro hxy
    split at hxy <;> split at hxy
    · rename_i hx hy
      exact hwider (hx.trans hy.symm)
    · rename_i hx hy
      exact ((hwider (by rw [hx, root_of_fixed hp])).trans _ _ _ hab).trans _ _ _
        (hwider (by rw [root_of_fixed hq, hxy]))
    · rename_i hx hy
      exact ((hwider (by rw [hxy, root_of_fixed hq])).trans _ _ _ (hab.symm _ _)).trans _ _ _
        (hwider (by rw [root_of_fixed hp, hy]))
    · exact hwider hxy
  · intro hxy
    induction hxy with
    | rel x y hR =>
      rcases hR with hR | ⟨rfl, rfl⟩
      · rw [(h x y).mpr (.rel _ _ hR)]
      · rcases hroots with ⟨ha, hb⟩ | ⟨ha, hb⟩
        · rw [ha, hb, if_pos rfl, if_neg hlt.ne]
        · rw [ha, hb, if_pos rfl, if_neg hlt.ne]
    | refl => rfl
    | symm _ _ _ ih => exact ih.symm
    | trans _ _ _ _ _ ih ih' => exact ih.trans ih'

end UnionFind
