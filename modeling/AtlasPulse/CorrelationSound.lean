import AtlasPulse.Correlation
import AtlasPulse.Lib.UnionFind

/-!
# Incidents are connected components

The dict of parents is a forest whose classes are those that the pairs
generate. So the groups of node ids are the connected components, whatever the
order of the pairs, and everything an incident shows is a function of its
component.
-/

namespace AtlasPulse

open UnionFind

/-! ## Find and union -/

def parentOf (d : Parents) (x : String) : String := (d.lookup x).getD x

/-- Parents are keys and do not exceed their children. -/
def Grounded (d : Parents) : Prop := ∀ x y, d.lookup x = some y → y ≤ x ∧ y ∈ d

/-- The dict after paths were shortened. -/
structure SameRoots (d d' : Parents) : Prop where
  grounded : Grounded d'
  mem : ∀ x, x ∈ d' ↔ x ∈ d
  root : ∀ x, root (parentOf d') x = root (parentOf d) x

section parents
variable {d : Parents} {p q x : String}

theorem parentOf_of_lookup (h : d.lookup x = some q) : parentOf d x = q := by simp [parentOf, h]

theorem lookup_parentOf (h : x ∈ d) : d.lookup x = some (parentOf d x) := by
  obtain ⟨y, hy⟩ := Option.isSome_iff_exists.mp (AList.lookup_isSome.mpr h)
  rw [hy, parentOf_of_lookup hy]

theorem parentOf_insert (p q : String) : parentOf (d.insert p q) = Function.update (parentOf d) p q := by
  funext x
  rcases eq_or_ne x p with rfl | hx
  · rw [Function.update_self, parentOf, AList.lookup_insert, Option.getD_some]
  · rw [Function.update_of_ne hx, parentOf, AList.lookup_insert_ne hx, parentOf]

theorem Grounded.parentOf (h : Grounded d) (x : String) : parentOf d x ≤ x ∧ (x ∈ d → AtlasPulse.parentOf d x ∈ d) := by
  by_cases hx : x ∈ d
  · obtain ⟨hle, hmem⟩ := h x _ (lookup_parentOf hx)
    exact ⟨hle, fun _ => hmem⟩
  · have hnone : d.lookup x = none := AList.lookup_eq_none.mpr hx
    exact ⟨by simp [AtlasPulse.parentOf, hnone], fun h => absurd h hx⟩

theorem Grounded.forest (h : Grounded d) : Forest (AtlasPulse.parentOf d) where
  le x := (h.parentOf x).1
  finite := by
    refine d.keys.toFinset.finite_toSet.subset fun x hx => ?_
    by_contra hmem
    have hnone : d.lookup x = none := AList.lookup_eq_none.mpr fun hk => hmem (List.mem_toFinset.mpr (AList.mem_keys.mp hk))
    exact hx (by simp [AtlasPulse.parentOf, hnone])

theorem mem_insert_of_mem (hp : p ∈ d) : x ∈ d.insert p q ↔ x ∈ d := by
  rw [AList.mem_insert]
  exact ⟨fun h => h.elim (fun he => he ▸ hp) id, Or.inr⟩

theorem Grounded.insert (h : Grounded d) (hp : p ∈ d) (hq : q ∈ d) (hle : q ≤ p) : Grounded (d.insert p q) := by
  intro x y hy
  rcases eq_or_ne x p with rfl | hx
  · rw [AList.lookup_insert] at hy
    obtain rfl := Option.some.inj hy
    exact ⟨hle, (mem_insert_of_mem hp).mpr hq⟩
  · rw [AList.lookup_insert_ne hx] at hy
    obtain ⟨hyx, hmem⟩ := h x y hy
    exact ⟨hyx, (mem_insert_of_mem hp).mpr hmem⟩

theorem SameRoots.refl (h : Grounded d) : SameRoots d d := ⟨h, fun _ => Iff.rfl, fun _ => rfl⟩

theorem SameRoots.trans {d' d'' : Parents} (h : SameRoots d d') (h' : SameRoots d' d'') : SameRoots d d'' :=
  ⟨h'.grounded, fun x => (h'.mem x).trans (h.mem x), fun x => (h'.root x).trans (h.root x)⟩

/-- A parent replaced by a node further up its path. -/
theorem Grounded.shortcut (h : Grounded d) (hp : p ∈ d) (hq : q ∈ d) (hle : q ≤ p)
    (hself : q = p → AtlasPulse.parentOf d p = p) (hroot : root (AtlasPulse.parentOf d) q = root (AtlasPulse.parentOf d) p) :
    SameRoots d (d.insert p q) where
  grounded := h.insert hp hq hle
  mem _ := mem_insert_of_mem hp
  root x := by rw [parentOf_insert, h.forest.root_shortcut hle hself hroot]

theorem Grounded.root_mem (h : Grounded d) (hx : x ∈ d) : root (AtlasPulse.parentOf d) x ∈ d := by
  induction x using h.forest.induction with
  | root r hr => rwa [root_of_fixed hr]
  | step x _ ih =>
    rw [← h.forest.root_apply]
    exact ih ((h.parentOf x).2 hx)

theorem findLoop_spec : ∀ (steps : Nat) {d : Parents} {p : String}, Grounded d → p ∈ d →
    (d.keys.toFinset.filter (· ≤ p)).card ≤ steps →
    ∃ d', findLoop steps d p = some (root (parentOf d) p, d') ∧ SameRoots d d'
  | 0, d, p, _, hp, hsteps => by
    have hmem : p ∈ d.keys.toFinset.filter (· ≤ p) :=
      Finset.mem_filter.mpr ⟨List.mem_toFinset.mpr (AList.mem_keys.mp hp), le_rfl⟩
    have := Finset.card_pos.mpr ⟨p, hmem⟩
    omega
  | steps + 1, d, p, h, hp, hsteps => by
    have hnext := lookup_parentOf hp
    have hmem := (h.parentOf p).2 hp
    rw [findLoop, hnext, Option.bind_eq_bind, Option.bind_some]
    by_cases hroot : p = parentOf d p
    · rw [if_pos hroot, root_of_fixed hroot.symm]
      exact ⟨d, rfl, .refl h⟩
    · have hlt : parentOf d p < p := lt_of_le_of_ne (h.parentOf p).1 (Ne.symm hroot)
      have hle : parentOf d (parentOf d p) ≤ parentOf d p := (h.parentOf _).1
      have hskip := (h.parentOf _).2 hmem
      have hshort : SameRoots d (d.insert p (parentOf d (parentOf d p))) := by
        refine h.shortcut hp hskip (hle.trans hlt.le) (fun heq => absurd (heq.symm.le.trans hle) (not_le.mpr hlt)) ?_
        rw [h.forest.root_apply, h.forest.root_apply]
      have hkeys : (d.insert p (parentOf d (parentOf d p))).keys.toFinset = d.keys.toFinset := by
        ext x
        rw [List.mem_toFinset, List.mem_toFinset]
        exact hshort.mem x
      have hcard : (d.keys.toFinset.filter (· ≤ parentOf d (parentOf d p))).card < (d.keys.toFinset.filter (· ≤ p)).card := by
        refine Finset.card_lt_card ((Finset.ssubset_iff_of_subset ?_).mpr ⟨p, ?_, ?_⟩)
        · exact Finset.monotone_filter_right _ fun y _ hy => hy.trans (hle.trans hlt.le)
        · exact Finset.mem_filter.mpr ⟨List.mem_toFinset.mpr (AList.mem_keys.mp hp), le_rfl⟩
        · exact fun hmem => absurd (Finset.mem_filter.mp hmem).2 (not_le.mpr (lt_of_le_of_lt hle hlt))
      obtain ⟨d', hloop, hsame⟩ := findLoop_spec steps hshort.grounded ((hshort.mem _).mpr hskip)
        (by rw [hkeys]; omega)
      rw [if_neg hroot, lookup_parentOf hmem, Option.bind_some, hloop, hshort.root, h.forest.root_apply, h.forest.root_apply]
      exact ⟨d', rfl, hshort.trans hsame⟩

theorem find_spec (h : Grounded d) (hx : x ∈ d) : ∃ d', find d x = some (root (parentOf d) x, d') ∧ SameRoots d d' := by
  have hparent := (h.parentOf x).2 hx
  have hsteps : (d.keys.toFinset.filter (· ≤ parentOf d x)).card ≤ d.entries.length + 1 := by
    refine (Finset.card_filter_le _ _).trans ((List.toFinset_card_le _).trans ?_)
    rw [AList.keys, List.keys, List.length_map]
    omega
  obtain ⟨d', hloop, hsame⟩ := findLoop_spec _ h hparent hsteps
  have hroot : root (parentOf d) (parentOf d x) = root (parentOf d) x := h.forest.root_apply x
  rw [find, lookup_parentOf hx, Option.bind_eq_bind, Option.bind_some, hloop, Option.bind_eq_bind, Option.bind_some, hroot]
  refine ⟨_, rfl, hsame.trans (hsame.grounded.shortcut ((hsame.mem x).mpr hx) ((hsame.mem _).mpr (h.root_mem hx)) ?_ ?_ ?_)⟩
  · exact h.forest.root_le x
  · intro heq
    have hself := hsame.grounded.forest.apply_root x
    rwa [hsame.root, heq] at hself
  · rw [hsame.root, hsame.root, h.forest.root_root]

theorem union_spec {R : String → String → Prop} {a b : String} (h : Grounded d) (ha : a ∈ d) (hb : b ∈ d)
    (hR : Represents (parentOf d) R) : ∃ d', union d a b = some d' ∧ Grounded d' ∧ (∀ x, x ∈ d' ↔ x ∈ d) ∧
      Represents (parentOf d') fun x y => R x y ∨ (x = a ∧ y = b) := by
  obtain ⟨d₁, hfind₁, h₁⟩ := find_spec h ha
  obtain ⟨d₂, hfind₂, h₂⟩ := find_spec h₁.grounded ((h₁.mem b).mpr hb)
  have h₁₂ := h₁.trans h₂
  have hR₂ : Represents (parentOf d₂) R := hR.congr h₁₂.root
  rw [h₁.root] at hfind₂
  simp only [union, hfind₁, hfind₂, Option.bind_eq_bind, Option.bind_some]
  by_cases heq : root (parentOf d) a = root (parentOf d) b
  · rw [if_pos heq]
    refine ⟨d₂, rfl, h₂.grounded, h₁₂.mem, hR₂.add ?_⟩
    rw [h₁₂.root, h₁₂.root, heq]
  · rw [if_neg heq]
    have hroot : ∀ x ∈ d, root (parentOf d) x ∈ d₂ := fun x hx => (h₁₂.mem _).mpr (h.root_mem hx)
    have hmax : max (root (parentOf d) a) (root (parentOf d) b) ∈ d₂ := by
      rcases max_choice (root (parentOf d) a) (root (parentOf d) b) with hm | hm <;> rw [hm]
      · exact hroot a ha
      · exact hroot b hb
    have hmin : min (root (parentOf d) a) (root (parentOf d) b) ∈ d₂ := by
      rcases min_choice (root (parentOf d) a) (root (parentOf d) b) with hm | hm <;> rw [hm]
      · exact hroot a ha
      · exact hroot b hb
    refine ⟨_, rfl, h₂.grounded.insert hmax hmin min_le_max, fun x => (mem_insert_of_mem hmax).trans (h₁₂.mem x), ?_⟩
    rw [parentOf_insert]
    refine hR₂.link h₂.grounded.forest (min_lt_max.mpr heq) ?_
    rw [h₁₂.root, h₁₂.root]
    rcases lt_or_gt_of_ne heq with hlt | hlt
    · exact Or.inr ⟨(min_eq_left hlt.le).symm, (max_eq_right hlt.le).symm⟩
    · exact Or.inl ⟨(max_eq_left hlt.le).symm, (min_eq_right hlt.le).symm⟩

end parents

/-! ## Grouping -/

theorem mem_appendTo {cs : List (String × List String)} {r n : String} {c : String × List String}
    (hnodup : (cs.map Prod.fst).Nodup) : c ∈ appendTo cs r n ↔
      (c ∈ cs ∧ c.1 ≠ r) ∨ (c.1 = r ∧ c.2 = ((cs.find? fun x => x.1 = r).map Prod.snd).getD [] ++ [n]) := by
  unfold appendTo
  split
  · rename_i hr
    obtain ⟨x, hx, rfl⟩ := List.mem_map.mp hr
    have hunique : ∀ y ∈ cs, y.1 = x.1 → y = x := fun y hy heq => List.inj_on_of_nodup_map hnodup hy hx heq
    have hfind : cs.find? (fun y => y.1 = x.1) = some x := by
      have hsome : (cs.find? fun y => y.1 = x.1).isSome := List.find?_isSome.mpr ⟨x, hx, by simp⟩
      obtain ⟨y, hy⟩ := Option.isSome_iff_exists.mp hsome
      have heq := hunique y (List.mem_of_find?_eq_some hy) (by simpa using List.find?_some hy)
      rw [hy, heq]
    rw [hfind, Option.map_some, Option.getD_some, List.mem_map]
    constructor
    · rintro ⟨y, hy, rfl⟩
      by_cases heq : y.1 = x.1
      · rw [if_pos heq, hunique y hy heq]
        exact Or.inr ⟨rfl, rfl⟩
      · rw [if_neg heq]
        exact Or.inl ⟨hy, heq⟩
    · rintro (⟨hc, hne⟩ | ⟨h1, h2⟩)
      · exact ⟨c, hc, if_neg hne⟩
      · exact ⟨x, hx, (if_pos rfl).trans (Prod.ext h1.symm h2.symm)⟩
  · rename_i hr
    have hnone : cs.find? (fun y => y.1 = r) = none :=
      List.find?_eq_none.mpr fun y hy heq => hr (List.mem_map.mpr ⟨y, hy, by simpa using heq⟩)
    rw [hnone, List.mem_append, List.mem_singleton]
    refine or_congr ⟨fun hc => ⟨hc, fun heq => hr (heq ▸ List.mem_map_of_mem hc)⟩, And.left⟩ ?_
    rw [Prod.ext_iff]
    exact Iff.rfl

theorem map_fst_appendTo (cs : List (String × List String)) (r n : String) :
    (appendTo cs r n).map Prod.fst = if r ∈ cs.map Prod.fst then cs.map Prod.fst else cs.map Prod.fst ++ [r] := by
  unfold appendTo
  split
  · rw [List.map_map]
    refine List.map_congr_left fun c _ => ?_
    simp only [Function.comp]
    split <;> rfl
  · rw [List.map_append, List.map_singleton]

/-- The groups of a list by a key, in order of appearance. -/
def groupsBy (key : String → String) (ids : List String) : List (String × List String) :=
  ids.foldl (fun cs n => appendTo cs (key n) n) []

theorem groupsBy_spec (key : String → String) (ids : List String) :
    ((groupsBy key ids).map Prod.fst).Nodup ∧
      ∀ c, c ∈ groupsBy key ids ↔ (∃ n ∈ ids, key n = c.1) ∧ c.2 = ids.filter (key · = c.1) := by
  induction ids using List.reverseRecOn with
  | nil => exact ⟨List.nodup_nil, fun c => by simp [groupsBy]⟩
  | append_singleton ids n ih =>
    obtain ⟨hnodup, hmem⟩ := ih
    have hsnoc : groupsBy key (ids ++ [n]) = appendTo (groupsBy key ids) (key n) n := by
      rw [groupsBy, List.foldl_append, List.foldl_cons, List.foldl_nil, groupsBy]
    rw [hsnoc]
    constructor
    · rw [map_fst_appendTo]
      split
      · exact hnodup
      · rename_i hr
        exact hnodup.append (List.nodup_singleton _) (by simpa [List.disjoint_singleton] using hr)
    · intro c
      have hfilter : ids.filter (key · = key n) =
          (((groupsBy key ids).find? fun x => x.1 = key n).map Prod.snd).getD [] := by
        cases hfind : (groupsBy key ids).find? fun x => x.1 = key n with
        | none =>
          rw [List.find?_eq_none] at hfind
          refine List.filter_eq_nil_iff.mpr fun a ha heq => ?_
          rw [decide_eq_true_eq] at heq
          exact hfind (key n, ids.filter (key · = key n)) ((hmem _).mpr ⟨⟨a, ha, heq⟩, rfl⟩) (decide_eq_true rfl)
        | some x =>
          have hx : x.1 = key n := by simpa using List.find?_some hfind
          rw [Option.map_some, Option.getD_some, ((hmem x).mp (List.mem_of_find?_eq_some hfind)).2, hx]
      rw [mem_appendTo hnodup, ← hfilter, List.filter_append, hmem]
      by_cases hc : c.1 = key n
      · have hself : [n].filter (fun a => key a = c.1) = [n] := by simp [hc]
        rw [hself, hc]
        constructor
        · rintro (⟨-, hne⟩ | ⟨-, h⟩)
          · exact absurd rfl hne
          · exact ⟨⟨n, by simp, rfl⟩, h⟩
        · exact fun h => Or.inr ⟨rfl, h.2⟩
      · have hother : [n].filter (fun a => key a = c.1) = [] := by simp [Ne.symm hc]
        rw [hother, List.append_nil]
        constructor
        · rintro (⟨⟨⟨a, ha, heq⟩, h⟩, -⟩ | ⟨h, -⟩)
          · exact ⟨⟨a, List.mem_append_left _ ha, heq⟩, h⟩
          · exact absurd h hc
        · rintro ⟨⟨a, ha, heq⟩, h⟩
          rcases List.mem_append.mp ha with ha | ha
          · exact Or.inl ⟨⟨⟨a, ha, heq⟩, h⟩, hc⟩
          · rw [List.mem_singleton.mp ha] at heq
            exact absurd heq.symm hc

theorem mem_groups {key : String → String} {ids ns : List String} :
    ns ∈ (groupsBy key ids).map Prod.snd ↔ ∃ n ∈ ids, ns = ids.filter (key · = key n) := by
  rw [List.mem_map]
  constructor
  · rintro ⟨c, hc, rfl⟩
    obtain ⟨⟨n, hn, heq⟩, h⟩ := ((groupsBy_spec key ids).2 c).mp hc
    exact ⟨n, hn, by rw [heq, h]⟩
  · rintro ⟨n, hn, rfl⟩
    exact ⟨(key n, ids.filter (key · = key n)), ((groupsBy_spec key ids).2 _).mpr ⟨⟨n, hn, rfl⟩, rfl⟩, rfl⟩

theorem nodup_groups (key : String → String) (ids : List String) : ((groupsBy key ids).map Prod.snd).Nodup := by
  refine List.Nodup.map_on (fun c hc c' hc' heq => ?_) (List.Nodup.of_map _ (groupsBy_spec key ids).1)
  obtain ⟨⟨n, hn, hkey⟩, h⟩ := ((groupsBy_spec key ids).2 c).mp hc
  have h' := (((groupsBy_spec key ids).2 c').mp hc').2
  have hmem : n ∈ c'.2 := by
    rw [← heq, h]
    exact List.mem_filter.mpr ⟨hn, by simpa using hkey⟩
  rw [h'] at hmem
  exact Prod.ext (hkey.symm.trans (by simpa using (List.mem_filter.mp hmem).2)) heq

theorem components_spec {d : Parents} (h : Grounded d) {ids : List String} (hids : ∀ n ∈ ids, n ∈ d) :
    components d ids = some (groupsBy (root (parentOf d)) ids) := by
  have hfold : ∀ (ids : List String) (d' : Parents) (cs : List (String × List String)), SameRoots d d' →
      (∀ n ∈ ids, n ∈ d) → ∃ d'', ids.foldlM assign (d', cs) =
        some (d'', ids.foldl (fun cs n => appendTo cs (root (parentOf d) n) n) cs) := by
    intro ids
    induction ids with
    | nil => exact fun d' cs _ _ => ⟨d', rfl⟩
    | cons n ids ih =>
      intro d' cs hsame hids
      obtain ⟨d₁, hfind, h₁⟩ := find_spec hsame.grounded ((hsame.mem n).mpr (hids n List.mem_cons_self))
      rw [hsame.root] at hfind
      have hassign : assign (d', cs) n = some (d₁, appendTo cs (root (parentOf d) n) n) := by
        simp only [assign, hfind, Option.bind_eq_bind, Option.bind_some]
      rw [List.foldlM_cons, hassign, Option.bind_eq_bind, Option.bind_some, List.foldl_cons]
      exact ih d₁ _ (hsame.trans h₁) fun x hx => hids x (List.mem_cons_of_mem _ hx)
  obtain ⟨d'', hd''⟩ := hfold ids d [] (.refl h) hids
  rw [components, hd'']
  rfl

/-! ## Merging the pairs -/

section merge
variable {E T F : Type} {m : SignalModel E T F}

/-- The signals of the pairs, by node id. -/
def occurrences (pairs : List (CorrelationPair m)) : List (String × StreamMessage E) :=
  pairs.flatMap fun p => [(evidenceNodeId m p.left, p.left), (evidenceNodeId m p.right, p.right)]

/-- What the two checks of the loop require. -/
structure Consistent (pairs : List (CorrelationPair m)) : Prop where
  nodes : ∀ x ∈ occurrences pairs, ∀ y ∈ occurrences pairs, x.1 = y.1 → x.2.streamId = y.2.streamId
  edges : ∀ p ∈ pairs, ∀ q ∈ pairs, (edgeFromPair p).edgeId = (edgeFromPair q).edgeId → edgeFromPair p = edgeFromPair q

/-- The edges of the pairs, as a relation of node ids. -/
def Linked (pairs : List (CorrelationPair m)) (x y : String) : Prop :=
  ∃ p ∈ pairs, (edgeFromPair p).fromNodeId = x ∧ (edgeFromPair p).toNodeId = y

/-- The dicts after some signals and pairs. -/
structure Merges (signals : List (String × StreamMessage E)) (pairs : List (CorrelationPair m))
    (st : Merge (E := E) (F := F)) : Prop where
  grounded : Grounded st.parents
  parents : ∀ n, n ∈ st.parents ↔ n ∈ signals.map Prod.fst
  messages : ∀ n, n ∈ st.messages ↔ n ∈ signals.map Prod.fst
  message : ∀ n message, st.messages.lookup n = some message → (n, message) ∈ signals
  edge : ∀ id e, st.edges.lookup id = some e ↔ ∃ p ∈ pairs, edgeFromPair p = e ∧ e.edgeId = id
  linked : Represents (parentOf st.parents) (Linked pairs)

theorem merges_empty : Merges (m := m) [] [] Merge.empty where
  grounded := fun x y h => by simp [Merge.empty] at h
  parents n := by simp [Merge.empty, AList.notMem_empty]
  messages n := by simp [Merge.empty, AList.notMem_empty]
  message n message h := by simp [Merge.empty] at h
  edge id e := by simp [Merge.empty]
  linked := by
    have hid : parentOf (Merge.empty (E := E) (F := F)).parents = id := by
      funext x
      simp [parentOf, Merge.empty]
    rw [hid]
    have hnone : Linked ([] : List (CorrelationPair m)) = fun _ _ => False := by
      funext x y
      simp [Linked]
    rw [hnone]
    exact represents_id

variable {signals : List (String × StreamMessage E)} {pairs : List (CorrelationPair m)} {st : Merge (E := E) (F := F)}

theorem edgeFromPair_ends (p : CorrelationPair m) :
    ((edgeFromPair p).fromNodeId = evidenceNodeId m p.left ∧ (edgeFromPair p).toNodeId = evidenceNodeId m p.right) ∨
      ((edgeFromPair p).fromNodeId = evidenceNodeId m p.right ∧ (edgeFromPair p).toNodeId = evidenceNodeId m p.left) := by
  unfold edgeFromPair
  dsimp only
  split
  · exact Or.inr ⟨rfl, rfl⟩
  · exact Or.inl ⟨rfl, rfl⟩

/-- A node that agrees with the earlier ones. -/
theorem Merges.addNode (h : Merges signals pairs st) {n : String} {message : StreamMessage E}
    (hsame : ∀ x ∈ signals, x.1 = n → x.2.streamId = message.streamId) :
    ∃ st', st.addNode n message = .ok st' ∧ Merges (signals ++ [(n, message)]) pairs st' := by
  have hany : (st.messages.lookup n).any (fun existing => existing.streamId ≠ message.streamId) = false := by
    cases hlook : st.messages.lookup n with
    | none => rfl
    | some existing => simpa using hsame (n, existing) (h.message n existing hlook) rfl
  have hparent : parentOf (if n ∈ st.parents then st.parents else st.parents.insert n n) = parentOf st.parents := by
    split
    · rfl
    · rename_i hn
      rw [parentOf_insert]
      refine Function.update_eq_self_iff.mpr ?_
      rw [parentOf, AList.lookup_eq_none.mpr hn, Option.getD_none]
  have hmem : ∀ x, x ∈ (if n ∈ st.parents then st.parents else st.parents.insert n n) ↔ x = n ∨ x ∈ st.parents := by
    intro x
    split
    · rename_i hn
      exact ⟨Or.inr, fun h => h.elim (fun he => he ▸ hn) id⟩
    · exact AList.mem_insert _
  refine ⟨_, by rw [Merge.addNode, hany]; rfl, ?_⟩
  constructor
  case grounded =>
    intro x y hy
    have hself : parentOf (if n ∈ st.parents then st.parents else st.parents.insert n n) x = y := parentOf_of_lookup hy
    rw [hparent] at hself
    have hle := h.grounded.parentOf x
    rw [hself] at hle
    refine ⟨hle.1, (hmem y).mpr ?_⟩
    by_cases hx : x ∈ st.parents
    · exact Or.inr (hle.2 hx)
    · have hxn : x = n := by
        have : x ∈ (if n ∈ st.parents then st.parents else st.parents.insert n n) :=
          AList.lookup_isSome.mp (by rw [hy]; rfl)
        exact ((hmem x).mp this).resolve_right hx
      rw [parentOf, AList.lookup_eq_none.mpr hx, Option.getD_none] at hself
      exact Or.inl (hself.symm.trans hxn)
  case parents =>
    intro x
    rw [hmem, h.parents, List.map_append, List.mem_append, List.map_singleton, List.mem_singleton]
    exact or_comm
  case messages =>
    intro x
    rw [AList.mem_insert, h.messages, List.map_append, List.mem_append, List.map_singleton, List.mem_singleton]
    exact or_comm
  case message =>
    intro x message' hlook
    rcases eq_or_ne x n with rfl | hx
    · rw [AList.lookup_insert] at hlook
      rw [Option.some.inj hlook]
      exact List.mem_append_right _ List.mem_cons_self
    · rw [AList.lookup_insert_ne hx] at hlook
      exact List.mem_append_left _ (h.message x message' hlook)
  case edge => exact h.edge
  case linked =>
    show Represents (parentOf (if n ∈ st.parents then st.parents else st.parents.insert n n)) _
    rw [hparent]
    exact h.linked

/-- A node of another revision. -/
theorem Merges.addNode_error (h : Merges signals pairs st) {n : String} {message : StreamMessage E}
    (hagree : ∀ x ∈ signals, ∀ y ∈ signals, x.1 = y.1 → x.2.streamId = y.2.streamId)
    (hother : ∃ x ∈ signals, x.1 = n ∧ x.2.streamId ≠ message.streamId) :
    st.addNode n message = .error "one evidence node resolved to multiple current revisions" := by
  obtain ⟨x, hx, rfl, hne⟩ := hother
  have hmem : x.1 ∈ st.messages := (h.messages _).mpr (List.mem_map_of_mem hx)
  obtain ⟨existing, hlook⟩ := Option.isSome_iff_exists.mp (AList.lookup_isSome.mpr hmem)
  have hstream : existing.streamId = x.2.streamId := hagree _ (h.message _ _ hlook) _ hx rfl
  rw [Merge.addNode, hlook, Option.any_some, if_pos]
  simpa [hstream] using hne

theorem occurrences_append (pairs pairs' : List (CorrelationPair m)) :
    occurrences (pairs ++ pairs') = occurrences pairs ++ occurrences pairs' := List.flatMap_append

theorem linked_snoc (pairs : List (CorrelationPair m)) (p : CorrelationPair m) :
    Linked (pairs ++ [p]) = fun x y => Linked pairs x y ∨ (x = (edgeFromPair p).fromNodeId ∧ y = (edgeFromPair p).toNodeId) := by
  funext x y
  simp only [Linked, List.mem_append, List.mem_singleton, or_and_right, exists_or, exists_eq_left, eq_iff_iff]
  exact or_congr Iff.rfl (and_congr eq_comm eq_comm)

variable [DecidableEq F]

/-- A pair that agrees with the earlier ones. -/
theorem Merges.addPair (h : Merges (occurrences pairs) pairs st) {p : CorrelationPair m}
    (hok : Consistent (pairs ++ [p])) :
    ∃ st', st.addPair p = .ok st' ∧ Merges (occurrences (pairs ++ [p])) (pairs ++ [p]) st' := by
  have hocc : occurrences (pairs ++ [p]) = occurrences pairs ++ [(evidenceNodeId m p.left, p.left)] ++
      [(evidenceNodeId m p.right, p.right)] := by
    rw [occurrences_append, List.append_assoc]
    rfl
  have hnodes := hok.nodes
  rw [hocc] at hnodes
  obtain ⟨st₁, hst₁, h₁⟩ := @Merges.addNode E T F m _ _ _ h (evidenceNodeId m p.left) p.left fun x hx heq =>
    hnodes x (by simp [hx]) (evidenceNodeId m p.left, p.left) (by simp) heq
  obtain ⟨st₂, hst₂, h₂⟩ := @Merges.addNode E T F m _ _ _ h₁ (evidenceNodeId m p.right) p.right fun x hx heq =>
    hnodes x (List.mem_append_left _ hx) (evidenceNodeId m p.right, p.right) (by simp) heq
  rw [← hocc] at h₂
  have hedge : (st₂.edges.lookup (edgeFromPair p).edgeId).any (fun existing => existing ≠ edgeFromPair p) = false := by
    cases hlook : st₂.edges.lookup (edgeFromPair p).edgeId with
    | none => rfl
    | some existing =>
      obtain ⟨q, hq, rfl, hid⟩ := (h₂.edge _ _).mp hlook
      simp [hok.edges q (List.mem_append_left _ hq) p (by simp) hid]
  have hends : (edgeFromPair p).fromNodeId ∈ st₂.parents ∧ (edgeFromPair p).toNodeId ∈ st₂.parents := by
    simp only [h₂.parents, hocc]
    rcases edgeFromPair_ends p with ⟨ha, hb⟩ | ⟨ha, hb⟩ <;> simp [ha, hb]
  obtain ⟨parents, hunion, hg, hmem, hR⟩ := union_spec h₂.grounded hends.1 hends.2 h₂.linked
  refine ⟨{ st₂ with parents, edges := st₂.edges.insert (edgeFromPair p).edgeId (edgeFromPair p) }, ?_, ?_⟩
  · simp only [Merge.addPair, hst₁, hst₂, bind, Except.bind, hedge, Bool.false_eq_true, if_false, hunion]
  · refine ⟨hg, fun n => (hmem n).trans (h₂.parents n), h₂.messages, h₂.message, fun id e => ?_, ?_⟩
    · have hsnoc : (∃ q ∈ pairs ++ [p], edgeFromPair q = e ∧ e.edgeId = id) ↔
          (∃ q ∈ pairs, edgeFromPair q = e ∧ e.edgeId = id) ∨ (edgeFromPair p = e ∧ e.edgeId = id) := by
        simp only [List.mem_append, List.mem_singleton, or_and_right, exists_or, exists_eq_left]
      rw [hsnoc]
      rcases eq_or_ne id (edgeFromPair p).edgeId with rfl | hid
      · rw [AList.lookup_insert, Option.some.injEq]
        constructor
        · rintro rfl
          exact Or.inr ⟨rfl, rfl⟩
        · rintro (⟨q, hq, rfl, hid⟩ | ⟨rfl, -⟩)
          · exact (hok.edges q (List.mem_append_left _ hq) p (by simp) hid).symm
          · rfl
      · rw [AList.lookup_insert_ne hid, h₂.edge]
        refine ⟨Or.inl, fun h => h.resolve_right ?_⟩
        rintro ⟨rfl, rfl⟩
        exact hid rfl
    · rw [linked_snoc]
      exact hR

/-- The `ValueError`s of the loop. -/
def conflictErrors : List String :=
  ["one evidence node resolved to multiple current revisions", "one evidence edge resolved to conflicting measurements"]

/-- A pair that disagrees with the earlier ones. -/
theorem Merges.addPair_error (h : Merges (occurrences pairs) pairs st) (hpairs : Consistent pairs) {p : CorrelationPair m}
    (hbad : ¬ Consistent (pairs ++ [p])) : ∃ e ∈ conflictErrors, st.addPair p = .error e := by
  by_cases hleft : ∃ x ∈ occurrences pairs, x.1 = evidenceNodeId m p.left ∧ x.2.streamId ≠ p.left.streamId
  · refine ⟨_, List.mem_cons_self, ?_⟩
    simp only [Merge.addPair, h.addNode_error hpairs.nodes hleft, bind, Except.bind]
  have hleft' : ∀ x ∈ occurrences pairs, x.1 = evidenceNodeId m p.left → x.2.streamId = p.left.streamId :=
    fun x hx heq => not_not.mp fun hne => hleft ⟨x, hx, heq, hne⟩
  obtain ⟨st₁, hst₁, h₁⟩ := h.addNode hleft'
  have hagree : ∀ x ∈ occurrences pairs ++ [(evidenceNodeId m p.left, p.left)],
      ∀ y ∈ occurrences pairs ++ [(evidenceNodeId m p.left, p.left)], x.1 = y.1 → x.2.streamId = y.2.streamId := by
    simp only [List.mem_append, List.mem_singleton]
    rintro x (hx | rfl) y (hy | rfl) heq
    · exact hpairs.nodes x hx y hy heq
    · exact hleft' x hx heq
    · exact (hleft' y hy heq.symm).symm
    · rfl
  by_cases hright : ∃ x ∈ occurrences pairs ++ [(evidenceNodeId m p.left, p.left)],
      x.1 = evidenceNodeId m p.right ∧ x.2.streamId ≠ p.right.streamId
  · refine ⟨_, List.mem_cons_self, ?_⟩
    simp only [Merge.addPair, hst₁, h₁.addNode_error hagree hright, bind, Except.bind]
  have hright' : ∀ x ∈ occurrences pairs ++ [(evidenceNodeId m p.left, p.left)],
      x.1 = evidenceNodeId m p.right → x.2.streamId = p.right.streamId :=
    fun x hx heq => not_not.mp fun hne => hright ⟨x, hx, heq, hne⟩
  obtain ⟨st₂, hst₂, h₂⟩ := h₁.addNode hright'
  have hocc : occurrences (pairs ++ [p]) = occurrences pairs ++ [(evidenceNodeId m p.left, p.left)] ++
      [(evidenceNodeId m p.right, p.right)] := by
    rw [occurrences_append, List.append_assoc]
    rfl
  by_cases hedges : ∀ q ∈ pairs, (edgeFromPair q).edgeId = (edgeFromPair p).edgeId → edgeFromPair q = edgeFromPair p
  · refine absurd ⟨?_, ?_⟩ hbad
    · rw [hocc]
      intro x hx y hy heq
      rcases List.mem_append.mp hx with hx | hx <;> rcases List.mem_append.mp hy with hy | hy
      · exact hagree x hx y hy heq
      · rw [List.mem_singleton.mp hy] at heq ⊢
        exact hright' x hx heq
      · rw [List.mem_singleton.mp hx] at heq ⊢
        exact (hright' y hy heq.symm).symm
      · rw [List.mem_singleton.mp hx, List.mem_singleton.mp hy]
    · intro q hq r hr hid
      rcases List.mem_append.mp hq with hq | hq <;> rcases List.mem_append.mp hr with hr | hr
      · exact hpairs.edges q hq r hr hid
      · rw [List.mem_singleton.mp hr] at hid ⊢
        exact hedges q hq hid
      · rw [List.mem_singleton.mp hq] at hid ⊢
        exact (hedges r hr hid.symm).symm
      · rw [List.mem_singleton.mp hq, List.mem_singleton.mp hr]
  · push Not at hedges
    obtain ⟨q, hq, hid, hne⟩ := hedges
    refine ⟨_, List.mem_cons_of_mem _ List.mem_cons_self, ?_⟩
    have hlook : st₂.edges.lookup (edgeFromPair p).edgeId = some (edgeFromPair q) := (h₂.edge _ _).mpr ⟨q, hq, rfl, hid⟩
    have hany : (st₂.edges.lookup (edgeFromPair p).edgeId).any (fun existing => existing ≠ edgeFromPair p) = true := by
      rw [hlook]
      simpa using hne
    simp only [Merge.addPair, hst₁, hst₂, bind, Except.bind, hany, if_true]

omit [DecidableEq F] in
theorem Consistent.of_append {pairs' : List (CorrelationPair m)} (h : Consistent (pairs ++ pairs')) : Consistent pairs where
  nodes x hx y hy := h.nodes x (by simp [occurrences_append, hx]) y (by simp [occurrences_append, hy])
  edges p hp q hq := h.edges p (by simp [hp]) q (by simp [hq])

omit [DecidableEq F] in
theorem consistent_nil : Consistent ([] : List (CorrelationPair m)) where
  nodes x hx := by simp [occurrences] at hx
  edges p hp := by simp at hp

theorem foldlM_snoc_ok {α σ : Type} {f : σ → α → Except String σ} {l : List α} {a : α} {s t : σ}
    (h : l.foldlM f s = .ok t) : (l ++ [a]).foldlM f s = f t a := by
  rw [foldlM_snoc, h]
  rfl

theorem foldlM_snoc_error {α σ : Type} {f : σ → α → Except String σ} {l : List α} {a : α} {s : σ} {e : String}
    (h : l.foldlM f s = .error e) : (l ++ [a]).foldlM f s = .error e := by
  rw [List.foldlM_append, h]
  rfl

/-- **Merging.** Consistent pairs are merged, and others are refused. -/
theorem merge_spec (pairs : List (CorrelationPair m)) :
    (Consistent pairs → ∃ st, pairs.foldlM Merge.addPair Merge.empty = .ok st ∧ Merges (occurrences pairs) pairs st) ∧
      (¬ Consistent pairs → ∃ e ∈ conflictErrors, pairs.foldlM (Merge.addPair (m := m)) Merge.empty = .error e) := by
  induction pairs using List.reverseRecOn with
  | nil => exact ⟨fun _ => ⟨_, rfl, merges_empty⟩, fun h => absurd consistent_nil h⟩
  | append_singleton pairs p ih =>
    constructor
    · intro hok
      obtain ⟨st, hst, h⟩ := ih.1 hok.of_append
      obtain ⟨st', hst', h'⟩ := h.addPair hok
      exact ⟨st', (foldlM_snoc_ok hst).trans hst', h'⟩
    · intro hbad
      by_cases hpairs : Consistent pairs
      · obtain ⟨st, hst, h⟩ := ih.1 hpairs
        obtain ⟨e, he, herror⟩ := h.addPair_error hpairs hbad
        exact ⟨e, he, (foldlM_snoc_ok hst).trans herror⟩
      · obtain ⟨e, he, herror⟩ := ih.2 hpairs
        exact ⟨e, he, foldlM_snoc_error herror⟩

end merge

end AtlasPulse
