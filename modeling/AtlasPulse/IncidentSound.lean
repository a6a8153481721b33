import AtlasPulse.CorrelationSound

/-!
# Soundness of incidents

The groups of node ids are the vertex sets of the connected components, so the
incidents are a function of the graph.
-/

namespace AtlasPulse

open UnionFind

section
variable {E T F : Type} {m : SignalModel E T F}

def nodeIds (pairs : List (CorrelationPair m)) : List String := (occurrences pairs).map Prod.fst

/-- The sorted node ids of a component. -/
structure ComponentIds (pairs : List (CorrelationPair m)) (ns : List String) : Prop where
  sorted : ns.Pairwise (· < ·)
  component : ∃ n ∈ nodeIds pairs, ∀ x, x ∈ ns ↔ x ∈ nodeIds pairs ∧ Relation.EqvGen (Linked pairs) n x

variable {pairs : List (CorrelationPair m)} {st : Merge (E := E) (F := F)} {ns : List String}

/-! ## Groups -/

theorem linked_ends {p : CorrelationPair m} (hp : p ∈ pairs) :
    Relation.EqvGen (Linked pairs) (evidenceNodeId m p.left) (evidenceNodeId m p.right) := by
  have hrel : Relation.EqvGen (Linked pairs) (edgeFromPair p).fromNodeId (edgeFromPair p).toNodeId :=
    .rel _ _ ⟨p, hp, rfl, rfl⟩
  rcases edgeFromPair_ends p with ⟨ha, hb⟩ | ⟨ha, hb⟩
  · rwa [ha, hb] at hrel
  · rw [ha, hb] at hrel
    exact hrel.symm _ _

theorem left_mem {p : CorrelationPair m} (hp : p ∈ pairs) : (evidenceNodeId m p.left, p.left) ∈ occurrences pairs :=
  List.mem_flatMap.mpr ⟨p, hp, List.mem_cons_self⟩

theorem right_mem {p : CorrelationPair m} (hp : p ∈ pairs) : (evidenceNodeId m p.right, p.right) ∈ occurrences pairs :=
  List.mem_flatMap.mpr ⟨p, hp, List.mem_cons_of_mem _ List.mem_cons_self⟩

theorem mem_occurrences {x : String × StreamMessage E} : x ∈ occurrences pairs ↔
    ∃ p ∈ pairs, x = (evidenceNodeId m p.left, p.left) ∨ x = (evidenceNodeId m p.right, p.right) := by
  simp [occurrences]

theorem ends_mem {p : CorrelationPair m} (hp : p ∈ pairs) :
    (edgeFromPair p).fromNodeId ∈ nodeIds pairs ∧ (edgeFromPair p).toNodeId ∈ nodeIds pairs := by
  have hl : evidenceNodeId m p.left ∈ nodeIds pairs := List.mem_map_of_mem (left_mem hp)
  have hr : evidenceNodeId m p.right ∈ nodeIds pairs := List.mem_map_of_mem (right_mem hp)
  rcases edgeFromPair_ends p with ⟨ha, hb⟩ | ⟨ha, hb⟩ <;> rw [ha, hb]
  · exact ⟨hl, hr⟩
  · exact ⟨hr, hl⟩

/-- Two components that share a node are equal. -/
theorem ComponentIds.eq {ns' : List String} (h : ComponentIds pairs ns) (h' : ComponentIds pairs ns') {x : String}
    (hx : x ∈ ns) (hx' : x ∈ ns') : ns = ns' := by
  obtain ⟨n, -, hn⟩ := h.component
  obtain ⟨n', -, hn'⟩ := h'.component
  have hnn : Relation.EqvGen (Linked pairs) n n' := ((hn x).mp hx).2.trans _ _ _ (((hn' x).mp hx').2.symm _ _)
  have hmem : ∀ y, y ∈ ns ↔ y ∈ ns' := by
    intro y
    rw [hn, hn']
    exact and_congr_right fun _ => ⟨(hnn.symm _ _).trans _ _ _, hnn.trans _ _ _⟩
  have hperm : ns.Perm ns' := (List.perm_ext_iff_of_nodup (h.sorted.imp ne_of_lt) (h'.sorted.imp ne_of_lt)).mpr hmem
  exact hperm.eq_of_pairwise (fun a b _ _ hab hba => absurd hab (not_lt.mpr hba.le)) h.sorted h'.sorted

/-- `sorted(messages)`. -/
def sortedIds (st : Merge (E := E) (F := F)) : List String := st.messages.keys.insertionSort (· ≤ ·)

theorem mem_sortedIds (h : Merges (occurrences pairs) pairs st) {n : String} : n ∈ sortedIds st ↔ n ∈ nodeIds pairs := by
  rw [sortedIds, List.mem_insertionSort]
  exact h.messages n

theorem sortedIds_pairwise (st : Merge (E := E) (F := F)) : (sortedIds st).Pairwise (· < ·) := by
  have hnodup : (sortedIds st).Nodup := (List.perm_insertionSort _ _).nodup_iff.mpr st.messages.keys_nodup
  have hsorted : (sortedIds st).Pairwise (· ≤ ·) := List.pairwise_insertionSort _ _
  exact (hsorted.and hnodup).imp fun ⟨hle, hne⟩ => lt_of_le_of_ne hle hne

noncomputable def groups (st : Merge (E := E) (F := F)) : List (List String) :=
  (groupsBy (root (parentOf st.parents)) (sortedIds st)).map Prod.snd

theorem groups_nodup (st : Merge (E := E) (F := F)) : (groups st).Nodup := nodup_groups _ _

theorem mem_groups_iff (h : Merges (occurrences pairs) pairs st) : ns ∈ groups st ↔ ComponentIds pairs ns := by
  have hfilter : ∀ n, ComponentIds pairs ((sortedIds st).filter (root (parentOf st.parents) · = root (parentOf st.parents) n)) ∨
      n ∉ nodeIds pairs := by
    intro n
    by_cases hn : n ∈ nodeIds pairs
    · refine Or.inl ⟨(sortedIds_pairwise st).filter _, n, hn, fun x => ?_⟩
      rw [List.mem_filter, mem_sortedIds h, decide_eq_true_eq, eq_comm, h.linked]
    · exact Or.inr hn
  rw [groups, mem_groups]
  constructor
  · rintro ⟨n, hn, rfl⟩
    exact (hfilter n).resolve_right (not_not.mpr ((mem_sortedIds h).mp hn))
  · intro hns
    obtain ⟨n, hn, hmem⟩ := hns.component
    have hself : n ∈ ns := (hmem n).mpr ⟨hn, .refl n⟩
    refine ⟨n, (mem_sortedIds h).mpr hn, hns.eq ((hfilter n).resolve_right (not_not.mpr hn)) hself ?_⟩
    exact List.mem_filter.mpr ⟨(mem_sortedIds h).mpr hn, decide_eq_true rfl⟩

/-! ## Incidents of a state -/

theorem mem_edges (h : Merges (occurrences pairs) pairs st) {e : EvidenceEdge F} :
    e ∈ st.edges.entries.map Sigma.snd ↔ ∃ p ∈ pairs, edgeFromPair p = e := by
  constructor
  · intro he
    obtain ⟨⟨id, e'⟩, hmem, rfl⟩ := List.mem_map.mp he
    obtain ⟨p, hp, heq, -⟩ := (h.edge id e').mp (AList.mem_lookup_iff.mpr hmem)
    exact ⟨p, hp, heq⟩
  · rintro ⟨p, hp, rfl⟩
    have hlook := (h.edge _ _).mpr ⟨p, hp, rfl, rfl⟩
    exact List.mem_map.mpr ⟨⟨_, edgeFromPair p⟩, AList.mem_lookup_iff.mp hlook, rfl⟩

theorem edgeIds_nodup (h : Merges (occurrences pairs) pairs st) :
    ((st.edges.entries.map Sigma.snd).map EvidenceEdge.edgeId).Nodup := by
  have hkeys : (st.edges.entries.map Sigma.snd).map EvidenceEdge.edgeId = st.edges.keys := by
    rw [List.map_map, AList.keys, List.keys]
    refine List.map_congr_left fun x hx => ?_
    obtain ⟨p, -, -, hid⟩ := (h.edge x.1 x.2).mp (AList.mem_lookup_iff.mpr hx)
    exact hid
  rw [hkeys]
  exact st.edges.keys_nodup

theorem mem_componentEdges (h : Merges (occurrences pairs) pairs st) {e : EvidenceEdge F} :
    e ∈ componentEdges st ns ↔ (∃ p ∈ pairs, edgeFromPair p = e) ∧ e.fromNodeId ∈ ns ∧ e.toNodeId ∈ ns := by
  rw [componentEdges, List.mem_insertionSort, List.mem_filter, mem_edges h, decide_eq_true_eq]

instance : Std.Total fun a b : EvidenceEdge F => a.edgeId ≤ b.edgeId := ⟨fun a b => le_total a.edgeId b.edgeId⟩

instance : IsTrans (EvidenceEdge F) fun a b => a.edgeId ≤ b.edgeId := ⟨fun _ _ _ => le_trans⟩

theorem componentEdges_pairwise (h : Merges (occurrences pairs) pairs st) :
    (componentEdges st ns).Pairwise fun a b => a.edgeId < b.edgeId := by
  have hsorted : (componentEdges st ns).Pairwise fun a b => a.edgeId ≤ b.edgeId := List.pairwise_insertionSort _ _
  have hnodup : ((componentEdges st ns).map EvidenceEdge.edgeId).Nodup := by
    rw [componentEdges, ((List.perm_insertionSort _ _).map EvidenceEdge.edgeId).nodup_iff]
    exact (edgeIds_nodup h).sublist (List.filter_sublist.map _)
  exact (hsorted.and (List.pairwise_map.mp hnodup)).imp fun ⟨hle, hne⟩ => lt_of_le_of_ne hle hne

theorem exists_bestOf {α : Type} (better : α → α → Bool) {l : List α} (h : l ≠ []) :
    ∃ x ∈ l, bestOf better l = .ok x := by
  cases l with
  | nil => exact absurd rfl h
  | cons a l =>
    refine ⟨_, ?_, rfl⟩
    have hmem : ∀ (as : List α) (best : α),
        as.foldl (fun best x => if better x best then x else best) best ∈ best :: as := by
      intro as
      induction as with
      | nil => exact fun best => List.mem_cons_self
      | cons x as ih =>
        intro best
        rw [List.foldl_cons]
        by_cases hx : better x best = true
        · rw [if_pos hx]
          exact List.mem_cons_of_mem _ (ih x)
        · rw [if_neg hx]
          rcases List.mem_cons.mp (ih best) with heq | has
          · rw [heq]
            exact List.mem_cons_self
          · exact List.mem_cons_of_mem _ (List.mem_cons_of_mem _ has)
    exact hmem l a

theorem nodeOf_ok {nodeId : String} {node : EvidenceNode E} :
    nodeOf st nodeId = .ok node ↔ node.nodeId = nodeId ∧ st.messages.lookup nodeId = some node.message := by
  unfold nodeOf
  cases st.messages.lookup nodeId with
  | none => simp
  | some message =>
    simp only [Except.ok.injEq, Option.some.injEq]
    constructor
    · rintro rfl
      exact ⟨rfl, rfl⟩
    · rintro ⟨rfl, rfl⟩
      rfl

theorem nodes_spec {nodes : List (EvidenceNode E)} (h : ns.mapM (nodeOf st) = .ok nodes) :
    nodes.map (·.nodeId) = ns ∧ ∀ node ∈ nodes, st.messages.lookup node.nodeId = some node.message := by
  have hnodes := mapM_ok.mp h
  clear h
  induction hnodes with
  | nil => exact ⟨rfl, fun node hnode => absurd hnode List.not_mem_nil⟩
  | cons hab _ ih =>
    obtain ⟨hid, hlook⟩ := nodeOf_ok.mp hab
    refine ⟨by rw [List.map_cons, hid, ih.1], ?_⟩
    rw [List.forall_mem_cons, hid]
    exact ⟨hlook, ih.2⟩

/-- What an incident shows of its component. -/
structure Shows (pairs : List (CorrelationPair m)) (ns : List String) (i : IncidentCandidate E T F) : Prop where
  incidentId : i.incidentId = contentId m.sha256 correlationRuleVersion "incident" ns
  nodes : i.nodes.map (·.nodeId) = ns
  messages : ∀ node ∈ i.nodes, (node.nodeId, node.message) ∈ occurrences pairs
  edges : ∀ e, e ∈ i.edges ↔ (∃ p ∈ pairs, edgeFromPair p = e) ∧ e.fromNodeId ∈ ns ∧ e.toNodeId ∈ ns
  edgesSorted : i.edges.Pairwise fun a b => a.edgeId < b.edgeId
  sources : i.sources = sortedUnique (i.nodes.map fun node => m.source node.message.event)

/-! ## The same pairs -/

def CorrelationPair.swap (p : CorrelationPair m) : CorrelationPair m where
  left := p.right
  right := p.left
  distanceKm := p.distanceKm
  timeDeltaMinutes := p.timeDeltaMinutes
  leftGeometryBasis := p.rightGeometryBasis
  rightGeometryBasis := p.leftGeometryBasis
  crossSource := p.crossSource.symm
  measured := p.measured

/-- The pairs are the same, up to order, repetition and direction. -/
def SamePairs (pairs pairs' : List (CorrelationPair m)) : Prop :=
  (∀ p ∈ pairs, p ∈ pairs' ∨ p.swap ∈ pairs') ∧ ∀ p ∈ pairs', p ∈ pairs ∨ p.swap ∈ pairs

/-- A stream id names one message. -/
def OneRevision (pairs : List (CorrelationPair m)) : Prop :=
  ∀ x ∈ occurrences pairs, ∀ y ∈ occurrences pairs, x.2.streamId = y.2.streamId → x.2 = y.2

/-- In accepted pairs a node id names one message. -/
theorem message_eq (hok : Consistent pairs) (hrev : OneRevision pairs) {x y : String × StreamMessage E}
    (hx : x ∈ occurrences pairs) (hy : y ∈ occurrences pairs) (heq : x.1 = y.1) : x.2 = y.2 :=
  hrev x hx y hy (hok.nodes x hx y hy heq)

theorem nodeIds_ne (hok : Consistent pairs) (hrev : OneRevision pairs) {p : CorrelationPair m} (hp : p ∈ pairs) :
    evidenceNodeId m p.left ≠ evidenceNodeId m p.right := by
  intro heq
  have hmessage : p.left = p.right := hrev _ (left_mem hp) _ (right_mem hp) (hok.nodes _ (left_mem hp) _ (right_mem hp) heq)
  exact p.crossSource (by rw [hmessage])

theorem edgeFromPair_swap {p : CorrelationPair m} (h : evidenceNodeId m p.left ≠ evidenceNodeId m p.right) :
    edgeFromPair p.swap = edgeFromPair p := by
  unfold edgeFromPair CorrelationPair.swap
  rcases lt_or_gt_of_ne h with hlt | hlt
  · simp only [hlt, not_lt_of_gt hlt, if_true, if_false]
  · simp only [hlt, not_lt_of_gt hlt, if_true, if_false]

section same
variable {pairs' : List (CorrelationPair m)}

theorem SamePairs.occurrences_subset (h : ∀ p ∈ pairs, p ∈ pairs' ∨ p.swap ∈ pairs') {x : String × StreamMessage E}
    (hx : x ∈ occurrences pairs) : x ∈ occurrences pairs' := by
  obtain ⟨p, hp, hxp⟩ := mem_occurrences.mp hx
  rcases h p hp with hp' | hp'
  · exact mem_occurrences.mpr ⟨p, hp', hxp⟩
  · exact mem_occurrences.mpr ⟨p.swap, hp', hxp.symm⟩

theorem SamePairs.mem_occurrences (h : SamePairs pairs pairs') {x : String × StreamMessage E} :
    x ∈ occurrences pairs' ↔ x ∈ occurrences pairs :=
  ⟨SamePairs.occurrences_subset h.2, SamePairs.occurrences_subset h.1⟩

theorem SamePairs.mem_nodeIds (h : SamePairs pairs pairs') {n : String} : n ∈ nodeIds pairs' ↔ n ∈ nodeIds pairs := by
  simp only [nodeIds, List.mem_map, h.mem_occurrences]

theorem SamePairs.exists_edge (h : SamePairs pairs pairs') (hok : Consistent pairs) (hrev : OneRevision pairs)
    {e : EvidenceEdge F} : (∃ p ∈ pairs', edgeFromPair p = e) ↔ ∃ p ∈ pairs, edgeFromPair p = e := by
  constructor
  · rintro ⟨p, hp, rfl⟩
    rcases h.2 p hp with hp' | hp'
    · exact ⟨p, hp', rfl⟩
    · exact ⟨p.swap, hp', edgeFromPair_swap (nodeIds_ne hok hrev hp').symm⟩
  · rintro ⟨p, hp, rfl⟩
    rcases h.1 p hp with hp' | hp'
    · exact ⟨p, hp', rfl⟩
    · exact ⟨p.swap, hp', edgeFromPair_swap (nodeIds_ne hok hrev hp)⟩

theorem SamePairs.consistent (h : SamePairs pairs pairs') (hok : Consistent pairs) (hrev : OneRevision pairs) :
    Consistent pairs' where
  nodes x hx y hy := hok.nodes x (h.mem_occurrences.mp hx) y (h.mem_occurrences.mp hy)
  edges p hp q hq hid := by
    obtain ⟨p', hp', hpe⟩ := (h.exists_edge hok hrev).mp ⟨p, hp, rfl⟩
    obtain ⟨q', hq', hqe⟩ := (h.exists_edge hok hrev).mp ⟨q, hq, rfl⟩
    rw [← hpe, ← hqe] at hid ⊢
    exact hok.edges p' hp' q' hq' hid

theorem SamePairs.linked (h : SamePairs pairs pairs') (hok : Consistent pairs) (hrev : OneRevision pairs) :
    Linked pairs' = Linked pairs := by
  have hexists : ∀ (l : List (CorrelationPair m)) x y,
      Linked l x y ↔ ∃ e, (∃ p ∈ l, edgeFromPair p = e) ∧ e.fromNodeId = x ∧ e.toNodeId = y := by
    intro l x y
    constructor
    · rintro ⟨p, hp, hx, hy⟩
      exact ⟨_, ⟨p, hp, rfl⟩, hx, hy⟩
    · rintro ⟨_, ⟨p, hp, rfl⟩, hx, hy⟩
      exact ⟨p, hp, hx, hy⟩
  funext x y
  rw [eq_iff_iff, hexists, hexists]
  simp only [h.exists_edge hok hrev]

theorem SamePairs.componentIds (h : SamePairs pairs pairs') (hok : Consistent pairs) (hrev : OneRevision pairs) :
    ComponentIds pairs' ns ↔ ComponentIds pairs ns := by
  have hiff : (∃ n ∈ nodeIds pairs', ∀ x, x ∈ ns ↔ x ∈ nodeIds pairs' ∧ Relation.EqvGen (Linked pairs') n x) ↔
      ∃ n ∈ nodeIds pairs, ∀ x, x ∈ ns ↔ x ∈ nodeIds pairs ∧ Relation.EqvGen (Linked pairs) n x := by
    simp only [h.mem_nodeIds, h.linked hok hrev]
  exact ⟨fun hc => ⟨hc.sorted, hiff.mp hc.component⟩, fun hc => ⟨hc.sorted, hiff.mpr hc.component⟩⟩

variable {st' : Merge (E := E) (F := F)}

theorem SamePairs.messages (h : SamePairs pairs pairs') (hok : Consistent pairs) (hrev : OneRevision pairs)
    (hst : Merges (occurrences pairs) pairs st) (hst' : Merges (occurrences pairs') pairs' st') (n : String) :
    st'.messages.lookup n = st.messages.lookup n := by
  by_cases hn : n ∈ nodeIds pairs
  · obtain ⟨a, ha⟩ := Option.isSome_iff_exists.mp (AList.lookup_isSome.mpr ((hst.messages n).mpr hn))
    obtain ⟨b, hb⟩ := Option.isSome_iff_exists.mp (AList.lookup_isSome.mpr ((hst'.messages n).mpr (h.mem_nodeIds.mpr hn)))
    have hab : b = a := hrev (n, b) (h.mem_occurrences.mp (hst'.message n b hb)) (n, a) (hst.message n a ha)
      (hok.nodes _ (h.mem_occurrences.mp (hst'.message n b hb)) _ (hst.message n a ha) rfl)
    rw [ha, hb, hab]
  · rw [AList.lookup_eq_none.mpr fun hm => hn ((hst.messages n).mp hm),
      AList.lookup_eq_none.mpr fun hm => hn (h.mem_nodeIds.mp ((hst'.messages n).mp hm))]

theorem SamePairs.componentEdges (h : SamePairs pairs pairs') (hok : Consistent pairs) (hrev : OneRevision pairs)
    (hst : Merges (occurrences pairs) pairs st) (hst' : Merges (occurrences pairs') pairs' st') (ns : List String) :
    componentEdges st' ns = componentEdges st ns := by
  have hsorted := @componentEdges_pairwise E T F m _ _ ns hst
  have hsorted' := @componentEdges_pairwise E T F m _ _ ns hst'
  have hnodup : ∀ {l : List (EvidenceEdge F)}, (l.Pairwise fun a b => a.edgeId < b.edgeId) → l.Nodup :=
    fun hl => hl.imp fun hlt heq => absurd hlt (by rw [heq]; exact lt_irrefl _)
  refine List.Perm.eq_of_pairwise (fun a b _ _ hab hba => absurd hab (not_lt.mpr (le_of_lt hba))) hsorted' hsorted ?_
  rw [List.perm_ext_iff_of_nodup (hnodup hsorted') (hnodup hsorted)]
  intro e
  rw [mem_componentEdges hst, mem_componentEdges hst', h.exists_edge hok hrev]

variable [LinearOrder T]

theorem SamePairs.incidentCandidate (h : SamePairs pairs pairs') (hok : Consistent pairs) (hrev : OneRevision pairs)
    (hst : Merges (occurrences pairs) pairs st) (hst' : Merges (occurrences pairs') pairs' st') (ns : List String) :
    incidentCandidate m st' ns = incidentCandidate m st ns := by
  have hnode : nodeOf st' = nodeOf st := by
    funext n
    rw [nodeOf, h.messages hok hrev hst hst', nodeOf]
  unfold AtlasPulse.incidentCandidate
  rw [hnode]
  simp only [h.componentEdges hok hrev hst hst']

end same

/-! ## Incidents of a state -/

variable [LinearOrder T]

theorem incidentCandidate_spec (h : Merges (occurrences pairs) pairs st) (hns : ComponentIds pairs ns) :
    ∃ i, incidentCandidate m st ns = .ok i ∧ Shows pairs ns i := by
  have hsorted : ns.insertionSort (· ≤ ·) = ns := List.Pairwise.insertionSort_eq (hns.sorted.imp le_of_lt)
  obtain ⟨n, hn, hmem⟩ := hns.component
  have hids : ∀ x ∈ ns, x ∈ nodeIds pairs := fun x hx => ((hmem x).mp hx).1
  obtain ⟨nodes, hnodes⟩ : ∃ nodes, ns.mapM (nodeOf st) = .ok nodes := by
    refine exists_mapM fun x hx => ?_
    obtain ⟨message, hlook⟩ := Option.isSome_iff_exists.mp (AList.lookup_isSome.mpr ((h.messages x).mpr (hids x hx)))
    exact ⟨⟨x, message⟩, nodeOf_ok.mpr ⟨rfl, hlook⟩⟩
  obtain ⟨hnodeIds, hmessages⟩ := nodes_spec hnodes
  have hself : n ∈ ns := (hmem n).mpr ⟨hn, .refl n⟩
  have htimes : nodes.map (fun node => m.occurredAt node.message.event) ≠ [] := by
    rw [← hnodeIds] at hself
    exact fun hnil => List.ne_nil_of_mem hself (by rw [List.map_eq_nil_iff.mp hnil, List.map_nil])
  have hedge : ∃ p ∈ pairs, (edgeFromPair p).fromNodeId ∈ ns ∧ (edgeFromPair p).toNodeId ∈ ns := by
    obtain ⟨x, hx, rfl⟩ := List.mem_map.mp hn
    obtain ⟨p, hp, hxp⟩ := mem_occurrences.mp hx
    have hlr := linked_ends hp
    have hboth : evidenceNodeId m p.left ∈ ns ∧ evidenceNodeId m p.right ∈ ns := by
      rcases hxp with rfl | rfl
      · exact ⟨hself, (hmem _).mpr ⟨List.mem_map_of_mem (right_mem hp), hlr⟩⟩
      · exact ⟨(hmem _).mpr ⟨List.mem_map_of_mem (left_mem hp), hlr.symm _ _⟩, hself⟩
    refine ⟨p, hp, ?_⟩
    rcases edgeFromPair_ends p with ⟨ha, hb⟩ | ⟨ha, hb⟩ <;> rw [ha, hb]
    · exact hboth
    · exact hboth.symm
  have hdistances : (componentEdges st ns).map (·.distanceKm) ≠ [] := by
    obtain ⟨p, hp, hends⟩ := hedge
    exact fun hnil => List.ne_nil_of_mem ((mem_componentEdges h).mpr ⟨⟨p, hp, rfl⟩, hends⟩) (List.map_eq_nil_iff.mp hnil)
  obtain ⟨started, -, hstarted⟩ := exists_bestOf (fun x best => decide (x < best)) htimes
  obtain ⟨latest, -, hlatest⟩ := exists_bestOf (fun x best => decide (best < x)) htimes
  obtain ⟨distance, -, hdistance⟩ := exists_bestOf (fun x best => m.float.lt best x) hdistances
  have hok : ∃ i, incidentCandidate m st ns = .ok i ∧ i.incidentId = contentId m.sha256 correlationRuleVersion "incident" ns ∧
      i.nodes = nodes ∧ i.edges = componentEdges st ns ∧
      i.sources = sortedUnique (nodes.map fun node => m.source node.message.event) := by
    simp only [incidentCandidate, hsorted, hnodes, hstarted, hlatest, hdistance, bind, Except.bind]
    exact ⟨_, rfl, rfl, rfl, rfl, rfl⟩
  obtain ⟨i, hi, hid, hn', he', hs⟩ := hok
  refine ⟨i, hi, hid, by rw [hn', hnodeIds], fun node hnode => ?_, fun e => ?_, ?_, by rw [hs, hn']⟩
  · rw [hn'] at hnode
    exact h.message _ _ (hmessages node hnode)
  · rw [he']
    exact mem_componentEdges h
  · rw [he']
    exact componentEdges_pairwise h

instance : Std.Total (incidentBefore (E := E) (T := T) (F := F)) := by
  refine ⟨fun a b => ?_⟩
  rcases lt_trichotomy a.latestSignalAt b.latestSignalAt with h | h | h
  · exact Or.inr (Or.inl h)
  · rcases le_total a.incidentId b.incidentId with hid | hid
    · exact Or.inr (Or.inr ⟨h, hid⟩)
    · exact Or.inl (Or.inr ⟨h.symm, hid⟩)
  · exact Or.inl (Or.inl h)

instance : IsTrans (IncidentCandidate E T F) incidentBefore := by
  refine ⟨?_⟩
  rintro a b c (hab | ⟨hab, hid⟩) (hbc | ⟨hbc, hid'⟩)
  · exact Or.inl (hbc.trans hab)
  · exact Or.inl (hbc ▸ hab)
  · exact Or.inl (hab ▸ hbc)
  · exact Or.inr ⟨hbc.trans hab, hid'.trans hid⟩

/-! ## A run of the function -/

variable [DecidableEq F]

/-- The `ValueError`s of the function. -/
def correlationErrors : List String := "incident limit must be between 1 and 100" :: conflictErrors

/-- **Acceptance.** Consistent pairs are accepted, and others are refused. -/
theorem buildIncidentCandidates_spec (batch : CorrelationBatch m) (limit : Int) :
    (1 ≤ limit ∧ limit ≤ 100 ∧ Consistent batch.pairs → ∃ st incidents, Merges (occurrences batch.pairs) batch.pairs st ∧
      (groups st).mapM (incidentCandidate m st) = .ok incidents ∧
      buildIncidentCandidates m batch limit = .ok
        { incidents := (incidents.insertionSort incidentBefore).take limit.toNat
          totalIncidents := incidents.length
          incidentsTruncated := limit < incidents.length
          candidateEdgesTruncated := batch.truncated }) ∧
      (¬ (1 ≤ limit ∧ limit ≤ 100 ∧ Consistent batch.pairs) →
        ∃ e ∈ correlationErrors, buildIncidentCandidates m batch limit = .error e) := by
  have hcheck : 1 ≤ limit ∧ limit ≤ 100 →
      check (1 ≤ limit && limit ≤ 100) "incident limit must be between 1 and 100" = .ok () := fun h =>
    check_eq_ok.mpr (by simpa using h)
  constructor
  · rintro ⟨hlow, hhigh, hok⟩
    obtain ⟨st, hst, h⟩ := (merge_spec batch.pairs).1 hok
    have hcomponents := components_spec h.grounded fun n hn => (h.parents n).mpr ((mem_sortedIds h).mp hn)
    obtain ⟨incidents, hincidents⟩ := exists_mapM (f := incidentCandidate m st) (l := groups st) fun ns hns => by
      obtain ⟨i, hi, -⟩ := incidentCandidate_spec h ((mem_groups_iff h).mp hns)
      exact ⟨i, hi⟩
    refine ⟨st, incidents, h, hincidents, ?_⟩
    have hmap : (groupsBy (root (parentOf st.parents)) (sortedIds st)).mapM (fun c => incidentCandidate m st c.2) =
        .ok incidents := List.mapM_map.symm.trans hincidents
    unfold sortedIds at hcomponents hmap
    simp only [buildIncidentCandidates, hcheck ⟨hlow, hhigh⟩, hst, hcomponents, hmap, bind, Except.bind,
      List.length_insertionSort]
  · intro hbad
    by_cases hlimit : 1 ≤ limit ∧ limit ≤ 100
    · obtain ⟨e, he, herror⟩ := (merge_spec batch.pairs).2 fun hok => hbad ⟨hlimit.1, hlimit.2, hok⟩
      refine ⟨e, List.mem_cons_of_mem _ he, ?_⟩
      simp only [buildIncidentCandidates, hcheck hlimit, herror, bind, Except.bind]
    · refine ⟨_, List.mem_cons_self, ?_⟩
      have hcheck' : check (1 ≤ limit && limit ≤ 100) "incident limit must be between 1 and 100" =
          .error "incident limit must be between 1 and 100" := by
        rw [check, if_neg (by simpa using hlimit)]
      simp only [buildIncidentCandidates, hcheck', bind, Except.bind]

/-! ## Connected components -/

/-- The signals, by node id, and the pairs between them. -/
def signalGraph (pairs : List (CorrelationPair m)) : SimpleGraph {n // n ∈ nodeIds pairs} :=
  SimpleGraph.fromRel fun a b => ∃ p ∈ pairs, evidenceNodeId m p.left = a ∧ evidenceNodeId m p.right = b

/-- The list has the node ids of the connected component. -/
def Covers (c : (signalGraph pairs).ConnectedComponent) (ns : List String) : Prop :=
  ∀ n, n ∈ ns ↔ ∃ h : n ∈ nodeIds pairs, (signalGraph pairs).connectedComponentMk ⟨n, h⟩ = c

omit [LinearOrder T] [DecidableEq F] in
theorem reachable_iff {a b : {n // n ∈ nodeIds pairs}} :
    (signalGraph pairs).Reachable a b ↔ Relation.EqvGen (Linked pairs) a b := by
  constructor
  · rintro ⟨walk⟩
    induction walk with
    | nil => exact .refl _
    | cons hadj _ ih =>
      refine Relation.EqvGen.trans _ _ _ ?_ ih
      obtain ⟨-, ⟨p, hp, ha, hb⟩ | ⟨p, hp, ha, hb⟩⟩ := (SimpleGraph.fromRel_adj _ _ _).mp hadj
      · rw [← ha, ← hb]
        exact linked_ends hp
      · rw [← ha, ← hb]
        exact (linked_ends hp).symm _ _
  · have hreach : ∀ x y, Relation.EqvGen (Linked pairs) x y → (x ∈ nodeIds pairs ↔ y ∈ nodeIds pairs) ∧
        ∀ hx hy, (signalGraph pairs).Reachable ⟨x, hx⟩ ⟨y, hy⟩ := by
      intro x y hxy
      induction hxy with
      | rel x y hlinked =>
        obtain ⟨p, hp, rfl, rfl⟩ := hlinked
        refine ⟨iff_of_true (ends_mem hp).1 (ends_mem hp).2, fun hx hy => ?_⟩
        by_cases heq : (edgeFromPair p).fromNodeId = (edgeFromPair p).toNodeId
        · simp only [heq]
          exact .refl _
        · refine SimpleGraph.Adj.reachable ((SimpleGraph.fromRel_adj _ _ _).mpr ⟨fun h => heq (congrArg Subtype.val h), ?_⟩)
          rcases edgeFromPair_ends p with ⟨ha, hb⟩ | ⟨ha, hb⟩
          · exact Or.inl ⟨p, hp, ha.symm, hb.symm⟩
          · exact Or.inr ⟨p, hp, hb.symm, ha.symm⟩
      | refl x => exact ⟨Iff.rfl, fun _ _ => .refl _⟩
      | symm x y _ ih => exact ⟨ih.1.symm, fun hx hy => (ih.2 hy hx).symm⟩
      | trans x y z _ _ ih ih' =>
        exact ⟨ih.1.trans ih'.1, fun hx hz => (ih.2 hx (ih.1.mp hx)).trans (ih'.2 (ih.1.mp hx) hz)⟩
    exact fun h => (hreach _ _ h).2 a.2 b.2

omit [LinearOrder T] [DecidableEq F] in
theorem ComponentIds.covers (h : ComponentIds pairs ns) {n : String} (hn : n ∈ ns) :
    ∃ hmem : n ∈ nodeIds pairs, Covers ((signalGraph pairs).connectedComponentMk ⟨n, hmem⟩) ns := by
  obtain ⟨a, -, hmem⟩ := h.component
  obtain ⟨hn, han⟩ := (hmem n).mp hn
  refine ⟨hn, fun x => ?_⟩
  rw [hmem]
  constructor
  · rintro ⟨hx, hax⟩
    exact ⟨hx, SimpleGraph.ConnectedComponent.eq.mpr (reachable_iff.mpr ((hax.symm _ _).trans _ _ _ han))⟩
  · rintro ⟨hx, heq⟩
    exact ⟨hx, han.trans _ _ _ ((reachable_iff.mp (SimpleGraph.ConnectedComponent.eq.mp heq)).symm _ _)⟩

omit [LinearOrder T] [DecidableEq F] in
theorem exists_group (h : Merges (occurrences pairs) pairs st) {n : String} (hn : n ∈ nodeIds pairs) :
    ∃ ns ∈ groups st, n ∈ ns :=
  ⟨_, mem_groups.mpr ⟨n, (mem_sortedIds h).mpr hn, rfl⟩,
    List.mem_filter.mpr ⟨(mem_sortedIds h).mpr hn, decide_eq_true rfl⟩⟩

omit [LinearOrder T] [DecidableEq F] in
theorem ComponentIds.exists_mem (h : ComponentIds pairs ns) : ∃ n, n ∈ ns := by
  obtain ⟨n, hn, hmem⟩ := h.component
  exact ⟨n, (hmem n).mpr ⟨hn, .refl n⟩⟩

omit [LinearOrder T] [DecidableEq F] in
/-- There are as many groups as connected components. -/
theorem card_components (h : Merges (occurrences pairs) pairs st) :
    (groups st).length = Nat.card (signalGraph pairs).ConnectedComponent := by
  have hnodup := groups_nodup st
  have hcover : ∀ ns : {ns // ns ∈ (groups st).toFinset}, ∃ c, @Covers E T F m pairs c ns.val := by
    intro ⟨ns, hns⟩
    have hc := (mem_groups_iff h).mp (List.mem_toFinset.mp hns)
    obtain ⟨n, hn⟩ := hc.exists_mem
    obtain ⟨hmem, hcovers⟩ := hc.covers hn
    exact ⟨_, hcovers⟩
  choose component hcomponent using hcover
  have hbij : Function.Bijective component := by
    constructor
    · rintro ⟨ns, hns⟩ ⟨ns', hns'⟩ heq
      have hc := (mem_groups_iff h).mp (List.mem_toFinset.mp hns)
      have hc' := (mem_groups_iff h).mp (List.mem_toFinset.mp hns')
      obtain ⟨n, hn⟩ := hc.exists_mem
      have hmem := (hcomponent ⟨ns, hns⟩ n).mp hn
      rw [heq] at hmem
      exact Subtype.ext (hc.eq hc' hn ((hcomponent ⟨ns', hns'⟩ n).mpr hmem))
    · intro c
      induction c using SimpleGraph.ConnectedComponent.ind with
      | h v =>
        obtain ⟨ns, hns, hn⟩ := exists_group h v.2
        refine ⟨⟨ns, List.mem_toFinset.mpr hns⟩, ?_⟩
        obtain ⟨_, heq⟩ := (hcomponent ⟨ns, List.mem_toFinset.mpr hns⟩ v.val).mp hn
        exact heq.symm
  rw [← Nat.card_eq_of_bijective component hbij, Nat.card_eq_fintype_card, Fintype.card_coe, List.toFinset_card_of_nodup hnodup]

/-- The incidents of the pairs: one for each connected component, in the order
of the response. -/
structure ComponentIncidents (pairs : List (CorrelationPair m)) (all : List (IncidentCandidate E T F)) : Prop where
  count : all.length = Nat.card (signalGraph pairs).ConnectedComponent
  component : ∀ i ∈ all, ∃ c : (signalGraph pairs).ConnectedComponent, Covers c (i.nodes.map (·.nodeId))
  covered : ∀ c : (signalGraph pairs).ConnectedComponent, ∃ i ∈ all, Covers c (i.nodes.map (·.nodeId))
  signal : ∀ x ∈ occurrences pairs, ∃! i, i ∈ all ∧ ⟨x.1, x.2⟩ ∈ i.nodes
  nodes : ∀ i ∈ all, (i.nodes.map (·.nodeId)).Nodup ∧ ∀ node ∈ i.nodes, (node.nodeId, node.message) ∈ occurrences pairs
  edge : ∀ p ∈ pairs, ∃! i, i ∈ all ∧ edgeFromPair p ∈ i.edges
  edges : ∀ i ∈ all, i.edges.Nodup ∧ ∀ e ∈ i.edges, ∃ p ∈ pairs, edgeFromPair p = e
  sources : ∀ i ∈ all, 2 ≤ i.sources.length
  order : all.Pairwise fun a b => b.latestSignalAt < a.latestSignalAt ∨
    (b.latestSignalAt = a.latestSignalAt ∧ b.incidentId < a.incidentId)

omit [DecidableEq F] in
theorem componentIncidents {incidents : List (IncidentCandidate E T F)} (hok : Consistent pairs) (hrev : OneRevision pairs)
    (hid : Set.InjOn (contentId m.sha256 correlationRuleVersion "incident") {ids | ids.Nodup ∧ ∀ n ∈ ids, n ∈ nodeIds pairs})
    (h : Merges (occurrences pairs) pairs st) (hincidents : (groups st).mapM (incidentCandidate m st) = .ok incidents) :
    ComponentIncidents pairs (incidents.insertionSort incidentBefore) := by
  have hshows : ∀ i ∈ incidents, ∃ ns, ComponentIds pairs ns ∧ incidentCandidate m st ns = .ok i ∧ Shows pairs ns i := by
    intro i hi
    obtain ⟨ns, hns, hcandidate⟩ := (mem_mapM hincidents).1 i hi
    have hns := (mem_groups_iff h).mp hns
    obtain ⟨i', hi', hshows⟩ := incidentCandidate_spec h hns
    obtain rfl := Except.ok.inj (hi'.symm.trans hcandidate)
    exact ⟨ns, hns, hcandidate, hshows⟩
  have hgroup : ∀ n ∈ nodeIds pairs, ∃ ns, n ∈ ns ∧ ComponentIds pairs ns ∧ ∃ i ∈ incidents, Shows pairs ns i := by
    intro n hn
    obtain ⟨ns, hns, hmem⟩ := exists_group h hn
    obtain ⟨i, hi, hcandidate⟩ := (mem_mapM hincidents).2 ns hns
    have hns := (mem_groups_iff h).mp hns
    obtain ⟨i', hi', hshows⟩ := incidentCandidate_spec h hns
    obtain rfl := Except.ok.inj (hi'.symm.trans hcandidate)
    exact ⟨ns, hmem, hns, i', hi, hshows⟩
  have hsame : ∀ i ∈ incidents, ∀ i' ∈ incidents, ∀ n, n ∈ i.nodes.map (·.nodeId) → n ∈ i'.nodes.map (·.nodeId) → i = i' := by
    intro i hi i' hi' n hn hn'
    obtain ⟨ns, hns, hcandidate, hs⟩ := hshows i hi
    obtain ⟨ns', hns', hcandidate', hs'⟩ := hshows i' hi'
    rw [hs.nodes] at hn
    rw [hs'.nodes] at hn'
    obtain rfl := hns.eq hns' hn hn'
    exact Except.ok.inj (hcandidate.symm.trans hcandidate')
  constructor
  case count =>
    rw [List.length_insertionSort, ← card_components h, (mapM_ok.mp hincidents).length_eq]
  case component =>
    intro i hi
    obtain ⟨ns, hns, -, hs⟩ := hshows i ((List.mem_insertionSort _).mp hi)
    obtain ⟨n, hn⟩ := hns.exists_mem
    obtain ⟨hmem, hcovers⟩ := hns.covers hn
    rw [hs.nodes]
    exact ⟨_, hcovers⟩
  case covered =>
    intro c
    induction c using SimpleGraph.ConnectedComponent.ind with
    | h v =>
      obtain ⟨ns, hmem, hns, i, hi, hs⟩ := hgroup v.val v.2
      obtain ⟨_, hcovers⟩ := hns.covers hmem
      refine ⟨i, (List.mem_insertionSort _).mpr hi, ?_⟩
      rw [hs.nodes]
      exact hcovers
  case signal =>
    intro x hx
    obtain ⟨ns, hmem, hns, i, hi, hs⟩ := hgroup x.1 (List.mem_map_of_mem hx)
    refine ⟨i, ⟨(List.mem_insertionSort _).mpr hi, ?_⟩, ?_⟩
    · rw [← hs.nodes] at hmem
      obtain ⟨node, hnode, heq⟩ := List.mem_map.mp hmem
      have hmessage : node.message = x.2 := message_eq hok hrev (hs.messages node hnode) hx heq
      rw [← heq, ← hmessage]
      exact hnode
    · rintro i' ⟨hi', hnode⟩
      refine hsame i' ((List.mem_insertionSort _).mp hi') i hi x.1 (List.mem_map_of_mem hnode) ?_
      rw [hs.nodes]
      exact hmem
  case nodes =>
    intro i hi
    obtain ⟨ns, hns, -, hs⟩ := hshows i ((List.mem_insertionSort _).mp hi)
    rw [hs.nodes]
    exact ⟨hns.sorted.imp ne_of_lt, hs.messages⟩
  case edge =>
    intro p hp
    obtain ⟨ns, hmem, hns, i, hi, hs⟩ := hgroup _ (ends_mem hp).1
    obtain ⟨n, -, hcomponent⟩ := hns.component
    have hto : (edgeFromPair p).toNodeId ∈ ns :=
      (hcomponent _).mpr ⟨(ends_mem hp).2, ((hcomponent _).mp hmem).2.trans _ _ _ (.rel _ _ ⟨p, hp, rfl, rfl⟩)⟩
    refine ⟨i, ⟨(List.mem_insertionSort _).mpr hi, (hs.edges _).mpr ⟨⟨p, hp, rfl⟩, hmem, hto⟩⟩, ?_⟩
    rintro i' ⟨hi', hedge⟩
    have hi' := (List.mem_insertionSort _).mp hi'
    obtain ⟨ns', hns', -, hs'⟩ := hshows i' hi'
    refine hsame i' hi' i hi (edgeFromPair p).fromNodeId ?_ ?_
    · rw [hs'.nodes]
      exact ((hs'.edges _).mp hedge).2.1
    · rw [hs.nodes]
      exact hmem
  case edges =>
    intro i hi
    obtain ⟨ns, hns, -, hs⟩ := hshows i ((List.mem_insertionSort _).mp hi)
    refine ⟨hs.edgesSorted.imp fun hlt heq => absurd hlt (by rw [heq]; exact lt_irrefl _), fun e he => ((hs.edges e).mp he).1⟩
  case sources =>
    intro i hi
    obtain ⟨ns, hns, -, hs⟩ := hshows i ((List.mem_insertionSort _).mp hi)
    obtain ⟨n, hn, hcomponent⟩ := hns.component
    obtain ⟨x, hx, rfl⟩ := List.mem_map.mp hn
    obtain ⟨p, hp, hxp⟩ := mem_occurrences.mp hx
    have hlr := linked_ends hp
    have hboth : evidenceNodeId m p.left ∈ ns ∧ evidenceNodeId m p.right ∈ ns := by
      rcases hxp with rfl | rfl
      · exact ⟨(hcomponent _).mpr ⟨hn, .refl _⟩, (hcomponent _).mpr ⟨List.mem_map_of_mem (right_mem hp), hlr⟩⟩
      · exact ⟨(hcomponent _).mpr ⟨List.mem_map_of_mem (left_mem hp), hlr.symm _ _⟩, (hcomponent _).mpr ⟨hn, .refl _⟩⟩
    have hsource : ∀ message : StreamMessage E, (evidenceNodeId m message, message) ∈ occurrences pairs →
        evidenceNodeId m message ∈ ns → m.source message.event ∈ i.sources := by
      intro message hocc hmem
      rw [← hs.nodes] at hmem
      obtain ⟨node, hnode, heq⟩ := List.mem_map.mp hmem
      have hmessage : node.message = message := message_eq hok hrev (hs.messages node hnode) hocc heq
      rw [hs.sources, sortedUnique, List.mem_insertionSort, List.mem_dedup]
      exact List.mem_map.mpr ⟨node, hnode, by rw [hmessage]⟩
    have hl := hsource p.left (left_mem hp) hboth.1
    have hr := hsource p.right (right_mem hp) hboth.2
    by_contra hshort
    match hi : i.sources with
    | [] => simp [hi] at hl
    | [s] =>
      rw [hi, List.mem_singleton] at hl hr
      exact p.crossSource (hl.trans hr.symm)
    | _ :: _ :: _ => simp [hi] at hshort
  case order =>
    have hsorted : (incidents.insertionSort incidentBefore).Pairwise incidentBefore := List.pairwise_insertionSort _ _
    have hids : ∀ i ∈ incidents, ∀ i' ∈ incidents, i.incidentId = i'.incidentId → i = i' := by
      intro i hi i' hi' heq
      obtain ⟨ns, hns, hcandidate, hs⟩ := hshows i hi
      obtain ⟨ns', hns', hcandidate', hs'⟩ := hshows i' hi'
      rw [hs.incidentId, hs'.incidentId] at heq
      have hall : ∀ {ns}, ComponentIds pairs ns → ns ∈ {ids | ids.Nodup ∧ ∀ n ∈ ids, n ∈ nodeIds pairs} := by
        intro ns hc
        obtain ⟨_, _, hmem⟩ := hc.component
        exact ⟨hc.sorted.imp ne_of_lt, fun n hn => ((hmem n).mp hn).1⟩
      obtain rfl := hid (hall hns) (hall hns') heq
      exact Except.ok.inj (hcandidate.symm.trans hcandidate')
    have hnodup : (incidents.insertionSort incidentBefore).Nodup := by
      rw [(List.perm_insertionSort _ _).nodup_iff]
      have hcandidates := (List.forall₂_and_left _ _).mpr ⟨fun ns hns => (mem_groups_iff h).mp hns, mapM_ok.mp hincidents⟩
      have hnodes : List.Forall₂ (· = ·) (groups st) (incidents.map fun i => i.nodes.map (·.nodeId)) := by
        refine List.forall₂_map_right_iff.mpr (hcandidates.imp ?_)
        rintro ns i ⟨hns, hcandidate⟩
        obtain ⟨i', hi', hs⟩ := incidentCandidate_spec h hns
        obtain rfl := Except.ok.inj (hi'.symm.trans hcandidate)
        exact hs.nodes.symm
      rw [List.forall₂_eq_eq_eq] at hnodes
      exact List.Nodup.of_map _ (hnodes ▸ groups_nodup st)
    refine (hsorted.and hnodup).imp_of_mem fun ha hb ⟨hle, hne⟩ => ?_
    rcases hle with hlt | ⟨heq, hle⟩
    · exact Or.inl hlt
    · refine Or.inr ⟨heq, lt_of_le_of_ne hle fun heqid => hne ?_⟩
      exact hids _ ((List.mem_insertionSort _).mp ha) _ ((List.mem_insertionSort _).mp hb) heqid.symm

/-- **Incidents are connected components.** The incidents of accepted pairs,
before the limit cuts them, are one for each connected component of the graph of
signals and pairs; the result depends on the pairs only up to order, repetition
and direction. -/
theorem incidents_are_components {batch : CorrelationBatch m} {limit : Int} {result : CorrelationResult E T F}
    (hok : buildIncidentCandidates m batch limit = .ok result) (hrev : OneRevision batch.pairs)
    (hid : Set.InjOn (contentId m.sha256 correlationRuleVersion "incident")
      {ids | ids.Nodup ∧ ∀ n ∈ ids, n ∈ nodeIds batch.pairs}) :
    (1 ≤ limit ∧ limit ≤ 100) ∧
    result.totalIncidents = Nat.card (signalGraph batch.pairs).ConnectedComponent ∧
    (∃ all, ComponentIncidents batch.pairs all ∧ result.incidents = all.take limit.toNat ∧
      result.incidentsTruncated = decide (limit < all.length) ∧
      (result.incidentsTruncated = false → result.incidents = all)) ∧
    ∀ pairs', SamePairs batch.pairs pairs' →
      buildIncidentCandidates m ⟨pairs', batch.truncated⟩ limit = .ok result := by
  have haccepted : 1 ≤ limit ∧ limit ≤ 100 ∧ Consistent batch.pairs := by
    by_contra hbad
    obtain ⟨e, -, herror⟩ := (buildIncidentCandidates_spec batch limit).2 hbad
    rw [herror] at hok
    cases hok
  obtain ⟨hlow, hhigh, hcons⟩ := haccepted
  obtain ⟨st, incidents, h, hincidents, hresult⟩ := (buildIncidentCandidates_spec batch limit).1 ⟨hlow, hhigh, hcons⟩
  obtain rfl := Except.ok.inj (hresult.symm.trans hok)
  have hall := componentIncidents hcons hrev hid h hincidents
  have hlength : (incidents.insertionSort incidentBefore).length = incidents.length := List.length_insertionSort _ _
  refine ⟨⟨hlow, hhigh⟩, by rw [← hall.count, hlength], ⟨_, hall, rfl, by rw [hlength], fun htrunc => ?_⟩, fun pairs' hsame => ?_⟩
  · refine List.take_of_length_le ?_
    have := of_decide_eq_false htrunc
    omega
  · obtain ⟨st', incidents', h', hincidents', hresult'⟩ :=
      (buildIncidentCandidates_spec ⟨pairs', batch.truncated⟩ limit).1 ⟨hlow, hhigh, hsame.consistent hcons hrev⟩
    have hgroups : (groups st').Perm (groups st) := by
      rw [List.perm_ext_iff_of_nodup (groups_nodup st') (groups_nodup st)]
      intro ns
      rw [mem_groups_iff h, mem_groups_iff h', hsame.componentIds hcons hrev]
    have hcandidate : incidentCandidate m st' = incidentCandidate m st := by
      funext ns
      exact hsame.incidentCandidate hcons hrev h h' ns
    rw [hcandidate] at hincidents'
    obtain ⟨w, hw, hperm⟩ := List.perm_comp_forall₂ hgroups (mapM_ok.mp hincidents)
    obtain rfl := Except.ok.inj (hincidents'.symm.trans (mapM_ok.mpr hw))
    have hsorted : incidents'.insertionSort incidentBefore = incidents.insertionSort incidentBefore := by
      have hperm' : (incidents'.insertionSort incidentBefore).Perm (incidents.insertionSort incidentBefore) :=
        ((List.perm_insertionSort _ _).trans hperm).trans (List.perm_insertionSort _ _).symm
      refine hperm'.eq_of_pairwise ?_ (List.pairwise_insertionSort _ _) (List.pairwise_insertionSort _ _)
      have hstrict := hall.order.imp (S := fun a b => incidentBefore a b → incidentBefore b a → a = b) fun hlt _ hle => by
        rcases hlt with hlt | ⟨heq, hlt⟩ <;> rcases hle with hle | ⟨heq', hle⟩
        · exact absurd hlt (lt_asymm hle)
        · exact absurd hlt (by rw [heq']; exact lt_irrefl _)
        · exact absurd hle (by rw [heq]; exact lt_irrefl _)
        · exact absurd hlt (not_lt.mpr hle)
      have : Std.Symm fun a b : IncidentCandidate E T F => incidentBefore a b → incidentBefore b a → a = b :=
        ⟨fun a b hab hba hab' => (hab hab' hba).symm⟩
      have hanti := hstrict.forall_of_forall fun _ _ _ _ => rfl
      exact fun a b ha hb => hanti (hperm'.mem_iff.mp ha) hb
    rw [hresult', hsorted, hperm.length_eq]

end

namespace QuakeAndWarning

structure Signal where
  source : String
  eventId : String
  occurredAt : Nat
  deriving DecidableEq

def digest (text : String) : String :=
  if text = "spatiotemporal-v1\n" then "65d940ec87ed4fc342053b0b9613fa3fe7deaae5d7d85c6e02b18dae3dcd2080"
  else if text = "spatiotemporal-v1\nnws:warning" then "700ab588d997ca1ca0ca8354abe7ecdcd589c02e0dda147df4d1bc1c547fc46e"
  else if text = "spatiotemporal-v1\nusgs:quake" then "4e9d45c0e5158890ae132e4132cfcfbf778b9ad238610d7b3b85600b992b0c4f"
  else if text = "spatiotemporal-v1\nnws:warning\nusgs:quake" then
    "bebbc6f85d13d4534fe2b5aa0c64e663f9f5f2d2d7d5764d02bcc8725f9240f5"
  else "8902a53dabbc5029bfabbf3407b17bba490bc51a81c6e2877e348f53d846507e"

def floats : FloatOps Rat where
  ofRat := id
  isfinite := fun _ => true
  lt := fun a b => a < b
  le := fun a b => a ≤ b
  abs := fun a => |a|
  mul := (· * ·)
  div := (· / ·)
  sum := List.sum
  radians := id
  degrees := id
  cos := id
  sin := id
  hypot := fun a _ => a
  atan2 := fun a _ => a
  round := fun a _ => a

def signals : SignalModel Signal Nat Rat where
  eventId := Signal.eventId
  source := Signal.source
  modelDump := fun _ => .null
  modelDumpJson := fun _ => ""
  modelValidateJson := fun _ => .error "not stored"
  sha256 := digest
  float := floats
  eventType := Signal.source
  occurredAt := Signal.occurredAt
  location := fun _ => none
  payload := fun _ _ => none
  totalSeconds := fun a b => (b : Rat) - a

def pair : CorrelationPair signals where
  left := ⟨"1-0", ⟨"usgs", "quake", 60⟩⟩
  right := ⟨"2-0", ⟨"nws", "warning", 180⟩⟩
  distanceKm := 4
  timeDeltaMinutes := 2
  leftGeometryBasis := .point
  rightGeometryBasis := .polygon
  crossSource := by decide
  measured := by decide +kernel

def batch : CorrelationBatch signals := ⟨[pair, pair.swap], false⟩

theorem mem_pair {x : String × StreamMessage Signal} (h : x ∈ occurrences [pair]) :
    x = ("usgs:quake", pair.left) ∨ x = ("nws:warning", pair.right) := by
  obtain ⟨p, hp, hx⟩ := mem_occurrences.mp h
  rw [List.mem_singleton.mp hp] at hx
  exact hx

theorem oneRevision : OneRevision [pair] := by
  intro x hx y hy heq
  rcases mem_pair hx with rfl | rfl <;> rcases mem_pair hy with rfl | rfl
  · rfl
  · exact absurd heq (by decide)
  · exact absurd heq (by decide)
  · rfl

theorem consistent : Consistent [pair] where
  nodes x hx y hy heq := by
    rcases mem_pair hx with rfl | rfl <;> rcases mem_pair hy with rfl | rfl
    · rfl
    · exact absurd heq (by decide)
    · exact absurd heq (by decide)
    · rfl
  edges p hp q hq _ := by rw [List.mem_singleton.mp hp, List.mem_singleton.mp hq]

theorem samePairs : SamePairs [pair] batch.pairs := by
  constructor
  · intro p hp
    exact Or.inl (by rw [List.mem_singleton.mp hp]; exact List.mem_cons_self)
  · intro p hp
    rcases List.mem_cons.mp hp with rfl | hp
    · exact Or.inl List.mem_cons_self
    · rw [List.mem_singleton.mp hp]
      exact Or.inr List.mem_cons_self

theorem oneRevision_batch : OneRevision batch.pairs := fun x hx y hy =>
  oneRevision x (samePairs.mem_occurrences.mp hx) y (samePairs.mem_occurrences.mp hy)

theorem ids_cases {ids : List String} (h : ids.Nodup ∧ ∀ n ∈ ids, n ∈ nodeIds batch.pairs) :
    ids ∈ [[], ["usgs:quake"], ["nws:warning"], ["usgs:quake", "nws:warning"], ["nws:warning", "usgs:quake"]] := by
  obtain ⟨hnodup, hmem⟩ := h
  have hids : ∀ n ∈ ids, n = "usgs:quake" ∨ n = "nws:warning" := by
    intro n hn
    obtain ⟨x, hx, rfl⟩ := List.mem_map.mp (hmem n hn)
    exact (mem_pair (samePairs.mem_occurrences.mp hx)).imp (fun h => by rw [h]) fun h => by rw [h]
  match ids with
  | [] => simp
  | [a] => rcases hids a (by simp) with rfl | rfl <;> simp
  | [a, b] =>
    rcases hids a (by simp) with rfl | rfl <;> rcases hids b (by simp) with rfl | rfl <;> simp at hnodup ⊢
  | a :: b :: c :: ids =>
    rcases hids a (by simp) with rfl | rfl <;> rcases hids b (by simp) with rfl | rfl <;>
      rcases hids c (by simp) with rfl | rfl <;> simp at hnodup

theorem contentId_injOn : Set.InjOn (contentId signals.sha256 correlationRuleVersion "incident")
    {ids | ids.Nodup ∧ ∀ n ∈ ids, n ∈ nodeIds batch.pairs} := by
  have hdistinct : ∀ a ∈ [[], ["usgs:quake"], ["nws:warning"], ["usgs:quake", "nws:warning"], ["nws:warning", "usgs:quake"]],
      ∀ b ∈ [[], ["usgs:quake"], ["nws:warning"], ["usgs:quake", "nws:warning"], ["nws:warning", "usgs:quake"]],
      contentId signals.sha256 correlationRuleVersion "incident" a =
        contentId signals.sha256 correlationRuleVersion "incident" b → a = b := by decide
  exact fun a ha b hb => hdistinct a (ids_cases ha) b (ids_cases hb)

end QuakeAndWarning

theorem incidents_are_components_quake : ∃ result,
    buildIncidentCandidates QuakeAndWarning.signals QuakeAndWarning.batch 10 = .ok result ∧
      result.totalIncidents = Nat.card (signalGraph QuakeAndWarning.batch.pairs).ConnectedComponent ∧
      buildIncidentCandidates QuakeAndWarning.signals ⟨[QuakeAndWarning.pair], false⟩ 10 = .ok result := by
  have hcons := QuakeAndWarning.samePairs.consistent QuakeAndWarning.consistent QuakeAndWarning.oneRevision
  obtain ⟨st, incidents, -, -, hok⟩ := (buildIncidentCandidates_spec QuakeAndWarning.batch 10).1 ⟨by decide, by decide, hcons⟩
  obtain ⟨-, htotal, -, hsame⟩ :=
    incidents_are_components hok QuakeAndWarning.oneRevision_batch QuakeAndWarning.contentId_injOn
  exact ⟨_, hok, htotal, hsame [QuakeAndWarning.pair] ⟨QuakeAndWarning.samePairs.2, QuakeAndWarning.samePairs.1⟩⟩

end AtlasPulse
