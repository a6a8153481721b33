import Mathlib

/-!
# Validation

Models are built by validators, which raise the first error they find.
-/

namespace AtlasPulse

/-- The first failing check decides the message of the `ValueError`. -/
def check (ok : Bool) (message : String) : Except String Unit :=
  if ok then .ok () else .error message

theorem check_eq_ok {ok : Bool} {message : String} : check ok message = .ok () ↔ ok = true := by
  cases ok <;> simp [check]

theorem bind_unit_ok {x : Except String Unit} {f : Unit → Except String Unit} :
    (x >>= f) = .ok () ↔ x = .ok () ∧ f () = .ok () := by
  cases x with
  | error e => simp [bind, Except.bind]
  | ok u => simp [bind, Except.bind]

theorem exists_unit {p : Unit → Prop} : (∃ u, p u) ↔ p () := ⟨fun ⟨_, h⟩ => h, fun h => ⟨(), h⟩⟩

theorem bind_ok {α β : Type} {x : Except String α} {f : α → Except String β} {b : β} :
    (x >>= f) = .ok b ↔ ∃ a, x = .ok a ∧ f a = .ok b := by
  cases x with
  | error e => simp [bind, Except.bind]
  | ok a => simp [bind, Except.bind]

theorem map_ok {α β : Type} {x : Except String α} {f : α → β} {b : β} : x.map f = .ok b ↔ ∃ a, x = .ok a ∧ f a = b := by
  cases x with
  | error e => simp [Except.map]
  | ok a => simp [Except.map]

theorem forM_ok {α : Type} {o : Option α} {f : α → Except String Unit} : o.forM f = .ok () ↔ ∀ a ∈ o, f a = .ok () := by
  cases o <;> simp [Option.forM, pure, Except.pure]

theorem listForM_ok {α : Type} {l : List α} {f : α → Except String Unit} : l.forM f = .ok () ↔ ∀ a ∈ l, f a = .ok () := by
  induction l with
  | nil => exact ⟨fun _ _ ha => absurd ha List.not_mem_nil, fun _ => rfl⟩
  | cons a l ih =>
    show (f a >>= fun _ => l.forM f) = .ok () ↔ _
    rw [bind_unit_ok, ih, List.forall_mem_cons]

theorem mapM_ok {ε α β : Type} {f : α → Except ε β} : ∀ {l : List α} {r : List β},
    l.mapM f = .ok r ↔ List.Forall₂ (fun a b => f a = .ok b) l r
  | [], r => by
    rw [List.mapM_nil]
    constructor
    · intro h
      rw [← Except.ok.inj h]
      exact List.Forall₂.nil
    · rintro ⟨⟩
      rfl
  | a :: l, r => by
    rw [List.mapM_cons]
    constructor
    · intro h
      cases ha : f a with
      | error e => rw [ha] at h; cases h
      | ok b =>
        cases hl : l.mapM f with
        | error e => rw [ha, hl] at h; cases h
        | ok r' =>
          rw [ha, hl] at h
          rw [← Except.ok.inj h]
          exact List.Forall₂.cons ha (mapM_ok.mp hl)
    · intro h
      cases h with
      | cons ha hl =>
        rw [ha, mapM_ok.mpr hl]
        rfl

theorem mapM_of_ok {α β : Type} {f : α → Except String β} {g : α → β} {l : List α} (h : ∀ a ∈ l, f a = .ok (g a)) :
    l.mapM f = .ok (l.map g) := by
  induction l with
  | nil => rfl
  | cons a l ih =>
    rw [List.mapM_cons, h a List.mem_cons_self, ih fun b hb => h b (List.mem_cons_of_mem _ hb)]
    rfl

theorem mem_mapM {α β : Type} {f : α → Except String β} {l : List α} {r : List β} (h : l.mapM f = .ok r) :
    (∀ b ∈ r, ∃ a ∈ l, f a = .ok b) ∧ ∀ a ∈ l, ∃ b ∈ r, f a = .ok b := by
  have hr := mapM_ok.mp h
  clear h
  induction hr with
  | nil => exact ⟨fun _ hb => absurd hb List.not_mem_nil, fun _ ha => absurd ha List.not_mem_nil⟩
  | @cons a b l r hab _ ih =>
    refine ⟨List.forall_mem_cons.mpr ⟨⟨a, List.mem_cons_self, hab⟩, fun c hc => ?_⟩,
      List.forall_mem_cons.mpr ⟨⟨b, List.mem_cons_self, hab⟩, fun c hc => ?_⟩⟩
    · obtain ⟨x, hx, hxc⟩ := ih.1 c hc
      exact ⟨x, List.mem_cons_of_mem _ hx, hxc⟩
    · obtain ⟨x, hx, hxc⟩ := ih.2 c hc
      exact ⟨x, List.mem_cons_of_mem _ hx, hxc⟩

theorem exists_mapM {α β : Type} {f : α → Except String β} {l : List α} (h : ∀ a ∈ l, ∃ b, f a = .ok b) :
    ∃ r, l.mapM f = .ok r := by
  induction l with
  | nil => exact ⟨[], rfl⟩
  | cons a l ih =>
    obtain ⟨b, hb⟩ := h a List.mem_cons_self
    obtain ⟨r, hr⟩ := ih fun c hc => h c (List.mem_cons_of_mem _ hc)
    refine ⟨b :: r, ?_⟩
    rw [List.mapM_cons, hb, hr]
    rfl

theorem exists_mapM_forall {α β : Type} {f : α → Except String β} {S : α → β → Prop} {l : List α}
    (h : ∀ a ∈ l, ∃ b, f a = .ok b ∧ S a b) : ∃ r, l.mapM f = .ok r ∧ List.Forall₂ S l r := by
  induction l with
  | nil => exact ⟨[], rfl, .nil⟩
  | cons a l ih =>
    obtain ⟨⟨b, hb, hs⟩, hrest⟩ := List.forall_mem_cons.mp h
    obtain ⟨r, hr, hall⟩ := ih hrest
    exact ⟨b :: r, mapM_ok.mpr (.cons hb (mapM_ok.mp hr)), .cons hs hall⟩

/-- What the results say of the elements that they are of. -/
theorem map_of_mapM {α β γ : Type} {f : α → Except String β} {g : β → γ} {k : α → γ} {l : List α} {r : List β}
    (h : l.mapM f = .ok r) (hg : ∀ a ∈ l, ∀ b, f a = .ok b → g b = k a) : r.map g = l.map k := by
  have hr := mapM_ok.mp h
  clear h
  induction hr with
  | nil => rfl
  | cons hab _ ih =>
    rw [List.map_cons, List.map_cons, hg _ List.mem_cons_self _ hab, ih fun a ha => hg a (List.mem_cons_of_mem _ ha)]

theorem foldlM_snoc {α σ : Type} (f : σ → α → Except String σ) (l : List α) (a : α) (s : σ) :
    (l ++ [a]).foldlM f s = (l.foldlM f s >>= fun t => f t a) := by
  rw [List.foldlM_append]
  cases l.foldlM f s with
  | error e => rfl
  | ok t =>
    show ([a] : List α).foldlM f t = f t a
    rw [List.foldlM_cons]
    cases f t a <;> rfl

/-- A loop whose steps are accepted on a condition, from the states that the
loop can be in. -/
theorem foldlM_iff {α σ : Type} {f : σ → α → Except String σ} {I : List α → σ → Prop} {P : α → Prop} {l : List α} {s : σ}
    (hinit : I [] s)
    (step : ∀ before a t, before ++ [a] <+: l → I before t →
      ((∃ t', f t a = .ok t') ↔ P a) ∧ ∀ t', f t a = .ok t' → I (before ++ [a]) t') :
    ((∃ t, l.foldlM f s = .ok t) ↔ ∀ a ∈ l, P a) ∧ ∀ t, l.foldlM f s = .ok t → I l t := by
  induction l using List.reverseRecOn with
  | nil =>
    refine ⟨⟨fun _ _ ha => absurd ha List.not_mem_nil, fun _ => ⟨s, rfl⟩⟩, fun t ht => ?_⟩
    rw [← Except.ok.inj ht]
    exact hinit
  | append_singleton l a ih =>
    obtain ⟨hiff, hinv⟩ := ih fun before b t hbefore => step before b t (hbefore.trans (List.prefix_append _ _))
    rw [foldlM_snoc]
    constructor
    · constructor
      · rintro ⟨t', ht'⟩
        obtain ⟨t, ht, hstep⟩ := bind_ok.mp ht'
        have hP := ((step l a t List.prefix_rfl (hinv t ht)).1).mp ⟨t', hstep⟩
        exact List.forall_mem_append.mpr ⟨hiff.mp ⟨t, ht⟩, List.forall_mem_singleton.mpr hP⟩
      · intro hP
        obtain ⟨hl, ha⟩ := List.forall_mem_append.mp hP
        obtain ⟨t, ht⟩ := hiff.mpr hl
        obtain ⟨t', ht'⟩ := ((step l a t List.prefix_rfl (hinv t ht)).1).mpr (ha a List.mem_cons_self)
        exact ⟨t', bind_ok.mpr ⟨t, ht, ht'⟩⟩
    · intro t' ht'
      obtain ⟨t, ht, hstep⟩ := bind_ok.mp ht'
      exact (step l a t List.prefix_rfl (hinv t ht)).2 t' hstep

/-- Construct a model: its validators accept the data, or the first error is
raised. -/
def construct {α : Type} (validate : α → Except String Unit) (a : α) : Except String {a // validate a = .ok ()} :=
  match h : validate a with
  | .ok () => .ok ⟨a, h⟩
  | .error e => .error e

theorem construct_of_valid {α : Type} {validate : α → Except String Unit} {a : α} (h : validate a = .ok ()) :
    construct validate a = .ok ⟨a, h⟩ := by
  unfold construct
  split
  · rfl
  · rename_i e he
    rw [h] at he
    cases he

theorem construct_of_invalid {α : Type} {validate : α → Except String Unit} {a : α} {e : String}
    (h : validate a = .error e) : construct validate a = .error e := by
  unfold construct
  split
  · rename_i he
    rw [h] at he
    cases he
  · rename_i e' he
    rw [h] at he
    cases he
    rfl

theorem construct_ok {α : Type} {validate : α → Except String Unit} {a : α} :
    (∃ x, construct validate a = .ok x) ↔ validate a = .ok () := by
  constructor
  · rintro ⟨x, hx⟩
    unfold construct at hx
    split at hx
    · rename_i h
      exact h
    · cases hx
  · intro h
    exact ⟨_, construct_of_valid h⟩

/-! ## Characters -/

def isHex (c : Char) : Bool := c.isDigit || ('a' ≤ c && c ≤ 'f')

/-- `str.isspace`, and `\s` in a pattern. -/
def isSpace (c : Char) : Bool :=
  let n := c.toNat
  (9 ≤ n && n ≤ 13) || (28 ≤ n && n ≤ 32) || n = 0x85 || n = 0xa0 || n = 0x1680 || (0x2000 ≤ n && n ≤ 0x200a) ||
    n = 0x2028 || n = 0x2029 || n = 0x202f || n = 0x205f || n = 0x3000

/-- The text is the given lead and 64 hexadecimal digits. -/
def isPrefixedHash (lead value : String) : Bool :=
  lead.toList.isPrefixOf value.toList && (value.toList.drop lead.length).length = 64 &&
    (value.toList.drop lead.length).all isHex

end AtlasPulse
