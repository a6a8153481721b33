import Mathlib

/-!
# Keyed rows

Rows that are read one after another into a dict, each under a key of its own.
What a row says is settled by the row alone, so that the order of the rows does
not count.
-/

namespace Keyed

section
variable {α β γ : Type} {S : α → β → Prop} {l : List α} {r : List β}

theorem map_eq (h : List.Forall₂ S l r) {f : α → γ} {g : β → γ} (hf : ∀ {a b}, S a b → f a = g b) : l.map f = r.map g := by
  induction h with
  | nil => rfl
  | cons hab _ ih => rw [List.map_cons, List.map_cons, hf hab, ih]

theorem flatMap_eq (h : List.Forall₂ S l r) {f : α → List γ} {g : β → List γ} (hf : ∀ {a b}, S a b → f a = g b) :
    l.flatMap f = r.flatMap g := by
  rw [List.flatMap_def, List.flatMap_def, map_eq h hf]

theorem filterMap_eq (h : List.Forall₂ S l r) {f : α → Option γ} {g : β → Option γ} (hf : ∀ {a b}, S a b → f a = g b) :
    l.filterMap f = r.filterMap g := by
  induction h with
  | nil => rfl
  | cons hab _ ih => rw [List.filterMap_cons, List.filterMap_cons, hf hab, ih]

theorem exists_right (h : List.Forall₂ S l r) {a : α} (ha : a ∈ l) : ∃ b ∈ r, S a b := by
  induction h with
  | nil => cases ha
  | @cons a' b l r hab _ ih =>
    rcases List.mem_cons.mp ha with rfl | ha
    · exact ⟨b, List.mem_cons_self, hab⟩
    · obtain ⟨c, hc, hac⟩ := ih ha
      exact ⟨c, List.mem_cons_of_mem _ hc, hac⟩

theorem exists_left (h : List.Forall₂ S l r) {b : β} (hb : b ∈ r) : ∃ a ∈ l, S a b := by
  obtain ⟨a, ha, hab⟩ := exists_right h.flip hb
  exact ⟨a, ha, hab⟩

/-- What two lists have to do with each other that go with a third one. -/
theorem forall₂_of_both {T : α → γ → Prop} {s : List γ} (h : List.Forall₂ S l r) (h' : List.Forall₂ T l s) :
    List.Forall₂ (fun b c => ∃ a ∈ l, S a b ∧ T a c) r s := by
  induction h generalizing s with
  | nil =>
    cases h'
    exact .nil
  | @cons a b l r hab _ ih =>
    cases h' with
    | cons hac hrest =>
      refine .cons ⟨a, List.mem_cons_self, hab, hac⟩ ((ih hrest).imp ?_)
      rintro b c ⟨a', ha', hrel⟩
      exact ⟨a', List.mem_cons_of_mem _ ha', hrel⟩

end

variable {R K D : Type}

/-- Read the rows in order, numbered from `line`, against what was read before. -/
def readRows (step : Nat → List (K × D) → R → Except String (List (K × D))) (line : Nat) (read : List (K × D)) :
    List R → Except String (List (K × D))
  | [] => .ok read
  | row :: rows =>
    match step line read row with
    | .ok read => readRows step (line + 1) read rows
    | .error e => .error e

/-- A row is read if it gives a value, under a key that is new. -/
def Reads (step : Nat → List (K × D) → R → Except String (List (K × D))) (gives : R → K → D → Prop) : Prop :=
  ∀ line read row out, step line read row = .ok out ↔
    ∃ key value, gives row key value ∧ key ∉ read.map Prod.fst ∧ out = read ++ [(key, value)]

variable {step : Nat → List (K × D) → R → Except String (List (K × D))} {gives : R → K → D → Prop}

theorem nodup_concat {read : List (K × D)} {key : K} {value : D} (hn : (read.map Prod.fst).Nodup) (hfresh : key ∉ read.map Prod.fst) :
    ((read ++ [(key, value)]).map Prod.fst).Nodup := by
  rw [List.map_append, List.map_singleton]
  refine List.nodup_append.mpr ⟨hn, List.nodup_singleton _, fun a ha b hb hab => hfresh ?_⟩
  have hkey : a = key := hab.trans (List.mem_singleton.mp hb)
  rwa [hkey] at ha

theorem fresh_of_nodup {read new : List (K × D)} {item : K × D} (hn : ((read ++ item :: new).map Prod.fst).Nodup) :
    item.1 ∉ read.map Prod.fst := by
  rw [List.map_append, List.map_cons] at hn
  exact fun hmem => (List.nodup_append.mp hn).2.2 _ hmem _ List.mem_cons_self rfl

theorem readRows_ok (hs : Reads step gives) : ∀ {line : Nat} {read : List (K × D)} {rows : List R} {out : List (K × D)},
    (read.map Prod.fst).Nodup → (readRows step line read rows = .ok out ↔
      ∃ new, List.Forall₂ (fun row item => gives row item.1 item.2) rows new ∧ out = read ++ new ∧ (out.map Prod.fst).Nodup)
  | _, read, [], out, hn => by
    rw [readRows]
    constructor
    · intro h
      obtain rfl := Except.ok.inj h
      exact ⟨[], .nil, (List.append_nil _).symm, hn⟩
    · rintro ⟨new, hnew, rfl, -⟩
      cases hnew
      rw [List.append_nil]
  | line, read, row :: rows, out, hn => by
    rw [readRows]
    cases hstep : step line read row with
    | error e =>
      constructor
      · intro h
        cases h
      · rintro ⟨new, hnew, rfl, hout⟩
        cases hnew with
        | @cons _ item _ new hgives hrest =>
          have hok := (hs line read row _).mpr ⟨item.1, item.2, hgives, fresh_of_nodup hout, rfl⟩
          rw [hok] at hstep
          cases hstep
    | ok read' =>
      obtain ⟨key, value, hgives, hfresh, rfl⟩ := (hs line read row read').mp hstep
      rw [readRows_ok hs (nodup_concat hn hfresh)]
      constructor
      · rintro ⟨new, hnew, rfl, hout⟩
        exact ⟨(key, value) :: new, .cons hgives hnew, by rw [List.append_assoc, List.singleton_append], hout⟩
      · rintro ⟨new, hnew, rfl, hout⟩
        cases hnew with
        | @cons _ item _ new hgives' hrest =>
          have hok := (hs line read row _).mpr ⟨item.1, item.2, hgives', fresh_of_nodup hout, rfl⟩
          rw [hstep] at hok
          have heq := List.append_cancel_left (Except.ok.inj hok)
          obtain rfl : (key, value) = item := (List.cons.inj heq).1
          exact ⟨new, hrest, by rw [List.append_assoc, List.singleton_append], hout⟩

/-- The items of the rows, of a sheet that is read from the start. -/
theorem readRows_nil (hs : Reads step gives) {line : Nat} {rows : List R} {out : List (K × D)} :
    readRows step line [] rows = .ok out ↔
      List.Forall₂ (fun row item => gives row item.1 item.2) rows out ∧ (out.map Prod.fst).Nodup := by
  have hstart : ((([] : List (K × D))).map Prod.fst).Nodup := List.nodup_nil
  rw [readRows_ok hs hstart]
  constructor
  · rintro ⟨new, hnew, rfl, hout⟩
    exact ⟨hnew, hout⟩
  · rintro ⟨hnew, hout⟩
    exact ⟨out, hnew, rfl, hout⟩

/-- **Row order.** The rows in another order are read into the same items. -/
theorem readRows_perm (hs : Reads step gives) {line : Nat} {rows rows' : List R} {out : List (K × D)} (hp : rows'.Perm rows)
    (h : readRows step line [] rows = .ok out) : ∃ out', readRows step line [] rows' = .ok out' ∧ out'.Perm out := by
  obtain ⟨hgives, hn⟩ := (readRows_nil hs).mp h
  obtain ⟨out', hgives', hperm⟩ := List.perm_comp_forall₂ hp hgives
  exact ⟨out', (readRows_nil hs).mpr ⟨hgives', (hperm.map Prod.fst).nodup_iff.mpr hn⟩, hperm⟩

/-- A sheet is read when its rows have keys of their own, and each gives a value. -/
theorem exists_items_iff (key : R → K) (covers : List K → Prop) (rows : List R) (hkey : ∀ row k v, gives row k v → k = key row) :
    (∃ items : List (K × D), List.Forall₂ (fun row item => gives row item.1 item.2) rows items ∧ (items.map Prod.fst).Nodup ∧
      covers (items.map Prod.fst)) ↔ (rows.map key).Nodup ∧ covers (rows.map key) ∧ ∀ row ∈ rows, ∃ v, gives row (key row) v := by
  constructor
  · rintro ⟨items, hgives, hnodup, hcovers⟩
    have hmap : items.map Prod.fst = rows.map key := (map_eq hgives fun h => (hkey _ _ _ h).symm).symm
    rw [hmap] at hnodup hcovers
    refine ⟨hnodup, hcovers, fun row hrow => ?_⟩
    obtain ⟨item, -, hitem⟩ := exists_right hgives hrow
    exact ⟨item.2, hkey _ _ _ hitem ▸ hitem⟩
  · rintro ⟨hnodup, hcovers, hrows⟩
    have hitems : ∀ rows : List R, (∀ row ∈ rows, ∃ v, gives row (key row) v) →
        ∃ items : List (K × D), List.Forall₂ (fun row item => gives row item.1 item.2) rows items ∧ items.map Prod.fst = rows.map key := by
      intro rows
      induction rows with
      | nil => exact fun _ => ⟨[], .nil, rfl⟩
      | cons row rows ih =>
        intro h
        obtain ⟨⟨v, hv⟩, hrest⟩ := List.forall_mem_cons.mp h
        obtain ⟨items, hgives, hmap⟩ := ih hrest
        exact ⟨(key row, v) :: items, .cons hv hgives, congrArg _ hmap⟩
    obtain ⟨items, hgives, hmap⟩ := hitems rows hrows
    exact ⟨items, hgives, hmap ▸ hnodup, hmap ▸ hcovers⟩

end Keyed
