import Mathlib

/-!
# Machines

A component as a step function: a state and a call give an answer and the next
state. The rules lift what one step preserves to whole runs: an invariant, an
invariant that speaks of the log of the run, and a simulation between two
components that answer the same calls.
-/

namespace Machine

variable {σ τ α β : Type*}

/-- The state after a run. -/
def run (step : σ → α → β × σ) (s : σ) : List α → σ
  | [] => s
  | a :: as => run step (step s a).2 as

/-- The calls of a run with their answers. -/
def log (step : σ → α → β × σ) (s : σ) : List α → List (α × β)
  | [] => []
  | a :: as => (a, (step s a).1) :: log step (step s a).2 as

/-- The answers of a run. -/
def answers (step : σ → α → β × σ) (s : σ) (as : List α) : List β := (log step s as).map Prod.snd

section rules
variable (step : σ → α → β × σ)

@[simp] theorem run_nil (s : σ) : run step s [] = s := rfl

@[simp] theorem log_nil (s : σ) : log step s [] = [] := rfl

theorem run_append (s : σ) (as bs : List α) : run step s (as ++ bs) = run step (run step s as) bs := by
  induction as generalizing s with
  | nil => rfl
  | cons a as ih => exact ih (step s a).2

theorem log_append (s : σ) (as bs : List α) :
    log step s (as ++ bs) = log step s as ++ log step (run step s as) bs := by
  induction as generalizing s with
  | nil => rfl
  | cons a as ih => simp [log, run, ih]

theorem run_snoc (s : σ) (as : List α) (a : α) : run step s (as ++ [a]) = (step (run step s as) a).2 := by
  rw [run_append]
  rfl

theorem log_snoc (s : σ) (as : List α) (a : α) :
    log step s (as ++ [a]) = log step s as ++ [(a, (step (run step s as) a).1)] := by
  rw [log_append]
  rfl

theorem map_fst_log (s : σ) (as : List α) : (log step s as).map Prod.fst = as := by
  induction as generalizing s with
  | nil => rfl
  | cons a as ih => rw [log, List.map_cons, ih]

theorem mem_of_mem_log {s : σ} {as : List α} {x : α × β} (h : x ∈ log step s as) : x.1 ∈ as := by
  have hmem := List.mem_map_of_mem (f := Prod.fst) h
  rwa [map_fst_log] at hmem

variable {step}

/-- An answer in a log is the step's answer after the calls before it. -/
theorem log_eq_append_cons {s : σ} {as : List α} {served rest : List (α × β)} {x : α × β}
    (h : log step s as = served ++ x :: rest) :
    as = served.map Prod.fst ++ x.1 :: rest.map Prod.fst ∧
      x.2 = (step (run step s (served.map Prod.fst)) x.1).1 ∧
      served = log step s (served.map Prod.fst) := by
  induction served generalizing s as with
  | nil =>
    cases as with
    | nil => cases h
    | cons a as =>
      obtain ⟨rfl, rfl⟩ := List.cons.inj h
      exact ⟨by simp [map_fst_log], rfl, rfl⟩
  | cons y served ih =>
    cases as with
    | nil => cases h
    | cons a as =>
      obtain ⟨rfl, htail⟩ := List.cons.inj h
      obtain ⟨has, hx, hserved⟩ := ih htail
      exact ⟨by rw [has]; rfl, hx, by rw [List.map_cons, log, ← hserved]⟩

/-- **Invariant rule**, for runs whose calls satisfy `P`. -/
theorem run_inv {P : α → Prop} {I : σ → Prop} (hstep : ∀ s a, P a → I s → I (step s a).2) {s : σ} (h : I s)
    {as : List α} (hP : ∀ a ∈ as, P a) : I (run step s as) := by
  induction as generalizing s with
  | nil => exact h
  | cons a as ih =>
    exact ih (hstep s a (hP a List.mem_cons_self) h) fun b hb => hP b (List.mem_cons_of_mem _ hb)

/-- **Logged invariant rule**: the invariant relates the state to the log. -/
theorem run_log_inv {P : α → Prop} {s : σ} {I : List (α × β) → σ → Prop} (h : I [] s)
    (hstep : ∀ l s a, P a → I l s → I (l ++ [(a, (step s a).1)]) (step s a).2) {as : List α}
    (hP : ∀ a ∈ as, P a) : I (log step s as) (run step s as) := by
  induction as using List.reverseRecOn with
  | nil => exact h
  | append_singleton as a ih =>
    rw [run_snoc, log_snoc]
    exact hstep _ _ a (hP a (by simp)) (ih fun b hb => hP b (List.mem_append_left _ hb))

/-- **Simulation rule**: related states give equal answers and related states. -/
theorem simulates {step' : τ → α → β × τ} {P : α → Prop} {R : σ → τ → Prop}
    (hstep : ∀ s t a, P a → R s t → (step s a).1 = (step' t a).1 ∧ R (step s a).2 (step' t a).2)
    {s : σ} {t : τ} (h : R s t) {as : List α} (hP : ∀ a ∈ as, P a) :
    log step s as = log step' t as ∧ R (run step s as) (run step' t as) := by
  induction as generalizing s t with
  | nil => exact ⟨rfl, h⟩
  | cons a as ih =>
    obtain ⟨ha, hr⟩ := hstep s t a (hP a List.mem_cons_self) h
    obtain ⟨hl, hr'⟩ := ih hr fun b hb => hP b (List.mem_cons_of_mem _ hb)
    exact ⟨by simp only [log, ha, hl], hr'⟩

end rules

end Machine
