import Mathlib

/-!
# Python text functions

Substitution of runs of characters, and regular expressions of literals,
alternatives and word boundaries, by the remainders that a match can leave.
-/

namespace PyText

/-! ## Runs -/

/-- `sub(" ", text)` of the pattern `p+`; `inRun` after a character of a run. -/
def subRuns (p : Char → Bool) (inRun : Bool) : List Char → List Char
  | [] => []
  | c :: cs =>
    if p c then if inRun then subRuns p true cs else ' ' :: subRuns p true cs
    else c :: subRuns p false cs

theorem mem_subRuns {p : Char → Bool} {c : Char} : ∀ {inRun : Bool} {l : List Char}, c ∈ subRuns p inRun l → c = ' ' ∨ ¬ p c
  | _, [], h => absurd h List.not_mem_nil
  | inRun, d :: l, h => by
    rw [subRuns] at h
    by_cases hd : p d = true
    · rw [if_pos hd] at h
      cases inRun with
      | true => exact mem_subRuns h
      | false =>
        rcases List.mem_cons.mp h with rfl | h
        · exact Or.inl rfl
        · exact mem_subRuns h
    · rw [if_neg hd] at h
      rcases List.mem_cons.mp h with rfl | h
      · exact Or.inr hd
      · exact mem_subRuns h

/-- `text.replace(old, new)`; the characters of a replaced part are skipped. -/
def replaceFrom (old new : List Char) (skip : Nat) : List Char → List Char
  | [] => []
  | c :: cs =>
    match skip with
    | skip + 1 => replaceFrom old new skip cs
    | 0 =>
      if old.isPrefixOf (c :: cs) then new ++ replaceFrom old new (old.length - 1) cs
      else c :: replaceFrom old new 0 cs

/-! ## Joined lines -/

/-- Lines that are joined by newlines have none of their own after the first
one, so the last lines can be read back. -/
theorem append_lines_inj {a a' : List Char} {b b' : List Char} (hb : '\n' ∉ b) (hb' : '\n' ∉ b')
    (h : a ++ '\n' :: b = a' ++ '\n' :: b') : a = a' ∧ b = b' := by
  have hlen : ∀ {x : List Char} {y : List Char}, '\n' ∉ y → (x ++ '\n' :: y).reverse.takeWhile (· ≠ '\n') = y.reverse := by
    intro x y hy
    rw [List.reverse_append, List.reverse_cons, List.append_assoc, List.takeWhile_append_of_pos]
    · simp
    · intro c hc
      simp only [ne_eq, decide_not, Bool.not_eq_eq_eq_not, Bool.not_true, decide_eq_false_iff_not]
      exact fun heq => hy (heq ▸ List.mem_reverse.mp hc)
  have hbb : b = b' := by
    have := congrArg (fun l => l.reverse.takeWhile (· ≠ '\n')) h
    simp only [hlen hb, hlen hb'] at this
    exact List.reverse_injective this
  rw [hbb] at h
  exact ⟨List.append_cancel_right h, hbb⟩

/-! ## Patterns -/

inductive Pattern
  | lit (c : Char)
  | boundary
  | seq (ps : List Pattern)
  | alt (ps : List Pattern)

namespace Pattern

/-- Literal text. -/
def text (s : String) : Pattern := .seq (s.toList.map .lit)

/-- `(?:…)?` -/
def opt (p : Pattern) : Pattern := .alt [p, .seq []]

/-- `(?:a|b|…)` -/
def oneOf (l : List String) : Pattern := .alt (l.map text)

variable (isWord : Char → Bool)

/-- `\b` between the character before and the text after. -/
def atBoundary (before : Option Char) (rest : List Char) : Bool :=
  before.any isWord != rest.head?.any isWord

mutual

/-- What a match can leave: the last character read, and the rest. -/
def remainders : Pattern → Option Char → List Char → List (Option Char × List Char)
  | .lit c, _, rest =>
    match rest with
    | d :: rest => if c = d then [(some d, rest)] else []
    | [] => []
  | .boundary, before, rest => if atBoundary isWord before rest then [(before, rest)] else []
  | .seq ps, before, rest => seqRemainders ps before rest
  | .alt ps, before, rest => altRemainders ps before rest

def seqRemainders : List Pattern → Option Char → List Char → List (Option Char × List Char)
  | [], before, rest => [(before, rest)]
  | p :: ps, before, rest => (remainders p before rest).flatMap fun x => seqRemainders ps x.1 x.2

def altRemainders : List Pattern → Option Char → List Char → List (Option Char × List Char)
  | [], _, _ => []
  | p :: ps, before, rest => remainders p before rest ++ altRemainders ps before rest

end

/-- A match that starts here or later. -/
def searchFrom (p : Pattern) (before : Option Char) : List Char → Bool
  | [] => !(p.remainders isWord before []).isEmpty
  | c :: rest => !(p.remainders isWord before (c :: rest)).isEmpty || searchFrom p (some c) rest

/-- `pattern.search(text)` finds a match. -/
def search (p : Pattern) (text : String) : Bool := p.searchFrom isWord none text.toList

end Pattern

example : (Pattern.seq [.boundary, .text "road", .opt (.text "s"), .text " closed", .boundary]).search Char.isAlpha
    "all roads closed." = true := by decide +kernel

example : (Pattern.seq [.boundary, .text "road", .boundary]).search Char.isAlpha "roadside" = false := by decide +kernel

end PyText
