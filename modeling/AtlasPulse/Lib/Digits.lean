import Mathlib

/-!
# Decimal text

Fixed-width decimal fields and their lexicographic order, and the decimal text
of a natural number. Two texts that start with fields of equal width compare
like the pairs of the numbers and the rests.
-/

namespace Digits

/-- The `w` least significant decimal digits of `n`, zero padded. -/
def pad : Nat → Nat → List Char
  | 0, _ => []
  | w + 1, n => pad w (n / 10) ++ [(n % 10).digitChar]

@[simp] theorem length_pad (w n : Nat) : (pad w n).length = w := by
  induction w generalizing n with
  | zero => rfl
  | succ w ih => simp [pad, ih]

theorem digitChar_inj {a b : Nat} (ha : a < 10) (hb : b < 10) (h : a.digitChar = b.digitChar) : a = b := by
  interval_cases a <;> interval_cases b <;> first | rfl | exact absurd h (by decide)

theorem digitChar_lt {a b : Nat} (ha : a < 10) (hb : b < 10) : a.digitChar < b.digitChar ↔ a < b := by
  interval_cases a <;> interval_cases b <;> decide

/-! ## Order of texts with a common layout -/

/-- Texts whose first parts have one length compare first by these parts. -/
theorem append_lt_append_iff : ∀ {a b : List Char} (s t : List Char), a.length = b.length →
    (a ++ s < b ++ t ↔ a < b ∨ a = b ∧ s < t)
  | [], [], s, t, _ => by simp
  | x :: a, y :: b, s, t, h => by
    have ih := append_lt_append_iff (a := a) (b := b) s t (by simpa using h)
    simp only [List.cons_append, List.cons_lt_cons_iff, ih, List.cons.injEq]
    grind

theorem append_lt_append_same (a s t : List Char) : a ++ s < a ++ t ↔ s < t := by
  rw [append_lt_append_iff s t rfl]
  simp

theorem pad_inj {w n m : Nat} (hn : n < 10 ^ w) (hm : m < 10 ^ w) (h : pad w n = pad w m) : n = m := by
  induction w generalizing n m with
  | zero => simp only [Nat.pow_zero] at hn hm; omega
  | succ w ih =>
    rw [Nat.pow_succ] at hn hm
    obtain ⟨hq, hr⟩ := List.append_inj h (by simp)
    have hq' := ih (by omega) (by omega) hq
    have hr' := digitChar_inj (Nat.mod_lt n (by decide)) (Nat.mod_lt m (by decide)) (List.cons.inj hr).1
    omega

theorem pad_lt {w n m : Nat} (hn : n < 10 ^ w) (hm : m < 10 ^ w) : pad w n < pad w m ↔ n < m := by
  induction w generalizing n m with
  | zero => simp only [Nat.pow_zero] at hn hm; simp only [pad, List.not_lt_nil, false_iff]; omega
  | succ w ih =>
    rw [Nat.pow_succ] at hn hm
    have hrn := Nat.mod_lt n (show 0 < 10 by decide)
    have hrm := Nat.mod_lt m (show 0 < 10 by decide)
    have hq : pad w (n / 10) = pad w (m / 10) ↔ n / 10 = m / 10 :=
      ⟨pad_inj (by omega) (by omega), fun h => by rw [h]⟩
    rw [pad, pad, append_lt_append_iff _ _ (by simp), ih (by omega) (by omega), hq, List.cons_lt_cons_iff,
      digitChar_lt hrn hrm]
    simp only [List.not_lt_nil, and_false, or_false]
    omega

/-- **Field order.** A fixed-width field compares as its number, and equal
fields leave the decision to the rest. -/
theorem pad_append_lt {w n m : Nat} (hn : n < 10 ^ w) (hm : m < 10 ^ w) (s t : List Char) :
    pad w n ++ s < pad w m ++ t ↔ n < m ∨ n = m ∧ s < t := by
  have hi : pad w n = pad w m ↔ n = m := ⟨pad_inj hn hm, fun h => by rw [h]⟩
  rw [append_lt_append_iff s t (by simp), pad_lt hn hm, hi]

/-! ## Unpadded decimals -/

/-- Decimal text of a natural number. -/
def decimal (n : Nat) : List Char := Nat.toDigits 10 n

theorem isDigit_of_mem_decimal {n : Nat} {c : Char} (h : c ∈ decimal n) : c.isDigit :=
  Nat.isDigit_of_mem_toDigits (by decide) (by decide) h

theorem decimal_ne_nil (n : Nat) : decimal n ≠ [] := Nat.toDigits_ne_nil

/-- The number of a nonempty text of ASCII digits. -/
def parse? (l : List Char) : Option Nat :=
  if l ≠ [] ∧ l.all Char.isDigit then some (Nat.ofDigitChars 10 l 0) else none

@[simp] theorem parse_decimal (n : Nat) : parse? (decimal n) = some n := by
  have hall : (decimal n).all Char.isDigit := List.all_eq_true.mpr fun c => isDigit_of_mem_decimal
  rw [parse?, if_pos ⟨decimal_ne_nil n, hall⟩, decimal, Nat.ofDigitChars_ten_toDigits]

theorem decimal_inj {n m : Nat} (h : decimal n = decimal m) : n = m := by
  have := congrArg parse? h
  simpa using this

/-- A run of characters that satisfy `p` ends where the first other one stands. -/
theorem run_append_inj {p : Char → Bool} : ∀ {a b s t : List Char}, (∀ c ∈ a, p c) → (∀ c ∈ b, p c) →
    (∀ c ∈ s.head?, ¬ p c) → (∀ c ∈ t.head?, ¬ p c) → a ++ s = b ++ t → a = b ∧ s = t
  | [], [], _, _, _, _, _, _, h => ⟨rfl, h⟩
  | [], y :: b, s, t, _, hb, hs, _, h => by
    rw [List.nil_append] at h
    subst h
    exact absurd (hb y (by simp)) (hs y (by simp))
  | x :: a, [], s, t, ha, _, _, ht, h => by
    rw [List.nil_append] at h
    subst h
    exact absurd (ha x (by simp)) (ht x (by simp))
  | x :: a, y :: b, s, t, ha, hb, hs, ht, h => by
    obtain ⟨rfl, h'⟩ := List.cons.inj h
    obtain ⟨rfl, rfl⟩ := run_append_inj (fun c hc => ha c (by simp [hc])) (fun c hc => hb c (by simp [hc]))
      hs ht h'
    exact ⟨rfl, rfl⟩

end Digits
