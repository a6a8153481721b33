import Mathlib

/-!
# Binary64

Double precision floats over exact rationals: a finite float is a sign and a
magnitude that rounding leaves alone, an operation is the exact result rounded
to nearest, ties to even. Rounding keeps order, and what is bounded by a power
of two stays so; that is how results are shown to be finite.
-/

namespace Binary64

/-! ## The nearest integer -/

/-- The nearest integer, of two the even one. -/
def roundHalfEven (q : ℚ) : ℤ :=
  if q - ⌊q⌋ < 1 / 2 then ⌊q⌋
  else if 1 / 2 < q - ⌊q⌋ then ⌊q⌋ + 1
  else if ⌊q⌋ % 2 = 0 then ⌊q⌋ else ⌊q⌋ + 1

theorem roundHalfEven_cases (q : ℚ) :
    roundHalfEven q = ⌊q⌋ ∧ q - ⌊q⌋ ≤ 1 / 2 ∨ roundHalfEven q = ⌊q⌋ + 1 ∧ 1 / 2 ≤ q - ⌊q⌋ := by
  unfold roundHalfEven
  split
  · rename_i h
    exact Or.inl ⟨rfl, h.le⟩
  · rename_i h
    split
    · rename_i h'
      exact Or.inr ⟨rfl, h'.le⟩
    · rename_i h'
      split
      · exact Or.inl ⟨rfl, not_lt.mp h'⟩
      · exact Or.inr ⟨rfl, not_lt.mp h⟩

theorem roundHalfEven_intCast (n : ℤ) : roundHalfEven n = n := by
  simp [roundHalfEven]

theorem roundHalfEven_mono {p q : ℚ} (h : p ≤ q) : roundHalfEven p ≤ roundHalfEven q := by
  have hfloor : ⌊p⌋ ≤ ⌊q⌋ := Int.floor_mono h
  by_cases heq : ⌊p⌋ = ⌊q⌋
  · have hle : p - ⌊p⌋ ≤ q - ⌊q⌋ := by rw [heq]; linarith
    unfold roundHalfEven
    rw [heq] at hle ⊢
    split_ifs <;> first | omega | (exfalso; linarith)
  · have hp : roundHalfEven p ≤ ⌊p⌋ + 1 := by
      rcases roundHalfEven_cases p with ⟨h, -⟩ | ⟨h, -⟩ <;> omega
    have hq : ⌊q⌋ ≤ roundHalfEven q := by
      rcases roundHalfEven_cases q with ⟨h, -⟩ | ⟨h, -⟩ <;> omega
    omega

theorem abs_roundHalfEven_sub (q : ℚ) : |(roundHalfEven q : ℚ) - q| ≤ 1 / 2 := by
  have hle := Int.floor_le q
  have hlt := Int.lt_floor_add_one q
  rw [abs_le]
  rcases roundHalfEven_cases q with ⟨h, h'⟩ | ⟨h, h'⟩ <;> rw [h] <;> push_cast <;> constructor <;> linarith

theorem roundHalfEven_nonneg {q : ℚ} (h : 0 ≤ q) : 0 ≤ roundHalfEven q := by
  have := roundHalfEven_mono h
  rwa [show (0 : ℚ) = ((0 : ℤ) : ℚ) by simp, roundHalfEven_intCast] at this

theorem roundHalfEven_le {q : ℚ} {n : ℤ} (h : q ≤ n) : roundHalfEven q ≤ n :=
  (roundHalfEven_mono h).trans_eq (roundHalfEven_intCast n)

theorem le_roundHalfEven {q : ℚ} {n : ℤ} (h : (n : ℚ) ≤ q) : n ≤ roundHalfEven q :=
  (roundHalfEven_intCast n).symm.le.trans (roundHalfEven_mono h)

/-! ## Magnitudes -/

/-- The exponent of the last place of a magnitude. -/
def lastPlace (q : ℚ) : ℤ := max (Int.log 2 q - 52) (-1074)

def ulp (q : ℚ) : ℚ := 2 ^ lastPlace q

/-- A magnitude of 53 bits, however large. -/
def roundMag (q : ℚ) : ℚ := roundHalfEven (q / ulp q) * ulp q

theorem ulp_pos (q : ℚ) : 0 < ulp q := zpow_pos (by norm_num) _

theorem lt_ulp_mul {q : ℚ} : q < 2 ^ 53 * ulp q := by
  have hlog : q < 2 ^ (Int.log 2 q + 1) := by exact_mod_cast Int.lt_zpow_succ_log_self one_lt_two q
  refine hlog.trans_le ?_
  have hpow : (2 : ℚ) ^ 53 * ulp q = 2 ^ (lastPlace q + 53) := by
    rw [ulp, zpow_add₀ (by norm_num), mul_comm]
    norm_num
  rw [hpow]
  have hle : Int.log 2 q - 52 ≤ lastPlace q := le_max_left _ _
  exact zpow_le_zpow_right₀ one_le_two (by omega)

theorem ulp_mono {p q : ℚ} (hp : 0 < p) (h : p ≤ q) : ulp p ≤ ulp q := by
  refine zpow_le_zpow_right₀ one_le_two (max_le_max ?_ le_rfl)
  have := Int.log_mono_right (b := 2) hp h
  omega

theorem roundMag_zero : roundMag 0 = 0 := by
  have h := roundHalfEven_intCast 0
  rw [Int.cast_zero] at h
  rw [roundMag, zero_div, h]
  simp

theorem roundMag_nonneg {q : ℚ} (h : 0 ≤ q) : 0 ≤ roundMag q :=
  mul_nonneg (by exact_mod_cast roundHalfEven_nonneg (div_nonneg h (ulp_pos q).le)) (ulp_pos q).le

/-- The error is at most half a unit in the last place. -/
theorem abs_roundMag_sub (q : ℚ) : |roundMag q - q| ≤ ulp q / 2 := by
  have hu := ulp_pos q
  have h := abs_roundHalfEven_sub (q / ulp q)
  have heq : roundMag q - q = (roundHalfEven (q / ulp q) - q / ulp q) * ulp q := by
    rw [roundMag, sub_mul, div_mul_cancel₀ _ hu.ne']
  rw [heq, abs_mul, abs_of_pos hu]
  calc |(roundHalfEven (q / ulp q) : ℚ) - q / ulp q| * ulp q ≤ 1 / 2 * ulp q := mul_le_mul_of_nonneg_right h hu.le
    _ = ulp q / 2 := by ring

/-- Multiples of a last place are kept. -/
theorem roundMag_of_lastPlace {n : ℕ} {e : ℤ} (h : lastPlace (n * 2 ^ e) ≤ e) : roundMag (n * 2 ^ e) = n * 2 ^ e := by
  obtain ⟨k, hk⟩ : ∃ k : ℕ, e = lastPlace (n * 2 ^ e) + k := ⟨(e - lastPlace (n * 2 ^ e)).toNat, by omega⟩
  have hu := ulp_pos (n * 2 ^ e)
  have hdiv : (n : ℚ) * 2 ^ e / ulp (n * 2 ^ e) = ((n * 2 ^ k : ℕ) : ℤ) := by
    rw [div_eq_iff hu.ne', ulp]
    conv_lhs => rw [hk, zpow_add₀ (by norm_num)]
    push_cast
    rw [zpow_natCast]
    ring
  rw [roundMag, hdiv, roundHalfEven_intCast, ← hdiv, div_mul_cancel₀ _ hu.ne']

theorem roundMag_natMul {n : ℕ} {e : ℤ} (hn : n < 2 ^ 53) (he : -1074 ≤ e) : roundMag (n * 2 ^ e) = n * 2 ^ e := by
  rcases Nat.eq_zero_or_pos n with rfl | hpos
  · simp [roundMag_zero]
  · refine roundMag_of_lastPlace (max_le ?_ he)
    have hq : (0 : ℚ) < n * 2 ^ e := mul_pos (by exact_mod_cast hpos) (zpow_pos (by norm_num) _)
    have hlt : (n : ℚ) * 2 ^ e < ((2 : ℕ) : ℚ) ^ (53 + e) := by
      push_cast
      rw [zpow_add₀ (by norm_num)]
      exact mul_lt_mul_of_pos_right (by exact_mod_cast hn) (zpow_pos (by norm_num) _)
    have := (Int.lt_zpow_iff_log_lt (R := ℚ) one_lt_two hq).mp hlt
    omega

theorem roundMag_zpow {e : ℤ} (he : -1074 ≤ e) : roundMag (2 ^ e) = 2 ^ e := by
  have h := roundMag_natMul (n := 1) (e := e) (by norm_num) he
  simpa using h

theorem roundMag_natCast {n : ℕ} (h : n < 2 ^ 53) : roundMag n = n := by
  have := roundMag_natMul (e := 0) h (by norm_num)
  simpa using this

/-- A rounded magnitude has at most 53 bits. -/
theorem exists_natMul {q : ℚ} (h : 0 ≤ q) : ∃ (n : ℕ) (e : ℤ), n < 2 ^ 53 ∧ -1074 ≤ e ∧ roundMag q = n * 2 ^ e := by
  have hu := ulp_pos q
  obtain ⟨n, hn⟩ := Int.eq_ofNat_of_zero_le (roundHalfEven_nonneg (div_nonneg h hu.le))
  have hplace : -1074 ≤ lastPlace q := le_max_right _ _
  have hle : n ≤ 2 ^ 53 := by
    have hq : q / ulp q ≤ ((2 ^ 53 : ℤ) : ℚ) := by
      rw [div_le_iff₀ hu]
      push_cast
      exact lt_ulp_mul.le
    have := roundHalfEven_le hq
    omega
  have hq : roundMag q = n * 2 ^ lastPlace q := by rw [roundMag, hn, ulp]; simp
  rcases hle.lt_or_eq with hlt | rfl
  · exact ⟨n, lastPlace q, hlt, hplace, hq⟩
  · refine ⟨2 ^ 52, lastPlace q + 1, by norm_num, by omega, ?_⟩
    rw [hq, zpow_add₀ (by norm_num)]
    push_cast
    ring

theorem roundMag_idem {q : ℚ} (h : 0 ≤ q) : roundMag (roundMag q) = roundMag q := by
  obtain ⟨n, e, hn, he, hq⟩ := exists_natMul h
  rw [hq, roundMag_natMul hn he]

theorem roundMag_mono {p q : ℚ} (hp : 0 ≤ p) (h : p ≤ q) : roundMag p ≤ roundMag q := by
  rcases hp.eq_or_lt with rfl | hp
  · rw [roundMag_zero]
    exact roundMag_nonneg h
  have hlog : Int.log 2 p ≤ Int.log 2 q := Int.log_mono_right hp h
  by_cases heq : lastPlace p = lastPlace q
  · have hu : ulp p = ulp q := by rw [ulp, ulp, heq]
    rw [roundMag, roundMag, hu]
    refine mul_le_mul_of_nonneg_right ?_ (ulp_pos q).le
    exact_mod_cast roundHalfEven_mono (div_le_div_of_nonneg_right h (ulp_pos q).le)
  · -- a power of two lies between them, which rounding keeps
    have hplace : lastPlace p < lastPlace q := lt_of_le_of_ne (max_le_max (by omega) le_rfl) heq
    have hq : lastPlace q = Int.log 2 q - 52 := by
      have : -1074 ≤ lastPlace p := le_max_right _ _
      have := le_max_left (Int.log 2 q - 52) (-1074)
      unfold lastPlace at *
      omega
    have hlt : Int.log 2 p < Int.log 2 q := by
      have : Int.log 2 p - 52 ≤ lastPlace p := le_max_left _ _
      omega
    have hbetween : -1074 ≤ Int.log 2 q := by
      have : -1074 ≤ lastPlace q := le_max_right _ _
      omega
    have hpow : ((2 : ℕ) : ℚ) ^ Int.log 2 q ≤ q := Int.zpow_log_le_self one_lt_two (hp.trans_le h)
    push_cast at hpow
    have hlow : roundMag p ≤ 2 ^ Int.log 2 q := by
      obtain ⟨k, hk⟩ : ∃ k : ℕ, Int.log 2 q = lastPlace p + k := by
        refine ⟨(Int.log 2 q - lastPlace p).toNat, ?_⟩
        omega
      have hpq : p ≤ 2 ^ Int.log 2 q := by
        have : p < ((2 : ℕ) : ℚ) ^ (Int.log 2 p + 1) := Int.lt_zpow_succ_log_self one_lt_two p
        push_cast at this
        exact this.le.trans (zpow_le_zpow_right₀ one_le_two (by omega))
      have hint : p / ulp p ≤ ((2 ^ k : ℤ) : ℚ) := by
        rw [div_le_iff₀ (ulp_pos p), ulp]
        push_cast
        rw [← zpow_natCast, ← zpow_add₀ (by norm_num), add_comm, ← hk]
        exact hpq
      calc roundMag p ≤ ((2 ^ k : ℤ) : ℚ) * ulp p :=
            mul_le_mul_of_nonneg_right (by exact_mod_cast roundHalfEven_le hint) (ulp_pos p).le
        _ = 2 ^ Int.log 2 q := by
            rw [ulp, hk, zpow_add₀ (by norm_num)]
            push_cast
            rw [zpow_natCast]
            ring
    have hhigh : (2 : ℚ) ^ Int.log 2 q ≤ roundMag q := by
      obtain ⟨k, hk⟩ : ∃ k : ℕ, Int.log 2 q = lastPlace q + k := ⟨52, by omega⟩
      have hint : ((2 ^ k : ℤ) : ℚ) ≤ q / ulp q := by
        rw [le_div_iff₀ (ulp_pos q), ulp]
        push_cast
        rw [← zpow_natCast, ← zpow_add₀ (by norm_num), add_comm, ← hk]
        exact hpow
      calc (2 : ℚ) ^ Int.log 2 q = ((2 ^ k : ℤ) : ℚ) * ulp q := by
            rw [ulp]
            conv_lhs => rw [hk, zpow_add₀ (by norm_num)]
            push_cast
            rw [zpow_natCast]
            ring
        _ ≤ roundMag q := mul_le_mul_of_nonneg_right (by exact_mod_cast le_roundHalfEven hint) (ulp_pos q).le
    exact hlow.trans hhigh

theorem roundMag_le_zpow {q : ℚ} {e : ℤ} (hq : 0 ≤ q) (he : -1074 ≤ e) (h : q ≤ 2 ^ e) : roundMag q ≤ 2 ^ e :=
  (roundMag_mono hq h).trans_eq (roundMag_zpow he)

/-! ## Floats -/

/-- Where the exponents end. -/
def overflow : ℚ := 2 ^ 1024

structure Magnitude where
  value : ℚ
  nonneg : 0 ≤ value
  rounded : roundMag value = value
  bounded : value < overflow
  deriving DecidableEq

inductive Float64
  | finite (negative : Bool) (magnitude : Magnitude)
  | inf (negative : Bool)
  | nan
  deriving DecidableEq

def signed (negative : Bool) (q : ℚ) : ℚ := if negative then -q else q

/-- A sign and a magnitude, rounded; what is too large becomes infinite. -/
def ofMag (negative : Bool) (q : ℚ) : Float64 :=
  if h : roundMag |q| < overflow then
    .finite negative ⟨roundMag |q|, roundMag_nonneg (abs_nonneg q), roundMag_idem (abs_nonneg q), h⟩
  else .inf negative

/-- The float nearest to an exact result; the sign of a zero is given. -/
def ofRat (negativeZero : Bool) (q : ℚ) : Float64 := ofMag (if q = 0 then negativeZero else q < 0) q

namespace Float64

def isFinite : Float64 → Bool
  | finite _ _ => true
  | _ => false

/-- The value of a finite float. -/
def toRat? : Float64 → Option ℚ
  | finite negative m => some (signed negative m.value)
  | _ => none

def ofInt (n : ℤ) : Float64 := ofRat false n

def neg : Float64 → Float64
  | finite negative m => finite (!negative) m
  | inf negative => inf (!negative)
  | nan => nan

def abs : Float64 → Float64
  | finite _ m => finite false m
  | inf _ => inf false
  | nan => nan

def add : Float64 → Float64 → Float64
  | finite a p, finite b q => ofRat (a && b) (signed a p.value + signed b q.value)
  | inf a, inf b => if a = b then inf a else nan
  | inf a, finite _ _ => inf a
  | finite _ _, inf b => inf b
  | _, _ => nan

def sub (x y : Float64) : Float64 := x.add y.neg

def mul : Float64 → Float64 → Float64
  | finite a p, finite b q => ofMag (a != b) (p.value * q.value)
  | inf a, inf b => inf (a != b)
  | inf a, finite b q => if q.value = 0 then nan else inf (a != b)
  | finite a p, inf b => if p.value = 0 then nan else inf (a != b)
  | _, _ => nan

/-- `x / y`, which raises on a zero divisor. -/
def div : Float64 → Float64 → Except String Float64
  | x, finite b q =>
    if q.value = 0 then .error "float division by zero"
    else match x with
      | finite a p => .ok (ofMag (a != b) (p.value / q.value))
      | inf a => .ok (inf (a != b))
      | nan => .ok nan
  | finite a _, inf b => .ok (ofMag (a != b) 0)
  | _, _ => .ok nan

def lt : Float64 → Float64 → Bool
  | finite a p, finite b q => signed a p.value < signed b q.value
  | inf a, inf b => a && !b
  | inf a, finite _ _ => a
  | finite _ _, inf b => !b
  | _, _ => false

/-- `x == y`: zeros are equal whatever their sign, and `nan` equals nothing. -/
def beq : Float64 → Float64 → Bool
  | finite a p, finite b q => signed a p.value = signed b q.value
  | inf a, inf b => a == b
  | _, _ => false

def le (x y : Float64) : Bool := x.lt y || x.beq y

/-- `max(x, y)`, the first of equal ones. -/
def max (x y : Float64) : Float64 := if x.lt y then y else x

def min (x y : Float64) : Float64 := if y.lt x then y else x

/-- `round(x, digits)`: the float nearest to the correctly rounded decimal. -/
def round (digits : ℕ) : Float64 → Float64
  | finite a p => ofMag a (roundHalfEven (p.value * 10 ^ digits) / 10 ^ digits)
  | x => x

/-- One item of `sum`, with the compensation of what the rounding of the sums has lost. -/
def sumStep (s : Float64 × Float64) (x : Float64) : Float64 × Float64 :=
  let t := s.1.add x
  (t, s.2.add (if x.abs.le s.1.abs then (s.1.sub t).add x else (x.sub t).add s.1))

/-- `sum(values)`: compensated summation. -/
def sum : List Float64 → Float64
  | [] => ofInt 0
  | x :: xs =>
    let (total, c) := xs.foldl sumStep ((ofInt 0).add x, ofInt 0)
    if c.beq (ofInt 0) || !c.isFinite then total else total.add c

end Float64

/-- `m / n` of integers, correctly rounded. -/
def intDiv (m n : ℤ) : Except String Float64 :=
  if n = 0 then .error "division by zero"
  else match ofRat false ((m : ℚ) / n) with
    | .inf _ => .error "integer division result too large for a float"
    | x => .ok x

/-! ## Values of results -/

/-- A rational with the nearest float's value, when that is finite. -/
def fit (q : ℚ) : Option ℚ := if roundMag |q| < overflow then some (signed (q < 0) (roundMag |q|)) else none

@[simp] theorem signed_zero (negative : Bool) : signed negative 0 = 0 := by
  cases negative <;> simp [signed]

theorem abs_signed (negative : Bool) (q : ℚ) : |signed negative q| = |q| := by
  cases negative <;> simp [signed]

theorem decide_signed_neg (negative : Bool) {q : ℚ} (hq : 0 < q) : decide (signed negative q < 0) = negative := by
  cases negative with
  | false => simp [signed, hq.le]
  | true => simp [signed, hq]

/-- The sign of what is rounded, wherever there is one. -/
theorem signed_congr {a b : Bool} {q : ℚ} (h : q ≠ 0 → a = b) : signed a q = signed b q := by
  by_cases hq : q = 0
  · rw [hq, signed_zero, signed_zero]
  · rw [h hq]

theorem toRat?_ofMag (negative : Bool) (q : ℚ) : (ofMag negative q).toRat? = fit (signed negative |q|) := by
  unfold ofMag fit
  rw [abs_signed, abs_abs]
  by_cases h : roundMag |q| < overflow
  · rw [dif_pos h, if_pos h, Float64.toRat?]
    refine congrArg some (signed_congr (q := roundMag |q|) fun hne => ?_)
    have hq : 0 < |q| := by
      refine lt_of_le_of_ne (abs_nonneg q) fun hzero => hne ?_
      exact (congrArg roundMag hzero.symm).trans roundMag_zero
    exact (decide_signed_neg negative hq).symm
  · rw [dif_neg h, if_neg h, Float64.toRat?]
    rintro _ _ ⟨⟩

theorem toRat?_ofRat (negativeZero : Bool) (q : ℚ) : (ofRat negativeZero q).toRat? = fit q := by
  unfold ofRat ofMag fit
  by_cases h : roundMag |q| < overflow
  · rw [dif_pos h, if_pos h, Float64.toRat?]
    by_cases hq : q = 0
    · subst hq
      simp [roundMag_zero]
    · simp [hq]
  · simp [h, Float64.toRat?]

/-- **Bounded results.** What is at most a power of two in the range fits, and
stays so bounded. -/
theorem fit_of_abs_le {q : ℚ} {e : ℤ} (he : -1074 ≤ e) (he' : e < 1024) (h : |q| ≤ 2 ^ e) :
    ∃ r, fit q = some r ∧ |r| ≤ 2 ^ e := by
  have hle := roundMag_le_zpow (abs_nonneg q) he h
  have hlt : roundMag |q| < overflow := by
    refine hle.trans_lt ?_
    have hpow := zpow_lt_zpow_right₀ (one_lt_two (α := ℚ)) he'
    rw [overflow]
    exact_mod_cast hpow
  refine ⟨_, if_pos hlt, ?_⟩
  rwa [abs_signed, abs_of_nonneg (roundMag_nonneg (abs_nonneg q))]

theorem fit_nonneg {q r : ℚ} (hq : 0 ≤ q) (h : fit q = some r) : 0 ≤ r := by
  unfold fit at h
  split at h
  · obtain rfl := Option.some.inj h
    simpa [signed, hq.not_gt] using roundMag_nonneg (abs_nonneg q)
  · cases h

namespace Float64

theorem isFinite_iff {x : Float64} : x.isFinite = true ↔ ∃ q, x.toRat? = some q := by
  cases x <;> simp [isFinite, toRat?]

theorem toRat?_add {x y : Float64} {p q : ℚ} (hx : x.toRat? = some p) (hy : y.toRat? = some q) :
    (x.add y).toRat? = fit (p + q) := by
  cases x <;> cases y <;> simp only [toRat?, Option.some.injEq, reduceCtorEq] at hx hy
  rw [add, toRat?_ofRat, hx, hy]

theorem toRat?_neg {x : Float64} {p : ℚ} (hx : x.toRat? = some p) : x.neg.toRat? = some (-p) := by
  cases x with
  | finite negative m =>
    simp only [toRat?, Option.some.injEq] at hx
    rw [← hx]
    cases negative <;> simp [neg, toRat?, signed]
  | _ => simp [toRat?] at hx

theorem toRat?_sub {x y : Float64} {p q : ℚ} (hx : x.toRat? = some p) (hy : y.toRat? = some q) :
    (x.sub y).toRat? = fit (p - q) := by
  rw [sub, toRat?_add hx (toRat?_neg hy), sub_eq_add_neg]

theorem toRat?_abs {x : Float64} {p : ℚ} (hx : x.toRat? = some p) : x.abs.toRat? = some |p| := by
  cases x with
  | finite negative m =>
    simp only [toRat?, Option.some.injEq] at hx
    rw [← hx, abs_signed, abs_of_nonneg m.nonneg, abs, toRat?, signed]
    rfl
  | _ => simp [toRat?] at hx

theorem signed_mul_abs (a b : Bool) {p q : ℚ} (hp : 0 ≤ p) (hq : 0 ≤ q) :
    signed (a != b) |p * q| = signed a p * signed b q := by
  rw [abs_of_nonneg (mul_nonneg hp hq)]
  cases a <;> cases b <;> simp [signed]

theorem toRat?_mul {x y : Float64} {p q : ℚ} (hx : x.toRat? = some p) (hy : y.toRat? = some q) :
    (x.mul y).toRat? = fit (p * q) := by
  cases x <;> cases y <;> simp only [toRat?, Option.some.injEq, reduceCtorEq] at hx hy
  rw [mul, toRat?_ofMag, signed_mul_abs _ _ (Magnitude.nonneg _) (Magnitude.nonneg _), hx, hy]

theorem div_eq_ok {x y : Float64} {p q : ℚ} (hx : x.toRat? = some p) (hy : y.toRat? = some q) (hq : q ≠ 0) :
    ∃ z, x.div y = .ok z ∧ z.toRat? = fit (p / q) := by
  cases x <;> cases y <;> simp only [toRat?, Option.some.injEq, reduceCtorEq] at hx hy
  rename_i a m b n
  have hn : n.value ≠ 0 := by
    intro h
    rw [h, signed_zero] at hy
    exact hq hy.symm
  refine ⟨ofMag (a != b) (m.value / n.value), ?_, ?_⟩
  · simp [div, hn]
  · rw [toRat?_ofMag, div_eq_mul_inv, signed_mul_abs _ _ m.nonneg (inv_nonneg.mpr n.nonneg), ← hx, ← hy]
    cases b <;> simp [signed, div_eq_mul_inv]

theorem lt_iff {x y : Float64} {p q : ℚ} (hx : x.toRat? = some p) (hy : y.toRat? = some q) :
    x.lt y = true ↔ p < q := by
  cases x <;> cases y <;> simp only [toRat?, Option.some.injEq, reduceCtorEq] at hx hy
  rw [lt, hx, hy, decide_eq_true_iff]

theorem beq_iff {x y : Float64} {p q : ℚ} (hx : x.toRat? = some p) (hy : y.toRat? = some q) :
    x.beq y = true ↔ p = q := by
  cases x <;> cases y <;> cases hx <;> cases hy
  simp only [beq, decide_eq_true_eq]

theorem le_iff {x y : Float64} {p q : ℚ} (hx : x.toRat? = some p) (hy : y.toRat? = some q) :
    x.le y = true ↔ p ≤ q := by
  rw [le, Bool.or_eq_true, lt_iff hx hy, le_iff_lt_or_eq]
  cases x <;> cases y <;> simp only [toRat?, Option.some.injEq, reduceCtorEq] at hx hy
  rw [beq, hx, hy, decide_eq_true_iff]

end Float64

/-! ## Bounded floats -/

/-- Finite, and at most a power of two. -/
def Bounded (x : Float64) (e : ℤ) : Prop := ∃ p, x.toRat? = some p ∧ |p| ≤ 2 ^ e

namespace Bounded

variable {x y : Float64} {e : ℤ}

theorem of_fit {q : ℚ} (hx : x.toRat? = fit q) (he : -1074 ≤ e) (he' : e < 1024) (h : |q| ≤ 2 ^ e) : Bounded x e := by
  obtain ⟨r, hr, hle⟩ := fit_of_abs_le he he' h
  exact ⟨r, hx.trans hr, hle⟩

theorem isFinite (h : Bounded x e) : x.isFinite = true := by
  obtain ⟨p, hp, -⟩ := h
  exact Float64.isFinite_iff.mpr ⟨p, hp⟩

theorem mono {e' : ℤ} (h : Bounded x e) (hle : e ≤ e') : Bounded x e' := by
  obtain ⟨p, hp, hb⟩ := h
  exact ⟨p, hp, hb.trans (zpow_le_zpow_right₀ one_le_two hle)⟩

theorem ofInt {n : ℤ} (he : 0 ≤ e) (he' : e < 1024) (h : |(n : ℚ)| ≤ 2 ^ e) : Bounded (Float64.ofInt n) e :=
  of_fit (toRat?_ofRat false n) (by omega) he' h

theorem add (hx : Bounded x e) (hy : Bounded y e) (he : -1074 ≤ e) (he' : e + 1 < 1024) : Bounded (x.add y) (e + 1) := by
  obtain ⟨p, hp, hpe⟩ := hx
  obtain ⟨q, hq, hqe⟩ := hy
  refine of_fit (Float64.toRat?_add hp hq) (by omega) he' ?_
  calc |p + q| ≤ |p| + |q| := abs_add_le p q
    _ ≤ 2 ^ e + 2 ^ e := add_le_add hpe hqe
    _ = 2 ^ (e + 1) := by rw [zpow_add₀ (by norm_num)]; ring

theorem neg (hx : Bounded x e) : Bounded x.neg e := by
  obtain ⟨p, hp, hpe⟩ := hx
  exact ⟨-p, Float64.toRat?_neg hp, by rwa [abs_neg]⟩

theorem sub (hx : Bounded x e) (hy : Bounded y e) (he : -1074 ≤ e) (he' : e + 1 < 1024) : Bounded (x.sub y) (e + 1) :=
  hx.add hy.neg he he'

/-- Rounding to decimals does not cross a whole power of two. -/
theorem round (digits : ℕ) (hx : Bounded x e) (he : 0 ≤ e) (he' : e < 1024) : Bounded (x.round digits) e := by
  obtain ⟨p, hp, hpe⟩ := hx
  cases x with
  | finite negative m =>
    obtain ⟨k, rfl⟩ := Int.eq_ofNat_of_zero_le he
    obtain rfl := Option.some.inj hp
    rw [abs_signed, abs_of_nonneg m.nonneg] at hpe
    refine of_fit (toRat?_ofMag negative _) (by omega) he' ?_
    have hten : (0 : ℚ) < 10 ^ digits := by positivity
    have hle : m.value * 10 ^ digits ≤ ((2 ^ k * 10 ^ digits : ℤ) : ℚ) := by
      push_cast
      refine mul_le_mul_of_nonneg_right ?_ hten.le
      simpa using hpe
    have hround : (roundHalfEven (m.value * 10 ^ digits) : ℚ) ≤ ((2 ^ k * 10 ^ digits : ℤ) : ℚ) := by
      exact_mod_cast roundHalfEven_le hle
    have hnonneg : (0 : ℚ) ≤ roundHalfEven (m.value * 10 ^ digits) := by
      exact_mod_cast roundHalfEven_nonneg (mul_nonneg m.nonneg hten.le)
    rw [abs_signed, abs_abs, abs_of_nonneg (div_nonneg hnonneg hten.le), div_le_iff₀ hten]
    push_cast at hround
    simpa using hround
  | _ => cases hp

end Bounded

/-- The quotient of integers is at most a power of two. -/
theorem exists_intDiv {m n : ℤ} {e : ℤ} (hn : n ≠ 0) (he : -1074 ≤ e) (he' : e < 1024) (h : |(m : ℚ) / n| ≤ 2 ^ e) :
    ∃ x, intDiv m n = .ok x ∧ x.toRat? = fit ((m : ℚ) / n) ∧ Bounded x e := by
  have hval := toRat?_ofRat false ((m : ℚ) / n)
  have hb := Bounded.of_fit hval he he' h
  refine ⟨ofRat false ((m : ℚ) / n), ?_, hval, hb⟩
  rw [intDiv, if_neg hn]
  cases hx : ofRat false ((m : ℚ) / n) with
  | inf negative =>
    have := hb.isFinite
    rw [hx] at this
    cases this
  | _ => rfl

/-- A quotient by what is at least a power of two. -/
theorem Bounded.div {x y : Float64} {e d : ℤ} {q : ℚ} (hx : Bounded x e) (hy : y.toRat? = some q) (hq : 2 ^ d ≤ q)
    (he : -1074 ≤ e - d) (he' : e - d < 1024) : ∃ z, x.div y = .ok z ∧ Bounded z (e - d) := by
  obtain ⟨p, hp, hpe⟩ := hx
  have hpos : 0 < q := (zpow_pos two_pos d).trans_le hq
  obtain ⟨z, hz, hzval⟩ := Float64.div_eq_ok hp hy hpos.ne'
  refine ⟨z, hz, of_fit hzval he he' ?_⟩
  rw [abs_div, abs_of_pos hpos, div_le_iff₀ hpos, zpow_sub₀ (by norm_num)]
  calc |p| ≤ 2 ^ e := hpe
    _ = 2 ^ e / 2 ^ d * 2 ^ d := (div_mul_cancel₀ _ (zpow_pos two_pos d).ne').symm
    _ ≤ 2 ^ e / 2 ^ d * q := mul_le_mul_of_nonneg_left hq (div_pos (zpow_pos two_pos e) (zpow_pos two_pos d)).le

/-- What is at least a power of two stays so. -/
theorem le_fit {q r : ℚ} {e : ℤ} (he : -1074 ≤ e) (hq : 2 ^ e ≤ q) (h : fit q = some r) : 2 ^ e ≤ r := by
  have hpos : 0 < q := (zpow_pos two_pos e).trans_le hq
  unfold fit at h
  split at h
  · obtain rfl := Option.some.inj h
    rw [abs_of_pos hpos, signed, if_neg (by simpa using hpos.le)]
    exact (roundMag_zpow he).symm.le.trans (roundMag_mono (zpow_pos two_pos e).le hq)
  · cases h

/-! ## Errors -/

theorem abs_fit_sub {q : ℚ} {e : ℤ} (he : -1022 ≤ e) (he' : e < 1024) (h : |q| ≤ 2 ^ e) :
    ∃ r, fit q = some r ∧ |r - q| ≤ 2 ^ (e - 53) := by
  obtain ⟨r, hr, -⟩ := fit_of_abs_le (by omega) he' h
  refine ⟨r, hr, ?_⟩
  unfold fit at hr
  split at hr
  · obtain rfl := Option.some.inj hr
    obtain rfl | hq := eq_or_ne q 0
    · simp only [abs_zero, roundMag_zero, signed_zero, sub_zero]
      exact (zpow_pos two_pos _).le
    · have hpos : 0 < |q| := abs_pos.mpr hq
      have hulp : ulp |q| ≤ 2 ^ (e - 52) := by
        have hlog : Int.log 2 |q| ≤ e := by
          calc Int.log 2 |q| ≤ Int.log 2 ((2 : ℚ) ^ e) := Int.log_mono_right hpos h
            _ = e := Int.log_zpow one_lt_two e
        refine zpow_le_zpow_right₀ one_le_two ?_
        unfold lastPlace
        omega
      have hdist : |signed (q < 0) (roundMag |q|) - q| = |roundMag |q| - abs q| := by
        obtain hneg | hnonneg := lt_or_ge q 0
        · rw [decide_eq_true hneg, signed, if_pos rfl, abs_of_neg hneg, ← abs_neg]
          congr 1
          ring
        · rw [decide_eq_false (not_lt.mpr hnonneg), signed, if_neg Bool.false_ne_true, abs_of_nonneg hnonneg]
      rw [hdist]
      calc |roundMag |q| - abs q| ≤ ulp |q| / 2 := abs_roundMag_sub |q|
        _ ≤ 2 ^ (e - 52) / 2 := by linarith
        _ = 2 ^ (e - 53) := by rw [show e - 53 = e - 52 - 1 by ring, zpow_sub_one₀ two_ne_zero]; ring
  · cases hr

/-- A float is its own nearest float. -/
theorem fit_toRat? {x : Float64} {p : ℚ} (hx : x.toRat? = some p) : fit p = some p := by
  cases x with
  | finite negative m =>
    obtain rfl := Option.some.inj hx
    have habs : |signed negative m.value| = m.value := by rw [abs_signed, abs_of_nonneg m.nonneg]
    unfold fit
    rw [habs, m.rounded, if_pos m.bounded]
    obtain hzero | hpos := m.nonneg.eq_or_lt
    · rw [← hzero, signed_zero, signed_zero]
    · rw [decide_signed_neg negative hpos]
  | _ => cases hx

theorem fit_zero : fit 0 = some 0 := by
  rw [fit, abs_zero, roundMag_zero, if_pos (by norm_num [overflow]), signed_zero]

/-- Finite, and close to a rational. -/
def Near (x : Float64) (q ε : ℚ) : Prop := ∃ p, x.toRat? = some p ∧ |p - q| ≤ ε

namespace Near

variable {x y : Float64} {p q a b : ℚ} {e : ℤ}

theorem exact (hx : x.toRat? = some p) : Near x p 0 := ⟨p, hx, by simp⟩

theorem isFinite (h : Near x p a) : x.isFinite = true := by
  obtain ⟨r, hr, -⟩ := h
  exact Float64.isFinite_iff.mpr ⟨r, hr⟩

theorem of_fit (hx : x.toRat? = fit p) (hp : |p - q| ≤ a) (he : -1022 ≤ e) (he' : e < 1024) (h : |q| + a ≤ 2 ^ e) :
    Near x q (a + 2 ^ (e - 53)) := by
  have hbound : |p| ≤ 2 ^ e := by
    calc |p| = |p - q + q| := by rw [sub_add_cancel]
      _ ≤ |p - q| + |q| := abs_add_le _ _
      _ ≤ 2 ^ e := by linarith
  obtain ⟨r, hr, herror⟩ := abs_fit_sub he he' hbound
  refine ⟨r, hx.trans hr, ?_⟩
  calc |r - q| = |(r - p) + (p - q)| := by rw [sub_add_sub_cancel]
    _ ≤ |r - p| + |p - q| := abs_add_le _ _
    _ ≤ a + 2 ^ (e - 53) := by linarith

theorem add (hx : Near x p a) (hy : Near y q b) (he : -1022 ≤ e) (he' : e < 1024) (h : |p + q| + (a + b) ≤ 2 ^ e) :
    Near (x.add y) (p + q) (a + b + 2 ^ (e - 53)) := by
  obtain ⟨r, hr, hra⟩ := hx
  obtain ⟨s, hs, hsb⟩ := hy
  refine of_fit (Float64.toRat?_add hr hs) ?_ he he' h
  calc |r + s - (p + q)| = |(r - p) + (s - q)| := by rw [add_sub_add_comm]
    _ ≤ |r - p| + |s - q| := abs_add_le _ _
    _ ≤ a + b := add_le_add hra hsb

theorem neg (hx : Near x p a) : Near x.neg (-p) a := by
  obtain ⟨r, hr, hra⟩ := hx
  exact ⟨-r, Float64.toRat?_neg hr, by rwa [neg_sub_neg, abs_sub_comm]⟩

theorem sub (hx : Near x p a) (hy : Near y q b) (he : -1022 ≤ e) (he' : e < 1024) (h : |p - q| + (a + b) ≤ 2 ^ e) :
    Near (x.sub y) (p - q) (a + b + 2 ^ (e - 53)) := by
  rw [sub_eq_add_neg] at h ⊢
  exact hx.add hy.neg he he' h

theorem div {c : ℚ} (hx : Near x p a) (hy : Near y q b) (hc : 0 < c) (hq : c ≤ q - b) (hb : 0 ≤ b) (he : -1022 ≤ e)
    (he' : e < 1024) (h : |p / q| + (a + |p / q| * b) / c ≤ 2 ^ e) :
    ∃ z, x.div y = .ok z ∧ Near z (p / q) ((a + |p / q| * b) / c + 2 ^ (e - 53)) := by
  obtain ⟨r, hr, hra⟩ := hx
  obtain ⟨s, hs, hsb⟩ := hy
  have hcs : c ≤ s := by linarith [(abs_le.mp hsb).1]
  have hs0 : 0 < s := hc.trans_le hcs
  have hq0 : 0 < q := by linarith
  obtain ⟨z, hz, hzval⟩ := Float64.div_eq_ok hr hs hs0.ne'
  refine ⟨z, hz, of_fit hzval ?_ he he' h⟩
  have hsplit : r / s - p / q = ((r - p) + p / q * (q - s)) / s := by
    field_simp
    ring
  rw [hsplit, abs_div, abs_of_pos hs0, div_le_div_iff₀ hs0 hc]
  have hnum : |r - p + p / q * (q - s)| ≤ a + |p / q| * b := by
    calc |r - p + p / q * (q - s)| ≤ |r - p| + |p / q * (q - s)| := abs_add_le _ _
      _ = |r - p| + |p / q| * |q - s| := by rw [abs_mul]
      _ ≤ a + |p / q| * b := add_le_add hra (mul_le_mul_of_nonneg_left (by rwa [abs_sub_comm]) (abs_nonneg _))
  exact mul_le_mul hnum hcs hc.le ((abs_nonneg _).trans hnum)

theorem weaken (h : Near x p a) (hpq : p = q) (hab : a ≤ b) : Near x q b := by
  obtain ⟨r, hr, hra⟩ := h
  exact ⟨r, hr, hpq ▸ hra.trans hab⟩

theorem ofInt_zero : (Float64.ofInt 0).toRat? = some 0 := by
  have h := toRat?_ofRat false ((0 : ℤ) : ℚ)
  rwa [Int.cast_zero, fit_zero] at h

theorem ofInt_zero_add (hx : x.toRat? = some p) : ((Float64.ofInt 0).add x).toRat? = some p := by
  rw [Float64.toRat?_add ofInt_zero hx, zero_add, fit_toRat? hx]

theorem sum_single (hx : x.toRat? = some p) : (Float64.sum [x]).toRat? = some p := by
  have hzero : ((Float64.ofInt 0).beq (Float64.ofInt 0) || !(Float64.ofInt 0).isFinite) = true := by decide +kernel
  have hsum : Float64.sum [x] = (Float64.ofInt 0).add x := if_pos hzero
  rw [hsum, ofInt_zero_add hx]

/-- The error of the sum of two floats, whatever the compensation does. -/
theorem sum_pair (hx : x.toRat? = some p) (hy : y.toRat? = some q) (he : -1022 ≤ e) (he' : e + 3 < 1024)
    (hp : |p| ≤ 2 ^ e) (hq : |q| ≤ 2 ^ e) : Near (Float64.sum [x, y]) (p + q) (6 * 2 ^ (e - 50)) := by
  have hδ : (2 : ℚ) ^ (e + 3 - 53) = 2 ^ (e - 50) := by rw [show e + 3 - 53 = e - 50 by ring]
  have hpow : (2 : ℚ) ^ (e + 3) = 8 * 2 ^ e := by rw [zpow_add₀ two_ne_zero]; norm_num; ring
  have hsmall : (2 : ℚ) ^ e = 2 ^ (e - 50) * 2 ^ 50 := by
    rw [← zpow_natCast, ← zpow_add₀ two_ne_zero]
    norm_num
  have hpos : (0 : ℚ) < 2 ^ (e - 50) := zpow_pos two_pos _
  have habs := abs_add_le p q
  generalize (2 : ℚ) ^ (e - 50) = δ at *
  have hstart := exact (ofInt_zero_add hx)
  have hy := exact hy
  have hfits : |p + q| + 6 * δ ≤ 2 ^ (e + 3) := by linarith
  have htotal := hstart.add hy (e := e + 3) (by omega) he' (by linarith)
  rw [hδ] at htotal
  -- either branch recovers what the rounding of the sum has lost, up to its own rounding
  have hlost : Near (if y.abs.le ((Float64.ofInt 0).add x).abs
      then (((Float64.ofInt 0).add x).sub (((Float64.ofInt 0).add x).add y)).add y
      else (y.sub (((Float64.ofInt 0).add x).add y)).add ((Float64.ofInt 0).add x)) 0 (3 * δ) := by
    split
    · have hdiff := hstart.sub htotal (e := e + 3) (by omega) he' (by rw [sub_add_cancel_left, abs_neg]; linarith)
      rw [hδ] at hdiff
      have hsum := hdiff.add hy (e := e + 3) (by omega) he' (by rw [sub_add_cancel_left, neg_add_cancel, abs_zero]; linarith)
      rw [hδ] at hsum
      exact hsum.weaken (by ring) (by linarith)
    · have hdiff := hy.sub htotal (e := e + 3) (by omega) he' (by rw [add_comm p q, sub_add_cancel_left, abs_neg]; linarith)
      rw [hδ] at hdiff
      have hsum := hdiff.add hstart (e := e + 3) (by omega) he'
        (by rw [add_comm p q, sub_add_cancel_left, neg_add_cancel, abs_zero]; linarith)
      rw [hδ] at hsum
      exact hsum.weaken (by ring) (by linarith)
  generalize hrecovered : (if y.abs.le ((Float64.ofInt 0).add x).abs
      then (((Float64.ofInt 0).add x).sub (((Float64.ofInt 0).add x).add y)).add y
      else (y.sub (((Float64.ofInt 0).add x).add y)).add ((Float64.ofInt 0).add x)) = lost at hlost
  have hcomp := (exact ofInt_zero).add hlost (e := e + 3) (by omega) he' (by rw [add_zero, abs_zero]; linarith)
  rw [hδ] at hcomp
  simp only [Float64.sum, List.foldl_cons, List.foldl_nil, Float64.sumStep, hrecovered]
  split
  · exact htotal.weaken rfl (by linarith)
  · have hfinal := htotal.add hcomp (e := e + 3) (by omega) he' (by rw [add_zero, add_zero]; linarith)
    rw [hδ] at hfinal
    exact hfinal.weaken (by ring) (by linarith)

end Near

theorem toRat?_round {x : Float64} {p : ℚ} (digits : ℕ) (hx : x.toRat? = some p) (hp : 0 ≤ p) :
    (x.round digits).toRat? = fit (roundHalfEven (p * 10 ^ digits) / 10 ^ digits) := by
  cases x with
  | finite negative m =>
    obtain rfl := Option.some.inj hx
    have hnonneg : (0 : ℚ) ≤ roundHalfEven (m.value * 10 ^ digits) / 10 ^ digits :=
      div_nonneg (by exact_mod_cast roundHalfEven_nonneg (mul_nonneg m.nonneg (by positivity))) (by positivity)
    have hround := toRat?_ofMag negative (roundHalfEven (m.value * 10 ^ digits) / 10 ^ digits)
    rw [abs_of_nonneg hnonneg] at hround
    refine hround.trans ?_
    cases negative with
    | false => rfl
    | true =>
      have hzero : m.value = 0 := le_antisymm (by simpa [signed] using hp) m.nonneg
      rw [hzero, signed_zero, zero_mul, show roundHalfEven 0 = 0 from roundHalfEven_intCast 0]
      simp
  | _ => cases hx

end Binary64
