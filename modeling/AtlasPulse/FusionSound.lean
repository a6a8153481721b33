import AtlasPulse.RankingSound

/-!
# Exact rank fusion

A score is rounded to eight decimals before hits are sorted by it. No rounding
of admitted ranks merges two exact scores or separates equal ones: the exact
scores of two hits are equal, or more than one unit of the eighth decimal apart.
-/

namespace AtlasPulse

open PyText Binary64

variable {E : Type} (m : RetrievalModel E)

/-! ## Sums of two reciprocals

A rank adds to at least 61 and at most 260. -/

def allBelow (p : Nat → Bool) : Nat → Bool
  | 0 => true
  | n + 1 => p n && allBelow p n

theorem allBelow_iff {p : Nat → Bool} {n : Nat} : allBelow p n = true ↔ ∀ i < n, p i = true := by
  induction n with
  | zero => simp [allBelow]
  | succ n ih =>
    rw [allBelow, Bool.and_eq_true, ih]
    constructor
    · rintro ⟨hn, h⟩ i hi
      obtain rfl | hlt := Nat.eq_or_lt_of_le (Nat.le_of_lt_succ hi)
      · exact hn
      · exact h i hlt
    · exact fun h => ⟨h n (Nat.lt_succ_self n), fun i hi => h i (Nat.lt_succ_of_lt hi)⟩

/-- No `y` up to 260 has `p - y * q = 1` or `y * q - p = 1`. -/
def noQuotient (p q : Nat) : Bool :=
  Nat.blt (Nat.mul 260 q) (Nat.sub p 1) || !(Nat.beq (Nat.mod p q) 1 || Nat.beq (Nat.mod (Nat.succ p) q) 0)

/-- The reciprocals of `x` and of some `y` up to 260 do not sum to almost those
of `u` and `v`, or one of the four numbers is small. -/
def apartAt (x u v : Nat) : Bool :=
  Nat.blt (Nat.mul (Nat.mul x u) (Nat.mul v 260)) 3045000000 ||
    noQuotient (Nat.mul (Nat.mul x u) v) (Nat.sub (Nat.mul x (Nat.add u v)) (Nat.mul u v))

def apartFrom (x u : Nat) : Bool :=
  Nat.blt (Nat.mul (Nat.mul x u) 67600) 3045000000 ||
    allBelow (fun c => apartAt x u (Nat.sub 260 c)) (Nat.sub 261 u)

theorem apart_checked :
    allBelow (fun a => allBelow (fun b => apartFrom (Nat.sub 260 a) (Nat.sub 260 b)) (a + 1)) 87 = true := by
  decide +kernel

theorem apartAt_of_le {x u v : Nat} (hx : 174 ≤ x) (hxu : x ≤ u) (huv : u ≤ v) (hv : v ≤ 260)
    (hlarge : 3045000000 ≤ x * u * (v * 260)) : apartAt x u v = true := by
  have h := allBelow_iff.mp (allBelow_iff.mp apart_checked (260 - x) (by omega)) (260 - u) (by omega)
  rw [show Nat.sub 260 (260 - x) = x from by show 260 - (260 - x) = x; omega,
    show Nat.sub 260 (260 - u) = u from by show 260 - (260 - u) = u; omega, apartFrom, Bool.or_eq_true] at h
  obtain h | h := h
  · have hlt : x * u * 67600 < 3045000000 := by simpa [Nat.blt_eq] using h
    have hle : x * u * (v * 260) ≤ x * u * 67600 := Nat.mul_le_mul_left _ (by omega)
    omega
  · have hv' := allBelow_iff.mp h (260 - v) (by show 260 - v < 261 - u; omega)
    rwa [show Nat.sub 260 (260 - v) = v from by show 260 - (260 - v) = v; omega] at hv'

theorem noQuotient_sound {p q y : Nat} (h : noQuotient p q = true) (hy : y ≤ 260) (hp : 262 < p) :
    p ≠ y * q + 1 ∧ p + 1 ≠ y * q := by
  have hle : y * q ≤ 260 * q := Nat.mul_le_mul_right q hy
  rw [noQuotient, Bool.or_eq_true] at h
  obtain h | h := h
  · have hlt : 260 * q < p - 1 := by simpa [Nat.blt_eq] using h
    constructor <;> omega
  · have hmod : p % q ≠ 1 ∧ (p + 1) % q ≠ 0 := by
      obtain ⟨h1, h2⟩ := Bool.or_eq_false_iff.mp (Bool.not_eq_true' _ |>.mp h)
      exact ⟨Nat.ne_of_beq_eq_false h1, Nat.ne_of_beq_eq_false h2⟩
    constructor
    · rintro rfl
      apply hmod.1
      rw [Nat.mul_add_mod_self_right, Nat.mod_eq_of_lt]
      by_contra hq
      have hq : q ≤ 1 := by omega
      have : y * q ≤ 260 * 1 := Nat.mul_le_mul hy hq
      omega
    · intro heq
      exact hmod.2 (by rw [heq, Nat.mul_mod_left])

/-- The sums of the reciprocals differ by the least that their denominators allow. -/
def Close (x y u v : Nat) : Prop := (x + y) * (u * v) = (u + v) * (x * y) + 1 ∨ (x + y) * (u * v) + 1 = (u + v) * (x * y)

theorem not_close_of_le {x y u v : Nat} (hxu : x ≤ u) (huv : u ≤ v) (hv : v ≤ 260) (hy : y ≤ 260)
    (hlarge : 3045000000 ≤ x * y * (u * v)) : ¬ Close x y u v := by
  have hu : u ≤ 260 := huv.trans hv
  have hx : 174 ≤ x := by
    by_contra hlt
    have h1 : x * y ≤ 173 * 260 := Nat.mul_le_mul (by omega) hy
    have h2 : u * v ≤ 260 * 260 := Nat.mul_le_mul hu hv
    have h3 := Nat.mul_le_mul h1 h2
    omega
  have hsmaller : 3045000000 ≤ x * u * (v * 260) := by
    calc 3045000000 ≤ x * y * (u * v) := hlarge
      _ = x * u * (v * y) := by ring
      _ ≤ x * u * (v * 260) := Nat.mul_le_mul_left _ (Nat.mul_le_mul_left v hy)
  have hp : 262 < x * u * v := by
    have h1 : 174 * 174 ≤ x * u := Nat.mul_le_mul hx (by omega)
    have h2 := Nat.mul_le_mul h1 (show 174 ≤ v by omega)
    omega
  have hcheck := apartAt_of_le hx hxu huv hv hsmaller
  rw [apartAt, Bool.or_eq_true] at hcheck
  have hquotient : noQuotient (x * u * v) (x * (u + v) - u * v) = true := by
    obtain h | h := hcheck
    · have hlt : x * u * (v * 260) < 3045000000 := by simpa [Nat.blt_eq] using h
      omega
    · exact h
  obtain ⟨h1, h2⟩ := noQuotient_sound hquotient hy hp
  have hleft : (x + y) * (u * v) = x * u * v + y * (u * v) := by ring
  have hright : (u + v) * (x * y) = y * (x * (u + v)) := by ring
  unfold Close
  rw [hleft, hright]
  obtain hle | hlt := le_or_gt (u * v) (x * (u + v))
  · have hsplit : y * (x * (u + v)) = y * (x * (u + v) - u * v) + y * (u * v) := by
      rw [← Nat.mul_add, Nat.sub_add_cancel hle]
    omega
  · have hle : y * (x * (u + v)) ≤ y * (u * v) := Nat.mul_le_mul_left y hlt.le
    omega

theorem Close.swap {x y u v : Nat} (h : Close x y u v) : Close u v x y := by
  unfold Close at *
  omega

theorem Close.comm_left {x y u v : Nat} (h : Close x y u v) : Close y x u v := by
  unfold Close at *
  rw [Nat.add_comm y x, Nat.mul_comm y x]
  exact h

/-- **Gaps.** Different sums of two reciprocals are not close. -/
theorem not_close {x y u v : Nat} (hx : x ≤ 260) (hy : y ≤ 260) (hu : u ≤ 260) (hv : v ≤ 260)
    (hlarge : 3045000000 ≤ x * y * (u * v)) : ¬ Close x y u v := by
  wlog hxy : x ≤ y generalizing x y
  · exact fun h => this hy hx (by rwa [Nat.mul_comm y x]) (le_of_not_ge hxy) h.comm_left
  wlog huv : u ≤ v generalizing u v
  · exact fun h => this hv hu (by rwa [Nat.mul_comm v u]) (le_of_not_ge huv) h.swap.comm_left.swap
  obtain hxu | hux := Nat.le_total x u
  · exact not_close_of_le hxu huv hv hy hlarge
  · exact fun h => not_close_of_le hux hxy hy hv (by rwa [Nat.mul_comm]) h.swap

/-! ## Admitted ranks -/

/-- A rank that a channel can give. -/
def AdmittedRank (rank : Nat) : Prop := 1 ≤ rank ∧ rank ≤ 200

/-- The ranks of a hit: one channel's or both. -/
inductive Admitted : List Nat → Prop
  | one {a : Nat} (ha : AdmittedRank a) : Admitted [a]
  | both {a b : Nat} (ha : AdmittedRank a) (hb : AdmittedRank b) : Admitted [a, b]

/-- The reciprocal rank sum as a fraction. -/
def fraction : List Nat → Nat × Nat
  | [a] => (1, rrfK + a)
  | [a, b] => ((rrfK + a) + (rrfK + b), (rrfK + a) * (rrfK + b))
  | _ => (0, 1)

variable {ranks ranks' : List Nat}

theorem Admitted.length_le (h : Admitted ranks) : ranks.length ≤ 2 := by
  cases h <;> simp

theorem Admitted.denominator (h : Admitted ranks) : 0 < (fraction ranks).2 ∧ (fraction ranks).2 ≤ 67600 := by
  cases h with
  | one ha =>
    simp only [fraction, rrfK, AdmittedRank] at *
    omega
  | both ha hb =>
    simp only [fraction, rrfK, AdmittedRank] at *
    exact ⟨Nat.mul_pos (by omega) (by omega), Nat.mul_le_mul (show 60 + _ ≤ 260 by omega) (show 60 + _ ≤ 260 by omega)⟩

/-- The exact score in units of the eighth decimal. -/
theorem scaled_eq (h : Admitted ranks) :
    exactScore ranks * 10 ^ 8 = 3050000000 * (fraction ranks).1 / (fraction ranks).2 := by
  cases h with
  | @one a ha =>
    have hpos : (0 : ℚ) < (rrfK + a : Nat) := by exact_mod_cast (show 0 < rrfK + a by unfold rrfK; omega)
    simp only [exactScore, exactSum, fraction, List.map_cons, List.map_nil, List.sum_cons, List.sum_nil]
    field_simp
    norm_num
  | @both a b ha hb =>
    have hpos : (0 : ℚ) < (rrfK + a : Nat) := by exact_mod_cast (show 0 < rrfK + a by unfold rrfK; omega)
    have hpos' : (0 : ℚ) < (rrfK + b : Nat) := by exact_mod_cast (show 0 < rrfK + b by unfold rrfK; omega)
    simp only [exactScore, exactSum, fraction, List.map_cons, List.map_nil, List.sum_cons, List.sum_nil]
    rw [Nat.cast_mul, Nat.cast_add (rrfK + a)]
    field_simp
    ring

/-- Different fractions are more than one unit apart. -/
theorem fraction_gap (h : Admitted ranks) (h' : Admitted ranks')
    (hlt : (fraction ranks).1 * (fraction ranks').2 < (fraction ranks').1 * (fraction ranks).2) :
    (fraction ranks).2 * (fraction ranks').2 <
      3050000000 * ((fraction ranks').1 * (fraction ranks).2 - (fraction ranks).1 * (fraction ranks').2) := by
  have hd := h.denominator
  have hd' := h'.denominator
  have hboth := Nat.mul_le_mul hd.2 hd'.2
  by_contra hclose
  have hone : (fraction ranks').1 * (fraction ranks).2 = (fraction ranks).1 * (fraction ranks').2 + 1 := by omega
  have hlarge : 3045000000 ≤ (fraction ranks).2 * (fraction ranks').2 := by omega
  cases h with
  | @one a ha =>
    have hsmall : (fraction [a]).2 ≤ 260 := by
      simp only [fraction, rrfK, AdmittedRank] at *
      omega
    have := Nat.mul_le_mul hsmall hd'.2
    omega
  | @both a b ha hb =>
    cases h' with
    | @one c hc =>
      have hsmall : (fraction [c]).2 ≤ 260 := by
        simp only [fraction, rrfK, AdmittedRank] at *
        omega
      have := Nat.mul_le_mul hd.2 hsmall
      omega
    | both hc he =>
      simp only [fraction, rrfK, AdmittedRank] at *
      exact not_close (by omega) (by omega) (by omega) (by omega) hlarge (Or.inr hone.symm)

theorem score_gap (h : Admitted ranks) (h' : Admitted ranks') (hlt : exactScore ranks < exactScore ranks') :
    exactScore ranks * 10 ^ 8 + 1 < exactScore ranks' * 10 ^ 8 := by
  have hd : (0 : ℚ) < (fraction ranks).2 := by exact_mod_cast h.denominator.1
  have hd' : (0 : ℚ) < (fraction ranks').2 := by exact_mod_cast h'.denominator.1
  have hscaled : exactScore ranks * 10 ^ 8 < exactScore ranks' * 10 ^ 8 := by linarith
  rw [scaled_eq h, scaled_eq h'] at hscaled ⊢
  rw [div_lt_div_iff₀ hd hd', mul_assoc, mul_assoc, mul_lt_mul_iff_right₀ (by norm_num)] at hscaled
  have hgap := fraction_gap h h' (by exact_mod_cast hscaled)
  have hcast : ((fraction ranks).2 : ℚ) * (fraction ranks').2 <
      3050000000 * ((fraction ranks').1 * (fraction ranks).2 - (fraction ranks).1 * (fraction ranks').2) := by
    have hle : (fraction ranks).1 * (fraction ranks').2 ≤ (fraction ranks').1 * (fraction ranks).2 := by
      exact_mod_cast hscaled.le
    have := Nat.cast_lt (α := ℚ).mpr hgap
    rw [Nat.cast_mul, Nat.cast_mul, Nat.cast_sub hle] at this
    push_cast at this
    exact this
  rw [← sub_pos] at hcast ⊢
  have hform : 3050000000 * ((fraction ranks').1 : ℚ) / (fraction ranks').2 -
      (3050000000 * (fraction ranks).1 / (fraction ranks).2 + 1) =
      (3050000000 * ((fraction ranks').1 * (fraction ranks).2 - (fraction ranks).1 * (fraction ranks').2) -
        (fraction ranks).2 * (fraction ranks').2) / ((fraction ranks).2 * (fraction ranks').2) := by
    field_simp
    ring
  rw [hform]
  exact div_pos hcast (mul_pos hd hd')

/-! ## Ties -/

/-- The partners of rank 196 in the scores that lie halfway between two decimals. -/
def tiedPartners : List Nat := [1, 4, 20, 40, 62, 65, 68, 100, 140, 184, 190]

/-- The ranks whose exact score lies halfway between two decimals. -/
def tiedRanks : List (List Nat) := [196] :: tiedPartners.flatMap fun rank => [[rank, 196], [196, rank]]

/-- A halfway score needs a denominator that 256 divides. -/
theorem dvd_of_halfway {x y n k : Nat} (hx : 0 < x) (hy : 0 < y) (hn : n % 2 = 1) (h : 256 * k * (x + y) = n * (x * y)) :
    256 ∣ x ∨ 256 ∣ y := by
  obtain ⟨a, x', hx', rfl⟩ := Nat.exists_eq_two_pow_mul_odd hx.ne'
  obtain ⟨b, y', hy', rfl⟩ := Nat.exists_eq_two_pow_mul_odd hy.ne'
  by_contra hno
  obtain ⟨hna, hnb⟩ := not_or.mp hno
  have ha : a < 8 := by
    by_contra hle
    exact hna ((pow_dvd_pow 2 (not_lt.mp hle)).mul_right x')
  have hb : b < 8 := by
    by_contra hle
    exact hnb ((pow_dvd_pow 2 (not_lt.mp hle)).mul_right y')
  wlog hab : a ≤ b generalizing a b x' y'
  · exact this b y' hy' hy a x' hx' hx (by rw [Nat.add_comm, h]; ring) (fun h => hno h.symm) hnb hna hb ha
      (le_of_not_ge hab)
  obtain ⟨c, rfl⟩ := Nat.exists_eq_add_of_le hab
  obtain ⟨d, hd⟩ := Nat.exists_eq_add_of_lt hb
  have hodd : Odd (n * (x' * y')) := (Nat.odd_iff.mpr hn).mul (hx'.mul hy')
  have hcancel : 2 ^ (a + (a + c)) * (n * (x' * y')) =
      2 ^ (a + (a + c)) * (2 ^ (d + 1) * (k * (x' + 2 ^ c * y'))) := by
    calc 2 ^ (a + (a + c)) * (n * (x' * y')) = n * (2 ^ a * x' * (2 ^ (a + c) * y')) := by ring
      _ = 256 * k * (2 ^ a * x' + 2 ^ (a + c) * y') := h.symm
      _ = 2 ^ (a + c + d + 1) * k * (2 ^ a * x' + 2 ^ (a + c) * y') := by rw [← hd]; norm_num
      _ = 2 ^ (a + (a + c)) * (2 ^ (d + 1) * (k * (x' + 2 ^ c * y'))) := by ring
  have heq := Nat.eq_of_mul_eq_mul_left (by positivity) hcancel
  rw [heq] at hodd
  exact Nat.not_odd_iff_even.mpr (⟨2 ^ d * (k * (x' + 2 ^ c * y')), by ring⟩) hodd

theorem tied_checked : ∀ y < 261, 61 ≤ y → 6100000000 * (256 + y) % (256 * y) = 0 →
    6100000000 * (256 + y) / (256 * y) % 2 = 1 → tiedPartners.contains (y - 60) = true := by
  decide +kernel

theorem tied_pair {x y n : Nat} (hx : 61 ≤ x) (hx' : x ≤ 260) (hy : 61 ≤ y) (hy' : y ≤ 260) (hdvd : 256 ∣ x)
    (hn : n % 2 = 1) (h : 6100000000 * (x + y) = n * (x * y)) : x = 256 ∧ y - 60 ∈ tiedPartners := by
  obtain rfl : x = 256 := by
    obtain ⟨k, rfl⟩ := hdvd
    omega
  refine ⟨rfl, List.contains_iff_mem.mp (tied_checked y (by omega) hy ?_ ?_)⟩
  · rw [h, Nat.mul_mod_left]
  · rw [h, Nat.mul_div_cancel _ (by omega)]
    exact hn

theorem mem_tiedRanks (h : Admitted ranks) {n : Nat} (hn : n % 2 = 1)
    (htie : 6100000000 * (fraction ranks).1 = n * (fraction ranks).2) : ranks ∈ tiedRanks := by
  cases h with
  | @one a ha =>
    simp only [fraction, rrfK, AdmittedRank] at *
    have hdvd : 2 ^ 8 ∣ 60 + a := by
      have hcoprime : Nat.Coprime (2 ^ 8) n := Nat.Coprime.pow_left 8 ((Nat.coprime_two_left).mpr (Nat.odd_iff.mpr hn))
      exact hcoprime.dvd_of_dvd_mul_left ⟨61 * 5 ^ 8, by omega⟩
    obtain ⟨k, hk⟩ := hdvd
    obtain rfl : a = 196 := by omega
    exact List.mem_cons_self
  | @both a b ha hb =>
    simp only [fraction, rrfK, AdmittedRank] at *
    have hpair : 256 * 23828125 * ((60 + a) + (60 + b)) = n * ((60 + a) * (60 + b)) := by omega
    refine List.mem_cons_of_mem _ (List.mem_flatMap.mpr ?_)
    obtain hdvd | hdvd := dvd_of_halfway (by omega) (by omega) hn hpair
    · obtain ⟨hx, hy⟩ := tied_pair (by omega) (by omega) (by omega) (by omega) hdvd hn htie
      obtain rfl : a = 196 := by omega
      rw [Nat.add_sub_cancel_left] at hy
      exact ⟨b, hy, by simp⟩
    · obtain ⟨hx, hy⟩ := tied_pair (x := 60 + b) (y := 60 + a) (by omega) (by omega) (by omega) (by omega) hdvd hn
        (by rw [Nat.add_comm, htie, Nat.mul_comm (60 + a)])
      obtain rfl : b = 196 := by omega
      rw [Nat.add_sub_cancel_left] at hy
      exact ⟨a, hy, by simp⟩

/-! ## Rounding -/

theorem score_bounds (h : Admitted ranks) : 1 / 10 ^ 4 ≤ exactScore ranks ∧ exactScore ranks ≤ 61 / 60 := by
  obtain ⟨hpos, hle⟩ := h.denominator
  have hone : 1 ≤ (fraction ranks).1 := by
    cases h with
    | one ha => exact le_rfl
    | both ha hb =>
      simp only [fraction, rrfK]
      omega
  have hscaled := scaled_eq h
  have hposq : (0 : ℚ) < (fraction ranks).2 := by exact_mod_cast hpos
  have hleq : ((fraction ranks).2 : ℚ) ≤ 67600 := by exact_mod_cast hle
  have honeq : (1 : ℚ) ≤ (fraction ranks).1 := by exact_mod_cast hone
  constructor
  · have hlow : 10 ^ 4 ≤ 3050000000 * ((fraction ranks).1 : ℚ) / (fraction ranks).2 := by
      rw [le_div_iff₀ hposq]
      linarith
    rw [← hscaled] at hlow
    linarith
  · obtain ⟨-, hsum⟩ := exactSum_bounds h.length_le
    rw [exactScore, div_le_iff₀ (by norm_num)]
    linarith

/-- A fraction of a small denominator is not just beyond halfway. -/
theorem nearest_of_close {k n : ℤ} {d : ℕ} (hd : 0 < d) (hd' : d ≤ 67600)
    (h : |(k : ℚ) - n / (2 * d)| ≤ 1 / 2 + 1 / 10 ^ 6) : |(k : ℚ) - n / (2 * d)| ≤ 1 / 2 := by
  have hpos : (0 : ℚ) < 2 * d := by exact_mod_cast (show 0 < 2 * d by omega)
  have hle : (d : ℚ) ≤ 67600 := by exact_mod_cast hd'
  have hscaled : |(k : ℚ) - n / (2 * d)| * (2 * d) = ((|2 * k * d - n| : ℤ) : ℚ) := by
    rw [← abs_of_pos hpos, ← abs_mul, abs_of_pos hpos, Int.cast_abs, sub_mul, div_mul_cancel₀ _ hpos.ne']
    push_cast
    ring_nf
  have hlt : |2 * k * d - n| < (d : ℤ) + 1 := by
    have hmul := mul_le_mul_of_nonneg_right h hpos.le
    rw [hscaled] at hmul
    have : ((|2 * k * d - n| : ℤ) : ℚ) < d + 1 := by linarith
    exact_mod_cast this
  have hcast : ((|2 * k * d - n| : ℤ) : ℚ) ≤ d := by exact_mod_cast Int.lt_add_one_iff.mp hlt
  rw [← hscaled] at hcast
  by_contra hfar
  have := mul_lt_mul_of_pos_right (not_le.mp hfar) hpos
  linarith

/-- The rounded score is a decimal nearest to the exact score. -/
theorem rounded_score (h : Admitted ranks) : ∃ x, ∃ k : ℤ, scoreOf ranks = .ok x ∧
    |k - exactScore ranks * 10 ^ 8| ≤ 1 / 2 ∧ (x.round 8).toRat? = fit (k / 10 ^ 8) := by
  obtain ⟨x, hx, p, hp, herror⟩ := near_score h.length_le
  obtain ⟨hlow, -⟩ := score_bounds h
  rw [abs_le] at herror
  have hnonneg : 0 ≤ p := by linarith
  refine ⟨x, roundHalfEven (p * 10 ^ 8), hx, ?_, toRat?_round 8 hp hnonneg⟩
  have hround := abs_roundHalfEven_sub (p * 10 ^ 8)
  generalize roundHalfEven (p * 10 ^ 8) = k at hround ⊢
  rw [abs_le] at hround
  obtain ⟨n, hn⟩ : ∃ n : ℤ, exactScore ranks * 10 ^ 8 = n / (2 * (fraction ranks).2) := by
    refine ⟨6100000000 * (fraction ranks).1, ?_⟩
    rw [scaled_eq h, Int.cast_mul, Int.cast_natCast, ← mul_div_mul_left _ _ (two_ne_zero (α := ℚ))]
    norm_num
    ring
  have hclose : |k - exactScore ranks * 10 ^ 8| ≤ 1 / 2 + 1 / 10 ^ 6 := by
    rw [abs_le]
    constructor <;> linarith
  rw [hn] at hclose ⊢
  exact nearest_of_close h.denominator.1 h.denominator.2 hclose

theorem decimal_fit {k : ℤ} (h : |(k : ℚ) / 10 ^ 8| ≤ 2) :
    ∃ p, fit (k / 10 ^ 8) = some p ∧ |p - k / 10 ^ 8| ≤ 2 ^ (-52 : ℤ) := by
  have h2 : |(k : ℚ) / 10 ^ 8| ≤ 2 ^ (1 : ℤ) := by
    rw [zpow_one]
    exact h
  obtain ⟨p, hp, herror⟩ := abs_fit_sub (by norm_num) (by norm_num) h2
  exact ⟨p, hp, herror.trans (by norm_num)⟩

/-- Decimals of different scores have different floats. -/
theorem fit_lt_fit {j k : ℤ} {p q : ℚ} (hjk : j < k) (hj : |(j : ℚ) / 10 ^ 8| ≤ 2) (hk : |(k : ℚ) / 10 ^ 8| ≤ 2)
    (hp : fit (j / 10 ^ 8) = some p) (hq : fit (k / 10 ^ 8) = some q) : p < q := by
  obtain ⟨p', hp', hpe⟩ := decimal_fit hj
  obtain ⟨q', hq', hqe⟩ := decimal_fit hk
  obtain rfl := Option.some.inj (hp.symm.trans hp')
  obtain rfl := Option.some.inj (hq.symm.trans hq')
  have hstep : (j : ℚ) + 1 ≤ k := by exact_mod_cast hjk
  rw [abs_le] at hpe hqe
  norm_num at hpe hqe
  linarith [hpe.2, hqe.1]

theorem tied_scores_checked : ∀ a ∈ tiedRanks, ∀ b ∈ tiedRanks, exactScore a = exactScore b →
    (scoreOf a).toOption.map (Float64.round 8) = (scoreOf b).toOption.map (Float64.round 8) := by
  decide +kernel

/-! ## Order -/

/-- The float of a rounded score. -/
structure Scored (ranks : List Nat) (score : Float64) : Prop where
  exact : ∃ k : ℤ, |k - exactScore ranks * 10 ^ 8| ≤ 1 / 2 ∧ score.toRat? = fit (k / 10 ^ 8)
  computed : (scoreOf ranks).toOption.map (Float64.round 8) = some score

theorem scored_of_rounds (h : Admitted ranks) {x : Float64} (hx : scoreOf ranks = .ok x) : Scored ranks (x.round 8) := by
  obtain ⟨y, k, hy, hk, hround⟩ := rounded_score h
  obtain rfl := Except.ok.inj (hx.symm.trans hy)
  exact ⟨⟨k, hk, hround⟩, by rw [hx]; rfl⟩

theorem decimal_bound (h : Admitted ranks) {k : ℤ} (hk : |k - exactScore ranks * 10 ^ 8| ≤ 1 / 2) :
    |(k : ℚ) / 10 ^ 8| ≤ 2 := by
  obtain ⟨hlow, hhigh⟩ := score_bounds h
  rw [abs_le] at hk ⊢
  constructor
  · rw [le_div_iff₀ (by norm_num)]
    linarith
  · rw [div_le_iff₀ (by norm_num)]
    linarith

variable {x y : Float64}

/-- A larger exact score has a larger float. -/
theorem value_lt_of_lt (h : Admitted ranks) (h' : Admitted ranks') (hx : Scored ranks x) (hy : Scored ranks' y)
    (hlt : exactScore ranks < exactScore ranks') : value x < value y := by
  obtain ⟨j, hj, hxj⟩ := hx.exact
  obtain ⟨k, hk, hyk⟩ := hy.exact
  have hjk : j < k := by
    have hgap := score_gap h h' hlt
    rw [abs_le] at hj hk
    have : (j : ℚ) < k := by linarith [hj.2, hk.1]
    exact_mod_cast this
  have hjb := decimal_bound h hj
  have hkb := decimal_bound h' hk
  obtain ⟨p, hp, -⟩ := decimal_fit hjb
  obtain ⟨q, hq, -⟩ := decimal_fit hkb
  have hvalue : value x = p ∧ value y = q := by
    constructor
    · rw [value, hxj, hp]
      rfl
    · rw [value, hyk, hq]
      rfl
  rw [hvalue.1, hvalue.2]
  exact fit_lt_fit hjk hjb hkb hp hq

/-- Equal exact scores have equal floats, also where they lie halfway between
two decimals. -/
theorem value_eq_of_eq (h : Admitted ranks) (h' : Admitted ranks') (hx : Scored ranks x) (hy : Scored ranks' y)
    (heq : exactScore ranks = exactScore ranks') : value x = value y := by
  obtain ⟨j, hj, hxj⟩ := hx.exact
  obtain ⟨k, hk, hyk⟩ := hy.exact
  obtain rfl | hne := eq_or_ne j k
  · rw [value, value, hxj, hyk]
  · have htwice : exactScore ranks * 10 ^ 8 * 2 = ((j + k : ℤ) : ℚ) ∧ (j + k) % 2 = 1 := by
      rw [← heq] at hk
      rw [abs_le] at hj hk
      have hjk : j = k + 1 ∨ k = j + 1 := by
        have h1 : (j : ℚ) ≤ k + 1 := by linarith [hj.2, hk.1]
        have h2 : (k : ℚ) ≤ j + 1 := by linarith [hk.2, hj.1]
        have h1' : j ≤ k + 1 := by exact_mod_cast h1
        have h2' : k ≤ j + 1 := by exact_mod_cast h2
        omega
      obtain rfl | rfl := hjk
      · push_cast at hj hk ⊢
        exact ⟨by linarith [hj.1, hk.2], by omega⟩
      · push_cast at hj hk ⊢
        exact ⟨by linarith [hk.1, hj.2], by omega⟩
    have hmem : ∀ {r : List Nat}, Admitted r → exactScore r = exactScore ranks → r ∈ tiedRanks := by
      intro r hr hscore
      have hd : (0 : ℚ) < (fraction r).2 := by exact_mod_cast hr.denominator.1
      have hform := htwice.1
      rw [← hscore, scaled_eq hr, div_mul_eq_mul_div, div_eq_iff hd.ne'] at hform
      have hint : 6100000000 * ((fraction r).1 : ℤ) = (j + k) * (fraction r).2 := by
        have : 6100000000 * ((fraction r).1 : ℚ) = ((j + k : ℤ) : ℚ) * (fraction r).2 := by linarith
        exact_mod_cast this
      obtain ⟨n, hn⟩ : ∃ n : ℕ, j + k = n := by
        refine Int.eq_ofNat_of_zero_le ?_
        by_contra hneg
        have hd' : (0 : ℤ) < (fraction r).2 := by exact_mod_cast hr.denominator.1
        have := mul_neg_of_neg_of_pos (not_le.mp hneg) hd'
        omega
      rw [hn] at hint
      exact mem_tiedRanks hr (n := n) (by have := htwice.2; omega) (by exact_mod_cast hint)
    have htied := tied_scores_checked ranks (hmem h rfl) ranks' (hmem h' heq.symm) heq
    rw [hx.computed, hy.computed] at htied
    rw [Option.some.inj htied]

/-! ## Hybrid ranking -/

/-- The ranks that a hit carries. -/
def hitRanks (hit : SearchHit E) : List Nat := hit.ranking.lexicalRank.toList ++ hit.ranking.denseRank.toList

/-- The tie-breakers: the exact phrase, the coverage, and the identity. -/
def tieBreak (hit : SearchHit E) : ℕ ×ₗ ℚ ×ₗ String ×ₗ String :=
  toLex (if hit.ranking.exactPhraseMatch then 0 else 1, toLex (-value hit.ranking.tokenCoverage, toLex (hitKey m hit)))

/-- Every rank of a batch is one that a channel can give. -/
def AdmittedBatch (batch : CandidateBatch E) : Prop := ∀ c ∈ batch.lexical ++ batch.dense, AdmittedRank c.rank

theorem admitted_of_options {a b : Option Nat} (ha : ∀ r ∈ a, AdmittedRank r) (hb : ∀ r ∈ b, AdmittedRank r)
    (hsome : a.isSome ∨ b.isSome) : Admitted (a.toList ++ b.toList) := by
  cases a with
  | none =>
    cases b with
    | none => simp at hsome
    | some b => exact .one (hb b rfl)
  | some a =>
    cases b with
    | none => exact .one (ha a rfl)
    | some b => exact .both (ha a rfl) (hb b rfl)

/-- What one candidate leaves merged has admitted ranks. -/
def AdmittedMerge (merged : MergedCandidate E) : Prop :=
  (∀ r ∈ merged.lexicalRank, AdmittedRank r) ∧ (∀ r ∈ merged.denseRank, AdmittedRank r) ∧
    (merged.lexicalRank.isSome ∨ merged.denseRank.isSome)

theorem admitted_mergeInto {isLexical : Bool} {current : Option (MergedCandidate E)} {candidate : ChannelCandidate E}
    (hcurrent : ∀ merged ∈ current, AdmittedMerge merged) (hcandidate : AdmittedRank candidate.rank) :
    AdmittedMerge (mergeInto isLexical current candidate) := by
  obtain ⟨hlexical, -, hdense, -⟩ := mergeInto_ranks isLexical current candidate
  unfold AdmittedMerge
  rw [hlexical, hdense]
  have hold : (∀ r ∈ current.bind (·.lexicalRank), AdmittedRank r) ∧ ∀ r ∈ current.bind (·.denseRank), AdmittedRank r := by
    cases current with
    | none => simp
    | some merged => exact ⟨(hcurrent merged rfl).1, (hcurrent merged rfl).2.1⟩
  cases isLexical with
  | true => exact ⟨fun r hr => Option.some.inj hr ▸ hcandidate, hold.2, Or.inl rfl⟩
  | false => exact ⟨hold.1, fun r hr => Option.some.inj hr ▸ hcandidate, Or.inr rfl⟩

theorem admitted_mergeBatch {batch : CandidateBatch E} (h : AdmittedBatch batch) :
    ∀ item ∈ mergeBatch m batch, AdmittedMerge item.2 :=
  mergeBatch_induction m (P := fun _ merged => AdmittedMerge merged) fun _ c hc _ hcurrent =>
    admitted_mergeInto hcurrent (h c hc)

theorem scored_hit {batch : CandidateBatch E} (h : AdmittedBatch batch) {queryText : String} {hits : List (SearchHit E)}
    (hhits : hitsOf m queryText batch = .ok hits) {hit : SearchHit E} (hhit : hit ∈ hits) :
    Admitted (hitRanks hit) ∧ Scored (hitRanks hit) hit.ranking.rrfScore := by
  obtain ⟨item, hitem, hok⟩ := (mem_mapM hhits).1 hit hhit
  have hranks := ranks_of_rankedHit m hok
  obtain ⟨hl, hd, hsome⟩ := admitted_mergeBatch m h item hitem
  have hsame : hitRanks hit = ranksOf item.2 := by rw [hitRanks, ranksOf, hranks.lexicalRank, hranks.denseRank]
  have hadmitted : Admitted (ranksOf item.2) := admitted_of_options hl hd hsome
  obtain ⟨x, hx, hround⟩ := hranks.rrfScore
  rw [hsame, hround]
  exact ⟨hadmitted, scored_of_rounds hadmitted hx⟩

/-- **Exact fusion.** Hybrid ranking orders hits by their exact reciprocal rank
scores, asks the tie-breakers only when these are equal, and shows the exact
scores rounded to eight decimals. -/
theorem hybrid_follows_exact_fusion {batch : CandidateBatch E} (h : AdmittedBatch batch) (queryText : String)
    (limit : Nat) :
    ∃ hits, rankCandidates m batch queryText limit .hybrid = .ok hits ∧
      hits.Pairwise (fun a b => exactScore (hitRanks b) < exactScore (hitRanks a) ∨
        exactScore (hitRanks a) = exactScore (hitRanks b) ∧ tieBreak m a ≤ tieBreak m b) ∧
      ∀ hit ∈ hits, ∃ k : ℤ, |k - exactScore (hitRanks hit) * 10 ^ 8| ≤ 1 / 2 ∧
        hit.ranking.rrfScore.toRat? = fit (k / 10 ^ 8) := by
  obtain ⟨hits, hhits⟩ := exists_hitsOf m queryText batch
  have hmem : ∀ hit ∈ ((hits.filter (rankedBy .hybrid)).insertionSort fun a b =>
      ranksBefore m .hybrid a b = true).take limit, hit ∈ hits := fun hit hhit =>
    List.mem_of_mem_filter ((List.mem_insertionSort _).mp (List.mem_of_mem_take hhit))
  refine ⟨_, rankCandidates_eq m hhits limit .hybrid, ?_, ?_⟩
  · have hsorted := (@pairwise_sorted E m .hybrid (hits.filter (rankedBy .hybrid)) fun hit hhit =>
      comparable_hits m hhits hit (List.mem_of_mem_filter hhit)).sublist (List.take_sublist limit _)
    refine hsorted.imp_of_mem fun {a b} ha hb hab => ?_
    obtain ⟨hra, hsa⟩ := scored_hit m h hhits (hmem a ha)
    obtain ⟨hrb, hsb⟩ := scored_hit m h hhits (hmem b hb)
    obtain hlt | ⟨heq, hrest⟩ := Prod.Lex.toLex_le_toLex.mp hab
    · left
      obtain hab | hab | hab := lt_trichotomy (exactScore (hitRanks a)) (exactScore (hitRanks b))
      · exact absurd (value_lt_of_lt hra hrb hsa hsb hab) (not_lt.mpr (neg_lt_neg_iff.mp hlt).le)
      · exact absurd (value_eq_of_eq hra hrb hsa hsb hab) (neg_lt_neg_iff.mp hlt).ne'
      · exact hab
    · right
      refine ⟨?_, hrest⟩
      obtain hab | hab | hab := lt_trichotomy (exactScore (hitRanks a)) (exactScore (hitRanks b))
      · exact absurd (neg_inj.mp heq) (value_lt_of_lt hra hrb hsa hsb hab).ne
      · exact hab
      · exact absurd (neg_inj.mp heq) (value_lt_of_lt hrb hra hsb hsa hab).ne'
  · intro hit hhit
    exact (scored_hit m h hhits (hmem hit hhit)).2.exact

open QuakePack in
theorem hybrid_follows_exact_fusion_quakes :
    ∃ hits, rankCandidates reports found "earthquake" 10 .hybrid = .ok hits ∧
      hits.Pairwise (fun a b => exactScore (hitRanks b) < exactScore (hitRanks a) ∨
        exactScore (hitRanks a) = exactScore (hitRanks b) ∧ tieBreak reports a ≤ tieBreak reports b) ∧
      ∀ hit ∈ hits, ∃ k : ℤ, |k - exactScore (hitRanks hit) * 10 ^ 8| ≤ 1 / 2 ∧
        hit.ranking.rrfScore.toRat? = fit (k / 10 ^ 8) :=
  hybrid_follows_exact_fusion reports (by simp [AdmittedBatch, AdmittedRank, found]) "earthquake" 10

end AtlasPulse
