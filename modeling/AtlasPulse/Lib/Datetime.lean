import AtlasPulse.Lib.Digits

/-!
# Python datetimes

A `datetime` is a wall clock, in microseconds since 0001-01-01T00:00:00, with
an optional UTC offset. `isoformat` is the standard library's text form. For
UTC datetimes the text order is the order of time, although the fractional
part is left out when it is zero: `+` sorts before `.`.
-/

namespace PyTime

open Digits

/-! ## The proleptic Gregorian calendar -/

def daysBeforeYear (y : Nat) : Nat := (y - 1) * 365 + (y - 1) / 4 - (y - 1) / 100 + (y - 1) / 400

/-- Year of a zero-based day number, by 400, 100, 4 and 1 year cycles. -/
def yearOf (d : Nat) : Nat :=
  let n400 := d / 146097
  let n100 := d % 146097 / 36524
  let n4 := d % 146097 % 36524 / 1461
  let n1 := d % 146097 % 36524 % 1461 / 365
  let y := 400 * n400 + 100 * n100 + 4 * n4 + n1
  -- the last day of a leap cycle belongs to the year before
  if n1 = 4 ∨ n100 = 4 then y else y + 1

theorem daysBeforeYear_cycles {a b c e : Nat} (hb : b < 4) (hc : c < 25) (he : e < 4) :
    daysBeforeYear (400 * a + 100 * b + 4 * c + e + 1) = 146097 * a + 36524 * b + 1461 * c + 365 * e := by
  have h4 : (400 * a + 100 * b + 4 * c + e) / 4 = 100 * a + 25 * b + c := by omega
  have h100 : (400 * a + 100 * b + 4 * c + e) / 100 = 4 * a + b := by omega
  have h400 : (400 * a + 100 * b + 4 * c + e) / 400 = a := by omega
  rw [daysBeforeYear, Nat.add_sub_cancel, h4, h100, h400]
  omega

def isLeap (y : Nat) : Bool := y % 4 = 0 && (y % 100 ≠ 0 || y % 400 = 0)

def leapDays (y : Nat) : Nat := if isLeap y then 1 else 0

theorem leapDays_le (y : Nat) : leapDays y ≤ 1 := by
  unfold leapDays
  split <;> omega

theorem daysBeforeYear_succ (n : Nat) :
    daysBeforeYear (n + 1 + 1) = daysBeforeYear (n + 1) + 365 + leapDays (n + 1) := by
  have hle : n / 100 ≤ n / 4 := Nat.div_le_div_left (by decide) (by decide)
  have h4 : (n + 1) / 4 = n / 4 + if 4 ∣ n + 1 then 1 else 0 := Nat.succ_div
  have h100 : (n + 1) / 100 = n / 100 + if 100 ∣ n + 1 then 1 else 0 := Nat.succ_div
  have h400 : (n + 1) / 400 = n / 400 + if 400 ∣ n + 1 then 1 else 0 := Nat.succ_div
  have h₁ : 100 ∣ n + 1 → 4 ∣ n + 1 := Nat.dvd_trans (by decide)
  have h₂ : 400 ∣ n + 1 → 100 ∣ n + 1 := Nat.dvd_trans (by decide)
  rw [daysBeforeYear, daysBeforeYear, Nat.add_sub_cancel, Nat.add_sub_cancel, h4, h100, h400]
  generalize n / 4 = x at *
  generalize n / 100 = y at *
  have hleap : leapDays (n + 1) = if 4 ∣ n + 1 ∧ (¬ 100 ∣ n + 1 ∨ 400 ∣ n + 1) then 1 else 0 := by
    simp only [leapDays, isLeap, Nat.dvd_iff_mod_eq_zero, Bool.and_eq_true, Bool.or_eq_true, decide_eq_true_eq,
      ne_eq]
  rw [hleap]
  by_cases a : 4 ∣ n + 1
  · by_cases b : 100 ∣ n + 1
    · by_cases c : 400 ∣ n + 1
      · simp [a, b, c]; omega
      · simp [a, b, c]; omega
    · simp [a, b, mt h₂ b]; omega
  · simp [a, mt h₁ a, mt h₂ (mt h₁ a)]; omega

theorem daysBeforeYear_mono {x y : Nat} (hx : 1 ≤ x) (h : x ≤ y) : daysBeforeYear x ≤ daysBeforeYear y := by
  induction y, h using Nat.le_induction with
  | base => exact Nat.le_refl _
  | succ y hxy ih =>
    obtain ⟨n, rfl⟩ : ∃ n, y = n + 1 := ⟨y - 1, by omega⟩
    have := daysBeforeYear_succ n
    omega

theorem yearOf_pos (d : Nat) : 1 ≤ yearOf d := by
  unfold yearOf
  dsimp only
  split <;> omega

/-- A day lies in its year. -/
theorem yearOf_spec (d : Nat) : daysBeforeYear (yearOf d) ≤ d ∧ d < daysBeforeYear (yearOf d + 1) := by
  obtain ⟨a, ha⟩ : ∃ a, d / 146097 = a := ⟨_, rfl⟩
  obtain ⟨b, hb⟩ : ∃ b, d % 146097 / 36524 = b := ⟨_, rfl⟩
  obtain ⟨c, hc⟩ : ∃ c, d % 146097 % 36524 / 1461 = c := ⟨_, rfl⟩
  obtain ⟨e, he⟩ : ∃ e, d % 146097 % 36524 % 1461 / 365 = e := ⟨_, rfl⟩
  simp only [yearOf, ha, hb, hc, he]
  split
  · rename_i hcycle
    rcases hcycle with h | h
    · -- December 31 of a leap year
      have hy := daysBeforeYear_cycles (a := a) (b := b) (c := c) (e := 3) (by omega) (by omega) (by omega)
      have hn := daysBeforeYear_cycles (a := a) (b := b) (c := c + 1) (e := 0) (by omega) (by omega) (by omega)
      rw [show 400 * a + 100 * b + 4 * c + e = 400 * a + 100 * b + 4 * c + 3 + 1 by omega, hy,
        show 400 * a + 100 * b + 4 * c + 3 + 1 + 1 = 400 * a + 100 * b + 4 * (c + 1) + 0 + 1 by omega, hn]
      omega
    · -- the last day of a 400 year cycle
      have hy := daysBeforeYear_cycles (a := a) (b := 3) (c := 24) (e := 3) (by omega) (by omega) (by omega)
      have hn := daysBeforeYear_cycles (a := a + 1) (b := 0) (c := 0) (e := 0) (by omega) (by omega) (by omega)
      rw [show 400 * a + 100 * b + 4 * c + e = 400 * a + 100 * 3 + 4 * 24 + 3 + 1 by omega, hy,
        show 400 * a + 100 * 3 + 4 * 24 + 3 + 1 + 1 = 400 * (a + 1) + 100 * 0 + 4 * 0 + 0 + 1 by omega, hn]
      omega
  · have hy := daysBeforeYear_cycles (a := a) (b := b) (c := c) (e := e) (by omega) (by omega) (by omega)
    have hs := daysBeforeYear_succ (400 * a + 100 * b + 4 * c + e)
    rw [hs, hy]
    omega

theorem yearOf_mono {d e : Nat} (h : d ≤ e) : yearOf d ≤ yearOf e := by
  by_contra hlt
  have hle := daysBeforeYear_mono (by omega) (show yearOf e + 1 ≤ yearOf d by omega)
  have := (yearOf_spec d).1
  have := (yearOf_spec e).2
  omega

/-- Days of a year before its month `m`. -/
def daysBeforeMonth (leap m : Nat) : Nat :=
  match m with
  | 0 | 1 => 0
  | 2 => 31
  | 3 => 59 + leap
  | 4 => 90 + leap
  | 5 => 120 + leap
  | 6 => 151 + leap
  | 7 => 181 + leap
  | 8 => 212 + leap
  | 9 => 243 + leap
  | 10 => 273 + leap
  | 11 => 304 + leap
  | _ => 334 + leap

theorem daysBeforeMonth_succ_le {leap : Nat} (hl : leap ≤ 1) : ∀ m,
    daysBeforeMonth leap (m + 1) ≤ daysBeforeMonth leap m + 31
  | 0 | 1 | 2 | 3 | 4 | 5 | 6 | 7 | 8 | 9 | 10 | 11 | _ + 12 => by simp only [daysBeforeMonth]; omega

/-- Month of a zero-based day of the year: the last one that has begun. -/
def monthOf (leap r : Nat) : Nat := Nat.findGreatest (fun m => daysBeforeMonth leap m ≤ r) 12

theorem monthOf_le (leap r : Nat) : monthOf leap r ≤ 12 := Nat.findGreatest_le 12

theorem monthOf_mono (leap : Nat) {r s : Nat} (h : r ≤ s) : monthOf leap r ≤ monthOf leap s :=
  Nat.findGreatest_mono_left (fun _ hm => Nat.le_trans hm h) 12

theorem daysBeforeMonth_monthOf (leap r : Nat) : daysBeforeMonth leap (monthOf leap r) ≤ r :=
  Nat.findGreatest_spec (P := fun m => daysBeforeMonth leap m ≤ r) (Nat.zero_le 12) (Nat.zero_le r)

theorem lt_daysBeforeMonth_succ {leap r : Nat} (h : monthOf leap r < 12) :
    r < daysBeforeMonth leap (monthOf leap r + 1) :=
  Nat.lt_of_not_le (Nat.findGreatest_is_greatest (P := fun m => daysBeforeMonth leap m ≤ r) (Nat.lt_succ_self _) h)

/-! ## Wall clock fields -/

def usPerDay : Nat := 86400000000

def year (us : Nat) : Nat := yearOf (us / usPerDay)

/-- Zero-based day of the year. -/
def yearDay (us : Nat) : Nat := us / usPerDay - daysBeforeYear (year us)

def month (us : Nat) : Nat := monthOf (leapDays (year us)) (yearDay us)

def day (us : Nat) : Nat := yearDay us - daysBeforeMonth (leapDays (year us)) (month us) + 1

def hour (us : Nat) : Nat := us % usPerDay / 3600000000

def minute (us : Nat) : Nat := us % 3600000000 / 60000000

def second (us : Nat) : Nat := us % 60000000 / 1000000

def microsecond (us : Nat) : Nat := us % 1000000

/-- Microseconds from 0001-01-01 to the end of 9999-12-31. -/
def maxMicros : Nat := 3652059 * usPerDay

theorem year_le {us : Nat} (h : us < maxMicros) : year us < 10000 := by
  by_contra hlt
  have hle := daysBeforeYear_mono (by omega) (show 10000 ≤ year us by omega)
  have h1 := (yearOf_spec (us / usPerDay)).1
  have h9999 : daysBeforeYear 10000 = 3652059 := by decide
  simp only [maxMicros, usPerDay, year] at *
  omega

theorem yearDay_lt (us : Nat) : yearDay us < 365 + leapDays (year us) := by
  have h1 := (yearOf_spec (us / usPerDay))
  obtain ⟨n, hn⟩ : ∃ n, yearOf (us / usPerDay) = n + 1 := ⟨_, (Nat.sub_add_cancel (yearOf_pos _)).symm⟩
  have h2 := daysBeforeYear_succ n
  simp only [yearDay, year, hn] at *
  omega

theorem month_lt (us : Nat) : month us < 100 :=
  Nat.lt_of_le_of_lt (monthOf_le _ _) (by decide)

theorem day_lt (us : Nat) : day us < 100 := by
  have hr := yearDay_lt us
  have hl := leapDays_le (year us)
  by_cases h : month us < 12
  · have h1 := lt_daysBeforeMonth_succ h
    have h2 := daysBeforeMonth_succ_le hl (month us)
    simp only [day, month] at *
    omega
  · have h12 : month us = 12 := by have := monthOf_le (leapDays (year us)) (yearDay us); simp only [month] at *; omega
    simp only [day, h12, daysBeforeMonth]
    omega

theorem hour_lt (us : Nat) : hour us < 100 := by simp only [hour, usPerDay]; omega

theorem minute_lt (us : Nat) : minute us < 100 := by simp only [minute]; omega

theorem second_lt (us : Nat) : second us < 100 := by simp only [second]; omega

theorem microsecond_lt (us : Nat) : microsecond us < 10 ^ 6 := by simp only [microsecond]; omega

/-- A later day is later in the calendar, field by field. -/
theorem date_lt {a b : Nat} (h : a / usPerDay < b / usPerDay) :
    year a < year b ∨ year a = year b ∧ (month a < month b ∨ month a = month b ∧ day a < day b) := by
  have hy := yearOf_mono (Nat.le_of_lt h)
  rcases Nat.lt_or_eq_of_le hy with hlt | heq
  · exact Or.inl hlt
  have heq : year a = year b := heq
  have ha := (yearOf_spec (a / usPerDay)).1
  have hr : yearDay a < yearDay b := by
    simp only [yearDay, ← heq]
    simp only [year] at heq ⊢
    omega
  have hm : month a ≤ month b := by
    unfold month
    rw [heq]
    exact monthOf_mono _ (Nat.le_of_lt hr)
  refine Or.inr ⟨heq, ?_⟩
  rcases Nat.lt_or_eq_of_le hm with hlt | hmeq
  · exact Or.inl hlt
  have hma : daysBeforeMonth (leapDays (year a)) (month a) ≤ yearDay a := daysBeforeMonth_monthOf _ _
  refine Or.inr ⟨hmeq, ?_⟩
  simp only [day, ← heq, ← hmeq]
  omega

/-- Later in one day is later on the clock, field by field. -/
theorem clock_lt {a b : Nat} (hd : a / usPerDay = b / usPerDay) (h : a < b) :
    hour a < hour b ∨ hour a = hour b ∧ (minute a < minute b ∨ minute a = minute b ∧
      (second a < second b ∨ second a = second b ∧ microsecond a < microsecond b)) := by
  simp only [hour, minute, second, microsecond, usPerDay] at *
  omega

/-! ## Datetimes -/

theorem offsetBound_none : ∀ o ∈ (none : Option Int), -(usPerDay : Int) < o ∧ o < usPerDay := by simp

theorem offsetBound_zero : ∀ o ∈ some (0 : Int), -(usPerDay : Int) < o ∧ o < usPerDay := by simp [usPerDay]

theorem epoch_inRange : 0 < maxMicros := by decide

/-- A datetime: wall clock and UTC offset, both in microseconds. A naive
datetime has no offset. -/
structure Datetime where
  micros : Nat
  utcoffset : Option Int
  inRange : micros < maxMicros
  offsetBound : ∀ o ∈ utcoffset, -(usPerDay : Int) < o ∧ o < usPerDay
  deriving DecidableEq

/-- The moment an aware datetime denotes; comparisons of aware datetimes are
comparisons of these. -/
def Datetime.instant (d : Datetime) : Int := d.micros - d.utcoffset.getD 0

def Datetime.isUtc (d : Datetime) : Bool := d.utcoffset = some 0

theorem Datetime.instant_of_isUtc {d : Datetime} (h : d.isUtc) : d.instant = d.micros := by
  have h0 : d.utcoffset = some 0 := by simpa [Datetime.isUtc] using h
  simp [Datetime.instant, h0]

/-- `+HH:MM[:SS[.ffffff]]`, the offset part of `isoformat`. -/
def formatOffset (o : Int) : List Char :=
  let a := o.natAbs
  (if o < 0 then '-' else '+') :: pad 2 (a / 3600000000) ++ ':' :: pad 2 (a % 3600000000 / 60000000) ++
    (if a % 60000000 = 0 then [] else ':' :: pad 2 (a % 60000000 / 1000000) ++
      if a % 1000000 = 0 then [] else '.' :: pad 6 (a % 1000000))

/-- The fractional seconds are left out when they are zero. -/
def formatFraction (us : Nat) : List Char := if us = 0 then [] else '.' :: pad 6 us

def Datetime.isoChars (d : Datetime) : List Char :=
  pad 4 (year d.micros) ++ '-' :: (pad 2 (month d.micros) ++ '-' :: (pad 2 (day d.micros) ++
    'T' :: (pad 2 (hour d.micros) ++ ':' :: (pad 2 (minute d.micros) ++ ':' :: (pad 2 (second d.micros) ++
      (formatFraction (microsecond d.micros) ++ (d.utcoffset.map formatOffset).getD []))))))

def Datetime.isoformat (d : Datetime) : String := String.ofList d.isoChars

/-! ## Text order is time order -/

theorem formatFraction_lt {m n : Nat} (hm : m < 10 ^ 6) (hn : n < 10 ^ 6) (h : m < n) :
    formatFraction m ++ formatOffset 0 < formatFraction n ++ formatOffset 0 := by
  have hn0 : n ≠ 0 := by omega
  by_cases hm0 : m = 0
  · subst hm0
    simp only [formatFraction, hn0, if_true, if_false, List.nil_append, List.cons_append]
    exact List.cons_lt_cons_iff.mpr (Or.inl (by decide))
  · simp only [formatFraction, hm0, hn0, if_false, List.cons_append]
    exact List.cons_lt_cons_iff.mpr (Or.inr ⟨rfl, (pad_append_lt hm hn _ _).mpr (Or.inl h)⟩)

/-- A two-digit field followed by a separator. -/
theorem field_lt {m n : Nat} (hm : m < 100) (hn : n < 100) (c : Char) (s t : List Char) :
    pad 2 m ++ c :: s < pad 2 n ++ c :: t ↔ m < n ∨ m = n ∧ s < t := by
  rw [pad_append_lt hm hn, List.cons_lt_cons_iff]
  simp

theorem isoChars_lt {a b : Datetime} (ha : a.isUtc) (hb : b.isUtc) (h : a.micros < b.micros) :
    a.isoChars < b.isoChars := by
  have hoa : a.utcoffset = some 0 := by simpa [Datetime.isUtc] using ha
  have hob : b.utcoffset = some 0 := by simpa [Datetime.isUtc] using hb
  have hfrac : microsecond a.micros < microsecond b.micros →
      formatFraction (microsecond a.micros) ++ formatOffset 0 <
        formatFraction (microsecond b.micros) ++ formatOffset 0 :=
    formatFraction_lt (microsecond_lt _) (microsecond_lt _)
  simp only [Datetime.isoChars, hoa, hob, Option.map_some, Option.getD_some]
  rw [pad_append_lt (year_le a.inRange) (year_le b.inRange), List.cons_lt_cons_iff,
    field_lt (month_lt _) (month_lt _), field_lt (day_lt _) (day_lt _), field_lt (hour_lt _) (hour_lt _),
    field_lt (minute_lt _) (minute_lt _), pad_append_lt (second_lt _) (second_lt _)]
  rcases Nat.lt_or_eq_of_le (Nat.div_le_div_right (c := usPerDay) (Nat.le_of_lt h)) with hd | hd
  · rcases date_lt hd with hy | ⟨hy, hm | ⟨hm, hday⟩⟩
    · exact Or.inl hy
    · exact Or.inr ⟨hy, Or.inr ⟨rfl, Or.inl hm⟩⟩
    · exact Or.inr ⟨hy, Or.inr ⟨rfl, Or.inr ⟨hm, Or.inl hday⟩⟩⟩
  · have hy : year a.micros = year b.micros := by simp only [year, hd]
    have hyd : yearDay a.micros = yearDay b.micros := by simp only [yearDay, hy, hd]
    have hm : month a.micros = month b.micros := by simp only [month, hy, hyd]
    have hday : day a.micros = day b.micros := by simp only [day, hy, hyd, hm]
    refine Or.inr ⟨hy, Or.inr ⟨rfl, Or.inr ⟨hm, Or.inr ⟨hday, ?_⟩⟩⟩⟩
    rcases clock_lt hd h with hh | ⟨hh, hmin | ⟨hmin, hs | ⟨hs, hus⟩⟩⟩
    · exact Or.inl hh
    · exact Or.inr ⟨hh, Or.inl hmin⟩
    · exact Or.inr ⟨hh, Or.inr ⟨hmin, Or.inl hs⟩⟩
    · exact Or.inr ⟨hh, Or.inr ⟨hmin, Or.inr ⟨hs, hfrac hus⟩⟩⟩

theorem eq_of_micros {a b : Datetime} (ha : a.isUtc) (hb : b.isUtc) (h : a.micros = b.micros) : a = b := by
  have hoa : a.utcoffset = some 0 := by simpa [Datetime.isUtc] using ha
  have hob : b.utcoffset = some 0 := by simpa [Datetime.isUtc] using hb
  cases a
  cases b
  simp_all

/-- **Text order.** UTC datetimes compare as their `isoformat` texts do,
whole-second ones included. -/
theorem isoformat_le_iff {a b : Datetime} (ha : a.isUtc) (hb : b.isUtc) :
    ¬ b.isoformat < a.isoformat ↔ a.instant ≤ b.instant := by
  rw [Datetime.instant_of_isUtc ha, Datetime.instant_of_isUtc hb, String.lt_iff, Datetime.isoformat,
    Datetime.isoformat, String.toList_ofList, String.toList_ofList]
  constructor
  · intro h
    by_contra hlt
    exact h (isoChars_lt hb ha (by omega))
  · intro h hlt
    rcases Nat.lt_or_eq_of_le (show a.micros ≤ b.micros by omega) with hab | hab
    · exact absurd hlt (List.lt_asymm (isoChars_lt ha hb hab))
    · rw [eq_of_micros ha hb hab] at hlt
      exact List.lt_irrefl _ hlt

/-- A datetime in UTC. -/
abbrev UtcDatetime := {d : Datetime // d.isUtc}

/-- `value.astimezone(UTC)` for an aware value; the converted wall clock can
leave the supported years. -/
def Datetime.astimezoneUtc (d : Datetime) : Option UtcDatetime :=
  if h : 0 ≤ d.instant ∧ d.instant < maxMicros then
    some ⟨⟨d.instant.toNat, some 0, by omega, offsetBound_zero⟩, by simp [Datetime.isUtc]⟩
  else none

theorem eq_of_instant {a b : UtcDatetime} (h : a.val.instant = b.val.instant) : a = b := by
  rw [Datetime.instant_of_isUtc a.2, Datetime.instant_of_isUtc b.2] at h
  exact Subtype.ext (eq_of_micros a.2 b.2 (by omega))

theorem instant_bounds (u : UtcDatetime) : 0 ≤ u.val.instant ∧ u.val.instant < maxMicros := by
  have := u.val.inRange
  rw [Datetime.instant_of_isUtc u.2]
  omega

/-- Every moment of the supported years is the one of a UTC datetime. -/
theorem exists_utc {t : Int} (h : 0 ≤ t ∧ t < maxMicros) : ∃ u : UtcDatetime, u.val.instant = t := by
  refine ⟨⟨⟨t.toNat, some 0, by omega, by simp [usPerDay]⟩, by simp [Datetime.isUtc]⟩, ?_⟩
  simp only [Datetime.instant, Option.getD_some]
  omega

/-- Conversion keeps the moment. -/
theorem astimezoneUtc_eq_some {d : Datetime} {u : UtcDatetime} :
    d.astimezoneUtc = some u ↔ u.val.instant = d.instant := by
  unfold Datetime.astimezoneUtc
  split
  · rename_i h
    have heq : (Datetime.mk d.instant.toNat (some 0) (by omega) (by simp [usPerDay])).instant = d.instant := by
      simp [Datetime.instant] at h ⊢
      omega
    rw [Option.some_inj]
    exact ⟨fun hu => hu ▸ heq, fun hu => eq_of_instant (heq.trans hu.symm)⟩
  · rename_i h
    exact ⟨fun hu => absurd hu (Option.some_ne_none u).symm, fun hu => absurd (hu ▸ instant_bounds u) h⟩

theorem isoformat_injective {a b : UtcDatetime} (h : a.val.isoformat = b.val.isoformat) : a = b := by
  have hab := (isoformat_le_iff a.2 b.2).mp (by rw [h]; exact String.lt_irrefl _)
  have hba := (isoformat_le_iff b.2 a.2).mp (by rw [h]; exact String.lt_irrefl _)
  rw [Datetime.instant_of_isUtc a.2, Datetime.instant_of_isUtc b.2] at hab hba
  exact Subtype.ext (eq_of_micros a.2 b.2 (by omega))

/-- `value.replace(tzinfo=None)`. -/
def Datetime.naive (d : Datetime) : Datetime := ⟨d.micros, none, d.inRange, offsetBound_none⟩

/-- The text of a UTC datetime ends with its offset. -/
theorem isoformat_utc (d : UtcDatetime) : d.val.isoformat = d.val.naive.isoformat ++ "+00:00" := by
  have ho : d.val.utcoffset = some 0 := by simpa [Datetime.isUtc] using d.2
  have hz : formatOffset 0 = "+00:00".toList := by decide
  rw [← String.toList_inj, String.toList_append, Datetime.isoformat, Datetime.isoformat, String.toList_ofList,
    String.toList_ofList, ← hz]
  simp [Datetime.isoChars, Datetime.naive, ho]

example : (Datetime.isoformat ⟨63945244800500000, some 0, by decide, by simp [usPerDay]⟩) =
    "2027-05-07T00:00:00.500000+00:00" := by decide +kernel

end PyTime
