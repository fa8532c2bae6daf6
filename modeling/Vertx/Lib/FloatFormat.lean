import Mathlib

/-!
# Binary floating-point formats

A format holds the numbers `m * 2 ^ e` whose `m` has few enough bits and whose `e` is not too small;
a largest number is left to its users.  `round` takes a number to the nearest one that the format
holds, and of two to the one with an even `m`, as the operations of IEEE 754 do.
-/

namespace Vertx

/-! ## The nearest integer -/

/-- The nearest integer, and of two the even one. -/
def nearestEven (x : ℚ) : ℤ :=
  if 2 * Int.fract x = 1 ∧ Odd (round x) then round x - 1 else round x

@[simp] theorem nearestEven_intCast (n : ℤ) : nearestEven n = n := by
  unfold nearestEven
  rw [round_intCast, Int.fract_intCast, if_neg (by norm_num)]

/-- No integer is nearer. -/
theorem abs_sub_nearestEven_le (x : ℚ) (n : ℤ) : |x - nearestEven x| ≤ |x - n| := by
  unfold nearestEven
  split_ifs with h
  · have hround : round x = ⌊x⌋ + 1 := by
      rw [round_eq_div, show (2 : ℚ) * x = ((2 * ⌊x⌋ + 1 : ℤ) : ℚ) by
        push_cast
        linarith [Int.floor_add_fract x], Int.floor_intCast]
      omega
    have hfloor : |x - ⌊x⌋| = |x - round x| := by
      rw [hround, Int.self_sub_floor, Int.cast_add, Int.cast_one, ← sub_sub, Int.self_sub_floor,
        show Int.fract x = 1 / 2 by linarith [h.1]]
      norm_num
    rw [hround, add_sub_cancel_right, hfloor]
    exact round_le x n
  · exact round_le x n

/-- Rounding stays within a bound that is an integer. -/
theorem abs_nearestEven_le {x : ℚ} {n : ℕ} (h : |x| ≤ n) : |nearestEven x| ≤ n := by
  obtain ⟨hlow, hhigh⟩ := abs_le.1 h
  rw [abs_le]
  constructor
  · by_contra hlt
    have hlt' : (nearestEven x : ℚ) < -n := by exact_mod_cast not_le.1 hlt
    have hnear := abs_sub_nearestEven_le x (-n)
    push_cast at hnear
    rw [abs_of_nonneg (by linarith), abs_of_nonneg (by linarith)] at hnear
    linarith
  · by_contra hlt
    have hlt' : (n : ℚ) < nearestEven x := by exact_mod_cast not_le.1 hlt
    have hnear := abs_sub_nearestEven_le x n
    push_cast at hnear
    rw [abs_of_nonpos (by linarith), abs_of_nonpos (by linarith)] at hnear
    linarith

/-! ## Formats -/

/-- A binary format: its significant bits and the exponent of the last place of its least
numbers. -/
structure FloatFormat where
  precision : ℕ
  lowest : ℤ
  precision_pos : 0 < precision

namespace FloatFormat

variable (F : FloatFormat)

/-- The format holds the number. -/
def Holds (q : ℚ) : Prop :=
  ∃ m e : ℤ, |m| < 2 ^ F.precision ∧ F.lowest ≤ e ∧ q = m * 2 ^ e

/-- The exponent of the last place that the format keeps of a number of this size. -/
def lastPlace (q : ℚ) : ℤ := max F.lowest (Int.log 2 |q| + 1 - F.precision)

/-- The nearest number that the format holds. -/
def round (q : ℚ) : ℚ := nearestEven (q / 2 ^ F.lastPlace q) * 2 ^ F.lastPlace q

/-- A number is also one of lower places. -/
theorem exists_mul_zpow {e e' : ℤ} (h : e ≤ e') (m : ℤ) :
    ∃ m' : ℤ, (m : ℚ) * 2 ^ e' = m' * 2 ^ e := by
  obtain ⟨n, rfl⟩ := Int.le.dest h
  refine ⟨m * 2 ^ n, ?_⟩
  rw [zpow_add₀ two_ne_zero, zpow_natCast]
  push_cast
  ring

theorem lastPlace_le {m e : ℤ} (hm : |m| < 2 ^ F.precision) (he : F.lowest ≤ e) (h : m ≠ 0) :
    F.lastPlace (m * 2 ^ e) ≤ e := by
  have hlt : |(m : ℚ) * 2 ^ e| < 2 ^ ((F.precision : ℤ) + e) := by
    have hpos : (0 : ℚ) < 2 ^ e := zpow_pos two_pos e
    rw [abs_mul, abs_of_pos hpos, zpow_add₀ two_ne_zero, zpow_natCast]
    have hm' : |(m : ℚ)| < 2 ^ F.precision := by exact_mod_cast hm
    exact mul_lt_mul_of_pos_right hm' hpos
  have hpos : 0 < |(m : ℚ) * 2 ^ e| :=
    abs_pos.2 (mul_ne_zero (Int.cast_ne_zero.2 h) (zpow_ne_zero e two_ne_zero))
  have hlog := (Int.lt_zpow_iff_log_lt one_lt_two hpos).1 (by exact_mod_cast hlt)
  exact max_le he (by omega)

/-- What the format holds is a multiple of its last place. -/
theorem Holds.eq_mul_lastPlace {F : FloatFormat} {q : ℚ} (h : F.Holds q) :
    ∃ m : ℤ, q = m * 2 ^ F.lastPlace q := by
  obtain ⟨m, e, hm, he, rfl⟩ := h
  by_cases hzero : m = 0
  · exact ⟨0, by simp [hzero]⟩
  · exact exists_mul_zpow (F.lastPlace_le hm he hzero) m

theorem round_of_mul {q : ℚ} {m : ℤ} (h : q = m * 2 ^ F.lastPlace q) : F.round q = q := by
  have hdiv : q / 2 ^ F.lastPlace q = m := by
    rw [div_eq_iff (zpow_ne_zero _ two_ne_zero)]
    exact h
  unfold round
  rw [hdiv, nearestEven_intCast]
  exact h.symm

/-- Rounding keeps what the format holds. -/
theorem Holds.round_eq {F : FloatFormat} {q : ℚ} (h : F.Holds q) : F.round q = q := by
  obtain ⟨m, hm⟩ := h.eq_mul_lastPlace
  exact F.round_of_mul hm

/-- A number with one bit too many is held when that bit is its only one. -/
theorem holds_mul_zpow {m e : ℤ} (hm : |m| ≤ 2 ^ F.precision) (he : F.lowest ≤ e) :
    F.Holds (m * 2 ^ e) := by
  rcases hm.lt_or_eq with hlt | heq
  · exact ⟨m, e, hlt, he, rfl⟩
  · obtain ⟨p, hp⟩ := Nat.exists_eq_succ_of_ne_zero F.precision_pos.ne'
    rw [hp, pow_succ] at heq
    have hhalf : |m| = |2 ^ p * (2 : ℤ)| := by rw [heq, abs_of_pos (by positivity)]
    have hhas (s : ℤ) (hs : |s| = 1) (hm : m = s * (2 ^ p * 2)) : F.Holds (m * 2 ^ e) := by
      refine ⟨s * 2 ^ p, e + 1, ?_, by omega, ?_⟩
      · rw [abs_mul, hs, one_mul, abs_of_pos (by positivity), hp]
        exact pow_lt_pow_right₀ one_lt_two (Nat.lt_succ_self p)
      · rw [hm, zpow_add_one₀ two_ne_zero]
        push_cast
        ring
    rcases abs_eq_abs.1 hhalf with h | h
    · exact hhas 1 rfl (by rw [h, one_mul])
    · exact hhas (-1) rfl (by rw [h, neg_one_mul])

/-- The format holds the integers up to its precision. -/
theorem holds_intCast (hlowest : F.lowest ≤ 0) {n : ℤ} (h : |n| ≤ 2 ^ F.precision) :
    F.Holds n := by
  have := F.holds_mul_zpow h hlowest
  rwa [zpow_zero, mul_one] at this

theorem abs_lt_zpow_lastPlace (q : ℚ) : |q| < 2 ^ (F.precision + F.lastPlace q) := by
  have hlog : |q| < ((2 : ℕ) : ℚ) ^ (Int.log 2 |q| + 1) := Int.lt_zpow_succ_log_self one_lt_two _
  have hplace : Int.log 2 |q| + 1 - F.precision ≤ F.lastPlace q := le_max_right _ _
  refine hlog.trans_le ?_
  rw [Nat.cast_ofNat]
  exact zpow_le_zpow_right₀ one_le_two (by omega)

/-- The format holds what `round` returns. -/
theorem holds_round (q : ℚ) : F.Holds (F.round q) := by
  refine F.holds_mul_zpow ?_ (le_max_left _ _)
  have hpos : (0 : ℚ) < 2 ^ F.lastPlace q := zpow_pos two_pos _
  have hle : |q / 2 ^ F.lastPlace q| ≤ ((2 ^ F.precision : ℕ) : ℚ) := by
    rw [abs_div, abs_of_pos hpos, div_le_iff₀ hpos]
    have := F.abs_lt_zpow_lastPlace q
    rw [zpow_add₀ two_ne_zero, zpow_natCast] at this
    exact_mod_cast this.le
  exact_mod_cast abs_nearestEven_le hle

/-- No number of the places that the format keeps is nearer. -/
theorem abs_sub_round_le_mul (q : ℚ) (m : ℤ) :
    |q - F.round q| ≤ |q - m * 2 ^ F.lastPlace q| := by
  have hpos : (0 : ℚ) < 2 ^ F.lastPlace q := zpow_pos two_pos _
  have hscale (n : ℤ) : |q - n * 2 ^ F.lastPlace q| =
      |q / 2 ^ F.lastPlace q - n| * 2 ^ F.lastPlace q := by
    rw [← abs_of_pos hpos, ← abs_mul, abs_of_pos hpos, sub_mul, div_mul_cancel₀ _ hpos.ne']
  unfold round
  rw [hscale, hscale]
  exact mul_le_mul_of_nonneg_right (abs_sub_nearestEven_le _ m) hpos.le

/-- The power of two that a number has reached is of its last place. -/
theorem exists_reached {q : ℚ} (h : F.lastPlace q ≤ Int.log 2 |q|) (hzero : q ≠ 0) :
    ∃ m : ℤ, |q - m * 2 ^ F.lastPlace q| = |q| - 2 ^ Int.log 2 |q| := by
  have hreached : (2 : ℚ) ^ Int.log 2 |q| ≤ |q| := by
    have := Int.zpow_log_le_self (b := 2) one_lt_two (abs_pos.2 hzero)
    rwa [Nat.cast_ofNat] at this
  rcases le_total 0 q with hnonneg | hneg
  · obtain ⟨m, hm⟩ := exists_mul_zpow h 1
    rw [abs_of_nonneg hnonneg] at hreached hm ⊢
    refine ⟨m, ?_⟩
    rw [← hm, Int.cast_one, one_mul, abs_of_nonneg (sub_nonneg.2 hreached)]
  · obtain ⟨m, hm⟩ := exists_mul_zpow h (-1)
    rw [abs_of_nonpos hneg] at hreached hm ⊢
    refine ⟨m, ?_⟩
    rw [← hm, Int.cast_neg, Int.cast_one, neg_one_mul, abs_of_nonpos (by linarith)]
    ring

/-- No number that the format holds is nearer. -/
theorem abs_sub_round_le (q : ℚ) {r : ℚ} (h : F.Holds r) : |q - F.round q| ≤ |q - r| := by
  by_cases hplace : F.lastPlace q ≤ F.lastPlace r
  · obtain ⟨m, hm⟩ := h.eq_mul_lastPlace
    obtain ⟨m', hm'⟩ := exists_mul_zpow hplace m
    rw [hm, hm']
    exact F.abs_sub_round_le_mul q m'
  by_cases hzero : q = 0
  · have hround : F.round q = q := F.round_of_mul (m := 0) (by simp [hzero])
    rw [hround, sub_self, abs_zero]
    exact abs_nonneg _
  -- A number with lower places is below the power of two that `q` has reached.
  have hlog : Int.log 2 |r| < Int.log 2 |q| ∧ F.lastPlace q ≤ Int.log 2 |q| := by
    have := F.precision_pos
    unfold lastPlace at hplace ⊢
    omega
  have hr : |r| ≤ 2 ^ Int.log 2 |q| := by
    have hlt : |r| < ((2 : ℕ) : ℚ) ^ (Int.log 2 |r| + 1) := Int.lt_zpow_succ_log_self one_lt_two _
    rw [Nat.cast_ofNat] at hlt
    exact hlt.le.trans (zpow_le_zpow_right₀ one_le_two (by omega))
  obtain ⟨m, hm⟩ := F.exists_reached hlog.2 hzero
  calc |q - F.round q| ≤ |q - m * 2 ^ F.lastPlace q| := F.abs_sub_round_le_mul q m
    _ = |q| - 2 ^ Int.log 2 |q| := hm
    _ ≤ |q| - |r| := sub_le_sub_left hr _
    _ ≤ |q - r| := abs_sub_abs_le_abs_sub q r

/-- The numbers below a power of two keep a distance from it. -/
theorem Holds.abs_add_le {F : FloatFormat} {q : ℚ} (h : F.Holds q) {k : ℤ} (hk : |q| < 2 ^ k) :
    |q| + 2 ^ (k - F.precision) ≤ 2 ^ k := by
  obtain ⟨m, e, hm, -, rfl⟩ := h
  have hpos : (0 : ℚ) < 2 ^ e := zpow_pos two_pos e
  rw [abs_mul, abs_of_pos hpos] at hk ⊢
  by_cases hzero : m = 0
  · rw [hzero, Int.cast_zero, abs_zero, zero_mul, zero_add]
    exact zpow_le_zpow_right₀ one_le_two (by omega)
  -- The multiples of a place below one of them are below it by as much.
  have hstep (n : ℕ) (place : ℤ) (hn : |m| < 2 ^ n) :
      |(m : ℚ)| * 2 ^ place + 2 ^ place ≤ 2 ^ (n + place) := by
    have hle : |(m : ℚ)| + 1 ≤ 2 ^ n := by exact_mod_cast Int.add_one_le_of_lt hn
    rw [zpow_add₀ two_ne_zero, zpow_natCast, ← add_one_mul]
    exact mul_le_mul_of_nonneg_right hle (zpow_pos two_pos place).le
  rcases le_total e (k - F.precision) with he | he
  · have hscale : |(m : ℚ)| * 2 ^ e ≤ |(m : ℚ)| * 2 ^ (k - F.precision) :=
      mul_le_mul_of_nonneg_left (zpow_le_zpow_right₀ one_le_two he) (abs_nonneg _)
    calc |(m : ℚ)| * 2 ^ e + 2 ^ (k - F.precision)
        ≤ |(m : ℚ)| * 2 ^ (k - F.precision) + 2 ^ (k - F.precision) := by gcongr
      _ ≤ 2 ^ (F.precision + (k - F.precision)) := hstep _ _ hm
      _ = 2 ^ k := by rw [add_sub_cancel]
  · have hone : 1 ≤ |(m : ℚ)| := by exact_mod_cast Int.one_le_abs hzero
    have hek : e < k := (zpow_lt_zpow_iff_right₀ one_lt_two).1
      ((le_mul_of_one_le_left hpos.le hone).trans_lt hk)
    obtain ⟨n, rfl⟩ := Int.le.dest hek.le
    rw [add_comm e, zpow_add₀ two_ne_zero, zpow_natCast, mul_lt_mul_iff_left₀ hpos] at hk
    calc |(m : ℚ)| * 2 ^ e + 2 ^ (e + n - F.precision)
        ≤ |(m : ℚ)| * 2 ^ e + 2 ^ e := by
          gcongr
          exact one_le_two
      _ ≤ 2 ^ (n + e) := hstep n e (by exact_mod_cast hk)
      _ = 2 ^ (e + n) := by rw [add_comm]

/-- An integer is rounded to an integer. -/
theorem exists_round_intCast (n : ℤ) : ∃ r : ℤ, F.round n = r := by
  rcases le_total (F.lastPlace n) 0 with hplace | hplace
  · obtain ⟨m, hm⟩ := exists_mul_zpow hplace n
    rw [zpow_zero, mul_one] at hm
    exact ⟨n, F.round_of_mul hm⟩
  · unfold round
    obtain ⟨k, hk⟩ := Int.eq_ofNat_of_zero_le hplace
    generalize nearestEven ((n : ℚ) / 2 ^ F.lastPlace n) = m
    refine ⟨m * 2 ^ k, ?_⟩
    rw [hk]
    push_cast
    rfl

end FloatFormat

end Vertx
