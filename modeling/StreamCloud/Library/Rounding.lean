-- SUMMARY: A rounded quotient is a nearest number of its format, and a wider format keeps every number.
import StreamCloud.Library.Floating
import Mathlib.Algebra.Order.Field.Power
import Mathlib.Algebra.Order.Field.Rat
import Mathlib.Data.Nat.Log
import Mathlib.Tactic.FieldSimp
import Mathlib.Tactic.Linarith
import Mathlib.Tactic.Positivity
import Mathlib.Tactic.Ring

/-!
# Rounding

What rounding is for is said with rational numbers: no number of the format is nearer,
of two nearest ones that with an even significand is taken, and infinity from half a
digit above the last number on. Before its exponent is checked, a rounded number is a
whole one in units of its exponent.
-/

/-- The least number that is too large: half a digit above the last number. -/
def Format.limit (f : Format) : ℚ := (2 ^ f.precision - 1 / 2) * 2 ^ f.high

namespace Floating

variable {f : Format}

/-! ## What rounding is for -/

/-- What a significand and an exponent stand for. -/
def value (significand : ℕ) (exponent : ℤ) : ℚ := significand * 2 ^ exponent

/-- A number of a format that `v`, which is not negative, is rounded to. -/
def Rounds (f : Format) (v : ℚ) (negative : Bool) : Floating f → Prop
  | .finite sign significand exponent _ =>
    sign = negative ∧ v < f.limit ∧
      (∀ m e, f.Fits m e → |v - value significand exponent| ≤ |v - value m e|) ∧
      (∀ m e, f.Fits m e → |v - value m e| = |v - value significand exponent| →
        value m e ≠ value significand exponent → Even significand)
  | .infinite sign => sign = negative ∧ f.limit ≤ v

/-! ## Powers of two -/

theorem two_zpow_pos (e : ℤ) : (0 : ℚ) < 2 ^ e := zpow_pos (by norm_num) e

theorem two_zpow_le {e e' : ℤ} (h : e ≤ e') : (2 : ℚ) ^ e ≤ 2 ^ e' := zpow_le_zpow_right₀ (by norm_num) h

theorem two_zpow_add (e e' : ℤ) : (2 : ℚ) ^ (e + e') = 2 ^ e * 2 ^ e' := zpow_add₀ (by norm_num) e e'

/-- A power, with a positive and a negative exponent apart. -/
theorem zpow_eq_div_toNat (b : ℚ) (e : ℤ) : b ^ e = b ^ e.toNat / b ^ (-e).toNat := by
  obtain h | h := le_total 0 e
  · rw [show (-e).toNat = 0 by omega, pow_zero, div_one, ← zpow_natCast, Int.toNat_of_nonneg h]
  · rw [show e.toNat = 0 by omega, pow_zero, one_div, ← zpow_natCast, Int.toNat_of_nonneg (by omega), ← zpow_neg,
      neg_neg]

section Positive

variable {num den : ℕ} (hnum : 0 < num) (hden : 0 < den)

/-- The quotient of two numbers, both scaled. -/
theorem scaled_div (num : ℕ) {den : ℕ} (e : ℤ) :
    ((num * 2 ^ (-e).toNat : ℕ) : ℚ) / (den * 2 ^ e.toNat : ℕ) = (num / den : ℚ) / 2 ^ e := by
  rw [zpow_eq_div_toNat 2 e]
  push_cast
  field_simp

include hden in
theorem scaled_le_iff (num : ℕ) (e : ℤ) :
    den * 2 ^ e.toNat ≤ num * 2 ^ (-e).toNat ↔ (2 : ℚ) ^ e ≤ num / den := by
  have hpos : (0 : ℚ) < (den * 2 ^ e.toNat : ℕ) := by exact_mod_cast Nat.mul_pos hden (by positivity)
  rw [← one_le_div₀ (two_zpow_pos e), ← scaled_div, one_le_div₀ hpos]
  exact Nat.cast_le.symm

include hnum hden

/-- The logarithm is as it should be. -/
theorem floorLog_spec : (2 : ℚ) ^ floorLog num den ≤ num / den ∧ (num / den : ℚ) < 2 ^ (floorLog num den + 1) := by
  have hnumPos : (0 : ℚ) < num := by exact_mod_cast hnum
  have hdenPos : (0 : ℚ) < den := by exact_mod_cast hden
  have hnumLow : (2 : ℚ) ^ (num.log2 : ℤ) ≤ num := by
    rw [zpow_natCast]
    exact_mod_cast Nat.log2_self_le hnum.ne'
  have hnumHigh : (num : ℚ) < 2 ^ (num.log2 + 1 : ℤ) := by
    have h : num < 2 ^ (num.log2 + 1) := Nat.lt_log2_self
    rw [show ((num.log2 : ℤ) + 1) = ((num.log2 + 1 : ℕ) : ℤ) by simp, zpow_natCast]
    exact_mod_cast h
  have hdenLow : (2 : ℚ) ^ (den.log2 : ℤ) ≤ den := by
    rw [zpow_natCast]
    exact_mod_cast Nat.log2_self_le hden.ne'
  have hdenHigh : (den : ℚ) < 2 ^ (den.log2 + 1 : ℤ) := by
    have h : den < 2 ^ (den.log2 + 1) := Nat.lt_log2_self
    rw [show ((den.log2 : ℤ) + 1) = ((den.log2 + 1 : ℕ) : ℤ) by simp, zpow_natCast]
    exact_mod_cast h
  have hlow : (2 : ℚ) ^ ((num.log2 : ℤ) - den.log2 - 1) ≤ num / den := by
    rw [le_div_iff₀ hdenPos]
    calc (2 : ℚ) ^ ((num.log2 : ℤ) - den.log2 - 1) * den
        ≤ 2 ^ ((num.log2 : ℤ) - den.log2 - 1) * 2 ^ (den.log2 + 1 : ℤ) :=
          mul_le_mul_of_nonneg_left hdenHigh.le (two_zpow_pos _).le
      _ = 2 ^ (num.log2 : ℤ) := by rw [← two_zpow_add]; congr 1; ring
      _ ≤ num := hnumLow
  have hhigh : (num / den : ℚ) < 2 ^ ((num.log2 : ℤ) - den.log2 + 1) := by
    rw [div_lt_iff₀ hdenPos]
    calc (num : ℚ) < 2 ^ (num.log2 + 1 : ℤ) := hnumHigh
      _ = 2 ^ ((num.log2 : ℤ) - den.log2 + 1) * 2 ^ (den.log2 : ℤ) := by rw [← two_zpow_add]; congr 1; ring
      _ ≤ 2 ^ ((num.log2 : ℤ) - den.log2 + 1) * den := mul_le_mul_of_nonneg_left hdenLow (two_zpow_pos _).le
  unfold floorLog
  dsimp only
  split_ifs with h
  · exact ⟨(scaled_le_iff hden num _).mp h, hhigh⟩
  · refine ⟨hlow, ?_⟩
    rw [sub_add_cancel]
    exact not_le.mp fun hle => h ((scaled_le_iff hden num _).mpr hle)

end Positive

/-! ## Whole numbers -/

/-- A whole number that is not more than one half away, and that is even if it is one half away. -/
def NearestWhole (x : ℚ) (m : ℕ) : Prop := |x - m| ≤ 1 / 2 ∧ (|x - m| = 1 / 2 → Even m)

theorem roundEven_spec (num : ℕ) {den : ℕ} (hden : 0 < den) : NearestWhole (num / den) (roundEven num den) := by
  have hdenPos : (0 : ℚ) < den := by exact_mod_cast hden
  have hsplit : (num : ℚ) = den * (num / den : ℕ) + (num % den : ℕ) := by exact_mod_cast (Nat.div_add_mod num den).symm
  have hrest : num % den < den := Nat.mod_lt _ hden
  have hx : (num / den : ℚ) = (num / den : ℕ) + ((num % den : ℕ) : ℚ) / den := by
    rw [hsplit]
    field_simp
  have hhalf : ∀ {a : ℕ}, (a : ℚ) / den < 1 / 2 ↔ 2 * a < den := by
    intro a
    rw [div_lt_iff₀ hdenPos, ← Nat.cast_lt (α := ℚ)]
    push_cast
    constructor <;> intro h <;> linarith
  have hhalf' : ∀ {a : ℕ}, (a : ℚ) / den = 1 / 2 ↔ den = 2 * a := by
    intro a
    rw [div_eq_iff hdenPos.ne', ← Nat.cast_inj (R := ℚ)]
    push_cast
    constructor <;> intro h <;> linarith
  have hnonneg : (0 : ℚ) ≤ ((num % den : ℕ) : ℚ) / den := by positivity
  have hone : ((num % den : ℕ) : ℚ) / den < 1 := by
    rw [div_lt_one hdenPos]
    exact_mod_cast hrest
  unfold NearestWhole roundEven
  dsimp only
  rw [hx]
  obtain hlt | heq | hgt := lt_trichotomy (((num % den : ℕ) : ℚ) / den) (1 / 2)
  · have hdown := hhalf.mp hlt
    rw [if_neg (by omega), add_sub_cancel_left, abs_of_nonneg hnonneg]
    exact ⟨hlt.le, fun h => absurd h hlt.ne⟩
  · have htie := hhalf'.mp heq
    rw [heq]
    split_ifs with hup
    · have hodd : num / den % 2 = 1 := by omega
      push_cast
      refine ⟨?_, fun _ => Nat.even_iff.mpr (by omega)⟩
      rw [abs_le]
      constructor <;> linarith
    · rw [add_sub_cancel_left]
      refine ⟨?_, fun _ => Nat.even_iff.mpr (by omega)⟩
      rw [abs_of_nonneg (by norm_num)]
  · have hup : den < 2 * (num % den) := by
      by_contra hle
      obtain h | h := Nat.lt_or_ge (2 * (num % den)) den
      · exact absurd (hhalf.mpr h) (not_lt.mpr hgt.le)
      · exact absurd (hhalf'.mpr (by omega)) hgt.ne'
    rw [if_pos (.inl hup)]
    push_cast
    have hdistance : |((num / den : ℕ) : ℚ) + ((num % den : ℕ) : ℚ) / den - ((num / den : ℕ) + 1)| =
        1 - ((num % den : ℕ) : ℚ) / den := by
      rw [abs_of_nonpos (by linarith)]
      ring
    rw [hdistance]
    exact ⟨by linarith, fun h => absurd h (by linarith)⟩

section Whole

variable {x : ℚ} {m : ℕ} (h : NearestWhole x m)
include h

/-- No other whole number is nearer. -/
theorem NearestWhole.le (k : ℕ) : |x - m| ≤ |x - k| := by
  by_cases heq : k = m
  · rw [heq]
  · have hapart : (1 : ℚ) ≤ |(m : ℚ) - k| := by
      have hint : (1 : ℤ) ≤ |(m : ℤ) - k| := Int.one_le_abs (by omega)
      exact_mod_cast hint
    have htriangle : |(m : ℚ) - k| ≤ |x - m| + |x - k| := by
      rw [abs_sub_comm x m]
      exact abs_sub_le _ _ _
    linarith [h.1]

/-- If another one is as near, the number is even. -/
theorem NearestWhole.even {k : ℕ} (hne : k ≠ m) (heq : |x - k| = |x - m|) : Even m := by
  have hapart : (1 : ℚ) ≤ |(m : ℚ) - k| := by
    have hint : (1 : ℤ) ≤ |(m : ℤ) - k| := Int.one_le_abs (by omega)
    exact_mod_cast hint
  have htriangle : |(m : ℚ) - k| ≤ |x - m| + |x - k| := by
    rw [abs_sub_comm x m]
    exact abs_sub_le _ _ _
  exact h.2 (by linarith [h.1])

/-- A whole number below is below what is rounded. -/
theorem NearestWhole.le_of_le {k : ℕ} (hk : (k : ℚ) ≤ x) : k ≤ m := by
  have hlt : (k : ℚ) < m + 1 := by linarith [(abs_le.mp h.1).2]
  exact Nat.lt_succ_iff.mp (by exact_mod_cast hlt)

/-- A whole number above is above what is rounded. -/
theorem NearestWhole.le_of_lt {k : ℕ} (hk : x < k) : m ≤ k := by
  have hlt : (m : ℚ) < k + 1 := by linarith [(abs_le.mp h.1).1]
  exact Nat.lt_succ_iff.mp (by exact_mod_cast hlt)

theorem NearestWhole.lt_of_lt {k : ℕ} (hk : x < k - 1 / 2) : m < k := by
  have hlt : (m : ℚ) < k := by linarith [(abs_le.mp h.1).1]
  exact_mod_cast hlt

/-- What is one half below an even number, or nearer, is rounded up to it. -/
theorem NearestWhole.eq_of_half {k : ℕ} (hk : Even k) (hlow : (k : ℚ) - 1 / 2 ≤ x) (hhigh : x < k) : m = k := by
  refine le_antisymm (h.le_of_lt hhigh) ?_
  by_contra hlt
  have hbelow : (m : ℚ) + 1 ≤ k := by exact_mod_cast Nat.not_le.mp hlt
  have hbound := (abs_le.mp h.1).2
  have hpred : m + 1 = k := by
    have hle : (k : ℚ) ≤ m + 1 := by linarith
    exact le_antisymm (by exact_mod_cast hbelow) (by exact_mod_cast hle)
  have heven : Even m := h.2 (by rw [abs_of_nonneg] <;> linarith)
  rw [← hpred] at hk
  exact absurd hk (Nat.not_even_iff_odd.mpr heven.add_one)

end Whole

/-! ## Rounded significands -/

/-- A significand of one digit more is the same number at the next exponent. -/
theorem value_carry (f : Format) (e : ℤ) : value (2 ^ (f.precision - 1)) (e + 1) = value (2 ^ f.precision) e := by
  have hdigits : f.precision = f.precision - 1 + 1 := by have := f.two_le_precision; omega
  unfold value
  rw [two_zpow_add]
  nth_rewrite 2 [hdigits]
  push_cast
  ring

/-- `v`, counted in units of the exponent, and its significand there. All significands of
lower exponents are below it. -/
structure Scaled (f : Format) (v : ℚ) (m : ℕ) (e : ℤ) : Prop where
  low : f.low ≤ e
  near : NearestWhole (v / 2 ^ e) m
  below : v / 2 ^ e < 2 ^ f.precision
  normal : 2 ^ (f.precision - 1) ≤ v / 2 ^ e ∨ e = f.low

namespace Scaled

variable {v : ℚ} {m : ℕ} {e : ℤ} (h : Scaled f v m e)

theorem distance (v : ℚ) (m : ℕ) (e : ℤ) : |v - value m e| = |v / 2 ^ e - m| * 2 ^ e := by
  have hpos := two_zpow_pos e
  rw [← abs_of_pos hpos, ← abs_mul, abs_of_pos hpos]
  congr 1
  unfold value
  field_simp

/-- A number of a higher exponent is a whole number of units. -/
theorem value_of_le {m' : ℕ} {e e' : ℤ} (hle : e ≤ e') :
    value m' e' = value (m' * 2 ^ (e' - e).toNat) e := by
  have hexponent : e' = ((e' - e).toNat : ℤ) + e := by omega
  unfold value
  nth_rewrite 1 [hexponent]
  rw [two_zpow_add, zpow_natCast]
  push_cast
  ring

include h

theorem le_two_pow : m ≤ 2 ^ f.precision := h.near.le_of_lt (by exact_mod_cast h.below)

theorem le_or_low : 2 ^ (f.precision - 1) ≤ m ∨ e = f.low :=
  h.normal.imp_left fun hle => h.near.le_of_le (by exact_mod_cast hle)

/-- A number of a lower exponent is farther away than the first number of this one. -/
theorem distance_lt {m' : ℕ} {e' : ℤ} (hfits : f.Fits m' e') (hlt : e' < e) :
    |v - value m e| < |v - value m' e'| := by
  have hpos := two_zpow_pos e
  have hlow : e ≠ f.low := by have := hfits.2.1; omega
  have hnormal : ((2 ^ (f.precision - 1) : ℕ) : ℚ) ≤ v / 2 ^ e := by
    exact_mod_cast h.normal.resolve_right hlow
  have hnumber : ((2 ^ (f.precision - 1) : ℕ) : ℚ) * 2 ^ e ≤ v := (le_div_iff₀ hpos).mp hnormal
  have hbelow : value m' e' < ((2 ^ (f.precision - 1) : ℕ) : ℚ) * 2 ^ e := by
    have hm' : (m' : ℚ) < 2 ^ f.precision := by exact_mod_cast hfits.1
    have hdigits : (f.precision : ℤ) + e' ≤ ((f.precision - 1 : ℕ) : ℤ) + e := by
      have := f.two_le_precision
      omega
    calc value m' e' < 2 ^ f.precision * 2 ^ e' := mul_lt_mul_of_pos_right hm' (two_zpow_pos e')
      _ = 2 ^ ((f.precision : ℤ) + e') := by rw [two_zpow_add, zpow_natCast]
      _ ≤ 2 ^ (((f.precision - 1 : ℕ) : ℤ) + e) := two_zpow_le hdigits
      _ = ((2 ^ (f.precision - 1) : ℕ) : ℚ) * 2 ^ e := by rw [two_zpow_add, zpow_natCast]; push_cast; rfl
  calc |v - value m e|
      ≤ |v - value (2 ^ (f.precision - 1)) e| := by
        rw [distance, distance]
        exact mul_le_mul_of_nonneg_right (h.near.le _) hpos.le
    _ = v - value (2 ^ (f.precision - 1)) e := abs_of_nonneg (sub_nonneg.mpr hnumber)
    _ < v - value m' e' := sub_lt_sub_left hbelow v
    _ ≤ |v - value m' e'| := le_abs_self _

/-- No number of the format is nearer. -/
theorem distance_le {m' : ℕ} {e' : ℤ} (hfits : f.Fits m' e') : |v - value m e| ≤ |v - value m' e'| := by
  obtain hlt | hle := lt_or_ge e' e
  · exact (h.distance_lt hfits hlt).le
  · rw [value_of_le hle, distance, distance]
    exact mul_le_mul_of_nonneg_right (h.near.le _) (two_zpow_pos e).le

/-- If another number is as near, the significand is even. -/
theorem even {m' : ℕ} {e' : ℤ} (hfits : f.Fits m' e') (hne : value m' e' ≠ value m e)
    (heq : |v - value m' e'| = |v - value m e|) : Even m := by
  obtain hlt | hle := lt_or_ge e' e
  · exact absurd heq (h.distance_lt hfits hlt).ne'
  · rw [value_of_le hle] at hne heq
    rw [distance, distance] at heq
    refine h.near.even (fun hm => hne (congrArg (value · e) hm)) (mul_right_cancel₀ (two_zpow_pos e).ne' heq)

/-! ### The end of the range -/

omit h in
theorem limit_le_iff (f : Format) (v : ℚ) : f.limit ≤ v ↔ (2 ^ f.precision : ℚ) - 1 / 2 ≤ v / 2 ^ f.high :=
  (le_div_iff₀ (two_zpow_pos f.high)).symm

omit h in
/-- Half a digit above the last number is less than one exponent above the first one of as many digits. -/
theorem limit_lt (f : Format) : f.limit < 2 ^ ((f.precision : ℤ) + f.high) := by
  rw [two_zpow_add, zpow_natCast]
  exact mul_lt_mul_of_pos_right (by linarith) (two_zpow_pos _)

omit h in
theorem le_limit (f : Format) : 2 ^ (((f.precision - 1 : ℕ) : ℤ) + f.high) ≤ f.limit := by
  have hdigits : (2 : ℚ) ^ f.precision = 2 ^ (f.precision - 1) * 2 := by
    rw [← pow_succ]
    congr 1
    have := f.two_le_precision
    omega
  have hone : (1 : ℚ) ≤ 2 ^ (f.precision - 1) := one_le_pow₀ (by norm_num)
  rw [two_zpow_add, zpow_natCast]
  exact mul_le_mul_of_nonneg_right (by linarith) (two_zpow_pos _).le

/-- The exponent is in the range exactly if the number is below the limit. -/
theorem le_high_iff : (if m = 2 ^ f.precision then e + 1 else e) ≤ f.high ↔ v < f.limit := by
  have hpos := two_zpow_pos e
  have hbelow : v < 2 ^ ((f.precision : ℤ) + e) := by
    rw [two_zpow_add, zpow_natCast]
    exact (div_lt_iff₀ hpos).mp h.below
  obtain hlt | rfl | hgt := lt_trichotomy e f.high
  · -- one exponent below the last, the number is far below the limit
    have hv : v < f.limit := by
      refine lt_of_lt_of_le hbelow (le_trans (two_zpow_le ?_) (le_limit f))
      have := f.two_le_precision
      omega
    refine iff_of_true ?_ hv
    split_ifs <;> omega
  · rw [← not_le, limit_le_iff]
    constructor
    · intro hle hlimit
      have heven : Even (2 ^ f.precision) := (even_two).pow_of_ne_zero (by have := f.two_le_precision; omega)
      have hm : m = 2 ^ f.precision :=
        h.near.eq_of_half heven (by exact_mod_cast hlimit) (by exact_mod_cast h.below)
      rw [if_pos hm] at hle
      omega
    · intro hlimit
      have hm : m < 2 ^ f.precision := h.near.lt_of_lt (by exact_mod_cast not_le.mp hlimit)
      rw [if_neg hm.ne]
  · have hnormal := h.normal.resolve_right (by have := f.low_le_high; omega)
    have hv : f.limit ≤ v := by
      have hnumber : (2 : ℚ) ^ (((f.precision - 1 : ℕ) : ℤ) + e) ≤ v := by
        rw [two_zpow_add, zpow_natCast]
        exact (le_div_iff₀ hpos).mp hnormal
      refine (limit_lt f).le.trans ((two_zpow_le ?_).trans hnumber)
      have := f.two_le_precision
      omega
    refine iff_of_false ?_ (not_lt.mpr hv)
    split_ifs <;> omega

end Scaled

/-! ## Rounding is to the nearest -/

section Round

variable {num den : ℕ} (hnum : 0 < num) (hden : 0 < den)
include hnum hden

theorem scaled_exponentOf (f : Format) :
    Scaled f (num / den)
      (roundEven (num * 2 ^ (-exponentOf f num den).toNat) (den * 2 ^ (exponentOf f num den).toNat))
      (exponentOf f num den) := by
  obtain ⟨hlog, hnext⟩ := floorLog_spec hnum hden
  set e := exponentOf f num den with he
  have hpos := two_zpow_pos e
  have hmax : floorLog num den + 1 - f.precision ≤ e := le_max_right _ _
  refine ⟨le_max_left _ _, ?_, ?_, ?_⟩
  · rw [← scaled_div]
    exact roundEven_spec _ (Nat.mul_pos hden (by positivity))
  · rw [div_lt_iff₀ hpos, ← zpow_natCast, ← two_zpow_add]
    exact lt_of_lt_of_le hnext (two_zpow_le (by omega))
  · obtain hle | hle := max_choice f.low (floorLog num den + 1 - f.precision)
    · exact .inr (he.trans hle)
    · refine .inl ?_
      rw [le_div_iff₀ hpos, ← zpow_natCast, ← two_zpow_add]
      refine (two_zpow_le ?_).trans hlog
      have hexponent : e = floorLog num den + 1 - f.precision := he.trans hle
      have := f.two_le_precision
      omega

/-- What is not zero is rounded to a number of the format, as long as it is below the limit. -/
theorem fits_nearest_iff (f : Format) :
    f.Fits (nearest f num den).1 (nearest f num den).2 ↔ (num / den : ℚ) < f.limit := by
  have h := scaled_exponentOf hnum hden f
  rw [← h.le_high_iff]
  unfold nearest Format.Fits
  dsimp only
  have hle := h.le_two_pow
  have hdigits : 2 ^ (f.precision - 1) < 2 ^ f.precision :=
    Nat.pow_lt_pow_right (by decide) (by have := f.two_le_precision; omega)
  split_ifs with hcarry
  · have hlow := h.low
    exact ⟨fun hfits => hfits.2.2.1, fun hhigh => ⟨hdigits, by omega, hhigh, .inl le_rfl⟩⟩
  · exact ⟨fun hfits => hfits.2.2.1, fun hhigh => ⟨lt_of_le_of_ne hle hcarry, h.low, hhigh, h.le_or_low⟩⟩

omit hnum hden in
theorem value_nearest (f : Format) (num den : ℕ) :
    value (nearest f num den).1 (nearest f num den).2 =
      value (roundEven (num * 2 ^ (-exponentOf f num den).toNat) (den * 2 ^ (exponentOf f num den).toNat))
        (exponentOf f num den) := by
  unfold nearest
  dsimp only
  split_ifs with hcarry
  · rw [value_carry, hcarry]
  · rfl

/-- An even significand stays even if it is carried. -/
theorem even_nearest (f : Format) {m : ℕ} {e : ℤ} (hfits : f.Fits m e)
    (hne : value m e ≠ value (nearest f num den).1 (nearest f num den).2)
    (heq : |(num / den : ℚ) - value m e| =
      |(num / den : ℚ) - value (nearest f num den).1 (nearest f num den).2|) :
    Even (nearest f num den).1 := by
  rw [value_nearest] at hne heq
  have heven := (scaled_exponentOf hnum hden f).even hfits hne heq
  unfold nearest
  dsimp only
  split_ifs
  · exact (even_two).pow_of_ne_zero (by have := f.two_le_precision; omega)
  · exact heven

end Round

theorem limit_pos (f : Format) : 0 < f.limit := lt_of_lt_of_le (two_zpow_pos _) (Scaled.le_limit f)

theorem fits_zero (f : Format) : f.Fits 0 f.low :=
  ⟨by positivity, le_rfl, f.low_le_high, .inr rfl⟩

theorem value_zero (e : ℤ) : value 0 e = 0 := by simp [value]

/-- A quotient is rounded to a nearest number of the format, or to infinity. -/
theorem round_rounds (f : Format) (negative : Bool) (num : ℕ) {den : ℕ} (hden : 0 < den) :
    Rounds f (num / den) negative (round f negative num den) := by
  obtain rfl | hnum := Nat.eq_zero_or_pos num
  · have hround : round f negative 0 den = .finite negative 0 f.low (fits_zero f) := by
      simp [round, fits_zero]
    rw [hround]
    simp only [Rounds, value_zero, Nat.cast_zero, zero_div, sub_self, abs_zero, zero_sub, abs_neg, abs_eq_zero]
    exact ⟨trivial, limit_pos f, fun m e _ => abs_nonneg _, fun m e _ hzero hne => absurd hzero hne⟩
  · have hfits := fits_nearest_iff hnum hden f
    have hround : round f negative num den =
        if fits : f.Fits (nearest f num den).1 (nearest f num den).2 then
          .finite negative (nearest f num den).1 (nearest f num den).2 fits
        else .infinite negative := by
      simp [round, hnum.ne']
    rw [hround]
    split_ifs with h
    · refine ⟨rfl, hfits.mp h, fun m e hm => ?_, fun m e hm heq hne => even_nearest hnum hden f hm hne heq⟩
      rw [value_nearest]
      exact (scaled_exponentOf hnum hden f).distance_le hm
    · exact ⟨rfl, not_lt.mp fun hlt => h (hfits.mpr hlt)⟩

/-! ## Numbers that are not changed -/

/-- The number that a sign, a significand and an exponent stand for. -/
def magnitude : Floating f → Option ℚ
  | .finite _ significand exponent _ => some (value significand exponent)
  | .infinite _ => none

def negative : Floating f → Bool
  | .finite negative .. => negative
  | .infinite negative => negative

theorem value_lt_limit {m : ℕ} {e : ℤ} (hfits : f.Fits m e) : value m e < f.limit := by
  have hm : (m : ℚ) + 1 ≤ 2 ^ f.precision := by exact_mod_cast hfits.1
  calc value m e ≤ m * 2 ^ f.high := mul_le_mul_of_nonneg_left (two_zpow_le hfits.2.2.1) (Nat.cast_nonneg m)
    _ < f.limit := mul_lt_mul_of_pos_right (by linarith) (two_zpow_pos _)

/-- A number of the format is rounded to itself. -/
theorem magnitude_of_rounds {v : ℚ} {negative : Bool} {x : Floating f} (h : Rounds f v negative x) {m : ℕ} {e : ℤ}
    (hfits : f.Fits m e) (hv : v = value m e) : x.magnitude = some v ∧ x.negative = negative := by
  subst hv
  cases x with
  | finite sign significand exponent fits =>
    obtain ⟨hsign, -, hnearest, -⟩ := h
    have hzero : |value m e - value significand exponent| ≤ 0 := by simpa using hnearest m e hfits
    have heq : value m e = value significand exponent := sub_eq_zero.mp (abs_nonpos_iff.mp hzero)
    exact ⟨congrArg some heq.symm, hsign⟩
  | infinite sign => exact absurd (value_lt_limit hfits) (not_lt.mpr h.2)

/-- A number of a format is one of a wider format, maybe with another exponent. -/
theorem fits_of_within {g : Format} (hwithin : f.Within g) {m : ℕ} {e : ℤ} (hfits : f.Fits m e) :
    ∃ m' e', g.Fits m' e' ∧ value m e = value m' e' := by
  obtain ⟨hprecision, hlow, hhigh⟩ := hwithin
  obtain ⟨hm, he, he', -⟩ := hfits
  obtain rfl | hpos := Nat.eq_zero_or_pos m
  · exact ⟨0, g.low, fits_zero g, by rw [value_zero, value_zero]⟩
  · have hlog : 2 ^ m.log2 ≤ m := Nat.log2_self_le hpos.ne'
    have hnext : m < 2 ^ (m.log2 + 1) := Nat.lt_log2_self
    have hdigits : m.log2 < f.precision := (Nat.pow_lt_pow_iff_right (by decide)).mp (hlog.trans_lt hm)
    -- the significand gets as many digits as there are, or as the lowest exponent leaves
    set k := min (g.precision - 1 - m.log2) (e - g.low).toNat with hk
    have hvalue : value m e = value (m * 2 ^ k) (e - k) := by
      have hle : e - k ≤ e := by omega
      rw [Scaled.value_of_le hle, sub_sub_cancel, Int.toNat_natCast]
    have hbelow : m * 2 ^ k < 2 ^ g.precision := by
      calc m * 2 ^ k < 2 ^ (m.log2 + 1) * 2 ^ k := Nat.mul_lt_mul_of_pos_right hnext (by positivity)
        _ = 2 ^ (m.log2 + 1 + k) := (pow_add _ _ _).symm
        _ ≤ 2 ^ g.precision := Nat.pow_le_pow_right (by decide) (by omega)
    refine ⟨m * 2 ^ k, e - k, ⟨hbelow, by omega, ?_, ?_⟩, hvalue⟩
    · have := g.low_le_high
      omega
    · obtain hfull | hleast := min_choice (g.precision - 1 - m.log2) (e - g.low).toNat
      · refine .inl ?_
        rw [hk, hfull]
        calc 2 ^ (g.precision - 1) = 2 ^ m.log2 * 2 ^ (g.precision - 1 - m.log2) := by
              rw [← pow_add]
              congr 1
              omega
          _ ≤ m * 2 ^ (g.precision - 1 - m.log2) := Nat.mul_le_mul_right _ hlog
      · exact .inr (by omega)

/-- In a wider format a number stays what it is. -/
theorem magnitude_convert {g : Format} (hwithin : f.Within g) (x : Floating f) :
    (x.convert g).magnitude = x.magnitude ∧ (x.convert g).negative = x.negative := by
  cases x with
  | infinite negative => exact ⟨rfl, rfl⟩
  | finite negative significand exponent fits =>
    have hpos : 0 < 2 ^ (-exponent).toNat := by positivity
    have hrounds := round_rounds g negative (significand * 2 ^ exponent.toNat) hpos
    have hvalue : ((significand * 2 ^ exponent.toNat : ℕ) : ℚ) / (2 ^ (-exponent).toNat : ℕ) =
        value significand exponent := by
      unfold value
      rw [zpow_eq_div_toNat]
      push_cast
      ring
    rw [hvalue] at hrounds
    obtain ⟨m, e, hfits, heq⟩ := fits_of_within hwithin fits
    exact magnitude_of_rounds hrounds hfits heq

end Floating
