-- SUMMARY: Binary floating-point formats, and quotients rounded to a number of a format.
import Mathlib.Algebra.Group.Int.Defs
import Mathlib.Algebra.Group.Nat.Defs
import Mathlib.Data.Int.Notation
import Mathlib.Data.Nat.Notation
import Mathlib.Order.Lattice

/-!
# Floating-point numbers

A format has a precision and a range of exponents. A number of it is a whole
significand times a power of two; all significands but those of the lowest exponent
have as many digits as the precision says. Rounding takes a nearest number, of two
nearest ones that with an even significand, and infinity above the last number.
-/

/-- A binary format. The least and the greatest exponent are those of the last digit
of a significand. -/
structure Format where
  precision : ℕ
  low : ℤ
  high : ℤ
  two_le_precision : 2 ≤ precision
  low_le_high : low ≤ high

namespace Format

/-- Single precision. -/
def binary32 : Format := ⟨24, -149, 104, by decide, by decide⟩

/-- Double precision. -/
def binary64 : Format := ⟨53, -1074, 971, by decide, by decide⟩

/-- Whether a significand and an exponent are those of a number of the format. -/
def Fits (f : Format) (significand : ℕ) (exponent : ℤ) : Prop :=
  significand < 2 ^ f.precision ∧ f.low ≤ exponent ∧ exponent ≤ f.high ∧
    (2 ^ (f.precision - 1) ≤ significand ∨ exponent = f.low)

instance (f : Format) (significand : ℕ) (exponent : ℤ) : Decidable (f.Fits significand exponent) :=
  inferInstanceAs (Decidable (_ ∧ _))

/-- Every number of a format is one of a wider format. -/
structure Within (f g : Format) : Prop where
  precision : f.precision ≤ g.precision
  low : g.low ≤ f.low
  high : f.high + f.precision ≤ g.high + g.precision

theorem binary32_within : binary32.Within binary64 := ⟨by decide, by decide, by decide⟩

end Format

/-- A number of a format. Zero has a sign. -/
inductive Floating (f : Format)
  | finite (negative : Bool) (significand : ℕ) (exponent : ℤ) (fits : f.Fits significand exponent)
  | infinite (negative : Bool)
deriving DecidableEq

namespace Floating

variable {f : Format}

/-! ## Rounding -/

/-- The greatest `e` for which `2 ^ e` is not above `num / den`. -/
def floorLog (num den : ℕ) : ℤ :=
  let e : ℤ := num.log2 - den.log2
  if den * 2 ^ e.toNat ≤ num * 2 ^ (-e).toNat then e else e - 1

/-- The nearest whole number to `num / den`, of two nearest ones the even one. -/
def roundEven (num den : ℕ) : ℕ :=
  let up := den < 2 * (num % den) ∨ den = 2 * (num % den) ∧ num / den % 2 = 1
  if up then num / den + 1 else num / den

/-- The exponent that a number is rounded with. -/
def exponentOf (f : Format) (num den : ℕ) : ℤ := max f.low (floorLog num den + 1 - f.precision)

/-- The significand and the exponent nearest to `num / den`, whatever the exponents end with. -/
def nearest (f : Format) (num den : ℕ) : ℕ × ℤ :=
  let e := exponentOf f num den
  let significand := roundEven (num * 2 ^ (-e).toNat) (den * 2 ^ e.toNat)
  if significand = 2 ^ f.precision then (2 ^ (f.precision - 1), e + 1) else (significand, e)

/-- `num / den`, rounded. -/
def round (f : Format) (negative : Bool) (num den : ℕ) : Floating f :=
  let r := if num = 0 then (0, f.low) else nearest f num den
  if fits : f.Fits r.1 r.2 then .finite negative r.1 r.2 fits else .infinite negative

def isFinite : Floating f → Bool
  | .finite .. => true
  | .infinite _ => false

/-- A number, rounded to another format. -/
def convert (g : Format) : Floating f → Floating g
  | .finite negative significand exponent _ =>
    round g negative (significand * 2 ^ exponent.toNat) (2 ^ (-exponent).toNat)
  | .infinite negative => .infinite negative

end Floating
