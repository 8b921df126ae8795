import Mathlib.Data.Int.Notation
import Mathlib.Data.Nat.Notation
import Mathlib.Tactic.Push
import Mathlib.Algebra.Order.Ring.Int
import Mathlib.Algebra.Order.Ring.Abs

/-!
# C integer conversions

The few conversions that C programs make silently: sums and differences of unsigned operands,
conversion of a signed value to an unsigned type, and the value of a plain `char`, whose signedness
the platform chooses.  Division rounds towards zero; `Slice` are the dividends of one quotient.
-/

namespace CTypes

/-- `a - b` at an unsigned type of `w` bits. -/
def usub (w a b : ℕ) : ℕ := (a + 2 ^ w - b % 2 ^ w) % 2 ^ w

lemma usub_of_le {w a b : ℕ} (hba : b ≤ a) (ha : a < 2 ^ w) : usub w a b = a - b := by
  rw [usub, Nat.mod_eq_of_lt (lt_of_le_of_lt hba ha),
    show a + 2 ^ w - b = a - b + 2 ^ w by omega, Nat.add_mod_right,
    Nat.mod_eq_of_lt (by omega)]

/-- `a + b` at an unsigned type of `w` bits. -/
def uadd (w a b : ℕ) : ℕ := (a + b) % 2 ^ w

lemma uadd_of_lt {w a b : ℕ} (h : a + b < 2 ^ w) : uadd w a b = a + b := Nat.mod_eq_of_lt h

/-- Conversion of a signed value to an unsigned type of `w` bits. -/
def toUnsigned (w : ℕ) (n : ℤ) : ℕ := (n % 2 ^ w).toNat

lemma toUnsigned_natCast {w n : ℕ} (h : n < 2 ^ w) : toUnsigned w n = n := by
  have hn : ((n : ℤ) % 2 ^ w) = ((n % 2 ^ w : ℕ) : ℤ) := by push_cast; rfl
  rw [toUnsigned, hn, Int.toNat_natCast, Nat.mod_eq_of_lt h]

/-- The value of a `char` that holds the byte `b`. -/
def charValue (charSigned : Bool) (b : UInt8) : ℤ :=
  if charSigned ∧ 128 ≤ b.toNat then b.toNat - 256 else b.toNat

lemma charValue_bounds (charSigned : Bool) (b : UInt8) :
    -128 ≤ charValue charSigned b ∧ charValue charSigned b < 256 := by
  have hb := b.toNat_lt
  simp only [charValue]
  split <;> omega

/-- A `char` compared with a small unsigned constant compares bytes. -/
lemma toUnsigned_charValue_eq_iff {b : UInt8} {n : ℕ} (hn : n < 128) (charSigned : Bool) :
    toUnsigned 32 (charValue charSigned b) = n ↔ b.toNat = n := by
  have hb := b.toNat_lt
  simp only [toUnsigned, charValue]
  split <;> omega

/-! ## Division -/

/-- The numbers from `q * d` up to the next multiple of `d` away from zero, that one excluded; for
`q = 0`, in both directions. -/
def Slice (d q x : ℤ) : Prop :=
  (0 ≤ q * d ∧ q * d ≤ x ∧ x < q * d + |d|) ∨ (q * d ≤ 0 ∧ x ≤ q * d ∧ q * d - |d| < x)

instance (d q x : ℤ) : Decidable (Slice d q x) :=
  inferInstanceAs (Decidable ((0 ≤ q * d ∧ q * d ≤ x ∧ x < q * d + |d|) ∨
    (q * d ≤ 0 ∧ x ≤ q * d ∧ q * d - |d| < x)))

lemma slice_tdiv {d : ℤ} (hd : d ≠ 0) (x : ℤ) : Slice d (x.tdiv d) x := by
  have hmod := Int.tdiv_mul_add_tmod x d
  have habs : ((x.tmod d).natAbs : ℤ) < |d| ∧ ((x.tmod d).natAbs : ℤ) ≤ x.natAbs := by
    rw [Int.natAbs_tmod, ← Int.natCast_natAbs]
    have hlt := Nat.mod_lt x.natAbs (Int.natAbs_pos.mpr hd)
    have hle := Nat.mod_le x.natAbs d.natAbs
    omega
  rcases Int.le_total 0 x with hx | hx
  · have hr := Int.tmod_nonneg d hx
    exact Or.inl (by omega)
  · have hr := Int.tmod_nonneg d (Int.neg_nonneg_of_nonpos hx)
    rw [Int.neg_tmod] at hr
    exact Or.inr (by omega)

/-- A multiple of `d` closer to zero than `d` is zero. -/
lemma eq_zero_of_abs_mul_lt {k d : ℤ} (h : |k * d| < |d|) : k = 0 := by
  by_contra hk
  have hone : 1 ≤ |k| := Int.one_le_abs hk
  have hle := le_mul_of_one_le_left (abs_nonneg d) hone
  rw [abs_mul] at h
  omega

/-- **The dividends of one quotient.** -/
theorem tdiv_eq_iff_slice {d : ℤ} (hd : d ≠ 0) {x q : ℤ} : x.tdiv d = q ↔ Slice d q x := by
  constructor
  · intro h
    exact h ▸ slice_tdiv hd x
  · intro h
    have hself := slice_tdiv hd x
    have hpos := abs_pos.mpr hd
    have hdist : |(x.tdiv d - q) * d| < |d| := by
      rw [sub_mul, abs_lt]
      simp only [Slice] at h hself
      omega
    have hzero := eq_zero_of_abs_mul_lt hdist
    omega

/-- Adding a multiple of the divisor to a dividend without passing zero. -/
lemma tdiv_add_mul_self {x d n : ℤ} (hd : d ≠ 0) (hsign : 0 ≤ x ∧ 0 ≤ x + n * d ∨
    x ≤ 0 ∧ x + n * d ≤ 0) : (x + n * d).tdiv d = x.tdiv d + n := by
  have hself := slice_tdiv hd x
  have hsum := slice_tdiv hd (x + n * d)
  have hpos := abs_pos.mpr hd
  have hdist : |((x + n * d).tdiv d - (x.tdiv d + n)) * d| < |d| := by
    rw [sub_mul, add_mul, abs_lt]
    simp only [Slice] at hself hsum
    omega
  have hzero := eq_zero_of_abs_mul_lt hdist
  omega

end CTypes
