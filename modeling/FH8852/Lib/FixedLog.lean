import Mathlib.Algebra.Order.Group.Nat

/-!
# Fixed-point logarithms

The binary logarithm in units of `1 / s`, with a fraction that is linear between
powers of two.  It is read off the leading bit of a number and the bits after it,
so code computes it with shifts alone where `s` is a power of two.
-/

namespace FH8852
namespace FixedLog

/-- How far `n` is from the power of two below it to the next one. -/
def fraction (s n : Nat) : Nat := s * (n - 2 ^ n.log2) / 2 ^ n.log2

def log (s n : Nat) : Nat := s * n.log2 + fraction s n

variable {s k m n : Nat}

theorem fraction_lt (hs : 0 < s) (n : Nat) : fraction s n < s := by
  have hhigh := Nat.lt_log2_self (n := n)
  rw [Nat.pow_succ] at hhigh
  refine Nat.div_lt_of_lt_mul ?_
  rw [Nat.mul_comm]
  exact Nat.mul_lt_mul_of_pos_right (by omega) hs

/-- The bits after the leading one are shifted down when there are more than `k`. -/
theorem fraction_shiftRight (h : k ≤ n.log2) :
    fraction (2 ^ k) n = (n - 2 ^ n.log2) / 2 ^ (n.log2 - k) := by
  have hsplit : 2 ^ n.log2 = 2 ^ k * 2 ^ (n.log2 - k) := by
    rw [← Nat.pow_add]
    congr 1
    omega
  unfold fraction
  calc 2 ^ k * (n - 2 ^ n.log2) / 2 ^ n.log2
      = 2 ^ k * (n - 2 ^ n.log2) / (2 ^ k * 2 ^ (n.log2 - k)) := by rw [← hsplit]
    _ = (n - 2 ^ n.log2) / 2 ^ (n.log2 - k) := Nat.mul_div_mul_left _ _ (Nat.two_pow_pos k)

/-- They are shifted up when there are fewer. -/
theorem fraction_shiftLeft (h : n.log2 ≤ k) :
    fraction (2 ^ k) n = (n - 2 ^ n.log2) * 2 ^ (k - n.log2) := by
  have hsplit : 2 ^ k = 2 ^ (k - n.log2) * 2 ^ n.log2 := by
    rw [← Nat.pow_add]
    congr 1
    omega
  unfold fraction
  calc 2 ^ k * (n - 2 ^ n.log2) / 2 ^ n.log2
      = (n - 2 ^ n.log2) * 2 ^ (k - n.log2) * 2 ^ n.log2 / 2 ^ n.log2 := by
        rw [Nat.mul_assoc, ← hsplit, Nat.mul_comm]
    _ = (n - 2 ^ n.log2) * 2 ^ (k - n.log2) := Nat.mul_div_cancel _ (Nat.two_pow_pos _)

/-- The integer part. -/
theorem log_div (hs : 0 < s) (n : Nat) : log s n / s = n.log2 := by
  rw [log, Nat.mul_add_div hs, Nat.div_eq_of_lt (fraction_lt hs n), Nat.add_zero]

/-- There is no fraction at a power of two. -/
theorem log_two_pow (s k : Nat) : log s (2 ^ k) = s * k := by
  rw [log, fraction, Nat.log2_two_pow, Nat.sub_self, Nat.mul_zero, Nat.zero_div, Nat.add_zero]

theorem log_mono (hs : 0 < s) (hm : m ≠ 0) (h : m ≤ n) : log s m ≤ log s n := by
  have hn : n ≠ 0 := by omega
  have hlog : m.log2 ≤ n.log2 := (Nat.le_log2 hn).mpr ((Nat.log2_self_le hm).trans h)
  unfold log
  rcases Nat.eq_or_lt_of_le hlog with hsame | hless
  · -- the same leading bit: what follows it is compared
    have hrest : m - 2 ^ n.log2 ≤ n - 2 ^ n.log2 := Nat.sub_le_sub_right h _
    unfold fraction
    rw [hsame]
    exact Nat.add_le_add_left (Nat.div_le_div_right (Nat.mul_le_mul_left s hrest)) _
  · -- a fraction does not make up for a leading bit
    have hfraction := fraction_lt hs m
    calc s * m.log2 + fraction s m ≤ s * (m.log2 + 1) := by
          rw [Nat.mul_succ]
          omega
      _ ≤ s * n.log2 := Nat.mul_le_mul_left s hless
      _ ≤ s * n.log2 + fraction s n := Nat.le_add_right _ _

end FixedLog
end FH8852
