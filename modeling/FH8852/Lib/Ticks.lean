import Mathlib.Algebra.Order.Group.Nat
import Mathlib.Tactic.Ring

/-!
# Ticks

A clock of `num / den` ticks to a unit of time shows whole ticks.  The ticks
between two times are less than one off the exact number, whatever the clock
showed at the first, so cutting the fractions off never adds up.
-/

namespace FH8852
namespace Ticks

/-- What the clock shows at time `x`. -/
def ticks (num den x : Nat) : Nat := num * x / den

/-- `d` ticks are less than one off the exact number for a time of length `len`. -/
def Near (num den d len : Nat) : Prop :=
  num * len < (d + 1) * den ∧ d * den < num * len + den

variable {num den x y : Nat}

theorem ticks_le (h : x ≤ y) : ticks num den x ≤ ticks num den y :=
  Nat.div_le_div_right (Nat.mul_le_mul_left num h)

/-- The exact numbers around what the clock shows. -/
theorem ticks_bounds (hden : 0 < den) (num x : Nat) :
    ticks num den x * den ≤ num * x ∧ num * x < ticks num den x * den + den := by
  have hmod := Nat.mod_lt (num * x) hden
  have hsplit := Nat.div_add_mod' (num * x) den
  unfold ticks
  omega

theorem ticks_sub_near (hden : 0 < den) (num x y : Nat) :
    Near num den (ticks num den y - ticks num den x) (y - x) := by
  obtain ⟨hxlow, hxhigh⟩ := ticks_bounds hden num x
  obtain ⟨hylow, hyhigh⟩ := ticks_bounds hden num y
  have hsub : (ticks num den y - ticks num den x) * den =
      ticks num den y * den - ticks num den x * den := Nat.sub_mul _ _ _
  have hlen : num * (y - x) = num * y - num * x := Nat.mul_sub _ _ _
  unfold Near
  rw [hlen, Nat.add_mul, hsub]
  omega

/-- Over a whole number of periods the ticks are exact. -/
theorem ticks_sub_of_dvd (hden : 0 < den) (h : x ≤ y) (hdvd : den ∣ y - x) :
    (ticks num den y - ticks num den x) * den = num * (y - x) := by
  obtain ⟨k, hk⟩ := hdvd
  have hy : num * y = num * x + den * (num * k) := by
    have hsum : y = x + den * k := by omega
    rw [hsum]
    ring
  have hticks : ticks num den y = ticks num den x + num * k := by
    rw [ticks, hy, Nat.add_mul_div_left _ _ hden]
    rfl
  rw [hticks, Nat.add_sub_cancel_left, hk]
  ring

/-- Two numbers of ticks for the same time differ by at most one. -/
theorem Near.le_succ {d d' len : Nat} (h : Near num den d len) (h' : Near num den d' len) :
    d ≤ d' + 1 := by
  have hlt : d * den < (d' + 2) * den := by
    have hsum : (d' + 2) * den = (d' + 1) * den + den := by ring
    rw [hsum]
    exact Nat.lt_trans h.2 (Nat.add_lt_add_right h'.1 den)
  have hless : d < d' + 2 := Nat.lt_of_mul_lt_mul_right hlt
  omega

end Ticks
end FH8852
