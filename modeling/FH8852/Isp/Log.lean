import FH8852.Isp.BufAddr
import FH8852.Lib.FixedLog

/-!
# The logarithm

`easylog2` counts the bits of a number in a loop and takes the fraction from the
bits after the leading one.
-/

namespace FH8852
namespace Isp

/-- The shifts, as the ARM instructions do them. -/
def shl (a n : UInt32) : UInt32 := if n < 32 then a <<< n else 0

def shr (a n : UInt32) : UInt32 := if n < 32 then a >>> n else 0

/-- The loop of `easylog2`: the `v1` and `v2` it ends with. -/
def easylog2Loop : Nat → UInt32 → UInt32 → Option (UInt32 × UInt32)
  | 0, _, _ => none
  | fuel + 1, v5, v2 =>
    if v5 >>> 1 ≠ 0 then easylog2Loop fuel (v5 >>> 1) (v2 + 1) else some (v2, v2 + 1)

def easylog2 (fuel : Nat) (x : UInt32) : Option UInt32 :=
  let last := fun v3 v4 v5 : UInt32 => v4 + shl (x - v3) (v5 &&& 0xff)
  let v5 := x >>> 1
  if v5 = 0 then some (last 1 0 8)
  else
    (easylog2Loop fuel v5 0).map fun r =>
      let one := shl 1 (r.2 &&& 0xff)
      if 7 < r.2 then r.2 * 0x100 + shr (x - one) ((r.1 - 7) &&& 0xff)
      else last one (r.2 * 0x100) (8 - r.2)

/-! ## Shifts -/

theorem low_byte {n : UInt32} (h : n.toNat < 256) : n &&& 0xff = n := by
  refine UInt32.toNat_inj.mp ?_
  rw [UInt32.toNat_and]
  exact (Nat.and_two_pow_sub_one_eq_mod n.toNat 8).trans (Nat.mod_eq_of_lt h)

theorem shl_toNat {a n : UInt32} (hn : n.toNat < 32) (h : a.toNat * 2 ^ n.toNat < 2 ^ 32) :
    (shl a n).toNat = a.toNat * 2 ^ n.toNat := by
  rw [shl, if_pos (UInt32.lt_iff_toNat_lt.mpr hn), UInt32.toNat_shiftLeft, Nat.mod_eq_of_lt hn,
    Nat.shiftLeft_eq, Nat.mod_eq_of_lt h]

theorem shr_toNat {a n : UInt32} (hn : n.toNat < 32) :
    (shr a n).toNat = a.toNat / 2 ^ n.toNat := by
  rw [shr, if_pos (UInt32.lt_iff_toNat_lt.mpr hn), UInt32.toNat_shiftRight, Nat.mod_eq_of_lt hn,
    Nat.shiftRight_eq_div_pow]

theorem half_toNat (a : UInt32) : (a >>> 1).toNat = a.toNat / 2 := by
  rw [UInt32.toNat_shiftRight]
  exact Nat.shiftRight_eq_div_pow _ 1

/-! ## The loop counts bits -/

theorem log2_eq_zero {n : Nat} (h : n < 2) : n.log2 = 0 := by
  rw [Nat.log2_def, if_neg (by omega)]

theorem log2_half {n : Nat} (h : 2 ≤ n) : n.log2 = (n / 2).log2 + 1 := by
  rw [Nat.log2_def, if_pos h]

theorem easylog2Loop_eq {fuel : Nat} {v5 v2 : UInt32} (hfuel : v5.toNat.log2 < fuel)
    (hv2 : v2.toNat + v5.toNat.log2 + 1 < 2 ^ 32) :
    ∃ r, easylog2Loop fuel v5 v2 = some r ∧ r.1.toNat = v2.toNat + v5.toNat.log2 ∧
      r.2.toNat = v2.toNat + v5.toNat.log2 + 1 := by
  have hone : (1 : UInt32).toNat = 1 := rfl
  induction fuel generalizing v5 v2 with
  | zero => omega
  | succ fuel ih =>
      have hhalf := half_toNat v5
      unfold easylog2Loop
      by_cases hend : v5 >>> 1 = 0
      · rw [hend] at hhalf
        have hzero : (0 : UInt32).toNat = 0 := rfl
        have hlog := log2_eq_zero (n := v5.toNat) (by omega)
        rw [if_neg (not_not.mpr hend), hlog]
        refine ⟨_, rfl, rfl, ?_⟩
        rw [UInt32.toNat_add, hone]
        omega
      · have hne : (v5 >>> 1).toNat ≠ 0 := fun h => hend (UInt32.toNat_inj.mp h)
        have hlog := log2_half (n := v5.toNat) (by omega)
        have hadd : (v2 + 1).toNat = v2.toNat + 1 := by
          rw [UInt32.toNat_add, hone]
          omega
        rw [← hhalf] at hlog
        obtain ⟨r, hr, h1, h2⟩ := @ih (v5 >>> 1) (v2 + 1) (by omega) (by omega)
        rw [if_pos hend]
        exact ⟨r, hr, by omega, by omega⟩

/-! ## The fraction -/

/-- The fractional part of the logarithm, in 256ths, comes from either shift. -/
def logFraction (n : Nat) : Nat := 256 * (n - 2 ^ n.log2) / 2 ^ n.log2

theorem logFraction_lt (n : Nat) : logFraction n < 256 :=
  FixedLog.fraction_lt (by decide) n

section Branches

variable {x v1 v2 : UInt32} (hx : 1 ≤ x.toNat) (hv2 : v2.toNat = x.toNat.log2)

include hx hv2

theorem leading_lt : v2.toNat < 32 := by
  rw [hv2]
  exact (Nat.log2_lt (by omega)).mpr x.toNat_lt

theorem leading_toNat : (shl 1 v2).toNat = 2 ^ x.toNat.log2 := by
  have hlow := Nat.log2_self_le (n := x.toNat) (by omega)
  have hlt := x.toNat_lt
  have hone : (1 : UInt32).toNat = 1 := rfl
  rw [shl_toNat (leading_lt hx hv2), hv2, hone, Nat.one_mul]
  rw [hv2, hone, Nat.one_mul]
  omega

/-- The bits after the leading one. -/
theorem rest_toNat : (x - shl 1 v2).toNat = x.toNat - 2 ^ x.toNat.log2 := by
  have hlow := Nat.log2_self_le (n := x.toNat) (by omega)
  have hleading := leading_toNat hx hv2
  rw [UInt32.toNat_sub_of_le _ _ (UInt32.le_iff_toNat_le.mpr (by rw [hleading]; exact hlow)),
    hleading]

theorem large_fraction (hv1 : v1.toNat + 1 = v2.toNat) (hlarge : 7 < v2) :
    (shr (x - shl 1 v2) ((v1 - 7) &&& 0xff)).toNat = logFraction x.toNat := by
  have hseven : (7 : UInt32).toNat = 7 := rfl
  have hlog8 := UInt32.lt_iff_toNat_lt.mp hlarge
  have hlt := leading_lt hx hv2
  have hshift : (v1 - 7).toNat = x.toNat.log2 - 8 := by
    rw [UInt32.toNat_sub_of_le _ _ (UInt32.le_iff_toNat_le.mpr (by omega))]
    omega
  rw [low_byte (by omega), shr_toNat (by omega), rest_toNat hx hv2, hshift]
  exact (FixedLog.fraction_shiftRight (show 8 ≤ x.toNat.log2 by omega)).symm

theorem small_fraction (hsmall : ¬ 7 < v2) :
    (shl (x - shl 1 v2) ((8 - v2) &&& 0xff)).toNat = logFraction x.toNat := by
  have hseven : (7 : UInt32).toNat = 7 := rfl
  have height : (8 : UInt32).toNat = 8 := rfl
  have hlog7 := UInt32.lt_iff_toNat_lt.not.mp hsmall
  have hshift : (8 - v2).toNat = 8 - x.toNat.log2 := by
    rw [UInt32.toNat_sub_of_le _ _ (UInt32.le_iff_toNat_le.mpr (by omega))]
    omega
  have hfraction : logFraction x.toNat = (x.toNat - 2 ^ x.toNat.log2) * 2 ^ (8 - x.toNat.log2) :=
    FixedLog.fraction_shiftLeft (show x.toNat.log2 ≤ 8 by omega)
  have hbound := logFraction_lt x.toNat
  rw [hfraction] at hbound ⊢
  rw [low_byte (by omega), shl_toNat (by omega) (by rw [rest_toNat hx hv2, hshift]; omega),
    rest_toNat hx hv2, hshift]

/-- The fraction goes below the integer part. -/
theorem whole_add {f : UInt32} (hf : f.toNat = logFraction x.toNat) :
    (v2 * 0x100 + f).toNat = x.toNat.log2 * 256 + logFraction x.toNat := by
  have hlt := leading_lt hx hv2
  have hbound := logFraction_lt x.toNat
  have hscaled : (v2 * 0x100).toNat = x.toNat.log2 * 256 := by
    rw [UInt32.toNat_mul, hv2]
    show x.toNat.log2 * 256 % 2 ^ 32 = _
    omega
  rw [UInt32.toNat_add, hscaled, hf]
  exact Nat.mod_eq_of_lt (by omega)

end Branches

/-- The result is the logarithm with eight bits after the point. -/
theorem easylog2_eq {fuel : Nat} {x : UInt32} (hx : 1 ≤ x.toNat) (hfuel : 32 ≤ fuel) :
    ∃ r, easylog2 fuel x = some r ∧ r.toNat = x.toNat.log2 * 256 + logFraction x.toNat := by
  have hhalf := half_toNat x
  have hzero : (0 : UInt32).toNat = 0 := rfl
  unfold easylog2
  by_cases hend : x >>> 1 = 0
  · have hone : x = 1 := by
      rw [hend] at hhalf
      refine UInt32.toNat_inj.mp ?_
      show x.toNat = 1
      omega
    subst hone
    exact ⟨0, rfl, by decide⟩
  · have hne : (x >>> 1).toNat ≠ 0 := fun h => hend (UInt32.toNat_inj.mp h)
    have hlog := log2_half (n := x.toNat) (by omega)
    have hlog32 : x.toNat.log2 < 32 := (Nat.log2_lt (by omega)).mpr x.toNat_lt
    rw [← hhalf] at hlog
    obtain ⟨r, hr, h1, h2⟩ := @easylog2Loop_eq fuel (x >>> 1) 0 (by omega) (by omega)
    have hv2 : r.2.toNat = x.toNat.log2 := by omega
    simp only [if_neg hend, hr, Option.map_some, low_byte (n := r.2) (by omega)]
    refine ⟨_, rfl, ?_⟩
    by_cases hlarge : 7 < r.2
    · rw [if_pos hlarge]
      exact whole_add hx hv2 (large_fraction hx hv2 (by omega) hlarge)
    · rw [if_neg hlarge]
      exact whole_add hx hv2 (small_fraction hx hv2 hlarge)

theorem asInt_of_lt {v : UInt32} (h : v.toNat < 2 ^ 31) : asInt v = v.toNat :=
  BitVec.toInt_eq_toNat_of_lt (show 2 * v.toNat < 2 ^ 32 by omega)

theorem easylog2_log {fuel : Nat} {x : UInt32} (hx : 1 ≤ x.toNat) (hfuel : 32 ≤ fuel) :
    ∃ r, easylog2 fuel x = some r ∧ asInt r = FixedLog.log 256 x.toNat := by
  obtain ⟨r, hr, hlog⟩ := easylog2_eq hx hfuel
  have hbound := logFraction_lt x.toNat
  have hlog32 : x.toNat.log2 < 32 := (Nat.log2_lt (by omega)).mpr x.toNat_lt
  have hvalue : r.toNat = FixedLog.log 256 x.toNat := by
    rw [hlog, Nat.mul_comm]
    rfl
  refine ⟨r, hr, ?_⟩
  rw [asInt_of_lt (by omega), hvalue]

/-- The loop ends, and the result is the binary logarithm in 256ths, linear between
powers of two and cut to an integer: exact at the powers, with the integer part above
the low byte, and never smaller for a larger number. -/
theorem easylog2_interpolates {fuel : Nat} {x : UInt32} (hx : 1 ≤ x.toNat) (hfuel : 32 ≤ fuel) :
    ∃ r, easylog2 fuel x = some r ∧
      asInt r = (256 * x.toNat.log2 +
        256 * (x.toNat - 2 ^ x.toNat.log2) / 2 ^ x.toNat.log2 : Nat) ∧
      (∀ y s, x ≤ y → easylog2 fuel y = some s → asInt r ≤ asInt s) ∧
      (∀ k : Nat, x.toNat = 2 ^ k → asInt r = 256 * k) ∧
      asInt r / 256 = x.toNat.log2 := by
  have hpos : 0 < 256 := by decide
  obtain ⟨r, hr, hlog⟩ := easylog2_log hx hfuel
  refine ⟨r, hr, hlog, fun y s hle hs => ?_, fun k hk => ?_, ?_⟩
  · rw [UInt32.le_iff_toNat_le] at hle
    obtain ⟨s', hs', hlog'⟩ := easylog2_log (x := y) (by omega) hfuel
    rw [hs] at hs'
    rw [hlog, Option.some.inj hs', hlog']
    exact Int.ofNat_le.mpr (FixedLog.log_mono hpos (by omega) hle)
  · rw [hlog, hk, FixedLog.log_two_pow]
    exact Int.natCast_mul 256 k
  · rw [hlog]
    exact congrArg Int.ofNat (FixedLog.log_div hpos x.toNat)

theorem easylog2_interpolates_sample :
    ∃ r, easylog2 32 1000 = some r ∧
      asInt r = (256 * Nat.log2 1000 + 256 * (1000 - 2 ^ Nat.log2 1000) / 2 ^ Nat.log2 1000 : Nat) ∧
      (∀ y s, 1000 ≤ y → easylog2 32 y = some s → asInt r ≤ asInt s) ∧
      (∀ k : Nat, 1000 = 2 ^ k → asInt r = 256 * k) ∧
      asInt r / 256 = Nat.log2 1000 :=
  easylog2_interpolates (by decide) (Nat.le_refl _)

end Isp
end FH8852
