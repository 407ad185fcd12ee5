import FH8852.Isp.Log
import FH8852.Lib.Search

/-!
# Statistics windows

`isp_win_param` searches for the size of a statistics window.  Its labels are
functions of the variables that are live there, and it has no result where the
source divides by zero or does not stop.
-/

namespace FH8852
namespace Isp

open Search

def divU (a b : UInt32) : Option UInt32 := if b = 0 then none else some (a / b)

/-! ## The search -/

/-- The five words of a window. -/
structure Win where
  p0 : UInt32
  p1 : UInt32
  p2 : UInt32
  p3 : UInt32
  p4 : UInt32
deriving DecidableEq

def winFinish (fuel : Nat) (p : Win) (v1 : UInt32) : Option Win := do
  let v5 ← easylog2 fuel v1
  let v6 := p.p0 + 1
  let v7 := v6 >>> 1
  let v6 := if p.p0 = 0xffffffff then 1 else v6
  let unit := shl 1 (((v5 >>> 8) + 10) &&& 0xff)
  let q ← divU (v7 + unit) v6
  some { p with p3 := (v5 >>> 8) + 2, p1 := q - 1 }

/-- The number of windows for the size that has been chosen. -/
def winCount (fuel : Nat) (p : Win) (v1 v3 v6 : UInt32) : Option Win := do
  let v7 := if v3 = 0xffffffff then 1 else v1
  let q ← divU v6 v7
  winFinish fuel { p with p2 := q + 1 } v1

/-- Whether the remainder of a size lies between 1 and 7. -/
def winRemainder (v1 v2 : UInt32) : Option Bool :=
  (divU v2 v1).map fun q => (v2 - v1 * q) - 1 < 7

/-- How the loop ends: with its `v3` and `v1`, and whether it went to `finish`. -/
structure WinExit where
  v3 : UInt32
  v1 : UInt32
  finish : Bool

def winLoop : Nat → UInt32 → UInt32 → UInt32 → Option WinExit
  | 0, _, _, _ => none
  | fuel + 1, v4, v5, v7 =>
    let v3 := v4 - 2
    let v1 := v4 - 1
    let v2 := v5 - (v1 >>> 1)
    if v3 < v7 then some ⟨v3, v1, true⟩
    else do
      let again ← winRemainder v1 v2
      if again then winLoop fuel v3 v5 v7 else some ⟨v3, v1, false⟩

def winAfterAdjust (fuel : Nat) (p : Win) (v3 v5 v6 v7 : UInt32) : Option Win :=
  let v1 := v3 + 1
  if v3 < v7 then winFinish fuel p v1
  else do
    let v2 := v5 - (v1 >>> 1)
    let again ← winRemainder v1 v2
    if again then
      let e ← winLoop fuel v3 v5 v7
      if e.finish then winFinish fuel { p with p0 := e.v3 } e.v1
      else winCount fuel { p with p0 := e.v3 } e.v1 e.v3 v6
    else winCount fuel p v1 v3 v6

def winAdjust (fuel : Nat) (p : Win) (v3 v5 v6 v7 : UInt32) : Option Win :=
  let v3 := if v7 < v3 then v3 - 1 else v3 + 1
  winAfterAdjust fuel { p with p0 := v3 } v3 v5 v6 v7

def winCommon (fuel : Nat) (p : Win) (v5 v6 v7 : UInt32) : Option Win :=
  let v3 := (v6 >>> 1) - 1
  let v3 := if p.p0 ≤ v3 then p.p0 else v3
  let v3 := if v3 < v7 then v7 else v3
  let p := { p with p0 := v3 }
  if v3 &&& 1 ≠ 0 then winAfterAdjust fuel p v3 v5 v6 v7 else winAdjust fuel p v3 v5 v6 v7

def winFallback (fuel : Nat) (p : Win) : Option Win :=
  let v5 := p.p4
  let v6 := v5 - 1
  let v3 := (v6 >>> 1) - 1
  let v3 := if p.p0 ≤ v3 then p.p0 else v3
  let p := { p with p0 := v3 }
  if v3 &&& 1 ≠ 0 then winAfterAdjust fuel p v3 v5 v6 0 else winAdjust fuel p v3 v5 v6 0

def ispWinParam (fuel : Nat) (p : Win) (mode sel : Int) : Option Win :=
  let v5 := p.p4
  let v6 := v5 - 1
  if mode = 0 then
    if sel = 1 then
      winCommon fuel p v5 v6 (if v5 * 10 < 0x43d then 7 else v5 * 10 / 0x9b)
    else if sel = 0 then
      winCommon fuel p v5 v6 (if v5 * 10 < 0x89d then 7 else v5 * 10 / 0x13b)
    else winFallback fuel p
  else if mode = 1 then
    if sel = 1 then winCommon fuel p v5 v6 (v6 / 0x16 - 1)
    else if sel = 0 then winCommon fuel p v5 v6 (v6 / 0x12 - 1)
    else winFallback fuel p
  else winFallback fuel p

/-! ## The labels -/

theorem divU_some {a b : UInt32} (h : b.toNat ≠ 0) : divU a b = some (a / b) :=
  if_neg fun hb => h (congrArg UInt32.toNat hb)

/-- What `finish` keeps, and the logarithm and the reciprocal it stores. -/
structure Finished (p q : Win) : Prop where
  p0 : q.p0 = p.p0
  p1 : q.p1.toNat + 1 =
    ((p.p0.toNat + 1) / 2 + 2 ^ ((p.p0.toNat + 1).log2 + 10)) / (p.p0.toNat + 1)
  p2 : q.p2 = p.p2
  p3 : q.p3.toNat = (p.p0.toNat + 1).log2 + 2
  p4 : q.p4 = p.p4

/-- The integer part of the logarithm, as `finish` takes it. -/
theorem whole_toNat {r : UInt32} {n : Nat}
    (hr : r.toNat = n.log2 * 256 + logFraction n) : (r >>> 8).toNat = n.log2 := by
  have hfraction := logFraction_lt n
  rw [UInt32.toNat_shiftRight]
  refine (Nat.shiftRight_eq_div_pow _ 8).trans ?_
  omega

theorem scale_toNat {s : UInt32} (hs : s.toNat < 22) :
    (s + 10).toNat = s.toNat + 10 ∧ (shl 1 (s + 10)).toNat = 2 ^ (s.toNat + 10) := by
  have hone : (1 : UInt32).toNat = 1 := rfl
  have hadd : (s + 10).toNat = s.toNat + 10 := by
    rw [UInt32.toNat_add]
    show (s.toNat + 10) % 2 ^ 32 = _
    omega
  have hpow : 2 ^ (s.toNat + 10) ≤ 2 ^ 31 := Nat.pow_le_pow_right (by omega) (by omega)
  refine ⟨hadd, ?_⟩
  rw [shl_toNat (by omega), hadd, hone, Nat.one_mul]
  rw [hadd, hone]
  omega

/-- The reciprocal of a size, in units that keep it below 1024. -/
theorem reciprocal_toNat {w unit : UInt32} (hw : 1 ≤ w.toNat) (hlt : w.toNat < 2 ^ 22)
    (hunit : unit.toNat = 2 ^ (w.toNat.log2 + 10)) :
    ((w >>> 1 + unit) / w - 1).toNat + 1 =
      (w.toNat / 2 + 2 ^ (w.toNat.log2 + 10)) / w.toNat := by
  have hone : (1 : UInt32).toNat = 1 := rfl
  have hlog22 : w.toNat.log2 < 22 := (Nat.log2_lt (by omega)).mpr hlt
  have hhigh := Nat.lt_log2_self (n := w.toNat)
  have hpow : 2 ^ (w.toNat.log2 + 10) ≤ 2 ^ 31 := Nat.pow_le_pow_right (by omega) (by omega)
  have hquotient : 1 ≤ (w.toNat / 2 + 2 ^ (w.toNat.log2 + 10)) / w.toNat := by
    refine (Nat.one_le_div_iff (by omega)).mpr ?_
    rw [Nat.pow_succ] at hhigh
    rw [Nat.pow_add]
    omega
  have hdiv : ((w >>> 1 + unit) / w).toNat =
      (w.toNat / 2 + 2 ^ (w.toNat.log2 + 10)) / w.toNat := by
    rw [UInt32.toNat_div, UInt32.toNat_add, half_toNat, hunit, Nat.mod_eq_of_lt (by omega)]
  rw [UInt32.toNat_sub_of_le _ _ (UInt32.le_iff_toNat_le.mpr (by omega)), hdiv, hone]
  omega

theorem winFinish_finished {fuel : Nat} {p : Win} {v1 : UInt32} (hv1 : v1.toNat = p.p0.toNat + 1)
    (hlt : v1.toNat < 2 ^ 22) (hfuel : 32 ≤ fuel) :
    ∃ q, winFinish fuel p v1 = some q ∧ Finished p q := by
  obtain ⟨r, hr, hlog⟩ := easylog2_eq (x := v1) (by omega) hfuel
  have hlog22 : v1.toNat.log2 < 22 := (Nat.log2_lt (by omega)).mpr hlt
  have hshr := whole_toNat hlog
  obtain ⟨hadd, hunit⟩ := scale_toNat (s := r >>> 8) (by omega)
  have hp0 : (p.p0 + 1).toNat = v1.toNat := by
    rw [UInt32.toNat_add]
    show (p.p0.toNat + 1) % 2 ^ 32 = _
    omega
  have hwrap : p.p0 ≠ 0xffffffff := by
    intro h
    rw [h] at hv1
    have hmax : (0xffffffff : UInt32).toNat = 0xffffffff := rfl
    omega
  unfold winFinish
  simp only [Option.bind_eq_bind, hr, Option.bind_some, low_byte (n := (r >>> 8) + 10) (by omega),
    if_neg hwrap, divU_some (b := p.p0 + 1) (by omega)]
  refine ⟨_, rfl, rfl, ?_, rfl, ?_, rfl⟩
  · have hreciprocal := reciprocal_toNat (w := p.p0 + 1)
      (by omega) (by omega) (by rw [hunit, hshr, hp0])
    rw [hp0, hv1] at hreciprocal
    exact hreciprocal
  · show ((r >>> 8) + 2).toNat = _
    rw [UInt32.toNat_add, hshr, ← hv1]
    show (v1.toNat.log2 + 2) % 2 ^ 32 = _
    omega

theorem winCount_finished {fuel : Nat} {p : Win} {v1 v3 v6 : UInt32}
    (hv1 : v1.toNat = p.p0.toNat + 1) (hv3 : v3 = p.p0) (hlt : v1.toNat < 2 ^ 22)
    (hv6 : v6.toNat + 1 < 2 ^ 32) (hfuel : 32 ≤ fuel) :
    ∃ q, winCount fuel p v1 v3 v6 = some q ∧ q.p0 = p.p0 ∧
      q.p2.toNat = v6.toNat / (p.p0.toNat + 1) + 1 ∧
      q.p3.toNat = (p.p0.toNat + 1).log2 + 2 ∧ q.p4 = p.p4 := by
  have hwrap : v3 ≠ 0xffffffff := by
    rintro rfl
    rw [← hv3] at hv1
    have hmax : (0xffffffff : UInt32).toNat = 0xffffffff := rfl
    omega
  obtain ⟨q, hq, hfinished⟩ := winFinish_finished (p := { p with p2 := v6 / v1 + 1 }) hv1 hlt hfuel
  unfold winCount
  simp only [Option.bind_eq_bind, if_neg hwrap, divU_some (a := v6) (b := v1) (by omega),
    Option.bind_some]
  refine ⟨q, hq, hfinished.p0, ?_, hfinished.p3, hfinished.p4⟩
  have hle := Nat.div_le_self v6.toNat v1.toNat
  rw [hfinished.p2]
  show (v6 / v1 + 1).toNat = _
  rw [UInt32.toNat_add, UInt32.toNat_div, hv1]
  rw [hv1] at hle
  exact Nat.mod_eq_of_lt (by show _ + 1 < _; omega)

/-! ## The loop -/

/-- An odd size is acceptable when its remainder is not between 1 and 7. -/
def Acceptable (d c : Nat) : Prop :=
  c % 2 = 1 ∧ ¬ (1 ≤ (d - (c + 1) / 2) % (c + 1) ∧ (d - (c + 1) / 2) % (c + 1) ≤ 7)

instance (d c : Nat) : Decidable (Acceptable d c) := inferInstanceAs (Decidable (_ ∧ _))

theorem winRemainder_eq {v1 v5 : UInt32} {c : Nat} (hv1 : v1.toNat = c + 1) (hodd : c % 2 = 1)
    (hle : c + 1 ≤ v5.toNat) :
    winRemainder v1 (v5 - (v1 >>> 1)) = some (decide ¬ Acceptable v5.toNat c) := by
  have hhalf := half_toNat v1
  have hv2 : (v5 - (v1 >>> 1)).toNat = v5.toNat - (c + 1) / 2 := by
    rw [UInt32.toNat_sub_of_le _ _ (UInt32.le_iff_toNat_le.mpr (by omega)), hhalf, hv1]
  have hone : (1 : UInt32).toNat = 1 := rfl
  have hseven : (7 : UInt32).toNat = 7 := rfl
  have hrem : ∀ v2 : UInt32, (v2 - v1 * (v2 / v1)).toNat = v2.toNat % (c + 1) := by
    intro v2
    have hmul := Nat.mul_div_le v2.toNat v1.toNat
    have hlt := v2.toNat_lt
    have hprod : (v1 * (v2 / v1)).toNat = v1.toNat * (v2.toNat / v1.toNat) := by
      rw [UInt32.toNat_mul, UInt32.toNat_div, Nat.mod_eq_of_lt (by omega)]
    rw [UInt32.toNat_sub_of_le _ _ (UInt32.le_iff_toNat_le.mpr (by omega)), hprod, ← hv1]
    exact (Nat.mod_eq_sub_mul_div ..).symm
  unfold winRemainder
  rw [divU_some (by omega)]
  refine congrArg some (decide_eq_decide.mpr ?_)
  have hlt : (v5.toNat - (c + 1) / 2) % (c + 1) < c + 1 := Nat.mod_lt _ (Nat.succ_pos c)
  have hbound := v5.toNat_lt
  rw [UInt32.lt_iff_toNat_lt, UInt32.toNat_sub, hrem, hv2, hone, hseven, Acceptable]
  omega

/-- The size that a round of the search tries, and the divisor for it. -/
theorem winLoop_tries {v4 : UInt32} (h : 2 ≤ v4.toNat) :
    (v4 - 2).toNat = v4.toNat - 2 ∧ (v4 - 1).toNat = v4.toNat - 2 + 1 := by
  have hone : (1 : UInt32).toNat = 1 := rfl
  have htwo : (2 : UInt32).toNat = 2 := rfl
  have hdivisor : (v4 - 1).toNat = v4.toNat - 1 :=
    UInt32.toNat_sub_of_le _ _ (UInt32.le_iff_toNat_le.mpr (by omega))
  exact ⟨UInt32.toNat_sub_of_le _ _ (UInt32.le_iff_toNat_le.mpr (by omega)), by omega⟩

/-- The loop goes down to the next acceptable size, or below the minimum. -/
theorem winLoop_ends {fuel : Nat} {v4 v5 v7 : UInt32} (hodd : v4.toNat % 2 = 1)
    (hmin : 2 ≤ v7.toNat) (hlow : v7.toNat ≤ v4.toNat) (hhigh : v4.toNat ≤ v5.toNat)
    (hfuel : v4.toNat < fuel) :
    ∃ e, winLoop fuel v4 v5 v7 = some e ∧ e.v1.toNat = e.v3.toNat + 1 ∧
      (e.finish = true ↔ e.v3.toNat < v7.toNat) ∧
      Ends (Acceptable v5.toNat) 2 v7.toNat (v4.toNat - 2) e.v3.toNat := by
  induction fuel generalizing v4 with
  | zero => omega
  | succ fuel ih =>
      obtain ⟨hv3, hv1⟩ := winLoop_tries (show 2 ≤ v4.toNat by omega)
      have hend := UInt32.lt_iff_toNat_lt (a := v4 - 2) (b := v7)
      rw [hv3] at hend
      unfold winLoop
      by_cases hleft : v4 - 2 < v7
      · rw [if_pos hleft]
        rw [hend] at hleft
        refine ⟨_, rfl, by rw [hv1, hv3], ?_, ?_⟩
        · exact iff_of_true rfl (by rw [hv3]; exact hleft)
        · rw [hv3]
          exact .here fun hin => absurd hin (Nat.not_le_of_lt hleft)
      · rw [if_neg hleft, winRemainder_eq hv1 (by omega) (by omega)]
        rw [hend] at hleft
        by_cases hacc : Acceptable v5.toNat (v4.toNat - 2)
        · simp only [Option.bind_eq_bind, Option.bind_some, hacc, not_true, decide_false,
            Bool.false_eq_true, if_false]
          refine ⟨_, rfl, by rw [hv1, hv3], ?_, ?_⟩
          · exact iff_of_false nofun (by rw [hv3]; exact hleft)
          · rw [hv3]
            exact .here fun _ => hacc
        · simp only [Option.bind_eq_bind, Option.bind_some, hacc, not_false_iff, decide_true,
            if_true]
          obtain ⟨e, he, hev1, hfinish, hends⟩ := @ih (v4 - 2) (by omega) (by omega) (by omega)
            (by omega)
          rw [hv3] at hends
          exact ⟨e, he, hev1, hfinish, hends.next (Nat.le_of_not_lt hleft) hacc (by omega)⟩

/-! ## The whole search -/

/-- The minimum that each branch assigns to `v7`. -/
def winMin (mode sel : Int) (d : Nat) : Nat :=
  if mode = 0 then
    if sel = 1 then if d * 10 < 0x43d then 7 else d * 10 / 0x9b
    else if d * 10 < 0x89d then 7 else d * 10 / 0x13b
  else if sel = 1 then (d - 1) / 0x16 - 1 else (d - 1) / 0x12 - 1

/-- The odd size next to `s`: below it, unless that is below the minimum. -/
def winOdd (m s : Nat) : Nat := if s % 2 = 1 then s else if m < s then s - 1 else s + 1

/-- The odd size the search starts from. -/
def winTop (m d p0 : Nat) : Nat := winOdd m (max (min p0 ((d - 1) / 2 - 1)) m)

/-- The result of a search among the odd sizes from `m` to `s`. -/
structure Searched (d m s : Nat) (p q : Win) : Prop where
  found : ∀ c, IsGreatest {c | m ≤ c ∧ c ≤ s ∧ Acceptable d c} c →
    q.p0.toNat = c ∧ q.p2.toNat = (d - 1) / (c + 1) + 1
  missed : (∀ c, m ≤ c → c ≤ s → ¬ Acceptable d c) →
    IsGreatest {c | c < m ∧ c % 2 = 1} q.p0.toNat ∧ q.p2 = p.p2
  p3 : q.p3.toNat = (q.p0.toNat + 1).log2 + 2
  p4 : q.p4 = p.p4

theorem Searched.of_p0 {d m s : Nat} {p q : Win} {v : UInt32}
    (h : Searched d m s { p with p0 := v } q) : Searched d m s p q :=
  ⟨h.found, h.missed, h.p3, h.p4⟩

theorem winOdd_odd (m s : Nat) : winOdd m s % 2 = 1 := by
  unfold winOdd
  split_ifs <;> omega

theorem le_winOdd {m s : Nat} (h : m ≤ s) : m ≤ winOdd m s := by
  unfold winOdd
  split_ifs <;> omega

theorem winOdd_le (m s : Nat) : winOdd m s ≤ s + 1 := by
  unfold winOdd
  split_ifs <;> omega

theorem ends_searched {d m s r : Nat} (hs : s % 2 = 1) (hms : m ≤ s)
    (h : Ends (Acceptable d) 2 m s r) :
    (m ≤ r ∧ IsGreatest {c | m ≤ c ∧ c ≤ s ∧ Acceptable d c} r) ∨
      (r < m ∧ (∀ c, m ≤ c → c ≤ s → ¬ Acceptable d c) ∧ IsGreatest {c | c < m ∧ c % 2 = 1} r) := by
  have hmod : ∀ {c}, c % 2 = 1 → c ≡ s [MOD 2] := fun hc => hc.trans hs.symm
  rcases Nat.lt_or_ge r m with hr | hr
  · obtain ⟨hnone, hgreatest⟩ := h.none hr hms
    refine .inr ⟨hr, fun c hm hcs hc => hnone c hm hcs (hmod hc.1) hc, ?_⟩
    exact ⟨⟨hr, h.modEq.trans (show s ≡ 1 [MOD 2] from hs)⟩, fun c hc =>
      hgreatest.2 ⟨hc.1, hmod hc.2⟩⟩
  · obtain ⟨hmem, hupper⟩ := h.isGreatest hr
    refine .inl ⟨hr, ⟨hr, h.le_top, h.stop hr⟩, fun c hc => ?_⟩
    exact hupper ⟨hc.1, hc.2.1, hmod hc.2.2.1, hc.2.2⟩

section Labels

variable {fuel d m s : Nat} {p : Win} {v1 v3 v5 v6 v7 : UInt32} (hs : s % 2 = 1) (hms : m ≤ s)
  (hlt : s + 1 < 2 ^ 22) (hfuel : 32 ≤ fuel)

include hs hms hlt hfuel

/-- `finish` reached from the loop: no size was acceptable. -/
theorem winFinish_searched (hends : Ends (Acceptable d) 2 m s p.p0.toNat) (hlow : p.p0.toNat < m)
    (hv1 : v1.toNat = p.p0.toNat + 1) : ∃ q, winFinish fuel p v1 = some q ∧ Searched d m s p q := by
  obtain ⟨q, hq, hfinished⟩ := winFinish_finished hv1 (by omega) hfuel
  rcases ends_searched hs hms hends with ⟨hin, -⟩ | ⟨-, hnone, hgreatest⟩
  · omega
  · refine ⟨q, hq, ⟨fun c hc => ?_, fun _ => ?_, ?_, hfinished.p4⟩⟩
    · exact absurd hc.1.2.2 (hnone c hc.1.1 hc.1.2.1)
    · exact ⟨by rw [hfinished.p0]; exact hgreatest, hfinished.p2⟩
    · rw [hfinished.p0]
      exact hfinished.p3

theorem winCount_searched (hends : Ends (Acceptable d) 2 m s p.p0.toNat) (hlow : m ≤ p.p0.toNat)
    (hv1 : v1.toNat = p.p0.toNat + 1) (hv6 : v6.toNat = d - 1) (hd : d < 2 ^ 32) (hpos : 0 < d) :
    ∃ q, winCount fuel p v1 p.p0 v6 = some q ∧ Searched d m s p q := by
  have hle := hends.le_top
  have hv6lt : v6.toNat + 1 < 2 ^ 32 := by omega
  obtain ⟨q, hq, hp0, hp2, hp3, hp4⟩ := winCount_finished hv1 rfl (by omega) hv6lt hfuel
  rcases ends_searched hs hms hends with ⟨-, hgreatest⟩ | ⟨hout, -⟩
  · refine ⟨q, hq, ⟨fun c hc => ?_, fun hnone => ?_, by rw [hp0]; exact hp3, hp4⟩⟩
    · have hc := hc.unique hgreatest
      subst hc
      rw [hp0, hp2, hv6]
      exact ⟨rfl, rfl⟩
    · exact absurd hgreatest.1.2.2 (hnone _ hgreatest.1.1 hgreatest.1.2.1)
  · omega

theorem winAfterAdjust_searched (hv3 : v3.toNat = s) (hv5 : v5.toNat = d) (hv6 : v6.toNat = d - 1)
    (hv7 : v7.toNat = m) (hp0 : p.p0 = v3) (hmin : 2 ≤ m) (hhigh : s < d) (hsteps : s < fuel) :
    ∃ q, winAfterAdjust fuel p v3 v5 v6 v7 = some q ∧ Searched d m s p q := by
  have hdlt := v5.toNat_lt
  have hone : (1 : UInt32).toNat = 1 := rfl
  have hnext : (v3 + 1).toNat = s + 1 := by
    rw [UInt32.toNat_add]
    omega
  have hstart : ¬ v3 < v7 := by
    rw [UInt32.lt_iff_toNat_lt]
    omega
  have hrem : winRemainder (v3 + 1) (v5 - (v3 + 1) >>> 1) = some (decide ¬ Acceptable d s) := by
    rw [winRemainder_eq hnext hs (by omega), hv5]
  unfold winAfterAdjust
  by_cases hacc : Acceptable d s
  · simp only [if_neg hstart, hrem, Option.bind_eq_bind, Option.bind_some, hacc,
      not_true, decide_false, Bool.false_eq_true, if_false]
    rw [← hp0]
    have hp0s : p.p0.toNat = s := by rw [hp0, hv3]
    refine winCount_searched hs hms hlt hfuel ?_ (by omega) (by rw [hp0, hnext, hv3]) hv6 (by omega)
      (by omega)
    rw [hp0s]
    exact .here fun _ => hacc
  · simp only [if_neg hstart, hrem, Option.bind_eq_bind, Option.bind_some, hacc, not_false_iff,
      decide_true, if_true]
    obtain ⟨e, he, hv1, hfinish, hends⟩ := @winLoop_ends fuel v3 v5 v7 (by omega) (by omega)
      (by omega) (by omega) (by omega)
    rw [hv3, hv5, hv7] at hends
    have hends := hends.next hms hacc (by omega)
    rw [hv7] at hfinish
    rw [he]
    simp only [Option.bind_some]
    by_cases hout : e.finish = true
    · rw [if_pos hout]
      obtain ⟨q, hq, hsearched⟩ := winFinish_searched (p := { p with p0 := e.v3 }) hs hms hlt hfuel
        hends (hfinish.mp hout) hv1
      exact ⟨q, hq, hsearched.of_p0⟩
    · rw [if_neg hout]
      obtain ⟨q, hq, hsearched⟩ := winCount_searched (p := { p with p0 := e.v3 }) hs hms hlt hfuel
        hends (Nat.le_of_not_lt (hfinish.not.mp hout)) hv1 hv6 (by omega) (by omega)
      exact ⟨q, hq, hsearched.of_p0⟩

end Labels

theorem odd_iff (v : UInt32) : v &&& 1 ≠ 0 ↔ v.toNat % 2 = 1 := by
  have hand : (v &&& 1).toNat = v.toNat % 2 := by
    rw [UInt32.toNat_and]
    exact Nat.and_one_is_mod _
  have hzero : (0 : UInt32).toNat = 0 := rfl
  rw [ne_eq, ← UInt32.toNat_inj, hand, hzero]
  omega

theorem min_toNat (a b : UInt32) : (if a ≤ b then a else b).toNat = min a.toNat b.toNat := by
  rw [apply_ite UInt32.toNat]
  exact (if_congr UInt32.le_iff_toNat_le rfl rfl).trans (min_def ..).symm

theorem max_toNat (a b : UInt32) : (if a < b then b else a).toNat = max a.toNat b.toNat := by
  rw [apply_ite UInt32.toNat]
  exact (if_congr UInt32.lt_iff_toNat_lt rfl rfl).trans (max_def_lt ..).symm

/-- Where the search starts. -/
theorem winCommon_start {m : Nat} {p : Win} {v7 : UInt32} (fuel : Nat) (hv7 : v7.toNat = m)
    (hd : 3 ≤ p.p4.toNat) :
    ∃ v : UInt32, v.toNat = winTop m p.p4.toNat p.p0.toNat ∧
      winCommon fuel p p.p4 (p.p4 - 1) v7 =
        winAfterAdjust fuel { p with p0 := v } v p.p4 (p.p4 - 1) v7 := by
  have hone : (1 : UInt32).toNat = 1 := rfl
  have hv6 : (p.p4 - 1).toNat = p.p4.toNat - 1 :=
    UInt32.toNat_sub_of_le _ _ (UInt32.le_iff_toNat_le.mpr (by omega))
  have hhalf := half_toNat (p.p4 - 1)
  have hlimit : ((p.p4 - 1) >>> 1 - 1).toNat = (p.p4.toNat - 1) / 2 - 1 := by
    rw [UInt32.toNat_sub_of_le _ _ (UInt32.le_iff_toNat_le.mpr (by omega)), hhalf, hv6, hone]
  have hstart := max_toNat (if p.p0 ≤ (p.p4 - 1) >>> 1 - 1 then p.p0 else (p.p4 - 1) >>> 1 - 1) v7
  rw [min_toNat, hlimit, hv7] at hstart
  unfold winCommon winTop
  rw [← hstart]
  dsimp only
  generalize (if (if p.p0 ≤ (p.p4 - 1) >>> 1 - 1 then p.p0 else (p.p4 - 1) >>> 1 - 1) < v7 then v7
    else if p.p0 ≤ (p.p4 - 1) >>> 1 - 1 then p.p0 else (p.p4 - 1) >>> 1 - 1) = v3
  by_cases hodd : v3.toNat % 2 = 1
  · exact ⟨v3, (if_pos hodd).symm, if_pos ((odd_iff v3).mpr hodd)⟩
  · refine ⟨if v7 < v3 then v3 - 1 else v3 + 1, ?_, if_neg ((odd_iff v3).not.mpr hodd)⟩
    have hlt := v3.toNat_lt
    have habove := UInt32.lt_iff_toNat_lt (a := v7) (b := v3)
    rw [hv7] at habove
    rw [winOdd, if_neg hodd, apply_ite UInt32.toNat, UInt32.toNat_add, hone,
      if_congr habove rfl rfl]
    split_ifs
    · exact UInt32.toNat_sub_of_le _ _ (UInt32.le_iff_toNat_le.mpr (by omega))
    · omega

theorem winCommon_searched {fuel m : Nat} {p : Win} {v7 : UInt32} (hv7 : v7.toNat = m)
    (hmin : 2 ≤ m) (hroom : m < (p.p4.toNat - 1) / 2) (hd : p.p4.toNat ≤ 4000000)
    (hfuel : p.p4.toNat ≤ fuel) (hfuel32 : 32 ≤ fuel) :
    ∃ q, winCommon fuel p p.p4 (p.p4 - 1) v7 = some q ∧
      Searched p.p4.toNat m (winTop m p.p4.toNat p.p0.toNat) p q := by
  have hone : (1 : UInt32).toNat = 1 := rfl
  have hv6 : (p.p4 - 1).toNat = p.p4.toNat - 1 :=
    UInt32.toNat_sub_of_le _ _ (UInt32.le_iff_toNat_le.mpr (by omega))
  have hle := winOdd_le m (max (min p.p0.toNat ((p.p4.toNat - 1) / 2 - 1)) m)
  have htop : winTop m p.p4.toNat p.p0.toNat < p.p4.toNat := by
    unfold winTop
    omega
  obtain ⟨v, hv, heq⟩ := winCommon_start (p := p) fuel hv7 (by omega)
  obtain ⟨q, hq, hsearched⟩ := @winAfterAdjust_searched fuel p.p4.toNat m
    (winTop m p.p4.toNat p.p0.toNat) { p with p0 := v } v p.p4 (p.p4 - 1) v7 (winOdd_odd _ _)
    (le_winOdd (le_max_right _ _)) (by omega) hfuel32 hv rfl hv6 hv7 rfl hmin htop (by omega)
  exact ⟨q, heq.trans hq, hsearched.of_p0⟩

/-- The two ways a branch computes its minimum. -/
theorem scaled_toNat {v5 t k : UInt32} (h : v5.toNat * 10 < 2 ^ 32) :
    (if v5 * 10 < t then 7 else v5 * 10 / k).toNat =
      if v5.toNat * 10 < t.toNat then 7 else v5.toNat * 10 / k.toNat := by
  have hmul : (v5 * 10).toNat = v5.toNat * 10 := by
    rw [UInt32.toNat_mul]
    exact Nat.mod_eq_of_lt h
  rw [apply_ite UInt32.toNat, UInt32.toNat_div, ← hmul]
  exact if_congr UInt32.lt_iff_toNat_lt rfl rfl

theorem divided_toNat {v6 k : UInt32} (h : 1 ≤ v6.toNat / k.toNat) :
    (v6 / k - 1).toNat = v6.toNat / k.toNat - 1 := by
  have hdiv := UInt32.toNat_div v6 k
  have hone : (1 : UInt32).toNat = 1 := rfl
  rw [UInt32.toNat_sub_of_le _ _ (UInt32.le_iff_toNat_le.mpr (by omega)), hdiv, hone]

theorem winMin_bounds {mode sel : Int} {d : Nat} (hd : 67 ≤ d) :
    2 ≤ winMin mode sel d ∧ winMin mode sel d < (d - 1) / 2 := by
  unfold winMin
  split_ifs <;> omega

theorem ispWinParam_searched {fuel : Nat} {p : Win} {mode sel : Int} (hmode : mode = 0 ∨ mode = 1)
    (hsel : sel = 0 ∨ sel = 1) (hlow : 67 ≤ p.p4.toNat) (hhigh : p.p4.toNat ≤ 4000000)
    (hfuel : p.p4.toNat ≤ fuel) :
    ∃ q, ispWinParam fuel p mode sel = some q ∧
      Searched p.p4.toNat (winMin mode sel p.p4.toNat)
        (winTop (winMin mode sel p.p4.toNat) p.p4.toNat p.p0.toNat) p q := by
  obtain ⟨hmin, hroom⟩ := @winMin_bounds mode sel _ hlow
  have hone : (1 : UInt32).toNat = 1 := rfl
  have hv6 : (p.p4 - 1).toNat = p.p4.toNat - 1 :=
    UInt32.toNat_sub_of_le _ _ (UInt32.le_iff_toNat_le.mpr (by omega))
  have hcommon : ∀ v7 : UInt32, v7.toNat = winMin mode sel p.p4.toNat →
      ispWinParam fuel p mode sel = winCommon fuel p p.p4 (p.p4 - 1) v7 →
      ∃ q, ispWinParam fuel p mode sel = some q ∧
        Searched p.p4.toNat (winMin mode sel p.p4.toNat)
          (winTop (winMin mode sel p.p4.toNat) p.p4.toNat p.p0.toNat) p q := by
    intro v7 hv7 hbranch
    rw [hbranch]
    exact winCommon_searched hv7 hmin hroom hhigh hfuel (by omega)
  rcases hmode with rfl | rfl <;> rcases hsel with rfl | rfl
  · exact hcommon _ (scaled_toNat (t := 0x89d) (k := 0x13b) (by omega)) rfl
  · exact hcommon _ (scaled_toNat (t := 0x43d) (k := 0x9b) (by omega)) rfl
  · refine hcommon (((p.p4 - 1) / 0x12) - 1) ?_ rfl
    rw [divided_toNat (by rw [hv6]; show 1 ≤ _ / 18; omega), hv6]
    rfl
  · refine hcommon (((p.p4 - 1) / 0x16) - 1) ?_ rfl
    rw [divided_toNat (by rw [hv6]; show 1 ≤ _ / 22; omega), hv6]
    rfl

/-- The search finds the largest acceptable size from its start down to the minimum. -/
theorem isp_win_param_searches (fuel : Nat) (p : Win) (mode sel : Int) (hmode : mode = 0 ∨ mode = 1)
    (hsel : sel = 0 ∨ sel = 1) (hlow : 67 ≤ p.p4.toNat) (hhigh : p.p4.toNat ≤ 4000000)
    (hfuel : p.p4.toNat ≤ fuel) :
    ∃ q, ispWinParam fuel p mode sel = some q ∧
      Searched p.p4.toNat (winMin mode sel p.p4.toNat)
        (winTop (winMin mode sel p.p4.toNat) p.p4.toNat p.p0.toNat) p q :=
  ispWinParam_searched hmode hsel hlow hhigh hfuel

theorem isp_win_param_searches_sample :
    ∃ q, ispWinParam 1080 ⟨82, 0, 14, 0, 1080⟩ 0 0 = some q ∧
      Searched 1080 (winMin 0 0 1080) (winTop (winMin 0 0 1080) 1080 82) ⟨82, 0, 14, 0, 1080⟩ q :=
  isp_win_param_searches 1080 ⟨82, 0, 14, 0, 1080⟩ 0 0 (.inl rfl) (.inl rfl) (by decide) (by decide)
    (by decide)

end Isp
end FH8852
