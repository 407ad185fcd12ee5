import FH8852.Isp.Coverage

/-!
# Divisors of the window search

Where `isp_win_param` divides by zero.  A search whose minimum is at least 2 never
does.  With a smaller minimum it goes down to the size `0xffffffff` unless it
finds an acceptable one before, and divides by that size plus one.
-/

namespace FH8852
namespace Isp

/-! ## Parts that always have a result -/

theorem easylog2_exists {fuel : Nat} (hfuel : 32 ≤ fuel) (x : UInt32) :
    ∃ r, easylog2 fuel x = some r := by
  by_cases hx : x.toNat = 0
  · have hzero : x = 0 := UInt32.toNat_inj.mp hx
    subst hzero
    exact ⟨_, rfl⟩
  · obtain ⟨r, hr, -⟩ := @easylog2_eq fuel x (by omega) hfuel
    exact ⟨r, hr⟩

theorem winFinish_exists {fuel : Nat} (hfuel : 32 ≤ fuel) (p : Win) (v1 : UInt32) :
    ∃ q, winFinish fuel p v1 = some q := by
  obtain ⟨r, hr⟩ := easylog2_exists hfuel v1
  have hdiv : (if p.p0 = 0xffffffff then 1 else p.p0 + 1 : UInt32).toNat ≠ 0 := by
    split_ifs with hmax
    · decide
    · intro hzero
      have hone : (1 : UInt32).toNat = 1 := rfl
      rw [UInt32.toNat_add, hone] at hzero
      have hlt := p.p0.toNat_lt
      exact hmax (UInt32.toNat_inj.mp (by show p.p0.toNat = 2 ^ 32 - 1; omega))
  unfold winFinish
  simp only [Option.bind_eq_bind, hr, Option.bind_some, divU_some hdiv]
  exact ⟨_, rfl⟩

theorem winCount_exists {fuel : Nat} (hfuel : 32 ≤ fuel) (p : Win) {v1 v3 v6 : UInt32}
    (hv1 : v1.toNat = v3.toNat + 1) : ∃ q, winCount fuel p v1 v3 v6 = some q := by
  have hdiv : (if v3 = 0xffffffff then 1 else v1 : UInt32).toNat ≠ 0 := by
    split_ifs
    · decide
    · omega
  unfold winCount
  simp only [Option.bind_eq_bind, divU_some hdiv, Option.bind_some]
  exact winFinish_exists hfuel _ v1

/-- Both ways out of the loop. -/
theorem winExit_exists {fuel : Nat} (hfuel : 32 ≤ fuel) (p : Win) {e : WinExit} (v6 : UInt32)
    (hv1 : e.v1.toNat = e.v3.toNat + 1) :
    ∃ q, (if e.finish = true then winFinish fuel { p with p0 := e.v3 } e.v1
      else winCount fuel { p with p0 := e.v3 } e.v1 e.v3 v6) = some q := by
  split
  · exact winFinish_exists hfuel _ _
  · exact winCount_exists hfuel _ hv1

theorem winRemainder_exists {v1 v2 : UInt32} (hv1 : v1.toNat ≠ 0) :
    ∃ b, winRemainder v1 v2 = some b := by
  unfold winRemainder
  rw [divU_some hv1]
  exact ⟨_, rfl⟩

theorem winRemainder_zero (v2 : UInt32) : winRemainder 0 v2 = none := rfl

/-! ## A search with a minimum of 2 or more -/

theorem winLoop_exists {fuel : Nat} {v4 v5 v7 : UInt32} (hodd : v4.toNat % 2 = 1)
    (hmin : 2 ≤ v7.toNat) (hlow : v7.toNat ≤ v4.toNat) (hfuel : v4.toNat < fuel) :
    ∃ e, winLoop fuel v4 v5 v7 = some e ∧ e.v1.toNat = e.v3.toNat + 1 := by
  induction fuel generalizing v4 with
  | zero => omega
  | succ fuel ih =>
      obtain ⟨hv3, hv1⟩ := winLoop_tries (show 2 ≤ v4.toNat by omega)
      unfold winLoop
      by_cases hleft : v4 - 2 < v7
      · exact ⟨_, if_pos hleft, by rw [hv1, hv3]⟩
      · obtain ⟨b, hb⟩ := @winRemainder_exists (v4 - 1) (v5 - (v4 - 1) >>> 1) (by omega)
        rw [UInt32.lt_iff_toNat_lt] at hleft
        simp only [UInt32.lt_iff_toNat_lt, if_neg hleft, hb, Option.bind_eq_bind, Option.bind_some]
        by_cases hagain : b = true
        · rw [if_pos hagain]
          exact @ih (v4 - 2) (by omega) (by omega) (by omega)
        · rw [if_neg hagain]
          exact ⟨_, rfl, by rw [hv1, hv3]⟩

theorem winAfterAdjust_exists {fuel : Nat} {p : Win} {v3 v5 v6 v7 : UInt32}
    (hodd : v3.toNat % 2 = 1) (hmin : 2 ≤ v7.toNat) (hlow : v7.toNat ≤ v3.toNat)
    (hhigh : v3.toNat + 1 < 2 ^ 32) (hfuel : 2 ^ 32 ≤ fuel) :
    ∃ q, winAfterAdjust fuel p v3 v5 v6 v7 = some q := by
  have hfuel32 : 32 ≤ fuel := by omega
  have hone : (1 : UInt32).toNat = 1 := rfl
  have hv1 : (v3 + 1).toNat = v3.toNat + 1 := by
    rw [UInt32.toNat_add]
    omega
  have hstart : ¬ v3 < v7 := by
    rw [UInt32.lt_iff_toNat_lt]
    omega
  obtain ⟨b, hb⟩ := @winRemainder_exists (v3 + 1) (v5 - (v3 + 1) >>> 1) (by omega)
  unfold winAfterAdjust
  simp only [if_neg hstart, hb, Option.bind_eq_bind, Option.bind_some]
  by_cases hagain : b = true
  · rw [if_pos hagain]
    obtain ⟨e, he, hev1⟩ := @winLoop_exists fuel v3 v5 v7 hodd hmin hlow (by omega)
    simp only [he, Option.bind_some]
    exact winExit_exists hfuel32 p v6 hev1
  · rw [if_neg hagain]
    exact winCount_exists hfuel32 _ hv1

/-! ## A search with a smaller minimum -/

section Small

variable {v3 v4 v5 v6 v7 : UInt32}

theorem winLoop_found {fuel c : Nat} (hodd : v4.toNat % 2 = 1) (hlow : v7.toNat ≤ c)
    (hacc : Acceptable v5.toNat c) (hc : c + 2 ≤ v4.toNat) (hhigh : v4.toNat ≤ v5.toNat)
    (hfuel : v4.toNat < fuel) :
    ∃ e, winLoop fuel v4 v5 v7 = some e ∧ e.v1.toNat = e.v3.toNat + 1 := by
  have hcodd := hacc.1
  induction fuel generalizing v4 with
  | zero => omega
  | succ fuel ih =>
      obtain ⟨hv3, hv1⟩ := winLoop_tries (show 2 ≤ v4.toNat by omega)
      have hin : ¬ v4 - 2 < v7 := by
        rw [UInt32.lt_iff_toNat_lt]
        omega
      have hrem := winRemainder_eq hv1 (by omega) (show _ ≤ v5.toNat by omega)
      unfold winLoop
      simp only [if_neg hin, hrem, Option.bind_eq_bind, Option.bind_some]
      by_cases hnow : Acceptable v5.toNat (v4.toNat - 2)
      · rw [if_neg (by simp [hnow])]
        exact ⟨_, rfl, by rw [hv1, hv3]⟩
      · -- the acceptable size is further down
        have hne : c ≠ v4.toNat - 2 := by
          rintro rfl
          exact hnow hacc
        rw [if_pos (by simp [hnow])]
        exact @ih (v4 - 2) (by omega) (by omega) (by omega) (by omega)

/-- Without an acceptable size the loop goes on below 1, and divides by zero. -/
theorem winLoop_none (hodd : v4.toNat % 2 = 1) (hmin : v7.toNat ≤ 1) (hhigh : v4.toNat ≤ v5.toNat)
    (hnone : ∀ c, c + 2 ≤ v4.toNat → ¬ Acceptable v5.toNat c) (fuel : Nat) :
    winLoop fuel v4 v5 v7 = none := by
  induction fuel generalizing v4 with
  | zero => rfl
  | succ fuel ih =>
      unfold winLoop
      by_cases hlast : v4.toNat = 1
      · have hv4 : v4 = 1 := UInt32.toNat_inj.mp hlast
        subst hv4
        have hin : ¬ (1 : UInt32) - 2 < v7 := by
          rw [UInt32.lt_iff_toNat_lt]
          exact Nat.not_lt.mpr (hmin.trans (by decide))
        have hzero : (1 : UInt32) - 1 = 0 := by decide
        simp only [if_neg hin, hzero, winRemainder_zero, Option.bind_eq_bind, Option.bind_none]
      · obtain ⟨hv3, hv1⟩ := winLoop_tries (show 2 ≤ v4.toNat by omega)
        have hin : ¬ v4 - 2 < v7 := by
          rw [UInt32.lt_iff_toNat_lt]
          omega
        have hrem := winRemainder_eq hv1 (by omega) (show _ ≤ v5.toNat by omega)
        simp only [if_neg hin, hrem, Option.bind_eq_bind, Option.bind_some]
        rw [if_pos (by simp [hnone (v4.toNat - 2) (by omega)])]
        exact @ih (v4 - 2) (by omega) (by omega) fun c hc => hnone c (by omega)

theorem winAfterAdjust_small_iff {fuel : Nat} {p : Win} (hodd : v3.toNat % 2 = 1)
    (hmin : v7.toNat ≤ 1) (hhigh : v3.toNat < v5.toNat) (hfuel : 2 ^ 32 ≤ fuel) :
    (∃ q, winAfterAdjust fuel p v3 v5 v6 v7 = some q) ↔
      ∃ c ≤ v3.toNat, Acceptable v5.toNat c := by
  have hfuel32 : 32 ≤ fuel := by omega
  have hone : (1 : UInt32).toNat = 1 := rfl
  have hlt := v5.toNat_lt
  have hv1 : (v3 + 1).toNat = v3.toNat + 1 := by
    rw [UInt32.toNat_add]
    omega
  have hstart : ¬ v3 < v7 := by
    rw [UInt32.lt_iff_toNat_lt]
    omega
  have hrem := winRemainder_eq hv1 hodd (show _ ≤ v5.toNat by omega)
  unfold winAfterAdjust
  simp only [if_neg hstart, hrem, Option.bind_eq_bind, Option.bind_some]
  by_cases hnow : Acceptable v5.toNat v3.toNat
  · rw [if_neg (by simp [hnow])]
    exact iff_of_true (winCount_exists hfuel32 _ hv1) ⟨_, Nat.le_refl _, hnow⟩
  · rw [if_pos (by simp [hnow])]
    by_cases hfound : ∃ c, c + 2 ≤ v3.toNat ∧ Acceptable v5.toNat c
    · obtain ⟨c, hc, hacc⟩ := hfound
      have hcodd := hacc.1
      obtain ⟨e, he, hev1⟩ := @winLoop_found v3 v5 v7 fuel c hodd (by omega) hacc hc (by omega)
        (by omega)
      refine iff_of_true ?_ ⟨c, by omega, hacc⟩
      simp only [he, Option.bind_some]
      exact winExit_exists hfuel32 p v6 hev1
    · have hnone : ∀ c, c + 2 ≤ v3.toNat → ¬ Acceptable v5.toNat c :=
        fun c hc hacc => hfound ⟨c, hc, hacc⟩
      rw [winLoop_none hodd hmin (by omega) hnone fuel]
      refine iff_of_false ?_ ?_
      · rintro ⟨q, hq⟩
        cases hq
      · rintro ⟨c, hc, hacc⟩
        have hcodd := hacc.1
        have hne : c ≠ v3.toNat := by
          rintro rfl
          exact hnow hacc
        exact hnone c (by omega) hacc

end Small

/-- A minimum that has wrapped is the size whose successor is zero. -/
theorem winCommon_wrapped (fuel : Nat) (p : Win) (v5 v6 : UInt32) :
    winCommon fuel p v5 v6 0xffffffff = none := by
  have hstart : ∀ v : UInt32, (if v < 0xffffffff then 0xffffffff else v) = 0xffffffff := by
    intro v
    split_ifs with hlt
    · rfl
    · have hmax : (0xffffffff : UInt32).toNat = 2 ^ 32 - 1 := rfl
      have hbound := v.toNat_lt
      rw [UInt32.lt_iff_toNat_lt] at hlt
      exact UInt32.toNat_inj.mp (by omega)
  have hodd : (0xffffffff : UInt32) &&& 1 ≠ 0 := by decide
  have hself : ¬ (0xffffffff : UInt32) < 0xffffffff := by decide
  have hzero : (0xffffffff : UInt32) + 1 = 0 := by decide
  unfold winCommon
  simp only [hstart, if_pos hodd, winAfterAdjust, if_neg hself, hzero, winRemainder_zero,
    Option.bind_eq_bind, Option.bind_none]

/-! ## The windows of the two passes -/

section Windows

variable {fuel : Nat} {p : Win} (hfuel : 2 ^ 32 ≤ fuel)

include hfuel

theorem winCommon_exists {v7 : UInt32} (hd : 3 ≤ p.p4.toNat) (hmin : 2 ≤ v7.toNat)
    (hmax : v7.toNat < 2 ^ 31) : ∃ q, winCommon fuel p p.p4 (p.p4 - 1) v7 = some q := by
  have hlt := p.p4.toNat_lt
  obtain ⟨v, hv, heq⟩ := winCommon_start (p := p) fuel (m := v7.toNat) rfl hd
  have hodd : winTop v7.toNat p.p4.toNat p.p0.toNat % 2 = 1 := winOdd_odd _ _
  have hlow : v7.toNat ≤ winTop v7.toNat p.p4.toNat p.p0.toNat := le_winOdd (le_max_right _ _)
  have hhigh := winOdd_le v7.toNat (max (min p.p0.toNat ((p.p4.toNat - 1) / 2 - 1)) v7.toNat)
  have htop : winTop v7.toNat p.p4.toNat p.p0.toNat + 1 < 2 ^ 32 := by
    unfold winTop
    omega
  rw [heq]
  exact winAfterAdjust_exists (by omega) hmin (by omega) (by omega) hfuel

theorem winCommon_small_iff {v7 : UInt32} (hd : 19 ≤ p.p4.toNat) (hmin : v7.toNat ≤ 1) :
    (∃ q, winCommon fuel p p.p4 (p.p4 - 1) v7 = some q) ↔
      ∃ c ≤ winTop v7.toNat p.p4.toNat p.p0.toNat, Acceptable p.p4.toNat c := by
  obtain ⟨v, hv, heq⟩ := winCommon_start (p := p) fuel (m := v7.toNat) rfl (by omega)
  have hodd : winTop v7.toNat p.p4.toNat p.p0.toNat % 2 = 1 := winOdd_odd _ _
  have hhigh := winOdd_le v7.toNat (max (min p.p0.toNat ((p.p4.toNat - 1) / 2 - 1)) v7.toNat)
  have htop : winTop v7.toNat p.p4.toNat p.p0.toNat < p.p4.toNat := by
    unfold winTop
    omega
  rw [heq, winAfterAdjust_small_iff (by omega) hmin (by omega) hfuel, hv]

theorem mode0_exists (hd : 3 ≤ p.p4.toNat) {sel : Int} (hsel : sel = 0 ∨ sel = 1) :
    ∃ q, ispWinParam fuel p 0 sel = some q := by
  have hmin : ∀ t k : UInt32, 7 * k.toNat ≤ t.toNat → k.toNat ≠ 0 →
      7 ≤ (if p.p4 * 10 < t then 7 else p.p4 * 10 / k : UInt32).toNat := by
    intro t k hk hpos
    split_ifs with hsmall
    · exact Nat.le_refl _
    · rw [UInt32.lt_iff_toNat_lt] at hsmall
      rw [UInt32.toNat_div]
      exact (Nat.le_div_iff_mul_le (by omega)).mpr (by omega)
  have hmax : ∀ t k : UInt32, 4 ≤ k.toNat →
      (if p.p4 * 10 < t then 7 else p.p4 * 10 / k : UInt32).toNat < 2 ^ 31 := by
    intro t k hk
    have hlt := (p.p4 * 10).toNat_lt
    split_ifs
    · decide
    · rw [UInt32.toNat_div]
      exact Nat.div_lt_of_lt_mul (by omega)
  rcases hsel with rfl | rfl
  · exact winCommon_exists hfuel hd (le_trans (by omega) (hmin 0x89d 0x13b (by decide) (by decide)))
      (hmax _ _ (by decide))
  · exact winCommon_exists hfuel hd (le_trans (by omega) (hmin 0x43d 0x9b (by decide) (by decide)))
      (hmax _ _ (by decide))

/-- In mode 1 the minimum is one less than a quotient, and wraps when that is 0. -/
theorem mode1_iff (hd : 1 ≤ p.p4.toNat) :
    (∃ q, ispWinParam fuel p 1 0 = some q) ↔
      19 ≤ p.p4.toNat ∧
      (p.p4.toNat < 55 → ∃ c ≤ winTop (winMin 1 0 p.p4.toNat) p.p4.toNat p.p0.toNat,
        Acceptable p.p4.toNat c) := by
  have hone : (1 : UInt32).toNat = 1 := rfl
  have hlt := p.p4.toNat_lt
  have hv6 : (p.p4 - 1).toNat = p.p4.toNat - 1 :=
    UInt32.toNat_sub_of_le _ _ (UInt32.le_iff_toNat_le.mpr (by omega))
  have hbranch : ispWinParam fuel p 1 0 =
    winCommon fuel p p.p4 (p.p4 - 1) ((p.p4 - 1) / 0x12 - 1) :=
    rfl
  have hwinMin : winMin 1 0 p.p4.toNat = (p.p4.toNat - 1) / 18 - 1 := rfl
  have hdiv : ((p.p4 - 1) / 0x12).toNat = (p.p4.toNat - 1) / 18 := by
    rw [UInt32.toNat_div, hv6]
    rfl
  rw [hbranch]
  by_cases hsmall : p.p4.toNat < 19
  · have hv7 : (p.p4 - 1) / 0x12 - 1 = 0xffffffff := by
      have hquotient : (p.p4 - 1) / 0x12 = 0 := by
        refine UInt32.toNat_inj.mp (hdiv.trans ?_)
        show _ = 0
        omega
      rw [hquotient]
      rfl
    rw [hv7, winCommon_wrapped]
    refine iff_of_false ?_ fun h => absurd h.1 (by omega)
    rintro ⟨q, hq⟩
    cases hq
  · have hv7 : ((p.p4 - 1) / 0x12 - 1).toNat = winMin 1 0 p.p4.toNat := by
      rw [UInt32.toNat_sub_of_le _ _ (UInt32.le_iff_toNat_le.mpr (by omega)), hdiv, hone, hwinMin]
    by_cases hlarge : p.p4.toNat < 55
    · rw [winCommon_small_iff hfuel (by omega) (by omega), hv7]
      constructor
      · exact fun h => ⟨by omega, fun _ => h⟩
      · exact fun h => h.2 hlarge
    · refine iff_of_true (winCommon_exists hfuel (by omega) (by omega) (by omega)) ?_
      exact ⟨by omega, fun h => absurd h hlarge⟩

end Windows

/-! ## The whole function -/

/-- The heights and widths for which the searches of mode 1 divide by zero, from 19 on. -/
def badHeights : List Nat := [20, 22, 24, 26, 28, 30, 32, 36, 40, 44, 48, 52]

def badWidths : List Nat :=
  [20, 22, 24, 26, 28, 30, 32, 34, 36, 38, 40, 42, 44, 46, 48, 50, 52, 54]

theorem badHeights_iff : ∀ d < 55, 19 ≤ d →
    ((∃ c ≤ winTop (winMin 1 0 d) d ((d - 1) / 8 - 1), Acceptable d c) ↔ d ∉ badHeights) := by
  decide

theorem badWidths_iff : ∀ d < 55, 19 ≤ d →
    ((∃ c ≤ winTop (winMin 1 0 d) d ((d - 1) / 15 - 1), Acceptable d c) ↔ d ∉ badWidths) := by
  decide

theorem presetWin_mode1_iff {fuel : Nat} (hfuel : 2 ^ 32 ≤ fuel) {div d : UInt32} (hd : 1 ≤ d.toNat)
    (hdiv : 1 ≤ div.toNat ∧ div.toNat ≤ 18) (count p1 p3 : UInt32) {bad : List Nat}
    (hbad : ∀ d < 55, 19 ≤ d →
      ((∃ c ≤ winTop (winMin 1 0 d) d ((d - 1) / div.toNat - 1), Acceptable d c) ↔ d ∉ bad))
    (hlarge : ∀ d ∈ bad, d < 55) :
    (∃ w, ispWinParam fuel (presetWin div count d p1 p3) 1 0 = some w) ↔
      19 ≤ d.toNat ∧ d.toNat ∉ bad := by
  have hp4 : (presetWin div count d p1 p3).p4 = d := rfl
  rw [mode1_iff hfuel hd, hp4]
  refine and_congr_right fun hlow => ?_
  have hquotient : 1 ≤ (d.toNat - 1) / div.toNat :=
    (Nat.one_le_div_iff (by omega)).mpr (by omega)
  rw [presetWin_toNat hquotient hd]
  by_cases hsmall : d.toNat < 55
  · rw [← hbad _ hsmall hlow]
    exact ⟨fun h => h hsmall, fun h _ => h⟩
  · exact iff_of_true (fun h => absurd h hsmall) fun hmem => hsmall (hlarge _ hmem)

/-- No divisor is zero and every loop ends for all frames but the lowest and the
narrowest. -/
theorem drc_win_divides_iff (fuel : Nat) (width height : UInt32) (hw : 1 ≤ width.toNat)
    (hh : 1 ≤ height.toNat) (hfuel : 2 ^ 32 ≤ fuel) :
    (∃ l, ispSetNr3dDrcWin fuel width height = some l) ↔
      (19 ≤ height.toNat ∧ height.toNat ∉ badHeights) ∧
        (19 ≤ width.toNat ∧ width.toNat ∉ badWidths) := by
  have hvertical :=
    fun count p1 p3 => @presetWin_mode1_iff fuel hfuel pass1.divV height hh (by decide)
    count p1 p3 badHeights badHeights_iff (by decide)
  have hhorizontal :=
    fun count p1 p3 => @presetWin_mode1_iff fuel hfuel pass1.divH width hw (by decide)
    count p1 p3 badWidths badWidths_iff (by decide)
  have hmode0 : pass0.mode = 0 := by decide
  have hmode1 : pass1.mode = 1 := by decide
  constructor
  · rintro ⟨l, hl⟩
    obtain ⟨a, a', -, hdone, -⟩ := ispSetNr3dDrcWin_done hl
    obtain ⟨p1, p3, h0⟩ := hdone.vertical
    obtain ⟨p1', p3', h6⟩ := hdone.horizontal
    rw [hmode1] at h0 h6
    exact ⟨(hvertical _ p1 p3).mp ⟨_, h0⟩, (hhorizontal _ p1' p3').mp ⟨_, h6⟩⟩
  · rintro ⟨hheight, hwidth⟩
    refine ispSetNr3dDrcWin_exists ?_ ?_ ?_
    · rintro P (rfl | rfl) p1 p3
      · rw [hmode0]
        exact mode0_exists hfuel (by show 3 ≤ height.toNat; omega) (.inl rfl)
      · rw [hmode1]
        exact (hvertical _ p1 p3).mpr hheight
    · rintro P (rfl | rfl) p1 p3
      · rw [hmode0]
        exact mode0_exists hfuel (by show 3 ≤ width.toNat; omega) (.inl rfl)
      · rw [hmode1]
        exact (hhorizontal _ p1 p3).mpr hwidth
    · rintro P (rfl | rfl) p1 p3
      · rw [hmode0]
        exact mode0_exists hfuel (show 3 ≤ (0x400 : UInt32).toNat by decide) (.inr rfl)
      · rw [hmode1]
        have hlow : 67 ≤ (0x3000 : UInt32).toNat := by decide
        have hhigh : (0x3000 : UInt32).toNat ≤ 4000000 := by decide
        have hsteps : (0x3000 : UInt32).toNat ≤ fuel := hhigh.trans (le_trans (by decide) hfuel)
        obtain ⟨q, hq, -⟩ := @ispWinParam_searched fuel { pass1.third with p1 := p1, p3 := p3 } 1 1
          (.inr rfl) (.inr rfl) hlow hhigh hsteps
        exact ⟨q, hq⟩

theorem drc_win_divides_iff_sample :
    (∃ l, ispSetNr3dDrcWin (2 ^ 32) 16 16 = some l) ↔
      (19 ≤ 16 ∧ 16 ∉ badHeights) ∧ (19 ≤ 16 ∧ 16 ∉ badWidths) :=
  drc_win_divides_iff (2 ^ 32) 16 16 (by decide) (by decide) (Nat.le_refl _)

/-- A frame of 16 by 16: the second pass divides by zero. -/
theorem small_frame_divides_by_zero :
    ¬ ∀ (fuel : Nat) (width height : UInt32), 1 ≤ width.toNat → 1 ≤ height.toNat → 2 ^ 32 ≤ fuel →
      ∃ l, ispSetNr3dDrcWin fuel width height = some l := by
  intro h
  obtain ⟨l, hl⟩ := h (2 ^ 32) 16 16 (by decide) (by decide) (Nat.le_refl _)
  obtain ⟨a, a', -, hdone, -⟩ := ispSetNr3dDrcWin_done hl
  obtain ⟨p1, p3, h0⟩ := hdone.vertical
  have hmode : pass1.mode = 1 := by decide
  rw [hmode] at h0
  have hlow := ((mode1_iff (Nat.le_refl _) (show 1 ≤ (16 : UInt32).toNat by decide)).mp ⟨_, h0⟩).1
  exact absurd hlow (show ¬ 19 ≤ (16 : UInt32).toNat by decide)

end Isp
end FH8852
