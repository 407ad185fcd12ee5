import Mathlib.Order.Lattice.Nat
import FH8852.Isp.StatWin

/-!
# The windows cover the frame

What `isp_set_nr3d_drc_win` writes covers the frame when each search finds a size,
and the size fits its field.  A search that finds none leaves a size below its
minimum beside the preset count.
-/

namespace FH8852
namespace Isp

open Masked

/-- `count` windows of `size` cover `d`, and one fewer does not. -/
def Covered (count size d : Nat) : Prop := d ≤ count * size ∧ (count - 1) * size < d

/-- The largest odd number below `m`. -/
def oddBelow (m : Nat) : Nat := if m % 2 = 0 then m - 1 else m - 2

def windowTop (mode : Int) (div d : Nat) : Nat := winTop (winMin mode 0 d) d ((d - 1) / div - 1)

/-- The search of a window finds a size, or the preset count happens to cover with
the size below the minimum. -/
def Settled (mode : Int) (div count d : Nat) : Prop :=
  (∃ c, winMin mode 0 d ≤ c ∧ c ≤ windowTop mode div d ∧ Acceptable d c) ∨
    Covered count (oddBelow (winMin mode 0 d) + 1) d

/-! ## One search -/

section Search

variable {d m s : Nat} {p q : Win}

theorem oddBelow_greatest (hm : 2 ≤ m) : IsGreatest {c | c < m ∧ c % 2 = 1} (oddBelow m) := by
  unfold oddBelow
  refine ⟨⟨?_, ?_⟩, fun c hc => ?_⟩
  · split_ifs <;> omega
  · split_ifs <;> omega
  · obtain ⟨hlt, hodd⟩ := hc
    split_ifs <;> omega

theorem covered_exact {c : Nat} (hd : 0 < d) : Covered ((d - 1) / (c + 1) + 1) (c + 1) d := by
  have hsplit := Nat.div_add_mod' (d - 1) (c + 1)
  have hmod : (d - 1) % (c + 1) < c + 1 := Nat.mod_lt _ (Nat.succ_pos c)
  unfold Covered
  rw [Nat.add_sub_cancel, Nat.add_mul, Nat.one_mul]
  omega

theorem exists_greatest {d m s : Nat} (h : ∃ c, m ≤ c ∧ c ≤ s ∧ Acceptable d c) :
    ∃ c, IsGreatest {c | m ≤ c ∧ c ≤ s ∧ Acceptable d c} c := by
  have hbound : BddAbove {c | m ≤ c ∧ c ≤ s ∧ Acceptable d c} := ⟨s, fun c hc => hc.2.1⟩
  exact ⟨_, Nat.sSup_mem h hbound, fun c hc => le_csSup hbound hc⟩

/-- A search that finds a size counts with it, one that does not leaves the count. -/
theorem Searched.cases (h : Searched d m s p q) (hm : 2 ≤ m) :
    (∃ c, IsGreatest {c | m ≤ c ∧ c ≤ s ∧ Acceptable d c} c ∧ q.p0.toNat = c ∧
      q.p2.toNat = (d - 1) / (c + 1) + 1) ∨
      ((¬ ∃ c, m ≤ c ∧ c ≤ s ∧ Acceptable d c) ∧ q.p0.toNat = oddBelow m ∧ q.p2 = p.p2) := by
  by_cases hfound : ∃ c, m ≤ c ∧ c ≤ s ∧ Acceptable d c
  · obtain ⟨c, hc⟩ := exists_greatest hfound
    exact .inl ⟨c, hc, h.found c hc⟩
  · obtain ⟨hgreatest, hp2⟩ := h.missed fun c hm hs hc => hfound ⟨c, hm, hs, hc⟩
    exact .inr ⟨hfound, hgreatest.unique (oddBelow_greatest hm), hp2⟩

theorem Searched.covered_iff (h : Searched d m s p q) (hm : 2 ≤ m) (hd : 0 < d) :
    Covered q.p2.toNat (q.p0.toNat + 1) d ↔
      (∃ c, m ≤ c ∧ c ≤ s ∧ Acceptable d c) ∨ Covered p.p2.toNat (oddBelow m + 1) d := by
  rcases h.cases hm with ⟨c, hc, hp0, hp2⟩ | ⟨hnone, hp0, hp2⟩
  · rw [hp0, hp2]
    exact iff_of_true (covered_exact hd) (.inl ⟨c, hc.1⟩)
  · rw [hp0, hp2]
    exact (or_iff_right hnone).symm

theorem Searched.p0_le (h : Searched d m s p q) (hm : 2 ≤ m) (hms : m ≤ s) : q.p0.toNat ≤ s := by
  rcases h.cases hm with ⟨c, hc, hp0, -⟩ | ⟨-, hp0, -⟩
  · rw [hp0]
    exact hc.1.2.1
  · have hlow := (oddBelow_greatest hm).1.1
    omega

/-- The count fits its field. -/
theorem Searched.p2_lt (h : Searched d m s p q) (hm : 2 ≤ m) (hd : d ≤ 200 * (m + 1))
    (hp : p.p2.toNat < 256) : q.p2.toNat < 256 := by
  rcases h.cases hm with ⟨c, hc, -, hp2⟩ | ⟨-, -, hp2⟩
  · have hcm := hc.1.1
    have hdiv : (d - 1) / (c + 1) < 201 := by
      refine Nat.div_lt_of_lt_mul ?_
      omega
    omega
  · rw [hp2]
    exact hp

end Search

/-! ## The presets -/

theorem winMin_room {mode : Int} {d : Nat} (hd : 67 ≤ d) :
    d ≤ 200 * (winMin mode 0 d + 1) ∧ winMin mode 0 d ≤ d / 18 + 7 := by
  unfold winMin
  split_ifs <;> omega

theorem windowTop_lt {mode : Int} {div d : Nat} (hm : winMin mode 0 d < 65536)
    (hdiv : (d - 1) / div ≤ 65537) : windowTop mode div d < 65536 := by
  unfold windowTop winTop winOdd
  split_ifs <;> omega

theorem presetWin_toNat {div count d p1 p3 : UInt32} (h : 1 ≤ (d.toNat - 1) / div.toNat)
    (hd : 1 ≤ d.toNat) :
      (presetWin div count d p1 p3).p0.toNat = (d.toNat - 1) / div.toNat - 1 := by
  have hone : (1 : UInt32).toNat = 1 := rfl
  have hsub : (d - 1).toNat = d.toNat - 1 :=
    UInt32.toNat_sub_of_le _ _ (UInt32.le_iff_toNat_le.mpr (by omega))
  show ((d - 1) / div - 1).toNat = _
  rw [divided_toNat (by rw [hsub]; exact h), hsub]

/-- What is known of a window once its search has ended. -/
structure Window (mode : Int) (div count d : Nat) (w : Win) : Prop where
  covered_iff : Covered w.p2.toNat (w.p0.toNat + 1) d ↔ Settled mode div count d
  p2_lt : w.p2.toNat < 256
  p0_le : w.p0.toNat ≤ windowTop mode div d
  found : ∀ c, IsGreatest {c | winMin mode 0 d ≤ c ∧ c ≤ windowTop mode div d ∧ Acceptable d c} c →
    w.p0.toNat = c ∧ w.p2.toNat = (d - 1) / (c + 1) + 1

section Preset

variable {fuel : Nat} {mode : Int} (hmode : mode = 0 ∨ mode = 1) {div count d : UInt32}
  (hlow : 67 ≤ d.toNat) (hhigh : d.toNat ≤ 800000) (hfuel : 800000 ≤ fuel)

include hmode hlow hhigh hfuel

theorem presetWin_window (hdiv : 1 ≤ (d.toNat - 1) / div.toNat) (hcount : count.toNat < 256)
    {w : Win} (h : ∃ p1 p3, ispWinParam fuel (presetWin div count d p1 p3) mode 0 = some w) :
    Window mode div.toNat count.toNat d.toNat w := by
  obtain ⟨p1, p3, h⟩ := h
  have hd : (presetWin div count d p1 p3).p4 = d := rfl
  have hp2 : (presetWin div count d p1 p3).p2 = count := rfl
  obtain ⟨q, hq, hsearched⟩ := @ispWinParam_searched fuel (presetWin div count d p1 p3) mode 0 hmode
    (.inl rfl) hlow (hhigh.trans (by omega)) (hhigh.trans hfuel)
  rw [h, Option.some.injEq] at hq
  subst hq
  obtain ⟨hmin, -⟩ := @winMin_bounds mode 0 _ hlow
  have hroom := (@winMin_room mode _ hlow).1
  rw [hd, presetWin_toNat hdiv (by omega)] at hsearched
  have hcovered := hsearched.covered_iff hmin (by omega)
  rw [hp2] at hcovered
  exact
    { covered_iff := hcovered
      p2_lt := hsearched.p2_lt hmin hroom (by rw [hp2]; exact hcount)
      p0_le := hsearched.p0_le hmin (le_winOdd (le_max_right _ _))
      found := hsearched.found }

end Preset

/-! ## The registers -/

/-- The geometry in a pair of registers covers the frame. -/
structure CoversFrame (counts sizes : UInt32) (width height : Nat) : Prop where
  vertical : Covered (counts &&& 0xff).toNat ((sizes &&& 0xffff).toNat + 1) height
  horizontal : Covered ((counts >>> 8) &&& 0xff).toNat ((sizes >>> 16).toNat + 1) width

def countsWord (a : StatArray) : UInt32 := (a.w12.p2 <<< 16) ||| (a.w6.p2 <<< 8) ||| a.w0.p2

def sizesWord (a : StatArray) : UInt32 := a.w0.p0 ||| (a.w6.p0 <<< 16)

/-- Masking with `2 ^ k - 1` keeps the low bits. -/
theorem low_toNat {v m : UInt32} {k : Nat} (hm : m.toNat = 2 ^ k - 1) :
    (v &&& m).toNat = v.toNat % 2 ^ k := by
  rw [UInt32.toNat_and, hm, Nat.and_two_pow_sub_one_eq_mod]

theorem countsWord_fields {a : StatArray} (h0 : a.w0.p2.toNat < 256) (h6 : a.w6.p2.toNat < 256) :
    (countsWord a &&& 0xff).toNat = a.w0.p2.toNat ∧
      ((countsWord a >>> 8) &&& 0xff).toNat = a.w6.p2.toNat := by
  have hlow : (a.w6.p2 <<< 8 ||| a.w0.p2).toNat = a.w6.p2.toNat % 2 ^ 24 * 2 ^ 8 + a.w0.p2.toNat :=
    join_toNat (by decide) h0
  have hword : (countsWord a).toNat = a.w12.p2.toNat % 2 ^ 16 * 2 ^ 16 +
      (a.w6.p2 <<< 8 ||| a.w0.p2).toNat := by
    have hlt : (a.w6.p2 <<< 8 ||| a.w0.p2).toNat < 2 ^ 16 := by omega
    rw [countsWord, UInt32.or_assoc]
    exact join_toNat (by decide) hlt
  constructor
  · rw [low_toNat (k := 8) rfl, hword, hlow]
    omega
  · rw [low_toNat (k := 8) rfl, UInt32.toNat_shiftRight, hword, hlow]
    show (_ >>> 8) % 2 ^ 8 = _
    rw [Nat.shiftRight_eq_div_pow]
    omega

theorem sizesWord_low (a : StatArray) : (sizesWord a &&& 0xffff).toNat = a.w0.p0.toNat % 65536 := by
  have hhigh : (a.w6.p0 <<< 16) &&& 0xffff = 0 := by
    refine UInt32.toNat_inj.mp ?_
    rw [low_toNat (k := 16) rfl, UInt32.toNat_shiftLeft]
    show (_ <<< 16) % 2 ^ 32 % 2 ^ 16 = 0
    rw [Nat.shiftLeft_eq]
    omega
  rw [sizesWord, word_or_and, hhigh, UInt32.or_zero]
  exact low_toNat (k := 16) rfl

theorem sizesWord_high {a : StatArray} (h0 : a.w0.p0.toNat < 65536) (h6 : a.w6.p0.toNat < 65536) :
    (sizesWord a >>> 16).toNat = a.w6.p0.toNat := by
  have hword : (sizesWord a).toNat = a.w6.p0.toNat % 2 ^ 16 * 2 ^ 16 + a.w0.p0.toNat := by
    rw [sizesWord, UInt32.or_comm]
    exact join_toNat (by decide) h0
  rw [UInt32.toNat_shiftRight, hword]
  show _ >>> 16 = _
  rw [Nat.shiftRight_eq_div_pow]
  omega

/-- While the sizes fit their fields, the registers hold the geometry of the windows. -/
theorem coversFrame_iff {a : StatArray} {width height : Nat} (hc0 : a.w0.p2.toNat < 256)
    (hc6 : a.w6.p2.toNat < 256) (hs0 : a.w0.p0.toNat < 65536) (hs6 : a.w6.p0.toNat < 65536) :
    CoversFrame (countsWord a) (sizesWord a) width height ↔
      Covered a.w0.p2.toNat (a.w0.p0.toNat + 1) height ∧
        Covered a.w6.p2.toNat (a.w6.p0.toNat + 1) width := by
  obtain ⟨hlow, hhigh⟩ := countsWord_fields hc0 hc6
  have hsize := sizesWord_low a
  rw [Nat.mod_eq_of_lt hs0] at hsize
  constructor
  · rintro ⟨hv, hh⟩
    rw [hlow, hsize] at hv
    rw [hhigh, sizesWord_high hs0 hs6] at hh
    exact ⟨hv, hh⟩
  · rintro ⟨hv, hh⟩
    refine ⟨?_, ?_⟩
    · rw [hlow, hsize]
      exact hv
    · rw [hhigh, sizesWord_high hs0 hs6]
      exact hh

/-! ## Frames that are too high -/

/-- A size is acceptable when a little more than a whole number of windows is left. -/
theorem acceptable_of_near {d k c e : Nat} (hd : d = (k + 1) * (c + 1) + e) (hodd : c % 2 = 1)
    (hlarge : 8 ≤ (c + 1) / 2 + e) (hsmall : (c + 1) / 2 + e < c + 1) : Acceptable d c := by
  have hhalf : d - (c + 1) / 2 = (c + 1) * k + ((c + 1) / 2 + e) := by
    rw [hd, Nat.add_mul, Nat.one_mul, Nat.mul_comm k]
    omega
  have hmod : (d - (c + 1) / 2) % (c + 1) = (c + 1) / 2 + e := by
    rw [hhalf, Nat.mul_add_mod, Nat.mod_eq_of_lt hsmall]
  refine ⟨hodd, ?_⟩
  rw [hmod]
  omega

/-- The search starts next to the preset size, once that is above the minimum. -/
theorem windowTop_near {mode : Int} {div d : Nat} (hmin : winMin mode 0 d + 2 ≤ (d - 1) / div)
    (hhalf : (d - 1) / div ≤ (d - 1) / 2) :
    windowTop mode div d + 1 ≤ (d - 1) / div ∧ (d - 1) / div ≤ windowTop mode div d + 2 ∧
      winMin mode 0 d ≤ windowTop mode div d := by
  unfold windowTop winTop winOdd
  split_ifs <;> omega

/-- The size a search starts from is acceptable once the preset is large enough. -/
theorem top_acceptable {mode : Int} {div d : Nat} (hdiv : 2 ≤ div)
    (hlarge : 6 * div + 2 ≤ (d - 1) / div)
    (hmin : winMin mode 0 d + 2 ≤ (d - 1) / div) (hhalf : (d - 1) / div ≤ (d - 1) / 2) :
    Acceptable d (windowTop mode div d) := by
  obtain ⟨hle, hge, -⟩ := windowTop_near hmin hhalf
  have hodd : windowTop mode div d % 2 = 1 := winOdd_odd _ _
  have hsplit := Nat.div_add_mod (d - 1) div
  have hmod := Nat.mod_lt (d - 1) (show 0 < div by omega)
  have hsucc : div - 1 + 1 = div := by omega
  generalize (d - 1) / div = q at hle hge hlarge hsplit
  generalize windowTop mode div d = top at hle hge hodd ⊢
  rcases Nat.eq_or_lt_of_le hle with heq | hlt
  · refine @acceptable_of_near d (div - 1) top ((d - 1) % div + 1) ?_ hodd (by omega) (by omega)
    rw [hsucc, heq]
    omega
  · have heq : q = top + 1 + 1 := by omega
    rw [heq, Nat.mul_add div (top + 1) 1] at hsplit
    refine @acceptable_of_near d (div - 1) top ((d - 1) % div + 1 + div) ?_ hodd
      (by omega) (by omega)
    rw [hsucc]
    omega

/-- From here on the size of the second pass does not fit its field. -/
theorem tall_top {h : Nat} (hlow : 524305 ≤ h) :
    65536 < windowTop 1 8 h ∧ windowTop 1 8 h + 1 ≤ (h - 1) / 8 ∧
      (h - 1) / 8 ≤ windowTop 1 8 h + 2 ∧
      winMin 1 0 h ≤ windowTop 1 8 h ∧ Acceptable h (windowTop 1 8 h) := by
  have hmin : winMin 1 0 h = (h - 1) / 18 - 1 := rfl
  have hodd : windowTop 1 8 h % 2 = 1 := winOdd_odd _ _
  obtain ⟨hle, hge, hlowest⟩ := @windowTop_near 1 8 h (by omega) (by omega)
  refine ⟨by omega, hle, hge, hlowest, ?_⟩
  exact top_acceptable (by omega) (by omega) (by omega) (by omega)

theorem tall_not_covered {h : Nat} (hlow : 524305 ≤ h) (hhigh : h ≤ 800000) {a : StatArray}
    (hw : Window 1 8 9 h a.w0) (hc6 : a.w6.p2.toNat < 256) (width : Nat) :
    ¬ CoversFrame (countsWord a) (sizesWord a) width h := by
  obtain ⟨hlarge, hle, hge, hmin, hacc⟩ := tall_top hlow
  obtain ⟨hp0, hp2⟩ := hw.found (windowTop 1 8 h) ⟨⟨hmin, Nat.le_refl _, hacc⟩, fun c hc => hc.2.1⟩
  intro hcovers
  have hvertical := hcovers.vertical.1
  have hcount : a.w0.p2.toNat ≤ 9 := by
    have hdiv : (h - 1) / (windowTop 1 8 h + 1) < 9 := Nat.div_lt_of_lt_mul (by omega)
    omega
  rw [(countsWord_fields hw.p2_lt hc6).1, sizesWord_low, hp0] at hvertical
  have hproduct : a.w0.p2.toNat * (windowTop 1 8 h % 65536 + 1) ≤
      9 * (windowTop 1 8 h % 65536 + 1) := Nat.mul_le_mul_right _ hcount
  omega

/-! ## Dimensions that are not covered -/

/-- Some size from `low` to `top` is acceptable, the greatest tried first. -/
def anyAcceptable (d low : Nat) : Nat → Bool
  | 0 => false
  | top + 1 => Nat.ble low (top + 1) && (decide (Acceptable d (top + 1)) || anyAcceptable d low top)

theorem anyAcceptable_iff {d low top : Nat} :
    anyAcceptable d low top = true ↔ ∃ c, low ≤ c ∧ c ≤ top ∧ Acceptable d c := by
  induction top with
  | zero =>
    refine iff_of_false (by simp [anyAcceptable]) ?_
    rintro ⟨c, -, hc, hodd, -⟩
    omega
  | succ top ih =>
    simp only [anyAcceptable, Bool.and_eq_true, Bool.or_eq_true, Nat.ble_eq, decide_eq_true_eq, ih]
    constructor
    · rintro ⟨hlow, hacc | ⟨c, hc, htop, hacc⟩⟩
      · exact ⟨top + 1, hlow, Nat.le_refl _, hacc⟩
      · exact ⟨c, hc, htop.trans (Nat.le_succ _), hacc⟩
    · rintro ⟨c, hc, htop, hacc⟩
      refine ⟨hc.trans htop, ?_⟩
      rcases Nat.lt_or_eq_of_le htop with hlt | rfl
      · exact .inr ⟨c, hc, Nat.le_of_lt_succ hlt, hacc⟩
      · exact .inl hacc

instance (count size d : Nat) : Decidable (Covered count size d) :=
  inferInstanceAs (Decidable (_ ∧ _))

instance (mode : Int) (div count d : Nat) : Decidable (Settled mode div count d) :=
  haveI := decidable_of_iff _ (@anyAcceptable_iff d (winMin mode 0 d) (windowTop mode div d))
  inferInstanceAs (Decidable (_ ∨ _))

/-- `d` lies in one of the runs. -/
def Within (runs : List (Nat × Nat)) (d : Nat) : Prop := ∃ r ∈ runs, r.1 ≤ d ∧ d ≤ r.2

instance (runs : List (Nat × Nat)) (d : Nat) : Decidable (Within runs d) :=
  inferInstanceAs (Decidable (∃ r ∈ runs, _))

def uncoveredHeights : List (Nat × Nat) :=
  [(67, 67), (69, 75), (77, 80), (85, 91), (93, 99), (101, 107), (109, 115), (117, 123),
    (125, 131), (136, 139), (141, 142), (146, 147), (149, 152), (157, 157), (166, 169),
    (176, 179), (181, 181), (190, 192), (249, 250)]

def uncoveredWidths : List (Nat × Nat) :=
  [(67, 123), (125, 131), (133, 139), (141, 147), (149, 155), (157, 163), (165, 195),
    (197, 211), (213, 219), (221, 227), (229, 232), (235, 242), (246, 252), (256, 262),
    (265, 272), (276, 277), (281, 289), (296, 301), (307, 312), (316, 317), (319, 322),
    (331, 336), (344, 349), (358, 361), (378, 378), (414, 414), (428, 430), (442, 447),
    (460, 460), (497, 497), (529, 532), (562, 565), (596, 596)]

/-- A property that is checked number by number, first with the exceptions of the runs,
and that holds of all large numbers. -/
theorem iff_not_within {P : Nat → Prop} {runs : List (Nat × Nat)} {a n m d : Nat}
    (hlow : ∀ d ∈ List.range' a n, (P d ↔ ¬ Within runs d))
    (hmiddle : ∀ d ∈ List.range' (a + n) m, P d) (hlarge : ∀ d, a + n + m ≤ d → P d)
    (hruns : ∀ r ∈ runs, r.2 < a + n) (hd : a ≤ d) : P d ↔ ¬ Within runs d := by
  rcases Nat.lt_or_ge d (a + n) with hlt | hge
  · exact hlow d (List.mem_range'_1.mpr ⟨hd, hlt⟩)
  · have hnone : ¬ Within runs d := by
      rintro ⟨r, hr, -, hhigh⟩
      have hlast := hruns r hr
      omega
    refine iff_of_true ?_ hnone
    rcases Nat.lt_or_ge d (a + n + m) with hlt | hge'
    · exact hmiddle d (List.mem_range'_1.mpr ⟨hge, hlt⟩)
    · exact hlarge d hge'

/-- Once the preset is large enough the search finds the size it starts from. -/
theorem settled_of_large {mode : Int} {div count d : Nat} (hdiv : 2 ≤ div)
    (hlarge : 6 * div + 2 ≤ (d - 1) / div) (hmin : winMin mode 0 d + 2 ≤ (d - 1) / div) :
    Settled mode div count d := by
  have hhalf : (d - 1) / div ≤ (d - 1) / 2 := Nat.div_le_div_left hdiv (by omega)
  exact .inl ⟨_, (windowTop_near hmin hhalf).2.2, Nat.le_refl _,
    top_acceptable hdiv hlarge hmin hhalf⟩

theorem winMin_scaled {d : Nat} (hd : 221 ≤ d) : winMin 0 0 d = d * 10 / 315 := by
  have hlarge : ¬ d * 10 < 0x89d := by omega
  simp [winMin, hlarge]

theorem settled_heights_low : ∀ d ∈ List.range' 67 184,
    (Settled 0 13 14 d ∧ Settled 1 8 9 d ↔ ¬ Within uncoveredHeights d) := by
  decide +kernel

theorem settled_heights_middle : ∀ d ∈ List.range' 251 790,
    Settled 0 13 14 d ∧ Settled 1 8 9 d := by
  decide +kernel

theorem settled_heights_large (d : Nat) (hd : 1041 ≤ d) :
    Settled 0 13 14 d ∧ Settled 1 8 9 d := by
  have hmin := winMin_scaled (show 221 ≤ d by omega)
  have hmin' : winMin 1 0 d = (d - 1) / 18 - 1 := rfl
  exact ⟨settled_of_large (by omega) (by omega) (by omega),
    settled_of_large (by omega) (by omega) (by omega)⟩

theorem settled_widths_low : ∀ d ∈ List.range' 67 530,
    (Settled 0 23 24 d ∧ Settled 1 15 16 d ↔ ¬ Within uncoveredWidths d) := by
  decide +kernel

theorem settled_widths_middle : ∀ d ∈ List.range' 597 2624,
    Settled 0 23 24 d ∧ Settled 1 15 16 d := by
  decide +kernel

theorem settled_widths_large (d : Nat) (hd : 3221 ≤ d) :
    Settled 0 23 24 d ∧ Settled 1 15 16 d := by
  have hmin := winMin_scaled (show 221 ≤ d by omega)
  have hmin' : winMin 1 0 d = (d - 1) / 18 - 1 := rfl
  exact ⟨settled_of_large (by omega) (by omega) (by omega),
    settled_of_large (by omega) (by omega) (by omega)⟩

/-- Both passes settle every height from 251 on, and below that all but those listed. -/
theorem settled_heights_iff {d : Nat} (hlow : 67 ≤ d) :
    Settled 0 13 14 d ∧ Settled 1 8 9 d ↔ ¬ Within uncoveredHeights d :=
  iff_not_within (P := fun d => Settled 0 13 14 d ∧ Settled 1 8 9 d) settled_heights_low
    settled_heights_middle settled_heights_large (by decide) hlow

/-- Both passes settle every width from 597 on, and below that all but those listed. -/
theorem settled_widths_iff {d : Nat} (hlow : 67 ≤ d) :
    Settled 0 23 24 d ∧ Settled 1 15 16 d ↔ ¬ Within uncoveredWidths d :=
  iff_not_within (P := fun d => Settled 0 23 24 d ∧ Settled 1 15 16 d) settled_widths_low
    settled_widths_middle settled_widths_large (by decide) hlow

/-! ## A frame -/

/-- The geometry the registers hold for both passes covers the frame. -/
structure WindowsCover (regs : Nat → UInt32) (width height : Nat) : Prop where
  first : CoversFrame (regs 0x2ac) (regs 0x2b0) width height
  first' : CoversFrame (regs 0x2d0) (regs 0x2d4) width height
  second : CoversFrame (regs 0x604) (regs 0x608) width height
  second' : CoversFrame (regs 0x624) (regs 0x628) width height

theorem windowsCover_iff (regs : Nat → UInt32) (a a' : StatArray) (width height : Nat) :
    WindowsCover (run regs (windowWrites a 0x2ac 0x2d0 ++ windowWrites a' 0x604 0x624))
      width height ↔
      CoversFrame (countsWord a) (sizesWord a) width height ∧
        CoversFrame (countsWord a') (sizesWord a') width height := by
  have hheld : ∀ addr v,
      Write.plain addr v ∈ windowWrites a 0x2ac 0x2d0 ++ windowWrites a' 0x604 0x624 →
        run regs (windowWrites a 0x2ac 0x2d0 ++ windowWrites a' 0x604 0x624) addr = v :=
    fun _ _ hmem => run_of_mem_plain (windowWrites_distinct a a') hmem regs
  have h2ac := hheld 0x2ac (countsWord a) (by simp [windowWrites, countsWord])
  have h2b0 := hheld 0x2b0 (sizesWord a) (by simp [windowWrites, sizesWord])
  have h2d0 := hheld 0x2d0 (countsWord a) (by simp [windowWrites, countsWord])
  have h2d4 := hheld 0x2d4 (sizesWord a) (by simp [windowWrites, sizesWord])
  have h604 := hheld 0x604 (countsWord a') (by simp [windowWrites, countsWord])
  have h608 := hheld 0x608 (sizesWord a') (by simp [windowWrites, sizesWord])
  have h624 := hheld 0x624 (countsWord a') (by simp [windowWrites, countsWord])
  have h628 := hheld 0x628 (sizesWord a') (by simp [windowWrites, sizesWord])
  constructor
  · rintro ⟨hfirst, -, hsecond, -⟩
    rw [h2ac, h2b0] at hfirst
    rw [h604, h608] at hsecond
    exact ⟨hfirst, hsecond⟩
  · rintro ⟨hfirst, hsecond⟩
    refine ⟨?_, ?_, ?_, ?_⟩
    · rw [h2ac, h2b0]
      exact hfirst
    · rw [h2d0, h2d4]
      exact hfirst
    · rw [h604, h608]
      exact hsecond
    · rw [h624, h628]
      exact hsecond

section Frame

variable {fuel : Nat} {width height : UInt32} (hwlow : 67 ≤ width.toNat)
  (hwhigh : width.toNat ≤ 800000) (hhlow : 67 ≤ height.toNat) (hhhigh : height.toNat ≤ 800000)
  (hfuel : 800000 ≤ fuel)

include hwlow hwhigh hhlow hhhigh hfuel

theorem frame_exists : ∃ l, ispSetNr3dDrcWin fuel width height = some l :=
  ispSetNr3dDrcWin_total hwlow (hwhigh.trans (by omega)) hhlow (hhhigh.trans (by omega))
    (hwhigh.trans hfuel) (hhhigh.trans hfuel) (by omega)

theorem pass0_windows {a : StatArray} (h : PassDone fuel pass0 width height a) :
    Window 0 13 14 height.toNat a.w0 ∧ Window 0 23 24 width.toNat a.w6 := by
  have hv : 1 ≤ (height.toNat - 1) / pass0.divV.toNat := by
    show 1 ≤ (height.toNat - 1) / 13
    omega
  have hh : 1 ≤ (width.toNat - 1) / pass0.divH.toNat := by
    show 1 ≤ (width.toNat - 1) / 23
    omega
  exact ⟨presetWin_window (.inl rfl) hhlow hhhigh hfuel hv (by decide) h.vertical,
    presetWin_window (.inl rfl) hwlow hwhigh hfuel hh (by decide) h.horizontal⟩

theorem pass1_windows {a : StatArray} (h : PassDone fuel pass1 width height a) :
    Window 1 8 9 height.toNat a.w0 ∧ Window 1 15 16 width.toNat a.w6 := by
  have hv : 1 ≤ (height.toNat - 1) / pass1.divV.toNat := by
    show 1 ≤ (height.toNat - 1) / 8
    omega
  have hh : 1 ≤ (width.toNat - 1) / pass1.divH.toNat := by
    show 1 ≤ (width.toNat - 1) / 15
    omega
  exact ⟨presetWin_window (.inr rfl) hhlow hhhigh hfuel hv (by decide) h.vertical,
    presetWin_window (.inr rfl) hwlow hwhigh hfuel hh (by decide) h.horizontal⟩

end Frame

/-- The sizes fit their fields, except for the height in the second pass. -/
theorem windowTop_fits {mode : Int} {div d : Nat} (hd : 67 ≤ d) (hhigh : d ≤ 800000)
    (hdiv : (d - 1) / div ≤ 65537) : windowTop mode div d < 65536 := by
  have hroom := (@winMin_room mode _ hd).2
  exact windowTop_lt (by omega) hdiv

/-- The geometry covers the frame just when each of the four searches finds a size
or its preset fits all the same, and the frame is at most 524304 high. -/
theorem windowsCover_settled_iff (fuel : Nat) (regs : Nat → UInt32) (width height : UInt32)
    (hwlow : 67 ≤ width.toNat) (hwhigh : width.toNat ≤ 800000) (hhlow : 67 ≤ height.toNat)
    (hhhigh : height.toNat ≤ 800000) (hfuel : 800000 ≤ fuel) :
    (∃ l, ispSetNr3dDrcWin fuel width height = some l ∧
      WindowsCover (run regs l) width.toNat height.toNat) ↔
      height.toNat ≤ 524304 ∧ Settled 0 13 14 height.toNat ∧ Settled 0 23 24 width.toNat ∧
        Settled 1 8 9 height.toNat ∧ Settled 1 15 16 width.toNat := by
  obtain ⟨l, hl⟩ := frame_exists hwlow hwhigh hhlow hhhigh hfuel
  obtain ⟨a, a', hdone, hdone', rfl⟩ := ispSetNr3dDrcWin_done hl
  obtain ⟨hv0, hh0⟩ := pass0_windows hwlow hwhigh hhlow hhhigh hfuel hdone
  obtain ⟨hv1, hh1⟩ := pass1_windows hwlow hwhigh hhlow hhhigh hfuel hdone'
  have hiff : (∃ l, ispSetNr3dDrcWin fuel width height = some l ∧
      WindowsCover (run regs l) width.toNat height.toNat) ↔
      CoversFrame (countsWord a) (sizesWord a) width.toNat height.toNat ∧
        CoversFrame (countsWord a') (sizesWord a') width.toNat height.toNat := by
    rw [hl, ← windowsCover_iff regs]
    constructor
    · rintro ⟨l, hsome, hcovers⟩
      rw [Option.some.inj hsome]
      exact hcovers
    · exact fun hcovers => ⟨_, rfl, hcovers⟩
  have hsv0 := hv0.p0_le.trans_lt (windowTop_fits hhlow hhhigh (by omega))
  have hsh0 := hh0.p0_le.trans_lt (windowTop_fits hwlow hwhigh (by omega))
  have hsh1 := hh1.p0_le.trans_lt (windowTop_fits hwlow hwhigh (by omega))
  rw [hiff, coversFrame_iff hv0.p2_lt hh0.p2_lt hsv0 hsh0, hv0.covered_iff, hh0.covered_iff]
  by_cases htall : height.toNat ≤ 524304
  · have hsv1 := hv1.p0_le.trans_lt (windowTop_fits hhlow hhhigh (by omega))
    rw [coversFrame_iff hv1.p2_lt hh1.p2_lt hsv1 hsh1, hv1.covered_iff, hh1.covered_iff]
    constructor
    · rintro ⟨⟨h1, h2⟩, h3, h4⟩
      exact ⟨htall, h1, h2, h3, h4⟩
    · rintro ⟨-, h1, h2, h3, h4⟩
      exact ⟨⟨h1, h2⟩, h3, h4⟩
  · have hnot := tall_not_covered (by omega) hhhigh hv1 hh1.p2_lt width.toNat
    exact iff_of_false (fun h => hnot h.2) fun h => htall h.1

/-- The geometry covers every frame at most 524304 high, except those of the heights
and the widths listed. -/
theorem drc_win_covers_iff (fuel : Nat) (regs : Nat → UInt32) (width height : UInt32)
    (hwlow : 67 ≤ width.toNat) (hwhigh : width.toNat ≤ 800000) (hhlow : 67 ≤ height.toNat)
    (hhhigh : height.toNat ≤ 800000) (hfuel : 800000 ≤ fuel) :
    (∃ l, ispSetNr3dDrcWin fuel width height = some l ∧
      WindowsCover (run regs l) width.toNat height.toNat) ↔
      height.toNat ≤ 524304 ∧ ¬ Within uncoveredHeights height.toNat ∧
        ¬ Within uncoveredWidths width.toNat := by
  rw [windowsCover_settled_iff fuel regs width height hwlow hwhigh hhlow hhhigh hfuel,
    ← settled_heights_iff hhlow, ← settled_widths_iff hwlow]
  constructor
  · rintro ⟨htall, hv0, hh0, hv1, hh1⟩
    exact ⟨htall, ⟨hv0, hv1⟩, hh0, hh1⟩
  · rintro ⟨htall, ⟨hv0, hv1⟩, hh0, hh1⟩
    exact ⟨htall, hv0, hh0, hv1, hh1⟩

theorem drc_win_covers_iff_sample :
    (∃ l, ispSetNr3dDrcWin 800000 1920 1080 = some l ∧
      WindowsCover (run (fun _ => 0) l) 1920 1080) ↔
      1080 ≤ 524304 ∧ ¬ Within uncoveredHeights 1080 ∧ ¬ Within uncoveredWidths 1920 :=
  drc_win_covers_iff 800000 (fun _ => 0) 1920 1080 (by decide) (by decide) (by decide) (by decide)
    (Nat.le_refl _)

theorem settled_67 : ¬ Settled 0 13 14 67 := by decide +kernel

/-- A frame 67 high: no size is acceptable, and 14 windows of 6 lines are left. -/
theorem low_frame_uncovered :
    ¬ ∀ (fuel : Nat) (regs : Nat → UInt32) (width height : UInt32), 67 ≤ width.toNat →
      width.toNat ≤ 800000 → 67 ≤ height.toNat → height.toNat ≤ 800000 → 800000 ≤ fuel →
      ∃ l, ispSetNr3dDrcWin fuel width height = some l ∧
        WindowsCover (run regs l) width.toNat height.toNat := by
  intro h
  have hwlow : 67 ≤ (1920 : UInt32).toNat := by decide
  have hwhigh : (1920 : UInt32).toNat ≤ 800000 := by decide
  have hhlow : 67 ≤ (67 : UInt32).toNat := by decide
  have hhhigh : (67 : UInt32).toNat ≤ 800000 := by decide
  obtain ⟨l, hl, hcovers⟩ := h 800000 (fun _ => 0) 1920 67 hwlow hwhigh hhlow hhhigh (Nat.le_refl _)
  obtain ⟨a, a', hdone, -, rfl⟩ := ispSetNr3dDrcWin_done hl
  obtain ⟨hv0, hh0⟩ := pass0_windows hwlow hwhigh hhlow hhhigh (Nat.le_refl _) hdone
  have hsv0 := hv0.p0_le.trans_lt (windowTop_fits hhlow hhhigh (by decide))
  have hsh0 := hh0.p0_le.trans_lt (windowTop_fits hwlow hwhigh (by decide))
  have hfirst := ((windowsCover_iff (fun _ => 0) a a' _ _).mp hcovers).1
  rw [coversFrame_iff hv0.p2_lt hh0.p2_lt hsv0 hsh0, hv0.covered_iff] at hfirst
  exact settled_67 hfirst.1

end Isp
end FH8852
