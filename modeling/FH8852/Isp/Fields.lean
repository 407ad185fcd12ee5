import FH8852.Isp.Coverage

/-!
# Reciprocals and their fields

Every run of `isp_win_param` ends at `finish`, which stores the logarithm and the
reciprocal of the size it ends with.  Both fit the fields they are or'ed into.
-/

namespace FH8852
namespace Isp

open Masked

/-! ## Every search ends at `finish` -/

section Ends

variable {fuel : Nat} {p q : Win} {v1 v3 v4 v5 v6 v7 : UInt32}

theorem winLoop_v1 {e : WinExit} (h : winLoop fuel v4 v5 v7 = some e) : e.v1 = e.v3 + 1 := by
  have hnext : ∀ v : UInt32, v - 1 = v - 2 + 1 := by
    intro v
    refine UInt32.toNat_inj.mp ?_
    have hone : (1 : UInt32).toNat = 1 := rfl
    have htwo : (2 : UInt32).toNat = 2 := rfl
    rw [UInt32.toNat_add, UInt32.toNat_sub, UInt32.toNat_sub, hone, htwo]
    omega
  induction fuel generalizing v4 with
  | zero => cases h
  | succ fuel ih =>
      unfold winLoop at h
      dsimp only at h
      split_ifs at h
      · cases h
        exact hnext v4
      · obtain ⟨again, -, h⟩ := Option.bind_eq_some_iff.mp h
        split_ifs at h
        · exact ih h
        · cases h
          exact hnext v4

theorem winFinish_p0 (h : winFinish fuel p v1 = some q) : q.p0 = p.p0 := by
  obtain ⟨r, -, h⟩ := Option.bind_eq_some_iff.mp h
  obtain ⟨quotient, -, h⟩ := Option.bind_eq_some_iff.mp h
  cases h
  rfl

theorem winCount_ends (h : winCount fuel p v1 v3 v6 = some q) :
    ∃ p', p'.p0 = p.p0 ∧ winFinish fuel p' v1 = some q := by
  obtain ⟨r, -, h⟩ := Option.bind_eq_some_iff.mp h
  exact ⟨{ p with p2 := r + 1 }, rfl, h⟩

theorem winAfterAdjust_ends (hp0 : p.p0 = v3) (h : winAfterAdjust fuel p v3 v5 v6 v7 = some q) :
    ∃ p', winFinish fuel p' (p'.p0 + 1) = some q := by
  subst hp0
  have hcount : ∀ {p' : Win}, winCount fuel p' (p'.p0 + 1) p'.p0 v6 = some q →
      ∃ p', winFinish fuel p' (p'.p0 + 1) = some q := by
    intro p' hq
    obtain ⟨p'', hp0, hq⟩ := winCount_ends hq
    exact ⟨p'', by rw [hp0]; exact hq⟩
  unfold winAfterAdjust at h
  dsimp only at h
  split_ifs at h
  · exact ⟨p, h⟩
  · obtain ⟨again, -, h⟩ := Option.bind_eq_some_iff.mp h
    split_ifs at h
    · obtain ⟨e, he, h⟩ := Option.bind_eq_some_iff.mp h
      rw [winLoop_v1 he] at h
      split_ifs at h
      · exact ⟨{ p with p0 := e.v3 }, h⟩
      · exact @hcount { p with p0 := e.v3 } h
    · exact hcount h

theorem winStart_ends (h : (if v3 &&& 1 ≠ 0 then winAfterAdjust fuel { p with p0 := v3 } v3 v5 v6 v7
    else winAdjust fuel { p with p0 := v3 } v3 v5 v6 v7) = some q) :
    ∃ p', winFinish fuel p' (p'.p0 + 1) = some q := by
  split_ifs at h
  · exact winAfterAdjust_ends (p := { p with p0 := v3 }) rfl h
  · exact winAfterAdjust_ends (p := { p with p0 := if v7 < v3 then v3 - 1 else v3 + 1 }) rfl h

theorem ispWinParam_ends {mode sel : Int} (h : ispWinParam fuel p mode sel = some q) :
    ∃ p', winFinish fuel p' (p'.p0 + 1) = some q := by
  have hcommon : ∀ v7, winCommon fuel p p.p4 (p.p4 - 1) v7 = some q →
      ∃ p', winFinish fuel p' (p'.p0 + 1) = some q := fun _ hq => winStart_ends hq
  have hfallback : winFallback fuel p = some q → ∃ p', winFinish fuel p' (p'.p0 + 1) = some q :=
    fun hq => winStart_ends hq
  unfold ispWinParam at h
  dsimp only at h
  split_ifs at h
  · exact hcommon _ h
  · exact hcommon _ h
  · exact hcommon _ h
  · exact hcommon _ h
  · exact hfallback h
  · exact hcommon _ h
  · exact hcommon _ h
  · exact hfallback h
  · exact hfallback h

end Ends

/-! ## The reciprocal -/

/-- The quotient of `a` by `b`, rounded to the nearest with halves up. -/
def roundHalfUp (a b : Nat) : Nat := (2 * a + b) / (2 * b)

/-- What a search leaves for the size it ends with. -/
structure Reciprocal (q : Win) : Prop where
  p1 : q.p1.toNat + 1 = roundHalfUp (2 ^ ((q.p0.toNat + 1).log2 + 10)) (q.p0.toNat + 1)
  p3 : q.p3.toNat = (q.p0.toNat + 1).log2 + 2
  p1_le : q.p1.toNat ≤ 1023
  p3_le : q.p3.toNat ≤ 23

theorem roundHalfUp_eq (a b : Nat) : roundHalfUp a b = (b / 2 + a) / b := by
  have hhalf : (2 * a + b) / 2 = b / 2 + a := by omega
  unfold roundHalfUp
  rw [← Nat.div_div_eq_div_mul, hhalf]

theorem Finished.reciprocal {p q : Win} (h : Finished p q) (hsize : q.p0.toNat + 1 ≤ 2 ^ 21) :
    Reciprocal q := by
  have hp1 := h.p1
  have hp3 := h.p3
  rw [h.p0] at hsize
  have hlow := Nat.log2_self_le (n := p.p0.toNat + 1) (by omega)
  have hlog : (p.p0.toNat + 1).log2 ≤ 21 := by
    have hlt : (p.p0.toNat + 1).log2 < 22 := (Nat.log2_lt (by omega)).mpr (by omega)
    omega
  refine ⟨?_, ?_, ?_, by omega⟩
  · rw [h.p0, roundHalfUp_eq]
    exact hp1
  · rw [h.p0]
    exact hp3
  · have hdiv :
      ((p.p0.toNat + 1) / 2 + 2 ^ ((p.p0.toNat + 1).log2 + 10)) / (p.p0.toNat + 1) < 1025 := by
      rw [Nat.pow_add]
      exact Nat.div_lt_of_lt_mul (by omega)
    omega

theorem ispWinParam_reciprocal {fuel : Nat} (hfuel : 32 ≤ fuel) {p q : Win} {mode sel : Int}
    (h : ispWinParam fuel p mode sel = some q) (hsize : q.p0.toNat + 1 ≤ 2 ^ 21) :
      Reciprocal q := by
  obtain ⟨p', hp'⟩ := ispWinParam_ends h
  have hkept := winFinish_p0 hp'
  have hone : (1 : UInt32).toNat = 1 := rfl
  have hnext : (p'.p0 + 1).toNat = p'.p0.toNat + 1 := by
    rw [hkept] at hsize
    rw [UInt32.toNat_add]
    omega
  obtain ⟨q', hq', hfinished⟩ := winFinish_finished hnext (by rw [hnext, ← hkept]; omega) hfuel
  rw [hp', Option.some.injEq] at hq'
  subst hq'
  exact hfinished.reciprocal hsize

/-! ## The searches that end -/

/-- `finish` has a result for every size. -/
theorem winFinish_reciprocal {fuel : Nat} (hfuel : 32 ≤ fuel) {p : Win}
    (hsize : p.p0.toNat + 1 ≤ 2 ^ 21) :
    ∃ q, winFinish fuel p (p.p0 + 1) = some q ∧ q.p0 = p.p0 ∧ Reciprocal q := by
  have hnext : (p.p0 + 1).toNat = p.p0.toNat + 1 := by
    have hone : (1 : UInt32).toNat = 1 := rfl
    rw [UInt32.toNat_add]
    omega
  obtain ⟨q, hq, hfinished⟩ := winFinish_finished hnext (by omega) hfuel
  exact ⟨q, hq, hfinished.p0, hfinished.reciprocal (by rwa [hfinished.p0])⟩

theorem winTop_le {m d p0 : Nat} (hm : m < (d - 1) / 2) : winTop m d p0 ≤ (d - 1) / 2 := by
  have hle := winOdd_le m (max (min p0 ((d - 1) / 2 - 1)) m)
  unfold winTop
  omega

/-- The searches of the four modes end, at a size of at most half the dimension. -/
theorem ispWinParam_fits {fuel : Nat} {p : Win} {mode sel : Int} (hmode : mode = 0 ∨ mode = 1)
    (hsel : sel = 0 ∨ sel = 1) (hlow : 67 ≤ p.p4.toNat) (hhigh : p.p4.toNat ≤ 4000000)
    (hfuel : p.p4.toNat ≤ fuel) :
    ∃ q, ispWinParam fuel p mode sel = some q ∧ q.p0.toNat + 1 ≤ 2 ^ 21 := by
  obtain ⟨q, hq, hsearched⟩ := ispWinParam_searched hmode hsel hlow hhigh hfuel
  obtain ⟨hmin, hroom⟩ := @winMin_bounds mode sel _ hlow
  have hle := hsearched.p0_le hmin (le_winOdd (le_max_right _ _))
  have htop := @winTop_le _ p.p4.toNat p.p0.toNat hroom
  exact ⟨q, hq, by omega⟩

/-! ## The fields -/

/-- The four words or'ed into the register of the reciprocals of two windows. -/
def reciprocalsWord (a : StatArray) : UInt32 :=
  (a.w6.p1 <<< 16) ||| (a.w0.p3 <<< 10) ||| a.w0.p1 ||| (a.w6.p3 <<< 26)

/-- The two words or'ed into the register of the third window. -/
def thirdWord (a : StatArray) : UInt32 := a.w12.p1 ||| (a.w12.p3 <<< 10)

/-- The fields of a register lie beside each other, and are read back as they are. -/
structure FieldsHeld (reciprocals third : UInt32) (a : StatArray) : Prop where
  sum : reciprocals.toNat = a.w0.p1.toNat + a.w0.p3.toNat * 2 ^ 10 + a.w6.p1.toNat * 2 ^ 16 +
    a.w6.p3.toNat * 2 ^ 26
  w0_p1 : reciprocals &&& 0x3ff = a.w0.p1
  w0_p3 : (reciprocals >>> 10) &&& 0x3f = a.w0.p3
  w6_p1 : (reciprocals >>> 16) &&& 0x3ff = a.w6.p1
  w6_p3 : reciprocals >>> 26 = a.w6.p3
  third_sum : third.toNat = a.w12.p1.toNat + a.w12.p3.toNat * 2 ^ 10
  w12_p1 : third &&& 0x3ff = a.w12.p1
  w12_p3 : third >>> 10 = a.w12.p3

theorem reciprocalsWord_toNat {a : StatArray} (h0 : Reciprocal a.w0) (h6 : Reciprocal a.w6) :
    (reciprocalsWord a).toNat = a.w0.p1.toNat + a.w0.p3.toNat * 2 ^ 10 + a.w6.p1.toNat * 2 ^ 16 +
      a.w6.p3.toNat * 2 ^ 26 := by
  have h01 := h0.p1_le
  have h03 := h0.p3_le
  have h61 := h6.p1_le
  have h63 := h6.p3_le
  have hlow : (a.w0.p3 <<< 10 ||| a.w0.p1).toNat =
    a.w0.p3.toNat % 2 ^ 22 * 2 ^ 10 + a.w0.p1.toNat :=
    join_toNat (by decide) (show _ < 2 ^ 10 by omega)
  have hmid : (a.w6.p1 <<< 16 ||| (a.w0.p3 <<< 10 ||| a.w0.p1)).toNat =
      a.w6.p1.toNat % 2 ^ 16 * 2 ^ 16 + (a.w0.p3 <<< 10 ||| a.w0.p1).toNat :=
    join_toNat (by decide) (show _ < 2 ^ 16 by omega)
  have hall : (a.w6.p3 <<< 26 ||| (a.w6.p1 <<< 16 ||| (a.w0.p3 <<< 10 ||| a.w0.p1))).toNat =
      a.w6.p3.toNat % 2 ^ 6 * 2 ^ 26 + (a.w6.p1 <<< 16 ||| (a.w0.p3 <<< 10 ||| a.w0.p1)).toNat :=
    join_toNat (by decide) (show _ < 2 ^ 26 by omega)
  rw [reciprocalsWord, UInt32.or_comm, UInt32.or_assoc (a.w6.p1 <<< 16), hall]
  omega

theorem thirdWord_toNat {a : StatArray} (h : Reciprocal a.w12) :
    (thirdWord a).toNat = a.w12.p1.toNat + a.w12.p3.toNat * 2 ^ 10 := by
  have h1 := h.p1_le
  have h3 := h.p3_le
  have hword : (a.w12.p3 <<< 10 ||| a.w12.p1).toNat =
      a.w12.p3.toNat % 2 ^ 22 * 2 ^ 10 + a.w12.p1.toNat :=
    join_toNat (by decide) (show _ < 2 ^ 10 by omega)
  rw [thirdWord, UInt32.or_comm, hword]
  omega

theorem shifted_toNat (v n : UInt32) (hn : n.toNat < 32) :
    (v >>> n).toNat = v.toNat / 2 ^ n.toNat := by
  rw [UInt32.toNat_shiftRight, Nat.mod_eq_of_lt hn, Nat.shiftRight_eq_div_pow]

theorem fieldsHeld {a : StatArray} (h0 : Reciprocal a.w0) (h6 : Reciprocal a.w6)
    (h12 : Reciprocal a.w12) : FieldsHeld (reciprocalsWord a) (thirdWord a) a := by
  have hsum := reciprocalsWord_toNat h0 h6
  have hthird := thirdWord_toNat h12
  have h01 := h0.p1_le
  have h03 := h0.p3_le
  have h61 := h6.p1_le
  have h121 := h12.p1_le
  have h10 := shifted_toNat (reciprocalsWord a) 10 (by decide)
  have h16 := shifted_toNat (reciprocalsWord a) 16 (by decide)
  have h26 := shifted_toNat (reciprocalsWord a) 26 (by decide)
  have ht10 := shifted_toNat (thirdWord a) 10 (by decide)
  refine ⟨hsum, ?_, ?_, ?_, ?_, hthird, ?_, ?_⟩
  all_goals refine UInt32.toNat_inj.mp ?_
  · rw [low_toNat (k := 10) rfl, hsum]
    omega
  · rw [low_toNat (k := 6) rfl, h10, hsum]
    show _ / 2 ^ 10 % 2 ^ 6 = _
    omega
  · rw [low_toNat (k := 10) rfl, h16, hsum]
    show _ / 2 ^ 16 % 2 ^ 10 = _
    omega
  · rw [h26, hsum]
    show _ / 2 ^ 26 = _
    omega
  · rw [low_toNat (k := 10) rfl, hthird]
    omega
  · rw [ht10, hthird]
    show _ / 2 ^ 10 = _
    omega

/-- The sizes of the three windows of a pass are at most `2 ^ 21`. -/
def SizesFit (a : StatArray) : Prop :=
  a.w0.p0.toNat + 1 ≤ 2 ^ 21 ∧ a.w6.p0.toNat + 1 ≤ 2 ^ 21 ∧ a.w12.p0.toNat + 1 ≤ 2 ^ 21

theorem PassDone.fieldsHeld {fuel : Nat} (hfuel : 32 ≤ fuel) {P : Pass} {width height : UInt32}
    {a : StatArray} (h : PassDone fuel P width height a) (hsizes : SizesFit a) :
    FieldsHeld (reciprocalsWord a) (thirdWord a) a := by
  obtain ⟨h0, h6, h12⟩ := hsizes
  obtain ⟨_, _, hw0⟩ := h.vertical
  obtain ⟨_, _, hw6⟩ := h.horizontal
  obtain ⟨_, _, hw12⟩ := h.third
  exact Isp.fieldsHeld (ispWinParam_reciprocal hfuel hw0 h0) (ispWinParam_reciprocal hfuel hw6 h6)
    (ispWinParam_reciprocal hfuel hw12 h12)

/-- The dimensions for which all the searches are known to end. -/
structure Searchable (fuel : Nat) (width height : UInt32) : Prop where
  width_low : 67 ≤ width.toNat
  width_high : width.toNat ≤ 4000000
  height_low : 67 ≤ height.toNat
  height_high : height.toNat ≤ 4000000
  width_fuel : width.toNat ≤ fuel
  height_fuel : height.toNat ≤ fuel
  third_fuel : 0x3000 ≤ fuel

theorem PassDone.sizesFit {fuel : Nat} {P : Pass} (hP : P = pass0 ∨ P = pass1)
    {width height : UInt32} (hdims : Searchable fuel width height) {a : StatArray}
    (h : PassDone fuel P width height a) : SizesFit a := by
  have hmode : P.mode = 0 ∨ P.mode = 1 := by
    rcases hP with rfl | rfl
    · exact .inl (by decide)
    · exact .inr (by decide)
  have hthird : P.third.p4.toNat = 0x400 ∨ P.third.p4.toNat = 0x3000 := by
    rcases hP with rfl | rfl
    · exact .inl rfl
    · exact .inr rfl
  have hfuel := hdims.third_fuel
  have hfits : ∀ {p w : Win} {sel : Int}, ispWinParam fuel p P.mode sel = some w →
      sel = 0 ∨ sel = 1 → 67 ≤ p.p4.toNat → p.p4.toNat ≤ 4000000 → p.p4.toNat ≤ fuel →
      w.p0.toNat + 1 ≤ 2 ^ 21 := by
    intro p w sel hw hsel hlow hhigh hfuel
    obtain ⟨q, hq, hsize⟩ := ispWinParam_fits hmode hsel hlow hhigh hfuel
    rw [hw, Option.some.injEq] at hq
    rwa [hq]
  obtain ⟨p1, p3, hw0⟩ := h.vertical
  obtain ⟨_, _, hw6⟩ := h.horizontal
  obtain ⟨_, _, hw12⟩ := h.third
  refine ⟨?_, ?_, ?_⟩
  · exact hfits hw0 (.inl rfl) hdims.height_low hdims.height_high hdims.height_fuel
  · exact hfits hw6 (.inl rfl) hdims.width_low hdims.width_high hdims.width_fuel
  · have hp4 : ∀ p1 p3, ({ P.third with p1 := p1, p3 := p3 } : Win).p4 = P.third.p4 :=
      fun _ _ => rfl
    exact hfits hw12 (.inr rfl) (by rw [hp4]; omega) (by rw [hp4]; omega) (by rw [hp4]; omega)

/-- The registers of the two passes hold the fields of the windows searched for. -/
def PassesHeld (fuel : Nat) (width height : UInt32) (regs : Nat → UInt32) : Prop :=
  ∃ a a', PassDone fuel pass0 width height a ∧ PassDone fuel pass1 width height a' ∧
    FieldsHeld (regs 0x2b8) (regs 0x2bc) a ∧ FieldsHeld (regs 0x610) (regs 0x614) a'

/-- The writes of both passes keep the fields of windows that are not too large. -/
theorem ispSetNr3dDrcWin_fields {fuel : Nat} (hfuel : 32 ≤ fuel) {width height : UInt32}
    {l : List (Write Nat)} (h : ispSetNr3dDrcWin fuel width height = some l)
    (regs : Nat → UInt32) :
    ∃ a a', PassDone fuel pass0 width height a ∧ PassDone fuel pass1 width height a' ∧
      (SizesFit a → FieldsHeld (run regs l 0x2b8) (run regs l 0x2bc) a) ∧
      (SizesFit a' → FieldsHeld (run regs l 0x610) (run regs l 0x614) a') := by
  obtain ⟨a, a', hdone, hdone', rfl⟩ := ispSetNr3dDrcWin_done h
  have hheld : ∀ addr v,
      Write.plain addr v ∈ windowWrites a 0x2ac 0x2d0 ++ windowWrites a' 0x604 0x624 →
        run regs (windowWrites a 0x2ac 0x2d0 ++ windowWrites a' 0x604 0x624) addr = v :=
    fun _ _ hmem => run_of_mem_plain (windowWrites_distinct a a') hmem regs
  refine ⟨a, a', hdone, hdone', fun hsizes => ?_, fun hsizes => ?_⟩
  · rw [hheld 0x2b8 (reciprocalsWord a) (by simp [windowWrites, reciprocalsWord]),
      hheld 0x2bc (thirdWord a) (by simp [windowWrites, thirdWord])]
    exact hdone.fieldsHeld hfuel hsizes
  · rw [hheld 0x610 (reciprocalsWord a') (by simp [windowWrites, reciprocalsWord]),
      hheld 0x614 (thirdWord a') (by simp [windowWrites, thirdWord])]
    exact hdone'.fieldsHeld hfuel hsizes

/-- The reciprocal of every size up to `2 ^ 21` is the rounded one, `finish` and the
searches have it as their result, and both passes write their reciprocals and
logarithms to fields of their own. -/
theorem window_reciprocals (fuel : Nat) (hfuel : 32 ≤ fuel) :
    (∀ p : Win, p.p0.toNat + 1 ≤ 2 ^ 21 →
      ∃ q, winFinish fuel p (p.p0 + 1) = some q ∧ q.p0 = p.p0 ∧ Reciprocal q) ∧
    (∀ (p q : Win) (mode sel : Int), ispWinParam fuel p mode sel = some q →
      q.p0.toNat + 1 ≤ 2 ^ 21 → Reciprocal q) ∧
    (∀ (p : Win) (mode sel : Int), mode = 0 ∨ mode = 1 → sel = 0 ∨ sel = 1 →
      67 ≤ p.p4.toNat → p.p4.toNat ≤ 4000000 → p.p4.toNat ≤ fuel →
      ∃ q, ispWinParam fuel p mode sel = some q ∧ q.p0.toNat + 1 ≤ 2 ^ 21 ∧ Reciprocal q) ∧
    (∀ (width height : UInt32) (l : List (Write Nat)) (regs : Nat → UInt32),
      ispSetNr3dDrcWin fuel width height = some l →
      ∃ a a', PassDone fuel pass0 width height a ∧ PassDone fuel pass1 width height a' ∧
        (SizesFit a → FieldsHeld (run regs l 0x2b8) (run regs l 0x2bc) a) ∧
        (SizesFit a' → FieldsHeld (run regs l 0x610) (run regs l 0x614) a')) ∧
    ∀ (width height : UInt32) (regs : Nat → UInt32), Searchable fuel width height →
      ∃ l, ispSetNr3dDrcWin fuel width height = some l ∧
        PassesHeld fuel width height (run regs l) := by
  refine ⟨fun p hsize => winFinish_reciprocal hfuel hsize,
    fun p q mode sel h hsize => ispWinParam_reciprocal hfuel h hsize,
    fun p mode sel hmode hsel hlow hhigh hend => ?_,
    fun width height l regs h => ispSetNr3dDrcWin_fields hfuel h regs,
    fun width height regs hdims => ?_⟩
  · obtain ⟨q, hq, hsize⟩ := ispWinParam_fits hmode hsel hlow hhigh hend
    exact ⟨q, hq, hsize, ispWinParam_reciprocal hfuel hq hsize⟩
  · obtain ⟨l, hl⟩ := ispSetNr3dDrcWin_total hdims.width_low hdims.width_high hdims.height_low
      hdims.height_high hdims.width_fuel hdims.height_fuel hdims.third_fuel
    obtain ⟨a, a', hdone, hdone', hheld, hheld'⟩ := ispSetNr3dDrcWin_fields hfuel hl regs
    exact ⟨l, hl, a, a', hdone, hdone', hheld (hdone.sizesFit (.inl rfl) hdims),
      hheld' (hdone'.sizesFit (.inr rfl) hdims)⟩

/-- A size of 14, and the registers of a frame of 1920 by 1080. -/
theorem window_reciprocals_sample :
    (∃ q, winFinish 0x3000 ⟨13, 0, 15, 0, 200⟩ 14 = some q ∧ q.p0 = 13 ∧ Reciprocal q) ∧
      ∃ l, ispSetNr3dDrcWin 0x3000 1920 1080 = some l ∧
        PassesHeld 0x3000 1920 1080 (run (fun _ => 0) l) := by
  obtain ⟨hfinish, -, -, -, hframe⟩ := window_reciprocals 0x3000 (by decide)
  refine ⟨hfinish ⟨13, 0, 15, 0, 200⟩ (by decide), hframe 1920 1080 (fun _ => 0) ?_⟩
  exact ⟨by decide, by decide, by decide, by decide, by decide, by decide, Nat.le_refl _⟩

end Isp
end FH8852
