import FH8852.Isp.WinParam
import FH8852.Lib.Masked

/-!
# The statistics windows of a frame

`isp_set_stat_param` sets up three windows from presets, and
`isp_set_nr3d_drc_win` writes the first two of each of its two passes to
registers.
-/

namespace FH8852
namespace Isp

open Masked

/-- The array of `isp_set_stat_param`: three windows of five words each, and the
words between and behind them. -/
structure StatArray where
  w0 : Win
  a5 : UInt32
  w6 : Win
  a11 : UInt32
  w12 : Win
  a17 : UInt32
  a18 : UInt32
  a19 : UInt32
  a20 : UInt32

/-- The array with the presets of its mode, with `preset_a` and `preset_b`. -/
def statPresets (a : StatArray) : StatArray × UInt32 × UInt32 :=
  let mode := a.a20 &&& 0xff
  if mode = 0 then
    ({ a with
        w0 := { a.w0 with p2 := 0xe }
        w6 := { a.w6 with p2 := 0x18 }
        w12 := { a.w12 with p2 := 6, p4 := 0x400, p0 := 0xcb } }, 0xd, 0x17)
  else if mode = 1 then
    ({ a with
        w0 := { a.w0 with p2 := 9 }
        w6 := { a.w6 with p2 := 0x10 }
        w12 := { a.w12 with p2 := 8, p0 := 0x6da, p4 := 0x3000 } }, 8, 0xf)
  else
    let presetA := a.w0.p2 - 1
    let presetB := a.w6.p2 - 1
    (a, if presetA = 0 then 1 else presetA, if presetB = 0 then 1 else presetB)

def ispSetStatParam (fuel : Nat) (a : StatArray) : Option StatArray := do
  let mode := asInt (a.a20 &&& 0xff)
  let preset := statPresets a
  let a := preset.1
  let a := { a with w0 := { a.w0 with p4 := a.a18 } }
  let a := { a with w6 := { a.w6 with p4 := a.a19 } }
  let a := { a with a17 := 1 }
  let q6 ← divU (a.a19 - 1) preset.2.2
  let a := { a with w6 := { a.w6 with p0 := q6 - 1 } }
  let q0 ← divU (a.a18 - 1) preset.2.1
  let a := { a with w0 := { a.w0 with p0 := q0 - 1 } }
  let a := { a with a5 := 0, a11 := 0 }
  let w0 ← ispWinParam fuel a.w0 mode 0
  let a := { a with w0 := w0 }
  let w6 ← ispWinParam fuel a.w6 mode (asInt a.a11)
  let a := { a with w6 := w6 }
  let w12 ← ispWinParam fuel a.w12 mode (asInt a.a17)
  some { a with w12 := w12 }

def zeroWin : Win := ⟨0, 0, 0, 0, 0⟩

/-- The registers of a pass, from the counts on: the first five in a row, and the
three that repeat the counts and the sizes. -/
def windowWrites (a : StatArray) (first second : Nat) : List (Write Nat) :=
  [.plain first ((a.w12.p2 <<< 16) ||| (a.w6.p2 <<< 8) ||| a.w0.p2),
    .plain (first + 4) (a.w0.p0 ||| (a.w6.p0 <<< 16)),
    .plain (first + 8) a.w12.p0,
    .plain (first + 12) ((a.w6.p1 <<< 16) ||| (a.w0.p3 <<< 10) ||| a.w0.p1 ||| (a.w6.p3 <<< 26)),
    .plain (first + 16) (a.w12.p1 ||| (a.w12.p3 <<< 10)),
    .plain second ((a.w12.p2 <<< 16) ||| (a.w6.p2 <<< 8) ||| a.w0.p2),
    .plain (second + 4) (a.w0.p0 ||| (a.w6.p0 <<< 16)),
    .plain (second + 8) a.w12.p0]

/-- The writes of `isp_set_nr3d_drc_win`. -/
def ispSetNr3dDrcWin (fuel : Nat) (width height : UInt32) : Option (List (Write Nat)) := do
  let a : StatArray :=
    { w0 := zeroWin, a5 := 0, w6 := zeroWin, a11 := 0, w12 := zeroWin, a17 := 0
      a18 := height, a19 := width, a20 := 0 }
  let a ← ispSetStatParam fuel a
  let first := windowWrites a 0x2ac 0x2d0
  let a := { a with a20 := 1 }
  let a ← ispSetStatParam fuel a
  some (first ++ windowWrites a 0x604 0x624)

/-! ## The fields of the registers -/

/-- A word below `2 ^ k` or'ed to one shifted up by `k` is added to it. -/
theorem join_toNat {x y k : UInt32} (hk : k.toNat < 32) (hy : y.toNat < 2 ^ k.toNat) :
    (x <<< k ||| y).toNat = x.toNat % 2 ^ (32 - k.toNat) * 2 ^ k.toNat + y.toNat := by
  have hsplit : 2 ^ 32 = 2 ^ (32 - k.toNat) * 2 ^ k.toNat := by
    rw [← Nat.pow_add]
    congr 1
    omega
  have hshift : (x <<< k).toNat = (x.toNat % 2 ^ (32 - k.toNat)) <<< k.toNat := by
    rw [UInt32.toNat_shiftLeft, Nat.mod_eq_of_lt hk, Nat.shiftLeft_eq, Nat.shiftLeft_eq, hsplit,
      Nat.mul_mod_mul_right]
  rw [UInt32.toNat_or, hshift, ← Nat.shiftLeft_add_eq_or_of_lt hy, Nat.shiftLeft_eq]

theorem windowWrites_distinct (a a' : StatArray) :
    ((windowWrites a 0x2ac 0x2d0 ++ windowWrites a' 0x604 0x624).map Write.addr).Nodup := by
  show [0x2ac, 0x2b0, 0x2b4, 0x2b8, 0x2bc, 0x2d0, 0x2d4, 0x2d8, 0x604, 0x608, 0x60c, 0x610, 0x614,
    0x624, 0x628, 0x62c].Nodup
  decide

/-! ## The two passes -/

/-- What a mode presets. -/
structure Pass where
  code : UInt32
  divV : UInt32
  divH : UInt32
  countV : UInt32
  countH : UInt32
  third : Win

def pass0 : Pass :=
  { code := 0, divV := 0xd, divH := 0x17, countV := 0xe, countH := 0x18
    third := ⟨0xcb, 0, 6, 0, 0x400⟩ }

def pass1 : Pass :=
  { code := 1, divV := 8, divH := 0xf, countV := 9, countH := 0x10
    third := ⟨0x6da, 0, 8, 0, 0x3000⟩ }

def Pass.mode (P : Pass) : Int := asInt P.code

/-- A window as it is before its search. -/
def presetWin (div count d p1 p3 : UInt32) : Win := ⟨(d - 1) / div - 1, p1, count, p3, d⟩

theorem statPresets_eq {P : Pass} (hP : P = pass0 ∨ P = pass1) (a : StatArray) :
    statPresets { a with a20 := P.code } =
      ({ a with
        w0 := { a.w0 with p2 := P.countV }
        w6 := { a.w6 with p2 := P.countH }
        w12 := { a.w12 with p2 := P.third.p2, p4 := P.third.p4, p0 := P.third.p0 }
        a20 := P.code }, P.divV, P.divH) := by
  rcases hP with rfl | rfl
  · have hmode : (0 : UInt32) &&& 0xff = 0 := by decide
    exact if_pos hmode
  · have hne : ¬ (1 : UInt32) &&& 0xff = 0 := by decide
    have hmode : (1 : UInt32) &&& 0xff = 1 := by decide
    exact (if_neg hne).trans (if_pos hmode)

/-- A pass searches for its three windows one after the other. -/
theorem ispSetStatParam_eq {P : Pass} (hP : P = pass0 ∨ P = pass1) (fuel : Nat) (a : StatArray) :
    ispSetStatParam fuel { a with a20 := P.code } =
      (ispWinParam fuel (presetWin P.divV P.countV a.a18 a.w0.p1 a.w0.p3) P.mode 0).bind fun w0 =>
      (ispWinParam fuel (presetWin P.divH P.countH a.a19 a.w6.p1 a.w6.p3) P.mode 0).bind fun w6 =>
      (ispWinParam fuel { P.third with p1 := a.w12.p1, p3 := a.w12.p3 } P.mode 1).bind fun w12 =>
        some { a with
          w0 := w0, a5 := 0, w6 := w6, a11 := 0, w12 := w12, a17 := 1, a20 := P.code } := by
  have hdivV : P.divV.toNat ≠ 0 := by rcases hP with rfl | rfl <;> decide
  have hdivH : P.divH.toNat ≠ 0 := by rcases hP with rfl | rfl <;> decide
  have hmode : asInt (P.code &&& 0xff) = P.mode := by rcases hP with rfl | rfl <;> decide
  have hzero : asInt 0 = 0 := by decide
  have hone : asInt 1 = 1 := by decide
  unfold ispSetStatParam
  simp only [statPresets_eq hP, hmode, divU_some hdivV, divU_some hdivH, Option.bind_eq_bind,
    Option.bind_some, hzero, hone]
  rfl

/-- The searches of a pass, from windows whose other words are whatever they were. -/
structure PassDone (fuel : Nat) (P : Pass) (width height : UInt32) (a : StatArray) : Prop where
  vertical : ∃ p1 p3, ispWinParam fuel (presetWin P.divV P.countV height p1 p3) P.mode 0 = some a.w0
  horizontal : ∃ p1 p3, ispWinParam fuel (presetWin P.divH P.countH width p1 p3) P.mode 0 =
    some a.w6
  third : ∃ p1 p3, ispWinParam fuel { P.third with p1 := p1, p3 := p3 } P.mode 1 = some a.w12

section Passes

variable {fuel : Nat} {P : Pass} (hP : P = pass0 ∨ P = pass1) {width height : UInt32}

include hP

theorem ispSetStatParam_done {a a' : StatArray} (hheight : a.a18 = height) (hwidth : a.a19 = width)
    (h : ispSetStatParam fuel { a with a20 := P.code } = some a') :
    PassDone fuel P width height a' ∧ a'.a18 = height ∧ a'.a19 = width := by
  subst hheight hwidth
  rw [ispSetStatParam_eq hP] at h
  obtain ⟨w0, h0, h⟩ := Option.bind_eq_some_iff.mp h
  obtain ⟨w6, h6, h⟩ := Option.bind_eq_some_iff.mp h
  obtain ⟨w12, h12, h⟩ := Option.bind_eq_some_iff.mp h
  cases h
  exact ⟨⟨⟨_, _, h0⟩, ⟨_, _, h6⟩, ⟨_, _, h12⟩⟩, rfl, rfl⟩

theorem ispSetStatParam_exists {a : StatArray}
    (hvertical : ∀ p1 p3,
      ∃ w, ispWinParam fuel (presetWin P.divV P.countV a.a18 p1 p3) P.mode 0 = some w)
    (hhorizontal : ∀ p1 p3,
      ∃ w, ispWinParam fuel (presetWin P.divH P.countH a.a19 p1 p3) P.mode 0 = some w)
    (hthird : ∀ p1 p3, ∃ w,
      ispWinParam fuel { P.third with p1 := p1, p3 := p3 } P.mode 1 = some w) :
    ∃ a', ispSetStatParam fuel { a with a20 := P.code } = some a' := by
  obtain ⟨w0, h0⟩ := hvertical a.w0.p1 a.w0.p3
  obtain ⟨w6, h6⟩ := hhorizontal a.w6.p1 a.w6.p3
  obtain ⟨w12, h12⟩ := hthird a.w12.p1 a.w12.p3
  rw [ispSetStatParam_eq hP, h0, h6, h12]
  exact ⟨_, rfl⟩

end Passes

/-- The writes come from the two passes. -/
theorem ispSetNr3dDrcWin_done {fuel : Nat} {width height : UInt32} {l : List (Write Nat)}
    (h : ispSetNr3dDrcWin fuel width height = some l) :
    ∃ a a', PassDone fuel pass0 width height a ∧ PassDone fuel pass1 width height a' ∧
      l = windowWrites a 0x2ac 0x2d0 ++ windowWrites a' 0x604 0x624 := by
  obtain ⟨a, ha, h⟩ := Option.bind_eq_some_iff.mp h
  obtain ⟨a', ha', h⟩ := Option.bind_eq_some_iff.mp h
  cases h
  obtain ⟨hdone, hheight, hwidth⟩ := @ispSetStatParam_done fuel pass0 (.inl rfl) width height
    ⟨zeroWin, 0, zeroWin, 0, zeroWin, 0, height, width, 0⟩ a rfl rfl ha
  obtain ⟨hdone', -, -⟩ := @ispSetStatParam_done fuel pass1 (.inr rfl) width height a a' hheight
    hwidth ha'
  exact ⟨a, a', hdone, hdone', rfl⟩

theorem ispSetNr3dDrcWin_exists {fuel : Nat} {width height : UInt32}
    (hvertical : ∀ P, P = pass0 ∨ P = pass1 → ∀ p1 p3,
      ∃ w, ispWinParam fuel (presetWin P.divV P.countV height p1 p3) P.mode 0 = some w)
    (hhorizontal : ∀ P, P = pass0 ∨ P = pass1 → ∀ p1 p3,
      ∃ w, ispWinParam fuel (presetWin P.divH P.countH width p1 p3) P.mode 0 = some w)
    (hthird : ∀ P, P = pass0 ∨ P = pass1 → ∀ p1 p3,
      ∃ w, ispWinParam fuel { P.third with p1 := p1, p3 := p3 } P.mode 1 = some w) :
    ∃ l, ispSetNr3dDrcWin fuel width height = some l := by
  have h0 : pass0 = pass0 ∨ pass0 = pass1 := .inl rfl
  have h1 : pass1 = pass0 ∨ pass1 = pass1 := .inr rfl
  obtain ⟨a, ha⟩ := @ispSetStatParam_exists fuel pass0 h0
    ⟨zeroWin, 0, zeroWin, 0, zeroWin, 0, height, width, 0⟩ (hvertical _ h0) (hhorizontal _ h0)
    (hthird _ h0)
  obtain ⟨-, hheight, hwidth⟩ := ispSetStatParam_done h0 rfl rfl ha
  obtain ⟨a', ha'⟩ := @ispSetStatParam_exists fuel pass1 h1 a
    (by rw [hheight]; exact hvertical _ h1) (by rw [hwidth]; exact hhorizontal _ h1) (hthird _ h1)
  refine ⟨_, Option.bind_eq_some_iff.mpr ⟨a, ha, Option.bind_eq_some_iff.mpr ⟨a', ha', rfl⟩⟩⟩

/-- For a frame that is not too small all the searches end. -/
theorem ispSetNr3dDrcWin_total {fuel : Nat} {width height : UInt32} (hwlow : 67 ≤ width.toNat)
    (hwhigh : width.toNat ≤ 4000000) (hhlow : 67 ≤ height.toNat) (hhhigh : height.toNat ≤ 4000000)
    (hwfuel : width.toNat ≤ fuel) (hhfuel : height.toNat ≤ fuel) (hfuel : 0x3000 ≤ fuel) :
    ∃ l, ispSetNr3dDrcWin fuel width height = some l := by
  have hmode : ∀ P, P = pass0 ∨ P = pass1 → P.mode = 0 ∨ P.mode = 1 := by
    rintro P (rfl | rfl)
    · exact .inl (by decide)
    · exact .inr (by decide)
  refine ispSetNr3dDrcWin_exists (fun P hP p1 p3 => ?_) (fun P hP p1 p3 => ?_) fun P hP p1 p3 => ?_
  · obtain ⟨q, hq, -⟩ :=
      @ispWinParam_searched fuel (presetWin P.divV P.countV height p1 p3) P.mode 0
      (hmode P hP) (.inl rfl) hhlow hhhigh hhfuel
    exact ⟨q, hq⟩
  · obtain ⟨q, hq, -⟩ := @ispWinParam_searched fuel (presetWin P.divH P.countH width p1 p3) P.mode 0
      (hmode P hP) (.inl rfl) hwlow hwhigh hwfuel
    exact ⟨q, hq⟩
  · have hthird : P.third.p4.toNat = 0x400 ∨ P.third.p4.toNat = 0x3000 := by
      rcases hP with rfl | rfl
      · exact .inl rfl
      · exact .inr rfl
    have hp4 : ({ P.third with p1 := p1, p3 := p3 } : Win).p4 = P.third.p4 := rfl
    obtain ⟨q, hq, -⟩ := @ispWinParam_searched fuel { P.third with p1 := p1, p3 := p3 } P.mode 1
      (hmode P hP) (.inr rfl) (by rw [hp4]; omega) (by rw [hp4]; omega) (by rw [hp4]; omega)
    exact ⟨q, hq⟩

end Isp
end FH8852
