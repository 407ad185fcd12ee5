import Mathlib.Data.Nat.ModEq
import Mathlib.Order.Bounds.Basic

/-!
# Searching downwards

A search that starts from the top of a range and goes down in steps, until a
candidate passes the test or the range is left.
-/

namespace FH8852
namespace Search

/-- The search from `top` down to `low` ends at `r`. -/
structure Ends (p : Nat → Prop) (step low top r : Nat) : Prop where
  le_top : r ≤ top
  modEq : r ≡ top [MOD step]
  skipped : ∀ c, r < c → c ≤ top → c ≡ top [MOD step] → low ≤ c ∧ ¬ p c
  stop : low ≤ r → p r

variable {p : Nat → Prop} {step low top r : Nat}

theorem Ends.here (h : low ≤ top → p top) : Ends p step low top top where
  le_top := Nat.le_refl top
  modEq := rfl
  skipped _ hc htop := absurd htop (Nat.not_le_of_lt hc)
  stop := h

theorem Ends.next (hlow : low ≤ top) (hp : ¬ p top) (hstep : step ≤ top)
    (h : Ends p step low (top - step) r) : Ends p step low top r := by
  have hmod : top - step ≡ top [MOD step] := by
    have hself : top - step + step ≡ top - step [MOD step] := Nat.add_mod_right _ _
    rw [Nat.sub_add_cancel hstep] at hself
    exact hself.symm
  have hle := h.le_top
  refine ⟨by omega, h.modEq.trans hmod, fun c hc htop hcmod => ?_, h.stop⟩
  rcases Nat.eq_or_lt_of_le htop with rfl | hlt
  · exact ⟨hlow, hp⟩
  · -- a candidate below `top` is a step or more below it
    have hdvd := (Nat.modEq_iff_dvd' htop).mp hcmod
    have hgap := Nat.le_of_dvd (by omega) hdvd
    exact h.skipped c hc (by omega) (hcmod.trans hmod.symm)

/-- A search that ends in the range has found the largest candidate that passes. -/
theorem Ends.isGreatest (h : Ends p step low top r) (hr : low ≤ r) :
    IsGreatest {c | low ≤ c ∧ c ≤ top ∧ c ≡ top [MOD step] ∧ p c} r := by
  refine ⟨⟨hr, h.le_top, h.modEq, h.stop hr⟩, fun c hc => ?_⟩
  obtain ⟨-, htop, hmod, hp⟩ := hc
  by_contra hlt
  exact (h.skipped c (Nat.lt_of_not_le hlt) htop hmod).2 hp

/-- A search that leaves the range has found none, and ends at the first candidate
below it. -/
theorem Ends.none (h : Ends p step low top r) (hr : r < low) (htop : low ≤ top) :
    (∀ c, low ≤ c → c ≤ top → c ≡ top [MOD step] → ¬ p c) ∧
      IsGreatest {c | c < low ∧ c ≡ top [MOD step]} r := by
  refine ⟨fun c hlow hle hmod => (h.skipped c (by omega) hle hmod).2, ⟨hr, h.modEq⟩, fun c hc => ?_⟩
  obtain ⟨hclow, hmod⟩ := hc
  by_contra hlt
  have hin := (h.skipped c (Nat.lt_of_not_le hlt) (by omega) hmod).1
  omega

/-! ## Neighbouring values -/

section Brackets

variable {α : Type*} [LinearOrder α] {f : Nat → α} {g g' : α} {n i j : Nat}

/-- `g` lies between the values at `i` and at the place after it. -/
def Brackets (f : Nat → α) (g : α) (i : Nat) : Prop := f i ≤ g ∧ g ≤ f (i + 1)

theorem exists_brackets (h0 : f 0 ≤ g) (hn : g ≤ f (n + 1)) : ∃ i ≤ n, Brackets f g i := by
  induction n with
  | zero => exact ⟨0, Nat.le_refl 0, h0, hn⟩
  | succ n ih =>
      rcases le_total g (f (n + 1)) with hle | hge
      · obtain ⟨i, hi, hbrackets⟩ := ih hle
        exact ⟨i, Nat.le_succ_of_le hi, hbrackets⟩
      · exact ⟨n + 1, Nat.le_refl _, hge, hn⟩

/-- The first place for a smaller value is no later, whether the values ascend or
not. -/
theorem le_of_brackets (h0 : f 0 ≤ g) (hle : g ≤ g')
    (hi : IsLeast {i | i < n ∧ Brackets f g i} i) (hj : j < n) (hg' : Brackets f g' j) : i ≤ j := by
  obtain ⟨k, hk, hg⟩ := exists_brackets h0 (hle.trans hg'.2)
  exact (hi.2 ⟨hk.trans_lt hj, hg⟩).trans hk

end Brackets

end Search
end FH8852
