import Mathlib.Algebra.Order.Group.Nat
import Mathlib.Data.List.Pairwise
import Mathlib.Tactic.Ring

/-!
# Bump allocation

An allocator that hands out a stretch of memory from the bottom up.  Each region
starts at the first multiple of its alignment that is free, so the regions are
in order, and a list of sizes fits when its rounded sum does.
-/

namespace FH8852
namespace Bump

structure Region where
  start : Nat
  size : Nat

def Region.Disjoint (r r' : Region) : Prop :=
  r.start + r.size ≤ r'.start ∨ r'.start + r'.size ≤ r.start

theorem Region.Disjoint.symm {r r' : Region} (h : r.Disjoint r') : r'.Disjoint r := Or.symm h

/-! ## Rounding up -/

/-- The first multiple of `align` from `x` on. -/
def roundUp (align x : Nat) : Nat := (x + (align - 1)) / align * align

section RoundUp

variable {align : Nat} (halign : 0 < align)

include halign

theorem roundUp_bounds (x : Nat) : x ≤ roundUp align x ∧ roundUp align x < x + align := by
  have hmod := Nat.mod_lt (x + (align - 1)) halign
  have hsplit := Nat.div_add_mod' (x + (align - 1)) align
  unfold roundUp
  omega

/-- What a multiple of the alignment comes in front of is rounded on its own. -/
theorem roundUp_add_of_dvd {start : Nat} (hstart : align ∣ start) (x : Nat) :
    roundUp align (start + x) = start + roundUp align x := by
  obtain ⟨k, rfl⟩ := hstart
  have hsum : align * k + x + (align - 1) = x + (align - 1) + align * k := by ring
  unfold roundUp
  rw [hsum, Nat.add_mul_div_left _ _ halign]
  ring

end RoundUp

theorem dvd_roundUp (align x : Nat) : align ∣ roundUp align x := Nat.dvd_mul_left align _

theorem roundUp_zero (align : Nat) : roundUp align 0 = 0 := by
  unfold roundUp
  rw [Nat.zero_add]
  rcases Nat.eq_zero_or_pos align with rfl | halign
  · rfl
  · rw [Nat.div_eq_of_lt (by omega), Nat.zero_mul]

/-! ## The allocator -/

/-- The regions handed out of the stretch from `base`, with the memory free from
`next` to `limit`. -/
structure Packed (base limit next : Nat) (regions : List Region) : Prop where
  base_le : base ≤ next
  next_le : next ≤ limit
  within : ∀ r ∈ regions, base ≤ r.start ∧ r.start + r.size ≤ next
  ordered : regions.Pairwise fun r r' => r.start + r.size ≤ r'.start
  /-- A stretch that starts at 0 is handed out from 0 on. -/
  first : base = 0 → next ≠ 0 → ∃ r ∈ regions, r.start = 0 ∧ 0 < r.size

variable {base limit next : Nat} {regions : List Region}

theorem Packed.empty (h : base ≤ limit) : Packed base limit base [] where
  base_le := Nat.le_refl base
  next_le := h
  within := nofun
  ordered := .nil
  first := fun hbase hnext => absurd hbase hnext

theorem Packed.alloc (h : Packed base limit next regions) {align size : Nat} (halign : 0 < align)
    (hsize : 0 < size) (hfits : roundUp align next + size ≤ limit) :
    Packed base limit (roundUp align next + size)
      (regions ++ [⟨roundUp align next, size⟩]) where
  base_le := by
    have hbounds := roundUp_bounds halign next
    have hbase := h.base_le
    omega
  next_le := hfits
  within := by
    have hbounds := roundUp_bounds halign next
    have hbase := h.base_le
    refine List.forall_mem_append.mpr ⟨fun r hr => ?_, List.forall_mem_singleton.mpr ?_⟩
    · have hin := h.within r hr
      omega
    · show base ≤ roundUp align next ∧ roundUp align next + size ≤ _
      omega
  ordered := by
    have hbounds := roundUp_bounds halign next
    refine List.pairwise_append.mpr ⟨h.ordered, List.pairwise_singleton _ _, fun r hr r' hr' => ?_⟩
    have hin := h.within r hr
    rw [List.mem_singleton.mp hr']
    show r.start + r.size ≤ roundUp align next
    omega
  first := by
    intro hbase _
    by_cases hnext : next = 0
    · refine ⟨_, List.mem_append_right _ List.mem_cons_self, ?_, hsize⟩
      show roundUp align next = 0
      rw [hnext, roundUp_zero]
    · obtain ⟨r, hr, hstart⟩ := h.first hbase hnext
      exact ⟨r, List.mem_append_left _ hr, hstart⟩

theorem Packed.disjoint_of_next_le (h : Packed base limit next regions) {r : Region}
    (hr : next ≤ r.start) : ∀ r' ∈ regions, r'.Disjoint r := by
  intro r' hr'
  have hin := h.within r' hr'
  exact .inl (by omega)

/-! ## Sizes that fit -/

/-- The sizes, each rounded up, fit behind `next`. -/
def Fits (align limit next : Nat) (sizes : List Nat) : Prop :=
  roundUp align next + (sizes.map (roundUp align)).sum ≤ limit

theorem Fits.head {align size : Nat} {sizes : List Nat} (halign : 0 < align)
    (h : Fits align limit next (size :: sizes)) : roundUp align next + size ≤ limit := by
  have hbounds := roundUp_bounds halign size
  rw [Fits, List.map_cons, List.sum_cons] at h
  omega

theorem Fits.tail {align size : Nat} {sizes : List Nat} (halign : 0 < align)
    (h : Fits align limit next (size :: sizes)) :
    Fits align limit (roundUp align next + size) sizes := by
  rw [Fits, List.map_cons, List.sum_cons] at h
  rw [Fits, roundUp_add_of_dvd halign (dvd_roundUp align next)]
  omega

/-- An empty size takes no room. -/
theorem Fits.skip {align : Nat} {sizes : List Nat} (h : Fits align limit next (0 :: sizes)) :
    Fits align limit next sizes := by
  rw [Fits, List.map_cons, List.sum_cons, roundUp_zero, Nat.zero_add] at h
  exact h

end Bump
end FH8852
