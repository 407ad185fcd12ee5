import Mathlib.Algebra.Order.Group.Nat
import Mathlib.Data.List.Basic
import Mathlib.Tactic.Ring

/-!
# Pacing

A pacer waits for a deadline before it lets something through, and moves the
deadline on by an interval each time.  How much it lets through in a stretch of
time depends on two things alone: how far apart the deadlines are, and how late
after its deadline something may come.
-/

namespace FH8852
namespace Pace

/-- Something let through: the deadline it waited for, and when it came. -/
structure Grant where
  deadline : Nat
  time : Nat

/-- The deadlines of successive grants are at least an interval apart. -/
def Spaced (interval : Nat) (grants : List Grant) : Prop :=
  grants.Pairwise fun g g' => g.deadline + interval ≤ g'.deadline

/-- The grant is not early, and less than `n` intervals late. -/
def Prompt (interval n : Nat) (g : Grant) : Prop :=
  g.deadline ≤ g.time ∧ g.time < g.deadline + n * interval

/-- How many of the times are in the stretch of length `len` from `start`. -/
def countWithin (start len : Nat) (times : List Nat) : Nat :=
  times.countP fun t => decide (start ≤ t ∧ t ≤ start + len)

variable {interval n : Nat}

/-- Every grant is as many intervals after the first as there are grants between. -/
theorem Spaced.deadline_le {g : Grant} {grants : List Grant} (h : Spaced interval (g :: grants)) :
    g.deadline + grants.length * interval ≤ (grants.getLastD g).deadline := by
  induction grants generalizing g with
  | nil =>
      rw [List.length_nil, Nat.zero_mul]
      exact Nat.le_refl _
  | cons g' grants ih =>
      obtain ⟨hfirst, hrest⟩ := List.pairwise_cons.mp h
      have hstep := hfirst g' List.mem_cons_self
      have hlast := ih hrest
      have hlength : (g' :: grants).length * interval = grants.length * interval + interval := by
        rw [List.length_cons]
        ring
      have hend : (g' :: grants).getLastD g = grants.getLastD g' := by
        cases grants <;> rfl
      rw [hlength, hend]
      omega

theorem length_le {start count : Nat} {grants : List Grant} (hspaced : Spaced interval grants)
    (hprompt : ∀ g ∈ grants, Prompt interval n g)
    (hwithin : ∀ g ∈ grants, start ≤ g.time ∧ g.time ≤ start + count * interval) :
    grants.length ≤ count + n := by
  cases grants with
  | nil => exact Nat.zero_le _
  | cons g grants =>
      have hmem : grants.getLastD g ∈ g :: grants := by
        cases grants with
        | nil => exact List.mem_cons_self
        | cons g' grants =>
            exact List.mem_cons_of_mem g (List.getLast_mem (List.cons_ne_nil g' grants))
      have hdeadlines := hspaced.deadline_le
      have hfirst := (hprompt g List.mem_cons_self).2
      have hlast := (hprompt _ hmem).1
      have hstart := (hwithin g List.mem_cons_self).1
      have hend := (hwithin _ hmem).2
      have hlt : grants.length * interval < (count + n) * interval := by
        rw [Nat.add_mul]
        omega
      exact Nat.lt_of_mul_lt_mul_right hlt

/-- In a stretch of `count` intervals at most `count + n` grants come, where each
is less than `n` intervals late. -/
theorem countWithin_le {grants : List Grant} (hspaced : Spaced interval grants)
    (hprompt : ∀ g ∈ grants, Prompt interval n g) (start count : Nat) :
    countWithin start (count * interval) (grants.map Grant.time) ≤ count + n := by
  rw [countWithin, List.countP_map, List.countP_eq_length_filter]
  have hwithin : ∀ g ∈ grants.filter ((fun t => decide (start ≤ t ∧ t ≤ start + count * interval)) ∘
      Grant.time), start ≤ g.time ∧ g.time ≤ start + count * interval :=
    fun g hg => of_decide_eq_true (List.mem_filter.mp hg).2
  exact length_le (List.Pairwise.filter _ hspaced)
    (fun g hg => hprompt g (List.mem_filter.mp hg).1) hwithin

end Pace
end FH8852
