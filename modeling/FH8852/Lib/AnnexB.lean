import FH8852.CLib.Text
import Mathlib.Algebra.GroupWithZero.Nat

/-!
# NALs behind start codes

A byte stream of NALs, each behind a start code of three or four bytes.  A NAL that
contains no start code and does not end in a zero can be told from what follows.
-/

namespace FH8852
namespace AnnexB

open CLib

def startCode (long : Bool) : Bytes := if long then [0, 0, 0, 1] else [0, 0, 1]

/-- The stream of some NALs, each with whether its start code is the long one. -/
def stream (units : List (Bool × Bytes)) : Bytes := units.flatMap fun u => startCode u.1 ++ u.2

/-- The length of the start code that the bytes begin with, or 0. -/
def codeLength : Bytes → Nat
  | 0 :: 0 :: 1 :: _ => 3
  | 0 :: 0 :: 0 :: 1 :: _ => 4
  | _ => 0

/-- The rest of a NAL, from anywhere in it on. -/
structure Inside (s : Bytes) : Prop where
  noZeros : ¬ [0, 0, 0] <:+: s
  noCode : ¬ [0, 0, 1] <:+: s
  last : s.getLast? ≠ some 0

theorem codeLength_startCode (long : Bool) (s : Bytes) :
    codeLength (startCode long ++ s) = (startCode long).length := by
  cases long <;> rfl

/-- What a start code begins with. -/
theorem codeLength_prefix {s : Bytes} (h : codeLength s ≠ 0) :
    [0, 0, 1] <+: s ∨ [0, 0, 0] <+: s := by
  unfold codeLength at h
  split at h
  · exact .inl ⟨_, rfl⟩
  · exact .inr ⟨_, rfl⟩
  · exact absurd rfl h

theorem Inside.tail {x : UInt8} {s : Bytes} (h : Inside (x :: s)) : Inside s := by
  refine ⟨fun hz => h.noZeros (hz.trans (List.infix_cons List.infix_rfl)),
    fun hc => h.noCode (hc.trans (List.infix_cons List.infix_rfl)), fun hlast => h.last ?_⟩
  rw [List.getLast?_cons, hlast]
  rfl

/-- No start code begins inside a NAL, whatever follows it. -/
theorem codeLength_inside {x : UInt8} {s : Bytes} (h : Inside (x :: s)) (rest : Bytes) :
    codeLength (x :: s ++ rest) = 0 := by
  by_contra hne
  have hzeros : ∀ c : UInt8, [0, 0, c] <+: x :: s ++ rest → ¬ [0, 0, c] <:+: x :: s →
      (x :: s).getLast? = some 0 := by
    intro c hprefix hno
    have hshort : (x :: s).length < 3 := by
      by_contra hlong
      exact hno (List.prefix_of_prefix_length_le hprefix (List.prefix_append _ _)
        (Nat.le_of_not_lt hlong)).isInfix
    rcases s with _ | ⟨y, _ | ⟨z, s⟩⟩
    · exact congrArg some (List.cons_prefix_cons.mp hprefix).1.symm
    · exact congrArg some (List.cons_prefix_cons.mp (List.cons_prefix_cons.mp hprefix).2).1.symm
    · simp only [List.length_cons] at hshort
      omega
  rcases codeLength_prefix hne with hprefix | hprefix
  · exact h.last (hzeros 1 hprefix h.noCode)
  · exact h.last (hzeros 0 hprefix h.noZeros)

/-! ## Access units -/

def headerType (nal : Bytes) : UInt8 := nal.headD 0 &&& 0x1f

/-- A NAL of type 1 to 5, which ends an access unit. -/
def isSlice (nal : Bytes) : Bool := 1 ≤ headerType nal && headerType nal ≤ 5

structure AccessUnit where
  first : Nat
  count : Nat
deriving DecidableEq

variable {α : Type*}

def AccessUnit.run (nals : List α) (u : AccessUnit) : List α := (nals.drop u.first).take u.count

/-- Access units that follow each other from the first NAL on, each ending in its
only slice, up to the last slice. -/
structure Grouped (slice : α → Bool) (nals : List α) (aus : List AccessUnit) : Prop where
  first : ∀ before u after, aus = before ++ u :: after → u.first = (before.map AccessUnit.count).sum
  cover : ∃ rest, nals = (aus.map (AccessUnit.run nals)).flatten ++ rest ∧
    ∀ n ∈ rest, slice n = false
  ends : ∀ u ∈ aus, ∃ before last, AccessUnit.run nals u = before ++ [last] ∧ slice last = true ∧
    ∀ n ∈ before, slice n = false

/-- Where the grouping stands after `k` NALs, the next access unit from `start` on. -/
structure Grouping (slice : α → Bool) (nals : List α) (k start : Nat) (aus : List AccessUnit) :
    Prop where
  first : ∀ before u after, aus = before ++ u :: after → u.first = (before.map AccessUnit.count).sum
  sum : (aus.map AccessUnit.count).sum = start
  le : start ≤ k
  cover : (aus.map (AccessUnit.run nals)).flatten = nals.take start
  tail : ∀ n ∈ (nals.take k).drop start, slice n = false
  ends : ∀ u ∈ aus, ∃ before last, AccessUnit.run nals u = before ++ [last] ∧ slice last = true ∧
    ∀ n ∈ before, slice n = false

section Grouping

variable {slice : α → Bool} {nals : List α} {k start : Nat} {aus : List AccessUnit} {x : α}

theorem Grouping.nil (slice : α → Bool) (nals : List α) : Grouping slice nals 0 0 [] where
  first before u after h := by
    have hlen := congrArg List.length h
    simp at hlen
  sum := rfl
  le := Nat.le_refl 0
  cover := rfl
  tail _ h := absurd h List.not_mem_nil
  ends _ h := absurd h List.not_mem_nil

theorem take_succ_drop (hx : nals[k]? = some x) (hle : start ≤ k) :
    (nals.take (k + 1)).drop start = (nals.take k).drop start ++ [x] := by
  obtain ⟨hlt, -⟩ := List.getElem?_eq_some_iff.mp hx
  have hlen : start ≤ (nals.take k).length := by
    rw [List.length_take]
    omega
  rw [List.take_add_one, hx, Option.toList_some, List.drop_append_of_le_length hlen]

theorem Grouping.skip (h : Grouping slice nals k start aus) (hx : nals[k]? = some x)
    (hslice : slice x = false) : Grouping slice nals (k + 1) start aus where
  first := h.first
  sum := h.sum
  le := Nat.le_succ_of_le h.le
  cover := h.cover
  tail := by
    rw [take_succ_drop hx h.le]
    exact List.forall_mem_append.mpr ⟨h.tail, List.forall_mem_singleton.mpr hslice⟩
  ends := h.ends

/-- The slice at `k` ends the access unit. -/
theorem Grouping.close (h : Grouping slice nals k start aus) (hx : nals[k]? = some x)
    (hslice : slice x = true) :
    Grouping slice nals (k + 1) (k + 1) (aus ++ [⟨start, k - start + 1⟩]) := by
  have hle := h.le
  have hrun : AccessUnit.run nals ⟨start, k - start + 1⟩ = (nals.take k).drop start ++ [x] := by
    rw [← take_succ_drop hx hle, List.drop_take, Nat.sub_add_comm hle]
    rfl
  refine ⟨fun before u after heq => ?_, ?_, Nat.le_refl _, ?_, ?_, ?_⟩
  · rcases List.eq_nil_or_concat after with rfl | ⟨after, v, rfl⟩
    · obtain ⟨hbefore, hu⟩ := List.append_inj' heq rfl
      rw [← hbefore, h.sum, ← (List.cons.inj hu).1]
    · rw [List.concat_eq_append, ← List.cons_append, ← List.append_assoc] at heq
      exact h.first before u after (List.append_inj' heq rfl).1
  · rw [List.map_append, List.sum_append, h.sum]
    show start + (k - start + 1 + 0) = k + 1
    omega
  · have hmin : min start (k + 1) = start := by omega
    rw [List.map_append, List.flatten_append, h.cover, List.map_singleton, List.flatten_singleton,
      hrun, ← take_succ_drop hx hle]
    refine Eq.trans ?_ (List.take_append_drop start (nals.take (k + 1)))
    rw [List.take_take, hmin]
  · intro n hn
    rw [List.drop_of_length_le (by rw [List.length_take]; omega)] at hn
    exact absurd hn List.not_mem_nil
  · refine List.forall_mem_append.mpr ⟨h.ends, List.forall_mem_singleton.mpr ?_⟩
    exact ⟨_, x, hrun, hslice, h.tail⟩

theorem Grouping.grouped (h : Grouping slice nals nals.length start aus) :
    Grouped slice nals aus := by
  have htail := h.tail
  rw [List.take_length] at htail
  exact ⟨h.first, ⟨_, by rw [h.cover, List.take_append_drop], htail⟩, h.ends⟩

end Grouping

end AnnexB
end FH8852
