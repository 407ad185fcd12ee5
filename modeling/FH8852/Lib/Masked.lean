import Mathlib.Data.List.Induction
import Mathlib.Logic.Function.Basic

/-!
# Masked writes

A program of writes to 32-bit registers.  Each write keeps some bits of what its
register holds and sets others, so what the whole program does to a register is
one such write too, and running it again changes nothing.
-/

namespace FH8852
namespace Masked

structure Write (α : Type*) where
  addr : α
  /-- The bits of the register that stay as they are. -/
  keep : UInt32
  value : UInt32
deriving DecidableEq

variable {α : Type*}

/-- A write of a whole word. -/
def Write.plain (addr : α) (value : UInt32) : Write α := ⟨addr, 0, value⟩

def Write.apply (w : Write α) (v : UInt32) : UInt32 := (v &&& w.keep) ||| w.value

theorem Write.plain_apply (a : α) (v x : UInt32) : (Write.plain a v).apply x = v := by
  show (x &&& 0) ||| v = v
  rw [UInt32.and_zero, UInt32.zero_or]

variable [DecidableEq α]

def Write.step (regs : α → UInt32) (w : Write α) : α → UInt32 :=
  Function.update regs w.addr (w.apply (regs w.addr))

def run (regs : α → UInt32) (l : List (Write α)) : α → UInt32 := l.foldl Write.step regs

/-- The bits of a register that a program keeps. -/
def kept (l : List (Write α)) (a : α) : UInt32 :=
  l.foldl (fun k w => if w.addr = a then k &&& w.keep else k) (~~~0)

/-- What a program leaves in a register that held 0. -/
def left (l : List (Write α)) (a : α) : UInt32 := run (fun _ => 0) l a

theorem run_append (regs : α → UInt32) (l l' : List (Write α)) :
    run regs (l ++ l') = run (run regs l) l' := List.foldl_append

theorem run_snoc (regs : α → UInt32) (l : List (Write α)) (w : Write α) :
    run regs (l ++ [w]) = Write.step (run regs l) w := run_append regs l [w]

theorem kept_snoc (l : List (Write α)) (w : Write α) (a : α) :
    kept (l ++ [w]) a = if w.addr = a then kept l a &&& w.keep else kept l a := by
  unfold kept
  rw [List.foldl_append]
  rfl

theorem Write.step_of_ne {regs : α → UInt32} {w : Write α} {a : α} (h : w.addr ≠ a) :
    Write.step regs w a = regs a := Function.update_of_ne h.symm _ _

theorem Write.step_self (regs : α → UInt32) (w : Write α) :
    Write.step regs w w.addr = w.apply (regs w.addr) := Function.update_self _ _ _

theorem word_or_and (a b c : UInt32) : (a ||| b) &&& c = a &&& c ||| b &&& c := by
  refine UInt32.toBitVec_inj.mp (BitVec.eq_of_getLsbD_eq fun i _ => ?_)
  simp only [UInt32.toBitVec_and, UInt32.toBitVec_or, BitVec.getLsbD_and, BitVec.getLsbD_or]
  exact Bool.and_or_distrib_right _ _ _

theorem and_or_absorb (a b : UInt32) : a &&& b ||| a = a := by
  refine UInt32.toBitVec_inj.mp (BitVec.eq_of_getLsbD_eq fun i _ => ?_)
  simp only [UInt32.toBitVec_and, UInt32.toBitVec_or, BitVec.getLsbD_and, BitVec.getLsbD_or]
  cases a.toBitVec.getLsbD i <;> simp

theorem kept_append (l l' : List (Write α)) (a : α) :
    kept (l ++ l') a = kept l a &&& kept l' a := by
  induction l' using List.reverseRecOn with
  | nil =>
      rw [List.append_nil]
      exact UInt32.and_neg_one.symm
  | append_singleton l' w ih =>
      rw [← List.append_assoc, kept_snoc, kept_snoc]
      by_cases ha : w.addr = a
      · rw [if_pos ha, if_pos ha, ih, UInt32.and_assoc]
      · rw [if_neg ha, if_neg ha, ih]

theorem kept_cons (w : Write α) (l : List (Write α)) (a : α) :
    kept (w :: l) a = (if w.addr = a then w.keep else ~~~0) &&& kept l a := by
  rw [← List.singleton_append, kept_append]
  congr 1
  show (if w.addr = a then ~~~0 &&& w.keep else ~~~0) = _
  split_ifs
  · exact UInt32.neg_one_and
  · rfl

/-- A write of a whole word leaves nothing of what its register held. -/
theorem kept_of_mem_plain {l : List (Write α)} {w : Write α} (h : w ∈ l) (hplain : w.keep = 0) :
    kept l w.addr = 0 := by
  obtain ⟨l₁, l₂, rfl⟩ := List.append_of_mem h
  rw [kept_append, kept_cons, if_pos rfl, hplain, UInt32.zero_and, UInt32.and_zero]

theorem kept_of_notMem {l : List (Write α)} {a : α} (h : a ∉ l.map Write.addr) :
    kept l a = ~~~0 := by
  induction l with
  | nil => rfl
  | cons w l ih =>
      rw [List.map_cons, List.mem_cons, not_or] at h
      rw [kept_cons, if_neg fun hw => h.1 hw.symm, ih h.2]
      exact UInt32.and_self

/-- A program does to each register what a single write would. -/
theorem run_apply (regs : α → UInt32) (l : List (Write α)) (a : α) :
    run regs l a = (regs a &&& kept l a) ||| left l a := by
  induction l using List.reverseRecOn with
  | nil =>
      show regs a = (regs a &&& (~~~0)) ||| 0
      rw [UInt32.or_zero]
      exact (UInt32.and_neg_one).symm
  | append_singleton l w ih =>
      rw [left, run_snoc, run_snoc, kept_snoc]
      by_cases ha : w.addr = a
      · subst ha
        rw [if_pos rfl, Write.step_self, Write.step_self, ih, Write.apply, Write.apply, left,
          word_or_and, UInt32.and_assoc, UInt32.or_assoc]
      · rw [if_neg ha, Write.step_of_ne ha, Write.step_of_ne ha, ih, left]

theorem run_of_notMem {l : List (Write α)} {a : α} (h : a ∉ l.map Write.addr) (regs : α → UInt32) :
    run regs l a = regs a := by
  induction l using List.reverseRecOn with
  | nil => rfl
  | append_singleton l w ih =>
      rw [List.map_append, List.mem_append, not_or] at h
      rw [run_snoc, Write.step_of_ne fun hw => h.2 (List.mem_singleton.mpr hw.symm), ih h.1]

/-- What happens to a register that only one write is for. -/
theorem once {l : List (Write α)} {w : Write α} (h : w ∈ l)
    (hcount : (l.map Write.addr).count w.addr = 1) :
    kept l w.addr = w.keep ∧ left l w.addr = w.value := by
  obtain ⟨l₁, l₂, rfl⟩ := List.append_of_mem h
  rw [List.map_append, List.map_cons, List.count_append, List.count_cons_self] at hcount
  have hbefore : w.addr ∉ l₁.map Write.addr := List.count_eq_zero.mp (by omega)
  have hafter : w.addr ∉ l₂.map Write.addr := List.count_eq_zero.mp (by omega)
  refine ⟨?_, ?_⟩
  · rw [kept_append, kept_cons, if_pos rfl, kept_of_notMem hbefore, kept_of_notMem hafter]
    exact UInt32.neg_one_and.trans UInt32.and_neg_one
  · rw [left, run_append, run, List.foldl_cons]
    refine (run_of_notMem hafter _).trans ((Write.step_self _ _).trans ?_)
    rw [run_of_notMem hbefore, Write.apply, UInt32.zero_and, UInt32.zero_or]

/-- A word written once holds its value in the end. -/
theorem run_of_mem_plain {l : List (Write α)} (hnodup : (l.map Write.addr).Nodup) {a : α}
    {v : UInt32} (h : Write.plain a v ∈ l) (regs : α → UInt32) : run regs l a = v := by
  obtain ⟨l₁, l₂, rfl⟩ := List.append_of_mem h
  rw [List.map_append, List.map_cons, List.nodup_append, List.nodup_cons] at hnodup
  obtain ⟨-, ⟨hrest, -⟩, -⟩ := hnodup
  rw [run_append, run, List.foldl_cons]
  refine (run_of_notMem hrest _).trans ?_
  exact (Write.step_self _ _).trans (Write.plain_apply a v _)

/-- Running a program again changes nothing. -/
theorem run_run (regs : α → UInt32) (l : List (Write α)) : run (run regs l) l = run regs l := by
  funext a
  rw [run_apply (run regs l), run_apply regs, word_or_and, UInt32.and_assoc, UInt32.and_self,
    UInt32.or_assoc, and_or_absorb]

theorem and_not_of_disjoint {e m c : UInt32} (hm : e &&& m = 0) (hc : e &&& c = 0) (v : UInt32) :
    e &&& ~~~(v &&& m ||| c) = e := by
  refine UInt32.toBitVec_inj.mp (BitVec.eq_of_getLsbD_eq fun i hi => ?_)
  have hmi := congrArg (fun x : UInt32 => x.toBitVec.getLsbD i) hm
  have hci := congrArg (fun x : UInt32 => x.toBitVec.getLsbD i) hc
  simp only [UInt32.toBitVec_and, UInt32.toBitVec_or, UInt32.toBitVec_not, BitVec.getLsbD_and,
    BitVec.getLsbD_or, BitVec.getLsbD_not, hi, decide_true, Bool.true_and, UInt32.toBitVec_zero,
    BitVec.getLsbD_zero] at hmi hci ⊢
  revert hmi hci
  cases e.toBitVec.getLsbD i <;> cases m.toBitVec.getLsbD i <;> cases c.toBitVec.getLsbD i <;>
    cases v.toBitVec.getLsbD i <;> decide

/-- The bits of a register that a program neither clears nor sets. -/
def untouched (l : List (Write α)) (a : α) : UInt32 := kept l a &&& ~~~left l a

theorem and_or_and_not (x k v : UInt32) :
    (x &&& k ||| v) &&& (k &&& ~~~v) = x &&& (k &&& ~~~v) ∧
      (x &&& k ||| v) &&& ~~~(k &&& ~~~v) = v := by
  constructor <;>
  · refine UInt32.toBitVec_inj.mp (BitVec.eq_of_getLsbD_eq fun i hi => ?_)
    simp only [UInt32.toBitVec_and, UInt32.toBitVec_or, UInt32.toBitVec_not, BitVec.getLsbD_and,
      BitVec.getLsbD_or, BitVec.getLsbD_not, hi, decide_true, Bool.true_and]
    cases x.toBitVec.getLsbD i <;> cases k.toBitVec.getLsbD i <;> cases v.toBitVec.getLsbD i <;> rfl

theorem run_untouched (regs : α → UInt32) (l : List (Write α)) (a : α) :
    run regs l a &&& untouched l a = regs a &&& untouched l a := by
  rw [run_apply]
  exact (and_or_and_not _ _ _).1

/-- The other bits do not depend on what was there. -/
theorem run_touched (regs : α → UInt32) (l : List (Write α)) (a : α) :
    run regs l a &&& ~~~untouched l a = left l a := by
  rw [run_apply]
  exact (and_or_and_not _ _ _).2

end Masked
end FH8852
