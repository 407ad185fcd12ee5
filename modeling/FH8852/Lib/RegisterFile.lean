import Mathlib.Logic.Function.Basic
import Mathlib.Data.List.Induction
import Mathlib.Data.UInt

/-!
# Register files

A device with byte registers, programmed by writes that follow each other, and
the numbers it keeps in several registers with the high byte first.
-/

namespace FH8852
namespace RegisterFile

variable {α : Type*} [DecidableEq α]

/-- The registers after the writes of a table, in its order. -/
def writeAll (regs : α → UInt8) (table : List (α × UInt8)) : α → UInt8 :=
  table.foldl (fun regs w => Function.update regs w.1 w.2) regs

theorem writeAll_append (regs : α → UInt8) (table table' : List (α × UInt8)) :
    writeAll regs (table ++ table') = writeAll (writeAll regs table) table' :=
  List.foldl_append

/-- The last write to a register is the one that counts. -/
theorem writeAll_apply (regs : α → UInt8) (table : List (α × UInt8)) (a : α) :
    writeAll regs table a = (table.reverse.lookup a).getD (regs a) := by
  induction table using List.reverseRecOn with
  | nil => rfl
  | append_singleton table w ih =>
      rw [writeAll_append, List.reverse_append, List.reverse_singleton, List.singleton_append]
      show Function.update (writeAll regs table) w.1 w.2 a = _
      rcases eq_or_ne a w.1 with h | h
      · rw [h, Function.update_self, List.lookup_cons, beq_self_eq_true]
        rfl
      · have hbeq : (a == w.1) = false := beq_false_of_ne h
        rw [Function.update_of_ne h, List.lookup_cons, hbeq, ih]

theorem writeAll_of_lookup {regs : α → UInt8} {table : List (α × UInt8)} {a : α} {b : UInt8}
    (h : table.reverse.lookup a = some b) : writeAll regs table a = b := by
  rw [writeAll_apply, h, Option.getD_some]

theorem writeAll_of_lookup_none {regs : α → UInt8} {table : List (α × UInt8)} {a : α}
    (h : table.reverse.lookup a = none) : writeAll regs table a = regs a := by
  rw [writeAll_apply, h, Option.getD_none]

omit [DecidableEq α] in
/-- The number kept in some registers, high byte first. -/
def number (regs : α → UInt8) : List α → Nat
  | [] => 0
  | a :: addrs => (regs a).toNat * 256 ^ addrs.length + number regs addrs

/-- A number written to some registers, high byte first. -/
def writeNumber (regs : α → UInt8) : List α → Nat → α → UInt8
  | [], _ => regs
  | a :: addrs, n =>
    writeNumber (Function.update regs a (UInt8.ofNat (n / 256 ^ addrs.length))) addrs n

omit [DecidableEq α] in
theorem number_lt (regs : α → UInt8) (addrs : List α) :
    number regs addrs < 256 ^ addrs.length := by
  induction addrs with
  | nil => exact Nat.one_pos
  | cons a addrs ih =>
      have hbyte := (regs a).toNat_lt
      have hhigh : (regs a).toNat * 256 ^ addrs.length ≤ 255 * 256 ^ addrs.length :=
        Nat.mul_le_mul_right _ (by omega)
      rw [number, List.length_cons, pow_succ]
      omega

omit [DecidableEq α] in
/-- Two register files keep the same number exactly if they agree on its
registers. -/
theorem number_inj {regs regs' : α → UInt8} {addrs : List α} :
    number regs addrs = number regs' addrs ↔ ∀ a ∈ addrs, regs a = regs' a := by
  induction addrs with
  | nil => exact iff_of_true rfl (by simp)
  | cons a addrs ih =>
      rw [List.forall_mem_cons, ← ih, number, number]
      constructor
      · intro h
        have hlow := number_lt regs addrs
        have hlow' := number_lt regs' addrs
        have hpos : 0 < 256 ^ addrs.length := Nat.pow_pos (by omega)
        have hdiv := congrArg (· / 256 ^ addrs.length) h
        simp only [Nat.mul_comm _ (256 ^ addrs.length), Nat.mul_add_div hpos,
          Nat.div_eq_of_lt hlow, Nat.div_eq_of_lt hlow', Nat.add_zero] at hdiv
        rw [hdiv] at h
        exact ⟨UInt8.toNat_inj.mp hdiv, by omega⟩
      · rintro ⟨ha, hrest⟩
        rw [ha, hrest]

theorem writeNumber_of_notMem {regs : α → UInt8} {addrs : List α} {n : Nat} {a : α}
    (h : a ∉ addrs) : writeNumber regs addrs n a = regs a := by
  induction addrs generalizing regs with
  | nil => rfl
  | cons b addrs ih =>
      rw [List.mem_cons, not_or] at h
      rw [writeNumber, ih h.2, Function.update_of_ne h.1]

/-- Writing elsewhere leaves a number as it is. -/
theorem number_writeNumber_of_disjoint {regs : α → UInt8} {addrs addrs' : List α} {n : Nat}
    (h : ∀ a ∈ addrs, a ∉ addrs') :
    number (writeNumber regs addrs' n) addrs = number regs addrs :=
  number_inj.mpr fun a ha => writeNumber_of_notMem (h a ha)

/-- A number is read back as it was written, reduced to its registers. -/
theorem number_writeNumber (regs : α → UInt8) {addrs : List α} (h : addrs.Nodup) (n : Nat) :
    number (writeNumber regs addrs n) addrs = n % 256 ^ addrs.length := by
  induction addrs generalizing regs with
  | nil => exact (Nat.mod_one n).symm
  | cons a addrs ih =>
      obtain ⟨ha, hrest⟩ := List.nodup_cons.mp h
      have hbyte : (UInt8.ofNat (n / 256 ^ addrs.length)).toNat = n / 256 ^ addrs.length % 256 :=
        UInt8.toNat_ofNat'
      have hsplit : n % (256 ^ addrs.length * 256) =
          n % 256 ^ addrs.length + 256 ^ addrs.length * (n / 256 ^ addrs.length % 256) :=
        Nat.mod_mul
      rw [number, writeNumber, ih _ hrest, writeNumber_of_notMem ha, Function.update_self, hbyte,
        List.length_cons, pow_succ, hsplit, Nat.mul_comm, Nat.add_comm]

/-! ## Settings

A device is set up by commands that follow each other, and what one of them has set
stays until another sets it. -/

section Settings

variable {σ γ β : Type*}

/-- What the last of the commands that set it has set, at first `init`. -/
def latest (set : γ → Option β) (commands : List γ) (init : β) : β :=
  (commands.filterMap set).getLast?.getD init

theorem latest_concat (set : γ → Option β) (commands : List γ) (c : γ) (init : β) :
    latest set (commands ++ [c]) init = (set c).getD (latest set commands init) := by
  cases hset : set c <;> simp [latest, hset]

/-- What every command sets or leaves is, after a run, what the latest has set. -/
theorem foldl_latest {step : σ → γ → σ} {f : σ → β} {set : γ → Option β}
    (h : ∀ s c, f (step s c) = (set c).getD (f s)) (s : σ) (commands : List γ) :
    f (commands.foldl step s) = latest set commands (f s) := by
  induction commands using List.reverseRecOn with
  | nil => rfl
  | append_singleton commands c ih =>
      rw [List.foldl_append, List.foldl_cons, List.foldl_nil, h, ih, latest_concat]

/-- What no command of a run changes stays. -/
theorem foldl_kept {step : σ → γ → σ} {f : σ → β} {commands : List γ}
    (h : ∀ c ∈ commands, ∀ s, f (step s c) = f s) (s : σ) :
    f (commands.foldl step s) = f s := by
  induction commands generalizing s with
  | nil => rfl
  | cons c commands ih =>
      obtain ⟨hc, hrest⟩ := List.forall_mem_cons.mp h
      rw [List.foldl_cons, ih hrest, hc]

/-- What all the values that are set have in common holds of the latest, once one is set. -/
theorem latest_of_mem {set : γ → Option β} {commands : List γ} {P : β → Prop}
    (h : ∀ c ∈ commands, ∀ b, set c = some b → P b) {c : γ} (hc : c ∈ commands)
      (hset : (set c).isSome)
    (init : β) : P (latest set commands init) := by
  obtain ⟨b, hb⟩ := Option.isSome_iff_exists.mp hset
  have hne : commands.filterMap set ≠ [] := List.ne_nil_of_mem (List.mem_filterMap.mpr ⟨c, hc, hb⟩)
  obtain ⟨d, hd, hlast⟩ := List.mem_filterMap.mp (List.getLast_mem hne)
  rw [latest, List.getLast?_eq_some_getLast hne, Option.getD_some]
  exact h d hd _ hlast

end Settings

end RegisterFile
end FH8852
