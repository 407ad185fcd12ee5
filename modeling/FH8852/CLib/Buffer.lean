import FH8852.CLib.Text

/-!
# Byte arrays

A byte array is a function from indices to bytes.  Nothing here checks bounds:
that an access stays inside an array is a property of the indices.
-/

namespace FH8852
namespace CLib

abbrev Buf := Nat → UInt8

namespace Buf

def zero : Buf := fun _ => 0

/-- `memcpy(buf + off, data, len)`. -/
def write (buf : Buf) (off : Nat) (data : Bytes) : Buf := fun k =>
  if off ≤ k ∧ k < off + data.length then data.getD (k - off) 0 else buf k

/-- `memmove(buf, buf + off, n)`. -/
def moveDown (buf : Buf) (off n : Nat) : Buf := fun k =>
  if k < n then buf (k + off) else buf k

/-- The `n` bytes from `off` on. -/
def read (buf : Buf) (off n : Nat) : Bytes := (List.range n).map fun k => buf (off + k)

/-- The C string that starts at `off`, in an array with `room` bytes left. -/
def str (buf : Buf) : Nat → Nat → Bytes
  | 0, _ => []
  | room + 1, off => if buf off = 0 then [] else buf off :: str buf room (off + 1)

/-! ## Strings in a buffer -/

theorem str_length_le {buf : Buf} {off n : Nat} (room : Nat) (hnul : buf (off + n) = 0) :
    (buf.str room off).length ≤ n := by
  induction room generalizing off n with
  | zero => exact Nat.zero_le n
  | succ room ih =>
      rw [str]
      by_cases h : buf off = 0
      · rw [if_pos h]
        exact Nat.zero_le n
      · rw [if_neg h]
        cases n with
        | zero => exact absurd hnul h
        | succ n =>
            have hnext : buf (off + 1 + n) = 0 := by
              rw [← hnul]
              congr 1
              omega
            have := ih hnext
            rw [List.length_cons]
            omega

/-! ## Reading -/

@[simp] theorem read_length (buf : Buf) (off n : Nat) : (buf.read off n).length = n := by
  simp [read]

theorem read_succ (buf : Buf) (off n : Nat) :
    buf.read off (n + 1) = buf off :: buf.read (off + 1) n := by
  simp only [read, List.range_succ_eq_map, List.map_cons, List.map_map, Nat.add_zero]
  congr 2
  funext k
  show buf (off + (k + 1)) = buf (off + 1 + k)
  congr 1
  omega

theorem read_congr {buf buf' : Buf} {off off' n : Nat}
    (h : ∀ k < n, buf (off + k) = buf' (off' + k)) : buf.read off n = buf'.read off' n :=
  List.map_congr_left fun k hk => h k (List.mem_range.mp hk)

theorem read_append (buf : Buf) (off m n : Nat) :
    buf.read off (m + n) = buf.read off m ++ buf.read (off + m) n := by
  induction m generalizing off with
  | zero =>
      rw [Nat.zero_add, Nat.add_zero]
      rfl
  | succ m ih =>
      have hoff : off + (m + 1) = off + 1 + m := by omega
      rw [Nat.succ_add, read_succ, ih, read_succ, List.cons_append, hoff]

theorem read_write (buf : Buf) (off : Nat) (data : Bytes) :
    (buf.write off data).read off data.length = data := by
  refine List.ext_getElem (by simp) fun k hk hk' => ?_
  have hin : off ≤ off + k ∧ off + k < off + data.length := by omega
  simp only [read, List.getElem_map, List.getElem_range, write, if_pos hin]
  simp [hk']

theorem read_write_above {buf : Buf} {off n : Nat} (data : Bytes) (h : n ≤ off) :
    (buf.write off data).read 0 n = buf.read 0 n := by
  refine read_congr fun k hk => ?_
  have hout : ¬ (off ≤ 0 + k ∧ 0 + k < off + data.length) := by omega
  rw [write, if_neg hout]

theorem read_moveDown {buf : Buf} {off len n : Nat} (h : len < n) :
    (buf.moveDown off n).read 0 len = buf.read off len := by
  refine read_congr fun k hk => ?_
  have hin : 0 + k < n := by omega
  rw [moveDown, if_pos hin]
  congr 1
  omega

/-- The string in a buffer is what is before its NUL. -/
theorem str_eq_read {buf : Buf} {room off n : Nat} (hroom : n < room) (hnul : buf (off + n) = 0)
    (hread : (0 : UInt8) ∉ buf.read off n) : buf.str room off = buf.read off n := by
  induction n generalizing room off with
  | zero =>
      obtain ⟨room, rfl⟩ : ∃ k, room = k + 1 := ⟨room - 1, by omega⟩
      rw [Nat.add_zero] at hnul
      rw [str, if_pos hnul]
      rfl
  | succ n ih =>
      obtain ⟨room, rfl⟩ : ∃ k, room = k + 1 := ⟨room - 1, by omega⟩
      rw [read_succ, List.mem_cons, not_or] at hread
      have hnext : buf (off + 1 + n) = 0 := by
        rw [← hnul]
        congr 1
        omega
      rw [str, if_neg (Ne.symm hread.1), read_succ, ih (by omega) hnext hread.2]

/-- The string in a buffer ends at the latest where a NUL is. -/
theorem str_isPrefix_read {buf : Buf} {off n : Nat} (room : Nat) (hnul : buf (off + n) = 0) :
    buf.str room off <+: buf.read off n := by
  induction room generalizing off n with
  | zero => exact List.nil_prefix
  | succ room ih =>
      rw [str]
      by_cases h : buf off = 0
      · rw [if_pos h]
        exact List.nil_prefix
      · rw [if_neg h]
        cases n with
        | zero => exact absurd hnul h
        | succ n =>
            have hnext : buf (off + 1 + n) = 0 := by
              rw [← hnul]
              congr 1
              omega
            rw [read_succ]
            exact List.cons_prefix_cons.mpr ⟨rfl, ih hnext⟩

end Buf
end CLib
end FH8852
