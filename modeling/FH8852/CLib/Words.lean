import FH8852.CLib.Buffer

/-!
# Words in a byte array

Stores and loads of words through pointers, the lowest byte first, and what a write
leaves of the bytes around it.
-/

namespace FH8852
namespace CLib

/-- The `n` lowest bytes of a number, the lowest first. -/
def leBytes : (n value : Nat) → Bytes
  | 0, _ => []
  | n + 1, value => UInt8.ofNat value :: leBytes n (value / 256)

def leNat (bytes : Bytes) : Nat := bytes.foldr (fun b value => b.toNat + 256 * value) 0

@[simp] theorem leBytes_length (n value : Nat) : (leBytes n value).length = n := by
  induction n generalizing value with
  | zero => rfl
  | succ n ih => rw [leBytes, List.length_cons, ih]

theorem leNat_leBytes (n value : Nat) : leNat (leBytes n value) = value % 256 ^ n := by
  induction n generalizing value with
  | zero => exact (Nat.mod_one value).symm
  | succ n ih =>
      have hfirst : (UInt8.ofNat value).toNat = value % 256 := UInt8.toNat_ofNat'
      have hsplit : leNat (leBytes (n + 1) value) =
          (UInt8.ofNat value).toNat + 256 * leNat (leBytes n (value / 256)) := rfl
      rw [hsplit, hfirst, ih, Nat.pow_succ', Nat.mod_mul]

namespace Buf

/-- `*(uint32_t *)(buf + off) = w`. -/
def store32 (buf : Buf) (off : Nat) (w : UInt32) : Buf := buf.write off (leBytes 4 w.toNat)

/-- `memcpy(buf + off, &w, 8)`. -/
def store64 (buf : Buf) (off : Nat) (w : UInt64) : Buf := buf.write off (leBytes 8 w.toNat)

def load32 (buf : Buf) (off : Nat) : UInt32 := UInt32.ofNat (leNat (buf.read off 4))

def load64 (buf : Buf) (off : Nat) : UInt64 := UInt64.ofNat (leNat (buf.read off 8))

/-! ## Reading what was stored -/

/-- The ranges `[a, a + m)` and `[b, b + n)` have no byte in common. -/
def Apart (a m b n : Nat) : Prop := a + m ≤ b ∨ b + n ≤ a

theorem write_outside {buf : Buf} {off k : Nat} {data : Bytes}
    (h : k < off ∨ off + data.length ≤ k) :
    buf.write off data k = buf k := by
  have hout : ¬ (off ≤ k ∧ k < off + data.length) := by omega
  rw [write, if_neg hout]

theorem read_write_apart {buf : Buf} {a n off : Nat} {data : Bytes}
    (h : Apart a n off data.length) : (buf.write off data).read a n = buf.read a n := by
  refine read_congr fun k hk => write_outside ?_
  unfold Apart at h
  omega

/-- A part of what is read. -/
theorem read_part (buf : Buf) (a : Nat) {i m n : Nat} (h : i + m ≤ n) :
    ((buf.read a n).drop i).take m = buf.read (a + i) m := by
  have hsplit : n = i + (m + (n - i - m)) := by omega
  have hlen := buf.read_length
  rw [hsplit, read_append, read_append, List.drop_left' (hlen a i),
    List.take_left' (hlen (a + i) m)]

theorem load32_store32 (buf : Buf) (off : Nat) (w : UInt32) :
    (buf.store32 off w).load32 off = w := by
  have hread : (buf.store32 off w).read off 4 = leBytes 4 w.toNat := by
    have h := read_write buf off (leBytes 4 w.toNat)
    rwa [leBytes_length] at h
  have hlt : w.toNat < 256 ^ 4 := w.toNat_lt
  rw [load32, hread, leNat_leBytes, Nat.mod_eq_of_lt hlt, UInt32.ofNat_toNat]

theorem load64_store64 (buf : Buf) (off : Nat) (w : UInt64) :
    (buf.store64 off w).load64 off = w := by
  have hread : (buf.store64 off w).read off 8 = leBytes 8 w.toNat := by
    have h := read_write buf off (leBytes 8 w.toNat)
    rwa [leBytes_length] at h
  have hlt : w.toNat < 256 ^ 8 := w.toNat_lt
  rw [load64, hread, leNat_leBytes, Nat.mod_eq_of_lt hlt, UInt64.ofNat_toNat]

theorem read_store32_apart {buf : Buf} {a n off : Nat} {w : UInt32} (h : Apart a n off 4) :
    (buf.store32 off w).read a n = buf.read a n :=
  read_write_apart (by rwa [leBytes_length])

theorem read_store64_apart {buf : Buf} {a n off : Nat} {w : UInt64} (h : Apart a n off 8) :
    (buf.store64 off w).read a n = buf.read a n :=
  read_write_apart (by rwa [leBytes_length])

end Buf
end CLib
end FH8852
