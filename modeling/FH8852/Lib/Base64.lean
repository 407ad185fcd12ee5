import Mathlib.Data.List.TakeWhile
import FH8852.CLib.Text

/-!
# Base64

The encoding of bytes as text, four characters to three bytes with `=` to fill
up the last four, and the bytes that any text stands for: those of its
characters from the alphabet, up to the first `=`.
-/

namespace FH8852
namespace Base64

open CLib

def alphabet : Bytes := ascii "ABCDEFGHIJKLMNOPQRSTUVWXYZabcdefghijklmnopqrstuvwxyz0123456789+/"

def value (c : UInt8) : Option Nat := alphabet.idxOf? c

def char (v : Nat) : UInt8 := alphabet.getD v 0

def encode : Bytes → Bytes
  | a :: b :: c :: rest =>
    char (a.toNat / 4) :: char (a.toNat % 4 * 16 + b.toNat / 16) ::
      char (b.toNat % 16 * 4 + c.toNat / 64) :: char (c.toNat % 64) :: encode rest
  | [a, b] =>
    [char (a.toNat / 4), char (a.toNat % 4 * 16 + b.toNat / 16), char (b.toNat % 16 * 4), 61]
  | [a] => [char (a.toNat / 4), char (a.toNat % 4 * 16), 61, 61]
  | [] => []

/-- The bytes of a list of sextets.  Bits that do not fill a byte are dropped. -/
def octets : List Nat → Bytes
  | a :: b :: c :: d :: rest =>
    UInt8.ofNat (a * 4 + b / 16) :: UInt8.ofNat (b % 16 * 16 + c / 4) ::
      UInt8.ofNat (c % 4 * 64 + d) :: octets rest
  | [a, b, c] => [UInt8.ofNat (a * 4 + b / 16), UInt8.ofNat (b % 16 * 16 + c / 4)]
  | [a, b] => [UInt8.ofNat (a * 4 + b / 16)]
  | _ => []

def sextets (text : Bytes) : List Nat := (text.takeWhile (· ≠ 61)).filterMap value

def decode (text : Bytes) : Bytes := octets (sextets text)

/-- At most two `=` at the end fill the text up to a multiple of four characters. -/
def Filled (text : Bytes) : Prop :=
  text.length % 4 = 0 ∧ text.dropWhile (· ≠ 61) ∈ [[], [61], [61, 61]]

/-- Base64 text for some bytes. -/
structure Encodes (text bytes : Bytes) : Prop where
  letters : ∀ c ∈ text.takeWhile (· ≠ 61), c ∈ alphabet
  filled : Filled text
  decode_eq : decode text = bytes

/-! ## Sextets -/

theorem value_char : ∀ v < 64, value (char v) = some v ∧ char v ≠ 61 := by decide +kernel

theorem value_lt {c : UInt8} {v : Nat} (h : value c = some v) : v < 64 := by
  have hlen : alphabet.length = 64 := by decide
  rw [← hlen]
  exact (List.idxOf?_eq_some_iff.mp h).1

theorem sextets_fill (text : Bytes) : sextets (61 :: text) = [] := by
  rw [sextets, List.takeWhile_cons_of_neg (by decide)]
  rfl

theorem sextets_cons {c : UInt8} (hc : c ≠ 61) (text : Bytes) :
    sextets (c :: text) = (value c).toList ++ sextets text := by
  rw [sextets, List.takeWhile_cons_of_pos (by simpa using hc)]
  cases hv : value c with
  | none => rw [List.filterMap_cons_none hv]; rfl
  | some v => rw [List.filterMap_cons_some hv]; rfl

theorem sextets_char {v : Nat} (hv : v < 64) (text : Bytes) :
    sextets (char v :: text) = v :: sextets text := by
  rw [sextets_cons (value_char v hv).2, (value_char v hv).1]
  rfl

theorem sextets_lt (text : Bytes) : ∀ v ∈ sextets text, v < 64 := by
  intro v hv
  obtain ⟨c, -, hc⟩ := List.mem_filterMap.mp hv
  exact value_lt hc

/-! ## Decoding what was encoded -/

theorem ofNat_of_eq {n : Nat} {b : UInt8} (h : n = b.toNat) : UInt8.ofNat n = b := by
  rw [h, UInt8.ofNat_toNat]

/-- Four characters give three bytes back. -/
theorem decode_group (a b c : UInt8) (text : Bytes) :
    decode (char (a.toNat / 4) :: char (a.toNat % 4 * 16 + b.toNat / 16) ::
      char (b.toNat % 16 * 4 + c.toNat / 64) :: char (c.toNat % 64) :: text) =
      a :: b :: c :: decode text := by
  have ha := a.toNat_lt
  have hb := b.toNat_lt
  have hc := c.toNat_lt
  rw [decode, sextets_char (by omega), sextets_char (by omega), sextets_char (by omega),
    sextets_char (by omega), octets, ofNat_of_eq (b := a) (by omega),
    ofNat_of_eq (b := b) (by omega), ofNat_of_eq (b := c) (by omega)]
  rfl

theorem decode_encode (bytes : Bytes) : decode (encode bytes) = bytes := by
  induction bytes using encode.induct with
  | case1 a b c rest ih => rw [encode, decode_group, ih]
  | case2 a b =>
      have ha := a.toNat_lt
      have hb := b.toNat_lt
      rw [decode, encode, sextets_char (by omega), sextets_char (by omega), sextets_char (by omega),
        sextets_fill, octets, ofNat_of_eq (b := a) (by omega), ofNat_of_eq (b := b) (by omega)]
  | case3 a =>
      have ha := a.toNat_lt
      rw [decode, encode, sextets_char (by omega), sextets_char (by omega), sextets_fill, octets,
        ofNat_of_eq (b := a) (by omega)]
  | case4 => rfl

theorem char_mem : ∀ v < 64, char v ∈ alphabet := by decide +kernel

/-- An encoding has characters of the alphabet and equals signs only. -/
theorem mem_encode {bytes : Bytes} {b : UInt8} (h : b ∈ encode bytes) : b ∈ alphabet ∨ b = 61 := by
  have hchar : ∀ v, v < 64 → b = char v → b ∈ alphabet ∨ b = 61 := by
    intro v hv hb
    rw [hb]
    exact .inl (char_mem v hv)
  induction bytes using encode.induct with
  | case1 x y z rest ih =>
      have hx := x.toNat_lt
      have hy := y.toNat_lt
      have hz := z.toNat_lt
      simp only [encode, List.mem_cons] at h
      rcases h with h | h | h | h | h
      · exact hchar _ (by omega) h
      · exact hchar _ (by omega) h
      · exact hchar _ (by omega) h
      · exact hchar _ (by omega) h
      · exact ih h
  | case2 x y =>
      have hx := x.toNat_lt
      have hy := y.toNat_lt
      simp only [encode, List.mem_cons, List.not_mem_nil, or_false] at h
      rcases h with h | h | h | h
      · exact hchar _ (by omega) h
      · exact hchar _ (by omega) h
      · exact hchar _ (by omega) h
      · exact .inr h
  | case3 x =>
      have hx := x.toNat_lt
      simp only [encode, List.mem_cons, List.not_mem_nil, or_false] at h
      rcases h with h | h | h | h
      · exact hchar _ (by omega) h
      · exact hchar _ (by omega) h
      · exact .inr h
      · exact .inr h
  | case4 => cases h

theorem encode_length (bytes : Bytes) : (encode bytes).length = (bytes.length + 2) / 3 * 4 := by
  induction bytes using encode.induct with
  | case1 a b c rest ih =>
      simp only [encode, List.length_cons, ih]
      omega
  | case2 | case3 | case4 => simp only [encode, List.length_cons, List.length_nil]

theorem octets_isPrefix {l l' : List Nat} (h : l <+: l') : octets l <+: octets l' := by
  induction l using octets.induct generalizing l' with
  | case1 a b c d rest ih =>
      obtain ⟨more, rfl⟩ := h
      rw [octets]
      exact List.prefix_append_right_inj [_, _, _] |>.mpr (ih (List.prefix_append rest more))
  | case2 a b c =>
      obtain ⟨more, rfl⟩ := h
      cases more with
      | nil => exact List.prefix_rfl
      | cons d more => exact List.prefix_append [_, _] _
  | case3 a b =>
      obtain ⟨more, rfl⟩ := h
      cases more with
      | nil => exact List.prefix_rfl
      | cons c more =>
          cases more with
          | nil => exact List.prefix_append [_] _
          | cons d more => exact List.prefix_append [_] _
  | case4 l hfour hthree htwo =>
      rw [octets]
      · exact List.nil_prefix
      all_goals assumption

theorem decode_take_isPrefix (text : Bytes) (n : Nat) : decode (text.take n) <+: decode text := by
  apply octets_isPrefix
  rw [sextets, ← List.take_takeWhile]
  exact (List.take_prefix n _).filterMap value

/-! ## How much is decoded -/

theorem octets_length (l : List Nat) : (octets l).length = l.length * 3 / 4 := by
  induction l using octets.induct with
  | case1 a b c d rest ih =>
      simp only [octets, List.length_cons, ih]
      omega
  | case2 | case3 => simp [octets]
  | case4 l hfour hthree htwo =>
      have hshort : l.length ≤ 1 := by
        rcases l with _ | ⟨a, _ | ⟨b, _ | ⟨c, _ | ⟨d, l⟩⟩⟩⟩
        · exact Nat.zero_le 1
        · exact Nat.le_refl 1
        · exact absurd rfl (htwo a b)
        · exact absurd rfl (hthree a b c)
        · exact absurd rfl (hfour a b c d l)
      rw [octets]
      · rw [List.length_nil]
        omega
      all_goals assumption

theorem decode_length {text : Bytes} (h : ∀ c ∈ text.takeWhile (· ≠ 61), c ∈ alphabet) :
    (decode text).length = (text.takeWhile (· ≠ 61)).length * 3 / 4 := by
  have hsome : ∀ c ∈ text.takeWhile (· ≠ 61), (value c).isSome = true :=
    fun c hc => List.isSome_idxOf?.mpr (h c hc)
  rw [decode, octets_length, sextets, List.length_filterMap_eq_countP,
    List.countP_eq_length.mpr hsome]

theorem decode_take_length {text : Bytes} (h : ∀ c ∈ text.takeWhile (· ≠ 61), c ∈ alphabet)
    (n : Nat) :
    (decode (text.take n)).length = min n (text.takeWhile (· ≠ 61)).length * 3 / 4 := by
  have htake : (text.take n).takeWhile (· ≠ 61) = (text.takeWhile (· ≠ 61)).take n :=
    List.take_takeWhile.symm
  rw [decode_length, htake, List.length_take]
  intro c hc
  rw [htake] at hc
  exact h c (List.mem_of_mem_take hc)

theorem Filled.length_le {text : Bytes} (h : Filled text) :
    text.length ≤ (text.takeWhile (· ≠ 61)).length + 2 := by
  have hlen := congrArg List.length (List.takeWhile_append_dropWhile (p := (· ≠ 61)) (l := text))
  have hfill : (text.dropWhile (· ≠ 61)).length ≤ 2 := by
    have hall : ∀ l ∈ ([[], [61], [61, 61]] : List Bytes), l.length ≤ 2 := by decide
    exact hall _ h.2
  rw [List.length_append] at hlen
  omega

/-- The beginning of base64 text stands for the beginning of its bytes. -/
theorem Encodes.decode_take {text bytes : Bytes} (h : Encodes text bytes) (n : Nat) :
    decode (text.take n) = bytes.take (n * 3 / 4) := by
  have hlen := decode_take_length h.letters n
  have hall := decode_length h.letters
  have hstarts := List.prefix_iff_eq_take.mp (decode_take_isPrefix text n)
  rw [h.decode_eq] at hall hstarts
  rw [hstarts, hlen]
  rcases Nat.le_total n (text.takeWhile (· ≠ 61)).length with hn | hn
  · rw [Nat.min_eq_left hn]
  · rw [Nat.min_eq_right hn, List.take_of_length_le (by omega), List.take_of_length_le (by omega)]

theorem Encodes.length_le {text bytes : Bytes} (h : Encodes text bytes) :
    text.length ≤ bytes.length * 4 / 3 + 4 := by
  have hall := decode_length h.letters
  have hfill := h.filled.length_le
  rw [h.decode_eq] at hall
  omega

/-- What an encoder writes is base64 text. -/
theorem encode_filled (bytes : Bytes) : Filled (encode bytes) := by
  have hchar : ∀ v < 64, ∀ text : Bytes,
      (char v :: text).dropWhile (· ≠ 61) = text.dropWhile (· ≠ 61) := by
    intro v hv text
    rw [List.dropWhile_cons_of_pos (by simpa using (value_char v hv).2)]
  refine ⟨by rw [encode_length]; exact Nat.mul_mod_left _ 4, ?_⟩
  induction bytes using encode.induct with
  | case1 a b c rest ih =>
      have ha := a.toNat_lt
      have hb := b.toNat_lt
      have hc := c.toNat_lt
      rwa [encode, hchar _ (by omega), hchar _ (by omega), hchar _ (by omega), hchar _ (by omega)]
  | case2 a b =>
      have ha := a.toNat_lt
      have hb := b.toNat_lt
      rw [encode, hchar _ (by omega), hchar _ (by omega), hchar _ (by omega)]
      decide
  | case3 a =>
      have ha := a.toNat_lt
      rw [encode, hchar _ (by omega), hchar _ (by omega)]
      decide
  | case4 => decide

theorem encodes_encode (bytes : Bytes) : Encodes (encode bytes) bytes := by
  refine ⟨fun c hc => ?_, encode_filled bytes, decode_encode bytes⟩
  have hne : c ≠ 61 := by simpa using List.mem_takeWhile_imp hc
  exact (mem_encode ((List.takeWhile_sublist _).subset hc)).resolve_right hne

/-! ## Decoding bit by bit -/

/-- The bytes of some sextets, after `bits` bits with the value `pending`. -/
def octetsFrom : (pending bits : Nat) → List Nat → Bytes
  | _, _, [] => []
  | pending, bits, v :: rest =>
    if 8 ≤ bits + 6 then
      UInt8.ofNat ((pending * 64 + v) / 2 ^ (bits - 2)) ::
        octetsFrom ((pending * 64 + v) % 2 ^ (bits - 2)) (bits - 2) rest
    else octetsFrom (pending * 64 + v) (bits + 6) rest

section Steps

variable (p v : Nat) (rest : List Nat)

theorem octetsFrom_none : octetsFrom p 0 (v :: rest) = octetsFrom (p * 64 + v) 6 rest := by
  rw [octetsFrom, if_neg (by omega)]

theorem octetsFrom_six : octetsFrom p 6 (v :: rest) =
    UInt8.ofNat ((p * 64 + v) / 16) :: octetsFrom ((p * 64 + v) % 16) 4 rest := by
  have hleft : 6 - 2 = 4 := rfl
  rw [octetsFrom, if_pos (by omega), hleft, show 2 ^ 4 = 16 from rfl]

theorem octetsFrom_four : octetsFrom p 4 (v :: rest) =
    UInt8.ofNat ((p * 64 + v) / 4) :: octetsFrom ((p * 64 + v) % 4) 2 rest := by
  have hleft : 4 - 2 = 2 := rfl
  rw [octetsFrom, if_pos (by omega), hleft, show 2 ^ 2 = 4 from rfl]

theorem octetsFrom_two : octetsFrom p 2 (v :: rest) =
    UInt8.ofNat (p * 64 + v) :: octetsFrom 0 0 rest := by
  rw [octetsFrom, if_pos (by omega), Nat.sub_self, pow_zero, Nat.div_one, Nat.mod_one]

end Steps

/-- Four sextets fill three bytes and leave nothing pending. -/
theorem octetsFrom_zero (l : List Nat) (h : ∀ v ∈ l, v < 64) : octetsFrom 0 0 l = octets l := by
  have hfirst : ∀ a b, b < 64 → ((0 * 64 + a) * 64 + b) / 16 = a * 4 + b / 16 := by omega
  have hsecond : ∀ a b c, c < 64 →
      (((0 * 64 + a) * 64 + b) % 16 * 64 + c) / 4 = b % 16 * 16 + c / 4 := by omega
  have hthird : ∀ a b c d, (((0 * 64 + a) * 64 + b) % 16 * 64 + c) % 4 * 64 + d =
      c % 4 * 64 + d := by omega
  induction l using octets.induct with
  | case1 a b c d rest ih =>
      simp only [List.forall_mem_cons] at h
      obtain ⟨-, hb, hc, -, hrest⟩ := h
      rw [octetsFrom_none, octetsFrom_six, octetsFrom_four, octetsFrom_two, hfirst a b hb,
        hsecond a b c hc, hthird, ih hrest, octets]
  | case2 a b c =>
      simp only [List.forall_mem_cons] at h
      rw [octetsFrom_none, octetsFrom_six, octetsFrom_four, hfirst a b h.2.1,
        hsecond a b c h.2.2.1, octets]
      rfl
  | case3 a b =>
      simp only [List.forall_mem_cons] at h
      rw [octetsFrom_none, octetsFrom_six, hfirst a b h.2.1, octets]
      rfl
  | case4 l hfour hthree htwo =>
      cases l with
      | nil => rfl
      | cons a l =>
          cases l with
          | nil => rfl
          | cons b l =>
              cases l with
              | nil => exact absurd rfl (htwo a b)
              | cons c l =>
                  cases l with
                  | nil => exact absurd rfl (hthree a b c)
                  | cons d l => exact absurd rfl (hfour a b c d l)

end Base64
end FH8852
