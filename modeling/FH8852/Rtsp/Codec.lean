import FH8852.Lib.Base64
import FH8852.Rtsp.Text

/-!
# Base64 as the server has it

`base64_encode` and `base64_decode` against the standard encoding, and the round trip
through both, with characters in between that are not in the alphabet.
-/

namespace FH8852
namespace Rtsp

open CLib Base64

/-! ## `base64_encode` -/

theorem b64Char_eq (v : UInt32) : b64Char v = char (v.toNat % 64) := by
  have hmask : (v &&& 0x3f).toNat = v.toNat % 64 := by
    rw [UInt32.toNat_and]
    exact Nat.and_two_pow_sub_one_eq_mod v.toNat 6
  rw [b64Char, hmask]
  rfl

theorem toNat_group (a b c : UInt8) :
    (a.toUInt32 <<< 16 ||| b.toUInt32 <<< 8 ||| c.toUInt32).toNat =
      a.toNat * 65536 + b.toNat * 256 + c.toNat := by
  have ha := a.toNat_lt
  have hb := b.toNat_lt
  have hc := c.toNat_lt
  have hhigh : (a.toUInt32 <<< 16).toNat = a.toNat <<< 16 := by
    rw [UInt32.toNat_shiftLeft, UInt8.toNat_toUInt32]
    show a.toNat <<< 16 % 4294967296 = _
    rw [Nat.shiftLeft_eq]
    omega
  have hmid : (b.toUInt32 <<< 8).toNat = b.toNat <<< 8 := by
    rw [UInt32.toNat_shiftLeft, UInt8.toNat_toUInt32]
    show b.toNat <<< 8 % 4294967296 = _
    rw [Nat.shiftLeft_eq]
    omega
  have hbits : b.toNat <<< 8 < 2 ^ 16 := by
    rw [Nat.shiftLeft_eq]
    omega
  rw [UInt32.toNat_or, UInt32.toNat_or, hhigh, hmid, UInt8.toNat_toUInt32,
    ← Nat.shiftLeft_add_eq_or_of_lt hbits]
  have hshift : a.toNat <<< 16 + b.toNat <<< 8 = (a.toNat * 256 + b.toNat) <<< 8 := by
    simp only [Nat.shiftLeft_eq]
    omega
  rw [hshift, ← Nat.shiftLeft_add_eq_or_of_lt (show c.toNat < 2 ^ 8 from hc), Nat.shiftLeft_eq]
  omega

/-- The four sextets of three bytes. -/
theorem b64Char_group {v : UInt32} {a b c : UInt8}
    (hv : v.toNat = a.toNat * 65536 + b.toNat * 256 + c.toNat) :
    b64Char (v >>> 18) = char (a.toNat / 4) ∧
      b64Char (v >>> 12) = char (a.toNat % 4 * 16 + b.toNat / 16) ∧
      b64Char (v >>> 6) = char (b.toNat % 16 * 4 + c.toNat / 64) ∧
      b64Char v = char (c.toNat % 64) := by
  have ha := a.toNat_lt
  have hb := b.toNat_lt
  have hc := c.toNat_lt
  have hshift : ∀ k : UInt32, b64Char (v >>> k) =
      char ((a.toNat * 65536 + b.toNat * 256 + c.toNat) / 2 ^ (k.toNat % 32) % 64) := by
    intro k
    rw [b64Char_eq, UInt32.toNat_shiftRight, Nat.shiftRight_eq_div_pow, hv]
  have h₁ : (a.toNat * 65536 + b.toNat * 256 + c.toNat) / 2 ^ 18 % 64 = a.toNat / 4 := by omega
  have h₂ : (a.toNat * 65536 + b.toNat * 256 + c.toNat) / 2 ^ 12 % 64 =
      a.toNat % 4 * 16 + b.toNat / 16 := by omega
  have h₃ : (a.toNat * 65536 + b.toNat * 256 + c.toNat) / 2 ^ 6 % 64 =
      b.toNat % 16 * 4 + c.toNat / 64 := by omega
  have h₄ : (a.toNat * 65536 + b.toNat * 256 + c.toNat) % 64 = c.toNat % 64 := by omega
  refine ⟨?_, ?_, ?_, ?_⟩
  · exact (hshift 18).trans (congrArg char h₁)
  · exact (hshift 12).trans (congrArg char h₂)
  · exact (hshift 6).trans (congrArg char h₃)
  · rw [b64Char_eq, hv, h₄]

/-- `base64_encode` writes the standard encoding. -/
theorem base64Encode_eq (data : Bytes) : base64Encode data = encode data := by
  induction data using base64Encode.induct with
  | case1 => rfl
  | case2 a =>
      have hv : (a.toUInt32 <<< 16).toNat =
          a.toNat * 65536 + (0 : UInt8).toNat * 256 + (0 : UInt8).toNat := by
        rw [← toNat_group]
        show _ = (a.toUInt32 <<< 16 ||| 0 ||| 0).toNat
        rw [UInt32.or_zero, UInt32.or_zero]
      obtain ⟨h₁, h₂, -, -⟩ := b64Char_group hv
      simp only [base64Encode, encode, h₁, h₂]
      rfl
  | case3 a b =>
      have hv : (a.toUInt32 <<< 16 ||| b.toUInt32 <<< 8).toNat =
          a.toNat * 65536 + b.toNat * 256 + (0 : UInt8).toNat := by
        rw [← toNat_group]
        show _ = (a.toUInt32 <<< 16 ||| b.toUInt32 <<< 8 ||| 0).toNat
        rw [UInt32.or_zero]
      obtain ⟨h₁, h₂, h₃, -⟩ := b64Char_group hv
      simp only [base64Encode, encode, h₁, h₂, h₃]
      rfl
  | case4 a b c rest ih =>
      obtain ⟨h₁, h₂, h₃, h₄⟩ := b64Char_group (toNat_group a b c)
      simp only [base64Encode, encode, h₁, h₂, h₃, h₄, ih]

/-! ## `base64_decode` -/

theorem b64Val_eq {c : UInt8} (hc : c ≠ 0) : b64Val c = (value c).map UInt32.ofNat := if_neg hc

theorem base64DecodeLoop_full {cap : Nat} {out : Bytes} (hfull : cap ≤ out.length + 1)
    (text : Bytes) (acc : UInt32) (bits : Nat) : base64DecodeLoop cap text acc bits out = out := by
  induction text generalizing acc bits with
  | nil => rfl
  | cons c text ih =>
      rw [base64DecodeLoop]
      split
      · rfl
      · cases b64Val c with
        | none => exact ih acc bits
        | some v =>
            show (if _ then _ else _) = out
            rw [if_neg (by omega)]
            exact ih _ _

theorem toNat_shift_or (acc : UInt32) {v : Nat} (hv : v < 64) :
    (acc <<< 6 ||| UInt32.ofNat v).toNat = acc.toNat % 2 ^ 26 * 64 + v := by
  have hacc : acc.toNat * 2 ^ 6 % 2 ^ 32 = (acc.toNat % 2 ^ 26) <<< 6 := by
    rw [Nat.shiftLeft_eq]
    omega
  have hval : (UInt32.ofNat v).toNat = v := by
    rw [UInt32.toNat_ofNat']
    omega
  rw [UInt32.toNat_or, UInt32.toNat_shiftLeft, hval, show (6 : UInt32).toNat % 32 = 6 from rfl,
    Nat.shiftLeft_eq, hacc, ← Nat.shiftLeft_add_eq_or_of_lt hv, Nat.shiftLeft_eq]

/-- One character of the alphabet: the byte it completes, and the bits it
leaves. -/
theorem sextet_step (acc : UInt32) {v bits : Nat} (hv : v < 64)
    (hbits : bits = 2 ∨ bits = 4 ∨ bits = 6) :
    ((acc <<< 6 ||| UInt32.ofNat v) >>> UInt32.ofNat (bits - 2)).toUInt8 =
        UInt8.ofNat ((acc.toNat % 2 ^ bits * 64 + v) / 2 ^ (bits - 2)) ∧
      (acc <<< 6 ||| UInt32.ofNat v).toNat % 2 ^ (bits - 2) =
        (acc.toNat % 2 ^ bits * 64 + v) % 2 ^ (bits - 2) := by
  have hnext := toNat_shift_or acc hv
  generalize acc <<< 6 ||| UInt32.ofNat v = next at hnext ⊢
  have hshift : (UInt32.ofNat (bits - 2)).toNat % 32 = bits - 2 := by
    rw [UInt32.toNat_ofNat']
    omega
  constructor
  · apply UInt8.toNat_inj.mp
    rw [UInt32.toNat_toUInt8, UInt32.toNat_shiftRight, hshift, hnext, UInt8.toNat_ofNat',
      Nat.shiftRight_eq_div_pow]
    rcases hbits with rfl | rfl | rfl <;> omega
  · rw [hnext]
    rcases hbits with rfl | rfl | rfl <;> omega

theorem base64DecodeLoop_eq {cap : Nat} {text : Bytes} (hnul : (0 : UInt8) ∉ text) {acc : UInt32}
    {bits : Nat} (hbits : bits ≤ 6 ∧ bits % 2 = 0) (out : Bytes) :
    base64DecodeLoop cap text acc bits out =
      out ++ (octetsFrom (acc.toNat % 2 ^ bits) bits (sextets text)).take
        (cap - 1 - out.length) := by
  induction text generalizing acc bits out with
  | nil =>
      show out = out ++ List.take _ []
      rw [List.take_nil, List.append_nil]
  | cons c text ih =>
      by_cases hfull : cap ≤ out.length + 1
      · rw [base64DecodeLoop_full hfull, show cap - 1 - out.length = 0 by omega, List.take_zero,
          List.append_nil]
      rw [List.mem_cons, not_or] at hnul
      by_cases hfill : c = 61
      · rw [hfill, sextets_fill, base64DecodeLoop, if_pos (.inr rfl)]
        show out = out ++ List.take _ []
        rw [List.take_nil, List.append_nil]
      have hstop : ¬ (c = 0 ∨ c = 61) := not_or.mpr ⟨Ne.symm hnul.1, hfill⟩
      rw [base64DecodeLoop, if_neg hstop, b64Val_eq (Ne.symm hnul.1), sextets_cons hfill]
      cases hv : value c with
      | none => exact ih hnul.2 hbits out
      | some v =>
          have hlt := value_lt hv
          show (if 8 ≤ bits + 6 ∧ out.length + 1 < cap then _ else _) =
            out ++ List.take _ (octetsFrom _ bits (v :: sextets text))
          by_cases hzero : bits = 0
          · -- six bits are not a byte yet
            subst hzero
            rw [if_neg (by omega), ih hnul.2 (by omega), octetsFrom_none, toNat_shift_or acc hlt]
            congr 3
            omega
          · have hcases : bits = 2 ∨ bits = 4 ∨ bits = 6 := by omega
            obtain ⟨hbyte, hpending⟩ := sextet_step acc hlt hcases
            have hroom : cap - 1 - out.length = cap - 1 - (out.length + 1) + 1 := by omega
            rw [if_pos (by omega), ih hnul.2 (by omega), octetsFrom, if_pos (by omega), hbyte,
              hpending, hroom, List.take_succ_cons, List.length_append, List.append_assoc]
            rfl

theorem base64Decode_eq {text : Bytes} (hnul : (0 : UInt8) ∉ text) (cap : Nat) :
    base64Decode text cap = (decode text).take (cap - 1) := by
  rw [base64Decode, base64DecodeLoop_eq hnul (by omega), List.nil_append]
  show List.take (cap - 1 - 0) (octetsFrom (0 % 2 ^ 0) 0 _) = _
  rw [Nat.zero_mod, octetsFrom_zero _ (sextets_lt text)]
  rfl

/-! ## The round trip -/

/-- `base64_decode`: the array that it writes to. -/
def base64DecodeOut (text out : Bytes) : Bytes := stored out (base64Decode text out.length)

/-- The second text is the first with characters inserted that stand for nothing. -/
inductive Inserted : Bytes → Bytes → Prop where
  | nil : Inserted [] []
  | keep (c : UInt8) {text text' : Bytes} (h : Inserted text text') :
      Inserted (c :: text) (c :: text')
  | insert (c : UInt8) {text text' : Bytes} (halien : c ∉ b64Tab) (hfill : c ≠ 61) (hnul : c ≠ 0)
      (h : Inserted text text') : Inserted text (c :: text')

theorem Inserted.refl (text : Bytes) : Inserted text text := by
  induction text with
  | nil => exact .nil
  | cons c text ih => exact .keep c ih

theorem Inserted.sextets_eq {text text' : Bytes} (h : Inserted text text') :
    sextets text' = sextets text := by
  induction h with
  | nil => rfl
  | keep c _ ih =>
      by_cases hc : c = 61
      · rw [hc, sextets_fill, sextets_fill]
      · rw [sextets_cons hc, sextets_cons hc, ih]
  | insert c halien hfill _ _ ih =>
      have hvalue : value c = none := List.idxOf?_eq_none_iff.mpr halien
      rw [sextets_cons hfill, hvalue, ih]
      rfl

theorem Inserted.no_nul {text text' : Bytes} (h : Inserted text text') (hnul : (0 : UInt8) ∉ text) :
    (0 : UInt8) ∉ text' := by
  induction h with
  | nil => exact hnul
  | keep c _ ih =>
      rw [List.mem_cons, not_or] at hnul ⊢
      exact ⟨hnul.1, ih hnul.2⟩
  | insert c _ _ hc _ ih =>
      rw [List.mem_cons, not_or]
      exact ⟨hc.symm, ih hnul⟩

theorem base64Encode_no_nul (data : Bytes) : (0 : UInt8) ∉ base64Encode data := by
  intro h
  rw [base64Encode_eq] at h
  exact absurd (mem_encode h) (by decide)

/-- The encoding is the standard one, and decoding it gives the bytes back as far as
the array goes, whatever else was inserted. -/
theorem base64_round_trip (x out : Bytes) :
    base64Encode x = encode x ∧ (base64Encode x).length = 4 * ((x.length + 2) / 3) ∧
      ∀ text, Inserted (base64Encode x) text →
        base64DecodeOut text out = stored out (x.take (out.length - 1)) := by
  refine ⟨base64Encode_eq x, ?_, fun text htext => ?_⟩
  · rw [base64Encode_eq, encode_length, Nat.mul_comm]
  · have hdecode : decode text = x := by
      rw [decode, htext.sextets_eq, base64Encode_eq]
      exact decode_encode x
    rw [base64DecodeOut, base64Decode_eq (htext.no_nul (base64Encode_no_nul x)), hdecode]

/-- `YWJj` with a line end inside, into an array of three bytes. -/
theorem base64_round_trip_sample :
    base64DecodeOut [89, 87, 10, 74, 106] [0, 0, 0] = stored [0, 0, 0] [97, 98] :=
  (base64_round_trip [97, 98, 99] [0, 0, 0]).2.2 _
    (.keep 89 (.keep 87 (.insert 10 (by decide) (by decide) (by decide) (.refl [74, 106]))))

end Rtsp
end FH8852
