import FH8852.Lib.Search
import FH8852.Sensor.Driver

/-!
# What one exposure and one gain program

`set_intt` and `set_gain` of `cv2003_driver.c`, for any integration time and any
gain they can be asked for.
-/

namespace FH8852

open RegisterFile Search
open Mipi (exposureRegs)

namespace Driver

/-! ## The exposure -/

/-- `v_cycle - 2 * intt` in the integers, kept between 8 and `v_cycle - 4`. -/
def clampedExposure (vCycle intt : UInt32) : Int :=
  max 8 (min ((vCycle.toNat : Int) - 2 * intt.toNat) (vCycle.toNat - 4))

/-- `set_intt` writes the bytes of the clamped exposure to its registers, and
nothing else. -/
def Clamps (d : Driver) (intt : UInt32) : Prop :=
  (d.setIntt intt).regs = writeNumber d.regs exposureRegs (clampedExposure d.gVCycle intt).toNat

/-- The exposure takes at most the frame, or wraps around to the last lines of it,
or there is one value only. -/
def Clampable (vCycle intt : UInt32) : Prop :=
  2 * intt.toNat ≤ vCycle.toNat ∨
    vCycle.toNat ≤ 2 * intt.toNat % 2 ^ 32 + 8 ∧ 2 * intt.toNat % 2 ^ 32 ≤ vCycle.toNat ∨
    vCycle.toNat = 12

section Exposure

variable {d : Driver} (hlow : 12 ≤ d.gVCycle.toNat) (hhigh : d.gVCycle.toNat ≤ 65535)

include hlow

theorem exposureVal_clamped_iff (intt : UInt32) :
    ((exposureVal d.gVCycle (intt * 2)).toNat : Int) = clampedExposure d.gVCycle intt ↔
      Clampable d.gVCycle intt := by
  have hdouble : (intt * 2).toNat = intt.toNat * 2 % 2 ^ 32 := UInt32.toNat_mul intt 2
  have hv := d.gVCycle.toNat_lt
  rw [exposureVal_toNat hlow, hdouble]
  unfold clampedExposure Clampable
  split_ifs <;> omega

include hhigh

theorem clamps_iff (intt : UInt32) : d.Clamps intt ↔ Clampable d.gVCycle intt := by
  have hnodup : exposureRegs.Nodup := by decide
  have hval : (exposureVal d.gVCycle (intt * 2)).toNat < 256 ^ exposureRegs.length := by
    rw [exposureVal_toNat hlow]
    show _ < 256 ^ 3
    split_ifs <;> omega
  have hclamped : 0 ≤ clampedExposure d.gVCycle intt ∧
      (clampedExposure d.gVCycle intt).toNat < 256 ^ exposureRegs.length := by
    unfold clampedExposure
    show _ ∧ _ < 256 ^ 3
    omega
  rw [← exposureVal_clamped_iff hlow, Clamps, setIntt_eq]
  constructor
  · intro h
    have hnumber := congrArg (fun regs => number regs exposureRegs) h
    simp only [number_writeNumber _ hnodup, Nat.mod_eq_of_lt hval,
      Nat.mod_eq_of_lt hclamped.2] at hnumber
    omega
  · intro h
    rw [← h, Int.toNat_natCast]

theorem number_clamped {intt : UInt32} (h : d.Clamps intt) :
    (number (d.setIntt intt).regs exposureRegs : Int) = clampedExposure d.gVCycle intt := by
  have hnodup : exposureRegs.Nodup := by decide
  have hbounds : 0 ≤ clampedExposure d.gVCycle intt ∧
      (clampedExposure d.gVCycle intt).toNat < 256 ^ exposureRegs.length := by
    unfold clampedExposure
    show _ ∧ _ < 256 ^ 3
    omega
  rw [h, number_writeNumber _ hnodup, Nat.mod_eq_of_lt hbounds.2]
  exact Int.toNat_of_nonneg hbounds.1

end Exposure

/-- The exposure is clamped unless twice the integration time exceeds the frame
length, and while it is clamped a longer one programs no larger value. -/
theorem set_intt_clamps_iff (d : Driver) (intt : UInt32) (hlow : 12 ≤ d.gVCycle.toNat)
    (hhigh : d.gVCycle.toNat ≤ 65535) :
    (d.Clamps intt ↔ Clampable d.gVCycle intt) ∧
      ∀ longer, intt ≤ longer → Clampable d.gVCycle intt → Clampable d.gVCycle longer →
        number (d.setIntt longer).regs exposureRegs ≤
          number (d.setIntt intt).regs exposureRegs := by
  refine ⟨clamps_iff hlow hhigh intt, fun longer hle hintt hlonger => ?_⟩
  have hshort := number_clamped hlow hhigh ((clamps_iff hlow hhigh intt).mpr hintt)
  have hlong := number_clamped hlow hhigh ((clamps_iff hlow hhigh longer).mpr hlonger)
  rw [UInt32.le_iff_toNat_le] at hle
  unfold clampedExposure at hshort hlong
  omega

/-- The driver at 25 frames a second, with its registers at zero. -/
def at25 : Driver := { gVCycle := 2700, regs := fun _ => 0 }

theorem set_intt_clamps_iff_sample : (at25.Clamps 1345 ↔ Clampable 2700 1345) ∧
    ∀ longer, 1345 ≤ longer → Clampable 2700 1345 → Clampable 2700 longer →
      number (at25.setIntt longer).regs exposureRegs ≤
        number (at25.setIntt 1345).regs exposureRegs :=
  set_intt_clamps_iff at25 1345 (by decide) (by decide)

/-- An integration time of 1351 lines asks for more than the frame, and programs
2696 where 1350 lines program 8. -/
theorem long_exposure_is_short :
    ¬ ∀ (d : Driver) (intt : UInt32), 12 ≤ d.gVCycle.toNat → d.gVCycle.toNat ≤ 65535 →
      d.Clamps intt ∧ ∀ longer, intt ≤ longer →
        number (d.setIntt longer).regs exposureRegs ≤
          number (d.setIntt intt).regs exposureRegs := by
  intro h
  have hlonger := (h at25 1350 (by decide) (by decide)).2 1351 (by decide)
  exact absurd hlonger (by decide)

/-! ## The gain -/

/-- The entries of the gain table. -/
def tab (i : Nat) : Nat := (tabSensorRegToGain.getD i 0).toNat

theorem pair_getElem {i : Nat} (h : i < (tabSensorRegToGain.zip tabSensorRegToGain.tail).length) :
    (tabSensorRegToGain.zip tabSensorRegToGain.tail)[i].1.toNat = tab i ∧
      (tabSensorRegToGain.zip tabSensorRegToGain.tail)[i].2.toNat = tab (i + 1) := by
  rw [List.getElem_zip, List.getElem_tail]
  exact ⟨congrArg UInt16.toNat (List.getElem_eq_getD 0),
    congrArg UInt16.toNat (List.getElem_eq_getD 0)⟩

/-- The loop stops where the gain lies between an entry and the next. -/
theorem passes_iff (gain : UInt32) (entries : UInt16 × UInt16) :
    (!(decide (gain < entries.1.toUInt32) || decide (entries.2.toUInt32 < gain))) = true ↔
      entries.1.toNat ≤ gain.toNat ∧ gain.toNat ≤ entries.2.toNat := by
  rw [Bool.not_eq_true', Bool.or_eq_false_iff, decide_eq_false_iff_not, decide_eq_false_iff_not,
    UInt32.not_lt, UInt32.not_lt, UInt32.le_iff_toNat_le, UInt32.le_iff_toNat_le,
    UInt16.toNat_toUInt32, UInt16.toNat_toUInt32]

theorem tabIdx_isLeast {gain : UInt32} (h : tabIdx gain < 249) :
    IsLeast {i | i < 249 ∧ Brackets tab gain.toNat i} (tabIdx gain) := by
  have hpair := h.trans_eq tab_pairs_length.symm
  refine ⟨⟨h, ?_⟩, fun i hi => ?_⟩
  · have hstop := (passes_iff gain _).mp (List.findIdx_getElem (w := hpair))
    obtain ⟨hfirst, hsecond⟩ := pair_getElem hpair
    exact ⟨hfirst ▸ hstop.1, hsecond ▸ hstop.2⟩
  · obtain ⟨hi, hbrackets⟩ := hi
    by_contra hlt
    have hilen := hi.trans_eq tab_pairs_length.symm
    obtain ⟨hfirst, hsecond⟩ := pair_getElem hilen
    have hpass := List.not_of_lt_findIdx (Nat.lt_of_not_le hlt)
    rw [Brackets, ← hfirst, ← hsecond, ← passes_iff, hpass] at hbrackets
    exact absurd hbrackets Bool.false_ne_true

theorem tabIdx_lt_iff (gain : UInt32) :
    tabIdx gain < 249 ↔ ∃ i < 249, Brackets tab gain.toNat i := by
  constructor
  · exact fun h => ⟨tabIdx gain, (tabIdx_isLeast h).1⟩
  · rintro ⟨i, hi, hbrackets⟩
    rw [← tab_pairs_length]
    refine List.findIdx_lt_length_of_exists ?_
    have hilen := hi.trans_eq tab_pairs_length.symm
    obtain ⟨hfirst, hsecond⟩ := pair_getElem hilen
    rw [Brackets, ← hfirst, ← hsecond, ← passes_iff] at hbrackets
    exact ⟨_, List.getElem_mem hilen, hbrackets⟩

theorem tab_ge : ∀ i < 250, 0x40 ≤ tab i := by decide +kernel

/-- The loop falls through just for the gains outside the table. -/
theorem tabIdx_eq_iff (gain : UInt32) : tabIdx gain = 249 ↔ gain < 0x40 ∨ 0xffff < gain := by
  have hle := tabIdx_le gain
  have hlow : (0x40 : UInt32).toNat = 0x40 := rfl
  have hhigh : (0xffff : UInt32).toNat = 0xffff := rfl
  have hfirst : tab 0 = 0x40 := by decide
  have hlast : tab 249 = 0xffff := by decide +kernel
  rw [UInt32.lt_iff_toNat_lt, UInt32.lt_iff_toNat_lt, hlow, hhigh]
  constructor
  · intro h
    by_contra hinside
    obtain ⟨i, hi, hbrackets⟩ := @exists_brackets Nat _ tab gain.toNat 248 (by omega)
      (by show _ ≤ tab 249; omega)
    have hlt := (tabIdx_lt_iff gain).mpr ⟨i, by omega, hbrackets⟩
    omega
  · intro h
    by_contra hne
    obtain ⟨i, hi, hbelow, habove⟩ := (tabIdx_lt_iff gain).mp (by omega)
    have hentry := tab_ge i (by omega)
    have hbound : tab (i + 1) < 65536 := UInt16.toNat_lt _
    omega

theorem tabIdx_le_iff {gain gain' : UInt32} (hle : gain ≤ gain') :
    tabIdx gain ≤ tabIdx gain' ↔ 0x40 ≤ gain ∨ gain' < 0x40 ∨ 0xffff < gain' := by
  have hbound := tabIdx_le gain
  have hbound' := tabIdx_le gain'
  have hout := tabIdx_eq_iff gain
  have hout' := tabIdx_eq_iff gain'
  by_cases hfell : tabIdx gain' = 249
  · exact iff_of_true (by omega) (.inr (hout'.mp hfell))
  · have hleast := @tabIdx_isLeast gain' (by omega)
    have hinside := fun h => hfell (hout'.mpr h)
    constructor
    · intro h
      have hfound : tabIdx gain ≠ 249 := by omega
      exact .inl (UInt32.not_lt.mp fun hlow => hfound (hout.mpr (.inl hlow)))
    · intro h
      have hlow := UInt32.le_iff_toNat_le.mp (h.resolve_right hinside)
      have hfirst : tab 0 = (0x40 : UInt32).toNat := by decide
      have hfound : tabIdx gain ≠ 249 := fun h249 => by
        rcases hout.mp h249 with hless | hmore
        · exact UInt32.not_le.mpr hless (UInt32.le_iff_toNat_le.mpr hlow)
        · exact hinside (.inr (UInt32.lt_of_lt_of_le hmore hle))
      exact le_of_brackets (hfirst.trans_le hlow) (UInt32.le_iff_toNat_le.mp hle)
        (tabIdx_isLeast (by omega)) hleast.1.1 hleast.1.2

/-- The sensor's gain: the gain in steps of 32, kept between 0x40 and 0x400. -/
def gainNumber (gain : UInt32) : UInt32 :=
  if gain >>> 5 < 0x40 then 0x40 else if gain >>> 5 > 0x3ff then 0x400 else gain >>> 5

theorem gainNumber_toNat (gain : UInt32) :
    (gainNumber gain).toNat = max 0x40 (min 0x400 (gain.toNat / 32)) := by
  have hlow : (0x40 : UInt32).toNat = 0x40 := rfl
  have hhigh : (0x3ff : UInt32).toNat = 0x3ff := rfl
  have htop : (0x400 : UInt32).toNat = 0x400 := rfl
  have hshift : (gain >>> 5).toNat = gain.toNat / 32 := by
    rw [UInt32.toNat_shiftRight]
    exact Nat.shiftRight_eq_div_pow _ 5
  simp only [gainNumber, gt_iff_lt, UInt32.lt_iff_toNat_lt, apply_ite UInt32.toNat, hshift, hlow,
    hhigh, htop]
  split_ifs <;> omega

/-- The registers of the sensor's gain, high byte first. -/
def gainNumberRegs : List UInt16 := [regGainHi, regGainLo]

theorem setGain_number (d : Driver) (gain : UInt32) :
    number (d.setGain gain).regs gainNumberRegs = max 0x40 (min 0x400 (gain.toNat / 32)) := by
  have hnodup : gainNumberRegs.Nodup := by decide
  have hwritten : ∃ regs, (d.setGain gain).regs =
      writeNumber regs gainNumberRegs (gainNumber gain).toNat := by
    simp only [gainNumberRegs, writeNumber_two, setGain, snsWrite_byte]
    exact ⟨_, rfl⟩
  obtain ⟨regs, hregs⟩ := hwritten
  rw [hregs, number_writeNumber regs hnodup, gainNumber_toNat]
  show _ % 256 ^ 2 = _
  omega

/-- What is expected of `set_gain` for a gain, and for one that is no smaller. -/
structure GainFollows (d d' : Driver) (gain gain' : UInt32) : Prop where
  inTable : ((d.setGain gain).regs regGainIdx).toNat < tabSensorRegToGain.length
  least : 0x40 ≤ gain → gain ≤ 0xffff →
    IsLeast {i | i + 1 < tabSensorRegToGain.length ∧ tab i ≤ gain.toNat ∧ gain.toNat ≤ tab (i + 1)}
      ((d.setGain gain).regs regGainIdx).toNat
  index_le : ((d.setGain gain).regs regGainIdx).toNat ≤
    ((d'.setGain gain').regs regGainIdx).toNat
  number_le : number (d.setGain gain).regs gainNumberRegs ≤
    number (d'.setGain gain').regs gainNumberRegs

theorem setGain_index (d : Driver) (gain : UInt32) :
    ((d.setGain gain).regs regGainIdx).toNat = tabIdx gain := by
  have hle := tabIdx_le gain
  rw [setGain_regs_idx, UInt8.toNat_ofNat']
  omega

/-- The index follows the gain, except from below the table to a gain in it: a gain
that is too small is given the last index. -/
theorem set_gain_follows_iff (d d' : Driver) {gain gain' : UInt32} (hle : gain ≤ gain') :
    GainFollows d d' gain gain' ↔ 0x40 ≤ gain ∨ gain' < 0x40 ∨ 0xffff < gain' := by
  rw [← tabIdx_le_iff hle]
  have hbound := tabIdx_le gain
  constructor
  · intro h
    rw [← setGain_index d, ← setGain_index d']
    exact h.index_le
  · intro h
    refine ⟨?_, fun hlow hhigh => ?_, ?_, ?_⟩
    · rw [setGain_index, tab_length]
      omega
    · have hne : tabIdx gain ≠ 249 := fun h249 => by
        rcases (tabIdx_eq_iff gain).mp h249 with hless | hmore
        · exact UInt32.not_le.mpr hless hlow
        · exact UInt32.not_le.mpr hmore hhigh
      have hset : {i | i + 1 < tabSensorRegToGain.length ∧ tab i ≤ gain.toNat ∧
          gain.toNat ≤ tab (i + 1)} = {i | i < 249 ∧ Brackets tab gain.toNat i} := by
        rw [tab_length]
        exact Set.ext fun i => and_congr_left fun _ => by omega
      rw [setGain_index, hset]
      exact tabIdx_isLeast (by omega)
    · rw [setGain_index, setGain_index]
      exact h
    · rw [setGain_number, setGain_number]
      have hnat := UInt32.le_iff_toNat_le.mp hle
      omega

theorem set_gain_follows_iff_sample : GainFollows at25 at25 0x40 0x401 ↔
    (0x40 : UInt32) ≤ 0x40 ∨ (0x401 : UInt32) < 0x40 ∨ (0xffff : UInt32) < 0x401 :=
  set_gain_follows_iff at25 at25 (by decide)

/-- A gain of 0x3f programs index 249, a gain of 0x40 index 0. -/
theorem small_gain_last_index :
    ¬ ∀ (d d' : Driver) (gain gain' : UInt32), gain ≤ gain' → GainFollows d d' gain gain' := by
  intro h
  have hindex := (h at25 at25 0x3f 0x40 (by decide)).index_le
  exact absurd hindex (by decide +kernel)

end Driver
end FH8852
