import FH8852.Sensor.Driver

/-!
# The two CV2003 drivers compared
-/

namespace FH8852

open RegisterFile
open Mipi (exposureRegs gainRegs gainLutIdx)
open Driver (tabIdx tab_pairs_length tabIdx_le)

/-- The exposure is too short, or wraps past the frame length: the register is
held at the frame length less 4. -/
def HeldAbove (vCycle lines : UInt32) : Prop := lines ≤ 4 ∨ vCycle < lines

/-- The exposure takes the frame up to its last 8 lines: the register is held at
8. -/
def HeldBelow (vCycle lines : UInt32) : Prop := vCycle - 8 ≤ lines ∧ lines ≤ vCycle

/-- One exposure and twice the exposure are clamped to the same value. -/
def SameClamp (vCycle intt : UInt32) : Prop :=
  vCycle = 12 ∨ HeldAbove vCycle intt ∧ HeldAbove vCycle (intt * 2) ∨
    HeldBelow vCycle intt ∧ HeldBelow vCycle (intt * 2)

theorem exposureVal_double_iff {vCycle : UInt32} (hlow : 12 ≤ vCycle.toNat) (intt : UInt32) :
    exposureVal vCycle intt = exposureVal vCycle (intt * 2) ↔ SameClamp vCycle intt := by
  have hvlt := vCycle.toNat_lt
  have hdouble : (intt * 2).toNat = intt.toNat * 2 % 2 ^ 32 := UInt32.toNat_mul intt 2
  have hfloor : (vCycle - 8).toNat = vCycle.toNat - 8 := by
    rw [UInt32.toNat_sub, show (8 : UInt32).toNat = 8 from rfl]
    omega
  have h4 : (4 : UInt32).toNat = 4 := rfl
  have h12 : (12 : UInt32).toNat = 12 := rfl
  rw [← UInt32.toNat_inj, exposureVal_toNat hlow, exposureVal_toNat hlow]
  simp only [SameClamp, HeldAbove, HeldBelow, ← UInt32.toNat_inj, UInt32.le_iff_toNat_le,
    UInt32.lt_iff_toNat_lt, hdouble, hfloor, h4, h12]
  split_ifs <;> omega

/-- The second driver's table stays below the first one's from its third entry
on. -/
theorem tab_le_lut : ∀ k < 68, tabSensorRegToGain.getD (k + 2) 0 ≤ gainLut.getD k 0 := by
  decide +kernel

theorem gainLutIdx_le (gain : UInt32) : gainLutIdx gain ≤ 68 :=
  List.findIdx_le_length

/-- The entries that `SetGain` passes are below the gain. -/
theorem lut_lt_of_lt_gainLutIdx {gain : UInt32} {k : Nat} (h : k < gainLutIdx gain) :
    (gainLut.getD k 0).toUInt32 < gain := by
  have hk : k < gainLut.length := by
    have := gainLutIdx_le gain
    show k < 69
    omega
  have hpass := List.not_of_lt_findIdx h
  rw [List.getElem_dropLast, decide_eq_false_iff_not, UInt32.not_le] at hpass
  rwa [← List.getElem_eq_getD (h := hk)]

/-- A search among neighbouring entries stops where the second is not below what
is looked for. -/
theorem le_of_findIdx_zip_tail {table : List UInt16} {gain : UInt32} {p : UInt16 × UInt16 → Bool}
    (hp : ∀ entries, p entries = true → gain ≤ entries.2.toUInt32)
    (h : (table.zip table.tail).findIdx p < (table.zip table.tail).length) :
    gain ≤ (table.getD ((table.zip table.tail).findIdx p + 1) 0).toUInt32 := by
  have hstop := hp _ (List.findIdx_getElem (w := h))
  rw [List.getElem_zip, List.getElem_tail] at hstop
  rwa [← List.getElem_eq_getD]

/-- `set_gain` stops where the gain is at most the next entry. -/
theorem le_tab_of_tabIdx {gain : UInt32} (h : tabIdx gain < 249) :
    gain ≤ (tabSensorRegToGain.getD (tabIdx gain + 1) 0).toUInt32 := by
  refine le_of_findIdx_zip_tail (fun entries hentries => ?_) ?_
  · rw [Bool.not_eq_true', Bool.or_eq_false_iff, decide_eq_false_iff_not,
      decide_eq_false_iff_not, UInt32.not_lt, UInt32.not_lt] at hentries
    exact hentries.2
  · exact h.trans_eq tab_pairs_length.symm

/-- Above the least gain the two searches end at different places. -/
theorem gainLutIdx_ne_tabIdx {gain : UInt32} (h : 0x40 < gain) :
    gainLutIdx gain ≠ tabIdx gain := by
  intro hsame
  have hle := gainLutIdx_le gain
  rw [hsame] at hle
  have hstop : gain ≤ (tabSensorRegToGain.getD (tabIdx gain + 1) 0).toUInt32 :=
    le_tab_of_tabIdx (by omega)
  cases hidx : tabIdx gain with
  | zero =>
      rw [hidx] at hstop
      have hfirst : (tabSensorRegToGain.getD 1 0).toUInt32 ≤ 0x40 := by decide
      exact UInt32.not_le.mpr h (UInt32.le_trans hstop hfirst)
  | succ k =>
      have hpass : (gainLut.getD k 0).toUInt32 < gain := lut_lt_of_lt_gainLutIdx (by omega)
      have htab := UInt16.toUInt32_le.mpr (tab_le_lut k (by omega))
      rw [hidx] at hstop
      exact UInt32.not_le.mpr hpass (UInt32.le_trans hstop htab)

/-- The exposure registers after both calls, in both drivers. -/
theorem exposureRegs_agree_iff {m : Mipi} {d : Driver} (hv : m.gVCycle = d.gVCycle)
    (hlow : 12 ≤ d.gVCycle.toNat) (hhigh : d.gVCycle.toNat ≤ 65535) (intt gain : UInt32) :
    (∀ a ∈ exposureRegs, ((m.setIntt intt).setGain gain).regs a =
        ((d.setIntt intt).setGain gain).regs a) ↔ SameClamp d.gVCycle intt := by
  have hnodup : exposureRegs.Nodup := by decide
  have hbound : ∀ lines, (exposureVal d.gVCycle lines).toNat % 256 ^ exposureRegs.length =
      (exposureVal d.gVCycle lines).toNat := by
    intro lines
    apply Nat.mod_eq_of_lt
    rw [exposureVal_toNat hlow]
    show _ < 256 ^ 3
    split <;> omega
  rw [← exposureVal_double_iff hlow, ← UInt32.toNat_inj, ← hbound, ← hbound (intt * 2),
    ← number_writeNumber m.regs hnodup, ← number_writeNumber d.regs hnodup,
    number_inj]
  refine forall₂_congr fun a ha => ?_
  rw [Mipi.setGain_regs_of_notMem _ _ (Mipi.exposureRegs_notMem a ha),
    Driver.setGain_regs_of_notMem _ _ (Mipi.exposureRegs_notMem a ha), Mipi.setIntt_eq,
    Driver.setIntt_eq, hv]

/-- The gain registers after both calls, in both drivers. -/
theorem gainRegs_agree_iff (m : Mipi) (d : Driver) {gain : UInt32} (hlow : 0x40 ≤ gain) :
    (∀ a ∈ gainRegs, (m.setGain gain).regs a = (d.setGain gain).regs a) ↔ gain = 0x40 := by
  constructor
  · intro h
    have hidx := h regGainIdx (by decide)
    rw [Mipi.setGain_regs_idx, Driver.setGain_regs_idx] at hidx
    have hmipi := gainLutIdx_le gain
    have hdriver := tabIdx_le gain
    have hnat := congrArg UInt8.toNat hidx
    rw [UInt8.toNat_ofNat', UInt8.toNat_ofNat'] at hnat
    by_contra hne
    have hlt : 0x40 < gain := UInt32.lt_of_le_of_ne hlow (Ne.symm hne)
    have hindex := gainLutIdx_ne_tabIdx hlt
    omega
  · rintro rfl a ha
    have hidx : gainLutIdx 0x40 = 0 ∧ tabIdx 0x40 = 0 := by decide
    simp only [gainRegs, List.mem_cons, List.not_mem_nil, or_false] at ha
    rcases ha with rfl | rfl | rfl | rfl
    case inr.inl => rw [Mipi.setGain_regs_idx, Driver.setGain_regs_idx, hidx.1, hidx.2]
    -- the mode and the two bytes of the clamped gain are constants here
    all_goals
      simp [Mipi.setGain, Driver.setGain, Mipi.sensorWrite, Driver.snsWrite, regGainMode,
        regGainIdx, regGainHi, regGainLo]
      decide

/-- One driver takes an exposure as it is and the other takes it twice, and their
gain tables part above the least gain.  The calls overwrite the registers that
are compared, whatever these held before. -/
theorem drivers_agree_iff (m : Mipi) (d : Driver) (intt gain : UInt32)
    (hv : m.gVCycle = d.gVCycle) (hlow : 12 ≤ d.gVCycle) (hhigh : d.gVCycle ≤ 65535)
    (hgain : 0x40 ≤ gain ∧ gain ≤ 0x400) :
    (∀ a ∈ exposureRegs ++ gainRegs,
      ((m.setIntt intt).setGain gain).regs a = ((d.setIntt intt).setGain gain).regs a) ↔
      gain = 0x40 ∧ SameClamp d.gVCycle intt := by
  rw [List.forall_mem_append, exposureRegs_agree_iff hv hlow hhigh, gainRegs_agree_iff _ _ hgain.1,
    and_comm]

/-- The drivers at 25 frames a second, with their registers at zero. -/
def mipiAt25 : Mipi := { gVCycle := 2700, regs := fun _ => 0 }

def driverAt25 : Driver := { gVCycle := 2700, regs := fun _ => 0 }

theorem drivers_agree_iff_sample :
    (∀ a ∈ exposureRegs ++ gainRegs,
      ((mipiAt25.setIntt 3000).setGain 0x40).regs a =
        ((driverAt25.setIntt 3000).setGain 0x40).regs a) ↔
      (0x40 : UInt32) = 0x40 ∧ SameClamp 2700 3000 :=
  drivers_agree_iff mipiAt25 driverAt25 3000 0x40 rfl (by decide) (by decide) (by decide)

/-- An exposure of 100 lines at the least gain: the middle byte of the exposure
register is that of 2600 in one driver and of 2500 in the other. -/
theorem drivers_differ :
    ¬ ∀ (m : Mipi) (d : Driver) (intt gain : UInt32), m.gVCycle = d.gVCycle →
      m.regs = d.regs → 12 ≤ d.gVCycle → d.gVCycle ≤ 65535 → 0x40 ≤ gain → gain ≤ 0x400 →
      ∀ a ∈ exposureRegs ++ gainRegs,
        ((m.setIntt intt).setGain gain).regs a = ((d.setIntt intt).setGain gain).regs a := by
  intro h
  have hmid := h mipiAt25 driverAt25 100 0x40 rfl rfl (by decide) (by decide) (by decide)
    (by decide) regExpMid (by decide)
  exact absurd hmid (by decide)

end FH8852
