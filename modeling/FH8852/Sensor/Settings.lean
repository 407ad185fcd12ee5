import FH8852.Sensor.FrameTiming

/-!
# What the sensor has been set to

The callbacks of `libcv2003_mipi.c` set the sensor up in any order, and its getters read
globals and registers.  After a run every setting is that of the latest call that sets it,
whatever was called in between.
-/

namespace FH8852
namespace Mipi

open RegisterFile

/-! ## Getters -/

def getSensorFlipMirror (m : Mipi) : UInt32 :=
  let val := (m.sensorRead regFlipMirror).toUInt8.toUInt32
  ((val &&& 1) <<< 1) ||| ((val >>> 1) &&& 1)

def getSensorAttribute (m : Mipi) : List UInt32 := [1920, 1080, m.gVCycle, 720]

def getAEDefault (m : Mipi) : List UInt32 := [0, m.gVCycle - 4, 0x40, 0x400]

def getAEInfo (m : Mipi) : List UInt32 := [m.gExposure, m.gGain, m.gVCycle]

def calcSnsValidIntt (m : Mipi) (intt : UInt32) : UInt32 :=
  if intt > m.gVCycle - 4 then m.gVCycle - 4 else intt

def calcSnsValidGain (gain : UInt32) : UInt32 :=
  let gain := if gain < 0x40 then 0x40 else gain
  if gain > 0x400 then 0x400 else gain

/-! ## What a call sets -/

def run (m : Mipi) (calls : List Call) : Mipi := calls.foldl apply m

/-- The value of `reg_gain` in `SetGain`. -/
def regGain (gain : UInt32) : UInt32 :=
  let reg : UInt32 := if gain >>> 5 < 0x40 then 0x40 else gain >>> 5
  if reg > 0x3ff then 0x3ff else reg

/-- The registers of `reg_gain`, high byte first. -/
def regGainRegs : List UInt16 := [regGainHi, regGainLo]

namespace Call

def frame? : Call → Option UInt32
  | setSensorFmt format => some (sensorCfg format).vCycle.toUInt32
  | setSnsFrameH frameH => some (frameLength frameH)
  | _ => none

def intt? : Call → Option UInt32
  | setIntt intt => some intt
  | _ => none

def gain? : Call → Option UInt32
  | setGain gain => some gain
  | _ => none

def mode? : Call → Option UInt32
  | setSensorFlipMirror mode => some (mode &&& 3)
  | _ => none

/-- What a call sets the gain mode to: between its two bounds a gain leaves it. -/
def gainMode? : Call → Option UInt8
  | setSensorFmt _ => some 0x10
  | setGain gain => if gain < 0x401 then some 0x10 else if gain > 0x7ff then some 0x15 else none
  | _ => none

def streams? : Call → Option UInt8
  | setSensorFmt _ => some 1
  | sensorKick => some 1
  | _ => none

/-- What a call sets a register to that none of the controls has. -/
def format? (a : UInt16) : Call → Option UInt8
  | setSensorFmt format => (fmtWrites format).reverse.lookup a
  | _ => none

end Call

/-- The registers of the controls. -/
def controlRegs : List UInt16 := regFlipMirror :: (exposureRegs ++ vcycRegs ++ gainRegs)

/-- What `calls` have left of `m`. -/
structure Latest (m : Mipi) (calls : List Call) (s : Mipi) : Prop where
  frame : s.gVCycle = latest Call.frame? calls m.gVCycle
  info : s.getAEInfo =
    [latest Call.intt? calls m.gExposure, latest Call.gain? calls m.gGain, s.gVCycle]
  flip : s.getSensorFlipMirror = latest Call.mode? calls m.getSensorFlipMirror
  /-- The other bits of the register of the flip are never touched. -/
  flipRest : s.regs regFlipMirror &&& 0xfc = m.regs regFlipMirror &&& 0xfc
  gainIdx : s.regs regGainIdx =
    latest (fun c => c.gain?.map fun gain => UInt8.ofNat (gainLutIdx gain)) calls
      (m.regs regGainIdx)
  gain : number s.regs regGainRegs =
    latest (fun c => c.gain?.map fun gain => (regGain gain).toNat) calls (number m.regs regGainRegs)
  gainMode : s.regs regGainMode = latest Call.gainMode? calls (m.regs regGainMode)
  streams : s.regs regStreamEn = latest Call.streams? calls (m.regs regStreamEn)
  others : ∀ a ∉ controlRegs, a ≠ regStreamEn → s.regs a = latest (Call.format? a) calls (m.regs a)
  /-- An exposure is cut to the frame of its time, and stays so. -/
  exposure : ∀ before intt after, calls = before ++ .setIntt intt :: after →
    (∀ c ∈ after, c.intt? = none) → number s.regs exposureRegs =
      (exposureVal (latest Call.frame? before m.gVCycle) intt).toNat % 256 ^ 3
  unexposed : (∀ c ∈ calls, c.intt? = none) →
    number s.regs exposureRegs = number m.regs exposureRegs
  /-- An exposure that is valid for the frame of its time is taken off it, but for the least. -/
  validIntt : ∀ before intt after, calls = before ++ .setIntt intt :: after →
    (∀ c ∈ after, c.intt? = none) → (m.run before).calcSnsValidIntt intt = intt →
    12 ≤ (m.run before).gVCycle.toNat → (m.run before).gVCycle.toNat < 256 ^ 3 →
      number s.regs exposureRegs = max 8 ((m.run before).gVCycle.toNat - max 4 intt.toNat)
  /-- The valid gains differ in the index alone. -/
  validGains : (∀ gain, .setGain gain ∈ calls → calcSnsValidGain gain = gain) →
    (∃ gain, .setGain gain ∈ calls) →
    number s.regs regGainRegs = 0x40 ∧ s.regs regGainMode = 0x10

/-! ## One call -/

section Step

variable (m : Mipi)

theorem setIntt_regs_of_notMem (intt : UInt32) {a : UInt16} (h : a ∉ exposureRegs) :
    (m.setIntt intt).regs a = m.regs a := by
  rw [setIntt_eq]
  exact writeNumber_of_notMem h

theorem setSnsFrameH_regs_of_notMem (frameH : UInt32) {a : UInt16} (h : a ∉ vcycRegs) :
    (m.setSnsFrameH frameH).regs a = m.regs a := by
  rw [setSnsFrameH_eq]
  exact writeNumber_of_notMem h

theorem sensorWrite_regs_of_ne {a reg : UInt16} (h : a ≠ reg) (val : UInt16) :
    (m.sensorWrite reg val).regs a = m.regs a := Function.update_of_ne h _ _

theorem setSensorFmt_regs_apply (format : Int32) (a : UInt16) :
    (m.setSensorFmt format).regs a = ((fmtWrites format).reverse.lookup a).getD (m.regs a) := by
  rw [setSensorFmt_regs, writeAll_apply]

/-- Of the controls, the tables set the frame length and the gain mode. -/
theorem fmtWrites_controls (format : Int32) :
    (∀ a ∈ [regFlipMirror, regGainIdx, regGainHi, regGainLo],
      (fmtWrites format).reverse.lookup a = none) ∧
      (fmtWrites format).reverse.lookup regGainMode = some 0x10 ∧
      (fmtWrites format).reverse.lookup regStreamEn = some 1 := by
  rw [fmtWrites, sensorCfg]
  split <;> exact ⟨List.all_iff_forall_prop.mp (by decide), by decide, by decide⟩

theorem apply_frame (c : Call) : (m.apply c).gVCycle = c.frame?.getD m.gVCycle := by
  cases c with
  | setSensorFmt format =>
      apply UInt32.toNat_inj.mp
      rw [apply, setSensorFmt_vcyc]
      exact (UInt16.toNat_toUInt32 _).symm
  | setGain gain => exact setGain_gVCycle m gain
  | setIntt _ | setSnsFrameH _ | setSensorFlipMirror _ | sensorKick => rfl

theorem apply_intt (c : Call) : (m.apply c).gExposure = c.intt?.getD m.gExposure := by
  cases c with
  | setSensorFmt format =>
      simp [apply, setSensorFmt, sensorInit, sensorWriteTable_eq, sensorWrite, Call.intt?]
  | setGain gain => simp [apply, setGain, sensorWrite, Call.intt?, apply_ite Mipi.gExposure]
  | setIntt _ | setSnsFrameH _ | setSensorFlipMirror _ | sensorKick => rfl

theorem apply_gain (c : Call) : (m.apply c).gGain = c.gain?.getD m.gGain := by
  cases c with
  | setSensorFmt format =>
      simp [apply, setSensorFmt, sensorInit, sensorWriteTable_eq, sensorWrite, Call.gain?]
  | setGain gain => simp [apply, setGain, sensorWrite, Call.gain?, apply_ite Mipi.gGain]
  | setIntt _ | setSnsFrameH _ | setSensorFlipMirror _ | sensorKick => rfl

/-- A mode, and the two bits that make it up. -/
theorem mode_bits (mode : UInt32) : ∃ p : Fin 4, mode &&& 3 = UInt32.ofNat p ∧
    mode &&& 1 = UInt32.ofNat (p % 2 : Nat) ∧ (mode >>> 1) &&& 1 = UInt32.ofNat (p / 2 : Nat) := by
  have h3 : (mode &&& 3).toNat = mode.toNat % 4 := by
    rw [UInt32.toNat_and]
    exact Nat.and_two_pow_sub_one_eq_mod mode.toNat 2
  have h1 : (mode &&& 1).toNat = mode.toNat % 2 := by
    rw [UInt32.toNat_and]
    exact Nat.and_one_is_mod _
  have hshift : ((mode >>> 1) &&& 1).toNat = mode.toNat / 2 % 2 := by
    rw [UInt32.toNat_and, UInt32.toNat_shiftRight]
    exact Nat.and_one_is_mod _
  refine ⟨⟨mode.toNat % 4, Nat.mod_lt _ (by decide)⟩, ?_⟩
  simp only [← UInt32.toNat_inj, h3, h1, hshift, UInt32.toNat_ofNat']
  omega

/-- A mode is read back as it is set, beside bits that are left. -/
theorem flip_bits (old : UInt8) (p : Fin 4) :
    let val := (old &&& (0xfc : UInt8)) |||
      ((UInt32.ofNat (p % 2 : Nat) <<< 1) ||| UInt32.ofNat (p / 2 : Nat)).toUInt8
    ((val.toUInt32 &&& 1) <<< 1) ||| ((val.toUInt32 >>> 1) &&& 1) = UInt32.ofNat p ∧
      val &&& 0xfc = old &&& 0xfc := by
  have hall : ∀ (k : Fin 256) (p : Fin 4),
      let val := (UInt8.ofNat k &&& (0xfc : UInt8)) |||
        ((UInt32.ofNat (p % 2 : Nat) <<< 1) ||| UInt32.ofNat (p / 2 : Nat)).toUInt8
      ((val.toUInt32 &&& 1) <<< 1) ||| ((val.toUInt32 >>> 1) &&& 1) = UInt32.ofNat p ∧
        val &&& 0xfc = UInt8.ofNat k &&& 0xfc := by decide +kernel
  have hold := hall ⟨old.toNat, old.toNat_lt⟩ p
  rw [UInt8.ofNat_toNat] at hold
  exact hold

/-- What a flip leaves in its register. -/
theorem setSensorFlipMirror_reg (mode : UInt32) : ∃ p : Fin 4, mode &&& 3 = UInt32.ofNat p ∧
    (m.setSensorFlipMirror mode).regs regFlipMirror = (m.regs regFlipMirror &&& (0xfc : UInt8)) |||
      ((UInt32.ofNat (p % 2 : Nat) <<< 1) ||| UInt32.ofNat (p / 2 : Nat)).toUInt8 := by
  obtain ⟨p, hmode, hlow, hhigh⟩ := mode_bits mode
  refine ⟨p, hmode, ?_⟩
  rw [setSensorFlipMirror, sensorWrite]
  dsimp only
  rw [Function.update_self, hlow, hhigh, sensorRead, UInt16.toUInt8_and, UInt16.toUInt8_and,
    UInt8.toUInt8_toUInt16, UInt8.toUInt8_toUInt16]
  exact and_byte _

/-- No other call touches the register of the flip. -/
theorem apply_flipReg {c : Call} (h : c.mode? = none) :
    (m.apply c).regs regFlipMirror = m.regs regFlipMirror := by
  cases c with
  | setSensorFmt format =>
      rw [apply, setSensorFmt_regs_apply, (fmtWrites_controls format).1 _ List.mem_cons_self]
      rfl
  | setIntt intt => exact setIntt_regs_of_notMem m intt (by decide)
  | setGain gain => exact setGain_regs_of_notMem m gain (by decide)
  | setSnsFrameH frameH => exact setSnsFrameH_regs_of_notMem m frameH (by decide)
  | setSensorFlipMirror mode => cases h
  | sensorKick => exact sensorWrite_regs_of_ne m (by decide) 0x01

theorem apply_flip (c : Call) :
    (m.apply c).getSensorFlipMirror = c.mode?.getD m.getSensorFlipMirror ∧
      (m.apply c).regs regFlipMirror &&& 0xfc = m.regs regFlipMirror &&& 0xfc := by
  cases hmode : c.mode? with
  | none =>
      have hreg := apply_flipReg m hmode
      refine ⟨?_, by rw [hreg]⟩
      rw [getSensorFlipMirror, sensorRead, hreg]
      rfl
  | some mode =>
      cases c with
      | setSensorFlipMirror mode' =>
          obtain ⟨p, hp, hreg⟩ := setSensorFlipMirror_reg m mode'
          obtain ⟨hread, hrest⟩ := flip_bits (m.regs regFlipMirror) p
          rw [← hreg] at hread hrest
          refine ⟨?_, hrest⟩
          rw [getSensorFlipMirror, sensorRead, UInt8.toUInt8_toUInt16]
          exact hread.trans (hp.symm.trans (Option.some.inj hmode))
      | _ => cases hmode

/-- No other call touches the registers of the gain. -/
theorem apply_gainRegs {c : Call} (h : c.gain? = none) {a : UInt16}
    (ha : a ∈ [regGainIdx, regGainHi, regGainLo]) : (m.apply c).regs a = m.regs a := by
  have hgain : a ∈ gainRegs := List.mem_cons_of_mem _ ha
  cases c with
  | setSensorFmt format =>
      rw [apply, setSensorFmt_regs_apply, (fmtWrites_controls format).1 a
        (List.mem_cons_of_mem _ ha)]
      rfl
  | setIntt intt => exact setIntt_regs_of_notMem m intt fun he => exposureRegs_notMem a he hgain
  | setGain gain => cases h
  | setSnsFrameH frameH =>
      exact setSnsFrameH_regs_of_notMem m frameH fun hv => vcycRegs_notMem a hv hgain
  | setSensorFlipMirror mode =>
      exact sensorWrite_regs_of_ne m (ne_of_mem_of_not_mem ha (by decide)) _
  | sensorKick => exact sensorWrite_regs_of_ne m (ne_of_mem_of_not_mem ha (by decide)) _

theorem regGain_le (gain : UInt32) : (regGain gain).toNat ≤ 0x3ff := by
  have hcut : ∀ reg : UInt32, (if reg > 0x3ff then 0x3ff else reg).toNat ≤ 0x3ff := by
    intro reg
    split
    · exact Nat.le_refl _
    next h => exact UInt32.le_iff_toNat_le.mp (UInt32.not_lt.mp h)
  exact hcut _

theorem setGain_number (gain : UInt32) :
    number (m.setGain gain).regs regGainRegs = (regGain gain).toNat := by
  have hle := regGain_le gain
  have hregs : ∃ regs,
    (m.setGain gain).regs = writeNumber regs regGainRegs (regGain gain).toNat := by
    simp only [setGain, sensorWrite_byte]
    exact ⟨_, (writeNumber_two _ _ _ _).symm⟩
  obtain ⟨regs, hregs⟩ := hregs
  rw [hregs, number_writeNumber regs (by decide)]
  exact Nat.mod_eq_of_lt (show (regGain gain).toNat < 65536 by omega)

theorem apply_gainIdx (c : Call) : (m.apply c).regs regGainIdx =
    (c.gain?.map fun gain => UInt8.ofNat (gainLutIdx gain)).getD (m.regs regGainIdx) := by
  cases hgain : c.gain? with
  | none => exact apply_gainRegs m hgain (by decide)
  | some gain =>
      cases c with
      | setGain gain' =>
          obtain rfl := Option.some.inj hgain
          exact setGain_regs_idx m gain'
      | _ => cases hgain

theorem apply_gainNumber (c : Call) : number (m.apply c).regs regGainRegs =
    (c.gain?.map fun gain => (regGain gain).toNat).getD (number m.regs regGainRegs) := by
  cases hgain : c.gain? with
  | none => exact number_inj.mpr fun a ha => apply_gainRegs m hgain (List.mem_cons_of_mem _ ha)
  | some gain =>
      cases c with
      | setGain gain' =>
          obtain rfl := Option.some.inj hgain
          exact setGain_number m gain'
      | _ => cases hgain

theorem apply_gainMode (c : Call) :
    (m.apply c).regs regGainMode = c.gainMode?.getD (m.regs regGainMode) := by
  cases c with
  | setSensorFmt format =>
      rw [apply, setSensorFmt_regs_apply, (fmtWrites_controls format).2.1]
      rfl
  | setIntt intt => exact setIntt_regs_of_notMem m intt (by decide)
  | setGain gain =>
      simp only [apply, setGain, sensorWrite_byte]
      rw [Function.update_of_ne (by decide), Function.update_of_ne (by decide),
        Function.update_of_ne (by decide), Call.gainMode?]
      split_ifs <;> simp [sensorWrite] <;> decide
  | setSnsFrameH frameH => exact setSnsFrameH_regs_of_notMem m frameH (by decide)
  | setSensorFlipMirror mode => exact sensorWrite_regs_of_ne m (by decide) _
  | sensorKick => exact sensorWrite_regs_of_ne m (by decide) _

theorem apply_streams (c : Call) :
    (m.apply c).regs regStreamEn = c.streams?.getD (m.regs regStreamEn) := by
  cases c with
  | setSensorFmt format =>
      rw [apply, setSensorFmt_regs_apply, (fmtWrites_controls format).2.2]
      rfl
  | setIntt intt => exact setIntt_regs_of_notMem m intt (by decide)
  | setGain gain => exact setGain_regs_of_notMem m gain (by decide)
  | setSnsFrameH frameH => exact setSnsFrameH_regs_of_notMem m frameH (by decide)
  | setSensorFlipMirror mode => exact sensorWrite_regs_of_ne m (by decide) _
  | sensorKick => exact Function.update_self regStreamEn _ m.regs

theorem apply_other {a : UInt16} (ha : a ∉ controlRegs) (hstream : a ≠ regStreamEn) (c : Call) :
    (m.apply c).regs a = (c.format? a).getD (m.regs a) := by
  simp only [controlRegs, List.mem_cons, List.mem_append, not_or] at ha
  obtain ⟨hflip, ⟨hexposure, hvcyc⟩, hgain⟩ := ha
  cases c with
  | setSensorFmt format => exact setSensorFmt_regs_apply m format a
  | setIntt intt => exact setIntt_regs_of_notMem m intt hexposure
  | setGain gain => exact setGain_regs_of_notMem m gain hgain
  | setSnsFrameH frameH => exact setSnsFrameH_regs_of_notMem m frameH hvcyc
  | setSensorFlipMirror mode => exact sensorWrite_regs_of_ne m hflip _
  | sensorKick => exact sensorWrite_regs_of_ne m hstream _

/-- Only `SetIntt` changes the exposure that the sensor has. -/
theorem apply_exposure {c : Call} (h : c.intt? = none) :
    number (m.apply c).regs exposureRegs = number m.regs exposureRegs := by
  cases c with
  | setSensorFmt format => exact setSensorFmt_exposure m format
  | setIntt intt => cases h
  | setGain gain =>
      exact number_inj.mpr fun a ha => setGain_regs_of_notMem m gain (exposureRegs_notMem a ha)
  | setSnsFrameH frameH =>
      exact number_inj.mpr fun a ha => setSnsFrameH_regs_of_notMem m frameH
        (exposureRegs_notMem_vcyc a ha)
  | setSensorFlipMirror mode =>
      exact number_inj.mpr fun a ha => sensorWrite_regs_of_ne m
        (ne_of_mem_of_not_mem ha (by decide)) _
  | sensorKick =>
      exact number_inj.mpr fun a ha => sensorWrite_regs_of_ne m
        (ne_of_mem_of_not_mem ha (by decide)) _

theorem setIntt_number (intt : UInt32) :
    number (m.setIntt intt).regs exposureRegs = (exposureVal m.gVCycle intt).toNat % 256 ^ 3 := by
  rw [setIntt_eq, number_writeNumber _ (by decide)]
  rfl

end Step

/-! ## Valid values -/

theorem le_of_calcSnsValidGain {gain : UInt32} (h : calcSnsValidGain gain = gain) :
    gain ≤ 0x400 := by
  have hcut : ∀ g : UInt32, (if g > 0x400 then 0x400 else g) ≤ 0x400 := by
    intro g
    split
    · exact UInt32.le_refl _
    next h => exact UInt32.not_lt.mp h
  rw [← h]
  exact hcut _

/-- The exposure and the gain that are valid are those asked for, cut to the bounds that
`GetAEDefault` reports. -/
theorem calcSnsValid_bounds (m : Mipi) : ∃ shortest longest least greatest : UInt32,
    m.getAEDefault = [shortest, longest, least, greatest] ∧
      (∀ intt, (m.calcSnsValidIntt intt).toNat =
        max shortest.toNat (min intt.toNat longest.toNat)) ∧
      ∀ gain, (calcSnsValidGain gain).toNat =
        min (max gain.toNat least.toNat) greatest.toNat := by
  refine ⟨0, m.gVCycle - 4, 0x40, 0x400, rfl, fun intt => ?_, fun gain => ?_⟩
  · have hzero : (0 : UInt32).toNat = 0 := rfl
    simp only [calcSnsValidIntt, gt_iff_lt, UInt32.lt_iff_toNat_lt, hzero]
    split <;> omega
  · have hleast : (0x40 : UInt32).toNat = 64 := rfl
    have hgreatest : (0x400 : UInt32).toNat = 1024 := rfl
    simp only [calcSnsValidGain, gt_iff_lt, UInt32.lt_iff_toNat_lt, hleast, hgreatest]
    split_ifs <;> omega

/-- Up to sixteen times the least gain, the coarse gain stays at its least. -/
theorem regGain_of_le {gain : UInt32} (h : gain ≤ 0x400) : regGain gain = 0x40 := by
  have hle := UInt32.le_iff_toNat_le.mp h
  have hlow : gain >>> 5 < 0x40 := by
    rw [UInt32.lt_iff_toNat_lt, UInt32.toNat_shiftRight]
    show gain.toNat >>> 5 < 64
    rw [Nat.shiftRight_eq_div_pow]
    have h400 : (0x400 : UInt32).toNat = 1024 := rfl
    omega
  rw [regGain, if_pos hlow]
  rfl

theorem gainMode_of_le {gain : UInt32} (h : gain ≤ 0x400) :
    (Call.setGain gain).gainMode? = some 0x10 := by
  have hlt : gain < 0x401 := by
    have hle := UInt32.le_iff_toNat_le.mp h
    rw [UInt32.lt_iff_toNat_lt]
    exact Nat.lt_succ_of_le hle
  rw [Call.gainMode?, if_pos hlt]

theorem exposureVal_of_valid {m : Mipi} {intt : UInt32} (h : m.calcSnsValidIntt intt = intt)
    (hlow : 12 ≤ m.gVCycle.toNat) :
    (exposureVal m.gVCycle intt).toNat = max 8 (m.gVCycle.toNat - max 4 intt.toNat) := by
  have hcap : (m.gVCycle - 4).toNat = m.gVCycle.toNat - 4 := by
    rw [UInt32.toNat_sub, show (4 : UInt32).toNat = 4 from rfl]
    have hlt := m.gVCycle.toNat_lt
    omega
  have hle : intt.toNat ≤ m.gVCycle.toNat - 4 := by
    rw [← hcap, ← UInt32.le_iff_toNat_le]
    unfold calcSnsValidIntt at h
    split at h
    · exact h ▸ UInt32.le_refl _
    next hgt => exact UInt32.not_lt.mp hgt
  rw [exposureVal_toNat hlow]
  split <;> omega

/-! ## Runs -/

theorem run_frame (m : Mipi) (calls : List Call) :
    (m.run calls).gVCycle = latest Call.frame? calls m.gVCycle :=
  foldl_latest (f := Mipi.gVCycle) apply_frame m calls

/-- After a run the attributes and the bounds of the exposure are those of the latest
frame length. -/
theorem run_getters (m : Mipi) (calls : List Call) :
    (m.run calls).getSensorAttribute = [1920, 1080, latest Call.frame? calls m.gVCycle, 720] ∧
      (m.run calls).getAEDefault =
        [0, latest Call.frame? calls m.gVCycle - 4, 0x40, 0x400] := by
  rw [getSensorAttribute, getAEDefault, run_frame]
  exact ⟨rfl, rfl⟩

theorem run_exposure (m : Mipi) {calls : List Call} (h : ∀ c ∈ calls, c.intt? = none) :
    number (m.run calls).regs exposureRegs = number m.regs exposureRegs := by
  have hkept := @foldl_kept _ _ _ apply (fun m => number m.regs exposureRegs) calls
    (fun c hc m => apply_exposure m (h c hc)) m
  exact hkept

theorem run_set_exposure (m : Mipi) (before : List Call) (intt : UInt32) {after : List Call}
    (h : ∀ c ∈ after, c.intt? = none) :
      number (m.run (before ++ .setIntt intt :: after)).regs exposureRegs =
      (exposureVal (m.run before).gVCycle intt).toNat % 256 ^ 3 := by
  have hsplit : m.run (before ++ .setIntt intt :: after) =
    ((m.run before).setIntt intt).run after := by
    rw [run, List.foldl_append]
    rfl
  rw [hsplit, run_exposure _ h, setIntt_number]

theorem run_gainNumber (m : Mipi) (calls : List Call) : number (m.run calls).regs regGainRegs =
    latest (fun c => c.gain?.map fun gain => (regGain gain).toNat) calls
      (number m.regs regGainRegs) := by
  have hlatest :=
    @foldl_latest _ _ _ apply (fun m => number m.regs regGainRegs) _ apply_gainNumber m calls
  exact hlatest

theorem run_gainMode (m : Mipi) (calls : List Call) :
    (m.run calls).regs regGainMode = latest Call.gainMode? calls (m.regs regGainMode) :=
  foldl_latest (f := fun m => m.regs regGainMode) apply_gainMode m calls

theorem run_validGains (m : Mipi) {calls : List Call}
    (h : ∀ gain, .setGain gain ∈ calls → calcSnsValidGain gain = gain)
    (hset : ∃ gain, .setGain gain ∈ calls) :
    number (m.run calls).regs regGainRegs = 0x40 ∧ (m.run calls).regs regGainMode = 0x10 := by
  obtain ⟨gain, hgain⟩ := hset
  have hle : ∀ g, .setGain g ∈ calls → g ≤ 0x400 := fun g hg => le_of_calcSnsValidGain (h g hg)
  constructor
  · rw [run_gainNumber]
    refine latest_of_mem (P := (· = 0x40)) (fun c hc b hb => ?_) hgain rfl _
    cases c with
    | setGain g =>
        have hb : (regGain g).toNat = b := Option.some.inj hb
        rw [← hb, regGain_of_le (hle g hc)]
        rfl
    | _ => cases hb
  · rw [run_gainMode]
    refine latest_of_mem (P := (· = 0x10)) (fun c hc b hb => ?_) hgain
      (by rw [gainMode_of_le (hle gain hgain)]; rfl) _
    cases c with
    | setSensorFmt format => exact (Option.some.inj hb).symm
    | setGain g =>
        rw [gainMode_of_le (hle g hc)] at hb
        exact (Option.some.inj hb).symm
    | _ => cases hb

/-- A run of the callbacks leaves every setting as the latest call has set it. -/
theorem run_latest (m : Mipi) (calls : List Call) : Latest m calls (m.run calls) where
  frame := run_frame m calls
  info := by
    rw [getAEInfo, ← foldl_latest (f := Mipi.gExposure) apply_intt m calls,
      ← foldl_latest (f := Mipi.gGain) apply_gain m calls]
    rfl
  flip := foldl_latest (fun m c => (apply_flip m c).1) m calls
  flipRest :=
    foldl_kept (f := fun m => m.regs regFlipMirror &&& 0xfc) (fun c _ m => (apply_flip m c).2) m
  gainIdx := foldl_latest (f := fun m => m.regs regGainIdx) apply_gainIdx m calls
  gain := run_gainNumber m calls
  gainMode := run_gainMode m calls
  streams := foldl_latest (f := fun m => m.regs regStreamEn) apply_streams m calls
  others a ha hstream :=
    foldl_latest (f := fun m => m.regs a) (fun m c => apply_other m ha hstream c) m calls
  exposure before intt after hcalls hafter := by
    rw [hcalls, run_set_exposure m before intt hafter, run_frame]
  unexposed h := run_exposure m h
  validIntt before intt after hcalls hafter hvalid hlow hhigh := by
    rw [hcalls, run_set_exposure m before intt hafter, exposureVal_of_valid hvalid hlow]
    exact Nat.mod_eq_of_lt (by omega)
  validGains h hset := run_validGains m h hset

end Mipi
end FH8852
