import Mathlib.Data.Bool.AllAny
import FH8852.Lib.RegisterFile

/-!
# The CV2003 callbacks of `libcv2003_mipi.c`

The globals of the file and the registers of the sensor are one state; every
transfer on the bus succeeds and a register holds what was last written to it.
-/

namespace FH8852

open RegisterFile

abbrev Registers := UInt16 → UInt8

def regVcycLo : UInt16 := 0x3020
def regVcycHi : UInt16 := 0x3021
def regFlipMirror : UInt16 := 0x3028
def regStreamEn : UInt16 := 0x3141
def regExpLo : UInt16 := 0x3048
def regExpMid : UInt16 := 0x3049
def regExpHi : UInt16 := 0x304a
def regGainIdx : UInt16 := 0x3154
def regGainLo : UInt16 := 0x314c
def regGainHi : UInt16 := 0x314d
def regGainMode : UInt16 := 0x3804

def regs1080p25 : List (UInt16 × UInt16) :=
  [(0x3300, 0x03), (0x3422, 0xbf), (0x3401, 0x00), (0x3440, 0x01),
   (0x3442, 0x00), (0x3806, 0x00), (0x3908, 0x5f), (0x3909, 0x00),
   (0x3929, 0x01), (0x3158, 0x01), (0x3159, 0x01), (0x315a, 0x01),
   (0x315b, 0x01), (0x35b3, 0x15), (0x3148, 0x64), (0x3031, 0x00),
   (0x3118, 0x01), (0x3119, 0x06), (0x3670, 0x00), (0x3679, 0x02),
   (0x3330, 0x00), (0x320e, 0x02), (0x3804, 0x10), (0x35a1, 0x06),
   (0x35a8, 0x06), (0x35a9, 0x06), (0x35aa, 0x06), (0x35ab, 0x06),
   (0x35ac, 0x06), (0x35ad, 0x06), (0x35ae, 0x07), (0x35af, 0x07),
   (0x333b, 0x01), (0x3338, 0x08), (0x3339, 0x00), (0x3144, 0x20),
   (0x3030, 0x01), (0x3020, 0x8c), (0x3021, 0x0a), (0x3024, 0xd0),
   (0x3025, 0x02), (0x3038, 0x06), (0x3039, 0x00), (0x303a, 0x80),
   (0x303b, 0x07), (0x3034, 0x04), (0x3035, 0x00), (0x3036, 0x38),
   (0x3037, 0x04), (0x3908, 0x51), (0x390a, 0x02), (0x3000, 0x00)]

def regs1080p30 : List (UInt16 × UInt16) :=
  [(0x3300, 0x03), (0x3422, 0xbf), (0x3401, 0x00), (0x3440, 0x01),
   (0x3442, 0x00), (0x3806, 0x00), (0x3908, 0x5f), (0x3909, 0x00),
   (0x3929, 0x01), (0x3158, 0x01), (0x3159, 0x01), (0x315a, 0x01),
   (0x315b, 0x01), (0x35b3, 0x15), (0x3148, 0x64), (0x3031, 0x00),
   (0x3118, 0x01), (0x3119, 0x06), (0x3670, 0x00), (0x3679, 0x02),
   (0x3330, 0x00), (0x320e, 0x02), (0x3804, 0x10), (0x35a1, 0x06),
   (0x35a8, 0x06), (0x35a9, 0x06), (0x35aa, 0x06), (0x35ab, 0x06),
   (0x35ac, 0x06), (0x35ad, 0x06), (0x35ae, 0x07), (0x35af, 0x07),
   (0x333b, 0x01), (0x3338, 0x08), (0x3339, 0x00), (0x3144, 0x20),
   (0x3030, 0x01), (0x3020, 0xca), (0x3021, 0x08), (0x3024, 0xd0),
   (0x3025, 0x02), (0x3038, 0x06), (0x3039, 0x00), (0x303a, 0x80),
   (0x303b, 0x07), (0x3034, 0x04), (0x3035, 0x00), (0x3036, 0x38),
   (0x3037, 0x04), (0x3908, 0x51), (0x390a, 0x02), (0x3000, 0x00)]

structure SensorCfg where
  regs : List (UInt16 × UInt16)
  vCycle : UInt16

def sensorCfgMipi1080P25 : SensorCfg := { regs := regs1080p25, vCycle := 2700 }

def sensorCfgMipi1080P30 : SensorCfg := { regs := regs1080p30, vCycle := 2250 }

def gainLut : List UInt16 :=
  [64, 68, 72, 76, 80, 84, 88, 92, 96, 100, 104, 108, 112, 116, 120, 124,
   128, 132, 136, 140, 144, 148, 152, 156, 160, 168, 176, 184, 192, 200, 208, 216,
   224, 232, 240, 248, 256, 272, 288, 304, 320, 336, 352, 368, 384, 400, 416, 432,
   448, 464, 480, 496, 512, 544, 576, 608, 640, 672, 704, 736, 768, 800, 832, 864,
   896, 928, 960, 992, 1024]

/-- The globals of `libcv2003_mipi.c` with the registers of the sensor. -/
structure Mipi where
  gVCycle : UInt32 := 2700
  gExposure : UInt32 := 0
  gGain : UInt32 := 0x40
  gFormat : UInt32 := 0
  regs : Registers

/-- The frame length less the exposure, kept between 8 and the frame length less
4.  The arithmetic is that of `uint32_t`. -/
def exposureVal (vCycle lines : UInt32) : UInt32 :=
  let val := vCycle - lines
  let val := if val < 8 then 8 else val
  if val > vCycle - 4 then vCycle - 4 else val

namespace Mipi

def sensorRead (m : Mipi) (reg : UInt16) : UInt16 := (m.regs reg).toUInt16

def sensorWrite (m : Mipi) (reg val : UInt16) : Mipi :=
  { m with regs := Function.update m.regs reg (val &&& 0xff).toUInt8 }

def sensorWriteTable (m : Mipi) (table : List (UInt16 × UInt16)) : Mipi :=
  table.foldl (fun m w => m.sensorWrite w.1 w.2) m

def setSensorFlipMirror (m : Mipi) (mode : UInt32) : Mipi :=
  let val := (m.sensorRead regFlipMirror &&& 0xfc).toUInt8
  let val := val ||| (((mode &&& 1) <<< 1) ||| ((mode >>> 1) &&& 1)).toUInt8
  m.sensorWrite regFlipMirror val.toUInt16

def sensorCfg (format : Int32) : SensorCfg :=
  if format = 0x204 then sensorCfgMipi1080P30 else sensorCfgMipi1080P25

def sensorInit (m : Mipi) (format : Int32) : Mipi :=
  let cfg := sensorCfg format
  { m.sensorWriteTable cfg.regs with gVCycle := cfg.vCycle.toUInt32, gFormat := format.toUInt32 }

def setSensorFmt (m : Mipi) (format : Int32) : Mipi :=
  let m := (m.sensorInit format).sensorWrite regStreamEn 0x01
  let vl := (m.sensorRead regVcycLo).toUInt8
  let vh := (m.sensorRead regVcycHi).toUInt8
  { m with gVCycle := (vh.toUInt32 <<< 8) ||| vl.toUInt32 }

def sensorKick (m : Mipi) : Mipi := m.sensorWrite regStreamEn 0x01

def setIntt (m : Mipi) (intt : UInt32) : Mipi :=
  let val := exposureVal m.gVCycle intt
  let m := { m with gExposure := intt }
  let m := m.sensorWrite regExpHi ((val >>> 16) &&& 0xff).toUInt16
  let m := m.sensorWrite regExpMid ((val >>> 8) &&& 0xff).toUInt16
  m.sensorWrite regExpLo (val &&& 0xff).toUInt16

/-- The index of the first entry that is not below the gain; the last entry is
not looked at. -/
def gainLutIdx (gain : UInt32) : Nat :=
  gainLut.dropLast.findIdx fun entry => decide (gain ≤ entry.toUInt32)

def setGain (m : Mipi) (gain : UInt32) : Mipi :=
  let m := { m with gGain := gain }
  let regGain := gain >>> 5
  let regGain := if regGain < 0x40 then 0x40 else regGain
  let regGain := if regGain > 0x3ff then 0x3ff else regGain
  let m := if gain < 0x401 then m.sensorWrite regGainMode 0x10
    else if gain > 0x7ff then m.sensorWrite regGainMode 0x15 else m
  let idx := UInt32.ofNat (gainLutIdx gain)
  let m := m.sensorWrite regGainIdx (idx &&& 0xff).toUInt16
  let m := m.sensorWrite regGainHi ((regGain >>> 8) &&& 0xff).toUInt16
  m.sensorWrite regGainLo (regGain &&& 0xff).toUInt16

def setSnsFrameH (m : Mipi) (frameH : UInt32) : Mipi :=
  let frameH := if frameH < 1125 then 1125 else frameH
  let m := { m with gVCycle := frameH }
  let m := m.sensorWrite regVcycHi ((frameH >>> 8) &&& 0xff).toUInt16
  m.sensorWrite regVcycLo (frameH &&& 0xff).toUInt16

end Mipi

theorem and_byte (b : UInt8) : b &&& 255 = b := UInt8.and_neg_one

theorem toUInt8_and_ff (x : UInt32) : (x &&& 0xff).toUInt8 = x.toUInt8 := by
  rw [UInt32.toUInt8_and]
  exact and_byte x.toUInt8

theorem toUInt8_write (x : UInt32) : ((x &&& 0xff).toUInt16 &&& 0xff).toUInt8 = x.toUInt8 := by
  rw [UInt16.toUInt8_and, UInt32.toUInt8_toUInt16, toUInt8_and_ff]
  exact and_byte x.toUInt8

theorem toUInt8_shiftRight_16 (v : UInt32) :
    (v >>> 16).toUInt8 = UInt8.ofNat (v.toNat / 256 ^ 2) := by
  apply UInt8.toNat_inj.mp
  simp [Nat.shiftRight_eq_div_pow]

theorem toUInt8_shiftRight_8 (v : UInt32) :
    (v >>> 8).toUInt8 = UInt8.ofNat (v.toNat / 256 ^ 1) := by
  apply UInt8.toNat_inj.mp
  simp [Nat.shiftRight_eq_div_pow]

theorem toUInt8_eq (v : UInt32) : v.toUInt8 = UInt8.ofNat (v.toNat / 256 ^ 0) := by
  rw [pow_zero, Nat.div_one, UInt8.ofNat_uInt32ToNat]

/-- The bytes of a number as the two files shift and mask them. -/
theorem writeNumber_three (regs : Registers) (hi mid lo : UInt16) (v : UInt32) :
    writeNumber regs [hi, mid, lo] v.toNat =
      Function.update (Function.update (Function.update regs hi (v >>> 16).toUInt8)
        mid (v >>> 8).toUInt8) lo v.toUInt8 := by
  rw [toUInt8_shiftRight_16, toUInt8_shiftRight_8, toUInt8_eq]
  simp only [writeNumber, List.length_cons, List.length_nil, Nat.zero_add, Nat.reduceAdd]

theorem writeNumber_two (regs : Registers) (hi lo : UInt16) (v : UInt32) :
    writeNumber regs [hi, lo] v.toNat =
      Function.update (Function.update regs hi (v >>> 8).toUInt8) lo v.toUInt8 := by
  rw [toUInt8_shiftRight_8, toUInt8_eq]
  simp only [writeNumber, List.length_cons, List.length_nil, Nat.zero_add]

/-- A frame length read back from its two registers. -/
theorem readBack_toNat (vh vl : UInt8) :
    (vh.toUInt32 <<< 8 ||| vl.toUInt32).toNat = vh.toNat * 256 + (vl.toNat * 1 + 0) := by
  have hvh := vh.toNat_lt
  have hvl := vl.toNat_lt
  rw [UInt32.toNat_or, UInt32.toNat_shiftLeft, UInt8.toNat_toUInt32, UInt8.toNat_toUInt32,
    show (8 : UInt32).toNat % 32 = 8 from rfl, Nat.mod_eq_of_lt,
    ← Nat.shiftLeft_add_eq_or_of_lt hvl,
    Nat.shiftLeft_eq, Nat.mul_one, Nat.add_zero]
  rw [Nat.shiftLeft_eq]
  omega

theorem exposureVal_toNat {v : UInt32} (hv : 12 ≤ v.toNat) (lines : UInt32) :
    (exposureVal v lines).toNat =
      if lines.toNat ≤ v.toNat then max 8 (min (v.toNat - 4) (v.toNat - lines.toNat))
      else v.toNat - 4 := by
  have hvlt := v.toNat_lt
  have hsub : (v - lines).toNat = (2 ^ 32 - lines.toNat + v.toNat) % 2 ^ 32 :=
    UInt32.toNat_sub v lines
  have hcap : (v - 4).toNat = v.toNat - 4 := by
    rw [UInt32.toNat_sub, show (4 : UInt32).toNat = 4 from rfl]
    omega
  have h8 : (8 : UInt32).toNat = 8 := rfl
  simp only [exposureVal, gt_iff_lt, UInt32.lt_iff_toNat_lt, apply_ite UInt32.toNat, hsub, hcap, h8]
  split_ifs <;> omega

namespace Mipi

theorem sensorWrite_byte (m : Mipi) (reg : UInt16) (x : UInt32) :
    m.sensorWrite reg (x &&& 0xff).toUInt16 =
      { m with regs := Function.update m.regs reg x.toUInt8 } := by
  rw [sensorWrite, toUInt8_write]

/-- The registers of the exposure, high byte first. -/
def exposureRegs : List UInt16 := [regExpHi, regExpMid, regExpLo]

/-- The registers of the frame length, high byte first. -/
def vcycRegs : List UInt16 := [regVcycHi, regVcycLo]

theorem setIntt_eq (m : Mipi) (intt : UInt32) :
    m.setIntt intt =
      { m with
        gExposure := intt
        regs := writeNumber m.regs exposureRegs (exposureVal m.gVCycle intt).toNat } := by
  simp only [setIntt, sensorWrite_byte, exposureRegs, writeNumber_three]

/-- The frame length that `SetSnsFrameH` sets. -/
def frameLength (frameH : UInt32) : UInt32 := if frameH < 1125 then 1125 else frameH

theorem setSnsFrameH_eq (m : Mipi) (frameH : UInt32) :
    m.setSnsFrameH frameH =
      { m with
        gVCycle := frameLength frameH
        regs := writeNumber m.regs vcycRegs (frameLength frameH).toNat } := by
  simp only [setSnsFrameH, sensorWrite_byte, vcycRegs, writeNumber_two, frameLength]

/-- The writes of a table as they go over the bus. -/
def busWrites (table : List (UInt16 × UInt16)) : List (UInt16 × UInt8) :=
  table.map fun w => (w.1, (w.2 &&& 0xff).toUInt8)

theorem sensorWriteTable_eq (m : Mipi) (table : List (UInt16 × UInt16)) :
    m.sensorWriteTable table = { m with regs := writeAll m.regs (busWrites table) } := by
  induction table generalizing m with
  | nil => rfl
  | cons w table ih => exact ih (m.sensorWrite w.1 w.2)

/-- The writes of `Sensor_Init` and of the stream bit after it. -/
def fmtWrites (format : Int32) : List (UInt16 × UInt8) :=
  busWrites ((sensorCfg format).regs ++ [(regStreamEn, 0x01)])

theorem setSensorFmt_regs (m : Mipi) (format : Int32) :
    (m.setSensorFmt format).regs = writeAll m.regs (fmtWrites format) := by
  rw [fmtWrites, busWrites, List.map_append, writeAll_append, ← busWrites]
  simp only [setSensorFmt, sensorInit, sensorWriteTable_eq]
  rfl

theorem setSensorFmt_gVCycle (m : Mipi) (format : Int32) :
    (m.setSensorFmt format).gVCycle.toNat = number (m.setSensorFmt format).regs vcycRegs := by
  have hread : (m.setSensorFmt format).gVCycle =
      ((m.setSensorFmt format).regs regVcycHi).toUInt32 <<< 8 |||
        ((m.setSensorFmt format).regs regVcycLo).toUInt32 := by
    simp only [setSensorFmt, sensorRead, UInt8.toUInt8_toUInt16]
  rw [hread]
  exact readBack_toNat _ _

/-- The registers that `SetGain` writes. -/
def gainRegs : List UInt16 := [regGainMode, regGainIdx, regGainHi, regGainLo]

theorem vcycRegs_notMem : ∀ a ∈ vcycRegs, a ∉ gainRegs :=
  List.all_iff_forall_prop.mp (by decide)

theorem exposureRegs_notMem : ∀ a ∈ exposureRegs, a ∉ gainRegs :=
  List.all_iff_forall_prop.mp (by decide)

theorem vcycRegs_notMem_exposure : ∀ a ∈ vcycRegs, a ∉ exposureRegs :=
  List.all_iff_forall_prop.mp (by decide)

theorem exposureRegs_notMem_vcyc : ∀ a ∈ exposureRegs, a ∉ vcycRegs := fun a ha hv =>
  vcycRegs_notMem_exposure a hv ha

theorem setGain_gVCycle (m : Mipi) (gain : UInt32) : (m.setGain gain).gVCycle = m.gVCycle := by
  simp only [setGain, sensorWrite, apply_ite Mipi.gVCycle, ite_self]

theorem setGain_regs_of_notMem (m : Mipi) (gain : UInt32) {a : UInt16} (h : a ∉ gainRegs) :
    (m.setGain gain).regs a = m.regs a := by
  simp only [gainRegs, List.mem_cons, not_or, List.not_mem_nil, not_false_eq_true, and_true] at h
  obtain ⟨hmode, hidx, hhi, hlo⟩ := h
  simp only [setGain, sensorWrite_byte]
  rw [Function.update_of_ne hlo, Function.update_of_ne hhi, Function.update_of_ne hidx]
  split_ifs <;> simp only [sensorWrite, Function.update_of_ne hmode]

theorem setGain_regs_idx (m : Mipi) (gain : UInt32) :
    (m.setGain gain).regs regGainIdx = UInt8.ofNat (gainLutIdx gain) := by
  simp only [setGain, sensorWrite_byte]
  rw [Function.update_of_ne (by decide), Function.update_of_ne (by decide), Function.update_self,
    UInt32.toUInt8_ofNat']

end Mipi

end FH8852
