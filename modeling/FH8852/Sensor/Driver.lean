import FH8852.Sensor.Mipi

/-!
# The CV2003 routines of `cv2003_driver.c`
-/

namespace FH8852

open RegisterFile

def sensorCfg1080P25 : List (UInt16 × UInt8) :=
  [(0x3300, 0x03), (0x3422, 0xbf), (0x3401, 0x00), (0x3440, 0x01),
   (0x3442, 0x00), (0x3806, 0x00), (0x3908, 0x5f), (0x3909, 0x00),
   (0x3929, 0x01), (0x3158, 0x01), (0x3159, 0x01), (0x315a, 0x01),
   (0x315b, 0x01), (0x35b3, 0x15), (0x3148, 0x64), (0x3031, 0x00),
   (0x3118, 0x01), (0x3119, 0x06), (0x3670, 0x00), (0x3679, 0x02),
   (0x3330, 0x00), (0x320e, 0x02), (0x3804, 0x10), (0x35a1, 0x06),
   (0x35a8, 0x06), (0x35a9, 0x06), (0x35aa, 0x06), (0x35ab, 0x06),
   (0x35ac, 0x06), (0x35ad, 0x06), (0x35ae, 0x07), (0x35af, 0x07),
   (0x333b, 0x01), (0x3338, 0x08), (0x3339, 0x00), (0x3144, 0x20),
   (0x3030, 0x01), (0x3020, 0x8c), (0x3021, 0x0a), (0x3024, 0xd0),
   (0x3025, 0x02), (0x3038, 0x06), (0x3039, 0x00), (0x303a, 0x80),
   (0x303b, 0x07), (0x3034, 0x04), (0x3035, 0x00), (0x3036, 0x38),
   (0x3037, 0x04), (0x3908, 0x51), (0x390a, 0x02), (0x3000, 0x00)]

def tabSensorRegToGain : List UInt16 :=
  [0x0040, 0x0040, 0x0040, 0x0040, 0x0041, 0x0041, 0x0041, 0x0041, 0x0042, 0x0042, 0x0042, 0x0042,
   0x0043, 0x0043, 0x0043, 0x0043, 0x0044, 0x0044, 0x0044, 0x0045, 0x0045, 0x0045, 0x0046, 0x0046,
   0x0046, 0x0046, 0x0047, 0x0047, 0x0047, 0x0048, 0x0048, 0x0048, 0x0049, 0x0049, 0x0049, 0x004a,
   0x004a, 0x004a, 0x004b, 0x004b, 0x004b, 0x004c, 0x004c, 0x004c, 0x004d, 0x004d, 0x004e, 0x004e,
   0x004e, 0x004f, 0x004f, 0x004f, 0x0050, 0x0050, 0x0051, 0x0051, 0x0051, 0x0052, 0x0052, 0x0053,
   0x0053, 0x0054, 0x0054, 0x0054, 0x0055, 0x0055, 0x0056, 0x0056, 0x0057, 0x0057, 0x0058, 0x0058,
   0x0059, 0x0059, 0x005a, 0x005a, 0x005b, 0x005b, 0x005c, 0x005c, 0x005d, 0x005d, 0x005e, 0x005e,
   0x005f, 0x005f, 0x0060, 0x0060, 0x0061, 0x0062, 0x0062, 0x0063, 0x0063, 0x0064, 0x0065, 0x0065,
   0x0066, 0x0067, 0x0067, 0x0068, 0x0069, 0x0069, 0x006a, 0x006b, 0x006b, 0x006c, 0x006d, 0x006d,
   0x006e, 0x006f, 0x0070, 0x0071, 0x0071, 0x0072, 0x0073, 0x0074, 0x0075, 0x0075, 0x0076, 0x0077,
   0x0078, 0x0079, 0x007a, 0x007b, 0x007c, 0x007d, 0x007e, 0x007e, 0x0080, 0x0081, 0x0082, 0x0083,
   0x0084, 0x0085, 0x0086, 0x0087, 0x0088, 0x0089, 0x008a, 0x008c, 0x008d, 0x008e, 0x008f, 0x0090,
   0x0092, 0x0093, 0x0094, 0x0096, 0x0097, 0x0099, 0x009a, 0x009c, 0x009d, 0x009f, 0x00a0, 0x00a2,
   0x00a3, 0x00a5, 0x00a7, 0x00a8, 0x00aa, 0x00ac, 0x00ae, 0x00b0, 0x00b2, 0x00b4, 0x00b6, 0x00b8,
   0x00ba, 0x00bc, 0x00be, 0x00c0, 0x00c3, 0x00c5, 0x00c7, 0x00ca, 0x00cc, 0x00cf, 0x00d2, 0x00d4,
   0x00d7, 0x00da, 0x00dd, 0x00e0, 0x00e3, 0x00e6, 0x00ea, 0x00ed, 0x00f0, 0x00f4, 0x00f8, 0x00fc,
   0x0100, 0x0104, 0x0108, 0x010c, 0x0111, 0x0115, 0x011a, 0x011f, 0x0124, 0x0129, 0x012f, 0x0135,
   0x013b, 0x0141, 0x0147, 0x014e, 0x0155, 0x015c, 0x0164, 0x016c, 0x0174, 0x017c, 0x0186, 0x018f,
   0x0199, 0x01a4, 0x01af, 0x01ba, 0x01c7, 0x01d4, 0x01e1, 0x01f0, 0x0200, 0x0210, 0x0222, 0x0234,
   0x0249, 0x025e, 0x0276, 0x028f, 0x02aa, 0x02c8, 0x02e8, 0x030c, 0x0333, 0x035e, 0x038e, 0x03c3,
   0x0400, 0x0444, 0x0492, 0x04ec, 0x0555, 0x05d1, 0x0666, 0x071c, 0x0800, 0xffff]

/-- The frame length `g_v_cycle` of `cv2003_driver.c` with the registers of the
sensor. -/
structure Driver where
  gVCycle : UInt32 := 0
  regs : Registers

namespace Driver

open Mipi

def snsWrite (d : Driver) (reg : UInt16) (val : UInt8) : Driver :=
  { d with regs := Function.update d.regs reg val }

def snsRead (d : Driver) (reg : UInt16) : UInt16 := (d.regs reg).toUInt16

def setIntt (d : Driver) (intt : UInt32) : Driver :=
  let v := exposureVal d.gVCycle (intt * 2)
  let d := d.snsWrite regExpHi ((v >>> 16) &&& 0xff).toUInt8
  let d := d.snsWrite regExpMid ((v >>> 8) &&& 0xff).toUInt8
  d.snsWrite regExpLo (v &&& 0xff).toUInt8

/-- The first place where the gain lies between two neighbouring entries. -/
def tabIdx (gain : UInt32) : Nat :=
  (tabSensorRegToGain.zip tabSensorRegToGain.tail).findIdx fun entries =>
    !(decide (gain < entries.1.toUInt32) || decide (entries.2.toUInt32 < gain))

def setGain (d : Driver) (gain : UInt32) : Driver :=
  let idx := UInt32.ofNat (tabIdx gain)
  let reg : UInt32 :=
    if gain >>> 5 < 0x40 then 0x40 else if gain >>> 5 > 0x3ff then 0x400 else gain >>> 5
  let d := if gain < 0x401 then d.snsWrite regGainMode 0x10 else d
  let d := if gain > 0x7ff then d.snsWrite regGainMode 0x15 else d
  let d := d.snsWrite regGainIdx (idx &&& 0xff).toUInt8
  let d := d.snsWrite regGainHi ((reg >>> 8) &&& 0xff).toUInt8
  d.snsWrite regGainLo (reg &&& 0xff).toUInt8

def snsWriteTable (d : Driver) (table : List (UInt16 × UInt8)) : Driver :=
  table.foldl (fun d w => d.snsWrite w.1 w.2) d

/-- `cv2003_set_format` where the devices open. -/
def cv2003SetFormat (d : Driver) : Driver :=
  let d := (d.snsWriteTable sensorCfg1080P25).snsWrite regStreamEn 0x01
  let vHi := d.snsRead regVcycHi
  let vLo := d.snsRead regVcycLo
  let d := { d with gVCycle := (vHi.toUInt32 <<< 8) ||| vLo.toUInt32 }
  (d.setIntt (d.gVCycle / 2 - 5)).setGain 0x40

theorem snsWrite_byte (d : Driver) (reg : UInt16) (x : UInt32) :
    d.snsWrite reg (x &&& 0xff).toUInt8 =
      { d with regs := Function.update d.regs reg x.toUInt8 } := by
  rw [snsWrite, toUInt8_and_ff]

theorem setIntt_eq (d : Driver) (intt : UInt32) :
    d.setIntt intt =
      { d with
        regs := writeNumber d.regs exposureRegs (exposureVal d.gVCycle (intt * 2)).toNat } := by
  simp only [setIntt, snsWrite_byte, exposureRegs, writeNumber_three]

theorem setGain_gVCycle (d : Driver) (gain : UInt32) : (d.setGain gain).gVCycle = d.gVCycle := by
  simp only [setGain, snsWrite, apply_ite Driver.gVCycle, ite_self]

theorem setGain_regs_of_notMem (d : Driver) (gain : UInt32) {a : UInt16}
    (h : a ∉ gainRegs) : (d.setGain gain).regs a = d.regs a := by
  simp only [gainRegs, List.mem_cons, not_or, List.not_mem_nil, not_false_eq_true,
    and_true] at h
  obtain ⟨hmode, hidx, hhi, hlo⟩ := h
  simp only [setGain, snsWrite_byte]
  rw [Function.update_of_ne hlo, Function.update_of_ne hhi, Function.update_of_ne hidx]
  split_ifs <;> simp only [snsWrite, Function.update_of_ne hmode]

theorem setGain_regs_idx (d : Driver) (gain : UInt32) :
    (d.setGain gain).regs regGainIdx = UInt8.ofNat (tabIdx gain) := by
  simp only [setGain, snsWrite_byte]
  rw [Function.update_of_ne (by decide), Function.update_of_ne (by decide), Function.update_self,
    UInt32.toUInt8_ofNat']

theorem tab_length : tabSensorRegToGain.length = 250 := by decide +kernel

theorem tab_pairs_length : (tabSensorRegToGain.zip tabSensorRegToGain.tail).length = 249 := by
  rw [List.length_zip, List.length_tail, tab_length]
  rfl

theorem tabIdx_le (gain : UInt32) : tabIdx gain ≤ 249 := by
  rw [← tab_pairs_length]
  exact List.findIdx_le_length

theorem snsWriteTable_regs (d : Driver) (table : List (UInt16 × UInt8)) :
    (d.snsWriteTable table).regs = writeAll d.regs table := by
  induction table generalizing d with
  | nil => rfl
  | cons w table ih => exact ih (d.snsWrite w.1 w.2)

end Driver

end FH8852
