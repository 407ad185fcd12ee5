import FH8852.Sensor.Driver

/-!
# The frame length and the exposure over runs of the callbacks

`SetIntt` clamps the exposure to the frame length it finds.  `SetSnsFrameH` and
`SetSensorFmt` change the frame length and leave the exposure registers alone,
so a run keeps the two in step exactly if every such call leaves the exposure
room.
-/

namespace FH8852

open RegisterFile
open Mipi (exposureRegs vcycRegs gainRegs frameLength sensorCfg)

/-- The driver's frame length is the sensor's, and the exposure value lies from 8
to the frame length less 4. -/
structure FrameTimed (gVCycle : UInt32) (regs : Registers) : Prop where
  read : gVCycle.toNat = number regs vcycRegs
  least : 8 ≤ number regs exposureRegs
  room : number regs exposureRegs + 4 ≤ gVCycle.toNat

namespace FrameTimed

variable {gVCycle : UInt32} {regs regs' : Registers}

/-- Only the registers of the frame length and of the exposure count. -/
theorem congr (h : FrameTimed gVCycle regs) (hvcyc : ∀ a ∈ vcycRegs, regs' a = regs a)
    (hexp : ∀ a ∈ exposureRegs, regs' a = regs a) : FrameTimed gVCycle regs' where
  read := h.read.trans (number_inj.mpr hvcyc).symm
  least := h.least.trans_eq (number_inj.mpr hexp).symm
  room := (congrArg (· + 4) (number_inj.mpr hexp)).le.trans h.room

/-- An exposure clamped to the frame length is in step with it. -/
theorem of_exposureVal {lines : UInt32} (hread : gVCycle.toNat = number regs vcycRegs)
    (hlow : 12 ≤ gVCycle.toNat) :
    FrameTimed gVCycle (writeNumber regs exposureRegs (exposureVal gVCycle lines).toNat) := by
  have hval := exposureVal_toNat hlow lines
  have hlt : gVCycle.toNat < 65536 := by
    rw [hread]
    exact number_lt regs vcycRegs
  have hvalue : number (writeNumber regs exposureRegs (exposureVal gVCycle lines).toNat)
      exposureRegs = (exposureVal gVCycle lines).toNat := by
    rw [number_writeNumber _ (by decide)]
    apply Nat.mod_eq_of_lt
    show _ < 256 ^ 3
    rw [hval]
    split <;> omega
  constructor
  · rw [number_writeNumber_of_disjoint Mipi.vcycRegs_notMem_exposure]
    exact hread
  all_goals
    rw [hvalue, hval]
    split <;> omega

end FrameTimed

namespace Mipi

/-- The calls of the library. -/
inductive Call where
  | setSensorFmt (format : Int32)
  | setIntt (intt : UInt32)
  | setGain (gain : UInt32)
  | setSnsFrameH (frameH : UInt32)
  | setSensorFlipMirror (mode : UInt32)
  | sensorKick

def apply (m : Mipi) : Call → Mipi
  | .setSensorFmt format => m.setSensorFmt format
  | .setIntt intt => m.setIntt intt
  | .setGain gain => m.setGain gain
  | .setSnsFrameH frameH => m.setSnsFrameH frameH
  | .setSensorFlipMirror mode => m.setSensorFlipMirror mode
  | .sensorKick => m.sensorKick

/-- The states after each of the calls. -/
def states (m : Mipi) : List Call → List Mipi
  | [] => []
  | c :: calls => m.apply c :: (m.apply c).states calls

def Timed (m : Mipi) : Prop := FrameTimed m.gVCycle m.regs

/-- A call that changes the frame length leaves room for the exposure the sensor
has, and its length fits the two registers. -/
def Fits (m : Mipi) : Call → Prop
  | .setSensorFmt format =>
    8 ≤ number m.regs exposureRegs ∧
      number m.regs exposureRegs + 4 ≤ (sensorCfg format).vCycle.toNat
  | .setSnsFrameH frameH =>
    frameH.toNat ≤ 65535 ∧
      number m.regs exposureRegs + 4 ≤ max frameH.toNat 1125
  | _ => True

/-- Every call fits the state it is made in. -/
def AllFit (m : Mipi) : List Call → Prop
  | [] => True
  | c :: calls => m.Fits c ∧ (m.apply c).AllFit calls

theorem frameLength_toNat (frameH : UInt32) :
    (frameLength frameH).toNat = max frameH.toNat 1125 := by
  rw [frameLength, apply_ite UInt32.toNat]
  simp only [UInt32.lt_iff_toNat_lt, show (1125 : UInt32).toNat = 1125 from rfl]
  split <;> omega

/-- The table of a format sets the frame length that its entry declares and leaves
the exposure registers alone. -/
theorem fmtWrites_lookup (format : Int32) :
    (∀ a ∈ exposureRegs, (fmtWrites format).reverse.lookup a = none) ∧
      (fmtWrites format).reverse.lookup regVcycHi =
        some (UInt8.ofNat ((sensorCfg format).vCycle.toNat / 256)) ∧
      (fmtWrites format).reverse.lookup regVcycLo =
        some (UInt8.ofNat (sensorCfg format).vCycle.toNat) := by
  rw [fmtWrites, sensorCfg]
  split <;> exact ⟨List.all_iff_forall_prop.mp (by decide), by decide, by decide⟩

theorem setSensorFmt_vcyc (m : Mipi) (format : Int32) :
    (m.setSensorFmt format).gVCycle.toNat = (sensorCfg format).vCycle.toNat := by
  have hlt := (sensorCfg format).vCycle.toNat_lt
  obtain ⟨-, hhi, hlo⟩ := fmtWrites_lookup format
  rw [setSensorFmt_gVCycle, setSensorFmt_regs, vcycRegs, number, number, number,
    writeAll_of_lookup hhi, writeAll_of_lookup hlo, UInt8.toNat_ofNat', UInt8.toNat_ofNat']
  simp only [List.length_cons, List.length_nil]
  omega

theorem setSensorFmt_exposure (m : Mipi) (format : Int32) :
    number (m.setSensorFmt format).regs exposureRegs = number m.regs exposureRegs := by
  rw [setSensorFmt_regs]
  exact number_inj.mpr fun a ha => writeAll_of_lookup_none ((fmtWrites_lookup format).1 a ha)

theorem setSensorFmt_timed_iff (m : Mipi) (format : Int32) :
    (m.setSensorFmt format).Timed ↔ m.Fits (.setSensorFmt format) := by
  have hread := setSensorFmt_gVCycle m format
  have hvcyc := setSensorFmt_vcyc m format
  have hexp := setSensorFmt_exposure m format
  constructor
  · rintro ⟨-, hleast, hroom⟩
    exact ⟨by omega, by omega⟩
  · rintro ⟨hleast, hroom⟩
    exact ⟨hread, by omega, by omega⟩

theorem setIntt_timed {m : Mipi} (hread : m.gVCycle.toNat = number m.regs vcycRegs)
    (hlow : 12 ≤ m.gVCycle.toNat) (intt : UInt32) : (m.setIntt intt).Timed := by
  rw [setIntt_eq]
  exact FrameTimed.of_exposureVal hread hlow

theorem setSnsFrameH_timed_iff {m : Mipi} (h : m.Timed) (frameH : UInt32) :
    (m.setSnsFrameH frameH).Timed ↔ m.Fits (.setSnsFrameH frameH) := by
  have hvcyc : number (m.setSnsFrameH frameH).regs vcycRegs = max frameH.toNat 1125 % 65536 := by
    rw [setSnsFrameH_eq, number_writeNumber _ (by decide), frameLength_toNat]
    rfl
  have hexp : number (m.setSnsFrameH frameH).regs exposureRegs = number m.regs exposureRegs := by
    rw [setSnsFrameH_eq, number_writeNumber_of_disjoint exposureRegs_notMem_vcyc]
  have hlen : (m.setSnsFrameH frameH).gVCycle.toNat = max frameH.toNat 1125 := by
    rw [setSnsFrameH_eq, frameLength_toNat]
  have hleast := h.least
  constructor
  · rintro ⟨hread, -, hroom⟩
    exact ⟨by omega, by omega⟩
  · rintro ⟨hfits, hroom⟩
    exact ⟨by omega, by omega, by omega⟩

/-- A write to any other register. -/
theorem sensorWrite_timed {m : Mipi} (h : m.Timed) {reg : UInt16}
    (hreg : reg ∉ vcycRegs ++ exposureRegs) (val : UInt16) : (m.sensorWrite reg val).Timed := by
  rw [List.mem_append, not_or] at hreg
  exact FrameTimed.congr h (fun a ha => Function.update_of_ne (ne_of_mem_of_not_mem ha hreg.1) _ _)
    (fun a ha => Function.update_of_ne (ne_of_mem_of_not_mem ha hreg.2) _ _)

/-- What one call does to a state in step. -/
theorem apply_timed_iff {m : Mipi} (h : m.Timed) (c : Call) : (m.apply c).Timed ↔ m.Fits c := by
  cases c with
  | setSensorFmt format => exact setSensorFmt_timed_iff m format
  | setIntt intt =>
      have := h.least
      have := h.room
      exact iff_of_true (setIntt_timed h.read (by omega) intt) trivial
  | setGain gain =>
      have hkeeps := FrameTimed.congr h
        (fun a ha => setGain_regs_of_notMem m gain (vcycRegs_notMem a ha))
        (fun a ha => setGain_regs_of_notMem m gain (exposureRegs_notMem a ha))
      rw [← setGain_gVCycle m gain] at hkeeps
      exact iff_of_true hkeeps trivial
  | setSnsFrameH frameH => exact setSnsFrameH_timed_iff h frameH
  | setSensorFlipMirror mode => exact iff_of_true (sensorWrite_timed h (by decide) _) trivial
  | sensorKick => exact iff_of_true (sensorWrite_timed h (by decide) _) trivial

/-- A run from a state in step stays in step exactly if its calls fit. -/
theorem states_timed_iff {m : Mipi} (h : m.Timed) (calls : List Call) :
    (∀ s ∈ m.states calls, s.Timed) ↔ m.AllFit calls := by
  induction calls generalizing m with
  | nil => exact iff_of_true (fun s hs => absurd hs List.not_mem_nil) trivial
  | cons c calls ih =>
      rw [states, List.forall_mem_cons, AllFit, ← apply_timed_iff h]
      exact and_congr_right fun hc => ih hc

/-- A run that begins with a format and an exposure is in step after every call
exactly if its format leaves the exposure room and every later call fits; and
from the first exposure on, exactly if every later call fits. -/
theorem run_timed_iff (m : Mipi) (format : Int32) (intt : UInt32) (calls : List Call) :
    ((∀ s ∈ m.states (.setSensorFmt format :: .setIntt intt :: calls), s.Timed) ↔
      m.Fits (.setSensorFmt format) ∧
        ((m.setSensorFmt format).setIntt intt).AllFit calls) ∧
    ((∀ s ∈ (m.setSensorFmt format).states (.setIntt intt :: calls), s.Timed) ↔
      ((m.setSensorFmt format).setIntt intt).AllFit calls) := by
  have hlow : 12 ≤ (m.setSensorFmt format).gVCycle.toNat := by
    rw [setSensorFmt_vcyc, sensorCfg]
    split <;> decide
  have hstart := setIntt_timed (setSensorFmt_gVCycle m format) hlow intt
  have hrest : (∀ s ∈ (m.setSensorFmt format).states (.setIntt intt :: calls), s.Timed) ↔
      ((m.setSensorFmt format).setIntt intt).AllFit calls := by
    rw [states, List.forall_mem_cons]
    exact (and_iff_right hstart).trans (states_timed_iff hstart calls)
  constructor
  · rw [states, List.forall_mem_cons]
    exact and_congr (setSensorFmt_timed_iff m format) hrest
  · exact hrest

/-- At 25 frames a second an exposure of 100 lines leaves 2600 in the exposure
registers, and a frame of 1125 lines is set over it. -/
theorem frame_outrun :
    ¬ ∀ (m : Mipi) (format : Int32) (intt : UInt32) (calls : List Call),
      ∀ s ∈ m.states (.setSensorFmt format :: .setIntt intt :: calls), s.Timed := by
  intro h
  let m : Mipi := { regs := fun a => if a = regExpMid then 3 else 0 }
  have hroom := (h m 0x203 100 [.setSnsFrameH 1125]
    (((m.setSensorFmt 0x203).setIntt 100).setSnsFrameH 1125)
    (List.mem_cons_of_mem _ (List.mem_cons_of_mem _ List.mem_cons_self))).room
  exact absurd hroom (by decide +kernel)

end Mipi

end FH8852
