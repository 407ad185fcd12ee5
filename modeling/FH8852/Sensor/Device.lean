import FH8852.Sensor.Bus

/-!
# The two drivers with a sensor on the bus

On a bus that answers, what the drivers do with their requests is what they do with a
file of registers.
-/

namespace FH8852
namespace Port

open RegisterFile

/-! ## A sensor -/

/-- The writes to the registers at an address. -/
def writtenAt (a : UInt16) (ops : List BusOp) : List (UInt16 × UInt8) :=
  ops.filterMap fun op =>
    match op with
    | .write addr reg val => if addr = a then some (reg, val) else none
    | _ => none

/-- The registers of the sensor at `a`, which first held `regs`, after the requests. -/
def deviceRegs (a : UInt16) (regs : Registers) (ops : List BusOp) : Registers :=
  writeAll regs (writtenAt a ops)

/-- A bus with one device, the sensor at `a`. -/
structure HasSensor (bus : Bus) (a : UInt16) (regs : Registers) : Prop where
  kernel : ∀ log op, op.target = none → (bus log op).isSome
  write : ∀ log reg val, (bus log (.write a reg val)).isSome
  read : ∀ log reg, bus log (.read a reg) = some (deviceRegs a regs log reg)
  absent : ∀ log op b, op.target = some b → b ≠ a → bus log op = none

section Sensor

variable {bus : Bus} {a b : UInt16} {regs r : Registers} {s : Port} {v : UInt32}

theorem deviceRegs_append (ops ops' : List BusOp) :
    deviceRegs a regs (ops ++ ops') = writeAll (deviceRegs a regs ops) (writtenAt a ops') := by
  rw [deviceRegs, writtenAt, List.filterMap_append, writeAll_append]
  rfl

theorem deviceRegs_snoc {op : BusOp} (h : writtenAt a [op] = []) (ops : List BusOp) :
    deviceRegs a regs (ops ++ [op]) = deviceRegs a regs ops := by
  rw [deviceRegs_append, h]
  rfl

theorem writtenAt_of_ne {op : BusOp} (h : op.target ≠ some a) : writtenAt a [op] = [] := by
  cases op with
  | write addr reg val =>
      have hne : addr ≠ a := fun heq => h (congrArg some heq)
      simp [writtenAt, hne]
  | _ => rfl

theorem writtenAt_read (reg : UInt16) : writtenAt a [.read b reg] = [] := rfl

/-- The device is open at `b`, and the sensor at `a` holds `r`. -/
structure Sees (a : UInt16) (regs : Registers) (b : UInt16) (s : Port) (v : UInt32)
    (r : Registers) : Prop where
  opened : s.opened = true
  addr : s.addr = b
  cycle : s.gVCycle = v
  regs : deviceRegs a regs s.log = r

/-- The device is closed, and the sensor at `a` holds `r`. -/
structure Rests (a : UInt16) (regs : Registers) (s : Port) (v : UInt32) (r : Registers) : Prop where
  closed : s.opened = false
  cycle : s.gVCycle = v
  regs : deviceRegs a regs s.log = r

theorem Sees.write (bus : Bus) (h : Sees a regs a s v r) (reg : UInt16) (val : UInt8) :
    Sees a regs a (s.sensorWrite bus reg val) v (Function.update r reg val) := by
  refine ⟨h.opened, h.addr, h.cycle, ?_⟩
  show deviceRegs a regs (s.log ++ [.write s.addr reg val]) = _
  rw [deviceRegs_append, h.regs, h.addr]
  simp [writtenAt, writeAll]

theorem Sees.table (bus : Bus) (h : Sees a regs a s v r) (table : List (UInt16 × UInt8)) :
    Sees a regs a (s.sensorWriteTable bus table) v (writeAll r table) := by
  induction table generalizing s r with
  | nil => exact h
  | cons w table ih => exact ih (h.write bus w.1 w.2)

theorem Sees.read (hbus : HasSensor bus a regs) (h : Sees a regs a s v r) (reg : UInt16) :
    (s.sensorRead bus reg).1 = (r reg).toUInt16 ∧ Sees a regs a (s.sensorRead bus reg).2 v r := by
  constructor
  · show Option.elim (if s.opened = true then bus s.log (.read s.addr reg) else none) _ _ = _
    rw [if_pos h.opened, h.addr, hbus.read, h.regs]
    rfl
  · exact ⟨h.opened, h.addr, h.cycle, (deviceRegs_snoc (writtenAt_read reg) _).trans h.regs⟩

/-- At another address nothing is written. -/
theorem Sees.write_absent (bus : Bus) (h : Sees a regs b s v r) (hne : b ≠ a)
    (reg : UInt16) (val : UInt8) :
    Sees a regs b (s.sensorWrite bus reg val) v r := by
  have hwritten : writtenAt a [.write s.addr reg val] = [] := by
    refine writtenAt_of_ne fun heq => hne ?_
    rw [← h.addr]
    exact Option.some.inj heq
  exact ⟨h.opened, h.addr, h.cycle, (deviceRegs_snoc hwritten _).trans h.regs⟩

theorem Sees.table_absent (bus : Bus) (h : Sees a regs b s v r) (hne : b ≠ a)
    (table : List (UInt16 × UInt8)) :
    Sees a regs b (s.sensorWriteTable bus table) v r := by
  induction table generalizing s with
  | nil => exact h
  | cons w table ih => exact ih (h.write_absent bus hne w.1 w.2)

/-- Nor does anything answer there. -/
theorem Sees.read_absent (hbus : HasSensor bus a regs) (h : Sees a regs b s v r)
    (hne : b ≠ a) (reg : UInt16) :
    (s.sensorRead bus reg).1 = 0xffff ∧ Sees a regs b (s.sensorRead bus reg).2 v r := by
  constructor
  · show Option.elim (if s.opened = true then bus s.log (.read s.addr reg) else none) _ _ = _
    rw [if_pos h.opened, h.addr, hbus.absent _ _ b rfl hne]
    rfl
  · exact ⟨h.opened, h.addr, h.cycle, (deviceRegs_snoc (writtenAt_read reg) _).trans h.regs⟩

theorem Sees.setCycle (h : Sees a regs b s v r) (v' : UInt32) :
    Sees a regs b { s with gVCycle := v' } v' r := ⟨h.opened, h.addr, rfl, h.regs⟩

theorem Sees.close (h : Sees a regs b s v r) : Rests a regs s.sensorDeviceClose v r := by
  rw [sensorDeviceClose, if_pos h.opened]
  exact ⟨rfl, h.cycle, (deviceRegs_snoc rfl _).trans h.regs⟩

/-- A request of the kernel alone. -/
theorem Sees.ask (hbus : HasSensor bus a regs) (h : Sees a regs b s v r) {op : BusOp}
    (hop : op.target = none) :
    (s.ask bus op).1.isNone = false ∧ Sees a regs b (s.ask bus op).2 v r := by
  have hwritten : writtenAt a [op] = [] := writtenAt_of_ne (by rw [hop]; exact nofun)
  constructor
  · rw [Port.ask, if_pos h.opened, Option.isNone_eq_false_iff]
    exact hbus.kernel _ _ hop
  · exact ⟨h.opened, h.addr, h.cycle, (deviceRegs_snoc hwritten _).trans h.regs⟩

theorem Sees.setAddress (hbus : HasSensor bus a regs) (h : Sees a regs b s v r) (addr : UInt16) :
    (s.setAddress bus addr).1 = 0 ∧ Sees a regs b (s.setAddress bus addr).2 v r := by
  obtain ⟨htenbit, h₁⟩ := h.ask hbus (rfl : BusOp.tenbit.target = none)
  obtain ⟨hslave, h₂⟩ := h₁.ask hbus (rfl : (BusOp.slave addr).target = none)
  unfold Port.setAddress
  dsimp only
  rw [htenbit, if_neg Bool.false_ne_true, hslave, if_neg Bool.false_ne_true]
  exact ⟨rfl, h₂⟩

theorem Rests.open (hbus : HasSensor bus a regs) (h : Rests a regs s v r) :
    (s.openDevice bus).opened = true ∧ deviceRegs a regs (s.openDevice bus).log = r :=
  ⟨hbus.kernel _ _ rfl, (deviceRegs_snoc rfl _).trans h.regs⟩

/-! ## The probe -/

/-- An initialisation that opens the closed device at an address. -/
def Opens (a : UInt16) (regs : Registers) (init : Port → UInt16 → Int × Port) : Prop :=
  ∀ s v r b, Rests a regs s v r → (init s b).1 = 0 ∧ Sees a regs b (init s b).2 v r

theorem Mipi.opens (hbus : HasSensor bus a regs) : Opens a regs (Mipi.sensorDeviceInit bus) := by
  intro s v r b h
  have hmoved : Rests a regs { s with addr := b } v r := ⟨h.closed, h.cycle, h.regs⟩
  obtain ⟨hopened, hregs⟩ := hmoved.open hbus
  have hsees : Sees a regs b (openDevice bus { s with addr := b }) v r :=
    ⟨hopened, rfl, h.cycle, hregs⟩
  unfold Mipi.sensorDeviceInit
  rw [if_neg (Bool.eq_false_iff.mp h.closed)]
  dsimp only
  rw [if_pos hopened]
  exact hsees.setAddress hbus b

theorem Driver.opens (hbus : HasSensor bus a regs) :
    Opens a regs (Driver.sensorDeviceInit bus) := by
  intro s v r b h
  obtain ⟨hopened, hregs⟩ := h.open hbus
  have hsees : Sees a regs b { s.openDevice bus with addr := b } v r :=
    ⟨hopened, rfl, h.cycle, hregs⟩
  unfold Driver.sensorDeviceInit
  dsimp only
  rw [if_pos hopened]
  exact hsees.setAddress hbus b

/-- The product numbers of a CV2003. -/
def IsSensor (r : Registers) : Prop := isCv2003 (r regPid1).toUInt16 (r regPid2).toUInt16 = true

/-- The probe passes the addresses where nothing answers, and finds the sensor. -/
theorem probeLoop_finds (hbus : HasSensor bus a regs) {init : Port → UInt16 → Int × Port}
    (hinit : Opens a regs init) (hid : IsSensor r) {addrs : List UInt16} (ha : a ∈ addrs)
    (h : Rests a regs s v r) : (s.probeLoop bus init addrs).1 = some a ∧
      Rests a regs (s.probeLoop bus init addrs).2 v r := by
  induction addrs generalizing s with
  | nil => cases ha
  | cons b addrs ih =>
      have hsees := (hinit s v r b h).2
      unfold probeLoop
      dsimp only
      by_cases hb : b = a
      · subst hb
        obtain ⟨hpid1, h₁⟩ := hsees.read hbus regPid1
        obtain ⟨hpid2, h₂⟩ := h₁.read hbus regPid2
        have hmatch : isCv2003 (r regPid1).toUInt16 (r regPid2).toUInt16 = true := hid
        rw [hpid1, hpid2, if_pos hmatch]
        exact ⟨rfl, h₂.close⟩
      · obtain ⟨hpid1, h₁⟩ := hsees.read_absent hbus hb regPid1
        obtain ⟨hpid2, h₂⟩ := h₁.read_absent hbus hb regPid2
        have hno : isCv2003 0xffff 0xffff ≠ true := by decide
        rw [hpid1, hpid2, if_neg hno]
        exact ih ((List.mem_cons.mp ha).resolve_left fun heq => hb heq.symm) h₂.close

/-! ## The second driver -/

theorem Sees.askIsp (hbus : HasSensor bus a regs) (h : Sees a regs b s v r) {op : BusOp}
    (hop : op.target = none) :
    (s.askIsp bus op).1.isNone = false ∧ Sees a regs b (s.askIsp bus op).2 v r := by
  have hwritten : writtenAt a [op] = [] := writtenAt_of_ne (by rw [hop]; exact nofun)
  exact ⟨Option.isNone_eq_false_iff.mpr (hbus.kernel _ _ hop), h.opened, h.addr, h.cycle,
    (deviceRegs_snoc hwritten _).trans h.regs⟩

theorem Sees.mipiInit (hbus : HasSensor bus a regs) (h : Sees a regs b s v r) :
    (Driver.mipiInit bus s).1 = 0 ∧ Sees a regs b (Driver.mipiInit bus s).2 v r := by
  obtain ⟨hfd, h₁⟩ := h.askIsp hbus (rfl : BusOp.openIsp.target = none)
  obtain ⟨hwrap, h₂⟩ := h₁.askIsp hbus (rfl : (BusOp.wrapInit [0, 0, 0, 1, 0, 0]).target = none)
  obtain ⟨hctrl, h₃⟩ := h₂.askIsp hbus (rfl : (BusOp.ctrlInit [0, 9, 1]).target = none)
  obtain ⟨-, h₄⟩ := h₃.askIsp hbus (rfl : BusOp.closeIsp.target = none)
  unfold Driver.mipiInit
  dsimp only
  rw [hfd, if_neg Bool.false_ne_true, hwrap, hctrl]
  exact ⟨rfl, h₄⟩

theorem Sees.setIntt (bus : Bus) (h : Sees a regs a s v r) (intt : UInt32) :
    Sees a regs a (Driver.setIntt bus s intt) v ((FH8852.Driver.mk v r).setIntt intt).regs := by
  have htable := h.table bus (let v := exposureVal v (intt * 2)
    [(regExpHi, ((v >>> 16) &&& 0xff).toUInt8), (regExpMid, ((v >>> 8) &&& 0xff).toUInt8),
      (regExpLo, (v &&& 0xff).toUInt8)])
  rw [Driver.setIntt, h.cycle]
  exact htable

theorem Sees.writeIf (bus : Bus) {d : FH8852.Driver} (h : Sees a regs a s v d.regs) (p : Prop)
    [Decidable p] (reg : UInt16) (val : UInt8) :
    Sees a regs a (if p then s.sensorWrite bus reg val else s) v
      (if p then d.snsWrite reg val else d).regs := by
  split
  · exact h.write bus reg val
  · exact h

theorem Sees.setGain (bus : Bus) (h : Sees a regs a s v r) (gain : UInt32) :
    Sees a regs a (Driver.setGain bus s gain) v ((FH8852.Driver.mk v r).setGain gain).regs := by
  have hstart : Sees a regs a s v (FH8852.Driver.mk v r).regs := h
  have hlow := hstart.writeIf bus (gain < 0x401) regGainMode 0x10
  have hhigh := hlow.writeIf bus (gain > 0x7ff) regGainMode 0x15
  exact hhigh.table bus _

/-- The registers of the format go to the sensor as to a file of registers. -/
theorem Sees.configure (hbus : HasSensor bus a regs) (h : Sees a regs a s v r) :
    Sees a regs a (Driver.configure bus s) (FH8852.Driver.mk v r).cv2003SetFormat.gVCycle
      (FH8852.Driver.mk v r).cv2003SetFormat.regs := by
  have hwrites := (h.table bus sensorCfg1080P25).write bus regStreamEn 0x01
  obtain ⟨hhi, h₁⟩ := hwrites.read hbus regVcycHi
  obtain ⟨hlo, h₂⟩ := h₁.read hbus regVcycLo
  let d₁ := ((FH8852.Driver.mk v r).snsWriteTable sensorCfg1080P25).snsWrite regStreamEn 0x01
  have hd₁ : d₁.regs = Function.update (writeAll r sensorCfg1080P25) regStreamEn 0x01 := by
    show Function.update ((FH8852.Driver.mk v r).snsWriteTable sensorCfg1080P25).regs
      regStreamEn 0x01 = _
    rw [FH8852.Driver.snsWriteTable_regs]
  have hcycle :=
    h₂.setCycle ((d₁.snsRead regVcycHi).toUInt32 <<< 8 ||| (d₁.snsRead regVcycLo).toUInt32)
  rw [← hd₁] at hcycle hhi hlo
  unfold Driver.configure
  dsimp only
  rw [hhi, hlo]
  have hgain := (hcycle.setIntt bus (((d₁.snsRead regVcycHi).toUInt32 <<< 8 |||
    (d₁.snsRead regVcycLo).toUInt32) / 2 - 5)).setGain bus 0x40
  exact hgain

/-- `cv2003_set_format` closes the device and opens it again at its address. -/
theorem Sees.setFormat (hbus : HasSensor bus a regs) (h : Sees a regs a s v r) :
    (Driver.cv2003SetFormat bus s).1 = 0 ∧ Sees a regs a (Driver.cv2003SetFormat bus s).2
      (FH8852.Driver.mk v r).cv2003SetFormat.gVCycle
        (FH8852.Driver.mk v r).cv2003SetFormat.regs := by
  have haddr : s.sensorDeviceClose.addr = a := (sensorDeviceClose_stays s).addr.trans h.addr
  obtain ⟨hagain, hopen⟩ := Driver.opens hbus _ v r a h.close
  obtain ⟨hmipi, hready⟩ := hopen.mipiInit hbus
  unfold Driver.cv2003SetFormat
  dsimp only
  rw [haddr, hagain, if_neg (by decide), hmipi, if_neg (by decide)]
  exact ⟨rfl, hready.configure hbus⟩

/-! ## The first driver -/

theorem Sees.sensorInit (bus : Bus) (h : Sees a regs a s v r) (format : Int32) :
    Sees a regs a (Mipi.sensorInit bus s format) (FH8852.Mipi.sensorCfg format).vCycle.toUInt32
      (writeAll r (FH8852.Mipi.busWrites (FH8852.Mipi.sensorCfg format).regs)) :=
  (h.table bus _).setCycle _

theorem Rests.setSensorFmt (hbus : HasSensor bus cv2003DefaultAddr regs)
    (h : Rests cv2003DefaultAddr regs s v r) (m : FH8852.Mipi) (hm : m.regs = r) (format : Int32) :
    Sees cv2003DefaultAddr regs cv2003DefaultAddr (Mipi.setSensorFmt bus s format)
      (m.setSensorFmt format).gVCycle (m.setSensorFmt format).regs := by
  have hclosed : s.sensorDeviceClose = s := by
    rw [sensorDeviceClose, if_neg (Bool.eq_false_iff.mp h.closed)]
  have hopen := (Mipi.opens hbus s v r cv2003DefaultAddr h).2
  have hwrites := (hopen.sensorInit bus format).write bus regStreamEn 0x01
  obtain ⟨hlo, h₁⟩ := hwrites.read hbus regVcycLo
  obtain ⟨hhi, h₂⟩ := h₁.read hbus regVcycHi
  have hregs : (m.setSensorFmt format).regs = Function.update (writeAll r
      (FH8852.Mipi.busWrites (FH8852.Mipi.sensorCfg format).regs)) regStreamEn 0x01 := by
    rw [FH8852.Mipi.setSensorFmt_regs, FH8852.Mipi.fmtWrites, FH8852.Mipi.busWrites,
      List.map_append, writeAll_append, hm]
    rfl
  unfold Mipi.setSensorFmt
  dsimp only
  rw [hclosed, hlo, hhi, ← hregs]
  rw [← hregs] at h₂
  have hcycle :=
    h₂.setCycle (((m.setSensorFmt format).regs regVcycHi).toUInt16.toUInt8.toUInt32 <<< 8 |||
    ((m.setSensorFmt format).regs regVcycLo).toUInt16.toUInt8.toUInt32)
  exact hcycle

/-- A sensor at another address is not programmed, and the frame length is that of
reads that fail. -/
theorem Rests.setSensorFmt_absent (hbus : HasSensor bus a regs) (ha : a ≠ cv2003DefaultAddr)
    (h : Rests a regs s v r) (format : Int32) :
    Sees a regs cv2003DefaultAddr (Mipi.setSensorFmt bus s format) 0xffff r := by
  have hne : cv2003DefaultAddr ≠ a := ha.symm
  have hclosed : s.sensorDeviceClose = s := by
    rw [sensorDeviceClose, if_neg (Bool.eq_false_iff.mp h.closed)]
  have hopen := (Mipi.opens hbus s v r cv2003DefaultAddr h).2
  have hinit : Sees a regs cv2003DefaultAddr (Mipi.sensorInit bus _ format) _ r :=
    (hopen.table_absent bus hne _).setCycle _
  obtain ⟨hlo, h₁⟩ := (hinit.write_absent bus hne regStreamEn 0x01).read_absent hbus hne regVcycLo
  obtain ⟨hhi, h₂⟩ := h₁.read_absent hbus hne regVcycHi
  unfold Mipi.setSensorFmt
  dsimp only
  rw [hclosed, hlo, hhi]
  exact h₂.setCycle _

/-! ## Both drivers -/

/-- Where the sensor answers, the second driver finds it and programs it as a file of
registers, at either address; the first finds it too, and programs it at the first
address only. -/
theorem sensor_programmed (hbus : HasSensor bus a regs)
    (ha : a ∈ [cv2003DefaultAddr, cv2003AltAddr])
    (h : Rests a regs s v r) (hid : IsSensor r) (format : Int32) :
    ((Driver.cv2003Init bus s).1 = 0 ∧
      (Driver.cv2003SetFormat bus (Driver.cv2003Init bus s).2).1 = 0 ∧
      Sees a regs a (Driver.cv2003SetFormat bus (Driver.cv2003Init bus s).2).2
        (FH8852.Driver.mk v r).cv2003SetFormat.gVCycle
          (FH8852.Driver.mk v r).cv2003SetFormat.regs) ∧
    (Mipi.sensorIsconnect bus s).1 = 1 ∧
      Sees a regs cv2003DefaultAddr (Mipi.setSensorFmt bus (Mipi.sensorIsconnect bus s).2 format)
        (if a = cv2003DefaultAddr then
          (({ gVCycle := v, regs := r } : FH8852.Mipi).setSensorFmt format).gVCycle
          else 0xffff)
        (if a = cv2003DefaultAddr then
          (({ gVCycle := v, regs := r } : FH8852.Mipi).setSensorFmt format).regs
          else r) := by
  constructor
  · have hfind : (Driver.probe bus s).1 = some a ∧ Rests a regs (Driver.probe bus s).2 v r :=
      probeLoop_finds hbus (Driver.opens hbus) hid ha h
    obtain ⟨hinit, hsees⟩ := Driver.opens hbus _ v r a hfind.2
    have hcv : Driver.cv2003Init bus s = Driver.sensorDeviceInit bus (Driver.probe bus s).2 a := by
      show Driver.sensorDeviceInit bus _ ((Driver.probe bus s).1.getD _) = _
      rw [hfind.1]
      rfl
    rw [hcv]
    exact ⟨hinit, hsees.setFormat hbus⟩
  · have hfind : (Mipi.probe bus s).1 = some a ∧ Rests a regs (Mipi.probe bus s).2 v r :=
      probeLoop_finds hbus (Mipi.opens hbus) hid ha h
    have hconnect : Mipi.sensorIsconnect bus s = (1, { (Mipi.probe bus s).2 with addr := a }) := by
      unfold Mipi.sensorIsconnect
      dsimp only
      rw [hfind.1]
      rfl
    have hmoved : Rests a regs { (Mipi.probe bus s).2 with addr := a } v r :=
      ⟨hfind.2.closed, hfind.2.cycle, hfind.2.regs⟩
    rw [hconnect]
    refine ⟨rfl, ?_⟩
    by_cases hfirst : a = cv2003DefaultAddr
    · subst hfirst
      rw [if_pos rfl, if_pos rfl]
      exact hmoved.setSensorFmt hbus _ rfl format
    · rw [if_neg hfirst, if_neg hfirst]
      exact hmoved.setSensorFmt_absent hbus hfirst format

/-- A bus with the sensor at `a` and nothing else. -/
def sensorBus (a : UInt16) (regs : Registers) : Bus := fun log op =>
  match op with
  | .read addr reg => if addr = a then some (deviceRegs a regs log reg) else none
  | .write addr _ _ => if addr = a then some 0 else none
  | _ => some 0

theorem sensorBus_hasSensor (a : UInt16) (regs : Registers) :
    HasSensor (sensorBus a regs) a regs where
  kernel _ op hop := by cases op <;> first | rfl | cases hop
  write _ _ _ := by simp [sensorBus]
  read _ _ := by simp [sensorBus]
  absent _ op b hop hne := by
    cases op with
    | read addr reg =>
        obtain rfl := Option.some.inj hop
        exact if_neg hne
    | write addr reg val =>
        obtain rfl := Option.some.inj hop
        exact if_neg hne
    | _ => cases hop

def idRegs : Registers :=
  fun reg => if reg = regPid1 then 0x02 else if reg = regPid2 then 0x03 else 0

/-- At the second address the drivers are left with different frame lengths. -/
theorem sensor_programmed_sample :
    (Driver.cv2003SetFormat (sensorBus 0x36 idRegs)
      (Driver.cv2003Init (sensorBus 0x36 idRegs) closedPort).2).2.gVCycle = 2700 ∧
    (Mipi.setSensorFmt (sensorBus 0x36 idRegs)
      (Mipi.sensorIsconnect (sensorBus 0x36 idRegs) closedPort).2 0x203).gVCycle = 0xffff := by
  obtain ⟨⟨-, -, hdriver⟩, -, hmipi⟩ :=
    sensor_programmed (sensorBus_hasSensor 0x36 idRegs) (by decide)
      (⟨rfl, rfl, rfl⟩ : Rests 0x36 idRegs closedPort 2700 idRegs)
      (by unfold IsSensor; decide) 0x203
  refine ⟨hdriver.cycle.trans ?_, hmipi.cycle⟩
  decide +kernel

end Sensor

end Port
end FH8852
