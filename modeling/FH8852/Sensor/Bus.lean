import FH8852.Sensor.Driver

/-!
# The two drivers on an I2C bus

The probe and the format set-up of both CV2003 drivers, with the requests they make.
Any request may fail, by what has been asked before it.
-/

namespace FH8852

/-- What a driver asks of the kernel. -/
inductive BusOp where
  | openI2c
  | closeI2c
  | tenbit
  | slave (addr : UInt16)
  | write (addr reg : UInt16) (val : UInt8)
  | read (addr reg : UInt16)
  | openIsp
  | wrapInit (wrap : List UInt8)
  | ctrlInit (ctrl : List UInt8)
  | closeIsp
deriving DecidableEq

/-- The address that a register is read or written at. -/
def BusOp.target : BusOp → Option UInt16
  | write addr _ _ => some addr
  | read addr _ => some addr
  | _ => none

/-- Whether a request succeeds after the earlier ones, and the byte that it reads. -/
abbrev Bus := List BusOp → BusOp → Option UInt8

/-- The globals of a driver, and its requests so far. -/
structure Port where
  /-- `g_fd` or `g_i2c_fd` is a descriptor. -/
  opened : Bool
  /-- `g_slave_addr` or `g_i2c_addr`. -/
  addr : UInt16
  gVCycle : UInt32
  log : List BusOp

def regPid1 : UInt16 := 0x307a
def regPid2 : UInt16 := 0x3138

def cv2003DefaultAddr : UInt16 := 0x35
def cv2003AltAddr : UInt16 := 0x36

def probeAddrs8bit : List UInt16 := [0x6a, 0x6c]

namespace Port

variable (bus : Bus)

/-- A request to the I2C device, which fails while it is closed. -/
def ask (s : Port) (op : BusOp) : Option UInt8 × Port :=
  (if s.opened then bus s.log op else none, { s with log := s.log ++ [op] })

/-- A request to `/dev/isp`. -/
def askIsp (s : Port) (op : BusOp) : Option UInt8 × Port :=
  (bus s.log op, { s with log := s.log ++ [op] })

def openDevice (s : Port) : Port :=
  { s with opened := (bus s.log .openI2c).isSome, log := s.log ++ [.openI2c] }

def sensorDeviceClose (s : Port) : Port :=
  if s.opened then { s with opened := false, log := s.log ++ [.closeI2c] } else s

def setAddress (s : Port) (addr : UInt16) : Int × Port :=
  let r := s.ask bus .tenbit
  if r.1.isNone then (-1, r.2)
  else
    let r := r.2.ask bus (.slave addr)
    if r.1.isNone then (-1, r.2) else (0, r.2)

def sensorWrite (s : Port) (reg : UInt16) (val : UInt8) : Port :=
  (s.ask bus (.write s.addr reg val)).2

def sensorWriteTable (s : Port) (table : List (UInt16 × UInt8)) : Port :=
  table.foldl (fun s w => s.sensorWrite bus w.1 w.2) s

def sensorRead (s : Port) (reg : UInt16) : UInt16 × Port :=
  let r := s.ask bus (.read s.addr reg)
  (r.1.elim 0xffff UInt8.toUInt16, r.2)

def isCv2003 (pid1 pid2 : UInt16) : Bool := (pid1 == 0x02 || pid1 == 0x20) && pid2 == 0x03

/-- The loop of both probes, with the address at which the sensor is recognised. -/
def probeLoop (init : Port → UInt16 → Int × Port) : List UInt16 → Port → Option UInt16 × Port
  | [], s => (none, s)
  | a :: addrs, s =>
    let s := (init s a).2
    let pid1 := s.sensorRead bus regPid1
    let pid2 := pid1.2.sensorRead bus regPid2
    let s := pid2.2.sensorDeviceClose
    if isCv2003 pid1.1 pid2.1 then (some a, s) else probeLoop init addrs s

/-! ## `libcv2003_mipi.c` -/

namespace Mipi

/-- With the address mode of all the callers, which is that of the I2C device. -/
def sensorDeviceInit (s : Port) (slaveAddr : UInt16) : Int × Port :=
  if s.opened then (-1, s)
  else
    let s := openDevice bus { s with addr := slaveAddr }
    if s.opened then s.setAddress bus slaveAddr else (-1, s)

def probe (s : Port) : Option UInt16 × Port :=
  s.probeLoop bus (sensorDeviceInit bus) [cv2003DefaultAddr, cv2003AltAddr]

def sensorIsconnect (s : Port) : Int × Port :=
  let r := probe bus s
  r.1.elim (0, r.2) fun a => (1, { r.2 with addr := a })

def sensorInit (s : Port) (format : Int32) : Port :=
  let cfg := FH8852.Mipi.sensorCfg format
  let s := s.sensorWriteTable bus (FH8852.Mipi.busWrites cfg.regs)
  { s with gVCycle := cfg.vCycle.toUInt32 }

def setSensorFmt (s : Port) (format : Int32) : Port :=
  let s := (sensorDeviceInit bus s.sensorDeviceClose cv2003DefaultAddr).2
  let s := (sensorInit bus s format).sensorWrite bus regStreamEn 0x01
  let vl := s.sensorRead bus regVcycLo
  let vh := vl.2.sensorRead bus regVcycHi
  { vh.2 with gVCycle := (vh.1.toUInt8.toUInt32 <<< 8) ||| vl.1.toUInt8.toUInt32 }

end Mipi

/-! ## `cv2003_driver.c` -/

namespace Driver

def sensorDeviceInit (s : Port) (addr : UInt16) : Int × Port :=
  let s := s.openDevice bus
  if s.opened then setAddress bus { s with addr := addr } addr else (-1, s)

def probe (s : Port) : Option UInt16 × Port :=
  s.probeLoop bus (sensorDeviceInit bus) (probeAddrs8bit.map (· >>> (1 : UInt16)))

def probeAddr (s : Port) : UInt16 × Port :=
  let r := probe bus s
  (r.1.getD ((0x6a : UInt16) >>> 1), r.2)

def mipiInit (s : Port) : Int × Port :=
  let fd := s.askIsp bus .openIsp
  if fd.1.isNone then (-1, fd.2)
  else
    let wrap := fd.2.askIsp bus (.wrapInit [0, 0, 0, 1, 0, 0])
    let ctrl := wrap.2.askIsp bus (.ctrlInit [0, 9, 1])
    let s := (ctrl.2.askIsp bus .closeIsp).2
    (if wrap.1.isNone || ctrl.1.isNone then -1 else 0, s)

def setIntt (s : Port) (intt : UInt32) : Port :=
  let v := exposureVal s.gVCycle (intt * 2)
  s.sensorWriteTable bus [(regExpHi, ((v >>> 16) &&& 0xff).toUInt8),
    (regExpMid, ((v >>> 8) &&& 0xff).toUInt8), (regExpLo, (v &&& 0xff).toUInt8)]

def setGain (s : Port) (gain : UInt32) : Port :=
  let idx := UInt32.ofNat (FH8852.Driver.tabIdx gain)
  let reg : UInt32 :=
    if gain >>> 5 < 0x40 then 0x40 else if gain >>> 5 > 0x3ff then 0x400 else gain >>> 5
  let s := if gain < 0x401 then s.sensorWrite bus regGainMode 0x10 else s
  let s := if gain > 0x7ff then s.sensorWrite bus regGainMode 0x15 else s
  s.sensorWriteTable bus [(regGainIdx, (idx &&& 0xff).toUInt8),
    (regGainHi, ((reg >>> 8) &&& 0xff).toUInt8), (regGainLo, (reg &&& 0xff).toUInt8)]

def cv2003Init (s : Port) : Int × Port :=
  let r := probeAddr bus s
  sensorDeviceInit bus r.2 r.1

/-- The registers of the format, once the devices are set up. -/
def configure (s : Port) : Port :=
  let s := (s.sensorWriteTable bus sensorCfg1080P25).sensorWrite bus regStreamEn 0x01
  let vHi := s.sensorRead bus regVcycHi
  let vLo := vHi.2.sensorRead bus regVcycLo
  let s := { vLo.2 with gVCycle := (vHi.1.toUInt32 <<< 8) ||| vLo.1.toUInt32 }
  setGain bus (setIntt bus s (s.gVCycle / 2 - 5)) 0x40

def cv2003SetFormat (s : Port) : Int × Port :=
  let s := s.sensorDeviceClose
  let r := sensorDeviceInit bus s s.addr
  if r.1 < 0 then (-1, r.2)
  else
    let r := mipiInit bus r.2
    if r.1 < 0 then (-1, r.2) else (0, configure bus r.2)

end Driver

/-! ## Staying at an address -/

/-- Every register is read and written at `a`. -/
def AddressedTo (a : UInt16) (ops : List BusOp) : Prop :=
  ∀ op ∈ ops, ∀ t, op.target = some t → t = a

/-- From `s` to `s'` the address stays, and every register is read and written at it. -/
structure Stays (s s' : Port) : Prop where
  addr : s'.addr = s.addr
  log : ∃ ops, s'.log = s.log ++ ops ∧ AddressedTo s.addr ops

variable {bus} {s s' s'' : Port}

theorem Stays.refl (s : Port) : Stays s s :=
  ⟨rfl, [], (List.append_nil _).symm, fun _ h => absurd h List.not_mem_nil⟩

theorem Stays.trans (h : Stays s s') (h' : Stays s' s'') : Stays s s'' := by
  obtain ⟨ops, hlog, hops⟩ := h.log
  obtain ⟨ops', hlog', hops'⟩ := h'.log
  rw [h.addr] at hops'
  refine ⟨h'.addr.trans h.addr, ops ++ ops', ?_, List.forall_mem_append.mpr ⟨hops, hops'⟩⟩
  rw [hlog', hlog, List.append_assoc]

/-- One more request, which reads and writes nowhere else. -/
theorem Stays.snoc (op : BusOp) (haddr : s'.addr = s.addr) (hlog : s'.log = s.log ++ [op])
    (hop : ∀ t, op.target = some t → t = s.addr) : Stays s s' := by
  refine ⟨haddr, [op], hlog, fun op' hmem => ?_⟩
  rw [List.mem_singleton.mp hmem]
  exact hop

theorem no_target {op : BusOp} (h : op.target = none) (a : UInt16) :
    ∀ t, op.target = some t → t = a := by
  intro t ht
  rw [h] at ht
  exact absurd ht (Option.some_ne_none t).symm

theorem openDevice_stays (s : Port) : Stays s (s.openDevice bus) :=
  .snoc .openI2c rfl rfl (no_target rfl _)

theorem sensorDeviceClose_stays (s : Port) : Stays s s.sensorDeviceClose := by
  unfold sensorDeviceClose
  split_ifs
  · exact .snoc .closeI2c rfl rfl (no_target rfl _)
  · exact .refl s

theorem sensorDeviceClose_moved (s : Port) (a : UInt16) :
    Stays { s with addr := a } { s.sensorDeviceClose with addr := a } := by
  unfold sensorDeviceClose
  split_ifs
  · exact .snoc .closeI2c rfl rfl (no_target rfl _)
  · exact .refl _

theorem sensorDeviceClose_opened (s : Port) : s.sensorDeviceClose.opened = false := by
  unfold sensorDeviceClose
  split_ifs with h
  · rfl
  · exact Bool.eq_false_iff.mpr h

theorem setAddress_stays (s : Port) (addr : UInt16) : Stays s (s.setAddress bus addr).2 := by
  have htenbit : Stays s (s.ask bus .tenbit).2 := .snoc .tenbit rfl rfl (no_target rfl _)
  have hslave : Stays (s.ask bus .tenbit).2 ((s.ask bus .tenbit).2.ask bus (.slave addr)).2 :=
    .snoc (.slave addr) rfl rfl (no_target rfl _)
  unfold setAddress
  dsimp only
  split_ifs
  · exact htenbit
  · exact htenbit.trans hslave
  · exact htenbit.trans hslave

theorem sensorWrite_stays (s : Port) (reg : UInt16) (val : UInt8) :
    Stays s (s.sensorWrite bus reg val) :=
  .snoc (.write s.addr reg val) rfl rfl fun _ ht => (Option.some.inj ht).symm

theorem sensorRead_stays (s : Port) (reg : UInt16) : Stays s (s.sensorRead bus reg).2 :=
  .snoc (.read s.addr reg) rfl rfl fun _ ht => (Option.some.inj ht).symm

theorem sensorWriteTable_stays (s : Port) (table : List (UInt16 × UInt8)) :
    Stays s (s.sensorWriteTable bus table) := by
  induction table generalizing s with
  | nil => exact .refl s
  | cons w table ih => exact (sensorWrite_stays s w.1 w.2).trans (ih _)

theorem askIsp_stays (s : Port) {op : BusOp} (hop : op.target = none) :
    Stays s (s.askIsp bus op).2 :=
  .snoc op rfl rfl (no_target hop _)

/-- What is asked while the address stays is addressed to it. -/
theorem Stays.addressedTo (h : Stays s s') : AddressedTo s.addr (s'.log.drop s.log.length) := by
  obtain ⟨ops, hlog, hops⟩ := h.log
  rw [hlog, List.drop_left]
  exact hops

/-- A closed device reads as no sensor does. -/
theorem isCv2003_closed (h : s.opened = false) (reg pid2 : UInt16) :
    isCv2003 (s.sensorRead bus reg).1 pid2 = false := by
  have hread : (s.sensorRead bus reg).1 = 0xffff := by
    show Option.elim (if s.opened = true then _ else none) _ _ = _
    rw [h]
    rfl
  rw [hread]
  rfl

/-! ## The first driver -/

namespace Mipi

theorem sensorDeviceInit_stays (h : s.opened = false) (a : UInt16) :
    Stays { s with addr := a } (sensorDeviceInit bus s a).2 := by
  have hopen := @openDevice_stays bus { s with addr := a }
  unfold sensorDeviceInit
  rw [if_neg (Bool.eq_false_iff.mp h)]
  dsimp only
  split_ifs
  · exact hopen.trans (setAddress_stays _ a)
  · exact hopen

theorem sensorInit_stays (s : Port) (format : Int32) : Stays s (sensorInit bus s format) := by
  have htable := @sensorWriteTable_stays bus s
    (FH8852.Mipi.busWrites (FH8852.Mipi.sensorCfg format).regs)
  exact ⟨htable.addr, htable.log⟩

/-- All of the format set-up stays at the first address, and it does read there. -/
theorem setSensorFmt_stays (s : Port) (format : Int32) :
    ∃ s', Stays { s with addr := cv2003DefaultAddr } s' ∧
      (setSensorFmt bus s format).log = s'.log ++ [.read cv2003DefaultAddr regVcycHi] := by
  let s₁ := (sensorDeviceInit bus s.sensorDeviceClose cv2003DefaultAddr).2
  let s₂ := (sensorInit bus s₁ format).sensorWrite bus regStreamEn 0x01
  have hopen : Stays { s with addr := cv2003DefaultAddr } s₁ :=
    (sensorDeviceClose_moved s cv2003DefaultAddr).trans
      (sensorDeviceInit_stays (sensorDeviceClose_opened s) cv2003DefaultAddr)
  have hwrites : Stays s₁ s₂ := (sensorInit_stays s₁ format).trans (sensorWrite_stays _ _ _)
  have hlow : Stays s₂ (s₂.sensorRead bus regVcycLo).2 := sensorRead_stays s₂ regVcycLo
  have hstays := hopen.trans (hwrites.trans hlow)
  have hread : (setSensorFmt bus s format).log = (s₂.sensorRead bus regVcycLo).2.log ++
      [.read (s₂.sensorRead bus regVcycLo).2.addr regVcycHi] := rfl
  rw [hstays.addr] at hread
  exact ⟨_, hstays, hread⟩

/-- The register reads and writes of the format set-up. -/
theorem setSensorFmt_addressed_iff (s : Port) (format : Int32) (a : UInt16) :
    AddressedTo a ((setSensorFmt bus s format).log.drop s.log.length) ↔ a = cv2003DefaultAddr := by
  obtain ⟨s', hstays, hread⟩ := @setSensorFmt_stays bus s format
  obtain ⟨ops, hlog, hops⟩ := hstays.log
  rw [hread, hlog, List.append_assoc, List.drop_left]
  constructor
  · intro h
    have hlast := h (.read cv2003DefaultAddr regVcycHi) (by simp) cv2003DefaultAddr rfl
    exact hlast.symm
  · rintro rfl
    refine List.forall_mem_append.mpr ⟨hops, fun op hop t ht => ?_⟩
    rw [List.mem_singleton.mp hop] at ht
    exact (Option.some.inj ht).symm

end Mipi

/-! ## The second driver -/

namespace Driver

/-- The device is opened at the address, or not at all. -/
theorem sensorDeviceInit_cases (s : Port) (a : UInt16) :
    (sensorDeviceInit bus s a).2.opened = false ∧ Stays s (sensorDeviceInit bus s a).2 ∧
        (sensorDeviceInit bus s a).1 = -1 ∨
      Stays { s with addr := a } (sensorDeviceInit bus s a).2 := by
  unfold sensorDeviceInit
  dsimp only
  split_ifs with h
  · have hopen : Stays { s with addr := a } { s.openDevice bus with addr := a } :=
      .snoc .openI2c rfl rfl (no_target rfl _)
    exact .inr (hopen.trans (setAddress_stays _ a))
  · exact .inl ⟨Bool.eq_false_iff.mpr h, openDevice_stays s, rfl⟩

/-- Where the device is already at the address it stays there. -/
theorem sensorDeviceInit_stays (s : Port) : Stays s (sensorDeviceInit bus s s.addr).2 := by
  rcases @sensorDeviceInit_cases bus s s.addr with ⟨-, h, -⟩ | h
  · exact h
  · exact h

/-- The sensor that the probe recognises is at the address that is left. -/
theorem probeLoop_addr (addrs : List UInt16) (s : Port) {a : UInt16}
    (h : (s.probeLoop bus (sensorDeviceInit bus) addrs).1 = some a) :
    (s.probeLoop bus (sensorDeviceInit bus) addrs).2.addr = a := by
  induction addrs generalizing s with
  | nil => exact absurd h.symm (Option.some_ne_none a)
  | cons b addrs ih =>
      unfold probeLoop at h ⊢
      dsimp only at h ⊢
      split_ifs at h ⊢ with hmatch
      · have hb : b = a := Option.some.inj h
        subst hb
        rcases @sensorDeviceInit_cases bus s b with ⟨hclosed, -, -⟩ | hinit
        · rw [isCv2003_closed hclosed] at hmatch
          exact absurd hmatch Bool.false_ne_true
        · exact (hinit.trans ((sensorRead_stays _ regPid1).trans
            ((sensorRead_stays _ regPid2).trans (sensorDeviceClose_stays _)))).addr
      · exact ih _ h

theorem mipiInit_stays (s : Port) : Stays s (mipiInit bus s).2 := by
  have hopen := @askIsp_stays bus s .openIsp rfl
  have hwrap := hopen.trans (@askIsp_stays bus _ (.wrapInit [0, 0, 0, 1, 0, 0]) rfl)
  have hctrl := hwrap.trans (@askIsp_stays bus _ (.ctrlInit [0, 9, 1]) rfl)
  have hclose := hctrl.trans (@askIsp_stays bus _ .closeIsp rfl)
  unfold mipiInit
  dsimp only
  split_ifs
  · exact hopen
  · exact hclose
  · exact hclose

theorem setIntt_stays (s : Port) (intt : UInt32) : Stays s (setIntt bus s intt) :=
  sensorWriteTable_stays s _

theorem setGain_stays (s : Port) (gain : UInt32) : Stays s (setGain bus s gain) := by
  have hmode : ∀ (p : Prop) [Decidable p] (s : Port) (val : UInt8),
      Stays s (if p then s.sensorWrite bus regGainMode val else s) := by
    intro p _ s val
    split_ifs
    · exact sensorWrite_stays s _ val
    · exact .refl s
  exact (hmode _ s _).trans ((hmode _ _ _).trans (sensorWriteTable_stays _ _))

theorem exposure_stays (s : Port) (v : UInt32) :
    Stays s (setGain bus (setIntt bus { s with gVCycle := v } (v / 2 - 5)) 0x40) := by
  have hcycle : Stays s { s with gVCycle := v } := ⟨rfl, (Stays.refl s).log⟩
  exact hcycle.trans ((setIntt_stays _ _).trans (setGain_stays _ _))

theorem configure_stays (s : Port) : Stays s (configure bus s) := by
  let s₁ := (s.sensorWriteTable bus sensorCfg1080P25).sensorWrite bus regStreamEn 0x01
  let s₂ := ((s₁.sensorRead bus regVcycHi).2.sensorRead bus regVcycLo).2
  have hwrites : Stays s s₁ := (sensorWriteTable_stays s _).trans (sensorWrite_stays _ _ _)
  have hreads : Stays s₁ s₂ := (sensorRead_stays s₁ regVcycHi).trans (sensorRead_stays _ regVcycLo)
  exact hwrites.trans (hreads.trans (exposure_stays s₂ _))

theorem cv2003SetFormat_stays (s : Port) : Stays s (cv2003SetFormat bus s).2 := by
  have hopen : Stays s (sensorDeviceInit bus s.sensorDeviceClose s.sensorDeviceClose.addr).2 :=
    (sensorDeviceClose_stays s).trans (sensorDeviceInit_stays _)
  have hmipi := hopen.trans (@mipiInit_stays bus _)
  unfold cv2003SetFormat
  dsimp only
  split_ifs
  · exact hopen
  · exact hmipi
  · exact hmipi.trans (configure_stays _)

/-- The driver is left at the address where the sensor was recognised. -/
theorem cv2003Init_addr (s : Port) {a : UInt16} (h : (probe bus s).1 = some a) :
    (cv2003Init bus s).2.addr = a := by
  have haddr : (probe bus s).2.addr = a := probeLoop_addr _ s h
  have hprobed : (probeAddr bus s).1 = (probe bus s).2.addr := by
    rw [haddr]
    show (probe bus s).1.getD _ = a
    rw [h]
    rfl
  rw [cv2003Init, hprobed]
  exact (sensorDeviceInit_stays (probe bus s).2).addr.trans haddr

end Driver

/-! ## The address of the sensor -/

/-- After a probe that recognised a sensor at `a`, each driver reads and writes the
registers of that sensor when it sets the format. -/
structure ProbedAddress (bus : Bus) (s : Port) (format : Int32) (a : UInt16) : Prop where
  mipi : (Mipi.probe bus s).1 = some a → AddressedTo a
    ((Mipi.setSensorFmt bus (Mipi.sensorIsconnect bus s).2 format).log.drop
      (Mipi.sensorIsconnect bus s).2.log.length)
  driver : (Driver.probe bus s).1 = some a → AddressedTo a
    ((Driver.cv2003SetFormat bus (Driver.cv2003Init bus s).2).2.log.drop
      (Driver.cv2003Init bus s).2.log.length)

/-- The second driver keeps to the sensor it has found; the first goes back to the
first address. -/
theorem probed_address_iff (bus : Bus) (s : Port) (format : Int32) (a : UInt16) :
    ProbedAddress bus s format a ↔ ((Mipi.probe bus s).1 = some a → a = cv2003DefaultAddr) := by
  constructor
  · intro h hprobe
    exact (Mipi.setSensorFmt_addressed_iff _ format a).mp (h.mipi hprobe)
  · intro h
    refine ⟨fun hprobe => ?_, fun hprobe => ?_⟩
    · exact (Mipi.setSensorFmt_addressed_iff _ format a).mpr (h hprobe)
    · have hstays := (@Driver.cv2003SetFormat_stays bus (Driver.cv2003Init bus s).2).addressedTo
      rw [Driver.cv2003Init_addr s hprobe] at hstays
      exact hstays

/-- A bus with a sensor at the second address only. -/
def secondOnly : Bus := fun _ op =>
  match op with
  | .read addr reg =>
    if addr = 0x36 then some (if reg = regPid1 then 0x02 else if reg = regPid2 then 0x03 else 0)
    else none
  | .write addr _ _ => if addr = 0x36 then some 0 else none
  | _ => some 0

/-- The driver before it has opened anything. -/
def closedPort : Port := { opened := false, addr := 0, gVCycle := 2700, log := [] }

/-- A sensor at the second address is recognised there, and set up at the first. -/
theorem second_address_is_lost :
    ¬ ∀ (bus : Bus) (s : Port) (format : Int32) (a : UInt16), s.opened = false →
      ProbedAddress bus s format a := by
  intro h
  have hprobe : (Mipi.probe secondOnly closedPort).1 = some 0x36 := by decide
  have haddressed := (h secondOnly closedPort 0x203 0x36 rfl).mipi hprobe
  have heq := (Mipi.setSensorFmt_addressed_iff _ 0x203 0x36).mp haddressed
  exact absurd heq (by decide)

end Port
end FH8852
