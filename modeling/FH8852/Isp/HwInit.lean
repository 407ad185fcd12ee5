import FH8852.Isp.Coverage

/-!
# Initialising the ISP

`isp_hw_init` as the program of its register writes, stage by stage.  The registers
are memory that reads back what was written to it, by their byte offsets.
-/

namespace FH8852
namespace Isp

open Masked

/-- A write that sets bits of what the register holds. -/
def setBits (offset : Nat) (bits : UInt32) : Write Nat := ⟨offset, 0xffffffff, bits⟩

def ispReset : List (Write Nat) := [⟨0xf0, 0xffffffcf, 0x10⟩, ⟨0xf4, 0xfffffffc, 0x02⟩]

def ispCnrExpTable : List UInt32 :=
  [0x03c103ff, 0x03500387, 0x02ed031d, 0x029502bf, 0x0247026d, 0x02020224, 0x01c601e3, 0x019101aa,
   0x01610178, 0x0138014c, 0x01130125, 0x00f30102, 0x00d600e4, 0x00bd00c9, 0x00a700b1, 0x0093009d,
   0x0082008a, 0x0072007a, 0x0065006b, 0x0059005f, 0x004e0054, 0x0045004a, 0x003d0041, 0x00360039,
   0x002f0032, 0x002a002c, 0x00250027, 0x00200023, 0x001d001e, 0x0019001b, 0x00160018, 0x00130015,
   0x00110012, 0x000f0010, 0x000d000e, 0x000c000c, 0x000a000b, 0x0009000a, 0x00080008, 0x00070007,
   0x00060006, 0x00050006, 0x00050005, 0x00040004, 0x00030004, 0x00030003, 0x00030003, 0x00020002,
   0x00020002, 0x00020002, 0x00010001, 0x00010001, 0x00010001, 0x00010001, 0x00010001, 0x00000001]

def ispGammaTable : List UInt32 :=
  [0x00050000, 0x000f000a, 0x00190014, 0x0022001e, 0x002c0027, 0x00350031, 0x003e003a, 0x00470043,
   0x0050004c, 0x00590055, 0x0062005d, 0x006a0066, 0x0073006f, 0x007b0077, 0x0083007f, 0x008b0087,
   0x0093008f, 0x009b0097, 0x00a3009f, 0x00aa00a7, 0x00b200ae, 0x00b900b6, 0x00c100bd, 0x00c800c4,
   0x00cf00cb, 0x00d600d3, 0x00dd00d9, 0x00e400e0, 0x00eb00e7, 0x00f100ee, 0x00f800f5, 0x00fe00fb,
   0x010e0102, 0x0127011b, 0x013e0132, 0x01540149, 0x0169015f, 0x017d0173, 0x01910187, 0x01a3019a,
   0x01b501ac, 0x01c601be, 0x01d601ce, 0x01e601de, 0x01f501ee, 0x020401fd, 0x0212020b, 0x021f0219,
   0x022c0226, 0x02390233, 0x0245023f, 0x0251024b, 0x025c0256, 0x02670262, 0x0272026c, 0x027c0277,
   0x02940281, 0x02b702a6, 0x02d702c7, 0x02f302e5, 0x030c0300, 0x03230318, 0x0338032e, 0x034b0342,
   0x035d0354, 0x036d0365, 0x037c0375, 0x038a0383, 0x03970391, 0x03a3039d, 0x03ae03a9, 0x03b903b4,
   0x03c303be, 0x03cc03c7, 0x03d503d0, 0x03dd03d9, 0x03e503e1, 0x03ec03e8, 0x03f303f0, 0x03fa03f6]

/-- The four copies of a word of the gamma table. -/
def gammaWrites (p : UInt32 × Nat) : List (Write Nat) :=
  [.plain (0x1a40 + p.2 * 4) (p.1 <<< 2), .plain (0x1b80 + p.2 * 4) (p.1 <<< 2),
    .plain (0x1cc0 + p.2 * 4) (p.1 <<< 2), .plain (0x1e00 + p.2 * 4) p.1]

/-- A table copied to consecutive registers. -/
def tableWrites (offset : Nat) (table : List UInt32) : List (Write Nat) :=
  table.zipIdx.map fun p => .plain (offset + p.2 * 4) p.1

def isppInit : List (Write Nat) :=
  [.plain 0x8 0x7ffffff, .plain 0x80 0x50402010, .plain 0x84 0x90807060, .plain 0x88 0xd0c0b0a0,
   .plain 0x8c 0xfff0e0, .plain 0x90 0x10101010, .plain 0x94 0x10101010, .plain 0x98 0x10101010,
   .plain 0x9c 0xf1010, .plain 0xa0 0x30281810, .plain 0xa4 0x50484038, .plain 0xa8 0x80706058,
   .plain 0xac 0xc8c0a090, .plain 0xb0 0xe0d8d0, .plain 0xb4 0, .plain 0xb8 0, .plain 0x494 0x9015,
   .plain 0x13c 0, .plain 0x140 0, .plain 0x150 0, .plain 0x154 0, .plain 0x578 0,
   .plain 0x57c 0] ++
    ispGammaTable.zipIdx.flatMap gammaWrites

def ispDrcKlcurveTable : List UInt32 :=
  [0x03000000, 0x03fe037b, 0x050e0484, 0x0629059a, 0x074b06ba, 0x087307de, 0x099d0908, 0x0aca0a33,
   0x0bf90b61, 0x0d280c90, 0x0e570dbf, 0x0f850eee, 0x10b3101c, 0x11e0114a, 0x130b1275, 0x1433139f,
   0x155b14c8, 0x167f15ee, 0x17a11711, 0x18c11832, 0x19de1950, 0x1af71a6b, 0x1c0e1b83, 0x1d221c99,
   0x1e321daa, 0x1f3f1eb9, 0x20481fc4, 0x214e20cb, 0x224f21cf, 0x234e22cf, 0x244823cc, 0x253f24c5,
   0x26aa25b9, 0x28812798, 0x2a482967, 0x2bff2b26, 0x2da72cd5, 0x2f3e2e74, 0x30c63004, 0x323e3184,
   0x33a732f5, 0x35013456, 0x364c35a8, 0x378836eb, 0x38b53820, 0x39d53947, 0x3ae83a60, 0x3bed3b6c,
   0x3d5e3c6b, 0x3f213e45, 0x40bc3ff3, 0x4233417b, 0x439042e4, 0x44dd4438, 0x46214580, 0x475d46c0,
   0x489047f7, 0x49bc4927, 0x4ae14a4f, 0x4bff4b70, 0x4d164c8b, 0x4e284da0, 0x4f344eaf, 0x503b4fb8,
   0x51bb50bc, 0x53ac52b6, 0x558b549e, 0x575b5675, 0x591d583e, 0x5ad159f8, 0x5c795ba6, 0x5e155d48,
   0x5fa75ee0, 0x612f606d, 0x62ae61f0, 0x6424636a, 0x659264dc, 0x66f86646, 0x685767a9, 0x69af6904,
   0x6ba76a58, 0x6e316cef, 0x70a66f6e, 0x730671d8, 0x7554742f, 0x77917674, 0x79be78a9, 0x7bdd7acf,
   0x7dee7ce7, 0x7ff37ef2, 0x81ed80f1, 0x83db82e5, 0x85bf84ce, 0x879986ad, 0x896b8883, 0x8b338a50,
   0x8dd28c15, 0x91358f87, 0x947e92dd, 0x97ae9619, 0x9ac9993e, 0x9dcf9c4e, 0xa0c29f4b, 0xa3a5a236,
   0xa678a511, 0xa93da7dd, 0xabf5aa9b, 0xaea0ad4c, 0xb140aff1, 0xb3d5b28c, 0xb660b51c, 0xb8e2b7a2,
   0xbc95ba20, 0xc169bf03, 0xc621c3c8, 0xcac2c874, 0xcf4dcd0a, 0xd3c5d18b, 0xd82dd5fb, 0xdc87da5c,
   0xe0d4deaf, 0xe516e2f6, 0xe94ee733, 0xed7deb66, 0xf1a5ef92, 0xf5c7f3b7, 0xf9e4f7d6, 0xfdfcfbf1,
   0x00010007]

def ispfInit : List (Write Nat) :=
  [.plain 0xe0 0x400102, setBits 0xe4 2, .plain 0x400 1, .plain 0x404 0xf001f4a0,
   .plain 0x408 0xf001f4a0, .plain 0x40c 0xf001f4a0, .plain 0x410 0xf001f4a0,
   .plain 0x414 0x1fff009c, .plain 0x1c4 0xc, .plain 0x510 0x400, .plain 0x514 0x3ffffbff,
   .plain 0x518 0x3ff00001, .plain 0x51c 0x3feffc00, .plain 0x520 0xffbfe, .plain 0x50c 0x100fff,
   .plain 0x548 0xfff, .plain 0x54c 0xfff0000, .plain 0x550 0xfff, .plain 0x554 0xfff0fff,
   .plain 0x558 0xfff0000, .plain 0x55c 0xfff0fff, .plain 0x538 0x40, .plain 0x53c 0,
   .plain 0x570 0x20002e4, .plain 0x574 0x35c0200, .plain 0x578 0, .plain 0x57c 0,
   .plain 0xc2c 0x404, .plain 0xc30 0x10000404, .plain 0xc34 0x786e6868, .plain 0xc38 0x7e7a7a78,
   .plain 0xc3c 0x8000000, .plain 0xc40 0xa140204, .plain 0xc44 0xa141325, .plain 0xc48 0x10101325,
   .plain 0xc4c 0x3ff0000, .plain 0xc50 0x1400c04, .plain 0xc54 0x7c000606, .plain 0xc58 0x7f7d7d7c,
   .plain 0xc5c 0x6000000, .plain 0xc60 0x1a140204, .plain 0xc64 0x1a143425,
   .plain 0xc68 0x48483425, .plain 0xc6c 0x3fc0000, .plain 0xc70 0x4000, .plain 0xaac 0,
   .plain 0xab0 0x160000, .plain 0xab4 0x100010, .plain 0xab8 0x801, .plain 0xabc 0x1000805b,
   .plain 0xac0 0x80030000, .plain 0xac4 0x11100a10, .plain 0xac8 0x400040, .plain 0xacc 0x400040,
   .plain 0xad0 0x400040, .plain 0xad4 0x400040, .plain 0xad8 0x400040, .plain 0xadc 0x400040,
   .plain 0xae0 0x400040, .plain 0xae4 0x400040, .plain 0xae8 0x400040, .plain 0xaec 0x400040,
   .plain 0xaf0 0x400040, .plain 0xaf4 0x400040, .plain 0xaf8 0x400040, .plain 0xafc 0x400040,
   .plain 0xb00 0x400040, .plain 0xb04 0x400040, .plain 0xb08 0x400040, .plain 0xb0c 0x400040,
   .plain 0xb10 0x400040, .plain 0xb14 0x400040, .plain 0xb18 0x400040, .plain 0xb1c 0x400040,
   .plain 0xb20 0x400040, .plain 0xb24 0x400040, .plain 0xb28 0xaa00a0, .plain 0xb2c 0x2800280,
   .plain 0xb30 0x7800780, .plain 0xb34 0x1200120, .plain 0xb38 0x360036, .plain 0xb3c 0x260026,
   .plain 0xb40 0x30181414, .plain 0xb44 0x4000, .plain 0xb48 0x80404000, .plain 0xe00 0x40,
   .plain 0xe04 0x800000, .plain 0xe08 0xcc011c, .plain 0xe0c 0x10101, .plain 0xe10 0xff0000,
   .plain 0xe14 0, .plain 0xe18 0x29c0054, .plain 0xe1c 0x29c0260, .plain 0xe20 0x1640260,
   .plain 0xe24 0x16403ac, .plain 0xe28 0x16401a4, .plain 0xe2c 0x36401a4, .plain 0xa30 0x200,
   .plain 0xa34 0, .plain 0xa38 0x200, .plain 0xa3c 0, .plain 0xa40 0x200, .plain 0xa44 0,
   .plain 0xc74 0x105, .plain 0xa60 0x2590132, .plain 0xa64 0xf530074, .plain 0xa68 0x2000ead,
   .plain 0xa6c 0xe530200, .plain 0xa70 0xfad, .plain 0xa74 0x4000400, .plain 0xa78 0x3ff3ff11,
   .plain 0x250 0xff3983, .plain 0x254 0x1000100, .plain 0x258 0x1000100, .plain 0x25c 0x80,
   .plain 0x260 0x80, .plain 0x264 0x80, .plain 0x268 0x80, .plain 0x26c 0x200c000,
   .plain 0x278 0xc8081a0a, .plain 0x27c 0x2408c23, .plain 0x280 0x2d0a026, .plain 0x284 0x6511c37,
   .plain 0x288 0x1603a898, .plain 0x28c 0x30da29f2, .plain 0x290 0x3d0eaf6d,
   .plain 0x294 0x3f8fc7e5, .plain 0x298 0x3feff7fb, .plain 0x29c 0x3ffffffe, .plain 0x2a8 2,
   .plain 0x2c0 0x3523120a, .plain 0x2c4 0x9b5e9b5b, .plain 0x2c8 0xff, .plain 0x590 0xd,
   .plain 0x594 0x30303, .plain 0x598 0x1400a0, .plain 0x59c 0xfc0de0, .plain 0x5a0 0x1800c00,
   .plain 0x5a4 0x334, .plain 0x5a8 0x3e6, .plain 0x5ac 0xff, .plain 0x5b4 0xc208f,
   .plain 0x5b8 0x163117, .plain 0x5bc 0x22e1c4, .plain 0x5c0 0x3a829d, .plain 0x5c4 0x4a2,
   .plain 0x5c8 0x2b211607, .plain 0x5cc 0x514e4639, .plain 0x5d0 0x61c394c, .plain 0x5d8 0x1340ab,
   .plain 0x5dc 0x3b0263, .plain 0x5e0 0x7a2589, .plain 0x5e4 0xd689b1, .plain 0x5e8 0xf1e,
   .plain 0x5ec 199, .plain 0x5f0 0x80e06080, .plain 0x5f4 0x4006480, .plain 0x5f8 0x4006480,
   .plain 0x5fc 0xb40d9a, .plain 0x600 0x10000cd, .plain 0x618 0x3523120a, .plain 0x61c 0x9b5e9b5b,
   .plain 0x620 0xff, .plain 0x664 0x20222e, .plain 0x668 0, .plain 0x66c 0x3f0] ++
    tableWrites 0x690 ispDrcKlcurveTable

def ispSetLscTab (width height : UInt32) : List (Write Nat) :=
  let blkW : UInt32 := width >>> 5
  let blkH : UInt32 := height >>> 5
  let v0 := (blkW <<< 16) ||| (blkW <<< 24) ||| (blkW <<< 8)
  let v1 := blkW ||| v0
  let v5 := (blkH <<< 16) ||| (blkH <<< 24) ||| (blkH <<< 8)
  let v6 := blkH ||| v5
  let zeros : List (Write Nat) := (List.range 299).map fun i => .plain (0x1590 + i * 4) 0
  let tail : List (Write Nat) :=
    [.plain 0x1a14 v0, .plain 0x1a18 v1, .plain 0x1a1c v1, .plain 0x1a20 v1,
      .plain 0x1a24 (blkW - 1), .plain 0x1a28 v5, .plain 0x1a2c v6, .plain 0x1a30 v6,
      .plain 0x1a34 v6, .plain 0x1a38 (blkH - 1)]
  zeros ++ tail

/-- The writes of `isp_set_pic_size` before the tables. -/
def picSizeWrites (w h : UInt32) : List (Write Nat) :=
  let inputSize : UInt32 := (w - 1 : UInt32) ||| ((h - 1 : UInt32) <<< 16)
  let blkH : UInt32 := (h >>> 5 : UInt32) - 1
  let blkW : UInt32 := (w >>> 5 : UInt32) - 1
  let ispSize : UInt32 := (w - 1 : UInt32) ||| ((h - 1 : UInt32) <<< 16)
  let rawStride : UInt32 := ((w * 10 + 7) >>> 3) + 7
  let qStride : UInt32 := (((w >>> 2) * 10) >>> 3) + 7
  let qStrideEn : UInt32 := (qStride &&& 0x7ffffff8) ||| 0x80000000
  [.plain 0x130 inputSize, .plain 0x144 inputSize, .plain 0x138 ispSize, .plain 0x14c ispSize,
    .plain 0x490 ((blkH <<< 24) ||| ((w / 0x30 - 1) <<< 16)), .plain 0xd0 ispSize, .plain 0x500 0,
    .plain 0x504 0, .plain 0x508 (blkW ||| (blkH <<< 16) ||| 0x78007800),
    ⟨0x4e0, 0xe0000000, ((blkW ||| (blkH <<< 8)) &&& 0x1fffffff) ||| 0xf0f0000⟩, .plain 0x4e4 0,
    .plain 0x4e8 0x1fff1, .plain 0x2e8 (rawStride &&& 0xfffffff8),
    .plain 0x2f0 ((rawStride &&& 0x7ffffff8) ||| 0x80000000), .plain 0x2f8 0x280,
    .plain 0x300 0x80000280, .plain 0x308 (qStride &&& 0xfffffff8), .plain 0x310 qStrideEn,
    .plain 0x318 (qStride &&& 0xfffffff8), .plain 0x320 qStrideEn,
    .plain 0x41c (qStride &&& 0xfff8),
    .plain 0xaa8 (qStride &&& 0xfff8), .plain 0x648 0x80000348, .plain 0x658 0x80000348,
    .plain 0x134 0, .plain 0x148 0]

def ispSetPicSize (fuel : Nat) (w h : UInt32) : Option (List (Write Nat)) :=
  (ispSetNr3dDrcWin fuel w h).map fun windows =>
    picSizeWrites w h ++ ispSetLscTab w h ++ windows ++ tableWrites 0xb4c ispCnrExpTable

def ispApplyModuleBypass : List (Write Nat) := [setBits 0x2c 0x400]

/-- The writes of `isp_hw_init` to a mapped ISP with the right chip id. -/
def hwInitWrites (fuel : Nat) (width height : UInt32) : Option (List (Write Nat)) :=
  (ispSetPicSize fuel width height).map fun picSize =>
    ispReset ++ isppInit ++ ispfInit ++ picSize ++ ispApplyModuleBypass

def chipId : UInt32 := 0x5a542093

/-- What `isp_hw_init` returns and leaves in the registers, when `/dev/mem` is mapped. -/
def ispHwInit (fuel : Nat) (regs : Nat → UInt32) (width height : UInt32) :
    Option (Int × (Nat → UInt32)) :=
  if regs 0 ≠ chipId then some (-1, regs)
  else (hwInitWrites fuel width height).map fun l => (0, run regs l)

/-! ## The shape of the program -/

/-- The writes for given windows. -/
def writesWith (w h : UInt32) (a a' : StatArray) : List (Write Nat) :=
  ispReset ++ isppInit ++ ispfInit ++
    (picSizeWrites w h ++ ispSetLscTab w h ++
      (windowWrites a 0x2ac 0x2d0 ++ windowWrites a' 0x604 0x624) ++
      tableWrites 0xb4c ispCnrExpTable) ++ ispApplyModuleBypass

def zeroArray : StatArray := ⟨zeroWin, 0, zeroWin, 0, zeroWin, 0, 0, 0, 0⟩

/-- The offset and the bits kept of a write. -/
def shape (w : Write Nat) : Nat × UInt32 := (w.addr, w.keep)

theorem writesWith_shape (w h : UInt32) (a a' : StatArray) :
    (writesWith w h a a').map shape = (writesWith 0 0 zeroArray zeroArray).map shape := by
  have hpic : (picSizeWrites w h).map shape = (picSizeWrites 0 0).map shape := by
    simp only [picSizeWrites, List.map_cons, List.map_nil, shape, Write.plain]
  have hlsc : (ispSetLscTab w h).map shape = (ispSetLscTab 0 0).map shape := by
    simp only [ispSetLscTab, List.map_append, List.map_cons, List.map_nil, shape, Write.plain]
  have hwindows : ∀ b first second, (windowWrites b first second).map shape =
      (windowWrites zeroArray first second).map shape := by
    intro b first second
    simp only [windowWrites, List.map_cons, List.map_nil, shape, Write.plain]
  unfold writesWith
  simp only [List.map_append, hpic, hlsc, hwindows a, hwindows a']

theorem writesWith_addr (w h : UInt32) (a a' : StatArray) :
    (writesWith w h a a').map Write.addr = (writesWith 0 0 zeroArray zeroArray).map Write.addr := by
  have hshape := congrArg (List.map Prod.fst) (writesWith_shape w h a a')
  rw [List.map_map, List.map_map] at hshape
  exact hshape

/-- The bits of the registers that are read before they are written, and that the
stages leave alone. -/
def preserved : Nat → UInt32
  | 0xe4 => 0xfffffffd
  | 0x2c => 0xfffffbff
  | 0xf0 => 0xffffffcf
  | 0xf4 => 0xfffffffc
  | 0x4e0 => 0xe0000000
  | _ => 0

def readBack : List Nat := [0xe4, 0x2c, 0xf0, 0xf4, 0x4e0]

theorem preserved_eq_zero {r : Nat} (h : r ∉ readBack) : preserved r = 0 := by
  simp only [readBack, List.mem_cons, List.not_mem_nil, or_false, not_or] at h
  unfold preserved
  split <;> first | omega | rfl

theorem plain_elsewhere : ((writesWith 0 0 zeroArray zeroArray).map shape).all
    (fun s => s.2 = 0 || readBack.contains s.1) = true := by
  decide +kernel

theorem readBack_once : readBack.all (fun r =>
    ((writesWith 0 0 zeroArray zeroArray).map Write.addr).count r = 1) = true := by
  decide +kernel

-- The offsets are those of whole words, so different offsets are different registers.
example :
    ((writesWith 0 0 zeroArray zeroArray).map Write.addr).all (fun r => r % 4 = 0) = true := by
  decide +kernel

theorem chip_unwritten : 0 ∉ (writesWith 0 0 zeroArray zeroArray).map Write.addr := by
  decide +kernel

/-! ## What the program leaves -/

section Program

variable (w h : UInt32) (a a' : StatArray)

theorem readBack_mem {r : Nat} (hr : r ∈ readBack) :
    ∃ x ∈ writesWith w h a a', x.addr = r ∧ x.keep &&& ~~~x.value = preserved r := by
  have hreset : ∀ x ∈ ispReset, x ∈ writesWith w h a a' := fun x hx => by
    refine List.mem_append_left _ (List.mem_append_left _ (List.mem_append_left _ ?_))
    exact List.mem_append_left _ hx
  have hispf : ∀ x ∈ ispfInit, x ∈ writesWith w h a a' := fun x hx =>
    List.mem_append_left _ (List.mem_append_left _ (List.mem_append_right _ hx))
  have hpic : ∀ x ∈ picSizeWrites w h, x ∈ writesWith w h a a' := fun x hx => by
    refine List.mem_append_left _ (List.mem_append_right _ (List.mem_append_left _ ?_))
    exact List.mem_append_left _ (List.mem_append_left _ hx)
  have hblocks : (0xe0000000 : UInt32) &&& 0x1fffffff = 0 := by decide
  have hfixed : (0xe0000000 : UInt32) &&& 0xf0f0000 = 0 := by decide
  simp only [readBack, List.mem_cons, List.not_mem_nil, or_false] at hr
  rcases hr with rfl | rfl | rfl | rfl | rfl
  · exact ⟨setBits 0xe4 2, hispf _ (List.mem_of_getElem? (i := 1) rfl), rfl, by decide⟩
  · exact ⟨setBits 0x2c 0x400, List.mem_append_right _ (List.mem_singleton_self _), rfl, by decide⟩
  · exact ⟨⟨0xf0, 0xffffffcf, 0x10⟩, hreset _ (by simp [ispReset]), rfl, by decide⟩
  · exact ⟨⟨0xf4, 0xfffffffc, 0x02⟩, hreset _ (by simp [ispReset]), rfl, by decide⟩
  · exact ⟨⟨0x4e0, 0xe0000000, _⟩, hpic _ (List.mem_of_getElem? (i := 9) rfl), rfl,
      and_not_of_disjoint hblocks hfixed _⟩

/-- Each register keeps just the bits that are read before they are written. -/
theorem untouched_eq {r : Nat} (hr : r ∈ (writesWith w h a a').map Write.addr) :
    untouched (writesWith w h a a') r = preserved r := by
  by_cases hback : r ∈ readBack
  · obtain ⟨x, hx, rfl, hbits⟩ := readBack_mem w h a a' hback
    have hcount := List.all_eq_true.mp readBack_once x.addr hback
    rw [← writesWith_addr w h a a', decide_eq_true_eq] at hcount
    obtain ⟨hkept, hleft⟩ := once hx hcount
    rw [untouched, hkept, hleft, hbits]
  · obtain ⟨x, hx, rfl⟩ := List.mem_map.mp hr
    have hshape : shape x ∈ (writesWith 0 0 zeroArray zeroArray).map shape := by
      rw [← writesWith_shape w h a a']
      exact List.mem_map_of_mem hx
    have hplain := List.all_eq_true.mp plain_elsewhere _ hshape
    rw [Bool.or_eq_true, decide_eq_true_eq, List.contains_iff_mem] at hplain
    rw [untouched, kept_of_mem_plain hx (hplain.resolve_right hback), UInt32.zero_and,
      preserved_eq_zero hback]

theorem chip_kept (regs : Nat → UInt32) : run regs (writesWith w h a a') 0 = regs 0 := by
  refine run_of_notMem ?_ regs
  rw [writesWith_addr]
  exact chip_unwritten

end Program

theorem ispHwInit_eq {fuel : Nat} {regs : Nat → UInt32} {w h : UInt32} {l : List (Write Nat)}
    (hchip : regs 0 = chipId) (hl : hwInitWrites fuel w h = some l) :
    ispHwInit fuel regs w h = some (0, run regs l) := by
  rw [ispHwInit, if_neg (not_not_intro hchip), hl, Option.map_some]

theorem hwInitWrites_done {fuel : Nat} {w h : UInt32} (hwlow : 67 ≤ w.toNat)
    (hwhigh : w.toNat ≤ 4000000) (hhlow : 67 ≤ h.toNat) (hhhigh : h.toNat ≤ 4000000)
    (hfuel : 4000000 ≤ fuel) : ∃ a a', hwInitWrites fuel w h = some (writesWith w h a a') := by
  obtain ⟨l, hl⟩ := ispSetNr3dDrcWin_total hwlow hwhigh hhlow hhhigh (hwhigh.trans hfuel)
    (hhhigh.trans hfuel) (by omega)
  obtain ⟨a, a', -, -, rfl⟩ := ispSetNr3dDrcWin_done hl
  refine ⟨a, a', ?_⟩
  rw [hwInitWrites, ispSetPicSize, hl, Option.map_some, Option.map_some]
  exact congrArg some rfl

/-- Initialising twice is initialising once, the registers it does not write stay,
and those it writes end up the same whatever they held, the preserved bits apart. -/
theorem hw_init_rerun (fuel : Nat) (regs : Nat → UInt32) (w h : UInt32) (hchip : regs 0 = chipId)
    (hwlow : 67 ≤ w.toNat) (hwhigh : w.toNat ≤ 4000000) (hhlow : 67 ≤ h.toNat)
    (hhhigh : h.toNat ≤ 4000000) (hfuel : 4000000 ≤ fuel) :
    ∃ l regs', hwInitWrites fuel w h = some l ∧ ispHwInit fuel regs w h = some (0, regs') ∧
      ispHwInit fuel regs' w h = some (0, regs') ∧ (∀ r, r ∉ l.map Write.addr → regs' r = regs r) ∧
      (∀ r ∈ l.map Write.addr, regs' r &&& preserved r = regs r &&& preserved r) ∧
      ∀ other : Nat → UInt32, other 0 = chipId →
        ∃ other', ispHwInit fuel other w h = some (0, other') ∧
          ∀ r ∈ l.map Write.addr, regs' r &&& ~~~preserved r = other' r &&& ~~~preserved r := by
  obtain ⟨a, a', hl⟩ := hwInitWrites_done hwlow hwhigh hhlow hhhigh hfuel
  have hchip' : run regs (writesWith w h a a') 0 = chipId := (chip_kept w h a a' regs).trans hchip
  refine ⟨_, _, hl, ispHwInit_eq hchip hl, ?_, fun r hr => run_of_notMem hr regs, fun r hr => ?_,
    fun other hother => ⟨_, ispHwInit_eq hother hl, fun r hr => ?_⟩⟩
  · rw [ispHwInit_eq hchip' hl, run_run]
  · rw [← untouched_eq w h a a' hr]
    exact run_untouched _ _ _
  · rw [← untouched_eq w h a a' hr, run_touched, run_touched]

/-- The registers after power-up, as far as they are known. -/
def powerUp : Nat → UInt32 := fun r => if r = 0 then chipId else 0

theorem hw_init_rerun_sample : ∃ l regs', hwInitWrites 4000000 2304 1296 = some l ∧
    ispHwInit 4000000 powerUp 2304 1296 = some (0, regs') ∧
      ispHwInit 4000000 regs' 2304 1296 = some (0, regs') ∧
      (∀ r, r ∉ l.map Write.addr → regs' r = powerUp r) ∧
      (∀ r ∈ l.map Write.addr, regs' r &&& preserved r = powerUp r &&& preserved r) ∧
      ∀ other : Nat → UInt32, other 0 = chipId →
        ∃ other', ispHwInit 4000000 other 2304 1296 = some (0, other') ∧
          ∀ r ∈ l.map Write.addr, regs' r &&& ~~~preserved r = other' r &&& ~~~preserved r :=
  hw_init_rerun 4000000 powerUp 2304 1296 rfl (by decide) (by decide) (by decide) (by decide)
    (Nat.le_refl _)

end Isp
end FH8852
