import Mathlib.Data.List.Basic

/-!
# ISP buffer addresses

`isp_core_alloc_buf_addr` and what it calls: the size of the pool, the bump
allocator that cuts it up, and the block of addresses handed to the driver.
What the functions print is left out.
-/

namespace FH8852
namespace Isp

/-- The buffers, in the order they are allocated. -/
inductive Buffer where
  | ispMemFront
  | gosd
  | isppStat
  | ispfStat
  | ispbStat
  | nr3dStat
  | nr3dFrame
  | nr3dCoef
  | nr3dNr2dCoef
  | memAfterNr3d
  | drcStat0
  | memAfterDrc
  | ispMemEnd
deriving DecidableEq

/-- `isp_core_t` without its file descriptors. -/
structure IspCore where
  poolPhysBase : UInt32
  poolTotalSize : UInt32
  poolCursor : UInt32
  addr : Buffer → UInt32
  size : Buffer → UInt32

/-- A `uint32_t` returned as an `int`. -/
def asInt (v : UInt32) : Int := v.toBitVec.toInt

def fhErrMemAlloc : Int := asInt 0xa008400b

def roundUp8 (v : UInt32) : UInt32 := (v + 7) &&& 0xfffffff8

def roundUp128 (v : UInt32) : UInt32 := (v + 0x7f) &&& 0xffffff80

def isppStatSize : UInt32 := 3 * 0x60c8

def ispfStatSize : UInt32 := (3 : UInt32) <<< 2

/-! ## The size of the pool -/

def mainRow (width : UInt32) : UInt32 := roundUp8 ((width * 10 + 7) >>> 3)

def subRow (width : UInt32) : UInt32 := roundUp8 (((width >>> 2) * 10 + 7) >>> 3)

/-- The array that `isp_core_get_buf_size` fills. -/
def ispCoreGetBufSize (width height : UInt32) : Nat → UInt32
  | 0 => height * mainRow width
  | 1 => (height >>> 2) * subRow width
  | 2 => (height >>> 2) * subRow width
  | 3 => 0x5000
  | 4 => 0x41a0
  | 0x14 => 0x200
  | 0x15 => roundUp128 (height * mainRow width) +
      (((roundUp128 ispfStatSize + roundUp128 isppStatSize + 0xffff) &&& 0xffff0000 : UInt32)) +
      roundUp128 ((height >>> 2) * subRow width) * 2 + 0x9400
  | _ => 0

/-! ## The allocator -/

/-- What a call of `isp_malloc` returns, stores and leaves. -/
structure Malloc where
  ret : Int
  physOut : UInt32
  core : IspCore

def ispMalloc (core : IspCore) (size align physOut : UInt32) : Malloc :=
  if size = 0 then ⟨0, physOut, core⟩
  else
    let mask := if align ≠ 0 then ~~~(align - 1) else 0xffffffff
    let alignTerm := if align ≠ 0 then align else 1
    let aligned := (core.poolPhysBase + core.poolCursor + alignTerm - 1) &&& mask
    let poolEnd := core.poolPhysBase + core.poolTotalSize
    if poolEnd < size + aligned then ⟨asInt 0xa008400e, physOut, core⟩
    else ⟨0, aligned, { core with poolCursor := size + aligned - core.poolPhysBase }⟩

/-- One use of the `ALLOC` macro: whether it goes on, and the core it leaves. -/
def allocBuffer (core : IspCore) (b : Buffer) (size : UInt32) : Bool × IspCore :=
  let r := ispMalloc core size 0x80 (core.addr b)
  if r.ret < 0 then (false, r.core)
  else
    (true, { r.core with
      addr := fun b' => if b' = b then r.physOut else r.core.addr b'
      size := fun b' => if b' = b then size else r.core.size b' })

def allocBuffers : IspCore → List (Buffer × UInt32) → Bool × IspCore
  | core, [] => (true, core)
  | core, (b, size) :: rest =>
    let r := allocBuffer core b size
    if r.1 then allocBuffers r.2 rest else r

/-- The sizes the buffers are allocated with. -/
def requests (bufsz : Nat → UInt32) : List (Buffer × UInt32) :=
  [(.ispMemFront, bufsz 0x11), (.gosd, bufsz 0x14), (.isppStat, isppStatSize),
    (.ispfStat, ispfStatSize), (.ispbStat, 0), (.nr3dStat, bufsz 3), (.nr3dFrame, bufsz 0),
    (.nr3dCoef, bufsz 1), (.nr3dNr2dCoef, bufsz 2), (.memAfterNr3d, bufsz 0x13),
    (.drcStat0, bufsz 4), (.memAfterDrc, bufsz 0x13), (.ispMemEnd, bufsz 0x12)]

/-! ## The addresses for the driver -/

/-- The words of the `SET_DMA_ADDRS` block, by their offset. -/
def dmaAddrs (core : IspCore) : Nat → UInt32
  | 24 => core.addr .nr3dFrame
  | 28 => core.addr .nr3dCoef
  | 32 => core.addr .nr3dNr2dCoef
  | 36 => core.addr .nr3dStat
  | 40 => core.addr .drcStat0
  | 60 => core.addr .gosd
  | 72 => core.addr .ispMemFront
  | 80 => core.addr .memAfterNr3d
  | 84 => core.addr .memAfterDrc
  | _ => 0

structure VmmRequest where
  size : UInt32
  align : UInt32
  name : String

/-- The results of the `ioctl`s: the physical base the VMM returns, if it does,
and which of the others succeed. -/
structure IoctlIo where
  vmmAlloc : VmmRequest → Option UInt32
  setStatInfo : Bool
  setDmaAddrs : Bool
  getStatInfo : Bool

/-- What a call of `isp_core_alloc_buf_addr` returns and leaves, and the block it
sent with `SET_DMA_ADDRS`. -/
structure AllocOutcome where
  ret : Int
  core : IspCore
  sent : Option (Nat → UInt32)

def bufferMallocWithname (core : IspCore) (io : IoctlIo) (size align : UInt32) (name : String) :
    Option IspCore :=
  (io.vmmAlloc ⟨size, align, name⟩).map fun base =>
    { core with poolPhysBase := base, poolTotalSize := size }

def ispCoreAllocBufAddr (core : IspCore) (io : IoctlIo) (width height : UInt32) : AllocOutcome :=
  let bufsz := ispCoreGetBufSize width height
  match bufferMallocWithname core io (bufsz 0x15) 0x10000 "isp" with
  | none => ⟨fhErrMemAlloc, core, none⟩
  | some core =>
    let core := { core with poolCursor := 0 }
    if core.poolTotalSize < bufsz 0x15 then ⟨fhErrMemAlloc, core, none⟩
    else
      let allocated := allocBuffers core (requests bufsz)
      if !allocated.1 then ⟨fhErrMemAlloc, allocated.2, none⟩
      else if !io.setStatInfo then ⟨fhErrMemAlloc, allocated.2, none⟩
      else
        let sent := dmaAddrs allocated.2
        if !io.setDmaAddrs then ⟨fhErrMemAlloc, allocated.2, some sent⟩
        else if !io.getStatInfo then ⟨fhErrMemAlloc, allocated.2, some sent⟩
        else ⟨0, allocated.2, some sent⟩

/-- `isp_core` before anything is stored in it. -/
def zeroCore : IspCore :=
  { poolPhysBase := 0, poolTotalSize := 0, poolCursor := 0, addr := fun _ => 0, size := fun _ => 0 }

end Isp
end FH8852
