import FH8852.Isp.BufAddr
import FH8852.Lib.Dialogue
import FH8852.Streamer.GetStream

/-!
# How `mini_streamer.c` sets up the devices

`main` up to the RTSP server, with everything that it asks the kernel and the other
modules.  What it prints is left out.
-/

namespace FH8852
namespace Streamer

open CLib Dialogue

/-! ## The requests -/

inductive Device where
  | mediaProcess
  | isp
  | enc
deriving DecidableEq

def ioctlVpssGetSysSize : UInt32 := 0xC0046966
def ioctlVpssSetSysAddr : UInt32 := 0xC00C6964
def ioctlVpssGetChnSize : UInt32 := 0xC0106967
def ioctlVpssSetChnAddr : UInt32 := 0xC0186968
def ioctlVpssSetViAttr : UInt32 := 0xC0F4696A
def ioctlVpssEnable : UInt32 := 0xC0046971
def ioctlVpssSetChnAttr : UInt32 := 0xC00C696C
def ioctlVpssOpenChn : UInt32 := 0xC0046973
def ioctlVpssSetVoMode : UInt32 := 0xC00869A4

def ioctlVencSysGetSize : UInt32 := 0xC0085401
def ioctlVencSysSetAddr : UInt32 := 0xC00C5400
def ioctlVencQueryChnMem : UInt32 := 0xC0145402
def ioctlVencCreateChn : UInt32 := 0xC01C5403
def ioctlVencSetRcAttr : UInt32 := 0xC06C540C
def ioctlVencStartRecvPic : UInt32 := 0xC0045407
def ioctlVencGetStream : UInt32 := 0xC1A04D05
def ioctlVencReleaseStream : UInt32 := 0xC004540A
def ioctlVencSetChnConfig : UInt32 := 0xC0485405
def ioctlVencRequestIdr : UInt32 := 0xC004540B
def ioctlMediaBind : UInt32 := 0xC0104D00

def ioctlIspHandshake : UInt32 := 0x40016921
def ioctlIspSetDmaAddrs : UInt32 := 0x40016920
def ioctlIspSetStatInfo : UInt32 := 0x40786904
def ioctlIspGetStatInfo : UInt32 := 0x80786905
def ioctlIspGetBufInfo : UInt32 := 0x80306926

inductive Request where
  | openDevice (path : String)
  /-- A call of `write_proc_config`. -/
  | writeProc (path value : String)
  /-- `VMM_IOCTL_ALLOC`, with the fields of its request. -/
  | vmmAlloc (align size : UInt32) (name : Bytes)
  /-- Another `ioctl`, with the words of its argument. -/
  | ioctl (dev : Device) (number : UInt32) (words : List UInt32)
  /-- Calls of functions that have a model of their own. -/
  | cv2003Init
  | cv2003SetFormat
  | ispHwInit (width height : UInt32)
  | ispStartProcessing
  | mmap (len offset : UInt32)
  | munmap (len : UInt32)
  | writeStdout (bytes : Bytes)
deriving DecidableEq

structure Answer where
  ret : Int
  /-- The words that the kernel leaves in the argument. -/
  words : Nat → UInt32
  /-- The memory behind a mapping. -/
  mem : Nat → UInt8

def Answer.failed (a : Answer) : Bool := decide (a.ret < 0)

abbrev Try := Attempt Request Answer

/-- A request that the program gives up on where its result is negative. -/
def must (q : Request) : Try Answer := checked Answer.failed q

/-- A request that is made whatever comes of it. -/
def may (q : Request) : Try Answer := OptionT.lift (request q)

def ioctl (dev : Device) (number : UInt32) (words : List UInt32) : Try Answer :=
  must (.ioctl dev number words)

def vmmAlloc (size : UInt32) (name : Bytes) : Try UInt32 := do
  let r ← must (.vmmAlloc 0x1000 size (name.take 15))
  pure (r.words 0)

/-! ## VPSS -/

structure VpssChnDesc where
  chan : UInt32
  width : UInt32
  height : UInt32
  vmmName : Bytes

def vpssChannels : List VpssChnDesc :=
  [⟨0, 1920, 1080, ascii "vpu-ch-0"⟩, ⟨1, 800, 576, ascii "vpu-ch-1"⟩]

/-- A round of the first loop of `vpss_setup`. -/
def vpssChnAddr (d : VpssChnDesc) : Try PUnit := do
  let q ← ioctl .isp ioctlVpssGetChnSize [d.chan, d.width, d.height, 0]
  let ph ← vmmAlloc (q.words 3) d.vmmName
  let _ ← ioctl .isp ioctlVpssSetChnAddr [d.chan, ph, 0, q.words 3, d.width, d.height]

def vpssSetup : Try PUnit := do
  let sz ← ioctl .isp ioctlVpssGetSysSize [0]
  let ph ← vmmAlloc (sz.words 0) (ascii "vpu-sys")
  let _ ← ioctl .isp ioctlVpssSetSysAddr [ph, 0, sz.words 0]
  vpssChannels.forM vpssChnAddr
  let _ ← ioctl .isp ioctlVpssSetViAttr (1920 :: 1080 :: List.replicate 60 0)
  let _ ← ioctl .isp ioctlVpssEnable [0]
  vpssChannels.forM fun d => do
    let _ ← ioctl .isp ioctlVpssSetChnAttr [d.chan, d.width, d.height]
  let _ ← ioctl .isp ioctlVpssOpenChn [0]
  vpssChannels.forM fun d => do
    let _ ← ioctl .isp ioctlVpssSetVoMode [d.chan, 1]

/-! ## The ISP -/

/-- The 88 bytes of the `SET_DMA_ADDRS` block. -/
def dmaWords (core : Isp.IspCore) : List UInt32 :=
  (List.range 22).map fun i => Isp.dmaAddrs core (4 * i)

/-- An `ioctl` of `isp_core_alloc_buf_addr`, which checks for 0. -/
def ispIoctl (number : UInt32) (words : List UInt32) : Try Answer :=
  checked (fun a => decide (a.ret ≠ 0)) (.ioctl .isp number words)

/-- `isp_core_alloc_buf_addr`, with its requests; `isp_core` is still all zero. -/
def ispCoreAllocBufAddr (width height : UInt32) : Try PUnit := do
  let bufsz := Isp.ispCoreGetBufSize width height
  let _ ← may (.ioctl .isp ioctlIspGetBufInfo (List.replicate 32 0))
  let _ ← may (.ioctl .isp ioctlIspHandshake [0])
  let pool ← must (.vmmAlloc 0x10000 (bufsz 0x15) (ascii "isp"))
  let core := { Isp.zeroCore with poolPhysBase := pool.words 0, poolTotalSize := bufsz 0x15 }
  if core.poolTotalSize < bufsz 0x15 then failure
  else
    let allocated := Isp.allocBuffers core (Isp.requests bufsz)
    if allocated.1 then do
      let _ ← ispIoctl ioctlIspSetStatInfo (List.replicate 30 0)
      let _ ← ispIoctl ioctlIspSetDmaAddrs (dmaWords allocated.2)
      let _ ← ispIoctl ioctlIspGetStatInfo (List.replicate 30 0)
    else failure

def ispSetup (width height : UInt32) : Try PUnit := do
  let _ ← ioctl .isp 0x80086929 [0, 0]
  let _ ← may (.ioctl .isp ioctlIspGetBufInfo (List.replicate 12 0))
  let _ ← ioctl .isp ioctlIspGetStatInfo (List.replicate 30 0)
  let one ← ioctl .isp 0x40046908 [1]
  let one ← ioctl .isp 0x40046909 [one.words 0]
  let _ ← ioctl .isp 0x690A [0]
  let _ ← ioctl .isp 0x4004690F [one.words 0]
  ispCoreAllocBufAddr width height
  let _ ← must (.ispHwInit width height)
  let _ ← may .ispStartProcessing
  let _ ← may (.ioctl .isp 0x6910 [0])

/-! ## The encoder -/

def mediaObjectVpu : UInt32 := 2
def mediaObjectEnc : UInt32 := 4
def vencCodecH264 : UInt32 := 4
def vencProfileMain : UInt32 := 77
def vencInitQp : UInt32 := 35
def vencFps : UInt32 := 25
def vencGopFrames : UInt32 := 25

/-- `venc_rc_attr_mode9_t`, as `venc_set_rc_attr` fills it. -/
def rcAttr (chan bitrateKbps : UInt32) : List UInt32 :=
  [chan, 2, 0, bitrateKbps, 0, bitrateKbps, bitrateKbps, bitrateKbps, 0, 0, 8,
    bitrateKbps * 2, 0, 5, 1, 0,
    200, 0x1e, 0x22, 0, -2, 0, 0x20, 0x1e, 2000, 4000]

def vencSetRcAttr (chan bitrateKbps : UInt32) : Try Answer :=
  ioctl .enc ioctlVencSetRcAttr (rcAttr chan bitrateKbps)

def vencSysInit : Try PUnit := do
  let q ← ioctl .enc ioctlVencSysGetSize [0, 0]
  let ph ← vmmAlloc (q.words 0) (ascii "venc-sys")
  let _ ← ioctl .enc ioctlVencSysSetAddr [ph, 0, q.words 0]

def chnName (chan : UInt32) : Bytes := snprintf 16 (ascii "venc-chn-" ++ decimal chan.toNat)

/-- `venc_chn_setup`, with what it stores through its last two arguments. -/
def vencChnSetup (chan width height bitrateKbps : UInt32) : Try (UInt32 × UInt32) := do
  let q ← ioctl .enc ioctlVencQueryChnMem [chan, 0, width, height, 0]
  let ph ← vmmAlloc (q.words 1) (chnName chan)
  let _ ← ioctl .enc ioctlVencCreateChn [chan, ph, 0, q.words 1, width, height, 0]
  let _ ← ioctl .enc ioctlVencSetChnConfig
    ([chan, vencCodecH264, width, height, width, height, vencGopFrames, vencProfileMain, vencInitQp,
      vencFps ||| (1 : UInt32) <<< 16] ++ List.replicate 8 0)
  let _ ← vencSetRcAttr chan bitrateKbps
  pure (ph, q.words 1)

def vencBindAndStart (chan : UInt32) : Try PUnit := do
  let _ ← ioctl .mediaProcess ioctlMediaBind [mediaObjectVpu, chan, mediaObjectEnc, chan]
  let _ ← ioctl .enc ioctlVencStartRecvPic [chan]

/-! ## main -/

def procConfig : List (String × String) :=
  [("/proc/driver/vpu", "vi_1920_1080"), ("/proc/driver/vpu", "cap_0_1920_1080"),
    ("/proc/driver/vpu", "cap_1_800_576"), ("/proc/driver/vpu", "cap_2_512_288"),
    ("/proc/driver/vpu", "buf_0_2"), ("/proc/driver/vpu", "buf_1_3"),
    ("/proc/driver/vpu", "buf_2_1"),
    ("/proc/driver/vpu", "cirbuf_on"), ("/proc/driver/vpu", "cbufsize_80"),
    ("/proc/driver/isp", "wdr_off"), ("/proc/driver/isp", "cir_on"),
    ("/proc/driver/enc", "stm_1572864"), ("/proc/driver/jpeg", "mem_1_131072"),
    ("/proc/driver/jpeg", "mjpg_0_0"), ("/proc/driver/clock", "nn_clk,enable,90000000")]

def applyProcConfig : Try PUnit :=
  procConfig.forM fun c => do
    let _ ← may (.writeProc c.1 c.2)

def openDevices : Try PUnit := do
  let mp ← may (.openDevice "/dev/media_process")
  let isp ← may (.openDevice "/dev/isp")
  let enc ← may (.openDevice "/dev/enc")
  let _ ← may (.openDevice "/dev/jpeg")
  let vmm ← may (.openDevice "/dev/vmm_userdev")
  if mp.failed || isp.failed || enc.failed || vmm.failed then failure else pure ⟨⟩

/-- A round of the loop of `main` over the channels; `bitrate` is
`majestic_auto_bitrate_kbps`. -/
def vencSetup (bitrate : UInt32 → UInt32 → UInt32 → UInt32) (d : VpssChnDesc) : Try PUnit := do
  let _ ← vencChnSetup d.chan d.width d.height (bitrate d.width d.height vencFps)
  vencBindAndStart d.chan

/-- `main` up to the RTSP server. -/
def setup (bitrate : UInt32 → UInt32 → UInt32 → UInt32) : Try PUnit := do
  applyProcConfig
  openDevices
  let _ ← must .cv2003Init
  let _ ← must .cv2003SetFormat
  vpssSetup
  ispSetup 1920 1080
  vencSysInit
  vpssChannels.forM (vencSetup bitrate)

end Streamer
end FH8852
