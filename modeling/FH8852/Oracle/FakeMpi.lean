import FH8852.CLib.Words
import FH8852.Oracle.Load
import FH8852.Streamer.GetStream

/-!
# The encoder of the oracle

`fake_mpi.c`, which hands the frames of a clip to another program through the calls of
the encoder's library, and the loop of `replay.c`, which pushes the same frames to the
server.  Memory is one array that the program and the library share.
-/

namespace FH8852
namespace Oracle

open CLib AnnexB Rtsp

def packSize : Nat := 0x88
def frameIntervalUs : UInt64 := 40000
def oddFrameJitterUs : UInt64 := 1037
abbrev channels : Nat := 2

/-- The time of frame `seq`, in both programs. -/
def framePts (pts0 : UInt64) (seq : UInt32) : UInt64 :=
  pts0 + seq.toUInt64 * frameIntervalUs + if seq &&& 1 ≠ 0 then oddFrameJitterUs else 0

/-! ## replay.c -/

namespace Replay

/-- What `load` leaves in the globals, and `pts0`. -/
structure Clip where
  bytes : Bytes
  nals : List Nal
  aus : List AccessUnit
  pts0 : UInt64

/-- The innermost loop of `main`, over the NALs from the `k`-th of the unit on. -/
def pushLoop (b : Bytes) (stream : Int) (pts : UInt64) (count : Nat) :
    List Nal → (k : Nat) → List Push
  | [], _ => []
  | n :: nals, k =>
      ⟨stream, n.bytes b, pts, decide (k + 1 = count)⟩ :: pushLoop b stream pts count nals (k + 1)

/-- The pushes of one round of `main`. -/
def round (c : Clip) (seq : UInt32) : Option (List Push) := do
  let u ← c.aus[(seq % UInt32.ofNat c.aus.length).toNat]?
  if c.nals.length < u.first + u.count then none
  else
    let pushes :=
      fun stream => pushLoop c.bytes stream (framePts c.pts0 seq) u.count (u.run c.nals) 0
    some (pushes 0 ++ pushes 1)

end Replay

/-! ## fake_mpi.c -/

namespace FakeMpi

/-- What `init_once` leaves in the globals that do not change any more, with the
contents of `g_buf`, and `g_pts0`. -/
structure Clip where
  gBuf : UInt32
  bytes : Bytes
  nals : List Nal
  aus : List AccessUnit
  pts0 : UInt64

/-- `g_au[chn]`, `g_seq[chn]` and the number of bytes in the pipe. -/
structure Channel where
  au : Nat
  seq : UInt32
  pipe : Nat

structure Mpi where
  mem : Buf
  chns : Fin channels → Channel

/-- `chn >= 0 && chn < CHANNELS`. -/
def channel (chn : Int) : Option (Fin channels) :=
  if h : 0 ≤ chn ∧ chn.toNat < channels then some ⟨chn.toNat, h.2⟩ else none

def Mpi.setChn (s : Mpi) (c : Fin channels) (f : Channel → Channel) : Mpi :=
  { s with chns := Function.update s.chns c (f (s.chns c)) }

/-- The line on the standard error for a key frame. -/
structure IdrLine where
  chn : Int
  seq : UInt32
  pts : UInt64

/-- What the loop of `HI_MPI_VENC_GetStream` writes to a pack. -/
structure Pack where
  addr : UInt32
  len : UInt32
  pts : UInt64
  last : UInt32
  type : UInt32
deriving DecidableEq

def writePack (mem : Buf) (pk : Nat) (p : Pack) : Buf :=
  let mem := mem.write pk (List.replicate packSize 0)
  let mem := mem.store32 (pk + 0x08) p.addr
  let mem := mem.store32 (pk + 0x0c) p.len
  let mem := mem.store64 (pk + 0x10) p.pts
  let mem := mem.store32 (pk + 0x18) p.last
  mem.store32 (pk + 0x1c) p.type

section Calls

variable (g : Clip)

/-- The `k`-th pack of a unit of `count` NALs. -/
def packOf (pts : UInt64) (count k : Nat) (n : Nal) (type : UInt8) : Pack :=
  ⟨g.gBuf + UInt32.ofNat n.p, UInt32.ofNat n.len, pts, if k + 1 = count then 1 else 0,
    type.toUInt32⟩

/-- The loop of `HI_MPI_VENC_GetStream`, over the NALs from the `k`-th of the unit on. -/
def packLoop (pts : UInt64) (packs count : Nat) : List Nal → (k : Nat) → Buf → Option Buf
  | [], _, mem => some mem
  | n :: nals, k, mem => do
    let t ← nalType g.bytes n
    packLoop pts packs count nals (k + 1)
      (writePack mem (packs + k * packSize) (packOf g pts count k n t))

/-- `idr` of an access unit, from the slice that ends it. -/
def idr (u : AccessUnit) : Bool :=
  (g.nals[u.first + u.count - 1]?.bind (nalType g.bytes)) == some 5

/-- The words of `status`, or none where the access unit does not exist. -/
def hiMpiVencQueryStatus (s : Mpi) (chn : Int) : Option (Nat → UInt32) :=
  match channel chn with
  | none => some fun _ => 0
  | some c => (g.aus[(s.chns c).au]?).map fun u w =>
      if w = 2 then 1 else if w = 3 then UInt32.ofNat u.count else 0

/-- What a call of `HI_MPI_VENC_GetStream` leaves. -/
structure Got where
  result : Int
  mpi : Mpi
  stream : Nat → UInt32
  stderr : List IdrLine

/-- `HI_MPI_VENC_GetStream`, with the words of `stream`.  The call does not return
while the pipe is empty. -/
def hiMpiVencGetStream (s : Mpi) (chn : Int) (stream : Nat → UInt32) (_timeout : Int) :
    Option Got :=
  match channel chn with
  | none => some ⟨-1, s, stream, []⟩
  | some c =>
    let ch := s.chns c
    if ch.pipe = 0 then none
    else do
      let u ← g.aus[ch.au]?
      if g.nals.length < u.first + u.count then none
      else
        let pts := framePts g.pts0 ch.seq
        let mem ← packLoop g pts (stream 0).toNat u.count (u.run g.nals) 0 s.mem
        let next := { s with mem := mem }.setChn c fun ch =>
          { ch with seq := ch.seq + 1, pipe := ch.pipe - 1 }
        let words := fun w =>
          if w = 1 then UInt32.ofNat u.count else if w = 2 then ch.seq
          else if w = 9 then (if idr g u then 0 else 2) else stream w
        some ⟨0, next, words, if idr g u then [⟨chn, ch.seq, pts⟩] else []⟩

def hiMpiVencReleaseStream (s : Mpi) (chn : Int) : Mpi :=
  match channel chn with
  | none => s
  | some c => s.setChn c fun ch => { ch with au := (ch.au + 1) % g.aus.length }

/-! ## Runs -/

inductive Call where
  /-- A write of `frame_clock` to the pipe of a channel. -/
  | tick (c : Fin channels)
  /-- A write of the program to its memory. -/
  | store (addr : Nat) (data : Bytes)
  | getFd (chn : Int)
  | queryStatus (chn : Int)
  | getStream (chn : Int) (stream : Nat → UInt32) (timeout : Int)
  | releaseStream (chn : Int)
  | requestIdr (chn instant : Int)

def Call.apply (s : Mpi) : Call → Option Mpi
  | tick c => some (s.setChn c fun ch => { ch with pipe := ch.pipe + 1 })
  | store addr data => some { s with mem := s.mem.write addr data }
  | getFd _ => some s
  | queryStatus chn => (hiMpiVencQueryStatus g s chn).map fun _ => s
  | getStream chn stream timeout => (hiMpiVencGetStream g s chn stream timeout).map Got.mpi
  | releaseStream chn => some (hiMpiVencReleaseStream g s chn)
  | requestIdr _ _ => some s

/-- The state after `init_once`. -/
def initial (mem : Buf) : Mpi := ⟨mem, fun _ => ⟨0, 0, 0⟩⟩

def run (s : Mpi) : List Call → Option Mpi
  | [] => some s
  | call :: calls => (call.apply g s).bind fun s => run s calls

end Calls

end FakeMpi
end Oracle
end FH8852
