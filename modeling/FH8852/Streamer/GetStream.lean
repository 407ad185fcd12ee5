import FH8852.Rtsp.Server

/-!
# `venc_get_stream` of `mini_streamer.c`

One encoded frame on its way from the encoder to the RTSP server.
-/

namespace FH8852
namespace Streamer

open CLib Rtsp

def vencStreamH264 : UInt32 := 4
def vencStreamNaluWord : Nat := 12
def vencStreamNaluMax : UInt32 := (0x170 - 0x30) / 16

/-- What `venc_get_stream` gets from the world. -/
structure StreamIo where
  /-- The words that `GET_STREAM` leaves in `st`; none where the call fails. -/
  st : Option (Nat → UInt32)
  /-- The memory behind the mapping of the round; none where `mmap` fails. -/
  mmap : (round : Nat) → Option (Nat → UInt8)
  /-- The answers to the sends of the round. -/
  answers : (round : Nat) → Slot → Nat → List SendResult

def stripStartCode (buf : Bytes) : Bytes :=
  let off :=
    if 4 ≤ buf.length ∧ buf.getD 0 0 = 0 ∧ buf.getD 1 0 = 0 ∧ buf.getD 2 0 = 0 ∧ buf.getD 3 0 = 1
    then 4
    else if 3 ≤ buf.length ∧ buf.getD 0 0 = 0 ∧ buf.getD 1 0 = 0 ∧ buf.getD 2 0 = 1 then 3
    else 0
  buf.drop off

section Frame

variable (io : StreamIo) (st : Nat → UInt32)

def chan : UInt32 := st 3

def naluCount : Nat := (if st 4 < vencStreamNaluMax then st 4 else vencStreamNaluMax).toNat

def ptsUs : UInt64 := (st 11).toUInt64 <<< 32 ||| (st 10).toUInt64

/-- The bytes of entry `i`; none where the round ends before it reads them. -/
def entryBytes (i : Nat) : Option Bytes :=
  let phys := st (vencStreamNaluWord + i * 4 + 1)
  let len := st (vencStreamNaluWord + i * 4 + 3)
  if len = 0 then none
  else (io.mmap i).map fun map =>
    (List.range len.toNat).map fun j => map ((phys &&& 0xfff).toNat + j)

/-- The call of `rtsp_server_push_nal` in round `i`. -/
def pushOf (i : Nat) (bytes : Bytes) : Push :=
  { streamId := (chan st).toInt32.toInt, nal := stripStartCode bytes, ptsUs := ptsUs st
    last := decide (i + 1 = naluCount st) }

/-- What round `i` does to the server. -/
def roundEvent (i : Nat) : Option Event :=
  (entryBytes io st i).map fun bytes => .pushNal (pushOf st i bytes) (io.answers i)

def frameEvents : List Event := (List.range (naluCount st)).filterMap (roundEvent io st)

/-- What the frame puts on the standard output. -/
def frameStdout : List Bytes :=
  if chan st = 0 then (List.range (naluCount st)).filterMap (entryBytes io st) else []

end Frame

structure Streamed where
  result : Int
  server : RtspServer
  log : List Record
  stdout : List Bytes

def vencGetStream (srv : RtspServer) (io : StreamIo) : Streamed :=
  match io.st with
  | none => ⟨0, srv, [], []⟩
  | some st =>
    if st 1 ≠ vencStreamH264 then ⟨0, srv, [], []⟩
    else
      let pushed := run srv (frameEvents io st)
      ⟨1, pushed.1, pushed.2, frameStdout io st⟩

end Streamer
end FH8852
