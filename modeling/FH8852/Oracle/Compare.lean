import Mathlib.Data.List.Chain
import Mathlib.Data.List.Dedup
import Mathlib.Tactic.Ring
import FH8852.Lib.Receiver
import FH8852.Oracle.FakeMpi
import FH8852.Rtsp.Send

/-!
# The comparison of two captures

`compare_video` of `compare.py` says where the video of a session differs from that of
the original.  Bases, SSRCs and the frame that a session begins with differ in every
capture, so it compares frames by their packets, and times by the steps between frames.
-/

namespace FH8852
namespace Oracle
namespace Compare

open CLib

/-! ## compare.py -/

/-- `struct.pack('>I', n)`. -/
def packU32 (n : Nat) : Bytes :=
  [UInt8.ofNat (n / 2 ^ 24), UInt8.ofNat (n / 2 ^ 16), UInt8.ofNat (n / 2 ^ 8), UInt8.ofNat n]

def bye (ssrc : Nat) : Bytes :=
  [0x81, 0xcb, 0x00, 0x05] ++ packU32 ssrc ++ [13] ++ ascii "session ended" ++ [0, 0]

/-- The packets of a frame, each with its marker. -/
abbrev Key := List (Bool × Bytes)

structure TimedUnit where
  ts : Nat
  packets : Key

/-- `(b['ts'] - a['ts']) & 0xffffffff`. -/
def tsStep (a b : TimedUnit) : Nat := (((b.ts : Int) - a.ts) % 2 ^ 32).toNat

def keyedStep (x : TimedUnit × TimedUnit) : (Key × Key) × Nat :=
  ((x.1.packets, x.2.packets), tsStep x.1 x.2)

def sizes (u : TimedUnit) : List (Bool × Nat) := (u.packets.map fun p => (p.1, p.2.length)).take 6

def steps (au : List TimedUnit) : List ((Key × Key) × Nat) :=
  (au.zip au.tail.dropLast).map keyedStep

/-- The time of frame `i`, as `rtp_timestamp` makes it of `pts0` and the base. -/
def frameTs (base : UInt32) (pts0 : UInt64) (i : Nat) : Nat :=
  (Rtsp.rtpTimestamp (framePts pts0 (UInt32.ofNat i)) base).toNat

/-- The packets of some frames. -/
def flat (us : List TimedUnit) : List (Nat × Bool × Bytes) :=
  us.flatMap fun u => u.packets.map fun p => (u.ts, p)

/-- The video of a session: the frames from `first` on, `whole` of them in full, and the
first `rest` packets of the one behind them. -/
structure Shot where
  ssrc : UInt32
  base : UInt32
  pts0 : UInt64
  first : Nat
  whole : Nat
  rest : Nat

namespace Shot

/-- Neither the times nor the frame counter wrap. -/
structure Fits (s : Shot) : Prop where
  pts : s.pts0.toNat < 2 ^ 59
  frames : s.first + s.whole + 1 < 2 ^ 32

section Units

variable (n : Nat) (unit : Nat → Key) (s : Shot)

def frame (i : Nat) : TimedUnit := ⟨frameTs s.base s.pts0 (s.first + i), unit ((s.first + i) % n)⟩

/-- The frame that the session breaks off in, as far as it is sent. -/
def broken : List TimedUnit :=
  if (unit ((s.first + s.whole) % n)).take s.rest = [] then []
  else [⟨frameTs s.base s.pts0 (s.first + s.whole), (unit ((s.first + s.whole) % n)).take s.rest⟩]

def units : List TimedUnit := (List.range s.whole).map (s.frame n unit) ++ s.broken n unit

def packets : List Rtp.Packet :=
  (flat (s.units n unit)).zipIdx.map fun x =>
    { first := 0x80, marker := x.1.2.1, payloadType := 96, seq := x.2, timestamp := x.1.1
      ssrc := s.ssrc.toNat, payload := x.1.2.2 }

variable {n unit s}

end Units

end Shot

/-! ## Two shots of one clip -/

section Shots

variable {n : Nat} {unit : Nat → Key} {e a : Shot}

end Shots

end Compare
end Oracle
end FH8852
