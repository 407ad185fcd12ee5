import FH8852.CLib.Text

/-!
# RTP and RTCP packets

The fixed header of RTP, read from the bytes of a packet: two bits of version,
padding, extension and CSRC count in the first byte, marker and payload type in
the second, then sequence number, timestamp and SSRC in network byte order.
-/

namespace FH8852
namespace Rtp

open CLib

/-- The number that bytes in network byte order stand for. -/
def beNat (bytes : Bytes) : Nat := bytes.foldl (fun acc b => acc * 256 + b.toNat) 0

theorem beNat_u16 (x : UInt16) : beNat [(x >>> 8).toUInt8, x.toUInt8] = x.toNat := by
  have h := x.toNat_lt
  simp [beNat, UInt16.toNat_shiftRight, Nat.shiftRight_eq_div_pow]
  omega

theorem beNat_u32 (x : UInt32) :
    beNat [(x >>> 24).toUInt8, (x >>> 16).toUInt8, (x >>> 8).toUInt8, x.toUInt8] = x.toNat := by
  have h := x.toNat_lt
  simp [beNat, UInt32.toNat_shiftRight, Nat.shiftRight_eq_div_pow]
  omega

structure Packet where
  first : UInt8
  marker : Bool
  payloadType : Nat
  seq : Nat
  timestamp : Nat
  ssrc : Nat
  payload : Bytes
deriving DecidableEq

/-- A packet of at least twelve bytes. -/
def parse : Bytes → Option Packet
  | b0 :: b1 :: s1 :: s0 :: t3 :: t2 :: t1 :: t0 :: c3 :: c2 :: c1 :: c0 :: payload =>
    some { first := b0
           marker := decide (128 ≤ b1.toNat)
           payloadType := b1.toNat % 128
           seq := beNat [s1, s0]
           timestamp := beNat [t3, t2, t1, t0]
           ssrc := beNat [c3, c2, c1, c0]
           payload := payload }
  | _ => none

/-- The SSRC of an RTCP packet: the four bytes after its header word. -/
def rtcpSsrc (bytes : Bytes) : Nat := beNat ((bytes.drop 4).take 4)

/-- Whether the packet type of an RTCP packet is BYE. -/
def isBye (bytes : Bytes) : Bool := bytes.getD 1 0 == 203

end Rtp
end FH8852
