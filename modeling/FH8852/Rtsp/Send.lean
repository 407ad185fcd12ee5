import FH8852.Rtsp.Text

/-!
# Sending

From `send_all` up to `send_video_nal`: how bytes leave the server.
-/

namespace FH8852
namespace Rtsp

open CLib

def rtpMaxPayload : Nat := 1200
def fuAData : Nat := rtpMaxPayload - 2
def ptH264 : UInt8 := 96
def ptMetadata : UInt8 := 107
def nalSei : UInt8 := 6
def nalSps : UInt8 := 7
def nalPps : UInt8 := 8
def nalFuA : UInt8 := 28

/-- The bytes the socket takes from one call of `send_all`.  Once the answers
are used up the socket takes what is left. -/
def sendAll : List SendResult → Bytes → Bytes
  | _, [] => []
  | [], data => data
  | .eintr :: rest, data => sendAll rest data
  | .failed :: _, _ => []
  | .took n :: rest, data => if n = 0 then [] else data.take n ++ sendAll rest (data.drop n)

/-- The interleaved frame of a packet. -/
def frame (channel : UInt8) (data : Bytes) : Bytes :=
  36 :: channel :: UInt8.ofNat (data.length / 256) :: UInt8.ofNat data.length :: data

/-- `track_send`. -/
def trackSend (t : RtspTrack) (rtcp : Bool) (data : Bytes) (answers : List SendResult) : Via :=
  if t.interleaved then
    if 4 + 12 + rtpMaxPayload - 4 < data.length then .dropped
    else .interleaved (if rtcp then t.rtcpChannel else t.rtpChannel) answers
  else if rtcp then .udp t.rtcpFd t.rtcpAddr
  else .udp t.rtpFd t.rtpAddr

/-- The packet `rtp_send` builds. -/
def rtpPacket (t : RtspTrack) (pt : UInt8) (marker : Bool) (ts : UInt32) (payload : Bytes) :
    Bytes :=
  0x80 :: ((if marker then 0x80 else 0) ||| pt) ::
    (t.seq >>> 8).toUInt8 :: t.seq.toUInt8 ::
    (ts >>> 24).toUInt8 :: (ts >>> 16).toUInt8 :: (ts >>> 8).toUInt8 :: ts.toUInt8 ::
    (t.ssrc >>> 24).toUInt8 :: (t.ssrc >>> 16).toUInt8 :: (t.ssrc >>> 8).toUInt8 ::
    t.ssrc.toUInt8 :: payload

/-- `rtp_send`, with `payload` what it copies from `prefix` and `payload`. -/
def rtpSend (k : TrackId) (t : RtspTrack) (pt : UInt8) (marker : Bool) (ts : UInt32)
    (payload : Bytes) (answers : List SendResult) : RtspTrack × Out :=
  let pkt := rtpPacket t pt marker ts payload
  ({ t with seq := t.seq + 1 }, .packet k false pkt (trackSend t false pkt answers))

/-- The packet `send_bye` builds. -/
def byePacket (t : RtspTrack) : Bytes :=
  0x81 :: 0xcb :: 0x00 :: 0x05 ::
    (t.ssrc >>> 24).toUInt8 :: (t.ssrc >>> 16).toUInt8 :: (t.ssrc >>> 8).toUInt8 ::
    t.ssrc.toUInt8 :: 13 :: (ascii "session ended" ++ [0, 0])

def sendBye (k : TrackId) (t : RtspTrack) (answers : List SendResult) : Out :=
  .packet k true (byePacket t) (trackSend t true (byePacket t) answers)

/-! ## Metadata -/

def twoDigits (n : Nat) : Bytes := [UInt8.ofNat (48 + n / 10 % 10), UInt8.ofNat (48 + n % 10)]

/-- What `strftime` of `%Y-%m-%dT%H:%M:%SZ` leaves in a buffer of 32 bytes. -/
def utcText (tm : Tm) : Bytes :=
  let text := decimal tm.year ++ ascii "-" ++ twoDigits tm.mon ++ ascii "-" ++ twoDigits tm.mday ++
    ascii "T" ++ twoDigits tm.hour ++ ascii ":" ++ twoDigits tm.min ++ ascii ":" ++
    twoDigits tm.sec ++ ascii "Z"
  if text.length < 32 then text else []

def metadataXml (utc : Bytes) : Bytes :=
  ascii "<tt:MetadataStream xmlns:tt=\"http://www.onvif.org/ver10/schema\"><tt:VideoAnalytics>" ++
    ascii "<tt:Frame UtcTime=\"" ++ utc ++
    ascii "\"><tt:Extension><tt:MotionInCells Columns=\"22\" Rows=\"18\" " ++
    ascii "Cells=\"zwA=\"/></tt:Extension></tt:Frame></tt:VideoAnalytics></tt:MetadataStream>"

/-- The RTP timestamp of a time in microseconds, on a base. -/
def rtpTimestamp (us : UInt64) (base : UInt32) : UInt32 := ((us + base.toUInt64) * 9 / 100).toUInt32

def sendMetadata (srv : RtspConf) (io : MetadataIo) (t : RtspTrack) : RtspTrack × Out :=
  rtpSend .metadata t ptMetadata true (rtpTimestamp io.nowUs srv.metadataTsBase)
    (snprintf 512 (metadataXml (utcText io.utc))) io.answers

/-! ## Video -/

def nalType (nal : Bytes) : UInt8 := nal.headD 0 &&& 0x1f

/-- The loop of `send_video_nal` over the fragments of a NAL.  `n` counts the
packets, and `fu` is the second byte of `fu`. -/
def sendFragments (nal : Bytes) (ts : UInt32) (last : Bool) (answers : Nat → List SendResult) :
    (fuel n off : Nat) → (fu : UInt8) → RtspTrack → RtspTrack × List Out
  | 0, _, _, _, t => (t, [])
  | fuel + 1, n, off, fu, t =>
    if off < nal.length then
      let chunk := if nal.length - off < fuAData then nal.length - off else fuAData
      let fin := decide (off + chunk = nal.length)
      let fu := if fin then fu ||| 0x40 else fu
      let first := (nal.headD 0 &&& 0xe0) ||| nalFuA
      let sent := rtpSend .video t ptH264 (last && fin) ts
        (first :: fu :: (nal.drop off).take chunk) (answers n)
      let rest := sendFragments nal ts last answers fuel (n + 1) (off + fuAData) (fu &&& 0x7f)
        sent.1
      (rest.1, sent.2 :: rest.2)
    else (t, [])

/-- `send_video_nal`.  Every round of the loop moves at least one byte on, so
the length of the NAL bounds the rounds. -/
def sendVideoNal (t : RtspTrack) (nal : Bytes) (ts : UInt32) (last : Bool)
    (answers : Nat → List SendResult) : RtspTrack × List Out :=
  if nal.length ≤ rtpMaxPayload then
    let sent := rtpSend .video t ptH264 last ts nal (answers 0)
    (sent.1, [.videoNal nal, sent.2])
  else
    let sent := sendFragments nal ts last answers nal.length 0 1 (0x80 ||| nalType nal) t
    (sent.1, .videoNal nal :: sent.2)

end Rtsp
end FH8852
