import FH8852.CLib.Buffer

/-!
# The server's data

The structures of `rtsp_server.h`, and the record of what the server does to
the world.  `RtspConf` is `rtsp_server_t` without its clients: handling one
client reads it and writes only that client.
-/

namespace FH8852
namespace Rtsp

open CLib

abbrev rtspMaxClients : Nat := 8
abbrev rtspStreamCount : Nat := 2

/-- `RTSP_TRACK_VIDEO` and `RTSP_TRACK_METADATA`, the indices of `tracks`. -/
inductive TrackId where
  | video
  | metadata
deriving DecidableEq

def trackIds : List TrackId := [.video, .metadata]

theorem mem_trackIds (k : TrackId) : k ∈ trackIds := by cases k <;> simp [trackIds]

/-- `struct sockaddr_in`, in host byte order. -/
structure SockAddr where
  addr : UInt32
  port : UInt16
deriving DecidableEq

structure RtspTrack where
  active : Bool
  interleaved : Bool
  rtpChannel : UInt8
  rtcpChannel : UInt8
  rtpFd : Int
  rtcpFd : Int
  rtpAddr : SockAddr
  rtcpAddr : SockAddr
  ssrc : UInt32
  seq : UInt16
deriving DecidableEq

def sizeofRxbuf : Nat := 4096

structure RtspClient where
  tcpFd : Int
  loopback : Bool
  streamId : Nat
  hasSession : Bool
  sessionId : UInt32
  playing : Bool
  waitingForSps : Bool
  nextMetadataUs : UInt64
  tracks : TrackId → RtspTrack
  rxbuf : Buf
  rxlen : Nat

abbrev Slot := Fin rtspMaxClients

structure RtspConf where
  listenFd : Int
  /-- Whether `request_idr` is set. -/
  requestIdr : Bool
  streamEnabled : Nat → Bool
  fps : Nat → UInt32
  sps : Nat → Buf
  spsLen : Nat → Nat
  pps : Nat → Buf
  ppsLen : Nat → Nat
  videoTsBase : Nat → UInt32
  metadataTsBase : UInt32
  authEnabled : Bool
  authUser : Bytes
  authPass : Bytes
  shadowPath : Bytes

structure RtspServer extends RtspConf where
  clients : Slot → RtspClient

namespace RtspClient

def setTrack (c : RtspClient) (k : TrackId) (t : RtspTrack) : RtspClient :=
  { c with tracks := fun j => if j = k then t else c.tracks j }

@[simp] theorem setTrack_tracks_self (c : RtspClient) (k : TrackId) (t : RtspTrack) :
    (c.setTrack k t).tracks k = t := by simp [setTrack]

@[simp] theorem setTrack_tracks_ne (c : RtspClient) {j k : TrackId} (t : RtspTrack) (h : j ≠ k) :
    (c.setTrack k t).tracks j = c.tracks j := by simp [setTrack, h]

@[simp] theorem setTrack_tcpFd (c : RtspClient) (k : TrackId) (t : RtspTrack) :
    (c.setTrack k t).tcpFd = c.tcpFd := rfl

@[simp] theorem setTrack_loopback (c : RtspClient) (k : TrackId) (t : RtspTrack) :
    (c.setTrack k t).loopback = c.loopback := rfl

@[simp] theorem setTrack_streamId (c : RtspClient) (k : TrackId) (t : RtspTrack) :
    (c.setTrack k t).streamId = c.streamId := rfl

@[simp] theorem setTrack_hasSession (c : RtspClient) (k : TrackId) (t : RtspTrack) :
    (c.setTrack k t).hasSession = c.hasSession := rfl

@[simp] theorem setTrack_sessionId (c : RtspClient) (k : TrackId) (t : RtspTrack) :
    (c.setTrack k t).sessionId = c.sessionId := rfl

@[simp] theorem setTrack_playing (c : RtspClient) (k : TrackId) (t : RtspTrack) :
    (c.setTrack k t).playing = c.playing := rfl

@[simp] theorem setTrack_waitingForSps (c : RtspClient) (k : TrackId) (t : RtspTrack) :
    (c.setTrack k t).waitingForSps = c.waitingForSps := rfl

@[simp] theorem setTrack_rxbuf (c : RtspClient) (k : TrackId) (t : RtspTrack) :
    (c.setTrack k t).rxbuf = c.rxbuf := rfl

@[simp] theorem setTrack_rxlen (c : RtspClient) (k : TrackId) (t : RtspTrack) :
    (c.setTrack k t).rxlen = c.rxlen := rfl

end RtspClient

/-! ## What the world answers -/

/-- The result of one `send` on the non-blocking connection. -/
inductive SendResult where
  | took (n : Nat)
  | eintr
  /-- `EAGAIN` or another error. -/
  | failed
deriving DecidableEq

/-- One round of the loop of `bind_udp_pair`: the results of the two `socket`
calls, of the two `bind` calls, and the port `getsockname` reports. -/
structure UdpAttempt where
  rtp : Int
  rtcp : Int
  bindRtp : Bool
  port : Option UInt16
  bindRtcp : Bool
deriving DecidableEq

/-- What one call of `handle_request` gets from the world. -/
structure RequestIo where
  /-- The `send`s of the reply, or of the head of a DESCRIBE reply. -/
  reply : List SendResult
  /-- The `send`s of the body of a DESCRIBE reply. -/
  body : List SendResult
  bye : TrackId → List SendResult
  /-- The results of `random`, as `uint32_t`. -/
  random : Nat → UInt32
  attempt : Nat → UdpAttempt
  /-- The address `getpeername` writes. -/
  peer : SockAddr
  nowUs : UInt64
  /-- The contents of the shadow file, if it can be opened. -/
  shadow : Option Bytes
  crypt : Bytes → Bytes → Option Bytes

/-- The fields of `struct tm` that `send_metadata` prints, the year in full. -/
structure Tm where
  year : Nat
  mon : Nat
  mday : Nat
  hour : Nat
  min : Nat
  sec : Nat
deriving DecidableEq

/-- What one call of `send_metadata` gets from the world. -/
structure MetadataIo where
  utc : Tm
  nowUs : UInt64
  answers : List SendResult

inductive RecvResult where
  | data (bytes : Bytes)
  | wouldBlock
  /-- The peer closed the connection, or an error other than `EAGAIN`. -/
  | closed
deriving DecidableEq

/-- What one client's turn in `rtsp_server_poll` gets from the world; `request n`
is for its call number `n` of `handle_request`. -/
structure ClientIo where
  recv : RecvResult
  request : Nat → RequestIo
  metadata : MetadataIo

structure PollIo where
  /-- The result of `accept`, and the peer address it writes. -/
  acceptFd : Int
  peer : SockAddr
  nowUs : UInt64
  client : Slot → ClientIo

/-- The arguments of `rtsp_server_push_nal`. -/
structure Push where
  streamId : Int
  nal : Bytes
  ptsUs : UInt64
  last : Bool
deriving DecidableEq

/-! ## What the server does to the world -/

/-- The two ways the server composes an RTSP reply: `reply`, and the reply of
`handle_describe` with its body. -/
inductive Reply where
  | plain (status cseq extra : Bytes)
  | described (cseq uri sdp : Bytes)
deriving DecidableEq

/-- How `track_send` sends a packet. -/
inductive Via where
  /-- In a frame on the RTSP connection; the answers are those of its `send`s. -/
  | interleaved (channel : UInt8) (answers : List SendResult)
  | udp (fd : Int) (addr : SockAddr)
  /-- Not at all: the packet is too long for the frame. -/
  | dropped
deriving DecidableEq

inductive Out where
  /-- `head` and `body` are the answers of the `send`s of the two parts. -/
  | reply (r : Reply) (head body : List SendResult)
  | packet (k : TrackId) (rtcp : Bool) (data : Bytes) (via : Via)
  /-- A call of `send_video_nal`. -/
  | videoNal (nal : Bytes)
  /-- A call of the `request_idr` callback. -/
  | idr (streamId : Nat)
  | opened (fd : Int)
  | closed (fd : Int)
deriving DecidableEq

end Rtsp
end FH8852
