import Mathlib.Data.List.FinRange
import FH8852.Rtsp.Request

/-!
# The server

`rtsp_server_poll`, `rtsp_server_push_nal` and the functions that set the
server up, and the runs a program makes of them.  A run is recorded: each thing
that happens to a client is a `Move`, with the client before and after it.
-/

namespace FH8852
namespace Rtsp

open CLib

/-! ## The record of a run -/

inductive Act where
  /-- `rtsp_server_poll` puts an accepted connection into the slot. -/
  | accept (fd : Int) (peer : SockAddr)
  /-- What `recv` stored, nothing if it would block. -/
  | recv (bytes : Bytes)
  /-- `recv` reported the end of the connection or an error. -/
  | hangup
  /-- A call of `handle_request`, with what it returned. -/
  | request (io : RequestIo) (req : Bytes) (done : Bool)
  /-- The check for a full buffer after `drain_requests`. -/
  | settle
  /-- A call of `send_metadata`. -/
  | metadata (io : MetadataIo)
  /-- A call of `rtsp_server_push_nal`, as far as it concerns the client. -/
  | push (p : Push)
  /-- `rtsp_server_close`. -/
  | close

structure Move where
  srv : RtspConf
  pre : RtspClient
  act : Act
  outs : List Out
  post : RtspClient

inductive Record where
  | move (i : Slot) (m : Move)
  /-- A descriptor the server opens or closes outside any slot. -/
  | server (o : Out)

/-- What happened to slot `i`. -/
def slotLog (i : Slot) (log : List Record) : List Move :=
  log.filterMap fun r =>
    match r with
    | .move j m => if j = i then some m else none
    | .server _ => none

/-! ## Receiving -/

/-- The request at the head of `rxbuf`, up to and with its blank line. -/
def nextRequest (c : RtspClient) : Option Bytes :=
  through blankLine (c.rxbuf.str sizeofRxbuf 0)

/-- The end of one round of `drain_requests`. -/
def consume (c : RtspClient) (n : Nat) : RtspClient :=
  { c with rxbuf := c.rxbuf.moveDown n (c.rxlen - n + 1), rxlen := c.rxlen - n }

/-- One round of `drain_requests` on a request at the head of `rxbuf`. -/
def requestMove (srv : RtspConf) (c : RtspClient) (io : RequestIo) (req : Bytes) : Move :=
  let r := handleRequest srv c io req
  ⟨srv, c, .request io req r.done, r.outs,
    if r.done then consume r.client req.length else r.client⟩

/-- `drain_requests`; `n` counts the calls of `handle_request`.  A request has
at least four bytes, so `fuel` need not exceed the size of `rxbuf`. -/
def drainRequests (srv : RtspConf) (io : Nat → RequestIo) :
    (fuel n : Nat) → RtspClient → RtspClient × List Move
  | 0, _, c => (c, [])
  | fuel + 1, n, c =>
    match nextRequest c with
    | none => (c, [])
    | some req =>
      let m := requestMove srv c (io n) req
      if (handleRequest srv c (io n) req).done then
        let rest := drainRequests srv io fuel (n + 1) m.post
        (rest.1, m :: rest.2)
      else (m.post, [m])

/-- What `recv` stores when it is asked for `want` bytes, or `none` if the
client is to be reset. -/
def recvBytes (r : RecvResult) (want : Nat) : Option Bytes :=
  match r with
  | .data bytes => if (bytes.take want).isEmpty then none else some (bytes.take want)
  | .wouldBlock => some []
  | .closed => none

def storeReceived (c : RtspClient) (bytes : Bytes) : RtspClient :=
  { c with
    rxbuf := (c.rxbuf.write c.rxlen bytes).write (c.rxlen + bytes.length) [0]
    rxlen := c.rxlen + bytes.length }

/-- The check for a full buffer. -/
def settle (c : RtspClient) : RtspClient :=
  if sizeofRxbuf - 1 ≤ c.rxlen then { c with rxlen := 0 } else c

def metadataIntervalUs : UInt64 := 1000000

def metadataDue (c : RtspClient) (now : UInt64) : Bool :=
  c.playing && (c.tracks .metadata).active && decide (c.nextMetadataUs ≤ now)

def metadataMove (srv : RtspConf) (io : MetadataIo) (c : RtspClient) : Move :=
  let sent := sendMetadata srv io (c.tracks .metadata)
  ⟨srv, c, .metadata io, [sent.2],
    { c.setTrack .metadata sent.1 with
      nextMetadataUs := c.nextMetadataUs + metadataIntervalUs }⟩

/-- One round of the loop of `rtsp_server_poll`. -/
def pollClient (srv : RtspConf) (now : UInt64) (io : ClientIo) (c : RtspClient) :
    RtspClient × List Move :=
  if c.tcpFd < 0 then (c, [])
  else match recvBytes io.recv (sizeofRxbuf - 1 - c.rxlen) with
    | none =>
      let reset := clientReset c
      (reset.1, [⟨srv, c, .hangup, reset.2, reset.1⟩])
    | some bytes =>
      let c₁ := storeReceived c bytes
      let drained := drainRequests srv io.request sizeofRxbuf 0 c₁
      let c₂ := settle drained.1
      let log := ⟨srv, c, .recv bytes, [], c₁⟩ :: drained.2 ++
        [⟨srv, drained.1, .settle, [], c₂⟩]
      if metadataDue c₂ now then
        let m := metadataMove srv io.metadata c₂
        (m.post, log ++ [m])
      else (c₂, log)

/-! ## The server's entry points -/

def RtspServer.setClient (srv : RtspServer) (i : Slot) (c : RtspClient) : RtspServer :=
  { srv with clients := fun j => if j = i then c else srv.clients j }

/-- One round of a loop over the clients. -/
def clientRound (f : Slot → RtspClient → RtspClient × List Move)
    (acc : RtspServer × List Record) (i : Slot) : RtspServer × List Record :=
  let r := f i (acc.1.clients i)
  (acc.1.setClient i r.1, acc.2 ++ r.2.map (Record.move i))

-- Proofs use the specification of the loop: unfolding it in a unification would
-- run it over all the slots.
/-- A loop over the clients. -/
@[irreducible] def forClients (f : Slot → RtspClient → RtspClient × List Move)
    (srv : RtspServer) : RtspServer × List Record :=
  (List.finRange rtspMaxClients).foldl (clientRound f) (srv, [])

def acceptedClient (fd : Int) (peer : SockAddr) : RtspClient :=
  { clientInit with tcpFd := fd, loopback := decide (peer.addr >>> 24 = 127) }

/-- The part of `rtsp_server_poll` before the loop. -/
def acceptClient (srv : RtspServer) (fd : Int) (peer : SockAddr) : RtspServer × List Record :=
  if fd < 0 then (srv, [])
  else match (List.finRange rtspMaxClients).find? fun i => (srv.clients i).tcpFd < 0 with
    | none => (srv, [.server (.opened fd), .server (.closed fd)])
    | some i =>
      let c := acceptedClient fd peer
      (srv.setClient i c,
        [.move i ⟨srv.toRtspConf, srv.clients i, .accept fd peer,
          .opened fd :: (clientReset (srv.clients i)).2, c⟩])

def rtspServerPoll (srv : RtspServer) (io : PollIo) : RtspServer × List Record :=
  let accepted := acceptClient srv io.acceptFd io.peer
  let polled := forClients
    (fun i => pollClient accepted.1.toRtspConf io.nowUs (io.client i)) accepted.1
  (polled.1, accepted.2 ++ polled.2)

def cacheParamSet (srv : RtspConf) (s : Nat) (nal : Bytes) : RtspConf :=
  if (nalType nal ≠ nalSps ∧ nalType nal ≠ nalPps) ∨ 128 < nal.length then srv
  else if nalType nal = nalSps then
    { srv with
      sps := fun j => if j = s then (srv.sps s).write 0 nal else srv.sps j
      spsLen := fun j => if j = s then nal.length else srv.spsLen j }
  else
    { srv with
      pps := fun j => if j = s then (srv.pps s).write 0 nal else srv.pps j
      ppsLen := fun j => if j = s then nal.length else srv.ppsLen j }

/-- A push that does not reach the client. -/
def skipPush (srv : RtspConf) (p : Push) (c : RtspClient) : RtspClient × List Move :=
  (c, [⟨srv, c, .push p, [], c⟩])

/-- One round of the loop of `rtsp_server_push_nal`. -/
def pushClient (srv : RtspConf) (p : Push) (answers : Nat → List SendResult) (c : RtspClient) :
    RtspClient × List Move :=
  if c.tcpFd < 0 ∨ !c.playing ∨ (c.streamId : Int) ≠ p.streamId ∨ !(c.tracks .video).active then
    skipPush srv p c
  else if c.waitingForSps ∧ nalType p.nal ≠ nalSps then skipPush srv p c
  else
    let sent := sendVideoNal (c.tracks .video) p.nal
      (rtpTimestamp p.ptsUs (srv.videoTsBase p.streamId.toNat)) p.last answers
    let c' := { c.setTrack .video sent.1 with waitingForSps := false }
    (c', [⟨srv, c, .push p, sent.2, c'⟩])

def rtspServerPushNal (srv : RtspServer) (p : Push) (answers : Slot → Nat → List SendResult) :
    RtspServer × List Record :=
  if p.streamId < 0 ∨ (rtspStreamCount : Int) ≤ p.streamId ∨ p.nal.isEmpty then
    forClients (fun _ => skipPush srv.toRtspConf p) srv
  else
    let conf := cacheParamSet srv.toRtspConf p.streamId.toNat p.nal
    let srv := { srv with toRtspConf := conf }
    if nalType p.nal = nalSei then forClients (fun _ => skipPush conf p) srv
    else forClients (fun i => pushClient conf p (answers i)) srv

/-- What `rtsp_server_init` gets from the world: its random numbers, the
listening socket, and whether `bind` and `listen` succeed. -/
structure InitIo where
  random : Nat → UInt32
  listenFd : Int
  bound : Bool

def rtspServerInit (io : InitIo) : Int × RtspServer × List Record :=
  let srv : RtspServer :=
    { listenFd := io.listenFd, requestIdr := false, clients := fun _ => clientInit
      streamEnabled := fun _ => false, fps := fun _ => 0
      sps := fun _ => Buf.zero, spsLen := fun _ => 0
      pps := fun _ => Buf.zero, ppsLen := fun _ => 0
      videoTsBase := fun s => randomU32 (io.random (2 * s)) (io.random (2 * s + 1))
      metadataTsBase := randomU32 (io.random 4) (io.random 5)
      authEnabled := false, authUser := [], authPass := [], shadowPath := [] }
  if io.listenFd < 0 then (-1, srv, [])
  else if io.bound then (0, srv, [.server (.opened io.listenFd)])
  else (-1, srv, [.server (.opened io.listenFd), .server (.closed io.listenFd)])

def rtspServerSetCredentials (srv : RtspServer) (user pass : Bytes) : RtspServer :=
  { srv with authUser := snprintf 32 user, authPass := snprintf 32 pass, authEnabled := true }

def rtspServerUseShadow (srv : RtspServer) (path : Bytes) : RtspServer :=
  { srv with shadowPath := snprintf 64 path, authEnabled := true }

def rtspServerEnableStream (srv : RtspServer) (id : Int) (fps : UInt32) : RtspServer :=
  if id < 0 ∨ (rtspStreamCount : Int) ≤ id then srv
  else
    { srv with
      streamEnabled := fun j => if j = id.toNat then true else srv.streamEnabled j
      fps := fun j => if j = id.toNat then fps else srv.fps j }

def rtspServerOnIdrRequest (srv : RtspServer) (set : Bool) : RtspServer :=
  { srv with requestIdr := set }

def rtspServerClose (srv : RtspServer) : RtspServer × List Record :=
  let closed := forClients (fun _ c =>
    ((clientReset c).1, [⟨srv.toRtspConf, c, .close, (clientReset c).2, (clientReset c).1⟩])) srv
  (closed.1, closed.2 ++ (closeFd srv.listenFd).map .server)

/-! ## Runs -/

inductive Event where
  | poll (io : PollIo)
  | pushNal (p : Push) (answers : Slot → Nat → List SendResult)
  | setCredentials (user pass : Bytes)
  | useShadow (path : Bytes)
  | enableStream (id : Int) (fps : UInt32)
  | onIdrRequest (set : Bool)
  | close

def Event.apply (srv : RtspServer) : Event → RtspServer × List Record
  | poll io => rtspServerPoll srv io
  | pushNal p answers => rtspServerPushNal srv p answers
  | setCredentials user pass => (rtspServerSetCredentials srv user pass, [])
  | useShadow path => (rtspServerUseShadow srv path, [])
  | enableStream id fps => (rtspServerEnableStream srv id fps, [])
  | onIdrRequest set => (rtspServerOnIdrRequest srv set, [])
  | close => rtspServerClose srv

def run (srv : RtspServer) : List Event → RtspServer × List Record
  | [] => (srv, [])
  | e :: rest =>
    let applied := e.apply srv
    let r := run applied.1 rest
    (r.1, applied.2 ++ r.2)

/-- The server after `rtsp_server_init`. -/
def initialServer (io : InitIo) : RtspServer := (rtspServerInit io).2.1

/-- What happened to slot `i` in the run that makes the calls `evs`. -/
def history (io : InitIo) (evs : List Event) (i : Slot) : List Move :=
  slotLog i (run (initialServer io) evs).2

end Rtsp
end FH8852
