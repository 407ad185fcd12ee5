import FH8852.Rtsp.Session

/-!
# Requests

`handle_request` and what it calls.  Each function returns what the source
returns, the client it leaves and what it did to the world.
-/

namespace FH8852
namespace Rtsp

open CLib

/-! ## Credentials -/

/-- One `fgets` into a buffer of `n + 1` bytes: the line and the rest. -/
def fgets : Nat → Bytes → Bytes × Bytes
  | 0, text => ([], text)
  | _, [] => ([], [])
  | n + 1, c :: rest =>
    if c = 10 then ([c], rest)
    else
      let (line, rest) := fgets n rest
      (c :: line, rest)

/-- The loop of `shadow_matches` over the lines of the file. -/
def shadowLoop (crypt : Bytes → Bytes → Option Bytes) (user password : Bytes) :
    (fuel : Nat) → Bytes → Bool
  | 0, _ => false
  | fuel + 1, text =>
    if text.isEmpty then false
    else
      let (line, rest) := fgets 255 text
      let line := cString line
      if (user ++ [58]).isPrefixOf line then
        let hash := (line.drop (user.length + 1)).takeWhile (· ≠ 58)
        if hash.isEmpty ∨ hash.head? = some 33 ∨ hash.head? = some 42 then false
        else crypt password hash == some hash
      else shadowLoop crypt user password fuel rest

def shadowMatches (shadow : Option Bytes) (crypt : Bytes → Bytes → Option Bytes)
    (userPass : Bytes) : Bool :=
  match strchr 58 userPass with
  | none => false
  | some colon =>
    let user := userPass.take (userPass.length - colon.length)
    if user.isEmpty then false
    else match shadow with
      | none => false
      | some text => shadowLoop crypt user (colon.drop 1) text.length text

def authChallenge : Bytes := ascii "WWW-Authenticate: Basic realm=\"WallyWorld\"\r\n"

/-- The check of `auth_ok` against the credentials: `none` if the request
passes, else the status it is refused with. -/
def credentialError (srv : RtspConf) (io : RequestIo) (req : Bytes) : Option Bytes :=
  match headerValue req (ascii "Authorization") 256 with
  | none => some (ascii "401 Authentication required")
  | some auth =>
    if (ascii "Basic ").isPrefixOf auth then
      let decoded := cString (base64Decode (auth.drop 6) 128)
      let expected := snprintf 80 (srv.authUser ++ ascii ":" ++ srv.authPass)
      let valid :=
        if srv.shadowPath.isEmpty then decoded == expected
        else shadowMatches io.shadow io.crypt decoded
      if valid then none else some (ascii "401 Invalid credentials")
    else some (ascii "401 Basic authentication required")

/-- `auth_ok`, with the status of its reply when it returns 0. -/
def authError (srv : RtspConf) (c : RtspClient) (io : RequestIo) (req : Bytes) : Option Bytes :=
  if !srv.authEnabled || c.loopback then none else credentialError srv io req

/-- `session_ok`, with the status of its reply when it returns 0. -/
def sessionError (c : RtspClient) (req : Bytes) : Option Bytes :=
  match headerValue req (ascii "Session") 64 with
  | none => some (ascii "400 Failed to parse `Session'")
  | some value =>
    if !c.hasSession || strtoul value ≠ c.sessionId.toNat then
      some (ascii "454 Session ID is invalid")
    else none

/-! ## Replies -/

/-- What a call of `handle_request` returns, leaves and does. -/
structure Outcome where
  done : Bool
  client : RtspClient
  outs : List Out

/-- Only a call of `reply`. -/
def replied (c : RtspClient) (io : RequestIo) (status cseq extra : Bytes) : Outcome :=
  ⟨true, c, [.reply (.plain status cseq extra) io.reply []]⟩

def streamEnabled (srv : RtspConf) (s : Nat) : Bool :=
  decide (s < rtspStreamCount) && srv.streamEnabled s

def handleDescribe (srv : RtspConf) (c : RtspClient) (io : RequestIo) (uri cseq : Bytes) :
    Outcome :=
  let s := streamOf uri
  if !streamEnabled srv s then replied c io (ascii "404 Stream not found") cseq []
  else if srv.spsLen s = 0 ∨ srv.ppsLen s = 0 then ⟨false, c, []⟩
  else
    let sps64 := base64Encode ((srv.sps s).read 0 (srv.spsLen s))
    let pps64 := base64Encode ((srv.pps s).read 0 (srv.ppsLen s))
    let sdp := sdpText s (srv.sps s) sps64 pps64 (srv.fps s)
    ⟨true, c, [.reply (.described cseq uri sdp) io.reply io.body]⟩

/-! ## SETUP -/

def randomU32 (first second : UInt32) : UInt32 := (first <<< 16) ^^^ second

/-- The end of `handle_setup`, once the track has its transport. -/
def setupTrack (c : RtspClient) (io : RequestIo) (k : TrackId) (t : RtspTrack) (s : Nat)
    (cseq transport : Bytes) (outs : List Out) : Outcome :=
  let t := { t with active := true, ssrc := randomU32 (io.random 0) (io.random 1), seq := 0 }
  let c := { c.setTrack k t with streamId := s }
  let c :=
    if !c.hasSession then
      { c with hasSession := true, sessionId := io.random 2 &&& 0x7fffffff }
    else c
  let extra := snprintf 256 (ascii "Transport: " ++ snprintf 160 transport ++
    ascii "\r\nSession: " ++ decimal c.sessionId.toNat ++ ascii ";timeout=60\r\n")
  ⟨true, c, outs ++ [.reply (.plain (ascii "200 OK") cseq extra) io.reply []]⟩

def tcpTransport (a b : Nat) : Bytes :=
  ascii "RTP/AVP/TCP;unicast;interleaved=" ++ decimal a ++ ascii "-" ++ decimal b

def udpTransport (a b : Nat) (port : Int) : Bytes :=
  ascii "RTP/AVP/UDP;unicast;client_port=" ++ decimal a ++ ascii "-" ++ decimal b ++
    ascii ";server_port=" ++ decimal port.toNat ++ ascii "-" ++ decimal (port + 1).toNat

def handleSetup (srv : RtspConf) (c : RtspClient) (io : RequestIo) (req uri cseq : Bytes) :
    Outcome :=
  let s := streamOf uri
  if !streamEnabled srv s then replied c io (ascii "404 Stream not found") cseq []
  else
    let transport := requestTransport req
    let k := trackOf uri
    if (strstr (ascii "TCP") transport).isSome then
      match strstr (ascii "interleaved=") transport with
      | none => replied c io (ascii "400 `interleaved' not found") cseq []
      | some p =>
        let pair := scanPair (p.drop 12)
        let closed := trackClose (c.tracks k)
        let t := { closed.1 with
          interleaved := true
          rtpChannel := UInt8.ofNat pair.1
          rtcpChannel := UInt8.ofNat pair.2 }
        setupTrack c io k t s cseq (tcpTransport pair.1 pair.2) closed.2
    else
      match strstr (ascii "client_port=") transport with
      | none => replied c io (ascii "400 `client_port' not found") cseq []
      | some p =>
        let pair := scanPair (p.drop 12)
        let closed := trackClose (c.tracks k)
        let bound := bindUdpPair io.attempt closed.1
        if bound.1 < 0 then
          ⟨true, c.setTrack k bound.2.1, closed.2 ++ bound.2.2 ++
            [.reply (.plain (ascii "500 Internal Server Error") cseq []) io.reply []]⟩
        else
          let t := { bound.2.1 with
            rtpAddr := { io.peer with port := UInt16.ofNat pair.1 }
            rtcpAddr := { io.peer with port := UInt16.ofNat pair.2 } }
          setupTrack c io k t s cseq (udpTransport pair.1 pair.2 bound.1) (closed.2 ++ bound.2.2)

/-! ## The other methods -/

def publicMethods : Bytes :=
  ascii "Public: OPTIONS, DESCRIBE, SETUP, PLAY, TEARDOWN, GET_PARAMETER\r\n"

/-- PLAY, once the session is known to be this connection's. -/
def playOk (srv : RtspConf) (c : RtspClient) (io : RequestIo) (cseq : Bytes) : Outcome :=
  let c := { c with playing := true, waitingForSps := true, nextMetadataUs := io.nowUs }
  ⟨true, c, .reply (.plain (ascii "200 OK") cseq (ascii "Range: npt=now-\r\n")) io.reply [] ::
    if srv.requestIdr then [.idr c.streamId] else []⟩

/-- The BYEs of a TEARDOWN. -/
def byes (c : RtspClient) (io : RequestIo) : List Out :=
  trackIds.flatMap fun k =>
    if (c.tracks k).active then [sendBye k (c.tracks k) (io.bye k)] else []

/-- TEARDOWN, once the session is known to be this connection's. -/
def teardownOk (c : RtspClient) (io : RequestIo) (cseq : Bytes) : Outcome :=
  let reset := sessionReset c
  ⟨true, reset.1, byes c io ++ .reply (.plain (ascii "200 OK") cseq []) io.reply [] :: reset.2⟩

def handleRequest (srv : RtspConf) (c : RtspClient) (io : RequestIo) (req : Bytes) : Outcome :=
  let method := requestMethod req
  let uri := requestUri req
  let cseq := requestCseq req
  match authError srv c io req with
  | some status => replied c io status cseq authChallenge
  | none =>
    if method = ascii "OPTIONS" then replied c io (ascii "200 OK") cseq publicMethods
    else if method = ascii "DESCRIBE" then handleDescribe srv c io uri cseq
    else if method = ascii "SETUP" then handleSetup srv c io req uri cseq
    else if method = ascii "PLAY" then
      match sessionError c req with
      | some status => replied c io status cseq []
      | none => playOk srv c io cseq
    else if method = ascii "GET_PARAMETER" then replied c io (ascii "200 OK") cseq []
    else if method = ascii "TEARDOWN" then
      match sessionError c req with
      | some status => replied c io status cseq []
      | none => teardownOk c io cseq
    else replied c io (ascii "405 Unknown method") cseq []

end Rtsp
end FH8852
