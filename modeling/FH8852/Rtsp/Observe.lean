import FH8852.Rtsp.Turn

/-!
# What a run shows

What an observer of the server sees of a move, and the windows of a run that
properties speak of.  `Turn.session` says for each kind of move what it does to
the session.
-/

namespace FH8852
namespace Rtsp

open CLib History

/-! ## Moves -/

inductive Kind where
  /-- A connection is accepted into the slot. -/
  | accept
  /-- The connection ends. -/
  | ended
  /-- A SETUP of the track is answered 200. -/
  | setup (k : TrackId)
  /-- A SETUP of the track is answered 500. -/
  | setupFailed (k : TrackId)
  /-- A PLAY is answered 200. -/
  | play
  /-- A TEARDOWN is answered 200. -/
  | teardown
  | other
deriving DecidableEq

def Out.reply? : Out → Option Reply
  | .reply r _ _ => some r
  | _ => none

def Out.rtp? (k : TrackId) : Out → Option Bytes
  | .packet j false data _ => if j = k then some data else none
  | _ => none

def Out.rtcp? (k : TrackId) : Out → Option Bytes
  | .packet j true data _ => if j = k then some data else none
  | _ => none

def Out.videoNal? : Out → Option Bytes
  | .videoNal nal => some nal
  | _ => none

namespace Move

def replies (m : Move) : List Reply := m.outs.filterMap Out.reply?

/-- The RTP packets the move sends on a track. -/
def rtp (k : TrackId) (m : Move) : List Bytes := m.outs.filterMap (Out.rtp? k)

/-- The RTCP packets the move sends on a track. -/
def rtcp (k : TrackId) (m : Move) : List Bytes := m.outs.filterMap (Out.rtcp? k)

/-- The request the move handles, empty if it handles none. -/
def req (m : Move) : Bytes :=
  match m.act with
  | .request _ req _ => req
  | _ => []

def kind (m : Move) : Kind :=
  match m.act with
  | .accept _ _ => .accept
  | .hangup => .ended
  | .close => .ended
  | .request _ req _ =>
    if m.replies.any Reply.isOk then
      if requestMethod req = ascii "SETUP" then .setup (trackOf (requestUri req))
      else if requestMethod req = ascii "PLAY" then .play
      else if requestMethod req = ascii "TEARDOWN" then .teardown
      else .other
    else if requestMethod req = ascii "SETUP" ∧
        m.replies.any fun r => r.status.take 3 == ascii "500" then
      .setupFailed (trackOf (requestUri req))
    else .other
  | _ => .other

/-- The stream the URI of the request names. -/
def stream (m : Move) : Nat := streamOf (requestUri m.req)

/-- The NALs the move hands to `send_video_nal`. -/
def sentNals (m : Move) : List Bytes := m.outs.filterMap Out.videoNal?

/-- The call of `rtsp_server_push_nal` the move belongs to. -/
def pushed (m : Move) : Option Push :=
  match m.act with
  | .push p => some p
  | _ => none

/-- The track a SETUP is about that passes every check and gets its ports. -/
def grants (m : Move) : Option TrackId :=
  match m.act with
  | .request io req _ =>
    if admitsSetup m.srv m.pre io req && !(asksUdp req && lacksPorts io) then
      some (trackOf (requestUri req))
    else none
  | _ => none

/-- The move handles a SETUP, a PLAY or a TEARDOWN, whatever becomes of it. -/
def asksSession (m : Move) : Bool := sessionMethods.contains (requestMethod m.req)

end Move

/-- The connection or the session ends, or another connection is accepted. -/
def Kind.endsSession : Kind → Bool
  | .accept => true
  | .ended => true
  | .teardown => true
  | _ => false

def Kind.isSetup : Kind → Bool
  | .setup _ => true
  | _ => false

/-! ## Windows -/

/-- From the last SETUP of the track answered 200 until the track is closed. -/
def trackWindow (k : TrackId) (l : List Move) : Option (Move × List Move) :=
  window (fun m => m.kind == .setup k)
    (fun m => m.kind == .setupFailed k || m.kind.endsSession) l

/-- From the last SETUP answered 200 until the session ends. -/
def sessionWindow (l : List Move) : Option (Move × List Move) :=
  window (fun m => m.kind.isSetup) (fun m => m.kind.endsSession) l

/-- From the last PLAY answered 200 until the session ends. -/
def playWindow (l : List Move) : Option (Move × List Move) :=
  window (fun m => m.kind == .play) (fun m => m.kind.endsSession) l

/-- From the last PLAY answered 200 until another SETUP, PLAY or TEARDOWN or the
end of the connection. -/
def playedWindow (l : List Move) : Option (Move × List Move) :=
  window (fun m => m.kind == .play)
    (fun m => m.asksSession || m.kind == .accept || m.kind == .ended) l

/-- From the last TEARDOWN answered 200 until a move of a kind that `stop`s, on
the same connection. -/
def afterTeardown (stop : Kind → Bool) (l : List Move) : Option (Move × List Move) :=
  window (fun m => m.kind == .teardown)
    (fun m => stop m.kind || m.kind == .accept || m.kind == .ended) l

/-- The connection of the slot: its accept and the moves since. -/
def connection (l : List Move) : Option (Move × List Move) :=
  window (fun m => m.kind == .accept) (fun m => m.kind == .ended) l

/-! ## Runs -/

/-- The first `n` moves of a slot in a run. -/
def historyAt (io : InitIo) (evs : List Event) (i : Slot) (n : Nat) : List Move :=
  (history io evs i).take n

/-- The client in a slot after its first `n` moves. -/
def clientAt (io : InitIo) (evs : List Event) (i : Slot) (n : Nat) : RtspClient :=
  final Move.post clientInit (historyAt io evs i n)

theorem historyAt_turns (io : InitIo) (evs : List Event) (i : Slot) (n : Nat) :
    Turns clientInit (historyAt io evs i n) (clientAt io evs i n) := by
  obtain ⟨c, hc⟩ := (history_chain io evs i).of_isPrefix (List.take_prefix n _)
  have hfinal := hc.eq_final
  subst hfinal
  exact hc

/-- Every move of a run is a turn of the client its earlier moves lead to. -/
theorem history_turn (io : InitIo) (evs : List Event) (i : Slot) (n : Nat)
    (hn : n < (history io evs i).length) :
    Turns clientInit (historyAt io evs i n) (history io evs i)[n].pre ∧
      Turn (history io evs i)[n] := by
  have hturns := historyAt_turns io evs i (n + 1)
  have happend : historyAt io evs i (n + 1) = historyAt io evs i n ++ [(history io evs i)[n]] :=
    List.take_succ_eq_append_getElem hn
  rw [happend] at hturns
  obtain ⟨hchain, hturn, -⟩ := hturns.of_snoc
  exact ⟨hchain, hturn⟩

/-! ## A small world

Runs for the examples: one client in slot 0, on a network where every call
succeeds. -/

def sampleInit : InitIo := ⟨fun _ => 0, 3, true⟩

def sampleRequestIo : RequestIo :=
  { reply := [], body := [], bye := fun _ => []
    random := fun n => UInt32.ofNat (n + 7)
    attempt := fun _ => ⟨10, 11, true, some 40000, true⟩
    peer := ⟨0x0a000001, 5000⟩, nowUs := 0, shadow := none, crypt := fun _ _ => none }

def sampleClientIo (bytes : Bytes) : ClientIo :=
  { recv := if bytes = [] then .wouldBlock else .data bytes
    request := fun _ => sampleRequestIo
    metadata := ⟨⟨2026, 1, 2, 3, 4, 5⟩, 0, []⟩ }

/-- A poll that may accept a connection, and that delivers `bytes` to slot 0. -/
def samplePoll (fd : Int) (bytes : Bytes) : PollIo :=
  { acceptFd := fd, peer := ⟨0x0a000001, 5000⟩, nowUs := 0
    client := fun i => sampleClientIo (if i = 0 then bytes else []) }

def samplePush (stream : Int) (nal : Bytes) : Event :=
  .pushNal ⟨stream, nal, 0, true⟩ fun _ _ => []

def sampleRequest (method uri : String) (cseq : Nat) (lines : String) : Bytes :=
  ascii method ++ ascii " " ++ ascii uri ++ ascii " RTSP/1.0\r\nCSeq: " ++ decimal cseq ++ crlf ++
    ascii lines ++ crlf

def sampleSetup (uri : String) : Bytes :=
  sampleRequest "SETUP" uri 1 "Transport: RTP/AVP/TCP;unicast;interleaved=0-1\r\n"

def samplePlay : Bytes := sampleRequest "PLAY" "rtsp://h/stream=0" 2 "Session: 9\r\n"

def sampleTeardown : Bytes :=
  sampleRequest "TEARDOWN" "rtsp://h/stream=0" 3 "Session: 9;timeout=60\r\n"

/-- A session of both tracks, from its connection to its TEARDOWN. -/
def sampleRun : List Event :=
  [.enableStream 0 25,
    .poll (samplePoll 5 (sampleSetup "rtsp://h/stream=0/video" ++
      sampleSetup "rtsp://h/stream=0/metadata" ++ samplePlay)),
    samplePush 0 [0x67, 1, 2], samplePush 0 [0x41, 3],
    .poll (samplePoll (-1) sampleTeardown)]

/-! ## What a move does to the session -/

/-- The two clients agree in all that a request may change. -/
structure SameSession (c c' : RtspClient) : Prop where
  hasSession : c'.hasSession = c.hasSession
  sessionId : c'.sessionId = c.sessionId
  playing : c'.playing = c.playing
  waitingForSps : c'.waitingForSps = c.waitingForSps
  streamId : c'.streamId = c.streamId
  tracks : c'.tracks = c.tracks

def RepliesOnly (outs : List Out) : Prop := ∀ o ∈ outs, ∃ r head body, o = .reply r head body

/-- The header lines a SETUP answered 200 ends with when it issues the id. -/
def sessionLine (id : UInt32) : Bytes :=
  ascii "\r\nSession: " ++ decimal id.toNat ++ ascii ";timeout=60\r\n"

inductive SessionTurn (m : Move) : Prop
  | accept (fd : Int) (peer : SockAddr) (hkind : m.kind = .accept)
      (hact : m.act = .accept fd peer) (hfd : 0 ≤ fd)
      (hpost : m.post = acceptedClient fd peer) (houts : SocketsOnly m.outs)
  | ended (hkind : m.kind = .ended) (hpost : m.post = clientInit) (houts : SocketsOnly m.outs)
  | quiet (hkind : m.kind = .other) (hsame : SameSession m.pre m.post)
      (hfd : m.post.tcpFd = m.pre.tcpFd) (houts : RepliesOnly m.outs)
  | setup (io : RequestIo) (k : TrackId) (t : RtspTrack) (hkind : m.kind = .setup k)
      (hact : m.act = .request io m.req true)
      (hadmits : admitsSetup m.srv m.pre io m.req = true)
      (hports : (asksUdp m.req && lacksPorts io) = false)
      (hfd : m.post.tcpFd = m.pre.tcpFd) (hopen : 0 ≤ m.pre.tcpFd)
      (hactive : t.active = true) (hseq : t.seq = 0)
      (hstream : m.stream < rtspStreamCount)
      (hsame : SameSession
        { m.pre.setTrack k t with
          hasSession := true, sessionId := m.post.sessionId, streamId := m.stream } m.post)
      (hid : m.pre.hasSession = true → m.post.sessionId = m.pre.sessionId)
      (houts : ∃ sockets cseq lines head, SocketsOnly sockets ∧
        m.outs = sockets ++ [.reply (.plain (ascii "200 OK") cseq lines) head []] ∧
        sessionLine m.post.sessionId <:+ lines)
  | setupFailed (k : TrackId) (t : RtspTrack) (hkind : m.kind = .setupFailed k)
      (hfd : m.post.tcpFd = m.pre.tcpFd) (hactive : t.active = false)
      (hsame : SameSession (m.pre.setTrack k t) m.post)
      (houts : ∃ sockets replies, SocketsOnly sockets ∧ RepliesOnly replies ∧
        m.outs = sockets ++ replies)
  | play (hkind : m.kind = .play) (hfd : m.post.tcpFd = m.pre.tcpFd)
      (hopen : 0 ≤ m.pre.tcpFd) (hsession : sessionError m.pre m.req = none)
      (hsame : SameSession { m.pre with playing := true, waitingForSps := true } m.post)
      (houts : ∃ r head, m.outs = [.reply r head []] ∨
        m.outs = [.reply r head [], .idr m.pre.streamId])
  | teardown (io : RequestIo) (hkind : m.kind = .teardown) (hfd : m.post.tcpFd = m.pre.tcpFd)
      (hopen : 0 ≤ m.pre.tcpFd) (hsession : sessionError m.pre m.req = none)
      (hsame : SameSession (sessionReset m.pre).1 m.post)
      (houts : m.outs = (teardownOk m.pre io (requestCseq m.req)).outs)
  | metadata (io : MetadataIo) (hkind : m.kind = .other) (hact : m.act = .metadata io)
      (hfd : m.post.tcpFd = m.pre.tcpFd) (hopen : 0 ≤ m.pre.tcpFd)
      (hplaying : m.pre.playing = true) (hactive : (m.pre.tracks .metadata).active = true)
      (hsame : SameSession (m.pre.setTrack .metadata
        (sendMetadata m.srv io (m.pre.tracks .metadata)).1) m.post)
      (houts : m.outs = [(sendMetadata m.srv io (m.pre.tracks .metadata)).2])
  | push (p : Push) (ts : UInt32) (answers : Nat → List SendResult) (hkind : m.kind = .other)
      (hact : m.act = .push p)
      (hfd : m.post.tcpFd = m.pre.tcpFd) (hopen : 0 ≤ m.pre.tcpFd)
      (hplaying : m.pre.playing = true) (hstream : (m.pre.streamId : Int) = p.streamId)
      (hactive : (m.pre.tracks .video).active = true)
      (hnal : p.nal ≠ []) (hsei : nalType p.nal ≠ nalSei)
      (hsps : m.pre.waitingForSps = true → nalType p.nal = nalSps)
      (hsame : SameSession
        { m.pre.setTrack .video (sendVideoNal (m.pre.tracks .video) p.nal ts p.last answers).1 with
          waitingForSps := false } m.post)
      (houts : m.outs = (sendVideoNal (m.pre.tracks .video) p.nal ts p.last answers).2)

section Inversion

variable {m : Move} (h : SessionTurn m)

include h

theorem SessionTurn.accept_inv (hkind : m.kind = .accept) :
    ∃ fd peer, m.act = .accept fd peer ∧ m.post = acceptedClient fd peer ∧ SocketsOnly m.outs := by
  cases h with
  | accept fd peer _ hact _ hpost houts => exact ⟨fd, peer, hact, hpost, houts⟩
  | ended hk | quiet hk | setup _ _ _ hk | setupFailed _ _ hk | play hk | teardown _ hk
  | metadata _ hk | push _ _ _ hk =>
      rw [hkind] at hk
      cases hk

theorem SessionTurn.setup_inv {k : TrackId} (hkind : m.kind = .setup k) :
    ∃ io t, m.act = .request io m.req true ∧ admitsSetup m.srv m.pre io m.req = true ∧
      (asksUdp m.req && lacksPorts io) = false ∧ t.active = true ∧ t.seq = 0 ∧
      SameSession { m.pre.setTrack k t with
        hasSession := true, sessionId := m.post.sessionId, streamId := m.stream } m.post ∧
      ∃ sockets cseq lines head, SocketsOnly sockets ∧
        m.outs = sockets ++ [.reply (.plain (ascii "200 OK") cseq lines) head []] ∧
        sessionLine m.post.sessionId <:+ lines := by
  cases h with
  | setup io j t hk hact hadmits hports _ _ hactive hseq _ hsame _ houts =>
      rw [hkind] at hk
      cases hk
      exact ⟨io, t, hact, hadmits, hports, hactive, hseq, hsame, houts⟩
  | accept _ _ hk | ended hk | quiet hk | setupFailed _ _ hk | play hk | teardown _ hk
  | metadata _ hk | push _ _ _ hk =>
      rw [hkind] at hk
      cases hk

theorem SessionTurn.teardown_inv (hkind : m.kind = .teardown) :
    ∃ io, sessionError m.pre m.req = none ∧
      m.outs = (teardownOk m.pre io (requestCseq m.req)).outs := by
  cases h with
  | teardown io _ _ _ hsession _ houts => exact ⟨io, hsession, houts⟩
  | accept _ _ hk | ended hk | quiet hk | setup _ _ _ hk | setupFailed _ _ hk | play hk
  | metadata _ hk | push _ _ _ hk =>
      rw [hkind] at hk
      cases hk

end Inversion

theorem SameSession.refl (c : RtspClient) : SameSession c c := ⟨rfl, rfl, rfl, rfl, rfl, rfl⟩

theorem repliesOnly_nil : RepliesOnly [] := fun _ ho => absurd ho List.not_mem_nil

theorem repliesOnly_singleton (r : Reply) (head body : List SendResult) :
    RepliesOnly [.reply r head body] := by
  intro o ho
  rw [List.mem_singleton.mp ho]
  exact ⟨r, head, body, rfl⟩

theorem RepliesOnly.filterMap_eq_nil {α : Type} {f : Out → Option α} {outs : List Out}
    (h : RepliesOnly outs) (hf : ∀ r head body, f (.reply r head body) = none) :
    outs.filterMap f = [] := by
  refine List.filterMap_eq_nil_iff.mpr fun o ho => ?_
  obtain ⟨r, head, body, rfl⟩ := h o ho
  exact hf r head body

theorem byes_filterMap_eq_nil {α : Type} {f : Out → Option α}
    (hf : ∀ k data via, f (.packet k true data via) = none) (c : RtspClient) (io : RequestIo) :
    (byes c io).filterMap f = [] := by
  refine List.filterMap_eq_nil_iff.mpr fun o ho => ?_
  obtain ⟨k, _, ho⟩ := List.mem_flatMap.mp ho
  split at ho
  · rw [List.mem_singleton.mp ho]
    exact hf k _ _
  · cases ho

theorem SocketsOnly.replies {outs : List Out} (h : SocketsOnly outs) :
    outs.filterMap Out.reply? = [] := h.filterMap_eq_nil fun _ => ⟨rfl, rfl⟩

theorem byes_replies (c : RtspClient) (io : RequestIo) :
    (byes c io).filterMap Out.reply? = [] := byes_filterMap_eq_nil (fun _ _ _ => rfl) c io

theorem setupTrack_replies (c : RtspClient) (io : RequestIo) (k : TrackId) (t : RtspTrack)
    (s : Nat) (cseq transport : Bytes) {outs : List Out} (houts : SocketsOnly outs) :
    ∃ lines, (setupTrack c io k t s cseq transport outs).outs.filterMap Out.reply? =
      [.plain (ascii "200 OK") cseq lines] := by
  obtain ⟨lines, hlines⟩ : ∃ lines, (setupTrack c io k t s cseq transport outs).outs =
      outs ++ [.reply (.plain (ascii "200 OK") cseq lines) io.reply []] := ⟨_, rfl⟩
  refine ⟨lines, ?_⟩
  rw [hlines, List.filterMap_append, houts.replies]
  rfl

theorem playOk_replies (srv : RtspConf) (c : RtspClient) (io : RequestIo) (cseq : Bytes) :
    (playOk srv c io cseq).outs.filterMap Out.reply? =
      [.plain (ascii "200 OK") cseq (ascii "Range: npt=now-\r\n")] := by
  simp only [playOk]
  split <;> rfl

theorem teardownOk_replies (c : RtspClient) (io : RequestIo) (cseq : Bytes) :
    (teardownOk c io cseq).outs.filterMap Out.reply? = [.plain (ascii "200 OK") cseq []] := by
  simp only [teardownOk, List.filterMap_append, List.filterMap_cons, byes_replies,
    (sessionReset_socketsOnly c).replies]
  rfl

/-- A move that changes the session handles a request of a session method. -/
theorem Move.asksSession_of_kind {m : Move} (haccept : m.kind ≠ .accept)
    (hended : m.kind ≠ .ended) (hother : m.kind ≠ .other) : m.asksSession = true := by
  cases hact : m.act with
  | request io req done =>
      have hreq : m.req = req := by rw [Move.req, hact]
      simp only [Move.asksSession, hreq, List.contains_iff_mem, sessionMethods, List.mem_cons]
      simp only [Move.kind, hact] at hother
      by_contra hmethod
      simp only [not_or] at hmethod
      obtain ⟨hsetup, hplay, hteardown, -⟩ := hmethod
      simp [hsetup, hplay, hteardown] at hother
  | accept => simp [Move.kind, hact] at haccept
  | hangup | close => simp [Move.kind, hact] at hended
  | recv | settle | metadata | push => simp [Move.kind, hact] at hother

/-- No refusal reads as a success or as a failed SETUP. -/
theorem refusal_code {status : Bytes} (h : status ∈ authRefusals ∨ status ∈ refusals) :
    okStatus status = false ∧ (status.take 3 == ascii "500") = false := by
  have hall : ∀ s ∈ authRefusals ++ refusals,
      okStatus s = false ∧ (s.take 3 == ascii "500") = false := by decide
  exact hall status (List.mem_append.mpr h)

section Request

variable {srv : RtspConf} {c post : RtspClient} {io : RequestIo} {req : Bytes} {done : Bool}

theorem kind_refusal {status cseq extra : Bytes} {a b : List SendResult}
    (h : status ∈ authRefusals ∨ status ∈ refusals) :
    Move.kind ⟨srv, c, .request io req done, [.reply (.plain status cseq extra) a b], post⟩ =
      .other := by
  obtain ⟨hok, hfailed⟩ := refusal_code h
  simp [Move.kind, Move.replies, Out.reply?, Reply.isOk, Reply.status, hok, hfailed]

theorem kind_answered {outs : List Out} {r : Reply} (houts : outs.filterMap Out.reply? = [r])
    (hok : r.isOk = true) :
    Move.kind ⟨srv, c, .request io req done, outs, post⟩ =
      if requestMethod req = ascii "SETUP" then .setup (trackOf (requestUri req))
      else if requestMethod req = ascii "PLAY" then .play
      else if requestMethod req = ascii "TEARDOWN" then .teardown
      else .other := by
  simp [Move.kind, Move.replies, houts, hok]

end Request

/-- The further lines of a SETUP reply are not cut off. -/
theorem setupText_eq (transport : Bytes) (id : UInt32) :
    snprintf 256 (ascii "Transport: " ++ snprintf 160 transport ++
      ascii "\r\nSession: " ++ decimal id.toNat ++ ascii ";timeout=60\r\n") =
      (ascii "Transport: " ++ snprintf 160 transport) ++ sessionLine id := by
  have hid : (decimal id.toNat).length ≤ 10 :=
    decimal_length_le (by omega) (id.toNat_lt.trans (by decide))
  have htransport : (snprintf 160 transport).length ≤ 159 := List.length_take_le _ _
  have hlen₁ : (ascii "Transport: ").length = 11 := by decide
  have hlen₂ : (ascii "\r\nSession: ").length = 11 := by decide
  have hlen₃ : (ascii ";timeout=60\r\n").length = 13 := by decide
  rw [snprintf, List.take_of_length_le]
  · simp only [sessionLine, List.append_assoc]
  · simp only [List.length_append]
    omega

theorem sessionLine_suffix (transport : Bytes) (id : UInt32) :
    sessionLine id <:+ snprintf 256 (ascii "Transport: " ++ snprintf 160 transport ++
      ascii "\r\nSession: " ++ decimal id.toNat ++ ascii ";timeout=60\r\n") := by
  rw [setupText_eq]
  exact List.suffix_append _ _

theorem streamEnabled_lt {srv : RtspConf} {s : Nat} (h : streamEnabled srv s = true) :
    s < rtspStreamCount := by
  simp only [streamEnabled, Bool.and_eq_true, decide_eq_true_eq] at h
  exact h.1

theorem setupTrack_session (c : RtspClient) (io : RequestIo) (k : TrackId) (t : RtspTrack)
    (s : Nat) (cseq transport : Bytes) (outs : List Out) :
    let r := (setupTrack c io k t s cseq transport outs).client
    let t' := { t with
      active := true, ssrc := randomU32 (io.random 0) (io.random 1), seq := 0 }
    SameSession { c.setTrack k t' with
        hasSession := true, sessionId := r.sessionId, streamId := s } r ∧
      r.tcpFd = c.tcpFd ∧ (c.hasSession = true → r.sessionId = c.sessionId) := by
  by_cases hsession : c.hasSession = true
  · simp only [setupTrack, RtspClient.setTrack_hasSession, hsession, Bool.not_true,
      Bool.false_eq_true, if_false]
    exact ⟨⟨rfl, rfl, rfl, rfl, rfl, rfl⟩, rfl, fun _ => rfl⟩
  · simp only [setupTrack, RtspClient.setTrack_hasSession, hsession, Bool.not_false, if_true]
    exact ⟨⟨rfl, rfl, rfl, rfl, rfl, rfl⟩, rfl, fun h => absurd h (by decide)⟩

section Setup

variable {srv : RtspConf} {c : RtspClient} {io : RequestIo} {req : Bytes} {outs : List Out}

theorem setup_session {t : RtspTrack} {transport : Bytes} (hopen : 0 ≤ c.tcpFd)
    (hadmits : admitsSetup srv c io req = true) (hports : (asksUdp req && lacksPorts io) = false)
    (houts : SocketsOnly outs) {r : Outcome}
    (hr : r = setupTrack c io (trackOf (requestUri req)) t (streamOf (requestUri req))
      (requestCseq req) transport outs) :
    SessionTurn ⟨srv, c, .request io req r.done, r.outs,
      if r.done then consume r.client req.length else r.client⟩ := by
  subst hr
  have hadmitted := hadmits
  simp only [admitsSetup, Bool.and_eq_true, beq_iff_eq] at hadmits
  obtain ⟨⟨⟨-, hmethod⟩, henabled⟩, -⟩ := hadmits
  obtain ⟨hsame, hfd, hid⟩ := setupTrack_session c io (trackOf (requestUri req)) t
    (streamOf (requestUri req)) (requestCseq req) transport outs
  refine .setup io (trackOf (requestUri req))
    { t with active := true, ssrc := randomU32 (io.random 0) (io.random 1), seq := 0 }
    ?_ rfl hadmitted hports hfd hopen rfl rfl (streamEnabled_lt henabled) ?_ hid
    ⟨outs, _, _, _, houts, rfl, sessionLine_suffix _ _⟩
  · obtain ⟨lines, hreplies⟩ := setupTrack_replies c io (trackOf (requestUri req)) t
      (streamOf (requestUri req)) (requestCseq req) transport houts
    exact (kind_answered hreplies rfl).trans (if_pos hmethod)
  · exact ⟨hsame.hasSession, rfl, hsame.playing, hsame.waitingForSps, hsame.streamId,
      hsame.tracks⟩

theorem setupFailed_session (hadmits : admitsSetup srv c io req = true) (houts : SocketsOnly outs) :
    SessionTurn ⟨srv, c, .request io req true,
      outs ++
        [.reply (.plain (ascii "500 Internal Server Error") (requestCseq req) []) io.reply []],
      consume (c.setTrack (trackOf (requestUri req)) (bindUdpPair io.attempt closedTrack).2.1)
        req.length⟩ := by
  simp only [admitsSetup, Bool.and_eq_true, beq_iff_eq] at hadmits
  obtain ⟨⟨⟨-, hmethod⟩, -⟩, -⟩ := hadmits
  refine .setupFailed (trackOf (requestUri req)) (bindUdpPair io.attempt closedTrack).2.1
    ?_ rfl (bindUdpPair_active _ _) ⟨rfl, rfl, rfl, rfl, rfl, rfl⟩
    ⟨outs, _, houts, repliesOnly_singleton _ _ _, rfl⟩
  have hreplies : (outs ++ [Out.reply (.plain (ascii "500 Internal Server Error")
      (requestCseq req) []) io.reply []]).filterMap Out.reply? =
      [.plain (ascii "500 Internal Server Error") (requestCseq req) []] := by
    simp only [List.filterMap_append, houts.replies]
    rfl
  simp only [Move.kind, Move.replies, hreplies, hmethod, List.any_cons, List.any_nil]
  rfl

end Setup

/-- What a request does to the session, by what it does at all. -/
theorem request_session {srv : RtspConf} {c : RtspClient} {io : RequestIo} {req : Bytes}
    (hopen : 0 ≤ c.tcpFd) : SessionTurn (requestMove srv c io req) := by
  have heffect := handleRequest_effect srv c io req
  unfold requestMove
  generalize handleRequest srv c io req = r at heffect
  cases heffect with
  | refused status hauth hstatus =>
      exact .quiet (kind_refusal (.inl hstatus)) ⟨rfl, rfl, rfl, rfl, rfl, rfl⟩ rfl
        (repliesOnly_singleton _ _ _)
  | answered status extra hauth hadmits hstatus =>
      refine .quiet ?_ ⟨rfl, rfl, rfl, rfl, rfl, rfl⟩ rfl
        (repliesOnly_singleton _ _ _)
      rcases hstatus with hstatus | ⟨rfl, hmethod⟩
      · exact kind_refusal (.inr hstatus)
      · simp only [sessionMethods, List.mem_cons, List.not_mem_nil, or_false, not_or] at hmethod
        obtain ⟨hsetup, hplay, hteardown⟩ := hmethod
        refine (kind_answered rfl rfl).trans ?_
        rw [if_neg hsetup, if_neg hplay, if_neg hteardown]
  | described sdp hauth hmethod =>
      refine .quiet ?_ ⟨rfl, rfl, rfl, rfl, rfl, rfl⟩ rfl
        (repliesOnly_singleton _ _ _)
      refine (kind_answered rfl rfl).trans ?_
      rw [hmethod, if_neg (by decide), if_neg (by decide), if_neg (by decide)]
  | waiting hauth hmethod henabled hsets =>
      refine .quiet ?_ (SameSession.refl c) rfl repliesOnly_nil
      simp [Move.kind, Move.replies, hmethod, show ascii "DESCRIBE" ≠ ascii "SETUP" by decide]
  | setup t transport outs hadmits hports houts =>
      exact setup_session hopen hadmits hports houts rfl
  | setupFailed outs hadmits hports houts => exact setupFailed_session hadmits houts
  | play hauth hmethod hsession =>
      refine .play ?_ rfl hopen hsession ⟨rfl, rfl, rfl, rfl, rfl, rfl⟩ ?_
      · refine (kind_answered (playOk_replies srv c io (requestCseq req)) rfl).trans ?_
        rw [hmethod, if_neg (by decide), if_pos rfl]
      · refine ⟨.plain (ascii "200 OK") (requestCseq req) (ascii "Range: npt=now-\r\n"),
          io.reply, ?_⟩
        simp only [playOk]
        split
        · exact .inr rfl
        · exact .inl rfl
  | teardown hauth hmethod hsession =>
      refine .teardown io ?_ rfl hopen hsession ⟨rfl, rfl, rfl, rfl, rfl, rfl⟩ rfl
      refine (kind_answered (teardownOk_replies c io (requestCseq req)) rfl).trans ?_
      rw [hmethod, if_neg (by decide), if_neg (by decide), if_pos rfl]

theorem Turn.session {m : Move} (h : Turn m) : SessionTurn m := by
  cases h with
  | accept hfd hc =>
      refine .accept _ _ rfl rfl hfd rfl ?_
      intro o ho
      rcases List.mem_cons.mp ho with rfl | ho
      · exact ⟨_, .inl rfl⟩
      · exact clientReset_socketsOnly _ o ho
  | recv => exact .quiet rfl ⟨rfl, rfl, rfl, rfl, rfl, rfl⟩ rfl repliesOnly_nil
  | hangup => exact .ended rfl rfl (clientReset_socketsOnly _)
  | request hc hnul hreq => exact request_session hc
  | settle =>
      have hsettle : ∀ c, SameSession c (Rtsp.settle c) ∧ (Rtsp.settle c).tcpFd = c.tcpFd := by
        intro c
        unfold Rtsp.settle
        split <;> exact ⟨⟨rfl, rfl, rfl, rfl, rfl, rfl⟩, rfl⟩
      exact .quiet rfl (hsettle _).1 (hsettle _).2 repliesOnly_nil
  | @metadata srv c io now us hc hdue hus =>
      simp only [metadataDue, Bool.and_eq_true] at hdue
      exact .metadata io rfl rfl rfl hc hdue.1.1 hdue.1.2 ⟨rfl, rfl, rfl, rfl, rfl, rfl⟩ rfl
  | skip => exact .quiet rfl (SameSession.refl _) rfl repliesOnly_nil
  | @push srv c p ts answers hc hplaying hstream hactive hnal hsei hsps =>
      exact .push p ts answers rfl rfl rfl hc hplaying hstream hactive hnal hsei hsps
        ⟨rfl, rfl, rfl, rfl, rfl, rfl⟩ rfl
  | close => exact .ended rfl rfl (clientReset_socketsOnly _)

end Rtsp
end FH8852
