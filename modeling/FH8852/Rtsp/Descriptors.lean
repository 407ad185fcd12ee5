import Mathlib.Data.List.Pairwise
import FH8852.Lib.Handles
import FH8852.Rtsp.Conf
import FH8852.Rtsp.Packets

/-!
# Descriptors

What a run does to file descriptors, and which field of the server holds each
one that is open.  A client owns the descriptors in its fields, so its moves are
handled apart from the other clients by `Triple.frame`.
-/

namespace FH8852
namespace Rtsp

open CLib History Handles

/-! ## Operations on descriptors -/

/-- `tcpFd` is the connection of the client the output is for.  A socket is set
up and bound while nothing else is closed, so its opening counts as a use. -/
def Out.ops (tcpFd : Int) : Out → List (Op Int)
  | .reply _ _ _ => [.use tcpFd]
  | .packet _ _ _ (.interleaved _ _) => [.use tcpFd]
  | .packet _ _ _ (.udp fd _) => [.use fd]
  | .packet _ _ _ .dropped => []
  | .videoNal _ => []
  | .idr _ => []
  | .opened fd => [.acquire fd, .use fd]
  | .closed fd => [.release fd]

/-- The calls on the connection that leave no output: `recv`, and `getpeername`
in a request. -/
def Act.ops (tcpFd : Int) : Act → List (Op Int)
  | .recv _ => [.use tcpFd]
  | .hangup => [.use tcpFd]
  | .request _ _ _ => [.use tcpFd]
  | _ => []

def Move.ops (m : Move) : List (Op Int) :=
  m.act.ops m.pre.tcpFd ++ m.outs.flatMap (Out.ops m.pre.tcpFd)

def Record.ops : Record → List (Op Int)
  | .move _ m => m.ops
  | .server o => o.ops (-1)

/-- Every poll calls `accept`. -/
def Event.ops (srv : RtspServer) (e : Event) : List (Op Int) :=
  (match e with
    | .poll _ => [.use srv.listenFd]
    | _ => []) ++ (e.apply srv).2.flatMap Record.ops

def runOps (srv : RtspServer) : List Event → List (Op Int)
  | [] => []
  | e :: rest => e.ops srv ++ runOps (e.apply srv).1 rest

def initOps (io : InitIo) : List (Op Int) := (rtspServerInit io).2.2.flatMap Record.ops

/-! ## Where descriptors are held -/

/-- The fields of the server that hold descriptors. -/
inductive Holder where
  | listen
  | tcp (i : Slot)
  | rtp (i : Slot) (k : TrackId)
  | rtcp (i : Slot) (k : TrackId)

def RtspServer.fd (srv : RtspServer) : Holder → Int
  | .listen => srv.listenFd
  | .tcp i => (srv.clients i).tcpFd
  | .rtp i k => ((srv.clients i).tracks k).rtpFd
  | .rtcp i k => ((srv.clients i).tracks k).rtcpFd

def heldFd (fd : Int) : List Int := if 0 ≤ fd then [fd] else []

def trackFds (t : RtspTrack) : List Int := heldFd t.rtpFd ++ heldFd t.rtcpFd

def clientFds (c : RtspClient) : List Int :=
  (trackIds.flatMap fun k => trackFds (c.tracks k)) ++ heldFd c.tcpFd

/-- The descriptors a client holds outside the track. -/
def otherFds (c : RtspClient) (k : TrackId) : List Int :=
  ((trackIds.filter (· ≠ k)).flatMap fun j => trackFds (c.tracks j)) ++ heldFd c.tcpFd

def heldFds (srv : RtspServer) : List Int :=
  heldFd srv.listenFd ++
    (List.finRange rtspMaxClients).flatMap fun i => clientFds (srv.clients i)

theorem heldFd_of_nonneg {fd : Int} (h : 0 ≤ fd) : heldFd fd = [fd] := if_pos h

theorem mem_heldFd {fd a : Int} : a ∈ heldFd fd ↔ a = fd ∧ 0 ≤ a := by
  unfold heldFd
  split
  · rw [List.mem_singleton]
    omega
  · simp only [List.not_mem_nil, false_iff]
    omega

theorem clientFds_congr {c c' : RtspClient} (hfd : c'.tcpFd = c.tcpFd)
    (htracks : ∀ k, trackFds (c'.tracks k) = trackFds (c.tracks k)) :
    clientFds c' = clientFds c := by
  simp only [clientFds, hfd, htracks]

theorem clientFds_perm (c : RtspClient) (k : TrackId) :
    (clientFds c).Perm (trackFds (c.tracks k) ++ otherFds c k) := by
  cases k with
  | video =>
      show List.Perm ((trackFds _ ++ (trackFds _ ++ [])) ++ _) (_ ++ ((trackFds _ ++ []) ++ _))
      rw [List.append_assoc]
  | metadata =>
      show List.Perm ((trackFds _ ++ (trackFds _ ++ [])) ++ _) (_ ++ ((trackFds _ ++ []) ++ _))
      rw [List.append_nil, List.append_nil, ← List.append_assoc]
      exact List.perm_append_comm.append_right _

theorem otherFds_setTrack (c : RtspClient) (k : TrackId) (t : RtspTrack) :
    otherFds (c.setTrack k t) k = otherFds c k := by
  cases k <;> rfl

theorem mem_clientFds_tcp {c : RtspClient} (h : 0 ≤ c.tcpFd) : c.tcpFd ∈ clientFds c :=
  List.mem_append_right _ (mem_heldFd.mpr ⟨rfl, h⟩)

theorem mem_clientFds_track {c : RtspClient} {k : TrackId} {fd : Int}
    (h : fd ∈ trackFds (c.tracks k)) : fd ∈ clientFds c :=
  List.mem_append_left _ (List.mem_flatMap.mpr ⟨k, mem_trackIds k, h⟩)

/-! ## Opening and closing -/

theorem closeFd_ops (tcpFd fd : Int) :
    (closeFd fd).flatMap (Out.ops tcpFd) = (heldFd fd).map .release := by
  unfold closeFd heldFd
  split <;> rfl

theorem trackClose_ops (tcpFd : Int) (t : RtspTrack) :
    (trackClose t).2.flatMap (Out.ops tcpFd) = (trackFds t).map .release := by
  show (closeFd _ ++ closeFd _).flatMap _ = _
  rw [List.flatMap_append, closeFd_ops, closeFd_ops, trackFds, List.map_append]

theorem sessionReset_ops (tcpFd : Int) (c : RtspClient) :
    (sessionReset c).2.flatMap (Out.ops tcpFd) =
      (trackIds.flatMap fun k => trackFds (c.tracks k)).map .release := by
  show List.flatMap (Out.ops tcpFd) (trackIds.flatMap fun k => (trackClose (c.tracks k)).2) = _
  rw [List.flatMap_assoc, List.map_flatMap]
  exact List.flatMap_congr fun k _ => trackClose_ops tcpFd (c.tracks k)

theorem clientReset_ops (tcpFd : Int) (c : RtspClient) :
    (clientReset c).2.flatMap (Out.ops tcpFd) = (clientFds c).map .release := by
  show (_ ++ closeFd _).flatMap _ = _
  rw [List.flatMap_append, sessionReset_ops, closeFd_ops, clientFds, List.map_append]

theorem openedFd_triple (tcpFd fd : Int) (own : List Int) :
    Triple own ((openedFd fd).flatMap (Out.ops tcpFd)) (heldFd fd ++ own) := by
  unfold openedFd heldFd
  split
  · exact Triple.acquire.append (Triple.use List.mem_cons_self)
  · exact Triple.nil

theorem trackClose_triple (tcpFd : Int) (t : RtspTrack) :
    Triple (trackFds t) ((trackClose t).2.flatMap (Out.ops tcpFd)) [] := by
  have h := Triple.releases (trackFds t) []
  rw [List.append_nil] at h
  rw [trackClose_ops]
  exact h

theorem clientReset_triple (tcpFd : Int) (c : RtspClient) :
    Triple (clientFds c) ((clientReset c).2.flatMap (Out.ops tcpFd)) [] := by
  have h := Triple.releases (clientFds c) []
  rw [List.append_nil] at h
  rw [clientReset_ops]
  exact h

/-- `bind_udp_pair` keeps the sockets it stores in the track and no other. -/
theorem bindUdpPairLoop_triple (attempt : Nat → UdpAttempt) (tcpFd : Int) (left i : Nat)
    {t : RtspTrack} (ht : trackFds t = []) :
    Triple [] ((bindUdpPairLoop attempt left i t).2.2.flatMap (Out.ops tcpFd))
      (trackFds (bindUdpPairLoop attempt left i t).2.1) := by
  induction left generalizing i with
  | zero =>
      show Triple [] [] (trackFds t)
      rw [ht]
      exact Triple.nil
  | succ left ih =>
      have hopen := (openedFd_triple tcpFd (attempt i).rtp []).append
        (openedFd_triple tcpFd (attempt i).rtcp _)
      rw [List.append_nil] at hopen
      have hopened := hopen.perm (List.Perm.refl _) List.perm_append_comm
      have hclose := trackClose_triple tcpFd
        { t with rtpFd := (attempt i).rtp, rtcpFd := (attempt i).rtcp }
      have hround := (hopened.append hclose).append (ih (i + 1))
      have hagain : ∀ rest, (openedFd (attempt i).rtp ++ openedFd (attempt i).rtcp ++
          closeFd (attempt i).rtp ++ closeFd (attempt i).rtcp ++ rest).flatMap (Out.ops tcpFd) =
          (openedFd (attempt i).rtp).flatMap (Out.ops tcpFd) ++
            (openedFd (attempt i).rtcp).flatMap (Out.ops tcpFd) ++
            (closeFd (attempt i).rtp ++ closeFd (attempt i).rtcp).flatMap (Out.ops tcpFd) ++
            rest.flatMap (Out.ops tcpFd) := by
        intro rest
        simp only [List.flatMap_append, List.append_assoc]
      simp only [bindUdpPairLoop]
      split
      · split
        · rw [hagain]
          exact hround
        · split
          · rw [List.flatMap_append]
            exact hopened
          · rw [hagain]
            exact hround
      · rw [hagain]
        exact hround

/-- The sockets of a pair whose port is returned are open. -/
theorem bindUdpPairLoop_fds (attempt : Nat → UdpAttempt) (left i : Nat) (t : RtspTrack)
    (h : 0 ≤ (bindUdpPairLoop attempt left i t).1) :
    0 ≤ (bindUdpPairLoop attempt left i t).2.1.rtpFd ∧
      0 ≤ (bindUdpPairLoop attempt left i t).2.1.rtcpFd := by
  induction left generalizing i with
  | zero =>
      have hneg : ¬ (0 : Int) ≤ -1 := by decide
      exact absurd h hneg
  | succ left ih =>
      simp only [bindUdpPairLoop] at h ⊢
      by_cases hsockets : 0 ≤ (attempt i).rtp ∧ 0 ≤ (attempt i).rtcp ∧ (attempt i).bindRtp
      · rw [if_pos hsockets] at h ⊢
        cases hport : (attempt i).port with
        | none =>
            simp only [hport] at h
            exact ih (i + 1) h
        | some p =>
            simp only [hport] at h
            by_cases hbind : (attempt i).bindRtcp = true
            · simp only [if_pos hbind]
              exact ⟨hsockets.1, hsockets.2.1⟩
            · rw [if_neg hbind] at h
              simp only [if_neg hbind]
              exact ih (i + 1) h
      · rw [if_neg hsockets] at h ⊢
        exact ih (i + 1) h

/-! ## Sending -/

/-- A track that is active has the descriptors it sends on. -/
def TrackOk (t : RtspTrack) : Prop :=
  t.active = true → t.interleaved = true ∨ (0 ≤ t.rtpFd ∧ 0 ≤ t.rtcpFd)

def TracksOk (c : RtspClient) : Prop := ∀ k, TrackOk (c.tracks k)

theorem clientInit_tracksOk : TracksOk clientInit := fun _ h => absurd h Bool.false_ne_true

theorem TracksOk.setTrack {c : RtspClient} (h : TracksOk c) {k : TrackId} {t : RtspTrack}
    (ht : TrackOk t) : TracksOk (c.setTrack k t) := by
  intro j
  by_cases hj : j = k
  · rw [hj, RtspClient.setTrack_tracks_self]
    exact ht
  · rw [RtspClient.setTrack_tracks_ne _ _ hj]
    exact h j

/-- A packet goes out on a descriptor of the client. -/
theorem trackSend_uses {c : RtspClient} {k : TrackId} {t : RtspTrack} (hopen : 0 ≤ c.tcpFd)
    (hok : TrackOk t) (hactive : t.active = true) (hfds : trackFds t = trackFds (c.tracks k))
    (rtcp : Bool) (data : Bytes) (answers : List SendResult) :
    ∀ op ∈ (Out.packet k rtcp data (trackSend t rtcp data answers)).ops c.tcpFd,
      ∃ a ∈ clientFds c, op = .use a := by
  intro op hop
  unfold trackSend at hop
  split at hop
  · split at hop
    · cases hop
    · rw [List.mem_singleton.mp hop]
      exact ⟨_, mem_clientFds_tcp hopen, rfl⟩
  · rename_i hinterleaved
    obtain ⟨hrtp, hrtcp⟩ := (hok hactive).resolve_left hinterleaved
    have hmem : ∀ fd, 0 ≤ fd → fd = t.rtpFd ∨ fd = t.rtcpFd → fd ∈ clientFds c := by
      intro fd hfd h
      refine mem_clientFds_track (k := k) ?_
      rw [← hfds, trackFds, List.mem_append, mem_heldFd, mem_heldFd]
      exact h.imp (fun h => ⟨h, hfd⟩) fun h => ⟨h, hfd⟩
    split at hop
    · rw [List.mem_singleton.mp hop]
      exact ⟨_, hmem _ hrtcp (.inr rfl), rfl⟩
    · rw [List.mem_singleton.mp hop]
      exact ⟨_, hmem _ hrtp (.inl rfl), rfl⟩

theorem SentOn.uses {k : TrackId} {good : Bytes → Prop} {t t' : RtspTrack} {outs : List Out}
    (h : SentOn k good t outs t') {c : RtspClient} (hopen : 0 ≤ c.tcpFd) (hok : TrackOk t)
    (hactive : t.active = true) (hfds : trackFds t = trackFds (c.tracks k)) :
    ∀ op ∈ outs.flatMap (Out.ops c.tcpFd), ∃ a ∈ clientFds c, op = .use a := by
  induction h with
  | nil => exact fun op hop => absurd hop List.not_mem_nil
  | cons marker ts payload answers _ _ ih =>
      intro op hop
      rw [List.flatMap_cons, List.mem_append] at hop
      rcases hop with hop | hop
      · exact trackSend_uses hopen hok hactive hfds _ _ _ op hop
      · exact ih hok hactive hfds op hop

theorem byes_uses {c : RtspClient} (hopen : 0 ≤ c.tcpFd) (hok : TracksOk c) (io : RequestIo) :
    ∀ op ∈ (byes c io).flatMap (Out.ops c.tcpFd), ∃ a ∈ clientFds c, op = .use a := by
  intro op hop
  obtain ⟨o, ho, hop⟩ := List.mem_flatMap.mp hop
  obtain ⟨k, _, ho⟩ := List.mem_flatMap.mp ho
  split at ho
  · rename_i hactive
    rw [List.mem_singleton.mp ho] at hop
    exact trackSend_uses hopen (hok k) hactive rfl _ _ _ op hop
  · cases ho

/-! ## Requests -/

theorem SetupWay.trackOk {c : RtspClient} {io : RequestIo} {req transport : Bytes}
    {t : RtspTrack} {outs : List Out} (h : SetupWay c io req t transport outs) :
    t.interleaved = true ∨ (0 ≤ t.rtpFd ∧ 0 ≤ t.rtcpFd) := by
  cases h with
  | tcp => exact .inl rfl
  | udp _ _ _ hport => exact .inr (bindUdpPairLoop_fds io.attempt 16 0 closedTrack hport)

/-- The track of a SETUP gives up its descriptors and gets those of the new
transport. -/
theorem SetupWay.triple {c : RtspClient} {io : RequestIo} {req transport : Bytes}
    {t : RtspTrack} {outs : List Out} (h : SetupWay c io req t transport outs) (tcpFd : Int) :
    Triple (trackFds (c.tracks (trackOf (requestUri req)))) (outs.flatMap (Out.ops tcpFd))
      (trackFds t) := by
  have hclose := trackClose_triple tcpFd (c.tracks (trackOf (requestUri req)))
  cases h with
  | tcp => exact hclose
  | udp =>
      rw [List.flatMap_append]
      exact hclose.append (bindUdpPairLoop_triple io.attempt tcpFd 16 0 rfl)

/-- What is done for one track is done for the client. -/
theorem setTrack_triple {c : RtspClient} {k : TrackId} {t : RtspTrack}
    {ops : List (Op Int)} (h : Triple (trackFds (c.tracks k)) ops (trackFds t)) :
    Triple (clientFds c) ops (clientFds (c.setTrack k t)) := by
  have hpost := clientFds_perm (c.setTrack k t) k
  rw [RtspClient.setTrack_tracks_self, otherFds_setTrack] at hpost
  exact (h.frame (otherFds c k)).perm (clientFds_perm c k) hpost.symm

theorem Effect.triple {srv : RtspConf} {c : RtspClient} {io : RequestIo} {req : Bytes}
    {r : Outcome} (h : Effect srv c io req r) (hopen : 0 ≤ c.tcpFd) (hok : TracksOk c) :
    Triple (clientFds c) (r.outs.flatMap (Out.ops c.tcpFd)) (clientFds r.client) ∧
      TracksOk r.client := by
  have hreply : Triple (clientFds c) [.use c.tcpFd] (clientFds c) :=
    Triple.use (mem_clientFds_tcp hopen)
  have hmem : ∀ k t, c.tcpFd ∈ clientFds (c.setTrack k t) := fun k t =>
    mem_clientFds_tcp (c := c.setTrack k t) hopen
  cases h with
  | refused | answered | described => exact ⟨hreply, hok⟩
  | waiting => exact ⟨.nil, hok⟩
  | setup t transport outs _ _ _ hway =>
      obtain ⟨lines, houts⟩ : ∃ lines, (setupTrack c io (trackOf (requestUri req)) t
          (streamOf (requestUri req)) (requestCseq req) transport outs).outs =
          outs ++ [.reply (.plain (ascii "200 OK") (requestCseq req) lines) io.reply []] :=
        ⟨_, rfl⟩
      have hsession := setupTrack_session c io (trackOf (requestUri req)) t
        (streamOf (requestUri req)) (requestCseq req) transport outs
      generalize setupTrack c io (trackOf (requestUri req)) t (streamOf (requestUri req))
        (requestCseq req) transport outs = r at houts hsession
      obtain ⟨hsame, hfd, -⟩ := hsession
      have htrack : trackFds { t with
          active := true, ssrc := randomU32 (io.random 0) (io.random 1), seq := 0 } =
          trackFds t := rfl
      have hok' : TrackOk { t with
          active := true, ssrc := randomU32 (io.random 0) (io.random 1), seq := 0 } :=
        fun _ => hway.trackOk
      have htriple := hway.triple c.tcpFd
      rw [← htrack] at htriple
      generalize ({ t with
        active := true, ssrc := randomU32 (io.random 0) (io.random 1), seq := 0 } : RtspTrack) =
        t' at hsame htrack hok' htriple
      have hclient : clientFds r.client = clientFds (c.setTrack (trackOf (requestUri req)) t') :=
        clientFds_congr hfd fun k => by rw [hsame.tracks]
      refine ⟨?_, fun k => ?_⟩
      · rw [hclient, houts, List.flatMap_append]
        exact (setTrack_triple htriple).append (Triple.use (hmem _ _))
      · rw [hsame.tracks]
        exact hok.setTrack hok' k
  | setupFailed outs _ _ _ hsockets =>
      have hclose := trackClose_triple c.tcpFd (c.tracks (trackOf (requestUri req)))
      have hset := setTrack_triple
        (hclose.append (bindUdpPairLoop_triple io.attempt c.tcpFd 16 0 (t := closedTrack) rfl))
      refine ⟨?_, hok.setTrack fun hactive => ?_⟩
      · rw [hsockets, List.flatMap_append, List.flatMap_append]
        exact hset.append (Triple.use (hmem _ _))
      · rw [bindUdpPair_active] at hactive
        cases hactive
  | play =>
      refine ⟨?_, hok⟩
      simp only [playOk, List.flatMap_cons]
      split
      · exact hreply
      · exact hreply
  | teardown =>
      refine ⟨?_, fun _ hactive => absurd hactive Bool.false_ne_true⟩
      have hreset := Triple.releases (trackIds.flatMap fun k => trackFds (c.tracks k))
        (heldFd c.tcpFd)
      rw [← sessionReset_ops c.tcpFd] at hreset
      have hall := (Triple.uses (byes_uses hopen hok io)).append (hreply.append hreset)
      simp only [teardownOk, List.flatMap_append, List.flatMap_cons]
      exact hall

/-! ## Moves -/

theorem SentOn.keepsFds {k : TrackId} {good : Bytes → Prop} {c : RtspClient} {t' : RtspTrack}
    {outs : List Out} (h : SentOn k good (c.tracks k) outs t') :
    clientFds (c.setTrack k t') = clientFds c := by
  obtain ⟨seq, hseq⟩ := h.track
  refine clientFds_congr rfl fun j => ?_
  by_cases hj : j = k
  · rw [hj, RtspClient.setTrack_tracks_self, hseq]
    rfl
  · rw [RtspClient.setTrack_tracks_ne _ _ hj]

theorem SentOn.tracksOk {k : TrackId} {good : Bytes → Prop} {c : RtspClient} {t' : RtspTrack}
    {outs : List Out} (h : SentOn k good (c.tracks k) outs t') (hok : TracksOk c) :
    TracksOk (c.setTrack k t') := by
  obtain ⟨seq, hseq⟩ := h.track
  apply hok.setTrack
  rw [hseq]
  exact hok k

theorem requestMove_triple {srv : RtspConf} {c : RtspClient} {io : RequestIo} {req : Bytes}
    (hopen : 0 ≤ c.tcpFd) (hok : TracksOk c) :
    Triple (clientFds c) (requestMove srv c io req).ops
        (clientFds (requestMove srv c io req).post) ∧
      TracksOk (requestMove srv c io req).post := by
  obtain ⟨htriple, hok'⟩ := (handleRequest_effect srv c io req).triple hopen hok
  have hpost : clientFds (requestMove srv c io req).post =
      clientFds (handleRequest srv c io req).client ∧
      (requestMove srv c io req).post.tracks = (handleRequest srv c io req).client.tracks := by
    simp only [requestMove]
    split <;> exact ⟨rfl, rfl⟩
  refine ⟨?_, fun k => ?_⟩
  · rw [hpost.1]
    exact (Triple.use (mem_clientFds_tcp hopen)).append htriple
  · rw [hpost.2]
    exact hok' k

/-- A move uses and closes descriptors of its client only, and what it opens it
closes or leaves to the client. -/
theorem Turn.triple {m : Move} (h : Turn m) (hok : TracksOk m.pre) :
    Triple (clientFds m.pre) m.ops (clientFds m.post) ∧ TracksOk m.post := by
  cases h with
  | @accept srv c fd peer hfd hc =>
      have hpost : clientFds (acceptedClient fd peer) = [fd] := heldFd_of_nonneg hfd
      have hreset := (clientReset_triple c.tcpFd c).frame [fd]
      have hopened : Triple (clientFds c) [.acquire fd, .use fd] (fd :: clientFds c) :=
        Triple.acquire.append (Triple.use List.mem_cons_self)
      refine ⟨?_, clientInit_tracksOk⟩
      rw [hpost]
      exact (hopened.perm (List.Perm.refl _) (@List.perm_append_comm _ [fd] _)).append hreset
  | recv hc => exact ⟨Triple.use (mem_clientFds_tcp hc), hok⟩
  | @hangup srv c hc =>
      exact ⟨(Triple.use (mem_clientFds_tcp hc)).append (clientReset_triple c.tcpFd c),
        clientInit_tracksOk⟩
  | request hc => exact requestMove_triple hc hok
  | @settle srv c =>
      have hsettle : clientFds (Rtsp.settle c) = clientFds c ∧
          (Rtsp.settle c).tracks = c.tracks := by
        unfold Rtsp.settle
        split <;> exact ⟨rfl, rfl⟩
      refine ⟨?_, fun k => ?_⟩
      · rw [hsettle.1]
        exact .nil
      · rw [hsettle.2]
        exact hok k
  | @metadata srv c io now us hc hdue =>
      have hsent := sendMetadata_sentOn srv io (c.tracks .metadata)
      simp only [metadataDue, Bool.and_eq_true] at hdue
      refine ⟨?_, hsent.tracksOk hok⟩
      have huses := Triple.uses (hsent.uses hc (hok _) hdue.1.2 rfl)
      exact huses.perm (List.Perm.refl _) (.of_eq hsent.keepsFds.symm)
  | skip => exact ⟨.nil, hok⟩
  | @push srv c p ts answers hc _ _ hactive =>
      obtain ⟨packets, hpackets, hsent⟩ :=
        sendVideoNal_sentOn (c.tracks .video) p.nal ts p.last answers
      have huses := Triple.uses (hsent.uses hc (hok _) hactive rfl)
      refine ⟨?_, hsent.tracksOk hok⟩
      rw [hpackets]
      exact huses.perm (List.Perm.refl _) (.of_eq hsent.keepsFds.symm)
  | @close srv c => exact ⟨clientReset_triple c.tcpFd c, clientInit_tracksOk⟩

theorem turns_triple {c c' : RtspClient} {l : List Move} (h : Turns c l c') (hok : TracksOk c) :
    Triple (clientFds c) (l.flatMap Move.ops) (clientFds c') ∧ TracksOk c' := by
  refine h.induction (P := fun l c' => Triple (clientFds c) (l.flatMap Move.ops) (clientFds c') ∧
    TracksOk c') ⟨.nil, hok⟩ ?_
  intro l m hl hm
  obtain ⟨htriple, hok'⟩ := hm.triple hl.2
  rw [List.flatMap_append, List.flatMap_singleton]
  exact ⟨hl.1.append htriple, hok'⟩

/-! ## The server -/

/-- What every slot needs for its next move. -/
def SlotsOk (srv : RtspServer) : Prop :=
  ∀ i, RxFits (srv.clients i) ∧ TracksOk (srv.clients i)

/-- The descriptors held outside the slot. -/
def restFds (srv : RtspServer) (i : Slot) : List Int :=
  heldFd srv.listenFd ++
    ((List.finRange rtspMaxClients).erase i).flatMap fun j => clientFds (srv.clients j)

theorem heldFds_perm (srv : RtspServer) (i : Slot) :
    (heldFds srv).Perm (clientFds (srv.clients i) ++ restFds srv i) := by
  have hslots : ((List.finRange rtspMaxClients).flatMap fun j => clientFds (srv.clients j)).Perm
      (clientFds (srv.clients i) ++
        ((List.finRange rtspMaxClients).erase i).flatMap fun j => clientFds (srv.clients j)) :=
    (List.perm_cons_erase (List.mem_finRange i)).flatMap_right _
  refine (hslots.append_left (heldFd srv.listenFd)).trans ?_
  rw [restFds, ← List.append_assoc, ← List.append_assoc]
  exact List.perm_append_comm.append_right _

theorem restFds_setClient (srv : RtspServer) (i : Slot) (c : RtspClient) :
    restFds (srv.setClient i c) i = restFds srv i := by
  refine congrArg (heldFd srv.listenFd ++ ·) (List.flatMap_congr fun j hj => ?_)
  have hne : j ≠ i := ((List.nodup_finRange rtspMaxClients).mem_erase_iff.mp hj).1
  simp only [RtspServer.setClient, if_neg hne]

/-- What is done for one client is done for the server. -/
theorem setClient_triple {srv : RtspServer} {i : Slot} {c : RtspClient} {ops : List (Op Int)}
    (h : Triple (clientFds (srv.clients i)) ops (clientFds c)) :
    Triple (heldFds srv) ops (heldFds (srv.setClient i c)) := by
  have hpost := heldFds_perm (srv.setClient i c) i
  rw [restFds_setClient] at hpost
  have hself : (srv.setClient i c).clients i = c := if_pos rfl
  rw [hself] at hpost
  exact (h.frame (restFds srv i)).perm (heldFds_perm srv i) hpost.symm

theorem foldl_clientRound_triple (f : Slot → RtspClient → RtspClient × List Move) (l : List Slot)
    (hl : l.Nodup) (acc : RtspServer × List Record)
    (h : ∀ i ∈ l, Triple (clientFds (acc.1.clients i))
      ((f i (acc.1.clients i)).2.flatMap Move.ops) (clientFds (f i (acc.1.clients i)).1)) :
    ∃ log, (l.foldl (clientRound f) acc).2 = acc.2 ++ log ∧
      Triple (heldFds acc.1) (log.flatMap Record.ops)
        (heldFds (l.foldl (clientRound f) acc).1) := by
  induction l generalizing acc with
  | nil => exact ⟨[], (List.append_nil _).symm, .nil⟩
  | cons i l ih =>
      obtain ⟨hi, hl⟩ := List.nodup_cons.mp hl
      have hround := setClient_triple (h i List.mem_cons_self)
      obtain ⟨log, hlog, hrest⟩ := ih hl (clientRound f acc i) fun j hj => by
        have hne : j ≠ i := fun hji => hi (hji ▸ hj)
        have hsame : (clientRound f acc i).1.clients j = acc.1.clients j := if_neg hne
        rw [hsame]
        exact h j (List.mem_cons_of_mem i hj)
      refine ⟨(f i (acc.1.clients i)).2.map (Record.move i) ++ log, ?_, ?_⟩
      · rw [List.foldl_cons, hlog, ← List.append_assoc]
        rfl
      · rw [List.flatMap_append, List.flatMap_map, List.foldl_cons]
        exact hround.append hrest

theorem forClients_triple (f : Slot → RtspClient → RtspClient × List Move) (srv : RtspServer)
    (h : ∀ i, Turns (srv.clients i) (f i (srv.clients i)).2 (f i (srv.clients i)).1)
    (hok : SlotsOk srv) :
    Triple (heldFds srv) ((forClients f srv).2.flatMap Record.ops)
      (heldFds (forClients f srv).1) := by
  obtain ⟨log, hlog, htriple⟩ := foldl_clientRound_triple f (List.finRange rtspMaxClients)
    (List.nodup_finRange _) (srv, []) fun i _ => (turns_triple (h i) (hok i).2).1
  rw [forClients, hlog]
  exact htriple

theorem acceptClient_triple (srv : RtspServer) (fd : Int) (peer : SockAddr) (hok : SlotsOk srv) :
    Triple (heldFds srv) ((acceptClient srv fd peer).2.flatMap Record.ops)
      (heldFds (acceptClient srv fd peer).1) := by
  unfold acceptClient
  split
  · exact .nil
  · rename_i hfd
    split
    · have hused : Triple (fd :: heldFds srv) [.use fd] (fd :: heldFds srv) :=
        Triple.use List.mem_cons_self
      have hopened := Triple.acquire.append hused
      exact hopened.append .release
    · rename_i i hfree
      have hfree := List.find?_some hfree
      have hturn : Turn ⟨srv.toRtspConf, srv.clients i, .accept fd peer,
          .opened fd :: (clientReset (srv.clients i)).2, acceptedClient fd peer⟩ :=
        .accept (by omega) (by simpa using hfree)
      have hplaced := setClient_triple (hturn.triple (hok i).2).1
      rw [← List.append_nil (Move.ops _)] at hplaced
      exact hplaced

theorem SlotsOk.accept {srv : RtspServer} (hok : SlotsOk srv) (fd : Int) (peer : SockAddr) :
    SlotsOk (acceptClient srv fd peer).1 := by
  intro i
  have hturns := acceptClient_turns srv fd peer i
  exact ⟨(hturns.invariant (hok i).1 fun _ => Turn.rxFits).2, (turns_triple hturns (hok i).2).2⟩

theorem SlotsOk.apply {srv : RtspServer} (hok : SlotsOk srv) (e : Event) :
    SlotsOk (e.apply srv).1 := by
  intro i
  have hturns := apply_turns srv e (fun j => (hok j).1) i
  exact ⟨(hturns.invariant (hok i).1 fun _ => Turn.rxFits).2, (turns_triple hturns (hok i).2).2⟩

theorem rtspServerPushNal_triple (srv : RtspServer) (p : Push)
    (answers : Slot → Nat → List SendResult) (hok : SlotsOk srv) :
    Triple (heldFds srv) ((rtspServerPushNal srv p answers).2.flatMap Record.ops)
      (heldFds (rtspServerPushNal srv p answers).1) := by
  obtain ⟨conf, f, hlisten, heq, hf⟩ := rtspServerPushNal_eq srv p answers
  have hheld : heldFds srv = heldFds { srv with toRtspConf := conf } := by
    simp only [heldFds, hlisten]
  rw [heq, hheld]
  exact forClients_triple f _ (fun i => (hf i _).1) hok

/-! ## Runs -/

def Event.closes : Event → Bool
  | .close => true
  | _ => false

theorem Event.conf_listenFd (e : Event) (conf : RtspConf) :
    (e.conf conf).listenFd = conf.listenFd := by
  cases e with
  | poll | setCredentials | useShadow | onIdrRequest | close => rfl
  | enableStream =>
      simp only [Event.conf]
      split <;> rfl
  | pushNal p answers =>
      simp only [Event.conf]
      split
      · rfl
      · unfold cacheParamSet
        split
        · rfl
        · split <;> rfl

theorem apply_triple {srv : RtspServer} {e : Event} (hlisten : 0 ≤ srv.listenFd)
    (hok : SlotsOk srv) (hlive : e.closes = false) :
    Triple (heldFds srv) (e.ops srv) (heldFds (e.apply srv).1) := by
  cases e with
  | poll io =>
      have hmem : srv.listenFd ∈ heldFds srv :=
        List.mem_append_left _ (mem_heldFd.mpr ⟨rfl, hlisten⟩)
      have haccept := acceptClient_triple srv io.acceptFd io.peer hok
      have hok' := hok.accept io.acceptFd io.peer
      have hpoll := forClients_triple
        (fun i => pollClient (acceptClient srv io.acceptFd io.peer).1.toRtspConf io.nowUs
          (io.client i)) _ (fun i => pollClient_turns _ _ _ (hok' i).1) hok'
      have hall := (Triple.use hmem).append (haccept.append hpoll)
      rw [← List.flatMap_append] at hall
      exact hall
  | pushNal p answers => exact rtspServerPushNal_triple srv p answers hok
  | setCredentials | useShadow | onIdrRequest => exact .nil
  | enableStream id fps =>
      have hsame : heldFds (rtspServerEnableStream srv id fps) = heldFds srv := by
        unfold rtspServerEnableStream
        split <;> rfl
      show Triple (heldFds srv) [] (heldFds (rtspServerEnableStream srv id fps))
      rw [hsame]
      exact .nil
  | close => cases hlive

theorem heldFds_of_init {srv : RtspServer} (h : ∀ i, srv.clients i = clientInit) :
    heldFds srv = heldFd srv.listenFd := by
  have hnone : (List.finRange rtspMaxClients).flatMap (fun i => clientFds (srv.clients i)) = [] :=
    List.flatMap_eq_nil_iff.mpr fun i _ => by rw [h i]; rfl
  rw [heldFds, hnone, List.append_nil]

theorem close_triple {srv : RtspServer} (hok : SlotsOk srv) :
    Triple (heldFds srv) (Event.close.ops srv) [] := by
  have hclosed := forClients_triple (fun _ c => ((clientReset c).1,
    [⟨srv.toRtspConf, c, .close, (clientReset c).2, (clientReset c).1⟩])) srv
    (fun i => Chain.single .close rfl) hok
  obtain ⟨hconf, hclients⟩ := forClients_spec (fun _ c => ((clientReset c).1,
    [⟨srv.toRtspConf, c, .close, (clientReset c).2, (clientReset c).1⟩])) srv
  have hlisten : ((closeFd srv.listenFd).map Record.server).flatMap Record.ops =
      (heldFd srv.listenFd).map .release := by
    rw [List.flatMap_map]
    exact closeFd_ops (-1) srv.listenFd
  have hrelease := Triple.releases (heldFd srv.listenFd) []
  rw [List.append_nil, ← hlisten] at hrelease
  rw [heldFds_of_init fun i => (hclients i).1, hconf] at hclosed
  have hall := hclosed.append hrelease
  rw [← List.flatMap_append] at hall
  exact hall

theorem run_triple {srv : RtspServer} {evs : List Event} (hlisten : 0 ≤ srv.listenFd)
    (hok : SlotsOk srv) (hlive : ∀ e ∈ evs, e.closes = false) :
    Triple (heldFds srv) (runOps srv evs) (heldFds (run srv evs).1) ∧
      SlotsOk (run srv evs).1 := by
  induction evs generalizing srv with
  | nil => exact ⟨.nil, hok⟩
  | cons e evs ih =>
      have hfirst := apply_triple hlisten hok (hlive e List.mem_cons_self)
      have hlisten' : 0 ≤ (e.apply srv).1.listenFd := by
        rw [apply_conf, e.conf_listenFd]
        exact hlisten
      obtain ⟨hrest, hok'⟩ := ih hlisten' (hok.apply e) fun e' he' =>
        hlive e' (List.mem_cons_of_mem e he')
      exact ⟨hfirst.append hrest, hok'⟩

/-- Every open descriptor is in one field, and every field that is not negative
holds an open one. -/
structure Accounted (srv : RtspServer) (opened : List Int) : Prop where
  held : ∀ fd ∈ opened, ∃! h, srv.fd h = fd
  opened : ∀ h, 0 ≤ srv.fd h → srv.fd h ∈ opened

/-- The connection goes to one free slot, or is closed if there is none. -/
def Placed (srv : RtspServer) (fd : Int) (peer : SockAddr) : Prop :=
  (∃ i, (srv.clients i).tcpFd < 0 ∧
      (∀ j, ((acceptClient srv fd peer).1.clients j).tcpFd = fd ↔ j = i) ∧
      ∀ j, j ≠ i → (acceptClient srv fd peer).1.clients j = srv.clients j) ∨
    (∀ i, 0 ≤ (srv.clients i).tcpFd) ∧
      acceptClient srv fd peer = (srv, [.server (.opened fd), .server (.closed fd)])

/-- All holders, grouped as in `heldFds`. -/
def holders : List Holder :=
  .listen :: (List.finRange rtspMaxClients).flatMap fun i =>
    (trackIds.flatMap fun k => [.rtp i k, .rtcp i k]) ++ [.tcp i]

theorem mem_holders (h : Holder) : h ∈ holders := by
  cases h with
  | listen => exact List.mem_cons_self
  | tcp i =>
      refine List.mem_cons_of_mem _ (List.mem_flatMap.mpr ⟨i, List.mem_finRange i, ?_⟩)
      exact List.mem_append_right _ List.mem_cons_self
  | rtp i k | rtcp i k =>
      refine List.mem_cons_of_mem _ (List.mem_flatMap.mpr ⟨i, List.mem_finRange i, ?_⟩)
      exact List.mem_append_left _ (List.mem_flatMap.mpr ⟨k, mem_trackIds k, by simp⟩)

theorem heldFds_eq (srv : RtspServer) :
    heldFds srv = holders.flatMap fun h => heldFd (srv.fd h) := by
  have hclient : ∀ i, clientFds (srv.clients i) =
      ((trackIds.flatMap fun k => [Holder.rtp i k, .rtcp i k]) ++ [Holder.tcp i]).flatMap
        fun h => heldFd (srv.fd h) := by
    intro i
    rw [List.flatMap_append, List.flatMap_assoc, List.flatMap_singleton, clientFds]
    refine congrArg (· ++ _) (List.flatMap_congr fun k _ => ?_)
    rw [List.flatMap_cons, List.flatMap_singleton]
    rfl
  rw [holders, List.flatMap_cons, List.flatMap_assoc, heldFds]
  exact congrArg (_ ++ ·) (List.flatMap_congr fun i _ => hclient i)

theorem accounted_of_perm {srv : RtspServer} {opened : List Int}
    (hperm : opened.Perm (heldFds srv)) (hnodup : opened.Nodup) : Accounted srv opened := by
  have hmem : ∀ fd, fd ∈ opened ↔ ∃ h, srv.fd h = fd ∧ 0 ≤ fd := by
    intro fd
    rw [hperm.mem_iff, heldFds_eq, List.mem_flatMap]
    constructor
    · rintro ⟨h, -, hfd⟩
      obtain ⟨rfl, hpos⟩ := mem_heldFd.mp hfd
      exact ⟨h, rfl, hpos⟩
    · rintro ⟨h, rfl, hpos⟩
      exact ⟨h, mem_holders h, mem_heldFd.mpr ⟨rfl, hpos⟩⟩
  have hdisjoint := hperm.nodup_iff.mp hnodup
  rw [heldFds_eq, List.nodup_flatMap] at hdisjoint
  refine ⟨fun fd hfd => ?_, fun h hpos => (hmem _).mpr ⟨h, rfl, hpos⟩⟩
  obtain ⟨h, rfl, hpos⟩ := (hmem fd).mp hfd
  refine ⟨h, rfl, fun h' hsame => ?_⟩
  by_contra hne
  have : Std.Symm (Function.onFun List.Disjoint fun h => heldFd (srv.fd h)) :=
    ⟨fun _ _ h a hb hc => h hc hb⟩
  have hsame : srv.fd h' = srv.fd h := hsame
  exact hdisjoint.2.forall (mem_holders h') (mem_holders h) hne
    (mem_heldFd.mpr ⟨hsame.symm, hpos⟩) (mem_heldFd.mpr ⟨rfl, hpos⟩)

theorem placed {srv : RtspServer} {fd : Int} (peer : SockAddr) (hfd : 0 ≤ fd)
    (hfresh : ∀ i, (srv.clients i).tcpFd ≠ fd) : Placed srv fd peer := by
  unfold Placed acceptClient
  rw [if_neg (by omega)]
  cases hfree : (List.finRange rtspMaxClients).find? fun i => (srv.clients i).tcpFd < 0 with
  | none =>
      refine .inr ⟨fun i => ?_, rfl⟩
      have h := List.find?_eq_none.mp hfree i (List.mem_finRange i)
      simp only [decide_eq_true_eq] at h
      omega
  | some i =>
      have hslot := List.find?_some hfree
      refine .inl ⟨i, by simpa using hslot, fun j => ?_, fun j hj => if_neg hj⟩
      show ((if j = i then acceptedClient fd peer else srv.clients j).tcpFd = fd) ↔ j = i
      by_cases hj : j = i
      · rw [if_pos hj]
        exact ⟨fun _ => hj, fun _ => rfl⟩
      · rw [if_neg hj]
        exact ⟨fun h => absurd h (hfresh j), fun h => absurd h hj⟩

theorem initialServer_triple {io : InitIo} (hinit : (rtspServerInit io).1 = 0) :
    0 ≤ (initialServer io).listenFd ∧ SlotsOk (initialServer io) ∧
      Triple [] (initOps io) (heldFds (initialServer io)) := by
  have hclients := initialServer_clients io
  have hopened : 0 ≤ io.listenFd ∧ (initialServer io).listenFd = io.listenFd ∧
      initOps io = [.acquire io.listenFd, .use io.listenFd] := by
    unfold initOps initialServer
    unfold rtspServerInit at hinit ⊢
    split at hinit
    · cases hinit
    · rename_i hlisten
      split at hinit
      · rename_i hbound
        rw [if_neg hlisten, if_pos hbound]
        exact ⟨by omega, rfl, rfl⟩
      · cases hinit
  obtain ⟨hpos, hlisten, hops⟩ := hopened
  refine ⟨by rwa [hlisten], fun i => ?_, ?_⟩
  · rw [hclients i]
    exact ⟨Nat.zero_le _, clientInit_tracksOk⟩
  · rw [heldFds_of_init hclients, hlisten, heldFd_of_nonneg hpos, hops]
    exact Triple.acquire.append (Triple.use List.mem_cons_self)

theorem runOps_append (srv : RtspServer) (evs evs' : List Event) :
    runOps srv (evs ++ evs') = runOps srv evs ++ runOps (run srv evs).1 evs' := by
  induction evs generalizing srv with
  | nil => rfl
  | cons e evs ih =>
      rw [List.cons_append, runOps, runOps, ih, List.append_assoc]
      rfl

/-- In every run until `rtsp_server_close` each open descriptor is held by one
field, every descriptor used or closed is open, and a connection that is accepted
goes to one free slot or is closed; the close leaves nothing open. -/
theorem descriptors_accounted (io : InitIo) (evs : List Event)
    (hinit : (rtspServerInit io).1 = 0) (hlive : ∀ e ∈ evs, e.closes = false)
    (hfresh : Fresh [] (initOps io ++ runOps (initialServer io) (evs ++ [.close]))) :
    Safe [] (initOps io ++ runOps (initialServer io) (evs ++ [.close])) ∧
      after [] (initOps io ++ runOps (initialServer io) (evs ++ [.close])) = [] ∧
      Accounted (run (initialServer io) evs).1
        (after [] (initOps io ++ runOps (initialServer io) evs)) ∧
      ∀ fd peer, 0 ≤ fd → fd ∉ after [] (initOps io ++ runOps (initialServer io) evs) →
        Placed (run (initialServer io) evs).1 fd peer := by
  obtain ⟨hlisten, hok, hopening⟩ := initialServer_triple hinit
  obtain ⟨hrunning, hok'⟩ := run_triple hlisten hok hlive
  have hlived := hopening.append hrunning
  have hops : initOps io ++ runOps (initialServer io) (evs ++ [.close]) =
      (initOps io ++ runOps (initialServer io) evs) ++
        Event.close.ops (run (initialServer io) evs).1 := by
    rw [runOps_append, List.append_assoc]
    exact congrArg (_ ++ ·) (congrArg (_ ++ ·) (List.append_nil _))
  rw [hops] at hfresh ⊢
  obtain ⟨hsafe, hclosed, -⟩ := (hlived.append (close_triple hok')) [] [] (List.Perm.refl _)
    List.nodup_nil hfresh
  obtain ⟨-, hheld, hnodup⟩ := hlived [] [] (List.Perm.refl _) List.nodup_nil
    (fresh_append.mp hfresh).1
  rw [List.append_nil] at hheld
  have haccounted := accounted_of_perm hheld hnodup
  refine ⟨hsafe, hclosed.eq_nil, haccounted, fun fd peer hfd hnew => ?_⟩
  refine placed peer hfd fun i hi => hnew ?_
  rw [← hi] at hfd ⊢
  exact haccounted.opened (.tcp i) hfd

/-- A client over UDP that plays, sets its track up again and leaves. -/
def udpRun : List Event :=
  [.enableStream 0 25, .poll (samplePoll 5 (sampleRequest "SETUP" "rtsp://h/stream=0/video" 1
      "Transport: RTP/AVP;unicast;client_port=5000-5001\r\n" ++ samplePlay)),
    samplePush 0 [0x67, 1, 2],
    .poll (samplePoll 6 (sampleRequest "SETUP" "rtsp://h/stream=0/video" 1
      "Transport: RTP/AVP;unicast;client_port=5000-5001\r\n" ++ sampleTeardown))]

theorem descriptors_accounted_sample :
    after [] (initOps sampleInit ++ runOps (initialServer sampleInit) udpRun) = [6, 5, 3] ∧
      after [] (initOps sampleInit ++ runOps (initialServer sampleInit) (udpRun ++ [.close])) =
        [] := by
  have hfresh : Fresh [] (initOps sampleInit ++
      runOps (initialServer sampleInit) (udpRun ++ [.close])) := by decide +kernel
  exact ⟨by decide +kernel,
    (descriptors_accounted sampleInit udpRun rfl (by decide) hfresh).2.1⟩

end Rtsp
end FH8852
