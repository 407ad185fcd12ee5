import FH8852.Lib.History
import FH8852.Rtsp.Effect
import FH8852.Rtsp.Server

/-!
# The moves of one client

`Turn` lists the moves one client can make, each with what it needs to know of
the client before it.  `history_chain` says that what happens to a slot in any
run is a chain of such moves from `client_init`, so a property of one client
over all runs is proved move by move.
-/

namespace FH8852
namespace Rtsp

open CLib History

/-- The client a request leaves, whatever it does to the session, is on the same
connection with the same received bytes. -/
structure SameConnection (c c' : RtspClient) : Prop where
  tcpFd : c'.tcpFd = c.tcpFd
  loopback : c'.loopback = c.loopback
  rxbuf : c'.rxbuf = c.rxbuf
  rxlen : c'.rxlen = c.rxlen

theorem Effect.sameConnection {srv : RtspConf} {c : RtspClient} {io : RequestIo} {req : Bytes}
    {r : Outcome} (h : Effect srv c io req r) : SameConnection c r.client := by
  cases h
  case setup =>
    simp only [setupTrack]
    split <;> exact ⟨rfl, rfl, rfl, rfl⟩
  all_goals exact ⟨rfl, rfl, rfl, rfl⟩

/-- The request at the head of the buffer is held back: it is a DESCRIBE of a
stream whose parameter sets are not both known. -/
def HeldBack (srv : RtspConf) (req : Bytes) : Prop :=
  requestMethod req = ascii "DESCRIBE" ∧
    (srv.spsLen (streamOf (requestUri req)) = 0 ∨ srv.ppsLen (streamOf (requestUri req)) = 0)

inductive Turn : Move → Prop
  | accept {srv c fd peer} (hfd : 0 ≤ fd) (hc : c.tcpFd < 0) :
      Turn ⟨srv, c, .accept fd peer, .opened fd :: (clientReset c).2, acceptedClient fd peer⟩
  | recv {srv c bytes} (hc : 0 ≤ c.tcpFd) (hlen : bytes.length ≤ sizeofRxbuf - 1 - c.rxlen) :
      Turn ⟨srv, c, .recv bytes, [], storeReceived c bytes⟩
  | hangup {srv c} (hc : 0 ≤ c.tcpFd) : Turn ⟨srv, c, .hangup, (clientReset c).2, clientInit⟩
  | request {srv c io req} (hc : 0 ≤ c.tcpFd) (hnul : c.rxbuf c.rxlen = 0)
      (hreq : nextRequest c = some req) : Turn (requestMove srv c io req)
  | settle {srv c} (hc : 0 ≤ c.tcpFd) (hnul : c.rxbuf c.rxlen = 0)
      (hdrained : ∀ req, nextRequest c = some req → HeldBack srv req) :
      Turn ⟨srv, c, .settle, [], settle c⟩
  | metadata {srv c io now us} (hc : 0 ≤ c.tcpFd) (hdue : metadataDue c now = true)
      (hus : us = c.nextMetadataUs + metadataIntervalUs) :
      Turn ⟨srv, c, .metadata io, [(sendMetadata srv io (c.tracks .metadata)).2],
        { c.setTrack .metadata (sendMetadata srv io (c.tracks .metadata)).1 with
          nextMetadataUs := us }⟩
  | skip {srv c p} (hskip : (0 ≤ c.tcpFd ∧ c.playing = true ∧ (c.streamId : Int) = p.streamId ∧
        (c.tracks .video).active = true ∧ c.streamId < rtspStreamCount) →
        p.nal = [] ∨ nalType p.nal = nalSei ∨ (c.waitingForSps = true ∧ nalType p.nal ≠ nalSps)) :
      Turn ⟨srv, c, .push p, [], c⟩
  | push {srv c p ts answers} (hc : 0 ≤ c.tcpFd) (hplaying : c.playing = true)
      (hstream : (c.streamId : Int) = p.streamId) (hactive : (c.tracks .video).active = true)
      (hnal : p.nal ≠ []) (hsei : nalType p.nal ≠ nalSei)
      (hsps : c.waitingForSps = true → nalType p.nal = nalSps) :
      Turn ⟨srv, c, .push p, (sendVideoNal (c.tracks .video) p.nal ts p.last answers).2,
        { c.setTrack .video (sendVideoNal (c.tracks .video) p.nal ts p.last answers).1 with
          waitingForSps := false }⟩
  | close {srv c} : Turn ⟨srv, c, .close, (clientReset c).2, clientInit⟩

/-- The moves of a slot, from the client `c` to the client `c'`. -/
abbrev Turns (c : RtspClient) (l : List Move) (c' : RtspClient) : Prop :=
  Chain Move.pre Move.post Turn c l c'

/-! ## The buffer -/

theorem nextRequest_spec {c : RtspClient} {req : Bytes} (h : nextRequest c = some req) :
    req <+: c.rxbuf.str sizeofRxbuf 0 ∧ 4 ≤ req.length :=
  ⟨through_isPrefix h, length_le_of_through h⟩

theorem nextRequest_length_le {c : RtspClient} {req : Bytes} (h : nextRequest c = some req)
    (hnul : c.rxbuf c.rxlen = 0) : req.length ≤ c.rxlen :=
  (nextRequest_spec h).1.length_le.trans
    (Buf.str_length_le sizeofRxbuf (by rwa [Nat.zero_add]))

theorem consume_terminated {c : RtspClient} {n : Nat} (hn : n ≤ c.rxlen)
    (hnul : c.rxbuf c.rxlen = 0) : (consume c n).rxbuf (consume c n).rxlen = 0 := by
  simp only [consume, Buf.moveDown]
  rw [if_pos (Nat.lt_succ_self _), Nat.sub_add_cancel hn]
  exact hnul

theorem storeReceived_terminated (c : RtspClient) (bytes : Bytes) :
    (storeReceived c bytes).rxbuf (storeReceived c bytes).rxlen = 0 := by
  simp [storeReceived, Buf.write]

/-- There is room in `rxbuf` for the terminating NUL. -/
def RxFits (c : RtspClient) : Prop := c.rxlen ≤ sizeofRxbuf - 1

theorem storeReceived_rxFits {c : RtspClient} {bytes : Bytes}
    (hrx : RxFits c) (hlen : bytes.length ≤ sizeofRxbuf - 1 - c.rxlen) :
    RxFits (storeReceived c bytes) := by
  unfold RxFits at *
  show c.rxlen + bytes.length ≤ sizeofRxbuf - 1
  omega

theorem settle_rxFits (c : RtspClient) : RxFits (settle c) := by
  unfold settle
  split
  · exact Nat.zero_le _
  · unfold RxFits
    omega

/-! ## One client's turn in a poll -/

/-- The first `n` of the received bytes are gone. -/
structure Consumed (c : RtspClient) (n : Nat) (c' : RtspClient) : Prop where
  tcpFd : c'.tcpFd = c.tcpFd
  terminated : c'.rxbuf c'.rxlen = 0
  rxlen : c'.rxlen + n = c.rxlen

/-- What a handled request leaves behind. -/
theorem requestMove_consumed (srv : RtspConf) {c : RtspClient} (io : RequestIo) {req : Bytes}
    (hnul : c.rxbuf c.rxlen = 0) (hreq : nextRequest c = some req)
    (hdone : (handleRequest srv c io req).done = true) :
    Consumed c req.length (requestMove srv c io req).post := by
  have hsame := (handleRequest_effect srv c io req).sameConnection
  have hle := nextRequest_length_le hreq hnul
  have hpost : (requestMove srv c io req).post =
      consume (handleRequest srv c io req).client req.length := by
    simp only [requestMove, hdone, if_true]
  rw [hpost]
  constructor
  case tcpFd => exact hsame.tcpFd
  case terminated =>
    refine consume_terminated (by rw [hsame.rxlen]; exact hle) ?_
    rw [hsame.rxbuf, hsame.rxlen]
    exact hnul
  case rxlen =>
    show (handleRequest srv c io req).client.rxlen - req.length + req.length = c.rxlen
    rw [hsame.rxlen]
    exact Nat.sub_add_cancel hle

/-- What `drain_requests` does is a chain of requests, and when it stops the
request at the head of the buffer, if there is one, is held back. -/
theorem drainRequests_turns (srv : RtspConf) (io : Nat → RequestIo) (fuel n : Nat)
    {c : RtspClient} (hc : 0 ≤ c.tcpFd) (hnul : c.rxbuf c.rxlen = 0) :
    let r := drainRequests srv io fuel n c
    Turns c r.2 r.1 ∧ 0 ≤ r.1.tcpFd ∧ r.1.rxbuf r.1.rxlen = 0 ∧ r.1.rxlen ≤ c.rxlen ∧
      (c.rxlen < fuel → ∀ req, nextRequest r.1 = some req → HeldBack srv req) := by
  induction fuel generalizing n c with
  | zero => exact ⟨.nil, hc, hnul, Nat.le_refl _, fun h => absurd h (Nat.not_lt_zero _)⟩
  | succ fuel ih =>
      simp only [drainRequests]
      split
      · rename_i hreq
        refine ⟨.nil, hc, hnul, Nat.le_refl _, fun _ req h => ?_⟩
        rw [hreq] at h
        cases h
      · rename_i req hreq
        have hturn : Turn (requestMove srv c (io n) req) := .request hc hnul hreq
        have heffect := handleRequest_effect srv c (io n) req
        split
        · rename_i hdone
          have hconsumed := requestMove_consumed srv (io n) hnul hreq hdone
          have hpos := (nextRequest_spec hreq).2
          have hlen := hconsumed.rxlen
          have hopen : 0 ≤ (requestMove srv c (io n) req).post.tcpFd := hconsumed.tcpFd ▸ hc
          obtain ⟨hturns, hc', hnul', hlen', hheld⟩ := ih (n + 1) hopen hconsumed.terminated
          exact ⟨(Chain.single hturn rfl).append hturns, hc', hnul', hlen'.trans (by omega),
            fun hfuel => hheld (by omega)⟩
        · rename_i hdone
          have hpost : (requestMove srv c (io n) req).post = c ∧ HeldBack srv req := by
            simp only [requestMove, hdone, if_false, Bool.false_eq_true]
            generalize handleRequest srv c (io n) req = r at heffect hdone
            cases heffect with
            | waiting _ hmethod _ hsets => exact ⟨rfl, hmethod, hsets⟩
            | _ => exact absurd rfl hdone
          refine ⟨Chain.single hturn rfl, ?_⟩
          rw [hpost.1]
          refine ⟨hc, hnul, Nat.le_refl _, fun _ req' hreq' => ?_⟩
          rw [hreq] at hreq'
          cases hreq'
          exact hpost.2

theorem recvBytes_length_le {r : RecvResult} {want : Nat} {bytes : Bytes}
    (h : recvBytes r want = some bytes) : bytes.length ≤ want := by
  unfold recvBytes at h
  split at h
  · split at h
    · cases h
    · cases h
      exact List.length_take_le _ _
  · cases h
    exact Nat.zero_le _
  · cases h

theorem pollClient_turns (srv : RtspConf) (now : UInt64) (io : ClientIo) {c : RtspClient}
    (hrx : RxFits c) :
    Turns c (pollClient srv now io c).2 (pollClient srv now io c).1 := by
  unfold pollClient
  by_cases hopen : c.tcpFd < 0
  · rw [if_pos hopen]
    exact .nil
  · rw [if_neg hopen]
    have hc : 0 ≤ c.tcpFd := by omega
    split
    · exact Chain.single (.hangup hc) rfl
    · rename_i bytes hbytes
      have hlen := recvBytes_length_le hbytes
      have hrecv : Turns c [⟨srv, c, .recv bytes, [], storeReceived c bytes⟩]
          (storeReceived c bytes) := Chain.single (.recv hc hlen) rfl
      have hrx₁ := storeReceived_rxFits hrx hlen
      have hopen₁ : 0 ≤ (storeReceived c bytes).tcpFd := hc
      obtain ⟨hturns, hc₂, hnul₂, _, hheld⟩ := drainRequests_turns srv io.request sizeofRxbuf 0
        hopen₁ (storeReceived_terminated c bytes)
      have hsettled : Turn ⟨srv, _, .settle, [], settle _⟩ :=
        .settle hc₂ hnul₂ (hheld (Nat.lt_of_le_of_lt hrx₁ (by decide)))
      have hsettle : Turns _ _ _ := Chain.single hsettled rfl
      have hlog := (hrecv.append hturns).append hsettle
      simp only
      split
      · rename_i hdue
        have hc₃ : 0 ≤ (settle (drainRequests srv io.request sizeofRxbuf 0
            (storeReceived c bytes)).1).tcpFd := by
          unfold settle
          split <;> exact hc₂
        exact hlog.append (Chain.single (.metadata hc₃ hdue rfl) rfl)
      · exact hlog

/-- The moves of `drain_requests` are calls of `handle_request`. -/
theorem drainRequests_mem {srv : RtspConf} {io : Nat → RequestIo} {fuel n : Nat} {c : RtspClient}
    {m : Move} (hm : m ∈ (drainRequests srv io fuel n c).2) :
    ∃ k c' req, m = requestMove srv c' (io k) req := by
  induction fuel generalizing n c with
  | zero => cases hm
  | succ fuel ih =>
      simp only [drainRequests] at hm
      split at hm
      · cases hm
      · next req hreq =>
        split at hm
        · rcases List.mem_cons.mp hm with rfl | hm
          · exact ⟨n, c, req, rfl⟩
          · exact ih hm
        · exact ⟨n, c, req, List.mem_singleton.mp hm⟩

/-- What `recv`, `drain_requests` and the check for a full buffer do in a poll. -/
def receiveLog (srv : RtspConf) (c : RtspClient) (bytes : Bytes) (d : RtspClient × List Move) :
    List Move :=
  ⟨srv, c, .recv bytes, [], storeReceived c bytes⟩ :: d.2 ++ [⟨srv, d.1, .settle, [], settle d.1⟩]

theorem pollClient_of_recv (srv : RtspConf) (now : UInt64) {io : ClientIo} {c : RtspClient}
    {bytes : Bytes} (hopen : 0 ≤ c.tcpFd)
    (hrecv : recvBytes io.recv (sizeofRxbuf - 1 - c.rxlen) = some bytes)
    {d : RtspClient × List Move}
    (hd : drainRequests srv io.request sizeofRxbuf 0 (storeReceived c bytes) = d) :
    pollClient srv now io c =
      if metadataDue (settle d.1) now then
        ((metadataMove srv io.metadata (settle d.1)).post,
          receiveLog srv c bytes d ++ [metadataMove srv io.metadata (settle d.1)])
      else (settle d.1, receiveLog srv c bytes d) := by
  unfold pollClient
  rw [if_neg (Int.not_lt.mpr hopen), hrecv, ← hd]
  rfl

theorem mem_receiveLog {srv : RtspConf} {c : RtspClient} {bytes : Bytes}
    {d : RtspClient × List Move} {m : Move} :
    m ∈ receiveLog srv c bytes d ↔ m = ⟨srv, c, .recv bytes, [], storeReceived c bytes⟩ ∨
      m ∈ d.2 ∨ m = ⟨srv, d.1, .settle, [], settle d.1⟩ := by
  unfold receiveLog
  rw [List.mem_append, List.mem_cons, List.mem_singleton, or_assoc]

/-- The moves of a client's turn in a poll. -/
theorem pollClient_mem {srv : RtspConf} {now : UInt64} {io : ClientIo} {c : RtspClient} {m : Move}
    (hm : m ∈ (pollClient srv now io c).2) : 0 ≤ c.tcpFd ∧
    ((recvBytes io.recv (sizeofRxbuf - 1 - c.rxlen) = none ∧
      m = ⟨srv, c, .hangup, (clientReset c).2, clientInit⟩) ∨
    ∃ bytes d, recvBytes io.recv (sizeofRxbuf - 1 - c.rxlen) = some bytes ∧
      drainRequests srv io.request sizeofRxbuf 0 (storeReceived c bytes) = d ∧
      (m ∈ receiveLog srv c bytes d ∨ m = metadataMove srv io.metadata (settle d.1))) := by
  by_cases hclosed : c.tcpFd < 0
  · unfold pollClient at hm
    rw [if_pos hclosed] at hm
    cases hm
  · refine ⟨Int.not_lt.mp hclosed, ?_⟩
    cases hrecv : recvBytes io.recv (sizeofRxbuf - 1 - c.rxlen) with
    | none =>
        unfold pollClient at hm
        rw [if_neg hclosed, hrecv] at hm
        exact .inl ⟨rfl, List.mem_singleton.mp hm⟩
    | some bytes =>
        refine .inr ⟨bytes, _, rfl, rfl, ?_⟩
        rw [pollClient_of_recv srv now (Int.not_lt.mp hclosed) hrecv rfl] at hm
        split at hm
        · rw [List.mem_append, List.mem_singleton] at hm
          exact hm
        · exact .inl hm

theorem skipPush_turns (srv : RtspConf) {p : Push} {c : RtspClient}
    (hskip : (0 ≤ c.tcpFd ∧ c.playing = true ∧ (c.streamId : Int) = p.streamId ∧
      (c.tracks .video).active = true ∧ c.streamId < rtspStreamCount) →
      p.nal = [] ∨ nalType p.nal = nalSei ∨ (c.waitingForSps = true ∧ nalType p.nal ≠ nalSps)) :
    Turns c (skipPush srv p c).2 (skipPush srv p c).1 :=
  Chain.single (.skip hskip) rfl

theorem pushClient_turns (srv : RtspConf) (p : Push) (answers : Nat → List SendResult)
    (c : RtspClient) (hnal : p.nal ≠ []) (hsei : nalType p.nal ≠ nalSei) :
    Turns c (pushClient srv p answers c).2 (pushClient srv p answers c).1 := by
  unfold pushClient
  split
  · rename_i hguard
    refine skipPush_turns srv fun h => ?_
    obtain ⟨hc, hplaying, hstream, hactive, _⟩ := h
    simp [hplaying, hstream, hactive] at hguard
    omega
  · rename_i hguard
    simp only [not_or, Bool.not_eq_true', Bool.not_eq_false, not_not] at hguard
    obtain ⟨hc, hplaying, hstream, hactive⟩ := hguard
    split
    · rename_i hwait
      exact skipPush_turns srv fun _ => .inr (.inr hwait)
    · rename_i hwait
      have hsps : c.waitingForSps = true → nalType p.nal = nalSps := by
        intro h
        by_contra hne
        exact hwait ⟨h, hne⟩
      exact Chain.single (.push (by omega) hplaying hstream hactive hnal hsei hsps) rfl

/-! ## The loop over the clients -/

theorem slotLog_append (i : Slot) (l l' : List Record) :
    slotLog i (l ++ l') = slotLog i l ++ slotLog i l' := List.filterMap_append

theorem slotLog_map_move (i j : Slot) (ms : List Move) :
    slotLog i (ms.map (Record.move j)) = if j = i then ms else [] := by
  induction ms with
  | nil => simp [slotLog]
  | cons m ms ih =>
      by_cases h : j = i
      · simp_all [slotLog]
      · simp_all [slotLog]

theorem slotLog_map_server (i : Slot) (outs : List Out) :
    slotLog i (outs.map Record.server) = [] := by
  induction outs with
  | nil => rfl
  | cons o outs ih => exact ih

theorem clientRound_spec (f : Slot → RtspClient → RtspClient × List Move)
    (acc : RtspServer × List Record) (i j : Slot) :
    (clientRound f acc j).1.toRtspConf = acc.1.toRtspConf ∧
      (clientRound f acc j).1.clients i =
        (if i = j then (f i (acc.1.clients i)).1 else acc.1.clients i) ∧
      slotLog i (clientRound f acc j).2 =
        slotLog i acc.2 ++ if i = j then (f i (acc.1.clients i)).2 else [] := by
  simp only [clientRound, RtspServer.setClient, slotLog_append, slotLog_map_move]
  by_cases hij : i = j
  · subst hij
    simp
  · simp [hij, Ne.symm hij]

theorem foldl_clientRound (f : Slot → RtspClient → RtspClient × List Move) (l : List Slot)
    (hl : l.Nodup) (acc : RtspServer × List Record) :
    (l.foldl (clientRound f) acc).1.toRtspConf = acc.1.toRtspConf ∧
      ∀ i, (l.foldl (clientRound f) acc).1.clients i =
          (if i ∈ l then (f i (acc.1.clients i)).1 else acc.1.clients i) ∧
        slotLog i (l.foldl (clientRound f) acc).2 =
          slotLog i acc.2 ++ if i ∈ l then (f i (acc.1.clients i)).2 else [] := by
  induction l generalizing acc with
  | nil => simp
  | cons j l ih =>
      obtain ⟨hj, hl⟩ := List.nodup_cons.mp hl
      obtain ⟨hconf, hslots⟩ := ih hl (clientRound f acc j)
      rw [List.foldl_cons]
      refine ⟨hconf.trans (clientRound_spec f acc j j).1, fun i => ?_⟩
      obtain ⟨-, hclient, hlog⟩ := clientRound_spec f acc i j
      rw [(hslots i).1, (hslots i).2, hclient, hlog]
      by_cases hij : i = j
      · subst hij
        simp [hj]
      · simp [hij]

/-- The loop handles each client once, and each on its own. -/
theorem forClients_spec (f : Slot → RtspClient → RtspClient × List Move) (srv : RtspServer) :
    (forClients f srv).1.toRtspConf = srv.toRtspConf ∧
      ∀ i, (forClients f srv).1.clients i = (f i (srv.clients i)).1 ∧
        slotLog i (forClients f srv).2 = (f i (srv.clients i)).2 := by
  obtain ⟨hconf, hslots⟩ := foldl_clientRound f (List.finRange rtspMaxClients)
    (List.nodup_finRange _) (srv, [])
  rw [forClients]
  refine ⟨hconf, fun i => ?_⟩
  rw [(hslots i).1, (hslots i).2, if_pos (List.mem_finRange i), if_pos (List.mem_finRange i)]
  exact ⟨rfl, List.nil_append _⟩

theorem forClients_turns (f : Slot → RtspClient → RtspClient × List Move) (srv : RtspServer)
    (i : Slot) (h : Turns (srv.clients i) (f i (srv.clients i)).2 (f i (srv.clients i)).1) :
    Turns (srv.clients i) (slotLog i (forClients f srv).2) ((forClients f srv).1.clients i) := by
  obtain ⟨hclient, hlog⟩ := (forClients_spec f srv).2 i
  rw [hclient, hlog]
  exact h

theorem run_append (srv : RtspServer) (evs evs' : List Event) :
    run srv (evs ++ evs') =
      ((run (run srv evs).1 evs').1, (run srv evs).2 ++ (run (run srv evs).1 evs').2) := by
  induction evs generalizing srv with
  | nil => rfl
  | cons e evs ih =>
      rw [List.cons_append, run, ih]
      simp only [run, List.append_assoc]

theorem pushClient_move (srv : RtspConf) (p : Push) (answers : Nat → List SendResult)
    (c : RtspClient) : ∃ m, (pushClient srv p answers c).2 = [m] ∧ m.act = .push p := by
  unfold pushClient
  split
  · exact ⟨_, rfl, rfl⟩
  · split <;> exact ⟨_, rfl, rfl⟩

theorem cacheParamSet_listenFd (srv : RtspConf) (s : Nat) (nal : Bytes) :
    (cacheParamSet srv s nal).listenFd = srv.listenFd := by
  unfold cacheParamSet
  split
  · rfl
  · split <;> rfl

/-- A call of `rtsp_server_push_nal` is one move of every slot, under the
configuration that the NAL may have changed. -/
theorem rtspServerPushNal_eq (srv : RtspServer) (p : Push)
    (answers : Slot → Nat → List SendResult) :
    ∃ conf f, conf.listenFd = srv.listenFd ∧
      rtspServerPushNal srv p answers = forClients f { srv with toRtspConf := conf } ∧
      ∀ i c, Turns c (f i c).2 (f i c).1 ∧ ∃ m, (f i c).2 = [m] ∧ m.act = .push p := by
  unfold rtspServerPushNal
  by_cases hguard : p.streamId < 0 ∨ (rtspStreamCount : Int) ≤ p.streamId ∨ p.nal.isEmpty
  · rw [if_pos hguard]
    refine ⟨srv.toRtspConf, _, rfl, rfl, fun i c => ⟨skipPush_turns _ fun h => ?_, _, rfl, rfl⟩⟩
    obtain ⟨_, _, hstream, _, hlt⟩ := h
    rcases hguard with hneg | hge | hempty
    · omega
    · omega
    · exact .inl (List.isEmpty_iff.mp hempty)
  · rw [if_neg hguard]
    have hnal : p.nal ≠ [] := fun h => hguard (.inr (.inr (List.isEmpty_iff.mpr h)))
    refine ⟨_, _, cacheParamSet_listenFd _ p.streamId.toNat p.nal,
      (apply_ite (fun f => forClients f _) _ _ _).symm, fun i c => ?_⟩
    by_cases hsei : nalType p.nal = nalSei
    · rw [if_pos hsei]
      exact ⟨skipPush_turns _ fun _ => .inr (.inl hsei), _, rfl, rfl⟩
    · rw [if_neg hsei]
      exact ⟨pushClient_turns _ p (answers i) c hnal hsei, pushClient_move _ p (answers i) c⟩

theorem rtspServerPushNal_move (srv : RtspServer) (p : Push)
    (answers : Slot → Nat → List SendResult) (i : Slot) :
    ∃ m, slotLog i (rtspServerPushNal srv p answers).2 = [m] ∧ m.act = .push p := by
  obtain ⟨conf, f, -, heq, hf⟩ := rtspServerPushNal_eq srv p answers
  rw [heq, ((forClients_spec _ _).2 i).2]
  exact (hf i _).2

/-! ## Runs -/

theorem Turn.rxFits {m : Move} (hrx : RxFits m.pre) (h : Turn m) : RxFits m.post := by
  unfold RxFits at *
  cases h with
  | recv _ hlen => exact storeReceived_rxFits hrx hlen
  | @request srv c io req _ _ hreq =>
      have hsame := (handleRequest_effect srv c io req).sameConnection
      simp only [requestMove] at hrx ⊢
      split
      · show (handleRequest srv c io req).client.rxlen - req.length ≤ _
        rw [hsame.rxlen]
        omega
      · rw [hsame.rxlen]
        exact hrx
  | settle => exact settle_rxFits _
  | accept | hangup | close =>
      show 0 ≤ sizeofRxbuf - 1
      omega
  | metadata | skip | push => exact hrx

/-- An accepted connection goes to a slot that is free. -/
theorem acceptClient_slot (srv : RtspServer) (fd : Int) (peer : SockAddr) (i : Slot) :
    ((acceptClient srv fd peer).1.clients i = srv.clients i ∧
      slotLog i (acceptClient srv fd peer).2 = []) ∨
    (0 ≤ fd ∧ (srv.clients i).tcpFd < 0 ∧
      (acceptClient srv fd peer).1.clients i = acceptedClient fd peer ∧
      slotLog i (acceptClient srv fd peer).2 = [⟨srv.toRtspConf, srv.clients i, .accept fd peer,
        .opened fd :: (clientReset (srv.clients i)).2, acceptedClient fd peer⟩]) := by
  unfold acceptClient
  split
  · exact .inl ⟨rfl, rfl⟩
  · next hfd =>
    split
    · exact .inl ⟨rfl, rfl⟩
    · next j hj =>
      have hfree := List.find?_some hj
      by_cases hij : j = i
      · subst hij
        refine .inr ⟨Int.not_lt.mp hfd, by simpa using hfree, if_pos rfl, ?_⟩
        simp [slotLog]
      · refine .inl ⟨if_neg (Ne.symm hij), ?_⟩
        simp [slotLog, hij]

theorem acceptClient_turns (srv : RtspServer) (fd : Int) (peer : SockAddr) (i : Slot) :
    Turns (srv.clients i) (slotLog i (acceptClient srv fd peer).2)
      ((acceptClient srv fd peer).1.clients i) := by
  rcases acceptClient_slot srv fd peer i with ⟨hsame, hnone⟩ | ⟨hfd, hfree, hnew, hone⟩
  · rw [hsame, hnone]
    exact .nil
  · rw [hnew, hone]
    exact Chain.single (.accept hfd hfree) rfl

theorem acceptClient_act {srv : RtspServer} {fd : Int} {peer : SockAddr} {i : Slot} {m : Move}
    (hm : m ∈ slotLog i (acceptClient srv fd peer).2) : m.act = .accept fd peer := by
  rcases acceptClient_slot srv fd peer i with ⟨-, hnone⟩ | ⟨-, -, -, hone⟩
  · rw [hnone] at hm
    cases hm
  · rw [hone, List.mem_singleton] at hm
    rw [hm]

theorem rtspServerPushNal_turns (srv : RtspServer) (p : Push)
    (answers : Slot → Nat → List SendResult) (i : Slot) :
    Turns (srv.clients i) (slotLog i (rtspServerPushNal srv p answers).2)
      ((rtspServerPushNal srv p answers).1.clients i) := by
  obtain ⟨conf, f, -, heq, hf⟩ := rtspServerPushNal_eq srv p answers
  rw [heq]
  exact forClients_turns f { srv with toRtspConf := conf } i (hf i _).1

/-- A call of a server function moves every client by turns of its own. -/
theorem apply_turns (srv : RtspServer) (e : Event)
    (hrx : ∀ i, RxFits (srv.clients i)) (i : Slot) :
    Turns (srv.clients i) (slotLog i (e.apply srv).2) ((e.apply srv).1.clients i) := by
  cases e with
  | poll io =>
      have haccept := acceptClient_turns srv io.acceptFd io.peer i
      have hrx' := (haccept.invariant (hrx i) fun _ => Turn.rxFits).2
      show Turns _ (slotLog i (_ ++ _)) _
      rw [slotLog_append]
      exact haccept.append (forClients_turns _ _ i (pollClient_turns _ _ _ hrx'))
  | pushNal p answers => exact rtspServerPushNal_turns srv p answers i
  | setCredentials | useShadow | onIdrRequest => exact .nil
  | enableStream id fps =>
      simp only [Event.apply, rtspServerEnableStream]
      split <;> exact .nil
  | close =>
      simp only [Event.apply, rtspServerClose]
      rw [slotLog_append, slotLog_map_server, List.append_nil]
      exact forClients_turns _ srv i (Chain.single .close rfl)

theorem run_turns (srv : RtspServer) (evs : List Event)
    (hrx : ∀ i, RxFits (srv.clients i)) (i : Slot) :
    Turns (srv.clients i) (slotLog i (run srv evs).2) ((run srv evs).1.clients i) := by
  induction evs generalizing srv with
  | nil => exact .nil
  | cons e evs ih =>
      have hturns := fun j => apply_turns srv e hrx j
      simp only [run]
      rw [slotLog_append]
      exact (hturns i).append (ih _ fun j =>
        ((hturns j).invariant (hrx j) fun _ => Turn.rxFits).2)

theorem initialServer_clients (io : InitIo) (i : Slot) :
    (initialServer io).clients i = clientInit := by
  unfold initialServer rtspServerInit
  split
  · rfl
  · split <;> rfl

/-- In every run, what happens to a slot is a chain of turns of one client, from
the client `client_init` makes. -/
theorem history_chain (io : InitIo) (evs : List Event) (i : Slot) :
    Turns clientInit (history io evs i) ((run (initialServer io) evs).1.clients i) := by
  have h := run_turns (initialServer io) evs
    (fun j => by rw [initialServer_clients]; exact Nat.zero_le _) i
  rw [initialServer_clients] at h
  exact h

end Rtsp
end FH8852
