import FH8852.Rtsp.Turn

/-!
# The receive buffers

What a poll does with `rxbuf` and `rxlen` stays inside the arrays, asks `recv` for at
least a byte, and ends; only the end of the connection resets a client.
-/

namespace FH8852
namespace Rtsp

open CLib History

/-- `recv` returns 0 or an error other than `EAGAIN`. -/
def RecvResult.Ended (r : RecvResult) : Prop := r = .closed ∨ r = .data []

/-- Between two polls at least a byte is free, beside the one for the NUL. -/
def AtRest (c : RtspClient) : Prop := c.rxlen ≤ sizeofRxbuf - 2

/-- The copies of a round of `drain_requests` stay inside `rxbuf` and `req`. -/
structure CopiesInside (c : RtspClient) (req : Bytes) : Prop where
  /-- `req[req_len]` is there for the NUL. -/
  req_fits : req.length < sizeofRxbuf
  /-- `c->rxlen - req_len` does not wrap. -/
  rx_fits : req.length ≤ c.rxlen
  /-- The source of `memmove` ends inside `rxbuf`. -/
  move_fits : req.length + (c.rxlen - req.length + 1) ≤ sizeofRxbuf

/-- A call of `handle_request` copies inside the arrays, and one that handles its
request shortens what is received. -/
def Move.BuffersOk (m : Move) : Prop :=
  ∀ io req done, m.act = .request io req done → CopiesInside m.pre req ∧
    (done = true → m.post.rxlen + req.length = m.pre.rxlen ∧ m.post.rxlen < m.pre.rxlen)

/-- A client that is connected is reset. -/
def Move.Resets (m : Move) : Prop := m.act = .hangup ∨ 0 ≤ m.pre.tcpFd ∧ m.post.tcpFd < 0

/-- What holds of a poll that starts with `srv`. -/
structure BuffersSound (srv : RtspServer) (io : PollIo) : Prop where
  start : ∀ i, 0 ≤ (srv.clients i).tcpFd → (srv.clients i).rxlen ≤ 4094
  /-- The length that `recv` is asked for. -/
  asks : ∀ i, 0 ≤ ((acceptClient srv io.acceptFd io.peer).1.clients i).tcpFd →
    1 ≤ sizeofRxbuf - 1 - ((acceptClient srv io.acceptFd io.peer).1.clients i).rxlen
  copies : ∀ i, ∀ m ∈ slotLog i (rtspServerPoll srv io).2, m.BuffersOk
  /-- The loop of `drain_requests` ends by itself: more rounds change nothing. -/
  drains : ∀ i bytes, 0 ≤ ((acceptClient srv io.acceptFd io.peer).1.clients i).tcpFd →
    recvBytes (io.client i).recv
      (sizeofRxbuf - 1 - ((acceptClient srv io.acceptFd io.peer).1.clients i).rxlen) = some bytes →
    ∀ fuel, sizeofRxbuf ≤ fuel →
      drainRequests (acceptClient srv io.acceptFd io.peer).1.toRtspConf (io.client i).request fuel 0
          (storeReceived ((acceptClient srv io.acceptFd io.peer).1.clients i) bytes) =
        drainRequests (acceptClient srv io.acceptFd io.peer).1.toRtspConf (io.client i).request
          sizeofRxbuf 0 (storeReceived ((acceptClient srv io.acceptFd io.peer).1.clients i) bytes)
  resets : ∀ i, ∀ m ∈ slotLog i (rtspServerPoll srv io).2, m.Resets → (io.client i).recv.Ended
  finish : ∀ i, 0 ≤ ((rtspServerPoll srv io).1.clients i).tcpFd →
    ((rtspServerPoll srv io).1.clients i).rxbuf ((rtspServerPoll srv io).1.clients i).rxlen = 0 ∨
      ((rtspServerPoll srv io).1.clients i).rxlen = 0

/-! ## Rounds of `drain_requests` -/

/-- A round that handles its request leaves less behind. -/
theorem Turn.buffersOk {m : Move} (h : Turn m) (hrx : RxFits m.pre) : m.BuffersOk := by
  unfold RxFits at hrx
  intro io' req' done' hact
  cases h with
  | @request srv c io req hc hnul hreq =>
      have hle := nextRequest_length_le hreq hnul
      have hpos := (nextRequest_spec hreq).2
      have hpre : c.rxlen ≤ sizeofRxbuf - 1 := hrx
      injection hact with _ hreq' hdone
      subst hreq'
      refine ⟨⟨by omega, hle, ?_⟩, fun htrue => ?_⟩
      · show req.length + (c.rxlen - req.length + 1) ≤ sizeofRxbuf
        omega
      · have hlen := (requestMove_consumed srv io hnul hreq (hdone.trans htrue)).rxlen
        refine ⟨hlen, ?_⟩
        show _ < c.rxlen
        omega
  | accept | recv | hangup | settle | metadata | skip | push | close => cases hact

/-- All the moves of a chain that starts with room for the NUL. -/
theorem turns_buffersOk {c c' : RtspClient} {l : List Move} (h : Turns c l c') (hrx : RxFits c) :
    ∀ m ∈ l, m.BuffersOk := by
  intro m hm
  obtain ⟨hturn, hfits⟩ := (h.invariant hrx fun _ => Turn.rxFits).1.ok_of_mem hm
  exact hturn.buffersOk hfits

/-- Once the rounds are more than the bytes, their number does not matter. -/
theorem drainRequests_fuel (srv : RtspConf) (io : Nat → RequestIo) {fuel fuel' : Nat} (n : Nat)
    {c : RtspClient} (hnul : c.rxbuf c.rxlen = 0) (h : c.rxlen < fuel) (h' : c.rxlen < fuel') :
    drainRequests srv io fuel n c = drainRequests srv io fuel' n c := by
  induction fuel generalizing fuel' n c with
  | zero => exact absurd h (Nat.not_lt_zero _)
  | succ fuel ih =>
      obtain ⟨fuel', rfl⟩ := Nat.exists_eq_succ_of_ne_zero (by omega : fuel' ≠ 0)
      simp only [drainRequests]
      split
      · rfl
      · next req hreq =>
        split
        · next hdone =>
          have hconsumed := requestMove_consumed srv (io n) hnul hreq hdone
          have hpos := (nextRequest_spec hreq).2
          have hlen := hconsumed.rxlen
          rw [ih (n + 1) hconsumed.terminated (by omega) (by omega : _ < fuel')]
        · rfl

/-! ## One client -/

theorem settle_atRest (c : RtspClient) : AtRest (settle c) := by
  unfold settle AtRest
  split_ifs with h
  · exact Nat.zero_le _
  · omega

theorem settle_finish {c : RtspClient} (hnul : c.rxbuf c.rxlen = 0) :
    (settle c).rxbuf (settle c).rxlen = 0 ∨ (settle c).rxlen = 0 := by
  unfold settle
  split_ifs
  · exact .inr rfl
  · exact .inl hnul

theorem settle_tcpFd (c : RtspClient) : (settle c).tcpFd = c.tcpFd := by
  unfold settle
  split <;> rfl

theorem recvBytes_ended {r : RecvResult} {want : Nat} (h : recvBytes r want = none)
    (hwant : 1 ≤ want) : r.Ended := by
  cases r with
  | closed => exact .inl rfl
  | wouldBlock => cases h
  | data bytes =>
      simp only [recvBytes] at h
      split at h
      · next hempty =>
        rw [List.isEmpty_iff, List.take_eq_nil_iff] at hempty
        rcases hempty with hzero | hnil
        · omega
        · exact .inr (congrArg _ hnil)
      · cases h

theorem stays_connected {m : Move} (hact : m.act ≠ .hangup) (hfd : m.post.tcpFd = m.pre.tcpFd) :
    ¬ m.Resets := by
  intro h
  cases h with
  | inl hangup => exact hact hangup
  | inr hreset => omega

theorem metadataMove_sameConnection (srv : RtspConf) (io : MetadataIo) (c : RtspClient) :
    SameConnection c (metadataMove srv io c).post := by
  simp only [metadataMove, RtspClient.setTrack]
  exact ⟨rfl, rfl, rfl, rfl⟩

theorem requestMove_connected (srv : RtspConf) (c : RtspClient) (io : RequestIo) (req : Bytes) :
    ¬ (requestMove srv c io req).Resets := by
  have hsame := (handleRequest_effect srv c io req).sameConnection.tcpFd
  refine stays_connected nofun ?_
  simp only [requestMove]
  split
  · exact hsame
  · exact hsame

/-- What a poll leaves of one client. -/
structure Polled (io : ClientIo) (c : RtspClient) (log : List Move) : Prop where
  atRest : AtRest c
  resets : ∀ m ∈ log, m.Resets → io.recv.Ended
  finish : 0 ≤ c.tcpFd → c.rxbuf c.rxlen = 0 ∨ c.rxlen = 0

theorem receiveLog_connected {srv : RtspConf} {c : RtspClient} {bytes : Bytes}
    {io : Nat → RequestIo} {fuel : Nat} :
    ∀ m ∈ receiveLog srv c bytes (drainRequests srv io fuel 0 (storeReceived c bytes)),
      ¬ m.Resets := by
  intro m hm
  rcases mem_receiveLog.mp hm with rfl | hm | rfl
  · exact stays_connected nofun rfl
  · obtain ⟨k, c', req, rfl⟩ := drainRequests_mem hm
    exact requestMove_connected srv c' (io k) req
  · exact stays_connected nofun (settle_tcpFd _)

theorem pollClient_resets {srv : RtspConf} {now : UInt64} {io : ClientIo} {c : RtspClient}
    (hc : AtRest c) : ∀ m ∈ (pollClient srv now io c).2, m.Resets → io.recv.Ended := by
  have hsize : sizeofRxbuf = 4096 := rfl
  unfold AtRest at hc
  intro m hm hreset
  rcases (pollClient_mem hm).2 with ⟨hnone, -⟩ | ⟨bytes, d, -, rfl, hlog | rfl⟩
  · exact recvBytes_ended hnone (by omega)
  · exact absurd hreset (receiveLog_connected m hlog)
  · exact absurd hreset (stays_connected nofun (metadataMove_sameConnection _ _ _).tcpFd)

theorem pollClient_sameConnection (srv : RtspConf) (now : UInt64) {io : ClientIo} {c : RtspClient}
    {bytes : Bytes} (hopen : 0 ≤ c.tcpFd)
    (hrecv : recvBytes io.recv (sizeofRxbuf - 1 - c.rxlen) = some bytes) :
    SameConnection (settle (drainRequests srv io.request sizeofRxbuf 0 (storeReceived c bytes)).1)
      (pollClient srv now io c).1 := by
  rw [pollClient_of_recv srv now hopen hrecv rfl]
  split
  · exact metadataMove_sameConnection _ _ _
  · exact ⟨rfl, rfl, rfl, rfl⟩

theorem pollClient_polled (srv : RtspConf) (now : UInt64) (io : ClientIo) {c : RtspClient}
    (hc : AtRest c) : Polled io (pollClient srv now io c).1 (pollClient srv now io c).2 := by
  have hresets : ∀ m ∈ (pollClient srv now io c).2, m.Resets → io.recv.Ended :=
    pollClient_resets hc
  by_cases hclosed : c.tcpFd < 0
  · unfold pollClient at hresets ⊢
    rw [if_pos hclosed] at hresets ⊢
    exact ⟨hc, hresets, fun hopen => absurd hclosed (Int.not_lt.mpr hopen)⟩
  · have hopen := Int.not_lt.mp hclosed
    cases hrecv : recvBytes io.recv (sizeofRxbuf - 1 - c.rxlen) with
    | none =>
        unfold pollClient at hresets ⊢
        rw [if_neg hclosed, hrecv] at hresets ⊢
        exact ⟨Nat.zero_le _, hresets, fun h => absurd h (show ¬ (0 : Int) ≤ -1 by decide)⟩
    | some bytes =>
        have hnul := (drainRequests_turns srv io.request sizeofRxbuf 0
          (show 0 ≤ (storeReceived c bytes).tcpFd from hopen)
            (storeReceived_terminated c bytes)).2.2.1
        have hsame := pollClient_sameConnection srv now hopen hrecv
        constructor
        case atRest =>
          unfold AtRest
          rw [hsame.rxlen]
          exact settle_atRest _
        case resets => exact hresets
        case finish =>
          intro _
          rw [hsame.rxbuf, hsame.rxlen]
          exact settle_finish hnul

/-! ## The server -/

theorem acceptClient_atRest {srv : RtspServer} (h : ∀ i, AtRest (srv.clients i)) (fd : Int)
    (peer : SockAddr) (i : Slot) : AtRest ((acceptClient srv fd peer).1.clients i) := by
  rcases acceptClient_slot srv fd peer i with ⟨hsame, -⟩ | ⟨-, -, hnew, -⟩
  · rw [hsame]
    exact h i
  · rw [hnew]
    exact Nat.zero_le _

theorem Turn.push_atRest {m : Move} {p : Push} (h : Turn m) (hact : m.act = .push p)
    (hc : AtRest m.pre) : AtRest m.post := by
  cases h with
  | skip | push => exact hc
  | accept | recv | hangup | request | settle | metadata | close => cases hact

/-- Every call of a server function leaves room for another byte in every buffer. -/
theorem apply_atRest (srv : RtspServer) (e : Event) (h : ∀ i, AtRest (srv.clients i)) (i : Slot) :
    AtRest ((e.apply srv).1.clients i) := by
  cases e with
  | poll io =>
      simp only [Event.apply, rtspServerPoll]
      rw [((forClients_spec _ _).2 i).1]
      exact (pollClient_polled _ _ _ (acceptClient_atRest h io.acceptFd io.peer i)).atRest
  | pushNal p answers =>
      obtain ⟨m, hlog, hact⟩ := rtspServerPushNal_move srv p answers i
      have hturns := rtspServerPushNal_turns srv p answers i
      rw [hlog] at hturns
      have hpush := hturns.strengthen fun _ hm hturn =>
        And.intro hturn ((congrArg Move.act (List.mem_singleton.mp hm)).trans hact)
      exact (hpush.invariant (h i) fun _ hc hm => hm.1.push_atRest hm.2 hc).2
  | setCredentials | useShadow | onIdrRequest => exact h i
  | enableStream id fps =>
      simp only [Event.apply, rtspServerEnableStream]
      split <;> exact h i
  | close =>
      simp only [Event.apply, rtspServerClose]
      rw [((forClients_spec _ _).2 i).1]
      exact Nat.zero_le _

theorem run_atRest (srv : RtspServer) (evs : List Event) (h : ∀ i, AtRest (srv.clients i))
    (i : Slot) : AtRest ((run srv evs).1.clients i) := by
  induction evs generalizing srv with
  | nil => exact h i
  | cons e evs ih => exact ih _ (apply_atRest srv e h)

theorem AtRest.rxFits {c : RtspClient} (h : AtRest c) : RxFits c := Nat.le_trans h (by decide)

/-- In every run, whatever the clients send, every poll keeps to the arrays, asks
`recv` for at least a byte, ends, and gives up a connection only when `recv` reports
its end. -/
theorem poll_buffers_sound (init : InitIo) (evs : List Event) (io : PollIo) :
    BuffersSound (run (initialServer init) evs).1 io := by
  have hrest := run_atRest (initialServer init) evs
    (fun i => by rw [initialServer_clients]; exact Nat.zero_le _)
  generalize (run (initialServer init) evs).1 = srv at hrest ⊢
  have haccepted := acceptClient_atRest hrest io.acceptFd io.peer
  have hpolled := fun i => pollClient_polled (acceptClient srv io.acceptFd io.peer).1.toRtspConf
    io.nowUs (io.client i) (haccepted i)
  have hspec := fun i => (forClients_spec (fun i => pollClient
    (acceptClient srv io.acceptFd io.peer).1.toRtspConf io.nowUs (io.client i))
    (acceptClient srv io.acceptFd io.peer).1).2 i
  have hsize : sizeofRxbuf = 4096 := rfl
  constructor
  case start => exact fun i _ => hrest i
  case asks =>
    intro i _
    have hroom := haccepted i
    unfold AtRest at hroom
    omega
  case copies =>
    intro i
    exact turns_buffersOk (apply_turns srv (.poll io) (fun j => (hrest j).rxFits) i)
      (hrest i).rxFits
  case drains =>
    intro i bytes _ hbytes fuel hfuel
    have hfits := storeReceived_rxFits (haccepted i).rxFits (recvBytes_length_le hbytes)
    have hlt := Nat.lt_of_le_of_lt hfits (show sizeofRxbuf - 1 < sizeofRxbuf by decide)
    exact drainRequests_fuel _ _ 0 (storeReceived_terminated _ bytes) (by omega) hlt
  case resets =>
    intro i m hm hreset
    have hm : m ∈ slotLog i (_ ++ _) := hm
    rw [slotLog_append, (hspec i).2] at hm
    rcases List.mem_append.mp hm with haccept | hpoll
    · rcases acceptClient_slot srv io.acceptFd io.peer i with ⟨-, hnone⟩ | ⟨-, hfree, -, hone⟩
      · rw [hnone] at haccept
        cases haccept
      · rw [hone, List.mem_singleton] at haccept
        subst haccept
        cases hreset with
        | inl hangup => cases hangup
        | inr hopen => exact absurd hopen.1 (Int.not_le.mpr hfree)
    · exact (hpolled i).resets m hpoll hreset
  case finish =>
    intro i
    have hclient : (rtspServerPoll srv io).1.clients i = _ := (hspec i).1
    rw [hclient]
    exact (hpolled i).finish

end Rtsp
end FH8852
