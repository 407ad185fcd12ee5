import FH8852.Rtsp.Isolation
import FH8852.Rtsp.Receive

/-!
# Where requests begin

What is in `rxbuf` is always the end of what the connection has received, so a
request begins at a blank line of the stream as long as the buffer is not emptied
between two of them.
-/

namespace FH8852
namespace Rtsp

open CLib History

/-- The bytes begin at the beginning of the stream or after a blank line in it. -/
def AtBoundary (stream bytes : Bytes) : Prop :=
  ∃ before, stream = before ++ bytes ∧ (before = [] ∨ blankLine <:+ before)

/-- What the move hands to `handle_request` begins at a boundary of the stream. -/
def BeginsRequest (w : List Move) (m : Move) : Prop :=
  ∀ io req done, m.act = .request io req done →
    req <+: rx m.pre ∧ AtBoundary (received w) (rx m.pre)

/-- A full buffer is emptied that does not end in a blank line. -/
def Move.cutsRequest (m : Move) : Bool :=
  m.overflows && !blankLine.isSuffixOf (rx m.pre)

theorem AtBoundary.append {stream bytes : Bytes} (h : AtBoundary stream bytes) (more : Bytes) :
    AtBoundary (stream ++ more) (bytes ++ more) := by
  obtain ⟨before, rfl, hbefore⟩ := h
  exact ⟨before, List.append_assoc _ _ _, hbefore⟩

/-- What is left after a part that ends in a blank line. -/
theorem AtBoundary.drop {stream a b : Bytes} (h : AtBoundary stream (a ++ b))
    (ha : blankLine <:+ a) : AtBoundary stream b := by
  obtain ⟨before, rfl, -⟩ := h
  exact ⟨before ++ a, (List.append_assoc _ _ _).symm, .inr (ha.trans (List.suffix_append _ _))⟩

/-! ## One move -/

theorem nextRequest_isPrefix_rx {c : RtspClient} {req : Bytes} (h : nextRequest c = some req)
    (hnul : c.rxbuf c.rxlen = 0) : req <+: rx c :=
  (nextRequest_spec h).1.trans (Buf.str_isPrefix_read sizeofRxbuf (by rwa [Nat.zero_add]))

theorem rx_requestMove (srv : RtspConf) (io : RequestIo) {c : RtspClient} {req : Bytes}
    (hlen : req.length ≤ c.rxlen) :
    rx (requestMove srv c io req).post = rx c ∨
      rx (requestMove srv c io req).post = (rx c).drop req.length := by
  have hsame := (handleRequest_effect srv c io req).sameConnection
  have hrx : rx (handleRequest srv c io req).client = rx c := by
    rw [rx, hsame.rxbuf, hsame.rxlen]
    rfl
  simp only [requestMove]
  split
  · right
    rw [rx_consume (by rw [hsame.rxlen]; exact hlen), hrx]
  · left
    exact hrx

theorem Turn.atBoundary {w : List Move} {m : Move} (h : Turn m)
    (hbefore : AtBoundary (received w) (rx m.pre)) (hcuts : m.cutsRequest = false)
    (haccept : m.kind ≠ .accept) (hended : m.kind ≠ .ended) :
    AtBoundary (received (w ++ [m])) (rx m.post) := by
  rw [received, List.flatMap_append, List.flatMap_singleton]
  have hquiet : m.received = [] → rx m.post = rx m.pre →
      AtBoundary (received w ++ m.received) (rx m.post) := by
    intro hreceived hrx
    rw [hreceived, hrx, List.append_nil]
    exact hbefore
  cases h with
  | accept => exact absurd rfl haccept
  | hangup | close => exact absurd rfl hended
  | recv =>
      show AtBoundary (_ ++ _) (rx (storeReceived _ _))
      rw [rx_storeReceived]
      exact hbefore.append _
  | @request srv c io req _ hterminated hreq =>
      have hlen := nextRequest_length_le hreq hterminated
      rcases rx_requestMove srv io hlen with hrx | hrx
      · exact hquiet rfl hrx
      · obtain ⟨t, ht⟩ := nextRequest_isPrefix_rx hreq hterminated
        have hbefore : AtBoundary (received w) (rx c) := hbefore
        rw [← ht, List.drop_left] at hrx
        rw [← ht] at hbefore
        show AtBoundary (received w ++ []) (rx (requestMove srv c io req).post)
        rw [hrx, List.append_nil]
        exact hbefore.drop (suffix_of_through hreq)
  | @settle srv c =>
      by_cases hfull : sizeofRxbuf - 1 ≤ c.rxlen
      · have hends : blankLine <:+ rx c := by
          have hoverflows : decide (sizeofRxbuf - 1 ≤ c.rxlen) = true := decide_eq_true hfull
          simp only [Move.cutsRequest, Move.overflows, hoverflows, Bool.true_and,
            Bool.not_eq_false', List.isSuffixOf_iff_suffix] at hcuts
          exact hcuts
        have hempty : rx (Rtsp.settle c) = [] := by
          rw [Rtsp.settle, if_pos hfull]
          rfl
        show AtBoundary (received w ++ []) (rx (Rtsp.settle c))
        rw [hempty, List.append_nil]
        refine AtBoundary.drop (a := rx c) ?_ hends
        rw [List.append_nil]
        exact hbefore
      · exact hquiet rfl (congrArg rx (settle_of_room hfull))
  | metadata | skip | push => exact hquiet rfl rfl

/-! ## Runs -/

/-- In every run a request begins where its connection does or after a blank line,
as long as no full buffer of the connection has been emptied that did not end in
one. -/
theorem requests_begin_atBoundary (io : InitIo) (evs : List Event) (i : Slot) (n : Nat)
    (hn : n < (history io evs i).length) {a : Move} {w : List Move}
    (h : connection (historyAt io evs i n) = some (a, w))
    (hcuts : ∀ m ∈ w, m.cutsRequest = false) : BeginsRequest w (history io evs i)[n] := by
  obtain ⟨hturns, hturn⟩ := history_turn io evs i n hn
  have hboundary : AtBoundary (received w) (rx (history io evs i)[n].pre) := by
    refine hturns.window_induction (R := fun _ w c => (∀ m ∈ w, m.cutsRequest = false) →
      AtBoundary (received w) (rx c)) h ?_ ?_ hcuts
    · intro m hm hkind _
      obtain ⟨_, _, -, hpost, -⟩ := hm.session.accept_inv (beq_iff_eq.mp hkind)
      rw [hpost]
      exact ⟨[], rfl, .inl rfl⟩
    · intro _ w m ih hm haccept hended hcuts
      exact hm.atBoundary (ih fun m' hm' => hcuts m' (List.mem_append_left _ hm'))
        (hcuts m (List.mem_append_right _ List.mem_cons_self)) (beq_eq_false_iff_ne.mp haccept)
        (beq_eq_false_iff_ne.mp hended)
  intro rio req done hact
  refine ⟨?_, hboundary⟩
  generalize (history io evs i)[n] = m at hturn hact
  cases hturn with
  | request _ hterminated hreq =>
      cases hact
      exact nextRequest_isPrefix_rx hreq hterminated
  | accept | recv | hangup | settle | metadata | skip | push | close => cases hact

theorem requests_begin_atBoundary_sample :
    ∃ (hn : 9 < (history sampleInit describeRun 0).length) (a : Move) (w : List Move),
      connection (historyAt sampleInit describeRun 0 9) = some (a, w) ∧
        BeginsRequest w (history sampleInit describeRun 0)[9] := by
  have hrun : (connection (historyAt sampleInit describeRun 0 9)).any (fun v =>
      v.2.all fun m => !m.cutsRequest) = true := by decide +kernel
  obtain ⟨⟨a, w⟩, h, hcuts⟩ := (Option.any_eq_true _ _).mp hrun
  simp only [List.all_eq_true, Bool.not_eq_true'] at hcuts
  exact ⟨by decide +kernel, a, w, h,
    requests_begin_atBoundary sampleInit describeRun 0 9 (by decide +kernel) h hcuts⟩

/-! ## A request longer than the buffer -/

section Poll

variable {io : ClientIo} {c : RtspClient} {bytes : Bytes}

theorem drainRequests_of_none {srv : RtspConf} (fuel : Nat) (h : nextRequest c = none) :
    drainRequests srv io.request (fuel + 1) 0 c = (c, []) := by
  rw [drainRequests, h]

theorem drainRequests_of_some {srv : RtspConf} (fuel : Nat) {req : Bytes}
    (h : nextRequest c = some req) :
    ∃ rest, (drainRequests srv io.request (fuel + 1) 0 c).2 =
      requestMove srv c (io.request 0) req :: rest := by
  rw [drainRequests, h]
  simp only
  split <;> exact ⟨_, rfl⟩

/-- A turn of a client without a whole request. -/
theorem pollClient_waiting (srv : RtspConf) (now : UInt64) (hopen : 0 ≤ c.tcpFd)
    (hrecv : recvBytes io.recv (sizeofRxbuf - 1 - c.rxlen) = some bytes)
    (hnone : nextRequest (storeReceived c bytes) = none)
    (hdue : metadataDue (settle (storeReceived c bytes)) now = false) :
    (pollClient srv now io c).1 = settle (storeReceived c bytes) ∧
      (pollClient srv now io c).2 = [⟨srv, c, .recv bytes, [], storeReceived c bytes⟩,
        ⟨srv, storeReceived c bytes, .settle, [], settle (storeReceived c bytes)⟩] := by
  have hdrain : drainRequests srv io.request sizeofRxbuf 0 (storeReceived c bytes) =
      (storeReceived c bytes, []) := drainRequests_of_none (sizeofRxbuf - 1) hnone
  rw [pollClient_of_recv srv now hopen hrecv hdrain, hdue]
  exact ⟨rfl, rfl⟩

/-- A turn of a client with a request. -/
theorem pollClient_request (srv : RtspConf) (now : UInt64) (hopen : 0 ≤ c.tcpFd)
    (hrecv : recvBytes io.recv (sizeofRxbuf - 1 - c.rxlen) = some bytes) {req : Bytes}
    (hreq : nextRequest (storeReceived c bytes) = some req) :
    ∃ rest, (pollClient srv now io c).2 =
      ⟨srv, c, .recv bytes, [], storeReceived c bytes⟩ ::
        requestMove srv (storeReceived c bytes) (io.request 0) req :: rest := by
  obtain ⟨rest, hrest⟩ : ∃ rest,
      (drainRequests srv io.request sizeofRxbuf 0 (storeReceived c bytes)).2 =
        requestMove srv (storeReceived c bytes) (io.request 0) req :: rest :=
    drainRequests_of_some (sizeofRxbuf - 1) hreq
  rw [pollClient_of_recv srv now hopen hrecv rfl]
  unfold receiveLog
  rw [hrest]
  split <;> exact ⟨_, rfl⟩

end Poll

/-- What follows the first line of an overlong request. -/
def longLineEnd : Bytes := sampleRequest "OPTIONS" "*" 1 ""

def overlongRun (line : Bytes) : List Event :=
  [.poll (samplePoll 5 line), .poll (samplePoll (-1) longLineEnd)]

theorem nextRequest_storeReceived {c : RtspClient} (bytes : Bytes) (hempty : c.rxlen = 0)
    (hlen : bytes.length ≤ sizeofRxbuf - 1) (hnul : (0 : UInt8) ∉ bytes) :
    rx (storeReceived c bytes) = bytes ∧
      nextRequest (storeReceived c bytes) = through blankLine bytes := by
  have hrx : rx (storeReceived c bytes) = bytes := by
    rw [rx_storeReceived]
    have hnothing : rx c = [] := by
      rw [rx, hempty]
      rfl
    rw [hnothing, List.nil_append]
  have hroom : (storeReceived c bytes).rxlen < sizeofRxbuf := by
    show c.rxlen + bytes.length < sizeofRxbuf
    rw [hempty]
    have hpos : 0 < sizeofRxbuf := by decide
    omega
  have hread : (storeReceived c bytes).rxbuf.read 0 (storeReceived c bytes).rxlen = bytes := hrx
  refine ⟨hrx, ?_⟩
  rw [nextRequest,
    Buf.str_eq_read hroom (by rw [Nat.zero_add]; exact storeReceived_terminated c bytes)
      (by rw [hread]; exact hnul), hread]

theorem recvBytes_sample {bytes : Bytes} (hne : bytes ≠ []) {want : Nat}
    (hlen : bytes.length ≤ want) : recvBytes (sampleClientIo bytes).recv want = some bytes := by
  have hrecv : (sampleClientIo bytes).recv = .data bytes := if_neg hne
  have htake : bytes.take want = bytes := List.take_of_length_le hlen
  rw [hrecv, recvBytes, htake, if_neg (by simpa using hne)]

/-- The buffer is full after the first poll, and the second brings a request. -/
theorem overlongRun_history {line : Bytes} (hlen : line.length = sizeofRxbuf - 1)
    (hcr : (13 : UInt8) ∉ line) (hnul : (0 : UInt8) ∉ line) :
    ∃ accept m₁ m₂ m₃ m₄ rest,
      history sampleInit (overlongRun line) 0 = accept :: m₁ :: m₂ :: m₃ :: m₄ :: rest ∧
        accept.kind = .accept ∧ (∀ m ∈ [m₁, m₂, m₃], m.kind = .other) ∧
        received [m₁, m₂, m₃] = line ++ longLineEnd ∧
        (∃ io done, m₄.act = .request io longLineEnd done) ∧ rx m₄.pre = longLineEnd := by
  let conf := (initialServer sampleInit).toRtspConf
  let opened := acceptedClient 5 ⟨0x0a000001, 5000⟩
  have hne : line ≠ [] := by
    rintro rfl
    cases hlen
  have hfull : (storeReceived opened line).rxlen = sizeofRxbuf - 1 := (Nat.zero_add _).trans hlen
  have hsettled : settle (storeReceived opened line) =
      { storeReceived opened line with rxlen := 0 } := if_pos (Nat.le_of_eq hfull.symm)
  have hopen : (settle (storeReceived opened line)).tcpFd = 5 ∧
      (settle (storeReceived opened line)).rxlen = 0 ∧
      metadataDue (settle (storeReceived opened line)) 0 = false := by
    rw [hsettled]
    exact ⟨rfl, rfl, rfl⟩
  -- the first poll stores the line, finds no request and empties the buffer
  have hnone : nextRequest (storeReceived opened line) = none := by
    rw [(nextRequest_storeReceived line rfl (Nat.le_of_eq hlen) hnul).2]
    cases hreq : through blankLine line with
    | none => rfl
    | some p => exact absurd (mem_of_through hreq (by decide)) hcr
  obtain ⟨hfirstClient, hfirstMoves⟩ := pollClient_waiting (c := opened) conf 0 (by decide)
    (recvBytes_sample hne (Nat.le_of_eq hlen)) hnone hopen.2.2
  generalize settle (storeReceived opened line) = emptied at hopen hfirstClient hfirstMoves
  -- the second poll finds the rest of the line alone in the buffer
  have hrest := nextRequest_storeReceived longLineEnd hopen.2.1
    (by decide) (by decide)
  have hreq : nextRequest (storeReceived emptied longLineEnd) = some longLineEnd := by
    rw [hrest.2]
    decide +kernel
  have hroom : longLineEnd.length ≤ sizeofRxbuf - 1 - emptied.rxlen := by
    rw [hopen.2.1]
    decide
  obtain ⟨rest, hsecondMoves⟩ := pollClient_request (c := emptied) conf 0 (by rw [hopen.1]; decide)
    (recvBytes_sample (by decide) hroom) hreq
  obtain ⟨hclient, hfirst⟩ := apply_accepting
    (freeSlot_of_init (initialServer_clients sampleInit)) (initialServer_clients sampleInit 0)
    (samplePoll 5 line)
    (show (0 : Int) ≤ 5 by decide)
  have hlog : history sampleInit (overlongRun line) 0 = _ ++ (_ ++ []) :=
    (slotLog_append 0 _ _).trans (congrArg (_ ++ ·) (slotLog_append 0 _ _))
  have hsecond := (apply_slot
    ((Event.poll (samplePoll 5 line)).apply (initialServer sampleInit)).1
    (.poll (samplePoll (-1) longLineEnd)) 0).2
  have hconf := apply_conf (initialServer sampleInit) (.poll (samplePoll 5 line))
  generalize (Event.poll (samplePoll 5 line)).apply (initialServer sampleInit) = applied at *
  have hconf : applied.1.toRtspConf = conf := hconf
  have hclient : applied.1.clients 0 = emptied := hclient.trans hfirstClient
  have hfirst := hfirst.trans (congrArg (_ :: ·) hfirstMoves)
  have hpolled : slotLog 0 ((Event.poll (samplePoll (-1) longLineEnd)).apply applied.1).2 =
      (pollClient applied.1.toRtspConf 0 (sampleClientIo longLineEnd)
        (applied.1.clients 0)).2 := hsecond
  rw [hconf, hclient, hsecondMoves] at hpolled
  rw [hfirst, hpolled, List.append_nil] at hlog
  refine ⟨_, _, _, _, _, rest, hlog, rfl, ?_, ?_, ⟨_, _, rfl⟩, hrest.1⟩
  · intro m hm
    simp only [List.mem_cons, List.not_mem_nil, or_false] at hm
    rcases hm with rfl | rfl | rfl <;> rfl
  · exact congrArg (line ++ ·) (List.append_nil longLineEnd)

/-- A line that fills the buffer. -/
def longLine : Bytes := List.replicate (sizeofRxbuf - 1) 65

/-- The end of an overlong request is taken for a request. -/
theorem overlong_request_is_cut : ¬ ∀ (io : InitIo) (evs : List Event) (i : Slot) (n : Nat)
    (hn : n < (history io evs i).length) (a : Move) (w : List Move),
    connection (historyAt io evs i n) = some (a, w) → BeginsRequest w (history io evs i)[n] := by
  intro hall
  have hline : longLine.length = sizeofRxbuf - 1 ∧ (13 : UInt8) ∉ longLine ∧
      (0 : UInt8) ∉ longLine := by
    refine ⟨List.length_replicate, fun h => ?_, fun h => ?_⟩
    · exact absurd (List.eq_of_mem_replicate h) (by decide)
    · exact absurd (List.eq_of_mem_replicate h) (by decide)
  generalize longLine = line at hline
  obtain ⟨hlen, hcr, hnul⟩ := hline
  obtain ⟨accept, m₁, m₂, m₃, m₄, rest, hhistory, haccept, hother, hreceived, ⟨io, done, hact⟩,
    hrx⟩ := overlongRun_history hlen hcr hnul
  have hfour : 4 < (history sampleInit (overlongRun line) 0).length := by
    rw [hhistory]
    simp
  have hwindow : connection (historyAt sampleInit (overlongRun line) 0 4) =
      some (accept, [m₁, m₂, m₃]) := by
    rw [historyAt, hhistory]
    simp [connection, window, haccept, hother]
  have hbegins := hall sampleInit (overlongRun line) 0 4 hfour accept _ hwindow
  simp only [hhistory, List.getElem_cons_succ, List.getElem_cons_zero] at hbegins
  obtain ⟨-, before, hstream, hbefore⟩ := hbegins _ _ _ hact
  rw [hreceived, hrx] at hstream
  obtain rfl := List.append_cancel_right hstream
  rcases hbefore with rfl | hbefore
  · cases hlen
  · exact hcr (hbefore.subset (by decide))

end Rtsp
end FH8852
