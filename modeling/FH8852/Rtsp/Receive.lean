import FH8852.Rtsp.Lifecycle

/-!
# Receiving

The requests a connection hands to `handle_request` are the pieces of what the
client sent, in their order, however `recv` splits it.
-/

namespace FH8852
namespace Rtsp

open CLib History

/-! ## The reply to a request -/

/-- The reply begins with its status line and the first 31 characters of the
request's CSeq. -/
def Echoes (r : Reply) (req : Bytes) : Prop :=
  ∃ status rest, r.bytes = ascii "RTSP/1.0 " ++ status ++ ascii "\r\nCSeq: " ++
    ((headerField req (ascii "CSeq")).getD []).take 31 ++ crlf ++ rest

theorem requestCseq_eq (req : Bytes) :
    requestCseq req = ((headerField req (ascii "CSeq")).getD []).take 31 := by
  unfold requestCseq headerValue
  cases headerField req (ascii "CSeq") <;> rfl

theorem requestCseq_length_le (req : Bytes) : (requestCseq req).length ≤ 31 := by
  rw [requestCseq_eq]
  exact List.length_take_le _ _

/-- A text of 512 bytes is not cut before the end of its CSeq line. -/
theorem snprintf_echo {status : Bytes} (hstatus : status.length ≤ 40) (req rest : Bytes) :
    ∃ rest', snprintf 512 (ascii "RTSP/1.0 " ++ status ++ ascii "\r\nCSeq: " ++
      requestCseq req ++ crlf ++ rest) = ascii "RTSP/1.0 " ++ status ++ ascii "\r\nCSeq: " ++
      requestCseq req ++ crlf ++ rest' := by
  have hcseq := requestCseq_length_le req
  have hlen₁ : (ascii "RTSP/1.0 ").length = 9 := by decide
  have hlen₂ : (ascii "\r\nCSeq: ").length = 8 := by decide
  have hlen₃ : crlf.length = 2 := by decide
  refine ⟨_, snprintf_append ?_ rest⟩
  simp only [List.length_append]
  omega

theorem plain_echoes {status : Bytes} (hstatus : status.length ≤ 40) (req extra : Bytes) :
    Echoes (.plain status (requestCseq req) extra) req := by
  have hserver : ascii "\r\nServer: " = crlf ++ ascii "Server: " := by decide
  have htext : replyText status (requestCseq req) extra =
      ascii "RTSP/1.0 " ++ status ++ ascii "\r\nCSeq: " ++ requestCseq req ++ crlf ++
        (ascii "Server: " ++ serverName ++ crlf ++ extra ++ crlf) := by
    simp only [replyText, hserver, List.append_assoc]
  obtain ⟨rest, hrest⟩ := snprintf_echo hstatus req
    (ascii "Server: " ++ serverName ++ crlf ++ extra ++ crlf)
  refine ⟨status, rest, ?_⟩
  rw [← requestCseq_eq, ← hrest, ← htext]
  exact List.append_nil _

theorem described_echoes (req uri sdp : Bytes) :
    Echoes (.described (requestCseq req) uri sdp) req := by
  have hlength : ascii "\r\nContent-Length: " = crlf ++ ascii "Content-Length: " := by decide
  have hstart : ascii "RTSP/1.0 200 OK\r\nCSeq: " =
      ascii "RTSP/1.0 " ++ ascii "200 OK" ++ ascii "\r\nCSeq: " := by decide
  obtain ⟨text, htext⟩ : ∃ text, describeText (requestCseq req) uri sdp =
      ascii "RTSP/1.0 " ++ ascii "200 OK" ++ ascii "\r\nCSeq: " ++ requestCseq req ++ crlf ++
        text := by
    refine ⟨ascii "Content-Length: " ++ decimal sdp.length ++ ascii "\r\nServer: " ++
      serverName ++ ascii "\r\nContent-Base: " ++ uri ++
      ascii "\r\nContent-Type: application/sdp\r\n\r\n", ?_⟩
    simp only [describeText, hlength, hstart, List.append_assoc]
  obtain ⟨rest, hrest⟩ := @snprintf_echo (ascii "200 OK") (by decide) req text
  refine ⟨ascii "200 OK", rest ++ snprintf 1024 sdp, ?_⟩
  rw [← requestCseq_eq, ← List.append_assoc, ← hrest, ← htext]
  show _ ++ (_ ++ []) = _
  rw [List.append_nil]

/-- The statuses of the server are short. -/
theorem status_length_le {status : Bytes}
    (h : status ∈ authRefusals ∨ status ∈ refusals ∨ status = ascii "200 OK") :
    status.length ≤ 40 := by
  have hall : ∀ s ∈ authRefusals ++ refusals ++ [ascii "200 OK"], s.length ≤ 40 := by decide
  exact hall status (by simpa [or_assoc] using h)

/-- A request is answered by one reply, or is held back. -/
theorem Effect.reply {srv : RtspConf} {c : RtspClient} {io : RequestIo} {req : Bytes}
    {r : Outcome} (h : Effect srv c io req r) :
    if r.done then ∃ s, r.outs.filterMap Out.reply? = [s] ∧ Echoes s req
    else r.outs = [] ∧ r.client = c ∧ HeldBack srv req := by
  cases h with
  | refused status _ hstatus =>
      exact ⟨_, rfl, plain_echoes (status_length_le (.inl hstatus)) req _⟩
  | answered status extra _ _ hstatus =>
      refine ⟨_, rfl, plain_echoes (status_length_le (.inr ?_)) req extra⟩
      exact hstatus.imp_right And.left
  | described sdp => exact ⟨_, rfl, described_echoes req _ sdp⟩
  | waiting _ hmethod _ hsets => exact ⟨rfl, rfl, hmethod, hsets⟩
  | setup t transport outs _ _ houts =>
      obtain ⟨lines, hreplies⟩ := setupTrack_replies c io (trackOf (requestUri req)) t
        (streamOf (requestUri req)) (requestCseq req) transport houts
      exact ⟨_, hreplies, plain_echoes (by decide) req lines⟩
  | setupFailed outs _ _ houts =>
      refine ⟨.plain (ascii "500 Internal Server Error") (requestCseq req) [], ?_,
        plain_echoes (by decide) req []⟩
      rw [List.filterMap_append, houts.replies]
      rfl
  | play => exact ⟨_, playOk_replies srv c io _, plain_echoes (by decide) req _⟩
  | teardown => exact ⟨_, teardownOk_replies c io _, plain_echoes (by decide) req _⟩

/-! ## The receive buffer -/

/-- The bytes received and not yet handled. -/
def rx (c : RtspClient) : Bytes := c.rxbuf.read 0 c.rxlen

theorem rx_storeReceived (c : RtspClient) (bytes : Bytes) :
    rx (storeReceived c bytes) = rx c ++ bytes := by
  show Buf.read _ 0 (c.rxlen + bytes.length) = _
  rw [storeReceived, Buf.read_write_above [0] (Nat.le_refl _), Buf.read_append, Nat.zero_add,
    Buf.read_write_above bytes (Nat.le_refl _), Buf.read_write]
  rfl

theorem rx_consume {c : RtspClient} {n : Nat} (hn : n ≤ c.rxlen) :
    rx (consume c n) = (rx c).drop n := by
  have hsplit : rx c = c.rxbuf.read 0 n ++ c.rxbuf.read n (c.rxlen - n) := by
    have h := Buf.read_append c.rxbuf 0 n (c.rxlen - n)
    rwa [Nat.add_sub_of_le hn, Nat.zero_add] at h
  have hlength := Buf.read_length c.rxbuf 0 n
  rw [hsplit, List.drop_append_of_le_length (Nat.le_of_eq hlength.symm)]
  rw [List.drop_of_length_le (Nat.le_of_eq hlength), List.nil_append]
  exact Buf.read_moveDown (Nat.lt_succ_self _)

/-! ## What a connection has received and handled -/

/-- The bytes the move receives. -/
def Move.received (m : Move) : Bytes :=
  match m.act with
  | .recv bytes => bytes
  | _ => []

/-- The request the move is done with. -/
def Move.completed (m : Move) : List Bytes :=
  match m.act with
  | .request _ req true => [req]
  | _ => []

/-- The buffer is full after a drain, so its contents are dropped. -/
def Move.overflows (m : Move) : Bool :=
  match m.act with
  | .settle => decide (sizeofRxbuf - 1 ≤ m.pre.rxlen)
  | _ => false

/-- The move is the check after a drain. -/
def Move.settles (m : Move) : Bool :=
  match m.act with
  | .settle => true
  | _ => false

theorem Move.act_of_settles {m : Move} (h : m.settles = true) : m.act = .settle := by
  unfold Move.settles at h
  split at h
  · assumption
  · cases h

def received (w : List Move) : Bytes := w.flatMap Move.received

def handled (w : List Move) : List Bytes := w.flatMap Move.completed

/-- The connection has handled and answered the first pieces of what it received
and holds the rest. -/
structure InOrder (w : List Move) (c : RtspClient) : Prop where
  rest : received w = (handled w).flatten ++ rx c
  piece : ∀ p ∈ handled w, through blankLine p = some p
  replies : List.Forall₂ Echoes (w.flatMap Move.replies) (handled w)

theorem blankLine_ne_nil : blankLine ≠ [] := by decide

theorem InOrder.pieces {w : List Move} {c : RtspClient} (h : InOrder w c) :
    pieces blankLine (received w) = handled w ++ pieces blankLine (rx c) := by
  rw [h.rest, pieces_flatten_append blankLine_ne_nil h.piece]

/-- The next piece is the one at the head of the buffer. -/
theorem InOrder.next {w : List Move} {c : RtspClient} (h : InOrder w c) :
    (CLib.pieces blankLine (received w))[(handled w).length]? = through blankLine (rx c) := by
  rw [h.pieces, List.getElem?_append_right (Nat.le_refl _), Nat.sub_self,
    ← head?_pieces blankLine_ne_nil, List.head?_eq_getElem?]

/-- Without a NUL in the buffer `strstr` sees all of it. -/
theorem InOrder.nextRequest {w : List Move} {c : RtspClient} (h : InOrder w c) (hfits : RxFits c)
    (hterminated : c.rxbuf c.rxlen = 0) (hnul : (0 : UInt8) ∉ received w) :
    nextRequest c = through blankLine (rx c) := by
  have hroom : c.rxlen < sizeofRxbuf := Nat.lt_of_le_of_lt hfits (by decide)
  have hrx : (0 : UInt8) ∉ rx c := by
    intro hmem
    rw [h.rest] at hnul
    exact hnul (List.mem_append.mpr (.inr hmem))
  rw [Rtsp.nextRequest, Buf.str_eq_read hroom (by rwa [Nat.zero_add]) hrx]
  rfl

theorem InOrder.quiet {w : List Move} {m : Move} (h : InOrder w m.pre)
    (hreceived : m.received = []) (hcompleted : m.completed = []) (hreplies : m.replies = [])
    (hrx : rx m.post = rx m.pre) : InOrder (w ++ [m]) m.post := by
  have hhandled : handled (w ++ [m]) = handled w := by simp [handled, hcompleted]
  refine ⟨?_, ?_, ?_⟩
  · rw [hhandled, hrx, ← h.rest]
    simp [received, hreceived]
  · rw [hhandled]
    exact h.piece
  · rw [hhandled, List.flatMap_append, List.flatMap_singleton, hreplies, List.append_nil]
    exact h.replies

theorem SentOn.replies {k : TrackId} {good : Bytes → Prop} {t t' : RtspTrack} {outs : List Out}
    (h : SentOn k good t outs t') : outs.filterMap Out.reply? = [] :=
  h.filterMap_eq_nil fun _ _ => rfl

/-- A request that is handled takes its piece off the buffer. -/
theorem InOrder.request {w : List Move} {srv : RtspConf} {c : RtspClient} {io : RequestIo}
    {req : Bytes} (h : InOrder w c) (hthrough : through blankLine (rx c) = some req)
    (hlen : req.length ≤ c.rxlen) :
    InOrder (w ++ [requestMove srv c io req]) (requestMove srv c io req).post := by
  have heffect := handleRequest_effect srv c io req
  have hreply := heffect.reply
  have hsame := heffect.sameConnection
  cases hdone : (handleRequest srv c io req).done with
  | false =>
      rw [hdone, if_neg Bool.false_ne_true] at hreply
      obtain ⟨houts, hclient, -⟩ := hreply
      refine h.quiet rfl ?_ ?_ ?_
      · simp [Move.completed, requestMove, hdone]
      · simp [Move.replies, requestMove, houts]
      · simp [requestMove, hdone, hclient]
  | true =>
      rw [hdone, if_pos rfl] at hreply
      obtain ⟨s, hreplies, hechoes⟩ := hreply
      have hpiece : through blankLine req = some req := by
        have hself := through_append blankLine_ne_nil hthrough []
        rwa [List.append_nil] at hself
      have hhandled : handled (w ++ [requestMove srv c io req]) = handled w ++ [req] := by
        simp [handled, Move.completed, requestMove, hdone]
      have hpost : rx (requestMove srv c io req).post = (rx c).drop req.length := by
        have hrx : rx (handleRequest srv c io req).client = rx c := by
          rw [rx, hsame.rxbuf, hsame.rxlen]
          rfl
        have hpost : (requestMove srv c io req).post =
            consume (handleRequest srv c io req).client req.length := by
          simp [requestMove, hdone]
        rw [hpost, rx_consume (by rw [hsame.rxlen]; exact hlen), hrx]
      have hsplit : rx c = req ++ (rx c).drop req.length := by
        obtain ⟨t, ht⟩ := through_isPrefix hthrough
        rw [← ht, List.drop_left]
      refine ⟨?_, ?_, ?_⟩
      · rw [hhandled, hpost, List.flatten_append, List.append_assoc, List.flatten_singleton,
          ← hsplit, ← h.rest]
        simp [received, Move.received, requestMove]
      · rw [hhandled]
        intro p hp
        rcases List.mem_append.mp hp with hp | hp
        · exact h.piece p hp
        · rw [List.mem_singleton.mp hp]
          exact hpiece
      · rw [hhandled, List.flatMap_append, List.flatMap_singleton]
        refine List.rel_append h.replies ?_
        rw [Move.replies, requestMove, hreplies]
        exact .cons hechoes .nil

/-- Nothing a sender sends is a reply. -/
theorem sendVideoNal_replies (t : RtspTrack) (nal : Bytes) (ts : UInt32) (last : Bool)
    (answers : Nat → List SendResult) :
    (sendVideoNal t nal ts last answers).2.filterMap Out.reply? = [] := by
  obtain ⟨outs, houts, hsent⟩ := sendVideoNal_sentOn t nal ts last answers
  rw [houts]
  exact hsent.replies

theorem settle_of_room {c : RtspClient} (h : ¬ sizeofRxbuf - 1 ≤ c.rxlen) : settle c = c := by
  rw [settle, if_neg h]

theorem InOrder.step {w : List Move} {m : Move} (h : InOrder w m.pre) (hturn : Turn m)
    (hfits : RxFits m.pre) (hnul : (0 : UInt8) ∉ received w) (hroom : m.overflows = false)
    (haccept : m.kind ≠ .accept) (hended : m.kind ≠ .ended) : InOrder (w ++ [m]) m.post := by
  cases hturn with
  | accept => exact absurd rfl haccept
  | hangup | close => exact absurd rfl hended
  | @recv srv c bytes =>
      have hhandled : handled (w ++ [⟨srv, c, .recv bytes, [], storeReceived c bytes⟩]) =
          handled w := by simp [handled, Move.completed]
      refine ⟨?_, ?_, ?_⟩
      · rw [hhandled, rx_storeReceived, ← List.append_assoc, ← h.rest]
        simp [received, Move.received]
      · rw [hhandled]
        exact h.piece
      · rw [hhandled, List.flatMap_append]
        simpa [Move.replies] using h.replies
  | @request srv c io req _ hterminated hreq =>
      have hnext := h.nextRequest hfits hterminated hnul
      exact h.request (hnext.symm.trans hreq) (nextRequest_length_le hreq hterminated)
  | settle =>
      simp only [Move.overflows, decide_eq_false_iff_not] at hroom
      exact h.quiet rfl rfl rfl (congrArg rx (settle_of_room hroom))
  | metadata => exact h.quiet rfl rfl rfl rfl
  | skip => exact h.quiet rfl rfl rfl rfl
  | push => exact h.quiet rfl rfl (sendVideoNal_replies _ _ _ _ _) rfl

/-! ## The requests of a connection -/

/-- A new connection has received nothing, and every move keeps the order as
long as no move drops what has been received. -/
theorem connection_inOrder {l w : List Move} {m₀ : Move} {c : RtspClient}
    (hl : Turns clientInit l c) (h : connection l = some (m₀, w))
    (hnul : (0 : UInt8) ∉ received w)
    (hroom : ∀ v m, v ++ [m] <+: w → Turn m → InOrder v m.pre → RxFits m.pre →
      m.overflows = false) :
    InOrder w c ∧ RxFits c := by
  obtain ⟨hfit, hc⟩ := hl.invariant (I := RxFits) (Nat.zero_le _) fun _ => Turn.rxFits
  refine ⟨?_, hc⟩
  refine hfit.window_induction (R := fun _ w c => (0 : UInt8) ∉ received w →
    (∀ v m, v ++ [m] <+: w → Turn m → InOrder v m.pre → RxFits m.pre → m.overflows = false) →
    InOrder w c) h ?_ ?_ hnul hroom
  · rintro m ⟨hm, -⟩ hkind - -
    have hkind := beq_iff_eq.mp hkind
    obtain ⟨_, _, -, hpost, -⟩ := hm.session.accept_inv hkind
    rw [hpost]
    exact ⟨rfl, fun p hp => absurd hp List.not_mem_nil, .nil⟩
  · rintro m₀ w m ih ⟨hm, hfits⟩ haccept hended hnul hroom
    simp only [beq_eq_false_iff_ne] at haccept hended
    rw [received, List.flatMap_append, List.mem_append, not_or] at hnul
    have hbefore := ih hnul.1 fun v m' hv => hroom v m' (hv.trans (List.prefix_append _ _))
    have hfree := hroom w m (List.prefix_refl _) hm hbefore hfits
    exact hbefore.step hm hfits hnul.1 hfree haccept hended

/-- When the requests `arrived` have come in whole, the next move of a
connection that has made the moves `w` hands none but the first of them it is
not done with to `handle_request`, and a drain ends only if that one is held
back or there is none. -/
structure Serves (arrived : List Bytes) (w : List Move) (m : Move) : Prop where
  call : ∀ io req done, m.act = .request io req done → arrived[(handled w).length]? = some req
  held : ∀ io req, m.act = .request io req false → HeldBack m.srv req ∧ m.outs = []
  drained : m.act = .settle → ∀ req, arrived[(handled w).length]? = some req →
    HeldBack m.srv req

theorem InOrder.serves {w : List Move} {m : Move} (h : InOrder w m.pre) (hturn : Turn m)
    (hfits : RxFits m.pre) (hnul : (0 : UInt8) ∉ received w) :
    Serves (CLib.pieces blankLine (received w)) w m := by
  cases hturn with
  | @request srv c io req _ hterminated hreq =>
      refine ⟨?_, ?_, fun hact => by cases hact⟩
      · intro _ _ _ hact
        cases hact
        rw [h.next, ← h.nextRequest hfits hterminated hnul]
        exact hreq
      · intro io' req' hact
        have hdone : (handleRequest srv c io req).done = false := by
          rw [requestMove] at hact
          injection hact
        obtain rfl : req = req' := by
          rw [requestMove] at hact
          injection hact
        have hreply := (handleRequest_effect srv c io req).reply
        rw [hdone, if_neg Bool.false_ne_true] at hreply
        exact ⟨hreply.2.2, hreply.1⟩
  | settle _ hterminated hdrained =>
      refine ⟨fun _ _ _ hact => (by cases hact), fun _ _ hact => (by cases hact), ?_⟩
      intro _ req hreq
      rw [h.next, ← h.nextRequest hfits hterminated hnul] at hreq
      exact hdrained req hreq
  | accept | recv | hangup | metadata | skip | push | close =>
      exact ⟨fun _ _ _ hact => (by cases hact), fun _ _ hact => (by cases hact),
        fun hact => (by cases hact)⟩

/-- While a connection receives no NUL and its buffer never fills up, it hands
the pieces of what it receives to `handle_request` in order, each until it is
done with it, and has answered each piece it is done with by one reply. -/
theorem requests_inOrder (io : InitIo) (evs : List Event) (i : Slot) (n : Nat) {m₀ : Move}
    {w : List Move} (h : connection (historyAt io evs i n) = some (m₀, w))
    (hnul : (0 : UInt8) ∉ received w) (hroom : ∀ m ∈ w, m.overflows = false) :
    handled w <+: pieces blankLine (received w) ∧
      List.Forall₂ Echoes (w.flatMap Move.replies) (handled w) ∧
      ∀ hn : n < (history io evs i).length,
        Serves (pieces blankLine (received w)) w (history io evs i)[n] := by
  have hfree : ∀ v m, v ++ [m] <+: w → Turn m → InOrder v m.pre → RxFits m.pre →
      m.overflows = false := fun v m hv _ _ _ => hroom m (hv.subset (by simp))
  have horder := (connection_inOrder (historyAt_turns io evs i n) h hnul hfree).1
  refine ⟨?_, horder.replies, fun hn => ?_⟩
  · rw [horder.pieces]
    exact List.prefix_append _ _
  · obtain ⟨hturns, hturn⟩ := history_turn io evs i n hn
    obtain ⟨hnext, hfits⟩ := connection_inOrder hturns h hnul hfree
    exact hnext.serves hturn hfits hnul

/-- A DESCRIBE that comes in two parts and waits for the parameter sets, with an
OPTIONS on each side of it. -/
def describeRun : List Event :=
  let describe := sampleRequest "DESCRIBE" "rtsp://h/stream=0" 2 ""
  [.enableStream 0 25,
    .poll (samplePoll 5 (sampleRequest "OPTIONS" "*" 1 "" ++ describe.take 20)),
    .poll (samplePoll (-1) (describe.drop 20 ++ sampleRequest "OPTIONS" "*" 3 "")),
    samplePush 0 [0x67, 1, 2, 3], samplePush 0 [0x68, 1], .poll (samplePoll (-1) [])]

theorem requests_inOrder_sample : ∃ m₀ w,
    connection (historyAt sampleInit describeRun 0 13) = some (m₀, w) ∧
      (handled w).length = 3 ∧ handled w <+: pieces blankLine (received w) ∧
      List.Forall₂ Echoes (w.flatMap Move.replies) (handled w) := by
  have hrun : (connection (historyAt sampleInit describeRun 0 13)).any (fun v =>
      (handled v.2).length == 3 && decide ((0 : UInt8) ∉ received v.2) &&
        v.2.all fun m => !m.overflows) = true := by decide +kernel
  obtain ⟨⟨m₀, w⟩, h, hchecks⟩ := (Option.any_eq_true _ _).mp hrun
  simp only [Bool.and_eq_true, beq_iff_eq, decide_eq_true_eq, List.all_eq_true,
    Bool.not_eq_true'] at hchecks
  obtain ⟨⟨hthree, hnul⟩, hroom⟩ := hchecks
  obtain ⟨hordered, hreplies, -⟩ :=
    requests_inOrder sampleInit describeRun 0 13 h hnul hroom
  exact ⟨m₀, w, h, hthree, hordered, hreplies⟩

end Rtsp
end FH8852
