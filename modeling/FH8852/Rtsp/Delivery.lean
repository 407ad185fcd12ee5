import Mathlib.Data.List.TakeWhile
import FH8852.Oracle.Conn
import FH8852.Rtsp.Wire

/-!
# What a client takes off its connection

The client of the oracle reads back the replies and packets that the server
sends: no text that a reply repeats from its request holds a CR, so none can
pass for the end of a line.
-/

namespace FH8852
namespace Rtsp

open CLib History Oracle

/-! ## Replies as lines -/

/-- The reply repeats no CR, and none of its further lines is a Content-Length. -/
inductive Reply.Clean : Reply → Prop
  | plain {status cseq : Bytes} {lines : List Bytes} (hstatus : (13 : UInt8) ∉ status)
      (hcseq : (13 : UInt8) ∉ cseq) (hlines : ∀ line ∈ lines, IsLine line ∧
        startsWithNoCase (ascii "content-length:") line = false) :
      Reply.Clean (.plain status cseq (lines.flatMap (· ++ crlf)))
  | described {cseq uri sdp : Bytes} (hcseq : (13 : UInt8) ∉ cseq) (huri : (13 : UInt8) ∉ uri) :
      Reply.Clean (.described cseq uri sdp)

theorem joinLines_append {lines : List Bytes} (hne : lines ≠ []) :
    joinLines lines ++ crlf = lines.flatMap (· ++ crlf) := by
  induction lines with
  | nil => exact absurd rfl hne
  | cons line lines ih =>
      cases lines with
      | nil => exact (List.append_nil _).symm
      | cons next lines =>
          have hrest := ih (List.cons_ne_nil _ _)
          rw [List.flatMap_cons, ← hrest, joinLines]
          · simp [crlf, ascii]
          · exact List.cons_ne_nil _ _

theorem crlfcrlf_eq : crlfcrlf = crlf ++ crlf := by decide

theorem isLine_append {a b : Bytes} (hne : a ≠ []) (ha : (13 : UInt8) ∉ a)
    (hb : (13 : UInt8) ∉ b) : IsLine (a ++ b) := by
  constructor
  · intro h
    exact hne (List.append_eq_nil_iff.mp h).1
  · rw [List.mem_append, not_or]
    exact ⟨ha, hb⟩

theorem decimal_no_cr (n : Nat) : (13 : UInt8) ∉ decimal n := by
  intro h
  have hdigit := decimal_isDigit n 13 h
  revert hdigit
  decide

theorem isReply_plain {status cseq : Bytes} {lines : List Bytes} (hstatus : (13 : UInt8) ∉ status)
    (hcseq : (13 : UInt8) ∉ cseq) (hlines : ∀ line ∈ lines, IsLine line ∧
      startsWithNoCase (ascii "content-length:") line = false) :
    IsReply (replyText status cseq (lines.flatMap (· ++ crlf)))
      ([ascii "RTSP/1.0 " ++ status, ascii "CSeq: " ++ cseq, ascii "Server: " ++ serverName] ++
        lines) [] := by
  have hne : ([ascii "RTSP/1.0 " ++ status, ascii "CSeq: " ++ cseq,
      ascii "Server: " ++ serverName] ++ lines) ≠ [] := List.cons_ne_nil _ _
  have hcr₁ : (13 : UInt8) ∉ ascii "RTSP/1.0 " := by decide
  have hcr₂ : (13 : UInt8) ∉ ascii "CSeq: " := by decide
  have hcr₃ : (13 : UInt8) ∉ ascii "Server: " ++ serverName := by decide
  have hall : ∀ line ∈ [ascii "RTSP/1.0 " ++ status, ascii "CSeq: " ++ cseq,
      ascii "Server: " ++ serverName] ++ lines,
      IsLine line ∧ startsWithNoCase (ascii "content-length:") line = false := by
    intro line hline
    simp only [List.mem_append, List.mem_cons, List.not_mem_nil, or_false] at hline
    rcases hline with (rfl | rfl | rfl) | hline
    · exact ⟨isLine_append (by decide) hcr₁ hstatus, rfl⟩
    · exact ⟨isLine_append (by decide) hcr₂ hcseq, rfl⟩
    · exact ⟨⟨by decide, hcr₃⟩, by decide⟩
    · exact hlines line hline
  refine ⟨hne, fun line hline => (hall line hline).1, ?_, ?_, ?_⟩
  · have hcseq : ascii "\r\nCSeq: " = crlf ++ ascii "CSeq: " := by decide
    have hserver : ascii "\r\nServer: " = crlf ++ ascii "Server: " := by decide
    rw [List.append_nil, crlfcrlf_eq, ← List.append_assoc, joinLines_append hne]
    simp only [replyText, hcseq, hserver, List.flatMap_append, List.flatMap_cons,
      List.flatMap_nil, List.append_nil, List.append_assoc]
  · simp only [replyText, List.append_assoc]
    exact (show ascii "RTSP/" <+: ascii "RTSP/1.0 " by decide).trans (List.prefix_append _ _)
  · rw [contentLength, splitCrlf_joinLines hne fun line hline => (hall line hline).1,
      List.find?_eq_none.mpr fun line hline => by simp [(hall line hline).2]]
    rfl

/-- The value of a Content-Length line, as the client cuts it out. -/
theorem contentLength_value (n : Nat) :
    ((((ascii "Content-Length: " ++ decimal n).dropWhile (· ≠ 58)).drop 1).takeWhile (· ≠ 58)) =
      32 :: decimal n := by
  show (32 :: decimal n).takeWhile (· ≠ 58) = _
  have hcolon : ∀ b ∈ 32 :: decimal n, decide (b ≠ 58) = true := by
    intro b hb
    rw [decide_eq_true_eq]
    rintro rfl
    rcases List.mem_cons.mp hb with hb | hb
    · cases hb
    · have hdigit := decimal_isDigit _ 58 hb
      revert hdigit
      decide
  exact List.takeWhile_eq_self_iff.mpr hcolon

/-- The lines of the head of a DESCRIBE reply. -/
def describeLines (cseq uri sdp : Bytes) : List Bytes :=
  [ascii "RTSP/1.0 200 OK", ascii "CSeq: " ++ cseq,
    ascii "Content-Length: " ++ decimal sdp.length, ascii "Server: " ++ serverName,
    ascii "Content-Base: " ++ uri, ascii "Content-Type: application/sdp"]

theorem describeLines_isLine {cseq uri : Bytes} (hcseq : (13 : UInt8) ∉ cseq)
    (huri : (13 : UInt8) ∉ uri) (sdp : Bytes) :
    ∀ line ∈ describeLines cseq uri sdp, IsLine line := by
  have hcr₁ : (13 : UInt8) ∉ ascii "CSeq: " := by decide
  have hcr₂ : (13 : UInt8) ∉ ascii "Content-Length: " := by decide
  have hcr₃ : (13 : UInt8) ∉ ascii "Content-Base: " := by decide
  have hcr₄ : (13 : UInt8) ∉ ascii "RTSP/1.0 200 OK" := by decide
  have hcr₅ : (13 : UInt8) ∉ ascii "Server: " ++ serverName := by decide
  have hcr₆ : (13 : UInt8) ∉ ascii "Content-Type: application/sdp" := by decide
  simp only [describeLines, List.mem_cons, List.not_mem_nil, or_false]
  rintro line (rfl | rfl | rfl | rfl | rfl | rfl)
  · exact ⟨by decide, hcr₄⟩
  · exact isLine_append (by decide) hcr₁ hcseq
  · exact isLine_append (by decide) hcr₂ (decimal_no_cr _)
  · exact ⟨by decide, hcr₅⟩
  · exact isLine_append (by decide) hcr₃ huri
  · exact ⟨by decide, hcr₆⟩

theorem isReply_described {cseq uri : Bytes} (hcseq : (13 : UInt8) ∉ cseq)
    (huri : (13 : UInt8) ∉ uri) (sdp : Bytes) :
    IsReply (describeText cseq uri sdp ++ sdp) (describeLines cseq uri sdp) sdp := by
  have hlines := describeLines_isLine hcseq huri sdp
  have hne : describeLines cseq uri sdp ≠ [] := List.cons_ne_nil _ _
  refine ⟨hne, hlines, ?_, ?_, ?_⟩
  · have hstart : ascii "RTSP/1.0 200 OK\r\nCSeq: " =
        ascii "RTSP/1.0 200 OK" ++ crlf ++ ascii "CSeq: " := by decide
    have hlength : ascii "\r\nContent-Length: " = crlf ++ ascii "Content-Length: " := by decide
    have hserver : ascii "\r\nServer: " = crlf ++ ascii "Server: " := by decide
    have hbase : ascii "\r\nContent-Base: " = crlf ++ ascii "Content-Base: " := by decide
    have htype : ascii "\r\nContent-Type: application/sdp\r\n\r\n" =
        crlf ++ ascii "Content-Type: application/sdp" ++ crlf ++ crlf := by decide
    rw [crlfcrlf_eq, List.append_assoc, ← List.append_assoc (joinLines _), joinLines_append hne]
    simp only [describeText, describeLines, hstart, hlength, hserver, hbase, htype,
      List.flatMap_cons, List.flatMap_nil, List.append_nil, List.append_assoc]
  · simp only [describeText, List.append_assoc]
    exact (show ascii "RTSP/" <+: ascii "RTSP/1.0 200 OK\r\nCSeq: " by decide).trans
      (List.prefix_append _ _)
  · have hfind : (describeLines cseq uri sdp).find? (startsWithNoCase (ascii "content-length:")) =
        some (ascii "Content-Length: " ++ decimal sdp.length) := rfl
    rw [contentLength, splitCrlf_joinLines hne hlines, hfind]
    simp only [contentLength_value]
    exact int_decimal _

/-- The client takes a clean reply apart into its lines and its body. -/
theorem Reply.Clean.isReply {r : Reply} (h : r.Clean) :
    ∃ lines body, IsReply r.text lines body := by
  cases h with
  | plain hstatus hcseq hlines => exact ⟨_, _, isReply_plain hstatus hcseq hlines⟩
  | described hcseq huri => exact ⟨_, _, isReply_described hcseq huri _⟩

/-! ## The replies of the server are clean -/

theorem requestCseq_no_cr (req : Bytes) : (13 : UInt8) ∉ requestCseq req := by
  rw [requestCseq_eq]
  intro h
  have h := List.mem_of_mem_take h
  unfold headerField at h
  cases hfind : (lineStarts req).find? (isHeader (ascii "CSeq")) with
  | none => simp [hfind] at h
  | some p =>
      rw [hfind] at h
      have hne := List.mem_takeWhile_imp h
      simp at hne

theorem requestUri_no_cr (req : Bytes) : (13 : UInt8) ∉ requestUri req := by
  intro h
  have hspace := List.mem_takeWhile_imp (List.mem_of_mem_take h)
  revert hspace
  decide

/-- The transport a SETUP reply names holds no CR. -/
theorem SetupWay.transport_no_cr {c : RtspClient} {io : RequestIo} {req transport : Bytes}
    {t : RtspTrack} {outs : List Out} (h : SetupWay c io req t transport outs) :
    (13 : UInt8) ∉ transport := by
  have hdash : (13 : UInt8) ∉ ascii "-" := by decide
  cases h with
  | tcp =>
      have hstart : (13 : UInt8) ∉ ascii "RTP/AVP/TCP;unicast;interleaved=" := by decide
      simp only [tcpTransport, List.mem_append, not_or]
      exact ⟨⟨⟨hstart, decimal_no_cr _⟩, hdash⟩, decimal_no_cr _⟩
  | udp =>
      have hstart : (13 : UInt8) ∉ ascii "RTP/AVP/UDP;unicast;client_port=" := by decide
      have hport : (13 : UInt8) ∉ ascii ";server_port=" := by decide
      simp only [udpTransport, List.mem_append, not_or]
      exact ⟨⟨⟨⟨⟨⟨⟨hstart, decimal_no_cr _⟩, hdash⟩, decimal_no_cr _⟩, hport⟩,
        decimal_no_cr _⟩, hdash⟩, decimal_no_cr _⟩

/-- The two lines of a SETUP reply. -/
theorem setupLines_eq (transport : Bytes) (id : UInt32) :
    snprintf 256 (ascii "Transport: " ++ snprintf 160 transport ++ ascii "\r\nSession: " ++
      decimal id.toNat ++ ascii ";timeout=60\r\n") =
      [ascii "Transport: " ++ snprintf 160 transport,
        ascii "Session: " ++ (decimal id.toNat ++ ascii ";timeout=60")].flatMap (· ++ crlf) := by
  have hsession : ascii "\r\nSession: " = crlf ++ ascii "Session: " := by decide
  have htimeout : ascii ";timeout=60\r\n" = ascii ";timeout=60" ++ crlf := by decide
  rw [setupText_eq, sessionLine, hsession, htimeout]
  simp only [List.flatMap_cons, List.flatMap_nil, List.append_nil, List.append_assoc]

theorem status_no_cr {status : Bytes}
    (h : status ∈ authRefusals ∨ status ∈ refusals ∨ status = ascii "200 OK") :
    (13 : UInt8) ∉ status := by
  have hall : ∀ s ∈ authRefusals ++ refusals ++ [ascii "200 OK"], (13 : UInt8) ∉ s := by decide
  exact hall status (by simpa [or_assoc] using h)

theorem plain_clean {status : Bytes} (hstatus : (13 : UInt8) ∉ status) (req : Bytes)
    {extra : Bytes} (lines : List Bytes) (hextra : extra = lines.flatMap (· ++ crlf))
    (hlines : ∀ line ∈ lines, (line ≠ [] ∧ (13 : UInt8) ∉ line) ∧
      startsWithNoCase (ascii "content-length:") line = false) :
    (Reply.plain status (requestCseq req) extra).Clean := by
  rw [hextra]
  exact .plain hstatus (requestCseq_no_cr req) hlines

theorem Effect.replies_clean {srv : RtspConf} {c : RtspClient} {io : RequestIo} {req : Bytes}
    {r : Outcome} (h : Effect srv c io req r) :
    ∀ s ∈ r.outs.filterMap Out.reply?, s.Clean := by
  intro s hs
  have hok : (13 : UInt8) ∉ ascii "200 OK" := by decide
  cases h with
  | refused status _ hstatus =>
      rw [List.mem_singleton.mp hs]
      exact plain_clean (status_no_cr (.inl hstatus)) req
        [ascii "WWW-Authenticate: Basic realm=\"WallyWorld\""] (by decide) (by decide)
  | answered status extra _ _ hstatus hextra =>
      rw [List.mem_singleton.mp hs]
      have hstatus := status_no_cr (.inr (hstatus.imp_right And.left))
      rcases hextra with rfl | rfl
      · exact plain_clean hstatus req [] rfl (by decide)
      · exact plain_clean hstatus req
          [ascii "Public: OPTIONS, DESCRIBE, SETUP, PLAY, TEARDOWN, GET_PARAMETER"] (by decide)
          (by decide)
  | described =>
      rw [List.mem_singleton.mp hs]
      exact .described (requestCseq_no_cr req) (requestUri_no_cr req)
  | waiting => cases hs
  | setup t transport outs _ _ houts hway =>
      obtain ⟨id, hlines⟩ : ∃ id : UInt32, (setupTrack c io (trackOf (requestUri req)) t
          (streamOf (requestUri req)) (requestCseq req) transport outs).outs =
          outs ++ [.reply (.plain (ascii "200 OK") (requestCseq req)
            (snprintf 256 (ascii "Transport: " ++ snprintf 160 transport ++
              ascii "\r\nSession: " ++ decimal id.toNat ++ ascii ";timeout=60\r\n")))
            io.reply []] := ⟨_, rfl⟩
      rw [hlines, List.filterMap_append, houts.replies] at hs
      rw [List.mem_singleton.mp hs]
      refine plain_clean hok req [_, _] (setupLines_eq transport id) ?_
      have hcr₁ : (13 : UInt8) ∉ ascii "Transport: " := by decide
      have hcr₂ : (13 : UInt8) ∉ ascii "Session: " := by decide
      have hcr₃ : (13 : UInt8) ∉ ascii ";timeout=60" := by decide
      have htransport : (13 : UInt8) ∉ snprintf 160 transport := fun h =>
        hway.transport_no_cr (List.mem_of_mem_take h)
      have hsession : (13 : UInt8) ∉ decimal id.toNat ++ ascii ";timeout=60" := by
        rw [List.mem_append, not_or]
        exact ⟨decimal_no_cr _, hcr₃⟩
      intro line hline
      simp only [List.mem_cons, List.not_mem_nil, or_false] at hline
      rcases hline with rfl | rfl
      · exact ⟨isLine_append (by decide) hcr₁ htransport, rfl⟩
      · exact ⟨isLine_append (by decide) hcr₂ hsession, rfl⟩
  | setupFailed outs _ _ houts =>
      rw [List.filterMap_append, houts.replies] at hs
      rw [List.mem_singleton.mp hs]
      exact plain_clean (by decide) req [] rfl (by decide)
  | play =>
      rw [playOk_replies] at hs
      rw [List.mem_singleton.mp hs]
      exact plain_clean hok req [ascii "Range: npt=now-"] (by decide) (by decide)
  | teardown =>
      rw [teardownOk_replies] at hs
      rw [List.mem_singleton.mp hs]
      exact plain_clean hok req [] rfl (by decide)

theorem Turn.replies_clean {m : Move} (h : Turn m) : ∀ s ∈ m.replies, s.Clean := by
  have hnone : m.replies = [] → ∀ s ∈ m.replies, s.Clean := by
    intro hreplies s hs
    rw [hreplies] at hs
    cases hs
  cases h with
  | request => exact (handleRequest_effect _ _ _ _).replies_clean
  | accept => exact hnone (clientReset_socketsOnly _).replies
  | hangup | close => exact hnone (clientReset_socketsOnly _).replies
  | metadata => exact hnone (sendMetadata_sentOn _ _ _).replies
  | push => exact hnone (sendVideoNal_replies _ _ _ _ _)
  | recv | settle | skip => exact hnone rfl

/-! ## Delivery -/

/-- The message a client is to get. -/
def Out.delivered? : Out → Option Message
  | .reply r _ _ => some (.rtsp r.text)
  | .packet _ _ data (.interleaved channel _) => some (.rtp channel data)
  | _ => none

/-- What the server sends on a connection, message by message. -/
def delivered (w : List Move) : List Message := (w.flatMap Move.outs).filterMap Out.delivered?

/-- The length field of a frame is that of its packet. -/
theorem frame_length {data : Bytes} (h : data.length < 65536) :
    (UInt8.ofNat (data.length / 256)).toNat * 256 + (UInt8.ofNat data.length).toNat =
      data.length := by
  show data.length / 256 % 256 * 256 + data.length % 256 = data.length
  omega

theorem Out.Sound.sent {o : Out} (h : o.Sound) (hclean : ∀ r, o.reply? = some r → r.Clean) :
    Option.Rel Sent o.delivered? (o.message?.map messageBytes) := by
  cases o with
  | reply r head body =>
      have hfits : r.Fits := h
      obtain ⟨lines, text, hreply⟩ := (hclean r rfl).isReply
      have hbytes : messageBytes ((r.parts.zip [head, body]).map fun p => ⟨p.1, p.2⟩) = r.text := by
        rw [← hfits.bytes_eq]
        cases r <;> rfl
      show Option.Rel Sent (some _) (some (messageBytes _))
      rw [hbytes]
      exact .some (.rtsp hreply)
  | packet k rtcp data via =>
      cases via with
      | interleaved channel answers =>
          have h : data.length ≤ 12 + rtpMaxPayload := h
          have hlen := frame_length (Nat.lt_of_le_of_lt h (by decide))
          have hbytes : messageBytes [⟨frame channel data, answers⟩] = frame channel data :=
            List.append_nil _
          show Option.Rel Sent (some _) (some (messageBytes _))
          rw [hbytes]
          exact .some (.rtp channel _ _ data hlen)
      | udp | dropped => exact .none
  | videoNal | idr | opened | closed => exact .none

theorem sent_filterMap {outs : List Out} (hsound : ∀ o ∈ outs, o.Sound)
    (hclean : ∀ r ∈ outs.filterMap Out.reply?, r.Clean) :
    List.Forall₂ Sent (outs.filterMap Out.delivered?)
      ((outs.filterMap Out.message?).map messageBytes) := by
  induction outs with
  | nil => exact .nil
  | cons o outs ih =>
      have hrest := ih (fun o' ho' => hsound o' (List.mem_cons_of_mem _ ho')) fun r hr => by
        obtain ⟨o', ho', hr⟩ := List.mem_filterMap.mp hr
        exact hclean r (List.mem_filterMap.mpr ⟨o', List.mem_cons_of_mem _ ho', hr⟩)
      have hsent := (hsound o List.mem_cons_self).sent fun r hr =>
        hclean r (List.mem_filterMap.mpr ⟨o, List.mem_cons_self, hr⟩)
      rw [List.filterMap_cons, List.filterMap_cons]
      cases hdelivered : o.delivered? with
      | none =>
          rw [hdelivered] at hsent
          cases hmessage : o.message? with
          | none => exact hrest
          | some calls =>
              rw [hmessage] at hsent
              cases hsent
      | some m =>
          rw [hdelivered] at hsent
          cases hmessage : o.message? with
          | none =>
              rw [hmessage] at hsent
              cases hsent
          | some calls =>
              rw [hmessage] at hsent
              cases hsent with
              | some hsent => exact .cons hsent hrest

/-! ## Runs -/

/-- The messages of a connection go out as the client reads them. -/
theorem connection_sent (io : InitIo) (evs : List Event) (i : Slot) (n : Nat) {a : Move}
    {w : List Move} (h : connection (historyAt io evs i n) = some (a, w)) :
    List.Forall₂ Sent (delivered w) ((messages w).map messageBytes) := by
  have hmem : ∀ m ∈ w, ∃ k, ∃ hk : k < (history io evs i).length,
      m = (history io evs i)[k] := by
    intro m hm
    obtain ⟨k, hk, rfl⟩ := List.getElem_of_mem (List.mem_of_mem_take ((window_subset h).2.2 hm))
    exact ⟨k, hk, rfl⟩
  refine sent_filterMap ?_ ?_
  · intro o ho
    obtain ⟨m, hm, ho⟩ := List.mem_flatMap.mp ho
    obtain ⟨k, hk, rfl⟩ := hmem m hm
    exact (history_turn io evs i k hk).2.sound
      (fun _ _ _ hact => history_setsFit io evs i (List.getElem_mem hk) hact) o ho
  · intro r hr
    obtain ⟨o, ho, hr⟩ := List.mem_filterMap.mp hr
    obtain ⟨m, hm, ho⟩ := List.mem_flatMap.mp ho
    obtain ⟨k, hk, rfl⟩ := hmem m hm
    exact (history_turn io evs i k hk).2.replies_clean r (List.mem_filterMap.mpr ⟨o, ho, hr⟩)

theorem wire_of_sentWhole {w : List Move} (h : (messages w).all sentWhole = true) :
    wire w = ((messages w).map messageBytes).flatten := by
  rw [← List.flatMap_def, wire]
  exact List.flatMap_congr fun calls hcalls =>
    takenBytes_of_sentWhole (List.all_eq_true.mp h calls hcalls)

/-- On a connection that takes all bytes the client reads back what the server
sent, message by message, whatever the chunks in which it receives the bytes. -/
theorem messages_read_back (io : InitIo) (evs : List Event) (i : Slot) (n : Nat) {a : Move}
    {w : List Move} (h : connection (historyAt io evs i n) = some (a, w))
    (hwhole : (messages w).all sentWhole = true) {chunks : List Bytes}
    (hchunks : chunks.flatten = wire w) (hne : ∀ chunk ∈ chunks, chunk ≠ []) :
    nextMessages (delivered w).length chunks [] = some (delivered w, [], []) := by
  have hstream : [] ++ chunks.flatten = ((messages w).map messageBytes).flatten ++ [] := by
    rw [List.nil_append, List.append_nil, hchunks, wire_of_sentWhole hwhole]
  obtain ⟨buf, rest, hnext, hnothing, hsuffix⟩ :=
    nextMessages_spec (connection_sent io evs i n h) hstream
  obtain ⟨rfl, hrest⟩ := List.append_eq_nil_iff.mp hnothing
  cases rest with
  | nil => exact hnext
  | cons chunk rest =>
      rw [List.flatten_cons, List.append_eq_nil_iff] at hrest
      exact absurd hrest.1 (hne chunk (hsuffix.subset List.mem_cons_self))

/-- The session of `sampleRun`, in chunks of one byte. -/
theorem messages_read_back_sample : ∃ a w,
    connection (historyAt sampleInit sampleRun 0 12) = some (a, w) ∧
      (delivered w).length = 9 ∧
      nextMessages (delivered w).length ((wire w).map fun b => [b]) [] =
        some (delivered w, [], []) := by
  have hrun : (connection (historyAt sampleInit sampleRun 0 12)).any (fun v =>
      (delivered v.2).length == 9 && (messages v.2).all sentWhole) = true := by decide +kernel
  obtain ⟨⟨a, w⟩, h, hchecks⟩ := (Option.any_eq_true _ _).mp hrun
  rw [Bool.and_eq_true, beq_iff_eq] at hchecks
  refine ⟨a, w, h, hchecks.1, messages_read_back sampleInit sampleRun 0 12 h hchecks.2 ?_ ?_⟩
  · rw [← List.flatMap_def]
    exact List.flatMap_singleton' _
  · intro chunk hchunk
    obtain ⟨b, -, rfl⟩ := List.mem_map.mp hchunk
    exact List.cons_ne_nil _ _

end Rtsp
end FH8852
