import FH8852.Rtsp.Delivery
import FH8852.Rtsp.Streams

/-!
# The transport of a track

A SETUP reply names two numbers and, for UDP, two ports.  `offer` reads them off
the bytes of the reply, and `setup_numbers_kept_iff` says when the packets of
the track are sent with them: the reply prints the numbers as they were read,
the track keeps their low bytes.
-/

namespace FH8852
namespace Rtsp

open CLib History

/-! ## What a reply offers -/

inductive Offer where
  | tcp (rtp rtcp : Nat)
  | udp (rtp rtcp serverRtp serverRtcp : Nat)
deriving DecidableEq

/-- The two numbers behind `key`, which ends with an equals sign. -/
def pairAfter (key transport : Bytes) : Option (Nat × Nat) :=
  (strstr key transport).map fun p => scanPair (p.drop key.length)

/-- The offer of the value of a Transport line. -/
def readOffer (transport : Bytes) : Option Offer :=
  if (ascii "RTP/AVP/TCP").isPrefixOf transport then
    (pairAfter (ascii "interleaved=") transport).map fun pair => .tcp pair.1 pair.2
  else
    (pairAfter (ascii "client_port=") transport).bind fun client =>
      (pairAfter (ascii "server_port=") transport).map fun server =>
        .udp client.1 client.2 server.1 server.2

/-- The offer in the reply of a move, as its bytes have it. -/
def Move.offer (m : Move) : Option Offer :=
  m.replies.head?.bind fun r => (headerField r.bytes (ascii "Transport")).bind readOffer

namespace Offer

/-- The channel or the client's port for RTP or for RTCP. -/
def number : Offer → (rtcp : Bool) → Nat
  | tcp rtp control, rtcp => if rtcp then control else rtp
  | udp rtp control _ _, rtcp => if rtcp then control else rtp

/-- A packet sent so is sent with the number of the offer. -/
def names (o : Offer) (rtcp : Bool) (via : Via) : Bool :=
  match o, via with
  | tcp _ _, .interleaved channel _ => channel.toNat == o.number rtcp
  | udp _ _ _ _, .udp _ addr => addr.port.toNat == o.number rtcp
  | _, .dropped => true
  | _, _ => false

/-- Whatever `track_send` sends on the track, it sends with the numbers of the
offer. -/
def Serves (o : Offer) (t : RtspTrack) : Prop :=
  ∀ rtcp data answers, o.names rtcp (trackSend t rtcp data answers) = true

end Offer

/-- The ports of the two sockets of a round of `bind_udp_pair` that binds both:
the one `getsockname` reports and the next. -/
def UdpAttempt.ports (a : UdpAttempt) : Option (UInt16 × UInt16) :=
  if 0 ≤ a.rtp ∧ 0 ≤ a.rtcp ∧ a.bindRtp = true ∧ a.bindRtcp = true then
    a.port.map fun p => (p, p + 1)
  else none

/-- The server's ports in the offer are those the two sockets of the track are
bound to. -/
def Offer.ServerBound (o : Offer) (io : RequestIo) (t : RtspTrack) : Prop :=
  ∀ a b p q, o = .udp a b p q → ∃ j ports, (io.attempt j).ports = some ports ∧
    t.rtpFd = (io.attempt j).rtp ∧ t.rtcpFd = (io.attempt j).rtcp ∧
    ports.1.toNat = p ∧ ports.2.toNat = q

/-- The packets of track `k` in the moves `ms` are sent with the numbers of the
offer, and so are those that the client has yet to be sent. -/
structure Offer.KeptBy (o : Offer) (k : TrackId) (ms : List Move) (c : RtspClient) : Prop where
  sent : ∀ m ∈ ms, ∀ rtcp data via, .packet k rtcp data via ∈ m.outs → o.names rtcp via = true
  track : o.Serves (c.tracks k)

/-- The SETUP `m₀` of track `k` is answered with an offer that the server keeps
in the moves `ms` and for the client `c` after them. -/
def Honours (k : TrackId) (m₀ : Move) (ms : List Move) (c : RtspClient) : Prop :=
  ∃ o io, m₀.offer = some o ∧ m₀.act = .request io m₀.req true ∧
    o.ServerBound io (m₀.post.tracks k) ∧ o.KeptBy k ms c

/-! ## What a request asks for -/

/-- The two numbers a SETUP asks for. -/
def askedPair (req : Bytes) : Nat × Nat :=
  (pairAfter (if asksTcp req then ascii "interleaved=" else ascii "client_port=")
    (requestTransport req)).getD (0, 0)

/-- The numbers fit the fields of the track: bytes for TCP, ports for UDP. -/
def numbersFit (req : Bytes) : Bool :=
  let limit := if asksTcp req then 2 ^ 8 else 2 ^ 16
  decide ((askedPair req).1 < limit) && decide ((askedPair req).2 < limit)

/-! ## Reading numbers -/

theorem scanPair_le (s : Bytes) : (scanPair s).1 ≤ ulongMax ∧ (scanPair s).2 ≤ ulongMax := by
  have hnext : ∀ a, (a + 1) % 2 ^ 32 ≤ ulongMax := by
    intro a
    show (a + 1) % 4294967296 ≤ 4294967295
    omega
  unfold scanPair
  split
  · exact ⟨by decide, by decide⟩
  · rename_i hfirst
    split
    · exact ⟨scanUnsigned_le hfirst, hnext _⟩
    · rename_i hsecond
      exact ⟨scanUnsigned_le hfirst, scanUnsigned_le hsecond⟩
  · rename_i _ hfirst
    exact ⟨scanUnsigned_le hfirst, hnext _⟩

/-- A pair is read back as it was printed. -/
theorem scanPair_decimal {a b : Nat} (ha : a ≤ ulongMax) (hb : b ≤ ulongMax) {rest : Bytes}
    (hrest : ∀ c, rest.head? = some c → isDigit c = false) :
    scanPair (decimal a ++ 45 :: (decimal b ++ rest)) = (a, b) := by
  have hdash : ∀ c, (45 :: (decimal b ++ rest)).head? = some c → isDigit c = false := by
    intro c hc
    cases hc
    decide
  simp only [scanPair, scanUnsigned_decimal ha hdash, scanUnsigned_decimal hb hrest]

theorem askedPair_le (req : Bytes) :
    (askedPair req).1 ≤ ulongMax ∧ (askedPair req).2 ≤ ulongMax := by
  unfold askedPair pairAfter
  cases strstr _ (requestTransport req) with
  | none => exact ⟨Nat.zero_le _, Nat.zero_le _⟩
  | some p => exact scanPair_le _

/-! ## Reading the reply -/

/-- What `header_value` makes of what follows the colon. -/
theorem trimmed_line {value : Bytes} (hcr : (13 : UInt8) ∉ value) (hspace : value.head? ≠ some 32)
    (rest : Bytes) :
    ((32 :: (value ++ (crlf ++ rest))).dropWhile (· == 32)).takeWhile (· ≠ 13) = value := by
  have hdrop : (32 :: (value ++ (crlf ++ rest))).dropWhile (· == 32) =
      value ++ (crlf ++ rest) := by
    rw [List.dropWhile_cons_of_pos rfl]
    cases value with
    | nil => rfl
    | cons c value =>
        rw [List.cons_append, List.dropWhile_cons_of_neg]
        intro hc
        exact hspace (congrArg some (beq_iff_eq.mp hc))
  rw [hdrop]
  exact takeWhile_cr hcr rest

/-- The Transport line of a SETUP reply is read back. -/
theorem headerField_setup {cseq transport : Bytes} (hcseq : (13 : UInt8) ∉ cseq)
    (htransport : (13 : UInt8) ∉ transport) (hspace : transport.head? ≠ some 32)
    (rest : Bytes) :
    headerField (replyText (ascii "200 OK") cseq
      (ascii "Transport: " ++ transport ++ (crlf ++ rest))) (ascii "Transport") =
      some transport := by
  have htext : replyText (ascii "200 OK") cseq
      (ascii "Transport: " ++ transport ++ (crlf ++ rest)) =
      ascii "RTSP/1.0 200 OK" ++ (crlf ++ ((ascii "CSeq: " ++ cseq) ++ (crlf ++
        ((ascii "Server: " ++ serverName) ++ (crlf ++
          ((ascii "Transport: " ++ transport) ++ (crlf ++ (rest ++ crlf)))))))) := by
    have hcseq : ascii "\r\nCSeq: " = crlf ++ ascii "CSeq: " := by decide
    have hserver : ascii "\r\nServer: " = crlf ++ ascii "Server: " := by decide
    have hstatus : ascii "RTSP/1.0 200 OK" = ascii "RTSP/1.0 " ++ ascii "200 OK" := by decide
    simp only [replyText, hcseq, hserver, hstatus, List.append_assoc]
  have hcr₁ : (13 : UInt8) ∉ ascii "RTSP/1.0 200 OK" := by decide
  have hcr₂ : (13 : UInt8) ∉ ascii "CSeq: " ++ cseq := by
    rw [List.mem_append, not_or]
    exact ⟨by decide, hcseq⟩
  have hcr₃ : (13 : UInt8) ∉ ascii "Server: " ++ serverName := by decide
  rw [htext, headerField, lineStarts_line hcr₁, lineStarts_line hcr₂, lineStarts_line hcr₃,
    List.find?_cons_of_neg, List.find?_cons_of_neg, List.find?_cons_of_pos, Option.map_some]
  · exact congrArg some (trimmed_line htransport hspace (rest ++ crlf))
  · rfl
  · exact Bool.false_ne_true
  · exact Bool.false_ne_true

theorem pairAfter_decimal {key before : Bytes} (hkey : strstr key (before ++ key) = some key)
    {a b : Nat} (ha : a ≤ ulongMax) (hb : b ≤ ulongMax) {rest : Bytes}
    (hrest : ∀ c, rest.head? = some c → isDigit c = false) :
    pairAfter key (before ++ key ++ (decimal a ++ 45 :: (decimal b ++ rest))) = some (a, b) := by
  rw [pairAfter, strstr_append hkey, Option.map_some, List.drop_left, scanPair_decimal ha hb hrest]

theorem readOffer_tcp {a b : Nat} (ha : a ≤ ulongMax) (hb : b ≤ ulongMax) :
    readOffer (tcpTransport a b) = some (.tcp a b) := by
  have htext : tcpTransport a b = ascii "RTP/AVP/TCP;unicast;" ++ ascii "interleaved=" ++
      (decimal a ++ 45 :: (decimal b ++ [])) := by
    have hstart : ascii "RTP/AVP/TCP;unicast;interleaved=" =
        ascii "RTP/AVP/TCP;unicast;" ++ ascii "interleaved=" := by decide
    rw [tcpTransport, hstart, List.append_nil]
    simp only [List.append_assoc]
    rfl
  have htcp : (ascii "RTP/AVP/TCP").isPrefixOf (tcpTransport a b) = true := rfl
  rw [readOffer, if_pos htcp, htext, pairAfter_decimal (by decide) ha hb (by simp)]
  rfl

/-- Between the client's ports and the server's no text looks like the key of the
server's. -/
theorem udpTransport_server {a b : Nat} (server : Bytes) :
    strstr (ascii "server_port=") (ascii "RTP/AVP/UDP;unicast;client_port=" ++
      (decimal a ++ 45 :: (decimal b ++ 59 :: server))) =
      strstr (ascii "server_port=") server := by
  have hno : ∀ n, (115 : UInt8) ∉ decimal n := by
    intro n h
    have hdigit := decimal_isDigit n 115 h
    revert hdigit
    decide
  have hskip : (115 : UInt8) ∉ decimal a ++ 45 :: (decimal b ++ [59]) := by
    simp [hno]
  have htext : decimal a ++ 45 :: (decimal b ++ 59 :: server) =
      decimal a ++ 45 :: (decimal b ++ [59]) ++ server := by simp
  have hkey : ascii "server_port=" = 115 :: ascii "erver_port=" := by decide
  show strstr (ascii "server_port=") (decimal a ++ 45 :: (decimal b ++ 59 :: server)) = _
  rw [htext, hkey, strstr_skip hskip]

theorem readOffer_udp {a b : Nat} (ha : a ≤ ulongMax) (hb : b ≤ ulongMax) {port : Int}
    (hport : 0 ≤ port) (hmax : port.toNat + 1 ≤ ulongMax) :
    readOffer (udpTransport a b port) = some (.udp a b port.toNat (port.toNat + 1)) := by
  have hnext : (port + 1).toNat = port.toNat + 1 := by omega
  have htext : udpTransport a b port = ascii "RTP/AVP/UDP;unicast;client_port=" ++
      (decimal a ++ 45 :: (decimal b ++ 59 :: (ascii "server_port=" ++
        (decimal port.toNat ++ 45 :: (decimal (port.toNat + 1) ++ []))))) := by
    have hkey : ascii ";server_port=" = 59 :: ascii "server_port=" := by decide
    rw [udpTransport, hnext, hkey, List.append_nil]
    simp only [List.append_assoc, List.cons_append]
    rfl
  have hudp : (ascii "RTP/AVP/TCP").isPrefixOf (udpTransport a b port) = false := rfl
  have hclient : pairAfter (ascii "client_port=") (udpTransport a b port) = some (a, b) := by
    have hstart : ascii "RTP/AVP/UDP;unicast;client_port=" =
        ascii "RTP/AVP/UDP;unicast;" ++ ascii "client_port=" := by decide
    rw [htext, hstart]
    refine pairAfter_decimal (by decide) ha hb ?_
    intro c hc
    cases hc
    decide
  have hserver : pairAfter (ascii "server_port=") (udpTransport a b port) =
      some (port.toNat, port.toNat + 1) := by
    rw [htext, pairAfter, udpTransport_server]
    exact @pairAfter_decimal (ascii "server_port=") [] (by decide) _ _ (by omega) hmax []
      (by simp)
  rw [readOffer, hudp, if_neg (by decide), hclient, Option.bind_some, hserver]
  rfl

/-! ## The sockets of a UDP track -/

/-- A pair that `bind_udp_pair` returns: the ports of the round that bound them. -/
theorem bindUdpPairLoop_ports (attempt : Nat → UdpAttempt) (left i : Nat) (t : RtspTrack)
    (hport : 0 ≤ (bindUdpPairLoop attempt left i t).1) :
    ∃ j ports, (attempt j).ports = some ports ∧
      (bindUdpPairLoop attempt left i t).2.1 =
        { t with rtpFd := (attempt j).rtp, rtcpFd := (attempt j).rtcp } ∧
      (ports.1.toNat : Int) = (bindUdpPairLoop attempt left i t).1 ∧
      (ports.2.toNat : Int) = (bindUdpPairLoop attempt left i t).1 + 1 := by
  induction left generalizing i with
  | zero =>
      have hnone : (0 : Int) ≤ -1 := hport
      omega
  | succ left ih =>
      simp only [bindUdpPairLoop] at hport ⊢
      by_cases hbound : 0 ≤ (attempt i).rtp ∧ 0 ≤ (attempt i).rtcp ∧ (attempt i).bindRtp = true
      · rw [if_pos hbound] at hport ⊢
        cases hp : (attempt i).port with
        | none =>
            rw [hp] at hport
            exact ih (i + 1) hport
        | some p =>
            rw [hp] at hport
            by_cases hrtcp : (attempt i).bindRtcp = true
            · simp only [if_pos hrtcp] at hport ⊢
              -- port 65535 has no next one, and the source returns -1 for it
              have hnext : (p + 1).toNat = p.toNat + 1 := by
                have hadd : (p + 1).toNat = (p.toNat + 1) % 65536 := UInt16.toNat_add p 1
                have hlt := p.toNat_lt
                omega
              refine ⟨i, (p, p + 1), ?_, rfl, ?_, ?_⟩
              · rw [UdpAttempt.ports, if_pos ⟨hbound.1, hbound.2.1, hbound.2.2, hrtcp⟩, hp]
                rfl
              · show (p.toNat : Int) = ((p + 1).toNat : Int) - 1
                omega
              · show ((p + 1).toNat : Int) = ((p + 1).toNat : Int) - 1 + 1
                omega
            · simp only [if_neg hrtcp] at hport ⊢
              exact ih (i + 1) hport
      · rw [if_neg hbound] at hport ⊢
        exact ih (i + 1) hport

/-! ## What a granted SETUP leaves and answers -/

/-- The numbers of a transport are those of its request. -/
theorem askedPair_tcp {req p : Bytes}
    (htcp : (strstr (ascii "TCP") (requestTransport req)).isSome = true)
    (hp : strstr (ascii "interleaved=") (requestTransport req) = some p) :
    asksTcp req = true ∧ askedPair req = scanPair (p.drop 12) := by
  have hasks : asksTcp req = true := by simp [asksTcp, htcp, hp]
  refine ⟨hasks, ?_⟩
  rw [askedPair, if_pos hasks, pairAfter, hp]
  rfl

theorem askedPair_udp {req p : Bytes}
    (hudp : (strstr (ascii "TCP") (requestTransport req)).isSome = false)
    (hp : strstr (ascii "client_port=") (requestTransport req) = some p) :
    asksTcp req = false ∧ askedPair req = scanPair (p.drop 12) := by
  have hasks : asksTcp req = false := by simp [asksTcp, hudp]
  refine ⟨hasks, ?_⟩
  rw [askedPair, if_neg (by simp [hasks]), pairAfter, hp]
  rfl

/-- An empty packet is never dropped, so it shows where a track sends. -/
theorem serves_iff {o : Offer} {t : RtspTrack} {fits : Bool → Prop}
    (hempty : ∀ rtcp, o.names rtcp (trackSend t rtcp [] []) = true → fits rtcp)
    (hall : ∀ rtcp data answers, fits rtcp →
      o.names rtcp (trackSend t rtcp data answers) = true) :
    o.Serves t ↔ fits false ∧ fits true := by
  constructor
  · intro h
    exact ⟨hempty false (h false [] []), hempty true (h true [] [])⟩
  · rintro ⟨hrtp, hrtcp⟩ rtcp data answers
    cases rtcp with
    | false => exact hall false data answers hrtp
    | true => exact hall true data answers hrtcp

theorem serves_tcp_iff {a b : Nat} {t : RtspTrack} (hinterleaved : t.interleaved = true)
    (hrtp : t.rtpChannel = UInt8.ofNat a) (hrtcp : t.rtcpChannel = UInt8.ofNat b) :
    (Offer.tcp a b).Serves t ↔ a < 2 ^ 8 ∧ b < 2 ^ 8 := by
  have hmod : ∀ n, (UInt8.ofNat n).toNat = n ↔ n < 2 ^ 8 := by
    intro n
    show n % 256 = n ↔ n < 256
    omega
  have hsend : ∀ rtcp data answers, trackSend t rtcp data answers =
      if 4 + 12 + rtpMaxPayload - 4 < data.length then .dropped
      else .interleaved (UInt8.ofNat ((Offer.tcp a b).number rtcp)) answers := by
    intro rtcp data answers
    rw [trackSend, if_pos hinterleaved, hrtp, hrtcp]
    cases rtcp <;> rfl
  refine @serves_iff _ t (fun rtcp => (Offer.tcp a b).number rtcp < 2 ^ 8) ?_ ?_
  · intro rtcp h
    rw [hsend] at h
    exact (hmod _).mp (beq_iff_eq.mp h)
  · intro rtcp data answers hfit
    rw [hsend]
    split
    · rfl
    · exact beq_iff_eq.mpr ((hmod _).mpr hfit)

theorem serves_udp_iff {a b p q : Nat} {t : RtspTrack} (hinterleaved : t.interleaved = false)
    (hrtp : t.rtpAddr.port = UInt16.ofNat a) (hrtcp : t.rtcpAddr.port = UInt16.ofNat b) :
    (Offer.udp a b p q).Serves t ↔ a < 2 ^ 16 ∧ b < 2 ^ 16 := by
  have hmod : ∀ n, (UInt16.ofNat n).toNat = n ↔ n < 2 ^ 16 := by
    intro n
    show n % 65536 = n ↔ n < 65536
    omega
  have hsend : ∀ rtcp data answers, ∃ fd addr, trackSend t rtcp data answers = .udp fd addr ∧
      addr.port = UInt16.ofNat ((Offer.udp a b p q).number rtcp) := by
    intro rtcp data answers
    rw [trackSend, if_neg (by simp [hinterleaved])]
    cases rtcp with
    | false => exact ⟨t.rtpFd, t.rtpAddr, rfl, hrtp⟩
    | true => exact ⟨t.rtcpFd, t.rtcpAddr, rfl, hrtcp⟩
  have hnames : ∀ rtcp data answers, (Offer.udp a b p q).names rtcp
      (trackSend t rtcp data answers) = true ↔ (Offer.udp a b p q).number rtcp < 2 ^ 16 := by
    intro rtcp data answers
    obtain ⟨fd, addr, hvia, hport⟩ := hsend rtcp data answers
    rw [hvia, ← hmod, ← hport]
    exact beq_iff_eq
  exact @serves_iff _ t (fun rtcp => (Offer.udp a b p q).number rtcp < 2 ^ 16)
    (fun rtcp => (hnames rtcp [] []).mp) (fun rtcp data answers => (hnames rtcp data answers).mpr)

/-- The offer a SETUP makes and the track it leaves, by the way it takes. -/
theorem SetupWay.offer {c : RtspClient} {io : RequestIo} {req transport : Bytes}
    {t : RtspTrack} {outs : List Out} (h : SetupWay c io req t transport outs) :
    ∃ o, readOffer transport = some o ∧ o.ServerBound io t ∧
      (o.Serves t ↔ numbersFit req = true) ∧ transport.length < 160 := by
  obtain ⟨ha, hb⟩ := askedPair_le req
  have hdigits : ∀ n ≤ ulongMax, (decimal n).length ≤ 10 := by
    intro n hn
    refine decimal_length_le (by omega) (Nat.lt_of_le_of_lt hn (by decide))
  cases h with
  | tcp p htcp hp =>
      obtain ⟨hasks, hpair⟩ := askedPair_tcp htcp hp
      rw [← hpair]
      refine ⟨_, readOffer_tcp ha hb, ?_, ?_, ?_⟩
      · intro _ _ _ _ hudp
        cases hudp
      · rw [serves_tcp_iff rfl rfl rfl]
        simp [numbersFit, hasks]
      · have ha := hdigits _ ha
        have hb := hdigits _ hb
        simp only [tcpTransport, List.length_append, length_ascii, String.reduceToList,
          List.length_cons, List.length_nil]
        omega
  | udp p hudp hp hport =>
      obtain ⟨hasks, hpair⟩ := askedPair_udp hudp hp
      obtain ⟨j, ports, hports, htrack, hfirst, hsecond⟩ :=
        bindUdpPairLoop_ports io.attempt 16 0 closedTrack hport
      have hmax : ports.2.toNat ≤ 65535 := by
        have hlt := ports.2.toNat_lt
        omega
      rw [← hpair]
      change (ports.1.toNat : Int) = (bindUdpPair io.attempt closedTrack).1 at hfirst
      change (ports.2.toNat : Int) = (bindUdpPair io.attempt closedTrack).1 + 1 at hsecond
      change (bindUdpPair io.attempt closedTrack).2.1 = _ at htrack
      have hnext : (bindUdpPair io.attempt closedTrack).1.toNat + 1 ≤ ulongMax := by
        show _ ≤ 4294967295
        omega
      refine ⟨_, readOffer_udp ha hb hport hnext, ?_, ?_, ?_⟩
      · intro a b p q ho
        cases ho
        refine ⟨j, ports, hports, ?_, ?_, ?_, ?_⟩
        · rw [htrack]
        · rw [htrack]
        · omega
        · omega
      · rw [htrack, serves_udp_iff rfl rfl rfl]
        simp [numbersFit, hasks]
      · have ha := hdigits _ ha
        have hb := hdigits _ hb
        have hp := hdigits (bindUdpPair io.attempt closedTrack).1.toNat (by omega)
        have hq := hdigits ((bindUdpPair io.attempt closedTrack).1 + 1).toNat (by omega)
        simp only [udpTransport, List.length_append, length_ascii, String.reduceToList,
          List.length_cons, List.length_nil]
        omega

theorem setupTrack_outs (c : RtspClient) (io : RequestIo) (k : TrackId) (t : RtspTrack) (s : Nat)
    (cseq transport : Bytes) (outs : List Out) :
    (setupTrack c io k t s cseq transport outs).outs =
      outs ++
        [.reply (.plain (ascii "200 OK") cseq (ascii "Transport: " ++ snprintf 160 transport ++
          sessionLine (setupTrack c io k t s cseq transport outs).client.sessionId))
          io.reply []] := by
  rw [← setupText_eq]
  rfl

/-- A SETUP that passes every check gives its track a transport. -/
theorem Effect.granted {srv : RtspConf} {c : RtspClient} {io : RequestIo} {req : Bytes}
    {r : Outcome} (h : Effect srv c io req r) (hadmits : admitsSetup srv c io req = true)
    (hports : (asksUdp req && lacksPorts io) = false) :
    ∃ t transport outs, SocketsOnly outs ∧ SetupWay c io req t transport outs ∧
      r = setupTrack c io (trackOf (requestUri req)) t (streamOf (requestUri req))
        (requestCseq req) transport outs := by
  have hauth : authError srv c io req = none ∧ requestMethod req = ascii "SETUP" := by
    have h := hadmits
    simp only [admitsSetup, Bool.and_eq_true, beq_iff_eq, Option.isNone_iff_eq_none] at h
    exact h.1.1
  cases h with
  | setup t transport outs _ _ houts hway => exact ⟨t, transport, outs, houts, hway, rfl⟩
  | refused status hrefused =>
      rw [hauth.1] at hrefused
      cases hrefused
  | answered status extra _ hnot =>
      rw [hadmits] at hnot
      cases hnot
  | setupFailed outs _ hnone =>
      rw [hports] at hnone
      cases hnone
  | described _ _ hmethod | waiting _ hmethod | play _ hmethod | teardown _ hmethod =>
      rw [hauth.2] at hmethod
      exact absurd hmethod (by decide)

/-- What is left of a move that answers a SETUP with 200. -/
theorem Turn.setupWay {m : Move} (h : Turn m) {k : TrackId} (hkind : m.kind = .setup k) :
    ∃ io t transport sockets id, m.act = .request io m.req true ∧
      SetupWay m.pre io m.req t transport sockets ∧ SocketsOnly sockets ∧
      (∃ ssrc, m.post.tracks k = { t with active := true, ssrc := ssrc, seq := 0 }) ∧
      m.outs = sockets ++ [.reply (.plain (ascii "200 OK") (requestCseq m.req)
        (ascii "Transport: " ++ snprintf 160 transport ++ sessionLine id)) io.reply []] := by
  have hgrants := h.session.grants hkind
  cases h with
  | accept | recv | hangup | settle | metadata | skip | push | close => cases hkind
  | @request srv c io req hc hnul hreq =>
      have heffect := handleRequest_effect srv c io req
      have hgranted : (if admitsSetup srv c io req && !(asksUdp req && lacksPorts io) then
          some (trackOf (requestUri req)) else none) = some k := hgrants
      rw [Option.ite_none_right_eq_some, Bool.and_eq_true, Bool.not_eq_true'] at hgranted
      obtain ⟨⟨hadmits, hports⟩, htrack⟩ := hgranted
      obtain rfl := Option.some.inj htrack
      unfold requestMove
      obtain ⟨t, transport, outs, houts, hway, hr⟩ := heffect.granted hadmits hports
      rw [hr]
      have htracks := (setupTrack_session c io (trackOf (requestUri req)) t
        (streamOf (requestUri req)) (requestCseq req) transport outs).1.tracks
      exact ⟨io, t, transport, outs, _, rfl, hway, houts,
        ⟨_, (congrFun htracks _).trans (RtspClient.setTrack_tracks_self _ _ _)⟩,
        setupTrack_outs c io _ t _ _ transport outs⟩

theorem SetupWay.transport_head {c : RtspClient} {io : RequestIo} {req transport : Bytes}
    {t : RtspTrack} {outs : List Out} (h : SetupWay c io req t transport outs) :
    transport.head? ≠ some 32 := by
  cases h with
  | tcp =>
      show some (82 : UInt8) ≠ some 32
      decide
  | udp =>
      show some (82 : UInt8) ≠ some 32
      decide

/-- A SETUP answered 200 makes an offer, and the track it leaves serves it
exactly if the numbers asked for fit. -/
theorem Turn.offer {m : Move} (h : Turn m) {k : TrackId} (hkind : m.kind = .setup k) :
    ∃ o io, m.offer = some o ∧ m.act = .request io m.req true ∧
      o.ServerBound io (m.post.tracks k) ∧
      (o.Serves (m.post.tracks k) ↔ numbersFit m.req = true) := by
  obtain ⟨io, t, transport, sockets, id, hact, hway, hsockets, ⟨ssrc, htrack⟩, houts⟩ :=
    h.setupWay hkind
  obtain ⟨o, hoffer, hbound, hserves, hlength⟩ := hway.offer
  have hwhole : snprintf 160 transport = transport :=
    List.take_of_length_le (Nat.le_sub_one_of_lt hlength)
  have hreplies : m.replies = [.plain (ascii "200 OK") (requestCseq m.req)
      (ascii "Transport: " ++ transport ++ sessionLine id)] := by
    rw [Move.replies, houts, List.filterMap_append, hsockets.replies, hwhole]
    rfl
  have hfits : (Reply.plain (ascii "200 OK") (requestCseq m.req)
      (ascii "Transport: " ++ transport ++ sessionLine id)).Fits := by
    refine plain_fits (by decide) m.req ?_
    rw [← hwhole, ← setupText_eq]
    exact List.length_take_le _ _
  have hsession : sessionLine id =
      crlf ++ (ascii "Session: " ++ (decimal id.toNat ++ ascii ";timeout=60\r\n")) := by
    have hstart : ascii "\r\nSession: " = crlf ++ ascii "Session: " := by decide
    simp only [sessionLine, hstart, List.append_assoc]
  refine ⟨o, io, ?_, hact, ?_, ?_⟩
  · rw [Move.offer, hreplies, List.head?_cons, Option.bind_some, hfits.bytes_eq]
    show (headerField (replyText _ _ _) _).bind readOffer = _
    rw [hsession, headerField_setup (requestCseq_no_cr m.req) hway.transport_no_cr
      hway.transport_head]
    exact hoffer
  · rw [htrack]
    exact hbound
  · rw [htrack]
    exact hserves

/-! ## The packets of a track -/

/-- A sender sends on its track alone, and as the track says. -/
theorem SentOn.via {j k : TrackId} {good : Bytes → Prop} {t t' : RtspTrack} {outs : List Out}
    (h : SentOn k good t outs t') {rtcp : Bool} {data : Bytes} {via : Via}
    (hp : .packet j rtcp data via ∈ outs) :
    j = k ∧ ∃ answers, via = trackSend t rtcp data answers := by
  induction h with
  | nil => cases hp
  | @cons t t' outs marker ts payload answers _ _ ih =>
      rcases List.mem_cons.mp hp with hfirst | hp
      · cases hfirst
        exact ⟨rfl, answers, rfl⟩
      · exact ih hp

/-- Every packet of a move is sent as its track says before the move. -/
theorem SessionTurn.via {m : Move} (h : SessionTurn m) {k : TrackId} {rtcp : Bool} {data : Bytes}
    {via : Via} (hp : .packet k rtcp data via ∈ m.outs) :
    ∃ answers, via = trackSend (m.pre.tracks k) rtcp data answers := by
  have hsockets : ∀ outs, SocketsOnly outs → .packet k rtcp data via ∉ outs := by
    intro outs houts hp
    obtain ⟨fd, hfd | hfd⟩ := houts _ hp <;> cases hfd
  have hreplies : ∀ outs, RepliesOnly outs → .packet k rtcp data via ∉ outs := by
    intro outs houts hp
    obtain ⟨r, head, body, hr⟩ := houts _ hp
    cases hr
  cases h with
  | accept _ _ _ _ _ _ houts | ended _ _ houts => exact absurd hp (hsockets _ houts)
  | quiet _ _ _ houts => exact absurd hp (hreplies _ houts)
  | setup _ _ _ _ _ _ _ _ _ _ _ _ _ _ houts =>
      obtain ⟨sockets, cseq, lines, head, hsock, houts, -⟩ := houts
      rw [houts, List.mem_append, List.mem_singleton] at hp
      rcases hp with hp | hp
      · exact absurd hp (hsockets _ hsock)
      · cases hp
  | setupFailed _ _ _ _ _ _ houts =>
      obtain ⟨sockets, replies, hsock, hrep, houts⟩ := houts
      rw [houts, List.mem_append] at hp
      rcases hp with hp | hp
      · exact absurd hp (hsockets _ hsock)
      · exact absurd hp (hreplies _ hrep)
  | play _ _ _ _ _ houts =>
      obtain ⟨r, head, houts | houts⟩ := houts <;> rw [houts] at hp <;> simp at hp
  | teardown io _ _ _ _ _ houts =>
      rw [houts] at hp
      change _ ∈ byes m.pre io ++ _ :: (sessionReset m.pre).2 at hp
      rw [List.mem_append, List.mem_cons] at hp
      rcases hp with hp | hp | hp
      · obtain ⟨j, _, hp⟩ := List.mem_flatMap.mp hp
        split at hp
        · cases List.mem_singleton.mp hp
          exact ⟨io.bye k, rfl⟩
        · cases hp
      · cases hp
      · exact absurd hp (hsockets _ (sessionReset_socketsOnly _))
  | metadata io _ _ _ _ _ _ _ houts =>
      rw [houts] at hp
      obtain ⟨rfl, hvia⟩ := (sendMetadata_sentOn m.srv io (m.pre.tracks .metadata)).via hp
      exact hvia
  | push p ts answers _ _ _ _ _ _ _ _ _ _ _ houts =>
      obtain ⟨packets, hpackets, hsent⟩ :=
        sendVideoNal_sentOn (m.pre.tracks .video) p.nal ts p.last answers
      rw [houts, hpackets] at hp
      rcases List.mem_cons.mp hp with hp | hp
      · cases hp
      · obtain ⟨rfl, hvia⟩ := hsent.via hp
        exact hvia

/-! ## Runs -/

/-- What holds of a track while it is set up: it is the one its SETUP left, but
for the sequence number, and its packets are sent as that one says. -/
structure Routed (k : TrackId) (m₀ : Move) (w : List Move) (c : RtspClient) : Prop where
  turn : Turn m₀
  kind : m₀.kind = .setup k
  track : ∃ seq, c.tracks k = { m₀.post.tracks k with seq := seq }
  sent : ∀ m ∈ w, ∀ rtcp data via, .packet k rtcp data via ∈ m.outs →
    ∃ answers, via = trackSend (m₀.post.tracks k) rtcp data answers

theorem Routed.next {k : TrackId} {m₀ m : Move} {w : List Move} (h : Routed k m₀ w m.pre)
    (hm : SessionTurn m) : ∀ m' ∈ w ++ [m], ∀ rtcp data via, .packet k rtcp data via ∈ m'.outs →
      ∃ answers, via = trackSend (m₀.post.tracks k) rtcp data answers := by
  intro m' hm' rtcp data via hp
  rcases List.mem_append.mp hm' with hm' | hm'
  · exact h.sent m' hm' rtcp data via hp
  · rw [List.mem_singleton.mp hm'] at hp
    obtain ⟨answers, hvia⟩ := hm.via hp
    obtain ⟨seq, htrack⟩ := h.track
    rw [htrack] at hvia
    exact ⟨answers, hvia⟩

theorem track_routed {k : TrackId} {l w : List Move} {m₀ : Move} {c : RtspClient}
    (hl : Turns clientInit l c) (h : trackWindow k l = some (m₀, w)) : Routed k m₀ w c := by
  refine hl.window_induction h ?_ ?_
  · intro m hm hkind
    exact ⟨hm, beq_iff_eq.mp hkind, ⟨_, rfl⟩, by simp⟩
  · intro m₀ w m hw hm hopen hclose
    simp only [beq_eq_false_iff_ne, Bool.or_eq_false_iff] at hopen hclose
    obtain ⟨-, -, seq, htrack⟩ := hm.session.inSequence hopen hclose.1 hclose.2
      (Nat.mod_eq_of_lt (m.pre.tracks k).seq.toNat_lt).symm
    obtain ⟨_, hpre⟩ := hw.track
    refine ⟨hw.turn, hw.kind, ⟨seq, ?_⟩, hw.next hm.session⟩
    rw [htrack, hpre]

/-- From a SETUP of a track to its closing, and in the move that closes it, the
packets of the track are sent with the numbers of the reply exactly if the
numbers the request asks for fit the fields of the track. -/
theorem setup_numbers_kept_iff (io : InitIo) (evs : List Event) (i : Slot) (n : Nat) (k : TrackId)
    {m₀ : Move} {w : List Move} (h : trackWindow k (historyAt io evs i n) = some (m₀, w)) :
    Honours k m₀ (w ++ (history io evs i)[n]?.toList) (clientAt io evs i n) ↔
      numbersFit m₀.req = true := by
  have hrouted := track_routed (historyAt_turns io evs i n) h
  obtain ⟨seq, htrack⟩ := hrouted.track
  obtain ⟨o, requestIo, hoffer, hact, hbound, hserves⟩ := hrouted.turn.offer hrouted.kind
  have hsent : ∀ m ∈ w ++ (history io evs i)[n]?.toList, ∀ rtcp data via,
      .packet k rtcp data via ∈ m.outs →
        ∃ answers, via = trackSend (m₀.post.tracks k) rtcp data answers := by
    by_cases hn : n < (history io evs i).length
    · rw [List.getElem?_eq_getElem hn]
      obtain ⟨hturns, hturn⟩ := history_turn io evs i n hn
      exact (track_routed hturns h).next hturn.session
    · rw [List.getElem?_eq_none (Nat.le_of_not_lt hn), Option.toList_none, List.append_nil]
      exact hrouted.sent
  constructor
  · rintro ⟨o', _, hoffer', -, -, hkept⟩
    rw [hoffer] at hoffer'
    cases hoffer'
    have htrackServes := hkept.track
    rw [htrack] at htrackServes
    exact hserves.mp htrackServes
  · intro hfit
    refine ⟨o, requestIo, hoffer, hact, hbound, ⟨?_, ?_⟩⟩
    · intro m hm rtcp data via hp
      obtain ⟨answers, rfl⟩ := hsent m hm rtcp data via hp
      exact hserves.mpr hfit rtcp data answers
    · rw [htrack]
      exact hserves.mpr hfit

theorem setup_numbers_kept_iff_sample : ∃ m₀ w,
    trackWindow .video (historyAt sampleInit sampleRun 0 10) = some (m₀, w) ∧
      Honours .video m₀ (w ++ (history sampleInit sampleRun 0)[10]?.toList)
        (clientAt sampleInit sampleRun 0 10) := by
  have hrun : (trackWindow .video (historyAt sampleInit sampleRun 0 10)).any
      (fun v => numbersFit v.1.req) = true := by decide +kernel
  obtain ⟨⟨m₀, w⟩, h, hfit⟩ := (Option.any_eq_true _ _).mp hrun
  exact ⟨m₀, w, h, (setup_numbers_kept_iff sampleInit sampleRun 0 10 .video h).mpr hfit⟩

/-- A client that asks for channels that do not fit a byte. -/
def wideChannelsRun : List Event :=
  [.enableStream 0 25,
    .poll (samplePoll 5 (sampleRequest "SETUP" "rtsp://h/stream=0/video" 1
      "Transport: RTP/AVP/TCP;unicast;interleaved=256-257\r\n" ++ samplePlay)),
    samplePush 0 [0x67, 1, 2]]

/-- It is answered that its packets come on channel 256, and gets them on
channel 0. -/
theorem wide_channel_is_cut : ¬ ∀ (io : InitIo) (evs : List Event) (i : Slot) (n : Nat)
    (k : TrackId) (m₀ : Move) (w : List Move), trackWindow k (historyAt io evs i n) = some (m₀, w) →
    ∃ o, m₀.offer = some o ∧ ∀ m ∈ w, ∀ rtcp data via, .packet k rtcp data via ∈ m.outs →
      o.names rtcp via = true := by
  intro h
  have hrun : (trackWindow .video (historyAt sampleInit wideChannelsRun 0 10)).any (fun v =>
      v.1.offer == some (.tcp 256 257) && v.2.any fun m => m.outs.contains (.packet .video false
        [0x80, 0xe0, 0, 0, 0, 0, 0, 0, 0, 7, 0, 8, 0x67, 1, 2] (.interleaved 0 []))) = true := by
    decide +kernel
  obtain ⟨⟨m₀, w⟩, hw, hcut⟩ := (Option.any_eq_true _ _).mp hrun
  rw [Bool.and_eq_true, List.any_eq_true] at hcut
  obtain ⟨hoffer, m, hm, hp⟩ := hcut
  obtain ⟨o, ho, hnames⟩ := h sampleInit wideChannelsRun 0 10 .video m₀ w hw
  rw [beq_iff_eq.mp hoffer] at ho
  cases ho
  have hzero := hnames m hm _ _ _ (List.contains_iff_mem.mp hp)
  revert hzero
  decide

end Rtsp
end FH8852
