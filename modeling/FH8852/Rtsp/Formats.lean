import FH8852.Rtsp.Describe

/-!
# Formatted texts

Every text the server formats into a buffer, with the size of the buffer.  What
`snprintf` returns is the length of the whole text, and this is what `send_all`
and `rtp_send` are told to send.
-/

namespace FH8852
namespace Rtsp

open CLib

/-- A call that writes a text and a NUL into a buffer of `size` bytes. -/
structure Format where
  size : Nat
  text : Bytes

def Format.Fits (f : Format) : Prop := f.text.length < f.size

/-! ## The texts of a request -/

/-- The calls of `snprintf` whose results go to `send_all`. -/
def Reply.formats : Reply → List Format
  | plain status cseq extra => [⟨512, replyText status cseq extra⟩]
  | described cseq uri sdp => [⟨512, describeText cseq uri sdp⟩, ⟨1024, sdp⟩]

/-- `reply_transport` in `handle_setup`. -/
def setupTransport (io : RequestIo) (req : Bytes) : Bytes :=
  if asksTcp req then tcpTransport (askedPair req).1 (askedPair req).2
  else udpTransport (askedPair req).1 (askedPair req).2 (bindUdpPair io.attempt closedTrack).1

/-- `extra` in `handle_setup`. -/
def setupExtra (transport : Bytes) (id : UInt32) : Bytes :=
  ascii "Transport: " ++ transport ++ ascii "\r\nSession: " ++ decimal id.toNat ++
    ascii ";timeout=60\r\n"

def setupFormats (io : RequestIo) (req : Bytes) (id : UInt32) : List Format :=
  [⟨160, setupTransport io req⟩, ⟨256, setupExtra (setupTransport io req) id⟩]

/-- `sps64` and `pps64` in `handle_describe`. -/
def describeFormats (srv : RtspConf) (s : Nat) : List Format :=
  [⟨192, base64Encode ((srv.sps s).read 0 (srv.spsLen s))⟩,
    ⟨192, base64Encode ((srv.pps s).read 0 (srv.ppsLen s))⟩]

/-- Everything formatted for a request fits, and the replies are the texts as
formatted. -/
structure FormatsFit (srv : RtspConf) (c : RtspClient) (io : RequestIo) (req : Bytes)
    (r : Outcome) : Prop where
  replies : ∀ s ∈ r.outs.filterMap Out.reply?,
    (∀ f ∈ s.formats, f.Fits) ∧ s.parts = s.formats.map Format.text
  setup : admitsSetup srv c io req = true → (asksUdp req && lacksPorts io) = false →
    (∀ f ∈ setupFormats io req r.client.sessionId, f.Fits) ∧
      r.outs.filterMap Out.reply? = [.plain (ascii "200 OK") (requestCseq req)
        (setupExtra (setupTransport io req) r.client.sessionId)]
  describe : ∀ cseq uri sdp, .described cseq uri sdp ∈ r.outs.filterMap Out.reply? →
    ∃ s, (∀ f ∈ describeFormats srv s, f.Fits) ∧
      ∃ a b, (describeFormats srv s).map Format.text = [a, b] ∧
        sdp = sdpText s (srv.sps s) a b (srv.fps s)

/-! ## The texts of a metadata packet -/

/-- What `strftime` would write without a limit. -/
def fullUtcText (tm : Tm) : Bytes :=
  decimal tm.year ++ ascii "-" ++ twoDigits tm.mon ++ ascii "-" ++ twoDigits tm.mday ++
    ascii "T" ++ twoDigits tm.hour ++ ascii ":" ++ twoDigits tm.min ++ ascii ":" ++
    twoDigits tm.sec ++ ascii "Z"

def metadataFormats (tm : Tm) : List Format :=
  [⟨32, fullUtcText tm⟩, ⟨512, metadataXml (fullUtcText tm)⟩]

/-- Everything formatted for a metadata packet fits, and the packet is sent with
the text as formatted, within the limit of its payload. -/
structure MetadataFits (srv : RtspConf) (io : MetadataIo) (t : RtspTrack) : Prop where
  formats : ∀ f ∈ metadataFormats io.utc, f.Fits
  payload : (metadataXml (fullUtcText io.utc)).length ≤ rtpMaxPayload
  packet : ∃ ts via, (sendMetadata srv io t).2 = .packet .metadata false
    (rtpPacket t ptMetadata true ts (metadataXml (fullUtcText io.utc))) via

/-! ## Lengths -/

theorem Reply.Fits.formats {r : Reply} (h : r.Fits) :
    (∀ f ∈ r.formats, f.Fits) ∧ r.parts = r.formats.map Format.text := by
  cases r with
  | plain status cseq extra =>
      have h : (replyText status cseq extra).length < 512 := h
      refine ⟨?_, ?_⟩
      · intro f hf
        rw [List.mem_singleton.mp hf]
        exact h
      · show [List.take 511 _] = [_]
        rw [List.take_of_length_le (Nat.le_of_lt_succ h)]
  | described cseq uri sdp =>
      obtain ⟨hhead, hbody⟩ : (describeText cseq uri sdp).length < 512 ∧ sdp.length < 1024 := h
      refine ⟨?_, ?_⟩
      · intro f hf
        rcases List.mem_cons.mp hf with rfl | hf
        · exact hhead
        · rw [List.mem_singleton.mp hf]
          exact hbody
      · show [List.take 511 _, List.take 1023 _] = [_, _]
        rw [List.take_of_length_le (Nat.le_of_lt_succ hhead),
          List.take_of_length_le (Nat.le_of_lt_succ hbody)]

theorem SetupWay.setupTransport_eq {c : RtspClient} {io : RequestIo} {req transport : Bytes}
    {t : RtspTrack} {outs : List Out} (h : SetupWay c io req t transport outs) :
    transport = setupTransport io req := by
  cases h with
  | tcp p htcp hp =>
      obtain ⟨hasks, hpair⟩ := askedPair_tcp htcp hp
      rw [setupTransport, if_pos hasks, hpair]
  | udp p hudp hp =>
      obtain ⟨hasks, hpair⟩ := askedPair_udp hudp hp
      rw [setupTransport, if_neg (by rw [hasks]; exact Bool.false_ne_true), hpair]

theorem setupExtra_eq (transport : Bytes) (id : UInt32) :
    setupExtra transport id = ascii "Transport: " ++ transport ++ sessionLine id := by
  simp only [setupExtra, sessionLine, List.append_assoc]

theorem setupExtra_length_le (transport : Bytes) (id : UInt32) :
    (setupExtra transport id).length ≤ transport.length + 45 := by
  have hid : (decimal id.toNat).length ≤ 10 :=
    decimal_length_le (by omega) (id.toNat_lt.trans (by decide))
  have h₁ : (ascii "Transport: ").length = 11 := by decide
  have h₂ : (ascii "\r\nSession: ").length = 11 := by decide
  have h₃ : (ascii ";timeout=60\r\n").length = 13 := by decide
  simp only [setupExtra, List.length_append]
  omega

theorem describeFormats_fit {srv : RtspConf} (h : SetsFit srv) (s : Nat) :
    ∀ f ∈ describeFormats srv s, f.Fits := by
  have hfits : ∀ data : Bytes, data.length ≤ 128 → (base64Encode data).length < 192 := by
    intro data hdata
    have hlen := base64Encode_length_le data
    omega
  intro f hf
  rcases List.mem_cons.mp hf with rfl | hf
  · exact hfits _ (by rw [Buf.read_length]; exact (h s).1)
  · rw [List.mem_singleton.mp hf]
    exact hfits _ (by rw [Buf.read_length]; exact (h s).2)

theorem fullUtcText_length_le {tm : Tm} (hyear : tm.year ≤ 9999) :
    (fullUtcText tm).length ≤ 20 := by
  have hdecimal : (decimal tm.year).length ≤ 4 := decimal_length_le (by omega) (by omega)
  have hdigits : ∀ n, (twoDigits n).length = 2 := fun _ => rfl
  simp only [fullUtcText, List.length_append, hdigits, length_ascii, String.reduceToList,
    List.length_cons, List.length_nil]
  omega

theorem metadataXml_length_le (utc : Bytes) : (metadataXml utc).length ≤ utc.length + 300 := by
  simp only [metadataXml, List.length_append, length_ascii, String.reduceToList, List.length_cons,
    List.length_nil]
  omega

/-! ## Every text fits -/

theorem run_setsFit (io : InitIo) (evs : List Event) :
    SetsFit (run (initialServer io) evs).1.toRtspConf := by
  rw [run_conf]
  induction evs using List.reverseRecOn with
  | nil => exact initialServer_setsFit io
  | append_singleton evs e ih =>
      rw [List.foldl_append]
      exact ih.event e

theorem Effect.formatsFit {srv : RtspConf} {c : RtspClient} {io : RequestIo} {req : Bytes}
    {r : Outcome} (h : Effect srv c io req r) (hsets : SetsFit srv) :
    FormatsFit srv c io req r := by
  have hreplies := h.replies_fit hsets
  refine ⟨fun s hs => (hreplies s hs).formats, ?_, ?_⟩
  · intro hadmits hports
    obtain ⟨t, transport, outs, houts, hway, rfl⟩ := h.granted hadmits hports
    obtain ⟨-, -, -, -, hlength⟩ := hway.offer
    obtain rfl := hway.setupTransport_eq
    have hwhole : snprintf 160 (setupTransport io req) = setupTransport io req :=
      List.take_of_length_le (Nat.le_sub_one_of_lt hlength)
    have hsent := setupTrack_outs c io (trackOf (requestUri req)) t (streamOf (requestUri req))
      (requestCseq req) (setupTransport io req) outs
    generalize setupTrack c io (trackOf (requestUri req)) t (streamOf (requestUri req))
      (requestCseq req) (setupTransport io req) outs = r at hsent ⊢
    have hextra := setupExtra_length_le (setupTransport io req) r.client.sessionId
    refine ⟨?_, ?_⟩
    · intro f hf
      rcases List.mem_cons.mp hf with rfl | hf
      · exact hlength
      · rw [List.mem_singleton.mp hf]
        show (setupExtra _ _).length < 256
        omega
    · rw [hsent, List.filterMap_append, houts.replies, hwhole, ← setupExtra_eq]
      rfl
  · intro cseq uri sdp hmem
    have hplain : ∀ status cseq' extra, r.outs.filterMap Out.reply? =
        [.plain status cseq' extra] → False := by
      intro status cseq' extra hrs
      rw [hrs] at hmem
      exact Reply.noConfusion (List.mem_singleton.mp hmem)
    cases h with
    | described sdp' _ _ hsdp =>
        obtain ⟨s, hsdp⟩ := hsdp
        cases List.mem_singleton.mp hmem
        exact ⟨s, describeFormats_fit hsets s, _, _, rfl, hsdp⟩
    | refused | answered => exact absurd rfl (hplain _ _ _)
    | waiting => cases hmem
    | setup t transport outs _ _ houts =>
        obtain ⟨lines, hlines⟩ := setupTrack_replies c io (trackOf (requestUri req)) t
          (streamOf (requestUri req)) (requestCseq req) transport houts
        exact absurd hlines (hplain _ _ _)
    | setupFailed outs _ _ houts =>
        exfalso
        refine hplain (ascii "500 Internal Server Error") (requestCseq req) [] ?_
        rw [List.filterMap_append, houts.replies]
        rfl
    | play => exact absurd (playOk_replies srv c io (requestCseq req)) (hplain _ _ _)
    | teardown => exact absurd (teardownOk_replies c io (requestCseq req)) (hplain _ _ _)

theorem metadata_fits (srv : RtspConf) {io : MetadataIo} (hyear : io.utc.year ≤ 9999)
    (t : RtspTrack) : MetadataFits srv io t := by
  have hutc := fullUtcText_length_le hyear
  have hxml := metadataXml_length_le (fullUtcText io.utc)
  have hkept : utcText io.utc = fullUtcText io.utc := by
    show (if (fullUtcText io.utc).length < 32 then fullUtcText io.utc else []) = _
    rw [if_pos (by omega)]
  have hwhole : snprintf 512 (metadataXml (fullUtcText io.utc)) =
      metadataXml (fullUtcText io.utc) := List.take_of_length_le (by omega)
  refine ⟨?_, ?_, ?_⟩
  · intro f hf
    rcases List.mem_cons.mp hf with rfl | hf
    · show (fullUtcText io.utc).length < 32
      omega
    · rw [List.mem_singleton.mp hf]
      show (metadataXml _).length < 512
      omega
  · show _ ≤ 1200
    omega
  · simp only [sendMetadata, hkept, hwhole]
    exact ⟨_, _, rfl⟩

/-- In every reachable state, whatever the server formats for a request or for a
metadata packet fits its buffer and is sent as formatted. -/
theorem formatted_texts_fit (io : InitIo) (evs : List Event) (c : RtspClient) :
    (∀ rio req, FormatsFit (run (initialServer io) evs).1.toRtspConf c rio req
      (handleRequest (run (initialServer io) evs).1.toRtspConf c rio req)) ∧
    ∀ mio, 1000 ≤ mio.utc.year → mio.utc.year ≤ 9999 →
      MetadataFits (run (initialServer io) evs).1.toRtspConf mio (c.tracks .metadata) :=
  ⟨fun rio req => (handleRequest_effect _ c rio req).formatsFit (run_setsFit io evs),
    fun _ _ hyear => metadata_fits _ hyear _⟩

theorem formatted_texts_fit_sample :
    MetadataFits (run (initialServer sampleInit) sampleRun).1.toRtspConf
      ⟨⟨2026, 1, 2, 3, 4, 5⟩, 0, []⟩ (clientInit.tracks .metadata) :=
  (formatted_texts_fit sampleInit sampleRun clientInit).2 ⟨⟨2026, 1, 2, 3, 4, 5⟩, 0, []⟩
    (by decide) (by decide)

end Rtsp
end FH8852
