import Mathlib.Data.FinEnum
import FH8852.Rtsp.Credentials
import FH8852.Rtsp.Isolation
import FH8852.Rtsp.Overflow
import FH8852.Rtsp.Transport

/-!
# DESCRIBE

What a DESCRIBE is answered with, in terms of the NALs pushed before it.  The
session description is read back from the bytes of the reply, as a client
reads it.
-/

namespace FH8852
namespace Rtsp

open CLib History

/-! ## The parameter sets of a run -/

/-- The parameter set that a call pushes on stream `s`, if it is of the type and
fits its array. -/
def Event.paramSet? (type : UInt8) (s : Nat) : Event → Option Bytes
  | pushNal p _ =>
    if p.streamId = s ∧ nalType p.nal = type ∧ p.nal.length ≤ 128 then some p.nal else none
  | _ => none

/-- The last such parameter set of the calls. -/
def latestSet (type : UInt8) (s : Nat) (evs : List Event) : Option Bytes :=
  (evs.filterMap (Event.paramSet? type s)).getLast?

/-- The parameter set of the type that `cache_param_set` keeps for the stream. -/
def cachedSet (conf : RtspConf) (type : UInt8) (s : Nat) : Bytes :=
  if type = nalSps then (conf.sps s).read 0 (conf.spsLen s)
  else (conf.pps s).read 0 (conf.ppsLen s)

def paramTypes : List UInt8 := [nalSps, nalPps]

theorem latestSet_snoc (type : UInt8) (s : Nat) (evs : List Event) (e : Event) :
    latestSet type s (evs ++ [e]) = (e.paramSet? type s).or (latestSet type s evs) := by
  unfold latestSet
  rw [List.filterMap_append]
  cases h : e.paramSet? type s with
  | none => rw [List.filterMap_cons_none h, List.filterMap_nil, List.append_nil, Option.none_or]
  | some nal => rw [List.filterMap_cons_some h, List.filterMap_nil, List.getLast?_concat,
      Option.some_or]

theorem cacheParamSet_cached (conf : RtspConf) (s : Nat) (nal : Bytes) {type : UInt8}
    (htype : type ∈ paramTypes) (j : Nat) :
    cachedSet (cacheParamSet conf s nal) type j =
      if j = s ∧ nalType nal = type ∧ nal.length ≤ 128 then nal else cachedSet conf type j := by
  have hne : nalPps ≠ nalSps := by decide
  simp only [paramTypes, List.mem_cons, List.not_mem_nil, or_false] at htype
  unfold cacheParamSet
  by_cases hguard : (nalType nal ≠ nalSps ∧ nalType nal ≠ nalPps) ∨ 128 < nal.length
  · rw [if_pos hguard, if_neg]
    intro ⟨_, hnal, hlen⟩
    rcases hguard with ⟨hsps, hpps⟩ | hlong
    · rcases htype with rfl | rfl
      · exact hsps hnal
      · exact hpps hnal
    · omega
  · rw [if_neg hguard]
    have hlen : nal.length ≤ 128 := by
      rw [not_or] at hguard
      omega
    by_cases hsps : nalType nal = nalSps
    · rw [if_pos hsps]
      rcases htype with rfl | rfl
      · by_cases hj : j = s
        · simp only [cachedSet, if_true, hj, hsps, hlen, and_self, Buf.read_write]
        · simp only [cachedSet, if_true, hj, if_false, false_and]
      · rw [if_neg (fun h => hne (h.2.1.symm.trans hsps))]
        simp only [cachedSet, if_neg hne]
    · rw [if_neg hsps]
      have hpps : nalType nal = nalPps := by
        by_contra hpps
        exact hguard (.inl ⟨hsps, hpps⟩)
      rcases htype with rfl | rfl
      · rw [if_neg (fun h => hsps h.2.1)]
        simp only [cachedSet, if_true]
      · by_cases hj : j = s
        · simp only [cachedSet, if_neg hne, if_true, hj, hpps, hlen, and_self, Buf.read_write]
        · simp only [cachedSet, if_neg hne, hj, if_false, false_and]

/-- What a call does to a cached parameter set. -/
theorem conf_cached (e : Event) (conf : RtspConf) {type : UInt8} (htype : type ∈ paramTypes)
    {s : Nat} (hs : s < rtspStreamCount) :
    cachedSet (e.conf conf) type s = (e.paramSet? type s).getD (cachedSet conf type s) := by
  cases e with
  | pushNal p answers =>
      show cachedSet (if _ then _ else _) type s = Option.getD (if _ then _ else _) _
      by_cases hguard : p.streamId < 0 ∨ (rtspStreamCount : Int) ≤ p.streamId ∨ p.nal.isEmpty
      · rw [if_pos hguard, if_neg]
        · rfl
        · intro ⟨hstream, hnal, _⟩
          rcases hguard with hneg | hbig | hempty
          · omega
          · omega
          · rw [List.isEmpty_iff.mp hempty] at hnal
            rw [← hnal] at htype
            revert htype
            decide
      · rw [if_neg hguard, cacheParamSet_cached conf _ _ htype]
        rw [not_or] at hguard
        have hstream : s = p.streamId.toNat ↔ p.streamId = s := by omega
        simp only [hstream]
        split <;> rfl
  | enableStream id fps =>
      show cachedSet (if _ then _ else _) type s = cachedSet conf type s
      split <;> rfl
  | poll | setCredentials | useShadow | onIdrRequest | close => rfl

theorem run_conf (srv : RtspServer) (evs : List Event) :
    (run srv evs).1.toRtspConf = evs.foldl Event.conf srv.toRtspConf := by
  induction evs generalizing srv with
  | nil => rfl
  | cons e evs ih =>
      show (run (e.apply srv).1 evs).1.toRtspConf = _
      rw [ih, apply_conf]
      rfl

/-- The cached parameter set is the last one pushed, whole, or none. -/
theorem run_cached (io : InitIo) (evs : List Event) {type : UInt8} (htype : type ∈ paramTypes)
    {s : Nat} (hs : s < rtspStreamCount) :
    cachedSet (run (initialServer io) evs).1.toRtspConf type s =
      (latestSet type s evs).getD [] := by
  rw [run_conf]
  induction evs using List.reverseRecOn with
  | nil =>
      have hempty : (initialServer io).spsLen s = 0 ∧ (initialServer io).ppsLen s = 0 := by
        unfold initialServer rtspServerInit
        split
        · exact ⟨rfl, rfl⟩
        · split <;> exact ⟨rfl, rfl⟩
      simp only [List.foldl_nil, cachedSet, hempty.1, hempty.2]
      split <;> rfl
  | append_singleton evs e ih =>
      rw [List.foldl_append, List.foldl_cons, List.foldl_nil, conf_cached e _ htype hs, ih,
        latestSet_snoc]
      cases e.paramSet? type s <;> rfl

theorem latestSet_ne_nil {type : UInt8} (htype : type ∈ paramTypes) {s : Nat} {evs : List Event}
    {nal : Bytes} (h : latestSet type s evs = some nal) : nal ≠ [] := by
  obtain ⟨e, -, he⟩ := List.mem_filterMap.mp (List.mem_of_getLast? h)
  cases e with
  | pushNal p answers =>
      obtain ⟨⟨-, hnal, -⟩, hp⟩ := Option.ite_none_right_eq_some.mp he
      intro hempty
      rw [Option.some.inj hp, hempty] at hnal
      rw [← hnal] at htype
      revert htype
      decide
  | poll | setCredentials | useShadow | enableStream | onIdrRequest | close => cases he

/-! ## Encoded parameter sets -/

/-- No line end, comma or semicolon is in an encoding. -/
theorem not_mem_base64Encode (data : Bytes) :
    (13 : UInt8) ∉ base64Encode data ∧ (44 : UInt8) ∉ base64Encode data ∧
      (59 : UInt8) ∉ base64Encode data := by
  have hnot : ∀ b : UInt8, ¬ (b ∈ Base64.alphabet ∨ b = 61) → b ∉ base64Encode data := by
    intro b hb h
    rw [base64Encode_eq] at h
    exact hb (Base64.mem_encode h)
  exact ⟨hnot 13 (by decide), hnot 44 (by decide), hnot 59 (by decide)⟩

/-! ## Reading the session description -/

/-- The value of the first line with the name. -/
def sdpValue (name body : Bytes) : Option Bytes :=
  ((lineStarts body).find? name.isPrefixOf).map fun p => (p.drop name.length).takeWhile (· ≠ 13)

/-- A parameter of the video format. -/
def formatParameter (key body : Bytes) : Option Bytes :=
  (sdpValue (ascii "a=fmtp:96 ") body).bind fun value =>
    ((value.splitOn 59).find? key.isPrefixOf).map (List.drop key.length)

/-- The fields of `sprop-parameter-sets`. -/
def spropSets (body : Bytes) : Option (List Bytes) :=
  (formatParameter (ascii "sprop-parameter-sets=") body).map (List.splitOn 44)

def profileHex (sps : Buf) : Bytes := hexByte (sps 1) ++ hexByte (sps 2) ++ hexByte (sps 3)

def formatValue (sps : Buf) (sps64 pps64 : Bytes) : Bytes :=
  (ascii "profile-level-id=" ++ profileHex sps) ++ 59 :: (ascii "packetization-mode=1" ++
    59 :: (ascii "sprop-parameter-sets=" ++ (sps64 ++ 44 :: pps64)))

theorem hexByte_not_mem (b : UInt8) :
    (13 : UInt8) ∉ hexByte b ∧ (59 : UInt8) ∉ hexByte b := by
  revert b
  decide +kernel

theorem profileHex_not_mem (sps : Buf) :
    (13 : UInt8) ∉ profileHex sps ∧ (59 : UInt8) ∉ profileHex sps := by
  simp only [profileHex, List.mem_append, hexByte_not_mem, or_self, not_false_eq_true, and_self]

section Sdp

variable (s : Nat) (sps : Buf) (fps : UInt32) {sps64 pps64 : Bytes}

/-- The session description up to the line of the video format. -/
theorem sdpText_eq : ∃ rest, sdpText s sps sps64 pps64 fps =
    ascii "v=0" ++ (crlf ++ (ascii "o=OpenIPC 0 0 IN IP4 0.0.0.0" ++ (crlf ++
      (ascii "s=Majestic" ++ (crlf ++ (ascii "c=IN IP4 0.0.0.0" ++ (crlf ++
      (ascii "t=0 0" ++ (crlf ++ (ascii "m=video 0 RTP/AVP 96" ++ (crlf ++
      (ascii "a=control:video" ++ (crlf ++ (ascii "a=rtpmap:96 H264/90000" ++ (crlf ++
      ((ascii "a=fmtp:96 " ++ formatValue sps sps64 pps64) ++ (crlf ++ rest))))))))))))))))) := by
  have hsession :
    ascii "v=0\r\no=OpenIPC 0 0 IN IP4 0.0.0.0\r\ns=Majestic\r\nc=IN IP4 0.0.0.0\r\nt=0 0\r\n" =
      ascii "v=0" ++ (crlf ++ (ascii "o=OpenIPC 0 0 IN IP4 0.0.0.0" ++ (crlf ++
        (ascii "s=Majestic" ++ (crlf ++ (ascii "c=IN IP4 0.0.0.0" ++ (crlf ++
        (ascii "t=0 0" ++ crlf)))))))) := by decide
  have hmedia : ascii "m=video 0 RTP/AVP 96\r\na=control:video\r\na=rtpmap:96 H264/90000\r\n" =
      ascii "m=video 0 RTP/AVP 96" ++ (crlf ++ (ascii "a=control:video" ++ (crlf ++
        (ascii "a=rtpmap:96 H264/90000" ++ crlf)))) := by decide
  have hformat : ascii "a=fmtp:96 profile-level-id=" =
      ascii "a=fmtp:96 " ++ ascii "profile-level-id=" := by decide
  have hsets : ascii ";packetization-mode=1;sprop-parameter-sets=" =
      59 :: (ascii "packetization-mode=1" ++ 59 :: ascii "sprop-parameter-sets=") := by decide
  have hcomma : ascii "," = [44] := by decide
  refine ⟨ascii "a=framerate:" ++ (decimal fps.toNat ++ (crlf ++
    if s = 0 then
      ascii "m=application 0 RTP/AVP 107\r\na=rtpmap:107 vnd.onvif.metadata/90000\r\n" ++
        ascii "a=control:metadata\r\n"
    else [])), ?_⟩
  simp only [sdpText, formatValue, profileHex, hsession, hmedia, hformat, hsets, hcomma,
    List.append_assoc, List.cons_append, List.nil_append]

theorem sdpText_format (hsps : (13 : UInt8) ∉ sps64) (hpps : (13 : UInt8) ∉ pps64) :
    sdpValue (ascii "a=fmtp:96 ") (sdpText s sps sps64 pps64 fps) =
      some (formatValue sps sps64 pps64) := by
  have hvalue : (13 : UInt8) ∉ formatValue sps sps64 pps64 := by
    have h₁ : (13 : UInt8) ∉ ascii "profile-level-id=" := by decide
    have h₂ : (13 : UInt8) ∉ ascii "packetization-mode=1" := by decide
    have h₃ : (13 : UInt8) ∉ ascii "sprop-parameter-sets=" := by decide
    have h₄ : (13 : UInt8) ≠ 59 ∧ (13 : UInt8) ≠ 44 := by decide
    simp only [formatValue, List.mem_append, List.mem_cons, h₁, h₂, h₃, h₄, hsps, hpps,
      (profileHex_not_mem sps).1, or_self, not_false_eq_true]
  obtain ⟨rest, hrest⟩ := @sdpText_eq s sps fps sps64 pps64
  have hskip : ∀ {p : Bytes} {l : List Bytes}, (ascii "a=fmtp:96 ").isPrefixOf p = false →
      (p :: l).find? (ascii "a=fmtp:96 ").isPrefixOf = l.find? (ascii "a=fmtp:96 ").isPrefixOf := by
    intro p l hp
    exact List.find?_cons_of_neg (by simp [hp])
  rw [hrest, sdpValue, lineStarts_line (by decide), lineStarts_line (by decide),
    lineStarts_line (by decide), lineStarts_line (by decide), lineStarts_line (by decide),
    lineStarts_line (by decide), lineStarts_line (by decide), lineStarts_line (by decide)]
  rw [hskip rfl, hskip rfl, hskip rfl, hskip rfl, hskip rfl, hskip rfl, hskip rfl,
    List.find?_cons_of_pos rfl, Option.map_some, List.append_assoc, List.drop_left]
  have hend : ∀ b ∈ formatValue sps sps64 pps64, decide (b ≠ 13) = true := by
    intro b hb
    rw [decide_eq_true_eq]
    rintro rfl
    exact hvalue hb
  rw [List.takeWhile_append_of_pos hend]
  show some (formatValue sps sps64 pps64 ++ []) = _
  rw [List.append_nil]

theorem formatValue_split (hsps : (59 : UInt8) ∉ sps64) (hpps : (59 : UInt8) ∉ pps64) :
    (formatValue sps sps64 pps64).splitOn 59 =
      [ascii "profile-level-id=" ++ profileHex sps, ascii "packetization-mode=1",
        ascii "sprop-parameter-sets=" ++ (sps64 ++ 44 :: pps64)] := by
  have h₁ : (59 : UInt8) ∉ ascii "profile-level-id=" ++ profileHex sps := by
    rw [List.mem_append, not_or]
    exact ⟨by decide, (profileHex_not_mem sps).2⟩
  have h₂ : (59 : UInt8) ∉ ascii "packetization-mode=1" := by decide
  have h₃ : (59 : UInt8) ∉ ascii "sprop-parameter-sets=" ++ (sps64 ++ 44 :: pps64) := by
    rw [List.mem_append, List.mem_append, List.mem_cons, not_or, not_or, not_or]
    exact ⟨by decide, hsps, by decide, hpps⟩
  rw [formatValue, List.splitOn_append_cons_self_of_not_mem h₁,
    List.splitOn_append_cons_self_of_not_mem h₂, List.splitOn_eq_singleton h₃]

/-- The parameter sets in a session description are read back. -/
theorem spropSets_sdpText (spsData ppsData : Bytes) :
    spropSets (sdpText s sps (base64Encode spsData) (base64Encode ppsData) fps) =
      some [base64Encode spsData, base64Encode ppsData] := by
  obtain ⟨hcr, hcomma, hsemicolon⟩ := not_mem_base64Encode spsData
  obtain ⟨hcr', hcomma', hsemicolon'⟩ := not_mem_base64Encode ppsData
  have hfind : List.find? (ascii "sprop-parameter-sets=").isPrefixOf
      [ascii "profile-level-id=" ++ profileHex sps, ascii "packetization-mode=1",
        ascii "sprop-parameter-sets=" ++ (base64Encode spsData ++ 44 :: base64Encode ppsData)] =
      some (ascii "sprop-parameter-sets=" ++
        (base64Encode spsData ++ 44 :: base64Encode ppsData)) := rfl
  rw [spropSets, formatParameter, sdpText_format s sps fps hcr hcr', Option.bind_some,
    formatValue_split sps hsemicolon hsemicolon', hfind, Option.map_some, List.drop_left,
    Option.map_some, List.splitOn_append_cons_self_of_not_mem hcomma,
    List.splitOn_eq_singleton hcomma']

theorem profile_sdpText (spsData ppsData : Bytes) :
    formatParameter (ascii "profile-level-id=")
      (sdpText s sps (base64Encode spsData) (base64Encode ppsData) fps) =
        some (profileHex sps) := by
  obtain ⟨hcr, -, hsemicolon⟩ := not_mem_base64Encode spsData
  obtain ⟨hcr', -, hsemicolon'⟩ := not_mem_base64Encode ppsData
  have hfind : List.find? (ascii "profile-level-id=").isPrefixOf
      [ascii "profile-level-id=" ++ profileHex sps, ascii "packetization-mode=1",
        ascii "sprop-parameter-sets=" ++ (base64Encode spsData ++ 44 :: base64Encode ppsData)] =
      some (ascii "profile-level-id=" ++ profileHex sps) := rfl
  rw [formatParameter, sdpText_format s sps fps hcr hcr', Option.bind_some,
    formatValue_split sps hsemicolon hsemicolon', hfind, Option.map_some, List.drop_left]

end Sdp

/-! ## Reading the reply -/

/-- A client that reads the reply finds a body as long as the head says, and in
it the two parameter sets. -/
structure Reply.Describes (r : Reply) (sps pps : Bytes) : Prop where
  length : ∃ head body, r.parts = [head, body] ∧
    headerField head (ascii "Content-Length") = some (decimal body.length)
  sets : ∃ head body fields, r.parts = [head, body] ∧ spropSets body = some fields ∧
    fields.map Base64.decode = [sps, pps]
  profile : 4 ≤ sps.length → ∃ head body, r.parts = [head, body] ∧
    formatParameter (ascii "profile-level-id=") body = some (((sps.drop 1).take 3).flatMap hexByte)

theorem headerField_describe {cseq : Bytes} (hcseq : (13 : UInt8) ∉ cseq) (uri sdp : Bytes) :
    headerField (describeText cseq uri sdp) (ascii "Content-Length") =
      some (decimal sdp.length) := by
  have hstart : ascii "RTSP/1.0 200 OK\r\nCSeq: " =
      ascii "RTSP/1.0 200 OK" ++ crlf ++ ascii "CSeq: " := by decide
  have hlength : ascii "\r\nContent-Length: " = crlf ++ ascii "Content-Length: " := by decide
  have hserver : ascii "\r\nServer: " = crlf ++ ascii "Server: " := by decide
  obtain ⟨rest, hrest⟩ : ∃ rest, describeText cseq uri sdp =
      ascii "RTSP/1.0 200 OK" ++ (crlf ++ ((ascii "CSeq: " ++ cseq) ++ (crlf ++
        ((ascii "Content-Length: " ++ decimal sdp.length) ++ (crlf ++ rest))))) := by
    refine ⟨ascii "Server: " ++ (serverName ++ (ascii "\r\nContent-Base: " ++ (uri ++
      ascii "\r\nContent-Type: application/sdp\r\n\r\n"))), ?_⟩
    simp only [describeText, hstart, hlength, hserver, List.append_assoc]
  have hcseqLine : (13 : UInt8) ∉ ascii "CSeq: " ++ cseq := by
    rw [List.mem_append, not_or]
    exact ⟨by decide, hcseq⟩
  rw [hrest, headerField, lineStarts_line (by decide), lineStarts_line hcseqLine,
    List.find?_cons_of_neg, List.find?_cons_of_pos, Option.map_some]
  · refine congrArg some (trimmed_line (decimal_no_cr _) ?_ rest)
    intro hspace
    have hdigit := decimal_isDigit _ 32 (List.mem_of_mem_head? hspace)
    revert hdigit
    decide
  · rfl
  · exact Bool.false_ne_true

/-- The reply to a DESCRIBE describes the cached parameter sets. -/
theorem described_describes {srv : RtspConf} (hsets : SetsFit srv) (req : Bytes) (s : Nat) :
    (Reply.described (requestCseq req) (requestUri req) (sdpText s (srv.sps s)
      (base64Encode ((srv.sps s).read 0 (srv.spsLen s)))
      (base64Encode ((srv.pps s).read 0 (srv.ppsLen s))) (srv.fps s))).Describes
      (cachedSet srv nalSps s) (cachedSet srv nalPps s) := by
  obtain ⟨hhead, hbody⟩ := described_fits hsets req s
  have hsps : cachedSet srv nalSps s = (srv.sps s).read 0 (srv.spsLen s) := if_pos rfl
  have hpps : cachedSet srv nalPps s = (srv.pps s).read 0 (srv.ppsLen s) := if_neg (by decide)
  rw [hsps, hpps]
  have hfields := spropSets_sdpText s (srv.sps s) (srv.fps s) ((srv.sps s).read 0 (srv.spsLen s))
    ((srv.pps s).read 0 (srv.ppsLen s))
  have hprofile := profile_sdpText s (srv.sps s) (srv.fps s)
    ((srv.sps s).read 0 (srv.spsLen s)) ((srv.pps s).read 0 (srv.ppsLen s))
  generalize sdpText s (srv.sps s) _ _ (srv.fps s) = sdp at *
  have hparts : (Reply.described (requestCseq req) (requestUri req) sdp).parts =
      [describeText (requestCseq req) (requestUri req) sdp, sdp] := by
    show [List.take 511 _, List.take 1023 _] = _
    rw [List.take_of_length_le (Nat.le_of_lt_succ hhead),
      List.take_of_length_le (Nat.le_of_lt_succ hbody)]
  refine ⟨⟨_, _, hparts, headerField_describe (requestCseq_no_cr req) _ _⟩,
    ⟨_, _, _, hparts, hfields, ?_⟩, fun hlen => ⟨_, _, hparts, ?_⟩⟩
  · simp only [List.map_cons, List.map_nil, base64Encode_eq, Base64.decode_encode]
  · rw [hprofile]
    rw [Buf.read_length] at hlen
    obtain ⟨n, hn⟩ : ∃ n, srv.spsLen s = n + 1 + 1 + 1 + 1 := ⟨srv.spsLen s - 4, by omega⟩
    rw [hn, Buf.read_succ, Buf.read_succ, Buf.read_succ, Buf.read_succ]
    rfl

/-! ## A DESCRIBE that waits -/

/-- A request that is held back is the last one of its poll. -/
theorem drainRequests_held (srv : RtspConf) (io : Nat → RequestIo) (fuel n : Nat) (c : RtspClient)
    {m : Move} (hm : m ∈ (drainRequests srv io fuel n c).2) {rio : RequestIo} {req : Bytes}
    (hact : m.act = .request rio req false) : (drainRequests srv io fuel n c).1 = m.post := by
  induction fuel generalizing n c with
  | zero => cases hm
  | succ fuel ih =>
      simp only [drainRequests] at hm ⊢
      cases hnext : nextRequest c with
      | none =>
          rw [hnext] at hm
          cases hm
      | some head =>
          rw [hnext] at hm
          cases hdone : (handleRequest srv c (io n) head).done with
          | false =>
              simp only [hdone, Bool.false_eq_true, if_false, List.mem_singleton] at hm ⊢
              rw [hm]
          | true =>
              simp only [hdone, if_true, List.mem_cons] at hm ⊢
              rcases hm with rfl | hm
              · have hact : Act.request (io n) head (handleRequest srv c (io n) head).done =
                    .request rio req false := hact
                rw [hdone] at hact
                cases hact
              · exact ih _ _ hm

theorem rx_setTrack (c : RtspClient) (k : TrackId) (t : RtspTrack) (us : UInt64) :
    rx { c.setTrack k t with nextMetadataUs := us } = rx c := rfl

theorem rx_metadataMove (srv : RtspConf) (io : MetadataIo) (c : RtspClient) :
    rx (metadataMove srv io c).post = rx c := by
  unfold metadataMove
  exact rx_setTrack c _ _ _

/-- What is in the buffer after the poll. -/
theorem pollClient_held (srv : RtspConf) (now : UInt64) (io : ClientIo) (c : RtspClient)
    {m : Move} (hm : m ∈ (pollClient srv now io c).2) {rio : RequestIo} {req : Bytes}
    (hact : m.act = .request rio req false) :
    rx (pollClient srv now io c).1 = rx (settle m.post) := by
  obtain ⟨hopen, ⟨-, rfl⟩ | ⟨bytes, d, hrecv, hd, hlog⟩⟩ := pollClient_mem hm
  · cases hact
  · have hlast : d.1 = m.post := by
      rcases hlog with hlog | rfl
      · rcases mem_receiveLog.mp hlog with rfl | hdrained | rfl
        · cases hact
        · rw [← hd] at hdrained ⊢
          exact drainRequests_held srv io.request _ _ _ hdrained hact
        · cases hact
      · cases hact
    rw [pollClient_of_recv srv now hopen hrecv hd, ← hlast]
    split
    · exact rx_metadataMove _ _ _
    · rfl

theorem poll_held (srv : RtspServer) (pio : PollIo) (i : Slot) {m : Move}
    (hm : m ∈ slotLog i (rtspServerPoll srv pio).2) {rio : RequestIo} {req : Bytes}
    (hact : m.act = .request rio req false) :
    rx ((rtspServerPoll srv pio).1.clients i) = rx (settle m.post) := by
  obtain ⟨hclient, hlog⟩ := apply_slot srv (.poll pio) i
  have hclient : (rtspServerPoll srv pio).1.clients i = _ := hclient
  have hlog : slotLog i (rtspServerPoll srv pio).2 = _ := hlog
  rw [hlog, List.mem_append] at hm
  rw [hclient]
  rcases hm with hm | hm
  · exfalso
    rw [acceptClient_act hm] at hact
    cases hact
  · exact pollClient_held _ _ _ _ hm hact

/-! ## The reply to a DESCRIBE -/

/-- The move handles a DESCRIBE of the enabled stream `s`. -/
def Move.describes (m : Move) (s : Nat) : Bool :=
  match m.act with
  | .request io req _ =>
    (authError m.srv m.pre io req).isNone && requestMethod req == ascii "DESCRIBE" &&
      streamOf (requestUri req) == s && streamEnabled m.srv s
  | _ => false

/-- What a DESCRIBE does after the calls `evs`; `c` is its client at the end of
the poll. -/
structure DescribedFrom (evs : List Event) (s : Nat) (io : RequestIo) (req : Bytes) (m : Move)
    (c : RtspClient) : Prop where
  waits : latestSet nalSps s evs = none ∨ latestSet nalPps s evs = none →
    m.outs = [] ∧ req <+: rx m.pre ∧
      if (rx m.pre).length < sizeofRxbuf - 1 then rx c = rx m.pre else rx c = []
  answers : ∀ sps pps, latestSet nalSps s evs = some sps → latestSet nalPps s evs = some pps →
    ∃ r, m.outs = [.reply r io.reply io.body] ∧ r.isOk = true ∧ r.Describes sps pps

theorem rx_settle (c : RtspClient) :
    rx (settle c) = if (rx c).length < sizeofRxbuf - 1 then rx c else [] := by
  have hlength : (rx c).length = c.rxlen := Buf.read_length _ _ _
  unfold settle
  by_cases hfull : sizeofRxbuf - 1 ≤ c.rxlen
  · rw [if_pos hfull, if_neg (by omega)]
    rfl
  · rw [if_neg hfull, if_pos (by omega)]

theorem handleRequest_describe {srv : RtspConf} {c : RtspClient} {io : RequestIo} {req : Bytes}
    (hauth : authError srv c io req = none) (hmethod : requestMethod req = ascii "DESCRIBE")
    (henabled : streamEnabled srv (streamOf (requestUri req)) = true) :
    handleRequest srv c io req =
      let s := streamOf (requestUri req)
      if srv.spsLen s = 0 ∨ srv.ppsLen s = 0 then ⟨false, c, []⟩
      else
        ⟨true, c, [.reply (.described (requestCseq req) (requestUri req) (sdpText s (srv.sps s)
          (base64Encode ((srv.sps s).read 0 (srv.spsLen s)))
          (base64Encode ((srv.pps s).read 0 (srv.ppsLen s))) (srv.fps s))) io.reply io.body]⟩ := by
  have hoptions : ascii "DESCRIBE" ≠ ascii "OPTIONS" := by decide
  simp only [handleRequest, hauth, hmethod, if_neg hoptions, if_true, handleDescribe, henabled,
    Bool.not_true, Bool.false_eq_true, if_false]

/-- A parameter set that is not cached has length 0. -/
theorem cachedSet_eq_nil {srv : RtspConf} {s : Nat} :
    (srv.spsLen s = 0 ↔ cachedSet srv nalSps s = []) ∧
      (srv.ppsLen s = 0 ↔ cachedSet srv nalPps s = []) := by
  have hread : ∀ (buf : Buf) n, n = 0 ↔ buf.read 0 n = [] := by
    intro buf n
    rw [← List.length_eq_zero_iff, Buf.read_length]
  exact ⟨hread _ _, hread _ _⟩

section Request

variable {srv : RtspConf} {c : RtspClient} {io : RequestIo} {req : Bytes}
  (hauth : authError srv c io req = none) (hmethod : requestMethod req = ascii "DESCRIBE")
  (henabled : streamEnabled srv (streamOf (requestUri req)) = true)

include hauth hmethod henabled

theorem requestMove_waits (hmissing : cachedSet srv nalSps (streamOf (requestUri req)) = [] ∨
    cachedSet srv nalPps (streamOf (requestUri req)) = []) :
    requestMove srv c io req = ⟨srv, c, .request io req false, [], c⟩ := by
  rw [← cachedSet_eq_nil.1, ← cachedSet_eq_nil.2] at hmissing
  have hhandled := handleRequest_describe hauth hmethod henabled
  simp only [if_pos hmissing] at hhandled
  simp only [requestMove, hhandled, Bool.false_eq_true, if_false]

theorem requestMove_answers (hfit : SetsFit srv)
    (hsps : cachedSet srv nalSps (streamOf (requestUri req)) ≠ [])
    (hpps : cachedSet srv nalPps (streamOf (requestUri req)) ≠ []) :
    ∃ r, (requestMove srv c io req).outs = [.reply r io.reply io.body] ∧ r.isOk = true ∧
      r.Describes (cachedSet srv nalSps (streamOf (requestUri req)))
        (cachedSet srv nalPps (streamOf (requestUri req))) := by
  rw [Ne, ← cachedSet_eq_nil.1] at hsps
  rw [Ne, ← cachedSet_eq_nil.2] at hpps
  have hhandled := handleRequest_describe hauth hmethod henabled
  simp only [hsps, hpps, or_self, if_false] at hhandled
  have houts := congrArg Outcome.outs hhandled
  exact ⟨_, houts, rfl, described_describes hfit req _⟩

end Request

/-- A DESCRIBE of an enabled stream waits in the buffer, if that is not full,
until both parameter sets are pushed, and is answered with the last ones. -/
theorem describe_from_pushes (io : InitIo) (evs : List Event) (pio : PollIo) (i : Slot) {m : Move}
    (hm : m ∈ slotLog i (rtspServerPoll (run (initialServer io) evs).1 pio).2) {rio : RequestIo}
    {req : Bytes} {done : Bool} (hact : m.act = .request rio req done) {s : Nat}
    (hdescribe : m.describes s = true) :
    DescribedFrom evs s rio req m
      ((rtspServerPoll (run (initialServer io) evs).1 pio).1.clients i) := by
  simp only [Move.describes, hact, Bool.and_eq_true, beq_iff_eq, Option.isNone_iff_eq_none]
    at hdescribe
  obtain ⟨⟨⟨hauth, hmethod⟩, hstream⟩, henabled⟩ := hdescribe
  have hsrv := (apply_request_srv _ (.poll pio) i hm hact).2
  have hcached : ∀ type ∈ paramTypes, cachedSet m.srv type s = (latestSet type s evs).getD [] := by
    intro type htype
    rw [hsrv]
    exact run_cached io evs htype (streamEnabled_lt henabled)
  have hsps := hcached nalSps (by decide)
  have hpps := hcached nalPps (by decide)
  have hhistory : m ∈ history io (evs ++ [.poll pio]) i := by
    rw [history, run_append, slotLog_append, List.mem_append]
    refine .inr ?_
    show m ∈ slotLog i (_ ++ [])
    rw [List.append_nil]
    exact hm
  have hfit := history_setsFit io _ i hhistory hact
  have hturn := (history_chain io (evs ++ [.poll pio]) i).ok_of_mem hhistory
  cases hturn with
  | @request srv c io' req' hopen hnul hreq =>
      have hargs : io' = rio ∧ req' = req := by
        cases hact
        exact ⟨rfl, rfl⟩
      obtain ⟨rfl, rfl⟩ := hargs
      obtain rfl : streamOf (requestUri req') = s := hstream
      change cachedSet srv nalSps _ = _ at hsps
      change cachedSet srv nalPps _ = _ at hpps
      change SetsFit srv at hfit
      change authError srv c io' req' = none at hauth
      change streamEnabled srv _ = true at henabled
      constructor
      · intro hmissing
        have hmove : requestMove srv c io' req' = ⟨srv, c, .request io' req' false, [], c⟩ := by
          refine requestMove_waits hauth hmethod henabled ?_
          rw [hsps, hpps]
          exact hmissing.imp (fun h => by rw [h, Option.getD_none]) fun h => by
            rw [h, Option.getD_none]
        have hheld := poll_held _ pio i hm (congrArg Move.act hmove)
        rw [hmove, rx_settle] at hheld
        rw [hmove]
        refine ⟨rfl, nextRequest_isPrefix_rx hreq hnul, ?_⟩
        split
        · rename_i hroom
          rw [if_pos hroom] at hheld
          exact hheld
        · rename_i hfull
          rw [if_neg hfull] at hheld
          exact hheld
      · intro sps pps hspsLatest hppsLatest
        rw [hspsLatest, Option.getD_some] at hsps
        rw [hppsLatest, Option.getD_some] at hpps
        have hspsNe := latestSet_ne_nil (by decide) hspsLatest
        have hppsNe := latestSet_ne_nil (by decide) hppsLatest
        rw [← hsps] at hspsNe ⊢
        rw [← hpps] at hppsNe ⊢
        exact requestMove_answers hauth hmethod henabled hfit hspsNe hppsNe
  | accept | recv | hangup | settle | metadata | skip | push | close => cases hact

/-- The first calls of a run that pushes parameter sets of both streams. -/
def paramSetRun : List Event :=
  [.enableStream 0 25, samplePush 0 [0x67, 1, 2], samplePush 1 [0x67, 9, 9, 9, 9],
    samplePush 0 [0x68, 1], samplePush 0 [0x67, 1, 2, 3, 4]]

def describeRequest : Bytes := sampleRequest "DESCRIBE" "rtsp://h/stream=0" 2 ""

theorem describe_from_pushes_sample : ∃ (m : Move) (rio : RequestIo) (r : Reply),
    m ∈ slotLog 0 (rtspServerPoll (run (initialServer sampleInit) paramSetRun).1
      (samplePoll 5 describeRequest)).2 ∧
      m.outs = [.reply r rio.reply rio.body] ∧ r.Describes [0x67, 1, 2, 3, 4] [0x68, 1] := by
  have hrun : (slotLog 0 (rtspServerPoll (run (initialServer sampleInit) paramSetRun).1
      (samplePoll 5 describeRequest)).2).any (fun m => m.describes 0) = true := by decide +kernel
  obtain ⟨m, hm, hdescribe⟩ := List.any_eq_true.mp hrun
  have hact : ∃ rio req done, m.act = .request rio req done := by
    unfold Move.describes at hdescribe
    split at hdescribe
    · exact ⟨_, _, _, ‹_›⟩
    · cases hdescribe
  obtain ⟨rio, req, done, hact⟩ := hact
  obtain ⟨r, houts, -, hdescribes⟩ :=
    (describe_from_pushes sampleInit paramSetRun (samplePoll 5 describeRequest) 0 hm hact
      hdescribe).answers [0x67, 1, 2, 3, 4] [0x68, 1] rfl rfl
  exact ⟨m, rio, r, hm, houts, hdescribes⟩

/-! ## A full buffer -/

/-- A DESCRIBE, and bytes behind it that fill the buffer. -/
def fillingBytes : Bytes :=
  describeRequest ++ List.replicate (sizeofRxbuf - 1 - describeRequest.length) 65

theorem fillingBytes_spec : fillingBytes.length = sizeofRxbuf - 1 ∧ (0 : UInt8) ∉ fillingBytes ∧
    through blankLine fillingBytes = some describeRequest := by
  have hlen : describeRequest.length ≤ sizeofRxbuf - 1 := by decide
  have hself : through blankLine describeRequest = some describeRequest := by decide +kernel
  refine ⟨?_, ?_, through_append (by decide) hself _⟩
  · rw [fillingBytes, List.length_append, List.length_replicate]
    omega
  · rw [fillingBytes, List.mem_append, not_or]
    refine ⟨by decide, fun h => ?_⟩
    exact absurd (List.eq_of_mem_replicate h) (by decide)

/-- A DESCRIBE that has to wait is lost with what fills the buffer behind it. -/
theorem waiting_describe_is_lost : ¬ ∀ (io : InitIo) (evs : List Event) (pio : PollIo) (i : Slot)
    (m : Move) (rio : RequestIo) (req : Bytes) (done : Bool) (s : Nat),
    m ∈ slotLog i (rtspServerPoll (run (initialServer io) evs).1 pio).2 →
    m.act = .request rio req done → m.describes s = true → latestSet nalSps s evs = none →
    req <+: rx ((rtspServerPoll (run (initialServer io) evs).1 pio).1.clients i) := by
  intro hall
  obtain ⟨hlen, hnul, hthrough⟩ := fillingBytes_spec
  generalize fillingBytes = bytes at hlen hnul hthrough
  have hne : bytes ≠ [] := by
    rintro rfl
    cases hlen
  obtain ⟨srv, hsrv⟩ : ∃ srv, srv = (run (initialServer sampleInit) [.enableStream 0 25]).1 :=
    ⟨_, rfl⟩
  have hclients : ∀ k, srv.clients k = clientInit := by
    rw [hsrv]
    exact initialServer_clients sampleInit
  have hauthOff : srv.authEnabled = false := by rw [hsrv]; rfl
  have hstreamOn : streamEnabled srv.toRtspConf 0 = true := by rw [hsrv]; rfl
  have hcached : cachedSet srv.toRtspConf nalSps 0 = [] := by rw [hsrv]; rfl
  have hall' := hall sampleInit [.enableStream 0 25] (samplePoll 5 bytes) 0
  rw [← hsrv] at hall'
  obtain ⟨stored, hstored⟩ : ∃ c, c = storeReceived (acceptedClient 5 ⟨0x0a000001, 5000⟩) bytes :=
    ⟨_, rfl⟩
  obtain ⟨hrx, hnext⟩ := nextRequest_storeReceived
    (c := acceptedClient 5 ⟨0x0a000001, 5000⟩) bytes rfl (Nat.le_of_eq hlen) hnul
  obtain ⟨rest, hmoves⟩ := @pollClient_request (sampleClientIo bytes) _ _ srv.toRtspConf 0
    (show 0 ≤ (acceptedClient 5 ⟨0x0a000001, 5000⟩).tcpFd by decide)
    (recvBytes_sample hne (Nat.le_of_eq hlen)) _ (hnext.trans hthrough)
  obtain ⟨-, hlog⟩ := apply_accepting (freeSlot_of_init hclients) (hclients 0)
    (samplePoll 5 bytes) (show (0 : Int) ≤ 5 by decide)
  rw [← hstored] at hmoves hrx
  have hmem : requestMove srv.toRtspConf stored sampleRequestIo describeRequest ∈
      slotLog 0 (rtspServerPoll srv (samplePoll 5 bytes)).2 := by
    have hpolled : requestMove srv.toRtspConf stored sampleRequestIo describeRequest ∈
        (pollClient srv.toRtspConf 0 (sampleClientIo bytes)
          (acceptedClient 5 ⟨0x0a000001, 5000⟩)).2 := by
      rw [hmoves]
      exact List.mem_cons_of_mem _ List.mem_cons_self
    rw [show slotLog 0 (rtspServerPoll srv (samplePoll 5 bytes)).2 = _ from hlog]
    exact List.mem_cons_of_mem _ hpolled
  have hauth : authError srv.toRtspConf stored sampleRequestIo describeRequest = none := by
    rw [authError, hauthOff]
    rfl
  have hmethod : requestMethod describeRequest = ascii "DESCRIBE" := by decide +kernel
  have hstream : streamOf (requestUri describeRequest) = 0 := by decide +kernel
  have hmove : requestMove srv.toRtspConf stored sampleRequestIo describeRequest = _ :=
    requestMove_waits hauth hmethod (by rw [hstream]; exact hstreamOn)
      (.inl (by rw [hstream]; exact hcached))
  have hdescribe : (requestMove srv.toRtspConf stored sampleRequestIo describeRequest).describes
      0 = true := by
    rw [hmove]
    simp only [Move.describes, hauth, hmethod, hstream, hstreamOn, Option.isNone_none,
      beq_self_eq_true, Bool.and_self]
  have hact := congrArg Move.act hmove
  have hprefix := hall' _ _ _ _ 0 hmem hact hdescribe rfl
  have hfull : ¬ (rx stored).length < sizeofRxbuf - 1 := by
    rw [hrx, hlen]
    exact Nat.lt_irrefl _
  rw [poll_held srv (samplePoll 5 bytes) 0 hmem hact, hmove, rx_settle, if_neg hfull,
    List.prefix_nil] at hprefix
  exact absurd hprefix (by decide)

end Rtsp
end FH8852
