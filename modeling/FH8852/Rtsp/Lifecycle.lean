import FH8852.Rtsp.Packets

/-!
# The life of a session

How each move changes the flags of the session, the invariant that ties them
together, and what follows for whole runs: what is sent when, and which requests
take effect.
-/

namespace FH8852
namespace Rtsp

open CLib History

/-! ## The flags, move by move -/

section Flags

variable {m : Move} (h : SessionTurn m)

include h

theorem SessionTurn.playing : m.post.playing =
    match m.kind with
    | .play => true
    | .accept | .ended | .teardown => false
    | _ => m.pre.playing := by
  cases h with
  | accept _ _ hk _ _ hpost => rw [hk, hpost]; rfl
  | ended hk hpost => rw [hk, hpost]; rfl
  | quiet hk hsame => rw [hk, hsame.playing]
  | setup _ _ _ hk _ _ _ _ _ _ _ _ hsame => rw [hk, hsame.playing]; rfl
  | setupFailed _ _ hk _ _ hsame => rw [hk, hsame.playing]; rfl
  | play hk _ _ _ hsame => rw [hk, hsame.playing]
  | teardown _ hk _ _ _ hsame => rw [hk, hsame.playing]; rfl
  | metadata _ hk _ _ _ _ _ hsame => rw [hk, hsame.playing]; rfl
  | push _ _ _ hk _ _ _ _ _ _ _ _ _ hsame => rw [hk, hsame.playing]; rfl

theorem SessionTurn.hasSession : m.post.hasSession =
    match m.kind with
    | .setup _ => true
    | .accept | .ended | .teardown => false
    | _ => m.pre.hasSession := by
  cases h with
  | accept _ _ hk _ _ hpost => rw [hk, hpost]; rfl
  | ended hk hpost => rw [hk, hpost]; rfl
  | quiet hk hsame => rw [hk, hsame.hasSession]
  | setup _ _ _ hk _ _ _ _ _ _ _ _ hsame => rw [hk, hsame.hasSession]
  | setupFailed _ _ hk _ _ hsame => rw [hk, hsame.hasSession]; rfl
  | play hk _ _ _ hsame => rw [hk, hsame.hasSession]
  | teardown _ hk _ _ _ hsame => rw [hk, hsame.hasSession]; rfl
  | metadata _ hk _ _ _ _ _ hsame => rw [hk, hsame.hasSession]; rfl
  | push _ _ _ hk _ _ _ _ _ _ _ _ _ hsame => rw [hk, hsame.hasSession]; rfl

theorem SessionTurn.streamId : m.post.streamId =
    match m.kind with
    | .setup _ => m.stream
    | .accept | .ended => 0
    | _ => m.pre.streamId := by
  cases h with
  | accept _ _ hk _ _ hpost => rw [hk, hpost]; rfl
  | ended hk hpost => rw [hk, hpost]; rfl
  | quiet hk hsame => rw [hk, hsame.streamId]
  | setup _ _ _ hk _ _ _ _ _ _ _ _ hsame => rw [hk, hsame.streamId]
  | setupFailed _ _ hk _ _ hsame => rw [hk, hsame.streamId]; rfl
  | play hk _ _ _ hsame => rw [hk, hsame.streamId]
  | teardown _ hk _ _ _ hsame => rw [hk, hsame.streamId]; rfl
  | metadata _ hk _ _ _ _ _ hsame => rw [hk, hsame.streamId]; rfl
  | push _ _ _ hk _ _ _ _ _ _ _ _ _ hsame => rw [hk, hsame.streamId]; rfl

theorem SessionTurn.active (k : TrackId) : (m.post.tracks k).active =
    match m.kind with
    | .setup j => if k = j then true else (m.pre.tracks k).active
    | .setupFailed j => if k = j then false else (m.pre.tracks k).active
    | .accept | .ended | .teardown => false
    | _ => (m.pre.tracks k).active := by
  cases h with
  | accept _ _ hk _ _ hpost => rw [hk, hpost]; rfl
  | ended hk hpost => rw [hk, hpost]; rfl
  | quiet hk hsame => rw [hk, hsame.tracks]
  | setup _ j t hk _ _ _ _ _ hactive _ _ hsame =>
      rw [hk, hsame.tracks]
      by_cases hkj : k = j
      · subst hkj
        simp [hactive]
      · simp [hkj]
  | setupFailed j t hk _ hactive hsame =>
      rw [hk, hsame.tracks]
      by_cases hkj : k = j
      · subst hkj
        simp [hactive]
      · simp [hkj]
  | play hk _ _ _ hsame => rw [hk, hsame.tracks]
  | teardown _ hk _ _ _ hsame => rw [hk, hsame.tracks]; rfl
  | metadata _ hk _ _ _ _ hactive hsame =>
      obtain ⟨_, hseq⟩ := (sendMetadata_sentOn m.srv _ (m.pre.tracks .metadata)).track
      rw [hk, hsame.tracks]
      cases k with
      | video => rfl
      | metadata => rw [RtspClient.setTrack_tracks_self, hseq]
  | push p ts answers hk _ _ _ _ _ hactive _ _ _ hsame =>
      obtain ⟨_, _, hsent⟩ := sendVideoNal_sentOn (m.pre.tracks .video) p.nal ts p.last answers
      obtain ⟨_, hseq⟩ := hsent.track
      rw [hk, hsame.tracks]
      cases k with
      | video =>
          show (_ : RtspTrack).active = _
          rw [RtspClient.setTrack_tracks_self, hseq]
      | metadata => rfl

end Flags

/-- A request that passes `session_ok` names the session of its connection. -/
theorem sessionError_eq_none {c : RtspClient} {req : Bytes} (h : sessionError c req = none) :
    c.hasSession = true ∧ ∃ value, headerValue req (ascii "Session") 64 = some value ∧
      strtoul value = c.sessionId.toNat := by
  unfold sessionError at h
  split at h
  · cases h
  · rename_i value hvalue
    split at h
    · cases h
    · rename_i hvalid
      simp only [Bool.or_eq_true, Bool.not_eq_true', decide_eq_true_eq, not_or,
        Bool.not_eq_false, not_not] at hvalid
      exact ⟨hvalid.1, value, hvalue, hvalid.2⟩

/-! ## The invariant of the flags -/

structure Sound (c : RtspClient) : Prop where
  playing : c.playing = true → c.hasSession = true
  waiting : c.waitingForSps = true → c.playing = true
  stream : c.streamId < rtspStreamCount

theorem clientInit_sound : Sound clientInit := ⟨fun h => h, fun h => h, by decide⟩

theorem SameSession.sound {c c' : RtspClient} (h : SameSession c c') (hs : Sound c) :
    Sound c' := by
  refine ⟨fun hp => ?_, fun hw => ?_, ?_⟩
  · rw [h.hasSession]
    exact hs.playing (h.playing ▸ hp)
  · rw [h.playing]
    exact hs.waiting (h.waitingForSps ▸ hw)
  · rw [h.streamId]
    exact hs.stream

theorem SessionTurn.sound {m : Move} (h : SessionTurn m) (hs : Sound m.pre) : Sound m.post := by
  cases h with
  | accept _ _ _ _ _ hpost =>
      rw [hpost]
      exact ⟨fun h => h, fun h => h, clientInit_sound.stream⟩
  | ended _ hpost =>
      rw [hpost]
      exact clientInit_sound
  | quiet _ hsame => exact hsame.sound hs
  | setup _ _ _ _ _ _ _ _ _ _ _ hstream hsame => exact hsame.sound ⟨fun _ => rfl,
      hs.waiting, hstream⟩
  | setupFailed _ _ _ _ _ hsame => exact hsame.sound ⟨hs.playing, hs.waiting, hs.stream⟩
  | play _ _ _ herror hsame =>
      exact hsame.sound ⟨fun _ => (sessionError_eq_none herror).1, fun _ => rfl, hs.stream⟩
  | teardown _ _ _ _ _ hsame =>
      exact hsame.sound ⟨fun h => absurd h Bool.false_ne_true,
        fun h => absurd h Bool.false_ne_true, hs.stream⟩
  | metadata _ _ _ _ _ _ _ hsame => exact hsame.sound ⟨hs.playing, hs.waiting, hs.stream⟩
  | push _ _ _ _ _ _ _ _ _ _ _ _ _ hsame =>
      exact hsame.sound ⟨hs.playing, fun h => absurd h Bool.false_ne_true, hs.stream⟩

theorem turns_sound {l : List Move} {c : RtspClient} (h : Turns clientInit l c) : Sound c :=
  (h.invariant clientInit_sound fun _ hs hm => hm.session.sound hs).2

/-! ## What is sent when -/

/-- The move is a push that the client gets. -/
def Move.Delivers (m : Move) (p : Push) : Prop :=
  m.act = .push p ∧ (m.pre.streamId : Int) = p.streamId ∧
    (m.pre.waitingForSps = true → nalType p.nal = nalSps) ∧
    ∃ ts answers, m.outs = (sendVideoNal (m.pre.tracks .video) p.nal ts p.last answers).2

/-- An RTP packet is sent only on an active track of an open connection that
plays, on the video track for a push. -/
theorem SessionTurn.rtp_sent {m : Move} (h : SessionTurn m) {k : TrackId} (hrtp : m.rtp k ≠ []) :
    0 ≤ m.pre.tcpFd ∧ m.pre.playing = true ∧ (m.pre.tracks k).active = true ∧
      (k = .video → ∃ p, m.Delivers p) := by
  cases h with
  | accept _ _ _ _ _ _ houts => exact absurd (houts.rtp k) hrtp
  | ended _ _ houts => exact absurd (houts.rtp k) hrtp
  | quiet _ _ _ houts => exact absurd (houts.rtp k) hrtp
  | setup _ _ _ _ _ _ _ _ _ _ _ _ _ _ houts =>
      obtain ⟨sockets, cseq, lines, head, hsockets, houts, -⟩ := houts
      refine absurd ?_ hrtp
      rw [Move.rtp, houts, List.filterMap_append, hsockets.rtp]
      rfl
  | setupFailed _ _ _ _ _ _ houts =>
      obtain ⟨sockets, replies, hsockets, hreplies, houts⟩ := houts
      refine absurd ?_ hrtp
      rw [Move.rtp, houts, List.filterMap_append, hsockets.rtp, hreplies.rtp]
      rfl
  | play _ _ _ _ _ houts =>
      obtain ⟨r, head, houts⟩ := houts
      refine absurd ?_ hrtp
      rcases houts with houts | houts <;> rw [Move.rtp, houts] <;> rfl
  | teardown io _ _ _ _ _ houts =>
      refine absurd ?_ hrtp
      rw [Move.rtp, houts]
      exact teardownOk_rtp m.pre io _ k
  | metadata io _ _ _ hopen hplaying hactive _ houts =>
      by_cases hk : k = .metadata
      · subst hk
        exact ⟨hopen, hplaying, hactive, fun h => by cases h⟩
      · refine absurd ?_ hrtp
        rw [Move.rtp, houts]
        exact (sendMetadata_sentOn m.srv io _).other hk
  | push p ts answers _ hact _ hopen hplaying hstream hactive _ _ hsps _ houts =>
      by_cases hk : k = .video
      · subst hk
        exact ⟨hopen, hplaying, hactive, fun _ => ⟨p, hact, hstream, hsps, ts, answers, houts⟩⟩
      · obtain ⟨packets, hpackets, hsent⟩ :=
          sendVideoNal_sentOn (m.pre.tracks .video) p.nal ts p.last answers
        refine absurd ?_ hrtp
        rw [Move.rtp, houts, hpackets]
        exact hsent.other hk

/-- RTCP packets are sent by a TEARDOWN answered 200 alone. -/
theorem SessionTurn.rtcp_sent {m : Move} (h : SessionTurn m) {k : TrackId}
    (hrtcp : m.rtcp k ≠ []) : m.kind = .teardown ∧ m.pre.hasSession = true := by
  cases h with
  | accept _ _ _ _ _ _ houts => exact absurd (houts.rtcp k) hrtcp
  | ended _ _ houts => exact absurd (houts.rtcp k) hrtcp
  | quiet _ _ _ houts => exact absurd (houts.rtcp k) hrtcp
  | setup _ _ _ _ _ _ _ _ _ _ _ _ _ _ houts =>
      obtain ⟨sockets, cseq, lines, head, hsockets, houts, -⟩ := houts
      refine absurd ?_ hrtcp
      rw [Move.rtcp, houts, List.filterMap_append, hsockets.rtcp]
      rfl
  | setupFailed _ _ _ _ _ _ houts =>
      obtain ⟨sockets, replies, hsockets, hreplies, houts⟩ := houts
      refine absurd ?_ hrtcp
      rw [Move.rtcp, houts, List.filterMap_append, hsockets.rtcp, hreplies.rtcp]
      rfl
  | play _ _ _ _ _ houts =>
      obtain ⟨r, head, houts⟩ := houts
      refine absurd ?_ hrtcp
      rcases houts with houts | houts <;> rw [Move.rtcp, houts] <;> rfl
  | teardown _ hkind _ _ herror => exact ⟨hkind, (sessionError_eq_none herror).1⟩
  | metadata io _ _ _ _ _ _ _ houts =>
      refine absurd ?_ hrtcp
      rw [Move.rtcp, houts]
      exact (sendMetadata_sentOn m.srv io (m.pre.tracks .metadata)).rtcp
  | push p ts answers _ _ _ _ _ _ _ _ _ _ _ houts =>
      obtain ⟨packets, hpackets, hsent⟩ :=
        sendVideoNal_sentOn (m.pre.tracks .video) p.nal ts p.last answers
      refine absurd ?_ hrtcp
      rw [Move.rtcp, houts, hpackets]
      exact hsent.rtcp

/-! ## Windows and flags -/

theorem playWindow_isSome {l : List Move} {c : RtspClient} (hl : Turns clientInit l c) :
    (playWindow l).isSome = true ↔ c.playing = true := by
  refine hl.window_isSome (P := fun c => c.playing = true) Bool.false_ne_true ?_ ?_ ?_
  · intro m hm hkind
    rw [hm.session.playing, beq_iff_eq.mp hkind]
  · intro m hm _ hend
    rw [hm.session.playing]
    cases hkind : m.kind <;> simp_all [Kind.endsSession]
  · intro m hm hplay hend
    rw [hm.session.playing]
    cases hkind : m.kind <;> simp_all [Kind.endsSession]

theorem sessionWindow_isSome {l : List Move} {c : RtspClient} (hl : Turns clientInit l c) :
    (sessionWindow l).isSome = true ↔ c.hasSession = true := by
  refine hl.window_isSome (P := fun c => c.hasSession = true) Bool.false_ne_true ?_ ?_ ?_
  · intro m hm hsetup
    rw [hm.session.hasSession]
    cases hkind : m.kind <;> simp_all [Kind.isSetup]
  · intro m hm _ hend
    rw [hm.session.hasSession]
    cases hkind : m.kind <;> simp_all [Kind.endsSession]
  · intro m hm hsetup hend
    rw [hm.session.hasSession]
    cases hkind : m.kind <;> simp_all [Kind.endsSession, Kind.isSetup]

theorem trackWindow_isSome (k : TrackId) {l : List Move} {c : RtspClient}
    (hl : Turns clientInit l c) :
    (trackWindow k l).isSome = true ↔ (c.tracks k).active = true := by
  refine hl.window_isSome (P := fun c => (c.tracks k).active = true) Bool.false_ne_true ?_ ?_ ?_
  · intro m hm hkind
    rw [hm.session.active, beq_iff_eq.mp hkind]
    simp
  · intro m hm _ hend
    rw [hm.session.active]
    cases hkind : m.kind <;> simp_all [Kind.endsSession]
  · intro m hm hsetup hend
    rw [hm.session.active]
    simp only [beq_eq_false_iff_ne, Bool.or_eq_false_iff] at hsetup hend
    cases hkind : m.kind with
    | setup j =>
        have hne : k ≠ j := fun h => hsetup (by rw [hkind, h])
        simp [hne]
    | setupFailed j =>
        have hne : k ≠ j := fun h => hend.1 (by rw [hkind, h])
        simp [hne]
    | accept | ended | teardown => simp [hkind, Kind.endsSession] at hend
    | play | other => rfl

/-! ## Session ids -/

/-- The move answers a SETUP with the session id. -/
def Move.Issues (m : Move) (id : UInt32) : Prop :=
  ∃ cseq lines head, Out.reply (.plain (ascii "200 OK") cseq lines) head [] ∈ m.outs ∧
    sessionLine id <:+ lines

theorem SessionTurn.issues {m : Move} (h : SessionTurn m) {k : TrackId}
    (hkind : m.kind = .setup k) : m.Issues m.post.sessionId := by
  obtain ⟨_, _, -, -, -, -, -, -, _, cseq, lines, head, -, houts, hline⟩ := h.setup_inv hkind
  exact ⟨cseq, lines, head, by simp [houts], hline⟩

theorem SessionTurn.sessionId {m : Move} (h : SessionTurn m) (hsetup : m.kind.isSetup = false)
    (hend : m.kind.endsSession = false) : m.post.sessionId = m.pre.sessionId := by
  cases h with
  | accept _ _ hk | ended hk | teardown _ hk =>
      rw [hk] at hend
      cases hend
  | setup _ _ _ hk =>
      rw [hk] at hsetup
      cases hsetup
  | quiet _ hsame => exact hsame.sessionId
  | setupFailed _ _ _ _ _ hsame => exact hsame.sessionId
  | play _ _ _ _ hsame => exact hsame.sessionId
  | metadata _ _ _ _ _ _ _ hsame => exact hsame.sessionId
  | push _ _ _ _ _ _ _ _ _ _ _ _ _ hsame => exact hsame.sessionId

/-- The id of a session is the one its last SETUP was answered with. -/
theorem sessionWindow_issues {l w : List Move} {s : Move} {c : RtspClient}
    (hl : Turns clientInit l c) (h : sessionWindow l = some (s, w)) : s.Issues c.sessionId := by
  refine hl.window_induction (R := fun s _ c => s.Issues c.sessionId) h ?_ ?_
  · intro m hm hsetup
    cases hkind : m.kind with
    | setup k => exact hm.session.issues hkind
    | accept | ended | setupFailed | play | teardown | other => simp [hkind, Kind.isSetup] at hsetup
  · intro s w m hs hm hsetup hend
    rw [hm.session.sessionId hsetup hend]
    exact hs

/-- The id is read back from the header a client echoes it in, with the timeout
or without. -/
theorem strtoul_echo (id : UInt32) :
    strtoul (decimal id.toNat) = id.toNat ∧
      strtoul (decimal id.toNat ++ ascii ";timeout=60") = id.toNat := by
  have hid : id.toNat ≤ ulongMax := Nat.le_of_lt_succ id.toNat_lt
  refine ⟨?_, strtoul_decimal hid fun b hb => ?_⟩
  · have h : strtoul (decimal id.toNat ++ []) = id.toNat :=
      strtoul_decimal hid fun b hb => absurd hb (by simp)
    rwa [List.append_nil] at h
  · cases hb
    rfl

/-! ## PLAY and TEARDOWN -/

section PlayTeardown

variable {srv : RtspConf} {c : RtspClient} {io : RequestIo} {req : Bytes}

theorem handleRequest_play (hauth : authError srv c io req = none)
    (hmethod : requestMethod req = ascii "PLAY") :
    handleRequest srv c io req =
      match sessionError c req with
      | some status => replied c io status (requestCseq req) []
      | none => playOk srv c io (requestCseq req) := by
  simp only [handleRequest, hauth, hmethod]
  refine (if_neg (by decide)).trans ?_
  refine (if_neg (by decide)).trans ?_
  refine (if_neg (by decide)).trans ?_
  exact if_pos trivial

theorem handleRequest_teardown (hauth : authError srv c io req = none)
    (hmethod : requestMethod req = ascii "TEARDOWN") :
    handleRequest srv c io req =
      match sessionError c req with
      | some status => replied c io status (requestCseq req) []
      | none => teardownOk c io (requestCseq req) := by
  simp only [handleRequest, hauth, hmethod]
  refine (if_neg (by decide)).trans ?_
  refine (if_neg (by decide)).trans ?_
  refine (if_neg (by decide)).trans ?_
  refine (if_neg (by decide)).trans ?_
  refine (if_neg (by decide)).trans ?_
  exact if_pos trivial

theorem sessionError_of_value {value : Bytes}
    (hvalue : headerValue req (ascii "Session") 64 = some value) :
    sessionError c req =
      if c.hasSession = true ∧ strtoul value = c.sessionId.toNat then none
      else some (ascii "454 Session ID is invalid") := by
  simp only [sessionError, hvalue]
  by_cases hsession : c.hasSession = true
  · by_cases hid : strtoul value = c.sessionId.toNat <;> simp [hsession, hid]
  · simp [hsession]

/-- PLAY and TEARDOWN succeed with the id of the session and are refused with
454 with any other. -/
theorem requestMove_session (hauth : authError srv c io req = none)
    (hmethod : requestMethod req = ascii "PLAY" ∨ requestMethod req = ascii "TEARDOWN")
    {value : Bytes} (hvalue : headerValue req (ascii "Session") 64 = some value) :
    if c.hasSession = true ∧ strtoul value = c.sessionId.toNat then
      (requestMove srv c io req).replies.map Reply.isOk = [true]
    else
      (requestMove srv c io req).replies =
        [.plain (ascii "454 Session ID is invalid") (requestCseq req) []] := by
  have herror := sessionError_of_value (c := c) hvalue
  split
  · rename_i hsession
    rw [if_pos hsession] at herror
    rcases hmethod with hmethod | hmethod
    · have hrequest := handleRequest_play hauth hmethod
      rw [herror] at hrequest
      simp only [Move.replies, requestMove, hrequest, playOk_replies]
      rfl
    · have hrequest := handleRequest_teardown hauth hmethod
      rw [herror] at hrequest
      simp only [Move.replies, requestMove, hrequest, teardownOk_replies]
      rfl
  · rename_i hsession
    rw [if_neg hsession] at herror
    rcases hmethod with hmethod | hmethod
    · have hrequest := handleRequest_play hauth hmethod
      rw [herror] at hrequest
      simp only [Move.replies, requestMove, hrequest, replied]
      rfl
    · have hrequest := handleRequest_teardown hauth hmethod
      rw [herror] at hrequest
      simp only [Move.replies, requestMove, hrequest, replied]
      rfl

end PlayTeardown

theorem Turn.eq_requestMove {m : Move} (h : Turn m) {io : RequestIo} {req : Bytes} {done : Bool}
    (hact : m.act = .request io req done) :
    m = requestMove m.srv m.pre io req ∧ 0 ≤ m.pre.tcpFd ∧ m.pre.rxbuf m.pre.rxlen = 0 ∧
      nextRequest m.pre = some req := by
  cases h with
  | request hc hnul hreq =>
      cases hact
      exact ⟨rfl, hc, hnul, hreq⟩
  | accept | recv | hangup | settle | metadata | skip | push | close => cases hact

/-- A PLAY or TEARDOWN is answered 200, or changes nothing an observer counts. -/
theorem Move.kind_of_method {m : Move}
    (h : requestMethod m.req = ascii "PLAY" ∨ requestMethod m.req = ascii "TEARDOWN") :
    (∃ io done, m.act = .request io m.req done) ∧
      (m.kind = .play ∨ m.kind = .teardown ∨ m.kind = .other) := by
  have hempty : ¬ (requestMethod [] = ascii "PLAY" ∨ requestMethod [] = ascii "TEARDOWN") := by
    decide
  have hsetup : requestMethod m.req ≠ ascii "SETUP" := by
    rcases h with h | h <;> rw [h] <;> decide
  cases hact : m.act with
  | request io req done =>
      have hreq : m.req = req := by rw [Move.req, hact]
      refine ⟨⟨io, done, by rw [hreq]⟩, ?_⟩
      rw [hreq] at hsetup
      simp only [Move.kind, hact, hsetup, if_false, false_and]
      split
      · split
        · exact .inl rfl
        · split
          · exact .inr (.inl rfl)
          · exact .inr (.inr rfl)
      · exact .inr (.inr rfl)
  | accept | recv | hangup | settle | metadata | push | close =>
      rw [Move.req, hact] at h
      exact absurd h hempty

theorem byes_eq (c : RtspClient) (io : RequestIo) :
    byes c io = (trackIds.filter fun k => (c.tracks k).active).map
      fun k => sendBye k (c.tracks k) (io.bye k) := by
  cases hv : (c.tracks .video).active <;> cases hm : (c.tracks .metadata).active <;>
    simp [byes, trackIds, hv, hm]

/-! ## The law of a session -/

/-- What holds of a move `m` that follows the moves `l` of its slot. -/
structure SessionLaw (l : List Move) (m : Move) : Prop where
  /-- RTP goes out only on an open connection, on an active track, and after a
  PLAY that no TEARDOWN has followed. -/
  rtp : ∀ k, m.rtp k ≠ [] → 0 ≤ m.pre.tcpFd ∧ (m.pre.tracks k).active = true ∧
    (playWindow l).isSome = true
  /-- PLAY and TEARDOWN take effect only with an id that a SETUP of this
  connection issued. -/
  effect : m.kind = .play ∨ m.kind = .teardown → ∃ s w id value,
    sessionWindow l = some (s, w) ∧ s.Issues id ∧
      headerValue m.req (ascii "Session") 64 = some value ∧ strtoul value = id.toNat
  /-- Without effect they leave the session as it is. -/
  ineffective : requestMethod m.req = ascii "PLAY" ∨ requestMethod m.req = ascii "TEARDOWN" →
    m.kind ≠ .play → m.kind ≠ .teardown → SameSession m.pre m.post
  /-- With the id of the session they are answered 200, with any other 454. -/
  answer : ∀ io done value, m.act = .request io m.req done →
    requestMethod m.req = ascii "PLAY" ∨ requestMethod m.req = ascii "TEARDOWN" →
    authError m.srv m.pre io m.req = none →
    headerValue m.req (ascii "Session") 64 = some value →
    match sessionWindow l with
    | some (s, _) => ∃ id, s.Issues id ∧
        if strtoul value = id.toNat then m.replies.map Reply.isOk = [true]
        else m.replies = [.plain (ascii "454 Session ID is invalid") (requestCseq m.req) []]
    | none => m.replies = [.plain (ascii "454 Session ID is invalid") (requestCseq m.req) []]
  /-- A TEARDOWN answered 200 sends a BYE per active track, in order, and then
  its reply. -/
  bye : m.kind = .teardown → ∃ (answers : TrackId → List SendResult) (r : Reply)
      (head : List SendResult) (sockets : List Out),
    m.outs = ((trackIds.filter fun k => (m.pre.tracks k).active).map
      fun k => sendBye k (m.pre.tracks k) (answers k)) ++ .reply r head [] :: sockets ∧
      r.isOk = true ∧ SocketsOnly sockets
  /-- After a TEARDOWN no packet is sent until a SETUP is answered 200. -/
  silent : (afterTeardown Kind.isSetup l).isSome = true → ∀ k, m.rtp k = [] ∧ m.rtcp k = []
  /-- From then until a PLAY is answered 200 only a TEARDOWN sends packets, and
  these are its BYEs. -/
  byesOnly : (afterTeardown (· == .play) l).isSome = true →
    ∀ k, m.rtp k = [] ∧ (m.rtcp k ≠ [] → m.kind = .teardown)

theorem afterTeardown_hasSession {l w : List Move} {m₀ : Move} {c : RtspClient}
    (hl : Turns clientInit l c) (h : afterTeardown Kind.isSetup l = some (m₀, w)) :
    c.hasSession = false := by
  refine hl.window_induction (R := fun _ _ c => c.hasSession = false) h ?_ ?_
  · intro m hm hkind
    rw [hm.session.hasSession, beq_iff_eq.mp hkind]
  · intro m₀ w m hs hm hopen hclose
    rw [hm.session.hasSession]
    cases hkind : m.kind <;> simp_all [Kind.isSetup]

theorem afterTeardown_playing {l w : List Move} {m₀ : Move} {c : RtspClient}
    (hl : Turns clientInit l c) (h : afterTeardown (· == .play) l = some (m₀, w)) :
    c.playing = false := by
  refine hl.window_induction (R := fun _ _ c => c.playing = false) h ?_ ?_
  · intro m hm hkind
    rw [hm.session.playing, beq_iff_eq.mp hkind]
  · intro m₀ w m hs hm hopen hclose
    rw [hm.session.playing]
    cases hkind : m.kind <;> simp_all

/-- PLAY and TEARDOWN take effect on a request that names the session. -/
theorem SessionTurn.sessionError_none {m : Move} (h : SessionTurn m)
    (hkind : m.kind = .play ∨ m.kind = .teardown) : sessionError m.pre m.req = none := by
  cases h with
  | play _ _ _ herror => exact herror
  | teardown _ _ _ _ herror => exact herror
  | accept _ _ hk | ended hk | quiet hk | setup _ _ _ hk | setupFailed _ _ hk
  | metadata _ hk | push _ _ _ hk => simp [hk] at hkind

theorem SessionTurn.unchanged {m : Move} (h : SessionTurn m)
    (hmethod : requestMethod m.req = ascii "PLAY" ∨ requestMethod m.req = ascii "TEARDOWN")
    (hplay : m.kind ≠ .play) (hteardown : m.kind ≠ .teardown) : SameSession m.pre m.post := by
  obtain ⟨⟨io, done, hact⟩, hkind⟩ := Move.kind_of_method hmethod
  cases h with
  | quiet _ hsame => exact hsame
  | metadata _ _ hact' | push _ _ _ _ hact' =>
      rw [hact] at hact'
      cases hact'
  | accept _ _ hk | ended hk | setup _ _ _ hk | setupFailed _ _ hk | play hk
  | teardown _ hk => simp_all

theorem sessionLaw {l : List Move} {m : Move} (hl : Turns clientInit l m.pre) (hm : Turn m) :
    SessionLaw l m := by
  have hsession := hm.session
  have hsound := turns_sound hl
  constructor
  case rtp =>
    intro k hrtp
    obtain ⟨hopen, hplaying, hactive, -⟩ := hsession.rtp_sent hrtp
    exact ⟨hopen, hactive, (playWindow_isSome hl).mpr hplaying⟩
  case effect =>
    intro hkind
    obtain ⟨hhas, value, hvalue, hid⟩ := sessionError_eq_none (hsession.sessionError_none hkind)
    obtain ⟨⟨s, w⟩, hw⟩ := Option.isSome_iff_exists.mp ((sessionWindow_isSome hl).mpr hhas)
    exact ⟨s, w, m.pre.sessionId, value, hw, sessionWindow_issues hl hw, hvalue, hid⟩
  case ineffective => exact hsession.unchanged
  case answer =>
    intro io done value hact hmethod hauth hvalue
    obtain ⟨hmove, -⟩ := hm.eq_requestMove hact
    have hreplies := requestMove_session (c := m.pre) hauth hmethod hvalue
    rw [← hmove] at hreplies
    split
    · rename_i s w hw
      have hhas : m.pre.hasSession = true := (sessionWindow_isSome hl).mp (by rw [hw]; rfl)
      refine ⟨m.pre.sessionId, sessionWindow_issues hl hw, ?_⟩
      simpa [hhas] using hreplies
    · rename_i hw
      have hhas : ¬ m.pre.hasSession = true := fun h => by
        have := (sessionWindow_isSome hl).mpr h
        rw [hw] at this
        cases this
      rwa [if_neg fun h => hhas h.1] at hreplies
  case bye =>
    intro hkind
    obtain ⟨io, -, houts⟩ := hsession.teardown_inv hkind
    refine ⟨io.bye, .plain (ascii "200 OK") (requestCseq m.req) [], io.reply, _, ?_, rfl,
      sessionReset_socketsOnly m.pre⟩
    rw [houts, ← byes_eq]
    rfl
  case silent =>
    intro hwindow k
    obtain ⟨⟨m₀, w⟩, hw⟩ := Option.isSome_iff_exists.mp hwindow
    have hhas := afterTeardown_hasSession hl hw
    refine ⟨?_, ?_⟩
    · by_contra hrtp
      have hplaying := (hsession.rtp_sent hrtp).2.1
      rw [hsound.playing hplaying] at hhas
      cases hhas
    · by_contra hrtcp
      rw [(hsession.rtcp_sent hrtcp).2] at hhas
      cases hhas
  case byesOnly =>
    intro hwindow k
    obtain ⟨⟨m₀, w⟩, hw⟩ := Option.isSome_iff_exists.mp hwindow
    have hplaying := afterTeardown_playing hl hw
    refine ⟨?_, fun hrtcp => (hsession.rtcp_sent hrtcp).1⟩
    by_contra hrtp
    rw [(hsession.rtp_sent hrtp).2.1] at hplaying
    cases hplaying

/-- In every run, for every client: the flags of its session are sound, the id it
echoes is read back, and every move obeys the law of the session. -/
theorem session_lifecycle (io : InitIo) (evs : List Event) (i : Slot) (n : Nat) :
    Sound (clientAt io evs i n) ∧
      (∀ id : UInt32, strtoul (decimal id.toNat) = id.toNat ∧
        strtoul (decimal id.toNat ++ ascii ";timeout=60") = id.toNat) ∧
      ∀ hn : n < (history io evs i).length,
        SessionLaw (historyAt io evs i n) (history io evs i)[n] := by
  refine ⟨turns_sound (historyAt_turns io evs i n), strtoul_echo, fun hn => ?_⟩
  obtain ⟨hturns, hturn⟩ := history_turn io evs i n hn
  exact sessionLaw hturns hturn

theorem session_lifecycle_sample : ∃ hn : 10 < (history sampleInit sampleRun 0).length,
    SessionLaw (historyAt sampleInit sampleRun 0 10) (history sampleInit sampleRun 0)[10] :=
  ⟨by decide +kernel, (session_lifecycle sampleInit sampleRun 0 10).2.2 (by decide +kernel)⟩

/-- No packet follows a TEARDOWN answered 200 until a PLAY is answered 200. -/
def SilentUntilPlay (l : List Move) (m : Move) : Prop :=
  (afterTeardown (· == .play) l).isSome = true → ∀ k, m.rtp k = [] ∧ m.rtcp k = []

/-- A client that sets up a track after its TEARDOWN and tears that down too. -/
def tornDownTwice : List Event :=
  [.enableStream 0 25, .poll (samplePoll 5 (sampleSetup "rtsp://h/stream=0/video" ++
    sampleTeardown ++ sampleSetup "rtsp://h/stream=0/video" ++ sampleTeardown))]

/-- The second TEARDOWN sends a BYE though nothing has played since the first. -/
theorem silentUntilPlay_fails : ¬ ∀ (io : InitIo) (evs : List Event) (i : Slot) (n : Nat)
    (hn : n < (history io evs i).length),
    SilentUntilPlay (historyAt io evs i n) (history io evs i)[n] := by
  intro h
  have hrun : ((afterTeardown (· == .play) (historyAt sampleInit tornDownTwice 0 5)).isSome &&
      (history sampleInit tornDownTwice 0)[5]?.any fun m => !(m.rtcp .video).isEmpty) = true := by
    decide +kernel
  rw [Bool.and_eq_true, Option.any_eq_true] at hrun
  obtain ⟨hwindow, m, hm, hbye⟩ := hrun
  obtain ⟨hn, hm⟩ := List.getElem?_eq_some_iff.mp hm
  have hsilent := (h sampleInit tornDownTwice 0 5 hn hwindow .video).2
  rw [hm] at hsilent
  rw [hsilent] at hbye
  cases hbye

end Rtsp
end FH8852
