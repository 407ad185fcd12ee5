import FH8852.Rtsp.Lifecycle

/-!
# Playback

Which NALs and packets a client that plays is sent: all that is pushed on its
stream from the next SPS on, as long as no request of its own intervenes.
-/

namespace FH8852
namespace Rtsp

open CLib History

/-! ## The NALs of a playing client -/

/-- The NALs a client of a stream is to be sent, of all that is pushed. -/
def acceptedNals (stream : Nat) (pushes : List Push) : List Bytes :=
  ((pushes.filter fun p => p.streamId == (stream : Int)).map Push.nal).filter
    fun nal => !nal.isEmpty && nalType nal != nalSei

/-- Those from the first SPS on. -/
def expectedNals (stream : Nat) (pushes : List Push) : List Bytes :=
  (acceptedNals stream pushes).dropWhile fun nal => nalType nal != nalSps

theorem acceptedNals_snoc (stream : Nat) (pushes : List Push) (p : Push) :
    acceptedNals stream (pushes ++ [p]) = acceptedNals stream pushes ++
      if p.streamId = stream ∧ p.nal ≠ [] ∧ nalType p.nal ≠ nalSei then [p.nal] else [] := by
  unfold acceptedNals
  rw [List.filter_append, List.map_append, List.filter_append]
  congr 1
  by_cases hstream : p.streamId = stream
  · by_cases hnal : p.nal = []
    · simp [hstream, hnal]
    · by_cases hsei : nalType p.nal = nalSei <;> simp [hstream, hnal, hsei]
  · simp [hstream]

/-- A push adds its NAL once an SPS has come, and an SPS in any case. -/
theorem expectedNals_snoc (stream : Nat) (pushes : List Push) (p : Push) :
    expectedNals stream (pushes ++ [p]) = expectedNals stream pushes ++
      if p.streamId = stream ∧ p.nal ≠ [] ∧ nalType p.nal ≠ nalSei ∧
        (expectedNals stream pushes = [] → nalType p.nal = nalSps) then [p.nal] else [] := by
  unfold expectedNals
  rw [acceptedNals_snoc, List.dropWhile_append]
  generalize (acceptedNals stream pushes).dropWhile (fun nal => nalType nal != nalSps) = sent
  by_cases haccept : p.streamId = stream ∧ p.nal ≠ [] ∧ nalType p.nal ≠ nalSei
  · obtain ⟨hstream, hnal, hsei⟩ := haccept
    cases sent with
    | nil =>
        have hdiffer : nalSps ≠ nalSei := by decide
        by_cases hsps : nalType p.nal = nalSps
        · simp [hstream, hnal, hsps, hdiffer]
        · simp [hstream, hnal, hsei, hsps]
    | cons a l => simp [hstream, hnal, hsei]
  · have hmore : ¬ (p.streamId = stream ∧ p.nal ≠ [] ∧ nalType p.nal ≠ nalSei ∧
        (sent = [] → nalType p.nal = nalSps)) := fun h => haccept ⟨h.1, h.2.1, h.2.2.1⟩
    rw [if_neg haccept, if_neg hmore]
    cases sent <;> simp

theorem SentOn.videoNal {k : TrackId} {good : Bytes → Prop} {t t' : RtspTrack} {outs : List Out}
    (h : SentOn k good t outs t') : outs.filterMap Out.videoNal? = [] :=
  h.filterMap_eq_nil fun _ _ => rfl

theorem sendVideoNal_videoNal (t : RtspTrack) (nal : Bytes) (ts : UInt32) (last : Bool)
    (answers : Nat → List SendResult) :
    (sendVideoNal t nal ts last answers).2.filterMap Out.videoNal? = [nal] := by
  obtain ⟨packets, hpackets, hsent⟩ := sendVideoNal_sentOn t nal ts last answers
  rw [hpackets, List.filterMap_cons, hsent.videoNal]
  rfl

/-- What holds of a client from a PLAY on, when its video track was active. -/
structure Plays (m₀ : Move) (w : List Move) (c : RtspClient) : Prop where
  opened : 0 ≤ c.tcpFd
  playing : c.playing = true
  active : (c.tracks .video).active = true
  stream : c.streamId = m₀.post.streamId
  sent : w.flatMap Move.sentNals = expectedNals m₀.post.streamId (w.filterMap Move.pushed)
  waiting : c.waitingForSps = true ↔
    expectedNals m₀.post.streamId (w.filterMap Move.pushed) = []

/-- A move that hands on no NAL and belongs to no push changes nothing of it. -/
theorem Plays.quiet {m₀ m : Move} {w : List Move} (h : Plays m₀ w m.pre) {c : RtspClient}
    (hfd : m.post.tcpFd = m.pre.tcpFd) (hsame : SameSession c m.post)
    (hplaying : c.playing = m.pre.playing) (hwaiting : c.waitingForSps = m.pre.waitingForSps)
    (hstream : c.streamId = m.pre.streamId) (htrack : c.tracks .video = m.pre.tracks .video)
    (hsent : m.sentNals = []) (hpushed : m.pushed = none) : Plays m₀ (w ++ [m]) m.post := by
  have hnals : (w ++ [m]).flatMap Move.sentNals = w.flatMap Move.sentNals := by
    simp [hsent]
  have hpushes : (w ++ [m]).filterMap Move.pushed = w.filterMap Move.pushed := by
    simp [hpushed]
  constructor
  case opened =>
    rw [hfd]
    exact h.opened
  case playing =>
    rw [hsame.playing, hplaying]
    exact h.playing
  case active =>
    rw [hsame.tracks, htrack]
    exact h.active
  case stream =>
    rw [hsame.streamId, hstream]
    exact h.stream
  case sent =>
    rw [hnals, hpushes]
    exact h.sent
  case waiting =>
    rw [hsame.waitingForSps, hwaiting, hpushes]
    exact h.waiting

theorem RepliesOnly.videoNal {outs : List Out} (h : RepliesOnly outs) :
    outs.filterMap Out.videoNal? = [] := h.filterMap_eq_nil fun _ _ _ => rfl

/-- A push that the client does not get is none of those it is to be sent. -/
theorem Plays.skip {m₀ m : Move} {w : List Move} {p : Push} (h : Plays m₀ w m.pre)
    (hs : Sound m.pre) (hact : m.act = .push p) (houts : m.outs = []) (hpost : m.post = m.pre)
    (hskip : (0 ≤ m.pre.tcpFd ∧ m.pre.playing = true ∧ (m.pre.streamId : Int) = p.streamId ∧
      (m.pre.tracks .video).active = true ∧ m.pre.streamId < rtspStreamCount) →
      p.nal = [] ∨ nalType p.nal = nalSei ∨
        (m.pre.waitingForSps = true ∧ nalType p.nal ≠ nalSps)) :
    Plays m₀ (w ++ [m]) m.post := by
  have hpushes : expectedNals m₀.post.streamId ((w ++ [m]).filterMap Move.pushed) =
      expectedNals m₀.post.streamId (w.filterMap Move.pushed) := by
    have hpushed : [m].filterMap Move.pushed = [p] := by simp [Move.pushed, hact]
    rw [List.filterMap_append, hpushed, expectedNals_snoc, if_neg, List.append_nil]
    rintro ⟨hstream, hnal, hsei, hsps⟩
    have hstream : (m.pre.streamId : Int) = p.streamId := by rw [h.stream, hstream]
    rcases hskip ⟨h.opened, h.playing, hstream, h.active, hs.stream⟩ with h' | h' | ⟨hwait, h'⟩
    · exact hnal h'
    · exact hsei h'
    · exact h' (hsps (h.waiting.mp hwait))
  rw [hpost]
  refine ⟨h.opened, h.playing, h.active, h.stream, ?_, ?_⟩
  · rw [hpushes, List.flatMap_append, List.flatMap_singleton, Move.sentNals, houts, h.sent]
    exact List.append_nil _
  · rw [hpushes]
    exact h.waiting

/-- A push that the client gets is the next of those it is to be sent. -/
theorem Plays.push {m₀ m : Move} {w : List Move} {p : Push} (h : Plays m₀ w m.pre)
    (hact : m.act = .push p) (hsent : m.sentNals = [p.nal])
    (hstream : (m.pre.streamId : Int) = p.streamId) (hnal : p.nal ≠ [])
    (hsei : nalType p.nal ≠ nalSei)
    (hsps : m.pre.waitingForSps = true → nalType p.nal = nalSps)
    (hfd : m.post.tcpFd = m.pre.tcpFd) (hplaying : m.post.playing = m.pre.playing)
    (hactive : (m.post.tracks .video).active = (m.pre.tracks .video).active)
    (hpost : m.post.streamId = m.pre.streamId) (hwaiting : m.post.waitingForSps = false) :
    Plays m₀ (w ++ [m]) m.post := by
  have hpushes : expectedNals m₀.post.streamId ((w ++ [m]).filterMap Move.pushed) =
      expectedNals m₀.post.streamId (w.filterMap Move.pushed) ++ [p.nal] := by
    have hpushed : [m].filterMap Move.pushed = [p] := by simp [Move.pushed, hact]
    rw [List.filterMap_append, hpushed, expectedNals_snoc, if_pos]
    refine ⟨?_, hnal, hsei, fun hnone => hsps (h.waiting.mpr hnone)⟩
    rw [← hstream, h.stream]
  constructor
  case opened =>
    rw [hfd]
    exact h.opened
  case playing =>
    rw [hplaying]
    exact h.playing
  case active =>
    rw [hactive]
    exact h.active
  case stream =>
    rw [hpost]
    exact h.stream
  case sent => rw [hpushes, List.flatMap_append, List.flatMap_singleton, hsent, h.sent]
  case waiting =>
    rw [hpushes, hwaiting]
    simp

theorem Plays.step {m₀ m : Move} {w : List Move} (h : Plays m₀ w m.pre) (hs : Sound m.pre)
    (hm : Turn m) (hasks : m.asksSession = false) (haccept : m.kind ≠ .accept)
    (hended : m.kind ≠ .ended) : Plays m₀ (w ++ [m]) m.post := by
  have hother : m.kind = .other := by
    by_contra hother
    rw [Move.asksSession_of_kind haccept hended hother] at hasks
    cases hasks
  have hquiet : m.pushed = none → (∀ io, m.act ≠ .metadata io) → Plays m₀ (w ++ [m]) m.post := by
    intro hpushed hmetadata
    cases hm.session with
    | quiet _ hsame hfd houts =>
        exact h.quiet hfd hsame rfl rfl rfl rfl houts.videoNal hpushed
    | metadata io _ hact => exact absurd hact (hmetadata io)
    | push p _ _ _ hact => simp [Move.pushed, hact] at hpushed
    | accept _ _ hk | ended hk | setup _ _ _ hk | setupFailed _ _ hk | play hk | teardown _ hk =>
        rw [hother] at hk
        cases hk
  cases hm with
  | skip hskip => exact h.skip hs rfl rfl rfl hskip
  | @push srv c p ts answers hc hplaying hstream hactive hnal hsei hsps =>
      refine h.push rfl (sendVideoNal_videoNal _ _ _ _ _) hstream hnal hsei hsps rfl rfl ?_ rfl rfl
      obtain ⟨_, _, hsent⟩ := sendVideoNal_sentOn (c.tracks .video) p.nal ts p.last answers
      obtain ⟨_, htrack⟩ := hsent.track
      show (RtspTrack.active (if _ then _ else _)) = _
      rw [if_pos rfl, htrack]
  | @metadata srv c io =>
      have htrack : (c.setTrack .metadata (sendMetadata srv io (c.tracks .metadata)).1).tracks
          .video = c.tracks .video := c.setTrack_tracks_ne _ (by decide)
      exact h.quiet rfl ⟨rfl, rfl, rfl, rfl, rfl, rfl⟩ rfl rfl rfl htrack rfl rfl
  | accept => exact absurd rfl haccept
  | hangup | close => exact absurd rfl hended
  | recv | settle | request => exact hquiet rfl fun _ h => by cases h

theorem playedWindow_plays {l w : List Move} {m₀ : Move} {c : RtspClient}
    (hl : Turns clientInit l c) (h : playedWindow l = some (m₀, w))
    (hvideo : (m₀.post.tracks .video).active = true) : Plays m₀ w c := by
  have hsound := (hl.invariant clientInit_sound fun _ hs hm => hm.session.sound hs).1
  refine hsound.window_induction
    (R := fun m₀ w c => (m₀.post.tracks .video).active = true → Plays m₀ w c) h ?_ ?_ hvideo
  · rintro m ⟨hm, -⟩ hkind hactive
    have hkind := beq_iff_eq.mp hkind
    cases hm.session with
    | play hk hfd hopen _ hsame =>
        exact ⟨hfd ▸ hopen, hsame.playing, hactive, rfl, rfl, iff_of_true hsame.waitingForSps rfl⟩
    | accept _ _ hk | ended hk | quiet hk | setup _ _ _ hk | setupFailed _ _ hk
    | teardown _ hk | metadata _ hk | push _ _ _ hk =>
        rw [hkind] at hk
        cases hk
  · rintro m₀ w m hw ⟨hm, hs⟩ - hclose hactive
    simp only [Bool.or_eq_false_iff, beq_eq_false_iff_ne] at hclose
    exact (hw hactive).step hs hm hclose.1.1 hclose.1.2 hclose.2

/-! ## The pushes of a run -/

def Event.pushed : Event → Option Push
  | .pushNal p _ => some p
  | _ => none

theorem pollClient_pushed (srv : RtspConf) (now : UInt64) (io : ClientIo) (c : RtspClient) :
    (pollClient srv now io c).2.filterMap Move.pushed = [] := by
  rw [List.filterMap_eq_nil_iff]
  intro m hm
  rcases (pollClient_mem hm).2 with ⟨-, rfl⟩ | ⟨bytes, d, -, rfl, hm | rfl⟩
  · rfl
  · rcases mem_receiveLog.mp hm with rfl | hm | rfl
    · rfl
    · obtain ⟨k, c', req, rfl⟩ := drainRequests_mem hm
      rfl
    · rfl
  · rfl

theorem apply_pushed (srv : RtspServer) (e : Event) (i : Slot) :
    (slotLog i (e.apply srv).2).filterMap Move.pushed = e.pushed.toList := by
  cases e with
  | poll io =>
      show (slotLog i (_ ++ _)).filterMap Move.pushed = []
      rw [slotLog_append, List.filterMap_append, (forClients_spec _ _).2 i |>.2,
        pollClient_pushed, List.append_nil, List.filterMap_eq_nil_iff]
      intro m hm
      rw [Move.pushed, acceptClient_act hm]
  | pushNal p answers =>
      obtain ⟨m, hm, hact⟩ := rtspServerPushNal_move srv p answers i
      show (slotLog i (rtspServerPushNal srv p answers).2).filterMap Move.pushed = [p]
      rw [hm, List.filterMap_cons, Move.pushed, hact]
      rfl
  | setCredentials | useShadow | onIdrRequest => rfl
  | enableStream => rfl
  | close =>
      show (slotLog i (_ ++ _)).filterMap Move.pushed = []
      rw [slotLog_append, slotLog_map_server, List.append_nil, ((forClients_spec _ _).2 i).2]
      rfl

/-- Every slot sees all the pushes of a run, in their order. -/
theorem history_pushed (io : InitIo) (evs : List Event) (i : Slot) :
    (history io evs i).filterMap Move.pushed = evs.filterMap Event.pushed := by
  unfold history
  generalize initialServer io = srv
  induction evs generalizing srv with
  | nil => rfl
  | cons e evs ih =>
      show (slotLog i (_ ++ _)).filterMap Move.pushed = _
      rw [slotLog_append, List.filterMap_append, ih, apply_pushed]
      cases he : e.pushed with
      | none => rw [List.filterMap_cons, he]; rfl
      | some p => rw [List.filterMap_cons, he]; rfl

/-- From a PLAY until the next SETUP, PLAY, TEARDOWN or disconnect, a client is
sent what is pushed on its stream from the first SPS on, but for empty NALs and
SEI. -/
theorem played_nals (io : InitIo) (evs : List Event) (i : Slot) (n : Nat) {m₀ : Move}
    {w : List Move} (h : playedWindow (historyAt io evs i n) = some (m₀, w))
    (hvideo : (m₀.post.tracks .video).active = true) :
    w.flatMap Move.sentNals = expectedNals m₀.post.streamId (w.filterMap Move.pushed) ∧
      (history io evs i).filterMap Move.pushed = evs.filterMap Event.pushed :=
  ⟨(playedWindow_plays (historyAt_turns io evs i n) h hvideo).sent, history_pushed io evs i⟩

theorem played_nals_sample : ∃ m₀ w,
    playedWindow (historyAt sampleInit sampleRun 0 10) = some (m₀, w) ∧
      (m₀.post.tracks .video).active = true ∧
      w.flatMap Move.sentNals = expectedNals m₀.post.streamId (w.filterMap Move.pushed) := by
  have hrun : (playedWindow (historyAt sampleInit sampleRun 0 10)).any
      (fun v => (v.1.post.tracks .video).active) = true := by decide +kernel
  obtain ⟨⟨m₀, w⟩, h, hvideo⟩ := (Option.any_eq_true _ _).mp hrun
  exact ⟨m₀, w, h, hvideo, (played_nals sampleInit sampleRun 0 10 h hvideo).1⟩

end Rtsp
end FH8852
