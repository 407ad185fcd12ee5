import Mathlib.Data.FinEnum
import FH8852.Rtsp.Playback

/-!
# The stream of the video track

What the packets of a video track carry: which stream they come from, and what
the first of them begins with.
-/

namespace FH8852
namespace Rtsp

open CLib History

/-! ## Payloads -/

/-- A packet carries a payload that its sender meant. -/
theorem SentOn.payload {k : TrackId} {good : Bytes → Prop} {t t' : RtspTrack} {outs : List Out}
    (h : SentOn k good t outs t') {data : Bytes} (hdata : data ∈ outs.filterMap (Out.rtp? k)) :
    ∃ q, Rtp.parse data = some q ∧ good q.payload := by
  induction h with
  | nil => cases hdata
  | @cons t t' outs marker ts payload answers hgood _ ih =>
      have hout : (rtpSend k t (payloadType k) marker ts payload answers).2.rtp? k =
          some (rtpPacket t (payloadType k) marker ts payload) := if_pos rfl
      rw [List.filterMap_cons, hout] at hdata
      rcases List.mem_cons.mp hdata with rfl | hdata
      · exact ⟨_, parse_rtpPacket k t marker ts payload, hgood⟩
      · exact ih hdata

/-- A SETUP answered 200 was granted. -/
theorem SessionTurn.grants {m : Move} (h : SessionTurn m) {k : TrackId}
    (hkind : m.kind = .setup k) : m.grants = some k := by
  obtain ⟨io, _, hact, hadmits, hports, -⟩ := h.setup_inv hkind
  have htrack : trackOf (requestUri m.req) = k := by
    simp only [Move.kind, hact] at hkind
    split at hkind
    · split at hkind
      · exact Kind.setup.inj hkind
      · split at hkind
        · cases hkind
        · split at hkind <;> cases hkind
    · split at hkind <;> cases hkind
  simp [Move.grants, hact, hadmits, hports, htrack]

/-! ## The stream the packets come from -/

/-- Every video packet of the move `m` carries a NAL pushed on the stream that
the SETUP of the video track named. -/
def FromSetupStream (l : List Move) (m : Move) : Prop :=
  ∀ data ∈ m.rtp .video, ∃ p q s w, m.act = .push p ∧ Rtp.parse data = some q ∧
    Carries p.nal q.payload ∧ trackWindow .video l = some (s, w) ∧ p.streamId = s.stream

/-- A SETUP of the metadata track is granted on another stream than that of an
active video track. -/
def Move.switchesStream (m : Move) : Bool :=
  m.grants == some .metadata && (m.pre.tracks .video).active && m.stream != m.pre.streamId

/-- Where no SETUP of the metadata track switches the stream, the client's stream
is that of its video track. -/
theorem trackWindow_stream {l w : List Move} {s : Move} {c : RtspClient}
    (hl : Turns clientInit l c) (hno : ∀ m ∈ l, m.switchesStream = false)
    (h : trackWindow .video l = some (s, w)) : c.streamId = s.stream := by
  have hstrong : Chain Move.pre Move.post (fun m => Turn m ∧ m.switchesStream = false)
      clientInit l c := hl.strengthen fun m hm hturn => ⟨hturn, hno m hm⟩
  refine (hstrong.window_induction (R := fun s _ c => c.streamId = s.stream ∧
    (c.tracks .video).active = true) h ?_ ?_).1
  · rintro m ⟨hm, -⟩ hkind
    have hkind := beq_iff_eq.mp hkind
    rw [hm.session.streamId, hm.session.active, hkind]
    exact ⟨rfl, if_pos rfl⟩
  · rintro s w m ⟨hstream, hactive⟩ ⟨hm, hswitch⟩ hopen hclose
    simp only [Bool.or_eq_false_iff, beq_eq_false_iff_ne] at hopen hclose
    obtain ⟨hfailed, hend⟩ := hclose
    rw [hm.session.streamId, hm.session.active]
    cases hkind : m.kind with
    | setup j =>
        cases j with
        | video => exact absurd hkind hopen
        | metadata =>
            have hgrants := hm.session.grants hkind
            have hsame : m.stream = m.pre.streamId := by
              simpa [Move.switchesStream, hgrants, hactive] using hswitch
            exact ⟨hsame.trans hstream, hactive⟩
    | setupFailed j =>
        cases j with
        | video => exact absurd hkind hfailed
        | metadata => exact ⟨hstream, hactive⟩
    | accept | ended | teardown =>
        rw [hkind] at hend
        cases hend
    | play | other => exact ⟨hstream, hactive⟩

/-- In a run in which no SETUP of a metadata track switches the stream of an
active video track, every video packet comes from the stream that track was set
up for. -/
theorem video_packets_fromSetupStream (io : InitIo) (evs : List Event) (i : Slot) (n : Nat)
    (hno : ∀ m ∈ historyAt io evs i n, m.switchesStream = false)
    (hn : n < (history io evs i).length) :
    FromSetupStream (historyAt io evs i n) (history io evs i)[n] := by
  intro data hdata
  obtain ⟨hturns, hturn⟩ := history_turn io evs i n hn
  obtain ⟨-, -, hactive, hvideo⟩ := hturn.session.rtp_sent (List.ne_nil_of_mem hdata)
  obtain ⟨p, hact, hstream, -, ts, answers, houts⟩ := hvideo rfl
  obtain ⟨⟨s, w⟩, hw⟩ :=
    Option.isSome_iff_exists.mp ((trackWindow_isSome .video hturns).mpr hactive)
  obtain ⟨packets, hpackets, hsent⟩ :=
    sendVideoNal_sentOn ((history io evs i)[n].pre.tracks .video) p.nal ts p.last answers
  rw [Move.rtp, houts, hpackets] at hdata
  obtain ⟨q, hq, hcarries⟩ := hsent.payload hdata
  refine ⟨p, q, s, w, hact, hq, hcarries, hw, ?_⟩
  rw [← hstream, trackWindow_stream hturns hno hw]

theorem video_packets_fromSetupStream_sample :
    ∃ hn : 7 < (history sampleInit sampleRun 0).length,
      FromSetupStream (historyAt sampleInit sampleRun 0 7) (history sampleInit sampleRun 0)[7] := by
  have hrun : ((historyAt sampleInit sampleRun 0 7).all (fun m => !m.switchesStream) &&
      decide (7 < (history sampleInit sampleRun 0).length)) = true := by decide +kernel
  simp only [Bool.and_eq_true, List.all_eq_true, Bool.not_eq_true', decide_eq_true_eq] at hrun
  exact ⟨hrun.2, video_packets_fromSetupStream sampleInit sampleRun 0 7 hrun.1 hrun.2⟩

/-- A client whose tracks are set up on two streams, the metadata track last. -/
def twoStreamsRun : List Event :=
  [.enableStream 0 25, .enableStream 1 25,
    .poll (samplePoll 5 (sampleSetup "rtsp://h/stream=0/video" ++
      sampleSetup "rtsp://h/stream=1/metadata" ++ samplePlay)),
    samplePush 1 [0x67, 1, 2]]

/-- The video track, set up for stream 0, is sent what is pushed on stream 1. -/
theorem metadata_setup_switches_video : ¬ ∀ (io : InitIo) (evs : List Event) (i : Slot) (n : Nat)
    (hn : n < (history io evs i).length),
    FromSetupStream (historyAt io evs i n) (history io evs i)[n] := by
  intro h
  have hrun : ((history sampleInit twoStreamsRun 0)[7]?.any (fun m => !(m.rtp .video).isEmpty &&
      m.pushed.any fun p => p.streamId == 1) &&
      (trackWindow .video (historyAt sampleInit twoStreamsRun 0 7)).any
        fun v => v.1.stream == 0) = true := by decide +kernel
  rw [Bool.and_eq_true, Option.any_eq_true, Option.any_eq_true] at hrun
  obtain ⟨⟨m, hm, hpacket⟩, ⟨s, w⟩, hw, hzero⟩ := hrun
  obtain ⟨hn, hm⟩ := List.getElem?_eq_some_iff.mp hm
  rw [Bool.and_eq_true, Option.any_eq_true] at hpacket
  obtain ⟨hsome, p, hpushed, hone⟩ := hpacket
  obtain ⟨data, hdata⟩ := List.exists_mem_of_ne_nil (m.rtp .video) (by simpa using hsome)
  have hfrom := h sampleInit twoStreamsRun 0 7 hn
  rw [hm] at hfrom
  obtain ⟨p', q, s', w', hact, -, -, hw', hstream⟩ := hfrom data hdata
  rw [hw] at hw'
  cases hw'
  rw [Move.pushed, hact] at hpushed
  cases hpushed
  have hzero : s.stream = 0 := beq_iff_eq.mp hzero
  have hone : p.streamId = 1 := beq_iff_eq.mp hone
  omega

/-! ## What the stream begins with -/

/-- The payload is an SPS or the first fragment of one. -/
def startsSps (payload : Bytes) : Bool :=
  nalType payload == nalSps || (nalType payload == nalFuA &&
    payload.getD 1 0 &&& 0x80 == 0x80 && payload.getD 1 0 &&& 0x1f == nalSps)

def beginsWithSps (packets : List Bytes) : Bool :=
  packets.head?.all fun p => (Rtp.parse p).any fun q => startsSps q.payload

/-- A SETUP of the video track is granted to a client that plays and has had its
SPS. -/
def Move.restartsMidStream (m : Move) : Bool :=
  m.grants == some .video && m.pre.playing && !m.pre.waitingForSps

theorem nalType_fuA (b : UInt8) : ((b &&& 0xe0) ||| nalFuA) &&& 0x1f = nalFuA := by
  revert b
  decide +kernel

theorem startsSps_fragment (nal : Bytes) (hsps : nalType nal = nalSps) (chunk : Bytes) :
    startsSps (((nal.headD 0 &&& 0xe0) ||| nalFuA) :: (0x80 ||| nalType nal) :: chunk) = true := by
  have hfirst : nalType (((nal.headD 0 &&& 0xe0) ||| nalFuA) :: (0x80 ||| nalType nal) :: chunk) =
      nalFuA := nalType_fuA _
  rw [startsSps, hfirst, hsps]
  show (nalFuA == nalSps || (nalFuA == nalFuA && (0x80 ||| nalSps) &&& 0x80 == 0x80 &&
    (0x80 ||| nalSps) &&& 0x1f == nalSps)) = true
  decide

/-- The packets of an SPS begin with one that carries it or its first fragment. -/
theorem sendVideoNal_sps (t : RtspTrack) {nal : Bytes} (hsps : nalType nal = nalSps)
    (ts : UInt32) (last : Bool) (answers : Nat → List SendResult) :
    ∃ p rest, (sendVideoNal t nal ts last answers).2.filterMap (Out.rtp? .video) = p :: rest ∧
      (Rtp.parse p).any (fun q => startsSps q.payload) = true := by
  have hout : ∀ (marker : Bool) (payload : Bytes) (a : List SendResult),
      (rtpSend .video t ptH264 marker ts payload a).2.rtp? .video =
        some (rtpPacket t ptH264 marker ts payload) := fun _ _ _ => rfl
  have hparse : ∀ (marker : Bool) (payload : Bytes), startsSps payload = true →
      (Rtp.parse (rtpPacket t ptH264 marker ts payload)).any (fun q => startsSps q.payload) =
        true := by
    intro marker payload h
    have hpacket := parse_rtpPacket .video t marker ts payload
    rw [show ptH264 = payloadType .video from rfl, hpacket]
    exact h
  unfold sendVideoNal
  by_cases hlen : nal.length ≤ rtpMaxPayload
  · rw [if_pos hlen]
    refine ⟨_, [], rfl, hparse last nal ?_⟩
    rw [startsSps, hsps]
    rfl
  · rw [if_neg hlen]
    -- the first fragment is not the last, so its second byte is the one it started with
    have hlong : 1 + fuAData < nal.length := by
      have : 1200 < nal.length := Nat.lt_of_not_le hlen
      show 1 + 1198 < nal.length
      omega
    obtain ⟨fuel, hfuel⟩ : ∃ fuel, nal.length = fuel + 1 := ⟨nal.length - 1, by omega⟩
    have hfirst := congrArg (List.filterMap (Out.rtp? .video))
      (@sendFragments_more nal ts last answers fuel 0 1 (0x80 ||| nalType nal) t hlong)
    rw [List.filterMap_cons, hout, ← hfuel] at hfirst
    exact ⟨_, _, hfirst,
      hparse false _ (startsSps_fragment nal hsps ((nal.drop 1).take fuAData))⟩

/-- A push that is delivered to a client that waits begins with its SPS. -/
theorem Move.Delivers.sps {m : Move} {p : Push} (h : m.Delivers p)
    (hwaiting : m.pre.waitingForSps = true) :
    ∃ data rest, m.rtp .video = data :: rest ∧
      (Rtp.parse data).any (fun q => startsSps q.payload) = true := by
  obtain ⟨-, -, hsps, ts, answers, houts⟩ := h
  rw [Move.rtp, houts]
  exact sendVideoNal_sps _ (hsps hwaiting) ts p.last answers

/-- A client that waits if it plays goes on to, until a video packet is sent. -/
theorem SessionTurn.waits {m : Move} (h : SessionTurn m)
    (hpre : m.pre.playing = true → m.pre.waitingForSps = true) (hrtp : m.rtp .video = []) :
    m.post.playing = true → m.post.waitingForSps = true := by
  intro hplays
  cases h with
  | accept _ _ _ _ _ hpost =>
      rw [hpost] at hplays
      cases hplays
  | ended _ hpost =>
      rw [hpost] at hplays
      cases hplays
  | teardown _ _ _ _ _ hsame =>
      rw [hsame.playing] at hplays
      cases hplays
  | quiet _ hsame => exact hsame.waitingForSps.trans (hpre (hsame.playing ▸ hplays))
  | setup _ _ _ _ _ _ _ _ _ _ _ _ hsame =>
      exact hsame.waitingForSps.trans (hpre (hsame.playing ▸ hplays))
  | setupFailed _ _ _ _ _ hsame =>
      exact hsame.waitingForSps.trans (hpre (hsame.playing ▸ hplays))
  | play _ _ _ _ hsame => exact hsame.waitingForSps
  | metadata _ _ _ _ _ _ _ hsame =>
      exact hsame.waitingForSps.trans (hpre (hsame.playing ▸ hplays))
  | push p ts answers _ hact _ _ hplaying hstream _ _ _ hsps _ houts =>
      have hdelivers : m.Delivers p := ⟨hact, hstream, hsps, ts, answers, houts⟩
      obtain ⟨data, rest, hsent, -⟩ := hdelivers.sps (hpre hplaying)
      rw [hrtp] at hsent
      cases hsent

/-- A SETUP answered 200 does not change whether the client plays or waits. -/
theorem SessionTurn.setup_flags {m : Move} (h : SessionTurn m) {k : TrackId}
    (hkind : m.kind = .setup k) : m.post.playing = m.pre.playing ∧
      m.post.waitingForSps = m.pre.waitingForSps := by
  obtain ⟨_, _, -, -, -, -, -, hsame, -⟩ := h.setup_inv hkind
  exact ⟨hsame.playing, hsame.waitingForSps⟩

/-- The packets begin with an SPS, and while there are none a client that plays
waits for one. -/
structure BeginsWithSps (packets : List Bytes) (c : RtspClient) : Prop where
  begins : beginsWithSps packets = true
  waits : packets = [] → c.playing = true → c.waitingForSps = true

theorem BeginsWithSps.step {packets : List Bytes} {m : Move} (h : BeginsWithSps packets m.pre)
    (hm : SessionTurn m) : BeginsWithSps (packets ++ m.rtp .video) m.post := by
  cases packets with
  | cons data rest => exact ⟨h.begins, fun hnone => by cases hnone⟩
  | nil =>
      rw [List.nil_append]
      by_cases hrtp : m.rtp .video = []
      · rw [hrtp]
        exact ⟨rfl, fun _ => hm.waits (h.waits rfl) hrtp⟩
      · obtain ⟨-, hplaying, -, hvideo⟩ := hm.rtp_sent hrtp
        obtain ⟨p, hdelivers⟩ := hvideo rfl
        obtain ⟨data, rest, hsent, hbegins⟩ := hdelivers.sps (h.waits rfl hplaying)
        rw [hsent]
        exact ⟨hbegins, fun hnone => by cases hnone⟩

/-- In a run in which no SETUP of the video track is granted to a client that
plays and has had its SPS, every stream of video packets begins with an SPS. -/
theorem video_stream_beginsWithSps (io : InitIo) (evs : List Event) (i : Slot) (n : Nat)
    (hno : ∀ m ∈ historyAt io evs i n, m.restartsMidStream = false) {m₀ : Move} {w : List Move}
    (h : trackWindow .video (historyAt io evs i n) = some (m₀, w)) :
    beginsWithSps (w.flatMap (Move.rtp .video)) = true := by
  have hl : Chain Move.pre Move.post (fun m => Turn m ∧ m.restartsMidStream = false)
      clientInit (historyAt io evs i n) (clientAt io evs i n) :=
    (historyAt_turns io evs i n).strengthen fun m hm hturn => ⟨hturn, hno m hm⟩
  refine (hl.window_induction
    (R := fun _ w c => BeginsWithSps (w.flatMap (Move.rtp .video)) c) h ?_ ?_).begins
  · rintro m ⟨hm, hrestarts⟩ hkind
    have hkind := beq_iff_eq.mp hkind
    have hgrants := hm.session.grants hkind
    refine ⟨rfl, fun _ => ?_⟩
    obtain ⟨hplaying, hwaiting⟩ := hm.session.setup_flags hkind
    rw [hplaying, hwaiting]
    intro hplays
    simpa [Move.restartsMidStream, hgrants, hplays] using hrestarts
  · rintro m₀ w m hw ⟨hm, -⟩ - -
    rw [List.flatMap_append, List.flatMap_singleton]
    exact hw.step hm.session

theorem video_stream_beginsWithSps_sample : ∃ m₀ w,
    trackWindow .video (historyAt sampleInit sampleRun 0 10) = some (m₀, w) ∧
      beginsWithSps (w.flatMap (Move.rtp .video)) = true := by
  have hrun : ((trackWindow .video (historyAt sampleInit sampleRun 0 10)).isSome &&
      (historyAt sampleInit sampleRun 0 10).all fun m => !m.restartsMidStream) = true := by
    decide +kernel
  simp only [Bool.and_eq_true, List.all_eq_true, Bool.not_eq_true'] at hrun
  obtain ⟨⟨m₀, w⟩, h⟩ := Option.isSome_iff_exists.mp hrun.1
  exact ⟨m₀, w, h, video_stream_beginsWithSps sampleInit sampleRun 0 10 hrun.2 h⟩

/-- A client that sets its video track up again while it plays. -/
def setupAgainRun : List Event :=
  [.enableStream 0 25,
    .poll (samplePoll 5 (sampleSetup "rtsp://h/stream=0/video" ++ samplePlay)),
    samplePush 0 [0x67, 1, 2],
    .poll (samplePoll (-1) (sampleSetup "rtsp://h/stream=0/video")),
    samplePush 0 [0x41, 3]]

/-- The stream that the second SETUP starts begins with a slice. -/
theorem setup_again_begins_midStream : ¬ ∀ (io : InitIo) (evs : List Event) (i : Slot) (n : Nat)
    (m₀ : Move) (w : List Move), trackWindow .video (historyAt io evs i n) = some (m₀, w) →
    beginsWithSps (w.flatMap (Move.rtp .video)) = true := by
  intro h
  have hrun : (trackWindow .video (historyAt sampleInit setupAgainRun 0 10)).any
      (fun v => !beginsWithSps (v.2.flatMap (Move.rtp .video))) = true := by decide +kernel
  obtain ⟨⟨m₀, w⟩, hw, hnot⟩ := (Option.any_eq_true _ _).mp hrun
  rw [h sampleInit setupAgainRun 0 10 m₀ w hw] at hnot
  cases hnot

end Rtsp
end FH8852
