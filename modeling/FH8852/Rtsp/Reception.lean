import FH8852.Lib.Receiver
import FH8852.Rtsp.Delivery
import FH8852.Rtsp.Timestamps

/-!
# What a player receives

The whole way of a NAL: from `rtsp_server_push_nal` through RTP packets, frames on
the connection and the client's `recv` to the receiver that puts it together.
-/

namespace FH8852
namespace Rtsp

open CLib History H264 Oracle

/-! ## The pushes that a player is sent -/

/-- The push is of the stream, and its NAL is neither empty nor SEI. -/
def Push.accepted (stream : Nat) (p : Push) : Bool :=
  p.streamId == (stream : Int) && (!p.nal.isEmpty && nalType p.nal != nalSei)

/-- The accepted pushes from the first SPS on. -/
def expectedPushes (stream : Nat) (pushes : List Push) : List Push :=
  (pushes.filter (Push.accepted stream)).dropWhile fun p => nalType p.nal != nalSps

theorem expectedPushes_nals (stream : Nat) (pushes : List Push) :
    (expectedPushes stream pushes).map Push.nal = expectedNals stream pushes := by
  rw [expectedNals, acceptedNals, List.filter_map, List.filter_filter, List.dropWhile_map]
  have haccepted : (fun p =>
    ((fun nal : Bytes => !nal.isEmpty && nalType nal != nalSei) ∘ Push.nal) p &&
      p.streamId == (stream : Int)) = Push.accepted stream := funext fun p => Bool.and_comm _ _
  rw [haccepted]
  rfl

/-- A push adds itself or nothing. -/
theorem expectedPushes_snoc (stream : Nat) (pushes : List Push) (p : Push) :
    ∃ more, (more = [] ∨ more = [p]) ∧
      expectedPushes stream (pushes ++ [p]) = expectedPushes stream pushes ++ more := by
  unfold expectedPushes
  rw [List.filter_append, List.dropWhile_append]
  generalize (List.filter _ pushes).dropWhile _ = sent
  cases hp : p.accepted stream with
  | false =>
      rw [List.filter_cons_of_neg (by rw [hp]; exact Bool.false_ne_true), List.filter_nil]
      refine ⟨[], .inl rfl, ?_⟩
      cases sent <;> rfl
  | true =>
      rw [List.filter_cons_of_pos hp, List.filter_nil]
      cases sent with
      | cons a sent => exact ⟨[p], .inr rfl, rfl⟩
      | nil =>
          rw [List.isEmpty_nil, if_pos rfl, List.dropWhile_cons]
          split
          · exact ⟨[], .inl rfl, rfl⟩
          · exact ⟨[p], .inr rfl, rfl⟩

/-- The push whose NAL a move hands to `send_video_nal`. -/
def Move.sentPushes (m : Move) : List Push := if m.sentNals = [] then [] else m.pushed.toList

/-- What a client has been sent since the PLAY, push by push. -/
structure PlaysPushes (m₀ : Move) (w : List Move) (c : RtspClient) : Prop extends Plays m₀ w c where
  pushes : w.flatMap Move.sentPushes = expectedPushes m₀.post.streamId (w.filterMap Move.pushed)

theorem PlaysPushes.snoc {m₀ m : Move} {w : List Move} {c : RtspClient} (h : PlaysPushes m₀ w m.pre)
    (hnext : Plays m₀ (w ++ [m]) c) : PlaysPushes m₀ (w ++ [m]) c := by
  refine ⟨hnext, ?_⟩
  have hsent := hnext.sent
  rw [List.flatMap_append, List.flatMap_singleton, h.sent] at hsent
  rw [List.flatMap_append, List.flatMap_singleton, h.pushes]
  cases hpushed : m.pushed with
  | none =>
      rw [List.filterMap_append, List.filterMap_cons, hpushed, List.filterMap_nil, List.append_nil]
      have hnone : m.sentPushes = [] := by
        rw [Move.sentPushes, hpushed]
        exact ite_self _
      rw [hnone, List.append_nil]
  | some p =>
      have hlist : [m].filterMap Move.pushed = [p] := by
        rw [List.filterMap_cons, hpushed]
        rfl
      obtain ⟨more, hmore, hsnoc⟩ :=
        expectedPushes_snoc m₀.post.streamId (w.filterMap Move.pushed) p
      have hnals := expectedPushes_nals m₀.post.streamId (w.filterMap Move.pushed ++ [p])
      rw [hsnoc, List.map_append, expectedPushes_nals] at hnals
      rw [List.filterMap_append, hlist, ← hnals] at hsent
      rw [List.filterMap_append, hlist, hsnoc, Move.sentPushes, List.append_cancel_left hsent,
        hpushed]
      rcases hmore with rfl | rfl <;> rfl

/-- A PLAY answered 200 begins it. -/
theorem PlaysPushes.start {m : Move} (hm : Turn m) (hkind : m.kind = .play)
    (hvideo : (m.post.tracks .video).active = true) : PlaysPushes m [] m.post := by
  cases hm.session with
  | play hk hfd hopen _ hsame =>
      exact ⟨⟨hfd ▸ hopen, hsame.playing, hvideo, rfl, rfl, iff_of_true hsame.waitingForSps rfl⟩,
        rfl⟩
  | accept _ _ hk | ended hk | quiet hk | setup _ _ _ hk | setupFailed _ _ hk | teardown _ hk
  | metadata _ hk | push _ _ _ hk =>
      rw [hkind] at hk
      cases hk

/-- The moves that belong to a playing client, which neither begin nor end its playing. -/
structure MidPlay (m : Move) : Prop where
  turn : Turn m
  asks : m.asksSession = false
  accept : m.kind ≠ .accept
  ended : m.kind ≠ .ended

theorem MidPlay.other {m : Move} (h : MidPlay m) : m.kind = .other := by
  by_contra hother
  have hasks := h.asks
  rw [Move.asksSession_of_kind h.accept h.ended hother] at hasks
  cases hasks

/-- The invariant rule for what happens to a playing client. -/
theorem playedWindow_induction {R : Move → List Move → RtspClient → Prop}
    {l w : List Move} {m₀ : Move}
    {c : RtspClient} (hl : Turns clientInit l c) (h : playedWindow l = some (m₀, w))
    (hstart : ∀ m, Turn m → m.kind = .play → R m [] m.post)
    (hkeep : ∀ m₀ w m, R m₀ w m.pre → Sound m.pre → MidPlay m → R m₀ (w ++ [m]) m.post) :
      R m₀ w c := by
  have hsound := (hl.invariant clientInit_sound fun _ hs hm => hm.session.sound hs).1
  refine hsound.window_induction h (fun m hok hkind => hstart m hok.1 (beq_iff_eq.mp hkind)) ?_
  intro m₀ w m hw hok _ hclose
  simp only [Bool.or_eq_false_iff, beq_eq_false_iff_ne] at hclose
  exact hkeep m₀ w m hw hok.2 ⟨hok.1, hclose.1.1, hclose.1.2, hclose.2⟩

theorem playedWindow_pushes {l w : List Move} {m₀ : Move} {c : RtspClient}
    (hl : Turns clientInit l c) (h : playedWindow l = some (m₀, w)) :
    (m₀.post.tracks .video).active = true → PlaysPushes m₀ w c :=
  playedWindow_induction
    (R := fun m₀ w c => (m₀.post.tracks .video).active = true → PlaysPushes m₀ w c)
    hl h (fun _ hm hkind hvideo => .start hm hkind hvideo) fun _ _ _ hw hs hm hvideo =>
      (hw hvideo).snoc ((hw hvideo).toPlays.step hs hm.turn hm.asks hm.accept hm.ended)

/-! ## The packets of a push -/

/-- A type that a payload of one NAL may have. -/
def SingleType (nal : Bytes) : Prop := 1 ≤ nalType nal ∧ nalType nal ≤ 23

/-- What a receiver is to get of a push. -/
def pushSample (tsBase : Nat → UInt32) (p : Push) : Sample :=
  ⟨(rtpTimestamp p.ptsUs (tsBase p.streamId.toNat)).toNat, p.nal, p.last⟩

theorem sendVideoNal_yields (t : RtspTrack) {nal : Bytes} (ts : UInt32) (last : Bool)
    (answers : Nat → List SendResult) (hne : nal ≠ []) (htype : SingleType nal) :
    ∃ packets, ((sendVideoNal t nal ts last answers).2.filterMap (Out.rtp? .video)).map Rtp.parse =
        packets.map some ∧ packets ≠ [] ∧ (∀ q ∈ packets, q.timestamp = ts.toNat) ∧
      Yields packets [⟨ts.toNat, nal, last⟩] := by
  obtain ⟨packets, hburst, hshort, hlong⟩ := sendVideoNal_burst t nal ts last answers
  have hsome : packets ≠ [] := by
    rintro rfl
    exact absurd hburst.marker.symm (List.append_ne_nil_of_right_ne_nil _ (List.cons_ne_nil _ _))
  have htimed : Timed ts.toNat last packets := ⟨hburst.timestamp, hburst.marker⟩
  obtain ⟨header, rest, rfl⟩ := List.exists_cons_of_ne_nil hne
  refine ⟨packets, hburst.parses, hsome, hburst.timestamp, ?_⟩
  rcases Nat.lt_or_ge rtpMaxPayload (header :: rest).length with h | h
  · obtain ⟨units, hread, hfragments, htwo⟩ := hlong h
    exact hfragments.yields htwo hread htimed
  · obtain ⟨q, rfl⟩ := List.length_eq_one_iff.mp (by simpa using congrArg List.length (hshort h))
    obtain ⟨htime, hmarker⟩ := htimed.of_single
    have hpayload : q.payload = header :: rest := (List.cons.inj (hshort h)).1
    have hread : readPayload q.payload = some (.single (header :: rest)) := by
      rw [hpayload]
      exact if_pos htype
    rw [← htime, ← hmarker]
    exact yields_single hread

/-- What the packets of a move make up. -/
theorem MidPlay.yields {m : Move} (hm : MidPlay m) {tsBase : Nat → UInt32}
    (hts : ∀ p, m.act = .push p → Stamped (rtpTimestamp p.ptsUs (tsBase p.streamId.toNat)) m.outs)
    (htype : ∀ p ∈ m.sentPushes, SingleType p.nal) :
    ∃ packets, (m.rtp .video).map Rtp.parse = packets.map some ∧
      Yields packets (m.sentPushes.map (pushSample tsBase)) := by
  have hnone : m.rtp .video = [] → m.sentNals = [] → ∃ packets,
      (m.rtp .video).map Rtp.parse = packets.map some ∧
        Yields packets (m.sentPushes.map (pushSample tsBase)) := by
    intro hrtp hnals
    rw [hrtp, Move.sentPushes, if_pos hnals]
    exact ⟨[], rfl, .nil⟩
  cases hm.turn.session with
  | quiet _ _ _ houts =>
      exact hnone (houts.rtp .video) houts.videoNal
  | metadata io _ hact _ _ _ _ _ houts =>
      refine hnone ?_ ?_
      · rw [Move.rtp, houts]
        rfl
      · rw [Move.sentNals, houts]
        rfl
  | push p ts answers _ hact _ _ _ _ _ hnal _ _ _ houts =>
      have hsent : m.sentPushes = [p] := by
        have hnals : m.sentNals = [p.nal] := by
          rw [Move.sentNals, houts]
          exact sendVideoNal_videoNal _ _ _ _ _
        rw [Move.sentPushes, hnals, if_neg (List.cons_ne_nil _ _), Move.pushed, hact]
        rfl
      have htype : SingleType p.nal := htype p (by rw [hsent]; exact List.mem_cons_self)
      obtain ⟨packets, hparse, hsome, htimes, hyields⟩ :=
        sendVideoNal_yields (m.pre.tracks .video) ts p.last answers hnal htype
      have hrtp : (m.rtp .video).map Rtp.parse = packets.map some := by
        rw [Move.rtp, houts]
        exact hparse
      -- the timestamp of the packets is that of the push
      have htime : (rtpTimestamp p.ptsUs (tsBase p.streamId.toNat)).toNat = ts.toNat := by
        obtain ⟨q, rest, rfl⟩ := List.exists_cons_of_ne_nil hsome
        have hmem : some q ∈ (m.rtp .video).map Rtp.parse := by
          rw [hrtp]
          exact List.mem_cons_self
        obtain ⟨data, hdata, hq⟩ := List.mem_map.mp hmem
        have hstamp := hts p hact data hdata
        rw [hq, Option.map_some, htimes q List.mem_cons_self] at hstamp
        exact (Option.some.inj hstamp).symm
      refine ⟨packets, hrtp, ?_⟩
      rw [hsent, List.map_singleton, pushSample, htime]
      exact hyields
  | accept _ _ hk | ended hk | setup _ _ _ hk | setupFailed _ _ hk | play hk | teardown _ hk =>
      rw [hm.other] at hk
      cases hk

theorem window_yields {w : List Move} {tsBase : Nat → UInt32} (hw : ∀ m ∈ w, MidPlay m)
    (hts : ∀ m ∈ w, ∀ p, m.act = .push p →
      Stamped (rtpTimestamp p.ptsUs (tsBase p.streamId.toNat)) m.outs)
    (htype : ∀ p ∈ w.flatMap Move.sentPushes, SingleType p.nal) :
    receiveBytes (w.flatMap (Move.rtp .video)) =
      some ((w.flatMap Move.sentPushes).map (pushSample tsBase)) := by
  have hall : ∃ packets, (w.flatMap (Move.rtp .video)).map Rtp.parse = packets.map some ∧
      Yields packets ((w.flatMap Move.sentPushes).map (pushSample tsBase)) := by
    induction w with
    | nil => exact ⟨[], rfl, .nil⟩
    | cons m w ih =>
        obtain ⟨hm, hw⟩ := List.forall_mem_cons.mp hw
        obtain ⟨hmts, hts⟩ := List.forall_mem_cons.mp hts
        rw [List.flatMap_cons] at htype
        obtain ⟨hmtype, htype⟩ := List.forall_mem_append.mp htype
        obtain ⟨first, hfirst, hyields⟩ := hm.yields hmts hmtype
        obtain ⟨rest, hrest, hmore⟩ := ih hw hts htype
        refine ⟨first ++ rest, ?_, ?_⟩
        · rw [List.flatMap_cons, List.map_append, List.map_append, hfirst, hrest]
        · rw [List.flatMap_cons, List.map_append]
          exact hyields.append hmore
  obtain ⟨packets, hparse, hyields⟩ := hall
  rw [receiveBytes, parsePackets_eq hparse]
  exact hyields.receive

/-! ## On the connection -/

/-- The tracks are these, but for their sequence numbers. -/
def KeepsTracks (tracks : TrackId → RtspTrack) (c : RtspClient) : Prop :=
  ∀ k, ∃ seq, c.tracks k = { tracks k with seq := seq }

theorem KeepsTracks.sent {tracks : TrackId → RtspTrack} {c : RtspClient} (h : KeepsTracks tracks c)
    {k : TrackId} {good : Bytes → Prop} {t : RtspTrack} {outs : List Out}
    (hsent : SentOn k good (c.tracks k) outs t) : KeepsTracks tracks (c.setTrack k t) := by
  intro j
  by_cases hj : j = k
  · subst hj
    obtain ⟨seq, htrack⟩ := h j
    obtain ⟨seq', hnext⟩ := hsent.track
    rw [RtspClient.setTrack_tracks_self, hnext, htrack]
    exact ⟨seq', rfl⟩
  · rw [RtspClient.setTrack_tracks_ne _ _ hj]
    exact h j

theorem MidPlay.keepsTracks {m : Move} (hm : MidPlay m) {tracks : TrackId → RtspTrack}
    (h : KeepsTracks tracks m.pre) : KeepsTracks tracks m.post := by
  unfold KeepsTracks
  cases hm.turn.session with
  | quiet _ hsame =>
      rw [hsame.tracks]
      exact h
  | metadata io _ _ _ _ _ _ hsame =>
      rw [hsame.tracks]
      exact h.sent (sendMetadata_sentOn m.srv io (m.pre.tracks .metadata))
  | push p ts answers _ _ _ _ _ _ _ _ _ _ hsame =>
      obtain ⟨outs, -, hsent⟩ := sendVideoNal_sentOn (m.pre.tracks .video) p.nal ts p.last answers
      rw [hsame.tracks]
      exact h.sent hsent
  | accept _ _ hk | ended hk | setup _ _ _ hk | setupFailed _ _ hk | play hk | teardown _ hk =>
      rw [hm.other] at hk
      cases hk

/-- The packet of a message that comes on the channel. -/
def packetOn (channel : UInt8) : Message → Option Bytes
  | .rtp ch data => if ch = channel then some data else none
  | .rtsp _ => none

/-- What a client finds of an output on a channel. -/
def Out.foundOn (channel : UInt8) (o : Out) : Option Bytes := o.delivered?.bind (packetOn channel)

theorem SentOn.foundOn {k : TrackId} {good : Bytes → Prop} {t t' : RtspTrack} {outs : List Out}
    (h : SentOn k good t outs t') (hinterleaved : t.interleaved = true)
    (hdropped : ∀ o ∈ outs, o.isDropped = false) :
    outs.filterMap (Out.foundOn t.rtpChannel) = outs.filterMap (Out.rtp? k) := by
  induction h with
  | nil => rfl
  | @cons t t' outs marker ts payload answers _ _ ih =>
      obtain ⟨hfirst, hrest⟩ := List.forall_mem_cons.mp hdropped
      have hrest := ih hinterleaved hrest
      have hvia : trackSend t false (rtpPacket t (payloadType k) marker ts payload) answers =
          .interleaved t.rtpChannel answers := by
        have hfirst : Out.isDropped (.packet k false _ (trackSend t false _ answers)) = false :=
          hfirst
        unfold trackSend at hfirst ⊢
        rw [if_pos hinterleaved] at hfirst ⊢
        split
        · rename_i hlong
          rw [if_pos hlong] at hfirst
          cases hfirst
        · rfl
      have hfound : Out.foundOn t.rtpChannel
        (rtpSend k t (payloadType k) marker ts payload answers).2 =
          some (rtpPacket t (payloadType k) marker ts payload) := by
        show Option.bind (Out.delivered? (.packet k false _ (trackSend t false _ answers))) _ = _
        rw [hvia]
        exact if_pos rfl
      have hout : (rtpSend k t (payloadType k) marker ts payload answers).2.rtp? k =
          some (rtpPacket t (payloadType k) marker ts payload) := if_pos rfl
      rw [List.filterMap_cons, hfound, List.filterMap_cons, hout, hrest]

/-- Nor is a packet of another channel found on it. -/
theorem SentOn.foundOn_ne {k : TrackId} {good : Bytes → Prop} {t t' : RtspTrack} {outs : List Out}
    (h : SentOn k good t outs t') {channel : UInt8}
    (hchannel : t.interleaved = true → t.rtpChannel ≠ channel) :
    outs.filterMap (Out.foundOn channel) = [] := by
  induction h with
  | nil => rfl
  | @cons t t' outs marker ts payload answers _ _ ih =>
      have hfound : Out.foundOn channel (rtpSend k t (payloadType k) marker ts payload answers).2 =
          none := by
        show Option.bind (Out.delivered? (.packet k false _ (trackSend t false _ answers))) _ = _
        unfold trackSend
        by_cases hinterleaved : t.interleaved = true
        · rw [if_pos hinterleaved]
          split
          · rfl
          · exact if_neg (hchannel hinterleaved)
        · rw [if_neg hinterleaved]
          rfl
      rw [List.filterMap_cons, hfound]
      exact ih hchannel

theorem RepliesOnly.foundOn {outs : List Out} (h : RepliesOnly outs) (channel : UInt8) :
    outs.filterMap (Out.foundOn channel) = [] := h.filterMap_eq_nil fun _ _ _ => rfl

/-- The video channel carries the video packets and nothing else. -/
theorem MidPlay.foundOn {m : Move} (hm : MidPlay m) {tracks : TrackId → RtspTrack}
    (h : KeepsTracks tracks m.pre) (hvideo : (tracks .video).interleaved = true)
    (hother : (tracks .metadata).interleaved = true →
      (tracks .metadata).rtpChannel ≠ (tracks .video).rtpChannel) :
    m.outs.filterMap (Out.foundOn (tracks .video).rtpChannel) = m.rtp .video := by
  cases hm.turn.session with
  | quiet _ _ _ houts =>
      rw [houts.foundOn]
      exact (houts.rtp .video).symm
  | metadata io _ _ _ _ _ _ _ houts =>
      obtain ⟨seq, htrack⟩ := h .metadata
      have hsent := sendMetadata_sentOn m.srv io (m.pre.tracks .metadata)
      rw [Move.rtp, houts, hsent.other (by decide), hsent.foundOn_ne]
      rw [htrack]
      exact hother
  | push p ts answers _ _ _ _ _ _ _ _ _ _ _ houts =>
      obtain ⟨seq, htrack⟩ := h .video
      obtain ⟨packets, hburst, -⟩ :=
        sendVideoNal_burst (m.pre.tracks .video) p.nal ts p.last answers
      obtain ⟨outs, hnal, hsent⟩ :=
        sendVideoNal_sentOn (m.pre.tracks .video) p.nal ts p.last answers
      have hdropped := hburst.sent
      have hchannel : (m.pre.tracks .video).rtpChannel =
        (tracks .video).rtpChannel := by rw [htrack]
      have hinterleaved : (m.pre.tracks .video).interleaved = true := by
        rw [htrack]
        exact hvideo
      rw [hnal] at hdropped
      rw [Move.rtp, houts, hnal, ← hchannel]
      exact hsent.foundOn hinterleaved (List.forall_mem_cons.mp hdropped).2
  | accept _ _ hk | ended hk | setup _ _ _ hk | setupFailed _ _ hk | play hk | teardown _ hk =>
      rw [hm.other] at hk
      cases hk

/-! ## The whole way -/

/-- What holds of the moves since a PLAY, and of the tracks. -/
structure PlayedMoves (m₀ : Move) (w : List Move) (c : RtspClient) : Prop where
  moves : ∀ m ∈ w, MidPlay m ∧ KeepsTracks m₀.post.tracks m.pre
  tracks : KeepsTracks m₀.post.tracks c

theorem playedWindow_moves {l w : List Move} {m₀ : Move} {c : RtspClient}
    (hl : Turns clientInit l c) (h : playedWindow l = some (m₀, w)) : PlayedMoves m₀ w c := by
  refine playedWindow_induction (R := PlayedMoves) hl h ?_ ?_
  · intro m _ _
    exact ⟨fun _ hm => absurd hm List.not_mem_nil, fun k => ⟨_, rfl⟩⟩
  · intro m₀ w m hw _ hm
    exact ⟨List.forall_mem_append.mpr ⟨hw.moves, List.forall_mem_singleton.mpr ⟨hm, hw.tracks⟩⟩,
      hm.keepsTracks hw.tracks⟩

/-- The playing belongs to the connection. -/
theorem playedWindow_of_connection {l w v : List Move} {a m₀ : Move}
    (hconn : connection l = some (a, w))
    (hplay : playedWindow l = some (m₀, v)) : ∃ before, w = before ++ m₀ :: v := by
  obtain ⟨⟨before, hbefore⟩, -⟩ := window_eq hconn
  obtain ⟨⟨earlier, hearlier⟩, hquiet⟩ := window_eq hplay
  have haccept := beq_iff_eq.mp (window_subset hconn).1
  have hkind := beq_iff_eq.mp (window_subset hplay).1
  have hsame : before ++ a :: w = earlier ++ m₀ :: v := hbefore.symm.trans hearlier
  rcases List.append_eq_append_iff.mp hsame with ⟨mid, -, hmid⟩ | ⟨mid, -, hmid⟩
  · cases mid with
    | nil =>
        rw [List.nil_append] at hmid
        rw [(List.cons.inj hmid).1, hkind] at haccept
        cases haccept
    | cons x mid =>
        exact ⟨mid, (List.cons.inj hmid).2⟩
  · -- the accept would be among the moves since the PLAY
    cases mid with
    | nil =>
        rw [List.nil_append] at hmid
        rw [← (List.cons.inj hmid).1, hkind] at haccept
        cases haccept
    | cons x mid =>
        have hmem : a ∈ v := by
          rw [(List.cons.inj hmid).2]
          exact List.mem_append_right _ List.mem_cons_self
        have hclosed := (hquiet a hmem).2
        rw [haccept, Bool.or_eq_false_iff, Bool.or_eq_false_iff] at hclosed
        cases hclosed.1.2

/-- The reply to a PLAY is all that the client gets of it. -/
theorem delivered_play {m : Move} (hm : Turn m) (hkind : m.kind = .play) :
    ∃ r, m.replies = [r] ∧ delivered [m] = [.rtsp r.text] := by
  cases hm.session with
  | play _ _ _ _ _ houts =>
      obtain ⟨r, head, houts | houts⟩ := houts
      · refine ⟨r, ?_, ?_⟩
        · rw [Move.replies, houts]
          rfl
        · rw [delivered, List.flatMap_singleton, houts]
          rfl
      · refine ⟨r, ?_, ?_⟩
        · rw [Move.replies, houts]
          rfl
        · rw [delivered, List.flatMap_singleton, houts]
          rfl
  | accept _ _ hk | ended hk | quiet hk | setup _ _ _ hk | setupFailed _ _ hk | teardown _ hk
  | metadata _ hk | push _ _ _ hk =>
      rw [hkind] at hk
      cases hk

theorem delivered_append (w w' : List Move) :
    delivered (w ++ w') = delivered w ++ delivered w' := by
  rw [delivered, List.flatMap_append, List.filterMap_append]
  rfl

theorem delivered_packetOn (w : List Move) (channel : UInt8) :
    (delivered w).filterMap (packetOn channel) =
      w.flatMap fun m => m.outs.filterMap (Out.foundOn channel) := by
  rw [delivered, List.filterMap_filterMap, List.filterMap_flatMap]
  rfl

/-- A client on a connection that takes all bytes reads the reply to its PLAY, and
after it, on the channel of the video, packets that make up every NAL pushed since on
its stream from the first SPS on, but for empty NALs and SEI: each once and in order,
with the timestamp of its push and the marker of its end of frame.  The metadata has
another channel, and the types of the NALs are those a payload may have. -/
theorem player_receives (io : InitIo) (evs : List Event) (i : Slot) (n : Nat) {a m₀ : Move}
    {w v : List Move} (hconn : connection (historyAt io evs i n) = some (a, w))
    (hplay : playedWindow (historyAt io evs i n) = some (m₀, v))
    (hvideo : (m₀.post.tracks .video).active = true)
    (htcp : (m₀.post.tracks .video).interleaved = true)
    (hother : (m₀.post.tracks .metadata).interleaved = true →
      (m₀.post.tracks .metadata).rtpChannel ≠ (m₀.post.tracks .video).rtpChannel)
    (htypes : ∀ p ∈ expectedPushes m₀.post.streamId (v.filterMap Move.pushed), SingleType p.nal)
    (hwhole : (messages w).all sentWhole = true) {chunks : List Bytes}
    (hchunks : chunks.flatten = wire w) (hne : ∀ chunk ∈ chunks, chunk ≠ []) :
    v.filterMap Move.pushed <:+: evs.filterMap Event.pushed ∧
      ∃ before r, m₀.replies = [r] ∧
        nextMessages (delivered w).length chunks [] =
          some (before ++ .rtsp r.text :: delivered v, [], []) ∧
        receiveBytes ((delivered v).filterMap (packetOn (m₀.post.tracks .video).rtpChannel)) =
          some ((expectedPushes m₀.post.streamId (v.filterMap Move.pushed)).map
            (pushSample (initialServer io).videoTsBase)) := by
  have hturns := historyAt_turns io evs i n
  obtain ⟨⟨earlier, hearlier⟩, -⟩ := window_eq hplay
  have hmem : ∀ m ∈ m₀ :: v, m ∈ history io evs i := by
    intro m hm
    apply List.mem_of_mem_take
    show m ∈ historyAt io evs i n
    rw [hearlier]
    exact List.mem_append_right _ hm
  have hkind := beq_iff_eq.mp (window_subset hplay).1
  have hturn : Turn m₀ := (historyAt_turns io evs i n).ok_of_mem (window_subset hplay).2.1
  obtain ⟨r, hreply, hdelivered⟩ := delivered_play hturn hkind
  obtain ⟨before, hw⟩ := playedWindow_of_connection hconn hplay
  have hmoves := playedWindow_moves hturns hplay
  have hpushes := (playedWindow_pushes hturns hplay hvideo).pushes
  refine ⟨?_, delivered before, r, hreply, ?_, ?_⟩
  · rw [← history_pushed io evs i]
    refine (List.IsSuffix.filterMap Move.pushed ?_).isInfix.trans
      ((List.take_prefix n (history io evs i)).filterMap Move.pushed).isInfix
    rw [← historyAt, hearlier]
    exact (List.suffix_cons m₀ v).trans (List.suffix_append _ _)
  · have hstream : [] ++ chunks.flatten = ((messages w).map messageBytes).flatten ++ [] := by
      rw [List.nil_append, List.append_nil, hchunks, wire_of_sentWhole hwhole]
    obtain ⟨buf, rest, hnext, hnothing, hsuffix⟩ :=
      nextMessages_spec (connection_sent io evs i n hconn) hstream
    obtain ⟨rfl, hrest⟩ := List.append_eq_nil_iff.mp hnothing
    have hnone : rest = [] := by
      cases rest with
      | nil => rfl
      | cons chunk rest =>
          rw [List.flatten_cons, List.append_eq_nil_iff] at hrest
          exact absurd hrest.1 (hne chunk (hsuffix.subset List.mem_cons_self))
    have hsplit : delivered w = delivered before ++ .rtsp r.text :: delivered v := by
      rw [hw, ← List.singleton_append, delivered_append, delivered_append, hdelivered]
      rfl
    rw [hnext, hnone, hsplit]
  · have hfound : (delivered v).filterMap (packetOn (m₀.post.tracks .video).rtpChannel) =
        v.flatMap (Move.rtp .video) := by
      rw [delivered_packetOn]
      exact List.flatMap_congr fun m hm =>
        (hmoves.moves m hm).1.foundOn (hmoves.moves m hm).2 htcp hother
    rw [hfound, ← hpushes]
    refine window_yields (fun m hm => (hmoves.moves m hm).1) ?_ (hpushes ▸ htypes)
    intro m hm p hact
    exact run_push_stamped _ evs i (hmem m (List.mem_cons_of_mem m₀ hm)) hact

/-- A session of the video track. -/
def videoRun : List Event :=
  [.enableStream 0 25, .poll (samplePoll 5 (sampleSetup "rtsp://h/stream=0/video" ++ samplePlay)),
    samplePush 0 [0x41, 9], samplePush 0 [0x67, 1, 2], samplePush 1 [0x67, 7],
    samplePush 0 [0x41, 3]]

theorem player_receives_sample : ∃ a w m₀ v,
    connection (historyAt sampleInit videoRun 0 20) = some (a, w) ∧
      playedWindow (historyAt sampleInit videoRun 0 20) = some (m₀, v) ∧
      (expectedPushes m₀.post.streamId (v.filterMap Move.pushed)).length = 2 ∧
      receiveBytes ((delivered v).filterMap (packetOn (m₀.post.tracks .video).rtpChannel)) =
        some ((expectedPushes m₀.post.streamId (v.filterMap Move.pushed)).map
          (pushSample (initialServer sampleInit).videoTsBase)) := by
  have hrun : (connection (historyAt sampleInit videoRun 0 20)).any (fun c =>
      (messages c.2).all sentWhole) = true ∧
      (playedWindow (historyAt sampleInit videoRun 0 20)).any (fun v =>
        (v.1.post.tracks .video).active && (v.1.post.tracks .video).interleaved &&
          !(v.1.post.tracks .metadata).interleaved &&
          (expectedPushes v.1.post.streamId (v.2.filterMap Move.pushed)).length == 2 &&
          (expectedPushes v.1.post.streamId (v.2.filterMap Move.pushed)).all fun p =>
            decide (1 ≤ nalType p.nal) && decide (nalType p.nal ≤ 23)) = true := by decide +kernel
  obtain ⟨⟨a, w⟩, hconn, hwhole⟩ := (Option.any_eq_true _ _).mp hrun.1
  obtain ⟨⟨m₀, v⟩, hplay, hchecks⟩ := (Option.any_eq_true _ _).mp hrun.2
  simp only [Bool.and_eq_true, Bool.not_eq_true', beq_iff_eq] at hchecks
  obtain ⟨⟨⟨⟨hvideo, htcp⟩, hmetadata⟩, htwo⟩, htypes⟩ := hchecks
  have hother : (m₀.post.tracks .metadata).interleaved = true →
      (m₀.post.tracks .metadata).rtpChannel ≠ (m₀.post.tracks .video).rtpChannel := by
    rw [hmetadata]
    exact fun h => absurd h Bool.false_ne_true
  have hsingle : ∀ p ∈ expectedPushes m₀.post.streamId (v.filterMap Move.pushed),
    SingleType p.nal := by
    intro p hp
    have htype := List.all_eq_true.mp htypes p hp
    simp only [Bool.and_eq_true, decide_eq_true_eq] at htype
    exact htype
  have hchunks : ((wire w).map fun b => [b]).flatten = wire w := by
    rw [← List.flatMap_def]
    exact List.flatMap_singleton' _
  have hne : ∀ chunk ∈ (wire w).map fun b => [b], chunk ≠ [] := by
    intro chunk hchunk
    obtain ⟨b, -, rfl⟩ := List.mem_map.mp hchunk
    exact List.cons_ne_nil _ _
  obtain ⟨-, before, r, -, -, hreceived⟩ :=
    player_receives sampleInit videoRun 0 20 hconn hplay hvideo
    htcp hother hsingle hwhole hchunks hne
  exact ⟨a, w, m₀, v, hconn, hplay, htwo, hreceived⟩

end Rtsp
end FH8852
