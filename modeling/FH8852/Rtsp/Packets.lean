import FH8852.Lib.Rtp
import FH8852.Rtsp.Observe

/-!
# The packets of a track

`SentOn` is what the senders have in common: they build their packets with
`rtp_send`, one after the other, on one track.  From it follows how the packets
of a track are numbered over a whole run.
-/

namespace FH8852
namespace Rtsp

open CLib History

def payloadType : TrackId → UInt8
  | .video => ptH264
  | .metadata => ptMetadata

/-- `SentOn k good t outs t'`: the outputs are RTP packets of track `k`, sent one
after the other from the state `t` of the track, with payloads that are `good`. -/
inductive SentOn (k : TrackId) (good : Bytes → Prop) :
    RtspTrack → List Out → RtspTrack → Prop
  | nil {t} : SentOn k good t [] t
  | cons {t t' outs} (marker : Bool) (ts : UInt32) (payload : Bytes) (answers : List SendResult)
      (hgood : good payload) (hrest : SentOn k good { t with seq := t.seq + 1 } outs t') :
      SentOn k good t ((rtpSend k t (payloadType k) marker ts payload answers).2 :: outs) t'

/-- The payload carries the NAL: all of it, or a fragment. -/
def Carries (nal payload : Bytes) : Prop :=
  payload = nal ∨ ∃ fu off len,
    payload = ((nal.headD 0 &&& 0xe0) ||| nalFuA) :: fu :: (nal.drop off).take len

theorem sendFragments_sentOn (nal : Bytes) (ts : UInt32) (last : Bool)
    (answers : Nat → List SendResult) (fuel n off : Nat) (fu : UInt8) (t : RtspTrack) :
    SentOn .video (Carries nal) t (sendFragments nal ts last answers fuel n off fu t).2
      (sendFragments nal ts last answers fuel n off fu t).1 := by
  induction fuel generalizing n off fu t with
  | zero => exact .nil
  | succ fuel ih =>
      unfold sendFragments
      by_cases h : off < nal.length
      · rw [if_pos h]
        exact .cons _ _ _ _ (.inr ⟨_, _, _, rfl⟩) (ih _ _ _ _)
      · rw [if_neg h]
        exact .nil

/-- A round of the loop that leaves a part of the NAL. -/
theorem sendFragments_more {nal : Bytes} {ts : UInt32} {last : Bool}
    {answers : Nat → List SendResult} {fuel n off : Nat} {fu : UInt8} {t : RtspTrack}
    (h : off + fuAData < nal.length) :
    (sendFragments nal ts last answers (fuel + 1) n off fu t).2 =
      (rtpSend .video t ptH264 false ts (((nal.headD 0 &&& 0xe0) ||| nalFuA) :: fu ::
        (nal.drop off).take fuAData) (answers n)).2 ::
      (sendFragments nal ts last answers fuel (n + 1) (off + fuAData) (fu &&& 0x7f)
        { t with seq := t.seq + 1 }).2 := by
  have hin : off < nal.length := by omega
  have hchunk : ¬ nal.length - off < fuAData := by omega
  have hfin : ¬ off + fuAData = nal.length := by omega
  simp only [sendFragments, if_pos hin, if_neg hchunk, hfin, decide_false, Bool.and_false,
    Bool.false_eq_true, if_false]
  rfl

/-- `send_video_nal` sends packets that carry the NAL. -/
theorem sendVideoNal_sentOn (t : RtspTrack) (nal : Bytes) (ts : UInt32) (last : Bool)
    (answers : Nat → List SendResult) :
    ∃ outs, (sendVideoNal t nal ts last answers).2 = .videoNal nal :: outs ∧
      SentOn .video (Carries nal) t outs (sendVideoNal t nal ts last answers).1 := by
  unfold sendVideoNal
  by_cases h : nal.length ≤ rtpMaxPayload
  · rw [if_pos h]
    exact ⟨_, rfl, .cons last ts nal (answers 0) (.inl rfl) .nil⟩
  · rw [if_neg h]
    exact ⟨_, rfl, sendFragments_sentOn nal ts last answers _ _ _ _ t⟩

theorem sendMetadata_sentOn (srv : RtspConf) (io : MetadataIo) (t : RtspTrack) :
    SentOn .metadata (fun _ => True) t [(sendMetadata srv io t).2] (sendMetadata srv io t).1 :=
  .cons true _ _ io.answers trivial .nil

/-! ## One packet -/

theorem parse_rtpPacket (k : TrackId) (t : RtspTrack) (marker : Bool) (ts : UInt32)
    (payload : Bytes) :
    Rtp.parse (rtpPacket t (payloadType k) marker ts payload) =
      some { first := 0x80, marker := marker, payloadType := (payloadType k).toNat
             seq := t.seq.toNat, timestamp := ts.toNat, ssrc := t.ssrc.toNat
             payload := payload } := by
  have hbyte : ∀ (k : TrackId) (marker : Bool),
      decide (128 ≤ ((if marker then 0x80 else 0) ||| payloadType k).toNat) = marker ∧
        ((if marker then 0x80 else 0) ||| payloadType k).toNat % 128 = (payloadType k).toNat := by
    intro k marker
    cases k <;> cases marker <;> decide
  obtain ⟨hmarker, htype⟩ := hbyte k marker
  simp only [rtpPacket, Rtp.parse, Rtp.beNat_u16, Rtp.beNat_u32]
  rw [hmarker, htype]

theorem rtcpSsrc_byePacket (t : RtspTrack) : Rtp.rtcpSsrc (byePacket t) = t.ssrc.toNat :=
  Rtp.beNat_u32 t.ssrc

/-! ## Packets in sequence -/

/-- The packets are RTP packets of track `k` and of one source, numbered from
`start` on without a gap. -/
def InSequence (k : TrackId) (ssrc start : Nat) (packets : List Bytes) : Prop :=
  ∀ j p, packets[j]? = some p → ∃ q, Rtp.parse p = some q ∧ q.first = 0x80 ∧
    q.payloadType = (payloadType k).toNat ∧ q.seq = (start + j) % 65536 ∧ q.ssrc = ssrc

theorem InSequence.nil {k : TrackId} {ssrc start : Nat} : InSequence k ssrc start [] := by
  intro j p hp
  cases hp

theorem InSequence.append {k : TrackId} {ssrc start : Nat} {a b : List Bytes}
    (ha : InSequence k ssrc start a) (hb : InSequence k ssrc (start + a.length) b) :
    InSequence k ssrc start (a ++ b) := by
  intro j p hp
  by_cases hj : j < a.length
  · rw [List.getElem?_append_left hj] at hp
    exact ha j p hp
  · have hle : a.length ≤ j := by omega
    rw [List.getElem?_append_right hle] at hp
    have hsum : start + a.length + (j - a.length) = start + j := by omega
    have h := hb (j - a.length) p hp
    rw [hsum] at h
    exact h

/-- What one call of a sender does to the numbering. -/
theorem SentOn.inSequence {k : TrackId} {good : Bytes → Prop} {t t' : RtspTrack}
    {outs : List Out} (h : SentOn k good t outs t') {start : Nat}
    (hstart : t.seq.toNat = start % 65536) :
    InSequence k t.ssrc.toNat start (outs.filterMap (Out.rtp? k)) ∧
      t'.seq.toNat = (start + (outs.filterMap (Out.rtp? k)).length) % 65536 := by
  induction h generalizing start with
  | nil => exact ⟨.nil, hstart⟩
  | @cons t t' outs marker ts payload answers hgood hrest ih =>
      have hnext : (t.seq + 1).toNat = (start + 1) % 65536 := by
        rw [UInt16.toNat_add, hstart]
        show (start % 65536 + 1) % 65536 = (start + 1) % 65536
        omega
      obtain ⟨hseq, hlast⟩ := ih hnext
      have hout : (rtpSend k t (payloadType k) marker ts payload answers).2.rtp? k =
          some (rtpPacket t (payloadType k) marker ts payload) := if_pos rfl
      have hfirst : InSequence k t.ssrc.toNat start
          [rtpPacket t (payloadType k) marker ts payload] := by
        intro j p hp
        cases j with
        | zero =>
            cases hp
            exact ⟨_, parse_rtpPacket k t marker ts payload, rfl, rfl, hstart, rfl⟩
        | succ j => cases hp
      rw [List.filterMap_cons, hout]
      refine ⟨hfirst.append hseq, ?_⟩
      rw [hlast, List.length_cons]
      congr 1
      omega

/-- Sending changes nothing of a track but its sequence number. -/
theorem SentOn.track {k : TrackId} {good : Bytes → Prop} {t t' : RtspTrack} {outs : List Out}
    (h : SentOn k good t outs t') : ∃ seq, t' = { t with seq := seq } := by
  induction h with
  | nil => exact ⟨_, rfl⟩
  | cons _ _ _ _ _ _ ih =>
      obtain ⟨seq, hseq⟩ := ih
      exact ⟨seq, hseq⟩

/-- What an observer of other things does not see of a sender. -/
theorem SentOn.filterMap_eq_nil {α : Type} {f : Out → Option α} {k : TrackId}
    {good : Bytes → Prop} {t t' : RtspTrack} {outs : List Out} (h : SentOn k good t outs t')
    (hf : ∀ data via, f (.packet k false data via) = none) : outs.filterMap f = [] := by
  induction h with
  | nil => rfl
  | cons marker ts payload answers _ _ ih =>
      rw [List.filterMap_cons,
        show f (rtpSend k _ _ marker ts payload answers).2 = none from hf _ _]
      exact ih

/-- A sender does not send on the other track. -/
theorem SentOn.other {j k : TrackId} {good : Bytes → Prop} {t t' : RtspTrack} {outs : List Out}
    (h : SentOn k good t outs t') (hjk : j ≠ k) : outs.filterMap (Out.rtp? j) = [] :=
  h.filterMap_eq_nil fun _ _ => if_neg hjk.symm

/-! ## The packets of a move -/

theorem RepliesOnly.rtp {outs : List Out} (h : RepliesOnly outs) (k : TrackId) :
    outs.filterMap (Out.rtp? k) = [] := h.filterMap_eq_nil fun _ _ _ => rfl

theorem SocketsOnly.rtp {outs : List Out} (h : SocketsOnly outs) (k : TrackId) :
    outs.filterMap (Out.rtp? k) = [] := h.filterMap_eq_nil fun _ => ⟨rfl, rfl⟩

theorem SocketsOnly.rtcp {outs : List Out} (h : SocketsOnly outs) (k : TrackId) :
    outs.filterMap (Out.rtcp? k) = [] := h.filterMap_eq_nil fun _ => ⟨rfl, rfl⟩

theorem RepliesOnly.rtcp {outs : List Out} (h : RepliesOnly outs) (k : TrackId) :
    outs.filterMap (Out.rtcp? k) = [] := h.filterMap_eq_nil fun _ _ _ => rfl

theorem SentOn.rtcp {j k : TrackId} {good : Bytes → Prop} {t t' : RtspTrack} {outs : List Out}
    (h : SentOn k good t outs t') : outs.filterMap (Out.rtcp? j) = [] :=
  h.filterMap_eq_nil fun _ _ => rfl

/-- A TEARDOWN sends a BYE on each active track. -/
theorem byes_rtcp (c : RtspClient) (io : RequestIo) (k : TrackId) :
    (byes c io).filterMap (Out.rtcp? k) =
      if (c.tracks k).active then [byePacket (c.tracks k)] else [] := by
  have hone : ∀ j, (if (c.tracks j).active then [sendBye j (c.tracks j) (io.bye j)] else
      []).filterMap (Out.rtcp? k) =
      if j = k ∧ (c.tracks j).active then [byePacket (c.tracks j)] else [] := by
    intro j
    by_cases hactive : (c.tracks j).active = true
    · by_cases hjk : j = k
      · subst hjk
        simp [sendBye, Out.rtcp?, hactive]
      · simp [sendBye, Out.rtcp?, hactive, hjk]
    · simp [hactive]
  simp only [byes, trackIds, List.flatMap_cons, List.flatMap_nil, List.filterMap_append, hone,
    List.append_nil]
  cases k <;> simp

/-- What a TEARDOWN answered 200 sends holds no RTP packet. -/
theorem teardownOk_rtp (c : RtspClient) (io : RequestIo) (cseq : Bytes) (k : TrackId) :
    (teardownOk c io cseq).outs.filterMap (Out.rtp? k) = [] := by
  have hbyes : (byes c io).filterMap (Out.rtp? k) = [] :=
    byes_filterMap_eq_nil (fun _ _ _ => rfl) c io
  show List.filterMap _ (byes c io ++ _ :: (sessionReset c).2) = []
  rw [List.filterMap_append, hbyes, List.filterMap_cons, (sessionReset_socketsOnly c).rtp]
  rfl

/-- What a move that does not close or set up the track does to its numbering. -/
theorem SessionTurn.inSequence {m : Move} (h : SessionTurn m) {k : TrackId}
    (hsetup : m.kind ≠ .setup k) (hfailed : m.kind ≠ .setupFailed k)
    (hend : m.kind.endsSession = false) {start : Nat}
    (hstart : (m.pre.tracks k).seq.toNat = start % 65536) :
    InSequence k (m.pre.tracks k).ssrc.toNat start (m.rtp k) ∧
      (m.post.tracks k).seq.toNat = (start + (m.rtp k).length) % 65536 ∧
      ∃ seq, m.post.tracks k = { m.pre.tracks k with seq := seq } := by
  have hsilent : m.rtp k = [] → m.post.tracks k = m.pre.tracks k →
      InSequence k (m.pre.tracks k).ssrc.toNat start (m.rtp k) ∧
        (m.post.tracks k).seq.toNat = (start + (m.rtp k).length) % 65536 ∧
        ∃ seq, m.post.tracks k = { m.pre.tracks k with seq := seq } := by
    intro hrtp htrack
    rw [hrtp, htrack]
    exact ⟨.nil, hstart, _, rfl⟩
  cases h with
  | accept _ _ hk | ended hk | teardown _ hk =>
      rw [hk] at hend
      cases hend
  | quiet _ hsame _ houts => exact hsilent (houts.rtp k) (congrFun hsame.tracks k)
  | setup _ j t hk _ _ _ _ _ _ _ _ hsame _ houts =>
      obtain ⟨sockets, cseq, lines, head, hsockets, houts, -⟩ := houts
      have hjk : k ≠ j := fun h => hsetup (h ▸ hk)
      refine hsilent ?_ ((congrFun hsame.tracks k).trans (m.pre.setTrack_tracks_ne t hjk))
      rw [Move.rtp, houts, List.filterMap_append, hsockets.rtp]
      rfl
  | setupFailed j t hk _ _ hsame houts =>
      obtain ⟨sockets, replies, hsockets, hreplies, houts⟩ := houts
      have hjk : k ≠ j := fun h => hfailed (h ▸ hk)
      refine hsilent ?_ ((congrFun hsame.tracks k).trans (m.pre.setTrack_tracks_ne t hjk))
      rw [Move.rtp, houts, List.filterMap_append, hsockets.rtp, hreplies.rtp]
      rfl
  | play _ _ _ _ hsame houts =>
      obtain ⟨r, head, houts⟩ := houts
      refine hsilent ?_ (congrFun hsame.tracks k)
      rcases houts with houts | houts <;> rw [Move.rtp, houts] <;> rfl
  | metadata io _ _ _ _ _ _ hsame houts =>
      have hsent := sendMetadata_sentOn m.srv io (m.pre.tracks .metadata)
      by_cases hk : k = .metadata
      · subst hk
        have htrack : m.post.tracks .metadata = _ :=
          (congrFun hsame.tracks .metadata).trans (m.pre.setTrack_tracks_self _ _)
        obtain ⟨hseq, hlast⟩ := hsent.inSequence hstart
        rw [Move.rtp, houts, htrack]
        exact ⟨hseq, hlast, hsent.track⟩
      · refine hsilent ?_ ((congrFun hsame.tracks k).trans (m.pre.setTrack_tracks_ne _ hk))
        rw [Move.rtp, houts]
        exact hsent.other hk
  | push p ts answers _ _ _ _ _ _ _ _ _ _ hsame houts =>
      obtain ⟨packets, hpackets, hsent⟩ :=
        sendVideoNal_sentOn (m.pre.tracks .video) p.nal ts p.last answers
      have hrtp : m.rtp k = packets.filterMap (Out.rtp? k) := by
        rw [Move.rtp, houts, hpackets]
        rfl
      by_cases hk : k = .video
      · subst hk
        have htrack : m.post.tracks .video =
            (sendVideoNal (m.pre.tracks .video) p.nal ts p.last answers).1 := by
          rw [hsame.tracks]
          exact m.pre.setTrack_tracks_self .video _
        obtain ⟨hseq, hlast⟩ := hsent.inSequence hstart
        rw [hrtp, htrack]
        exact ⟨hseq, hlast, hsent.track⟩
      · refine hsilent ?_ ((congrFun hsame.tracks k).trans (m.pre.setTrack_tracks_ne _ hk))
        rw [hrtp]
        exact hsent.other hk

theorem SessionTurn.bye {m : Move} (h : SessionTurn m) (hkind : m.kind = .teardown)
    (k : TrackId) : m.rtcp k =
      if (m.pre.tracks k).active then [byePacket (m.pre.tracks k)] else [] := by
  obtain ⟨io, -, houts⟩ := h.teardown_inv hkind
  unfold Move.rtcp
  rw [houts]
  show List.filterMap _ (byes m.pre io ++ _ :: (sessionReset m.pre).2) = _
  rw [List.filterMap_append, byes_rtcp, List.filterMap_cons,
    (sessionReset_socketsOnly m.pre).rtcp]
  exact List.append_nil _

theorem SessionTurn.setup_track {m : Move} (h : SessionTurn m) {k : TrackId}
    (hkind : m.kind = .setup k) :
    (m.post.tracks k).active = true ∧ (m.post.tracks k).seq = 0 := by
  obtain ⟨_, t, -, -, -, hactive, hseq, hsame, -⟩ := h.setup_inv hkind
  have htrack : m.post.tracks k = t := by
    rw [hsame.tracks]
    exact m.pre.setTrack_tracks_self k t
  rw [htrack]
  exact ⟨hactive, hseq⟩

/-! ## Runs -/

/-- What holds of a track while it is set up. -/
structure TrackInSequence (k : TrackId) (m₀ : Move) (w : List Move) (c : RtspClient) : Prop where
  active : (c.tracks k).active = true
  ssrc : (c.tracks k).ssrc = (m₀.post.tracks k).ssrc
  seq : (c.tracks k).seq.toNat = (w.flatMap (Move.rtp k)).length % 65536
  packets : InSequence k (m₀.post.tracks k).ssrc.toNat 0 (w.flatMap (Move.rtp k))

theorem TrackInSequence.step {k : TrackId} {m₀ m : Move} {w : List Move}
    (h : TrackInSequence k m₀ w m.pre) (hm : SessionTurn m) (hsetup : m.kind ≠ .setup k)
    (hfailed : m.kind ≠ .setupFailed k) (hend : m.kind.endsSession = false) :
    TrackInSequence k m₀ (w ++ [m]) m.post := by
  obtain ⟨hpackets, hlast, seq, htrack⟩ := hm.inSequence hsetup hfailed hend h.seq
  have hall : (w ++ [m]).flatMap (Move.rtp k) = w.flatMap (Move.rtp k) ++ m.rtp k := by
    rw [List.flatMap_append, List.flatMap_singleton]
  refine ⟨?_, ?_, ?_, ?_⟩
  · rw [htrack]
    exact h.active
  · rw [htrack]
    exact h.ssrc
  · rw [hlast, hall, List.length_append]
  · rw [h.ssrc] at hpackets
    rw [hall]
    refine h.packets.append ?_
    rw [Nat.zero_add]
    exact hpackets

theorem track_inSequence {k : TrackId} {l w : List Move} {m₀ : Move} {c : RtspClient}
    (hl : Turns clientInit l c) (h : trackWindow k l = some (m₀, w)) :
    TrackInSequence k m₀ w c := by
  refine hl.window_induction h ?_ ?_
  · intro m hm hkind
    obtain ⟨hactive, hseq⟩ := hm.session.setup_track (beq_iff_eq.mp hkind)
    refine ⟨hactive, rfl, ?_, .nil⟩
    rw [hseq]
    rfl
  · intro m₀ w m hw hm hopen hclose
    simp only [beq_eq_false_iff_ne, Bool.or_eq_false_iff] at hopen hclose
    exact hw.step hm.session hopen hclose.1 hclose.2

/-- From a SETUP of a track to its closing, the track's RTP packets are numbered
0, 1, 2 and so on, from one source, and the BYE of the TEARDOWN names it. -/
theorem track_packets_inSequence (io : InitIo) (evs : List Event) (i : Slot) (n : Nat)
    (k : TrackId) {m₀ : Move} {w : List Move}
    (h : trackWindow k (historyAt io evs i n) = some (m₀, w)) :
    InSequence k (m₀.post.tracks k).ssrc.toNat 0 (w.flatMap (Move.rtp k)) ∧
      ∀ hn : n < (history io evs i).length, (history io evs i)[n].kind = .teardown →
        ∃ bye, (history io evs i)[n].rtcp k = [bye] ∧ Rtp.isBye bye = true ∧
          Rtp.rtcpSsrc bye = (m₀.post.tracks k).ssrc.toNat := by
  refine ⟨(track_inSequence (historyAt_turns io evs i n) h).packets, ?_⟩
  intro hn hkind
  obtain ⟨hturns, hturn⟩ := history_turn io evs i n hn
  have htrack := track_inSequence hturns h
  refine ⟨_, (hturn.session.bye hkind k).trans (if_pos htrack.active), rfl, ?_⟩
  rw [rtcpSsrc_byePacket, htrack.ssrc]

theorem track_packets_inSequence_sample : ∃ m₀ w,
    trackWindow .video (historyAt sampleInit sampleRun 0 10) = some (m₀, w) ∧
      (w.flatMap (Move.rtp .video)).length = 2 ∧
      InSequence .video (m₀.post.tracks .video).ssrc.toNat 0 (w.flatMap (Move.rtp .video)) := by
  have hrun : (trackWindow .video (historyAt sampleInit sampleRun 0 10)).any
      (fun v => (v.2.flatMap (Move.rtp .video)).length == 2) = true := by decide +kernel
  obtain ⟨⟨m₀, w⟩, h, hlength⟩ := (Option.any_eq_true _ _).mp hrun
  exact ⟨m₀, w, h, beq_iff_eq.mp hlength,
    (track_packets_inSequence sampleInit sampleRun 0 10 .video h).1⟩

end Rtsp
end FH8852
