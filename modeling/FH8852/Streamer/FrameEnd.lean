import FH8852.Rtsp.Isolation
import FH8852.Rtsp.Packetise
import FH8852.Streamer.GetStream

/-!
# The end of a frame

The marker bit is computed from the number of the entry, before the entry is
read: where the last entry that counts is skipped, on either side of
`rtsp_server_push_nal`, a frame goes out without an end.
-/

namespace FH8852
namespace Streamer

open CLib Rtsp

/-- A NAL that `rtsp_server_push_nal` does not skip. -/
def Sendable (nal : Bytes) : Prop := nal ≠ [] ∧ nalType nal ≠ nalSei

/-- The client takes the NALs of the stream at once. -/
structure Receives (c : RtspClient) (stream : Int) : Prop where
  isOpen : 0 ≤ c.tcpFd
  playing : c.playing = true
  streamId : (c.streamId : Int) = stream
  active : (c.tracks .video).active = true
  notWaiting : c.waitingForSps = false
  inRange : stream < rtspStreamCount

/-- The RTP packets of the video track that the moves send, as they are read. -/
def videoPackets (l : List Move) : List Rtp.Packet :=
  (l.flatMap fun m => m.rtp .video).filterMap Rtp.parse

theorem videoPackets_append (l l' : List Move) :
    videoPackets (l ++ l') = videoPackets l ++ videoPackets l' := by
  rw [videoPackets, List.flatMap_append, List.filterMap_append]
  rfl

theorem filterMap_of_map_eq_some {α β : Type*} {f : α → Option β} {l : List α} {l' : List β}
    (h : l.map f = l'.map some) : l.filterMap f = l' := by
  have hid := congrArg (List.filterMap id) h
  rwa [List.filterMap_map, List.filterMap_map, Function.id_comp, Function.id_comp,
    List.filterMap_some] at hid

/-! ## One push -/

section Push

variable {conf : RtspConf} {c : RtspClient} {p : Push} {answers : Slot → Nat → List SendResult}
  {i : Slot}

theorem videoPackets_skip (conf : RtspConf) (p : Push) (c : RtspClient) :
    (skipPush conf p c).1 = c ∧ videoPackets (skipPush conf p c).2 = [] := ⟨rfl, rfl⟩

theorem Receives.pushed (h : Receives c p.streamId) (ts : UInt32)
    (answers : Nat → List SendResult) :
    Receives { c.setTrack .video (sendVideoNal (c.tracks .video) p.nal ts p.last answers).1 with
      waitingForSps := false } p.streamId := by
  obtain ⟨outs, -, hsent⟩ := sendVideoNal_sentOn (c.tracks .video) p.nal ts p.last answers
  obtain ⟨seq, hseq⟩ := hsent.track
  refine { h with notWaiting := rfl, active := ?_ }
  show ((c.setTrack .video _).tracks .video).active = true
  rw [RtspClient.setTrack_tracks_self, hseq]
  exact h.active

/-- A push to a client that receives its stream. -/
theorem push_receives (h : Receives c p.streamId) (hnal : Sendable p.nal) :
    Receives ((Event.pushNal p answers).client conf i c).1 p.streamId ∧
      ∃ n, (videoPackets ((Event.pushNal p answers).client conf i c).2).map Rtp.Packet.marker =
        List.replicate n false ++ [p.last] := by
  have hguard : ¬ (p.streamId < 0 ∨ (rtspStreamCount : Int) ≤ p.streamId ∨ p.nal.isEmpty) := by
    have hrange := h.inRange
    have hstream := h.streamId
    rw [List.isEmpty_iff]
    rintro (hneg | hhigh | hempty)
    · omega
    · omega
    · exact hnal.1 hempty
  have hplays : ¬ (c.tcpFd < 0 ∨ !c.playing ∨ (c.streamId : Int) ≠ p.streamId ∨
      !(c.tracks .video).active) := by
    have hopen := h.isOpen
    rw [h.playing, h.active]
    rintro (hclosed | hstopped | hother | hinactive)
    · omega
    · cases hstopped
    · exact hother h.streamId
    · cases hinactive
  have hwaits : ¬ (c.waitingForSps ∧ nalType p.nal ≠ nalSps) := by
    rw [h.notWaiting]
    exact fun hw => Bool.false_ne_true hw.1
  simp only [Event.client, if_neg hguard, if_neg hnal.2, pushClient, if_neg hplays, if_neg hwaits]
  refine ⟨h.pushed _ _, ?_⟩
  obtain ⟨packets, hburst, -⟩ := sendVideoNal_burst (c.tracks .video) p.nal
    (rtpTimestamp p.ptsUs ((cacheParamSet conf p.streamId.toNat p.nal).videoTsBase
      p.streamId.toNat)) p.last (answers i)
  refine ⟨packets.length - 1, ?_⟩
  rw [← hburst.marker]
  apply congrArg (List.map Rtp.Packet.marker)
  rw [videoPackets, List.flatMap_singleton]
  exact filterMap_of_map_eq_some hburst.parses

/-- A push that the client is not sent. -/
theorem push_skipped (h : ¬ (Receives c p.streamId ∧ Sendable p.nal))
    (hsps : c.waitingForSps = false) (hplaying : c.playing = true)
    (hstream : (c.streamId : Int) = p.streamId) :
    ((Event.pushNal p answers).client conf i c).1 = c ∧
      videoPackets ((Event.pushNal p answers).client conf i c).2 = [] := by
  simp only [Event.client]
  by_cases hguard : p.streamId < 0 ∨ (rtspStreamCount : Int) ≤ p.streamId ∨ p.nal.isEmpty
  · rw [if_pos hguard]
    exact videoPackets_skip conf p c
  rw [if_neg hguard]
  by_cases hsei : nalType p.nal = nalSei
  · rw [if_pos hsei]
    exact videoPackets_skip _ p c
  rw [if_neg hsei, pushClient]
  by_cases hplays : c.tcpFd < 0 ∨ !c.playing ∨ (c.streamId : Int) ≠ p.streamId ∨
      !(c.tracks .video).active
  · rw [if_pos hplays]
    exact videoPackets_skip _ p c
  -- a client that passes every check receives the stream
  simp only [not_or, Bool.not_eq_true', Bool.not_eq_false, not_lt, not_le, not_not,
    List.isEmpty_iff] at hguard hplays
  exact absurd ⟨⟨hplays.1, hplaying, hstream, hplays.2.2.2, hsps, hguard.2.1⟩,
    hguard.2.2, hsei⟩ h

end Push

/-! ## The rounds -/

/-- Entry `j` brings a NAL to the clients. -/
def Carries (io : StreamIo) (st : Nat → UInt32) (j : Nat) : Prop :=
  ∃ bytes, entryBytes io st j = some bytes ∧ Sendable (stripStartCode bytes)

def frameStream (st : Nat → UInt32) : Int := (chan st).toInt32.toInt

section Rounds

variable {io : StreamIo} {st : Nat → UInt32} {i : Slot} {srv : RtspServer}

/-- The server after the rounds, and the packets they send to a slot. -/
def afterRounds (io : StreamIo) (st : Nat → UInt32) (srv : RtspServer) (rounds : List Nat) :
    RtspServer := (run srv (rounds.filterMap (roundEvent io st))).1

def roundPackets (io : StreamIo) (st : Nat → UInt32) (i : Slot) (srv : RtspServer)
    (rounds : List Nat) : List Rtp.Packet :=
  videoPackets (slotLog i (run srv (rounds.filterMap (roundEvent io st))).2)

theorem afterRounds_append (srv : RtspServer) (a b : List Nat) :
    afterRounds io st srv (a ++ b) = afterRounds io st (afterRounds io st srv a) b := by
  rw [afterRounds, List.filterMap_append, run_append]
  rfl

theorem roundPackets_append (srv : RtspServer) (a b : List Nat) :
    roundPackets io st i srv (a ++ b) =
      roundPackets io st i srv a ++ roundPackets io st i (afterRounds io st srv a) b := by
  rw [roundPackets, List.filterMap_append, run_append]
  show videoPackets (slotLog i (_ ++ _)) = _
  rw [slotLog_append, videoPackets_append]
  rfl

/-- A round that reads its entry is a call of `rtsp_server_push_nal`. -/
theorem round_push (srv : RtspServer) (i : Slot) {j : Nat} {bytes : Bytes}
    (h : entryBytes io st j = some bytes) : (afterRounds io st srv [j]).clients i =
        ((Event.pushNal (pushOf st j bytes) (io.answers j)).client srv.toRtspConf i
          (srv.clients i)).1 ∧
      roundPackets io st i srv [j] =
        videoPackets ((Event.pushNal (pushOf st j bytes) (io.answers j)).client srv.toRtspConf i
          (srv.clients i)).2 := by
  have hevent : [j].filterMap (roundEvent io st) =
      [.pushNal (pushOf st j bytes) (io.answers j)] := by
    rw [List.filterMap_cons, roundEvent, h]
    rfl
  obtain ⟨hclient, hlog⟩ := apply_slot srv (.pushNal (pushOf st j bytes) (io.answers j)) i
  rw [afterRounds, roundPackets, hevent]
  refine ⟨hclient, ?_⟩
  show videoPackets (slotLog i (_ ++ [])) = _
  rw [List.append_nil]
  exact congrArg videoPackets hlog

theorem round_receives {j : Nat} (h : Receives (srv.clients i) (frameStream st))
    (hc : Carries io st j) :
    Receives ((afterRounds io st srv [j]).clients i) (frameStream st) ∧
      ∃ n, (roundPackets io st i srv [j]).map Rtp.Packet.marker =
        List.replicate n false ++ [decide (j + 1 = naluCount st)] := by
  obtain ⟨bytes, hbytes, hnal⟩ := hc
  obtain ⟨hclient, hpackets⟩ := round_push srv i hbytes
  rw [hclient, hpackets]
  exact push_receives (p := pushOf st j bytes) h hnal

theorem round_skipped {j : Nat}
    (h : ¬ (Receives (srv.clients i) (frameStream st) ∧ Carries io st j))
    (hplaying : (srv.clients i).playing = true)
    (hstream : ((srv.clients i).streamId : Int) = frameStream st)
    (hsps : (srv.clients i).waitingForSps = false) :
    (afterRounds io st srv [j]).clients i = srv.clients i ∧ roundPackets io st i srv [j] = [] := by
  cases hentry : entryBytes io st j with
  | none =>
      have hevent : [j].filterMap (roundEvent io st) = [] := by
        rw [List.filterMap_cons, roundEvent, hentry]
        rfl
      rw [afterRounds, roundPackets, hevent]
      exact ⟨rfl, rfl⟩
  | some bytes =>
      obtain ⟨hclient, hpackets⟩ := round_push srv i hentry
      rw [hclient, hpackets]
      exact push_skipped (p := pushOf st j bytes)
        (fun hboth => h ⟨hboth.1, bytes, hentry, hboth.2⟩) hsps hplaying hstream

/-- Rounds before the last mark nothing. -/
theorem rounds_receives {rounds : List Nat} (h : Receives (srv.clients i) (frameStream st))
    (hlast : ∀ j ∈ rounds, j + 1 ≠ naluCount st) :
    Receives ((afterRounds io st srv rounds).clients i) (frameStream st) ∧
      (∀ q ∈ roundPackets io st i srv rounds, q.marker = false) ∧
      (roundPackets io st i srv rounds = [] ↔ ∀ j ∈ rounds, ¬ Carries io st j) := by
  induction rounds generalizing srv with
  | nil =>
      exact ⟨h, fun q hq => absurd hq List.not_mem_nil,
        fun _ j hj => absurd hj List.not_mem_nil, fun _ => rfl⟩
  | cons j rounds ih =>
      obtain ⟨hj, hrounds⟩ := List.forall_mem_cons.mp hlast
      have hsplit : j :: rounds = [j] ++ rounds := rfl
      rw [hsplit, afterRounds_append, roundPackets_append, ← hsplit, List.forall_mem_cons,
        List.append_eq_nil_iff, List.forall_mem_append]
      by_cases hc : Carries io st j
      · obtain ⟨hnext, n, hmarkers⟩ := round_receives h hc
        obtain ⟨hafter, hfalse, -⟩ := ih hnext hrounds
        rw [decide_eq_false hj] at hmarkers
        have hmem : ∀ q ∈ roundPackets io st i srv [j], q.marker = false := by
          intro q hq
          have hmarker := List.mem_map_of_mem (f := Rtp.Packet.marker) hq
          rw [hmarkers, List.mem_append, List.mem_replicate, List.mem_singleton] at hmarker
          rcases hmarker with hmarker | hmarker
          · exact hmarker.2
          · exact hmarker
        have hne : roundPackets io st i srv [j] ≠ [] := by
          intro hnone
          rw [hnone] at hmarkers
          exact List.append_ne_nil_of_right_ne_nil _ (List.cons_ne_nil _ _) hmarkers.symm
        exact ⟨hafter, ⟨hmem, hfalse⟩, fun hnone => absurd hnone.1 hne,
          fun hnone => absurd hc hnone.1⟩
      · obtain ⟨hsame, hnone⟩ := round_skipped (fun hboth => hc hboth.2) h.playing h.streamId
          h.notWaiting
        obtain ⟨hafter, hfalse, hempty⟩ := ih (hsame ▸ h) hrounds
        refine ⟨hafter, ⟨?_, hfalse⟩, ?_⟩
        · rw [hnone]
          exact fun q hq => absurd hq List.not_mem_nil
        · rw [hnone, hempty]
          exact ⟨fun h => ⟨hc, h.2⟩, fun h => ⟨rfl, h.2⟩⟩

/-- A client that does not receive the stream is sent nothing. -/
theorem rounds_skipped {rounds : List Nat} (h : ¬ Receives (srv.clients i) (frameStream st))
    (hplaying : (srv.clients i).playing = true)
    (hstream : ((srv.clients i).streamId : Int) = frameStream st)
    (hsps : (srv.clients i).waitingForSps = false) : roundPackets io st i srv rounds = [] := by
  induction rounds generalizing srv with
  | nil => rfl
  | cons j rounds ih =>
      obtain ⟨hsame, hnone⟩ := @round_skipped io st i srv j (fun hboth => h hboth.1) hplaying
        hstream hsps
      have hsplit : j :: rounds = [j] ++ rounds := rfl
      rw [hsplit, roundPackets_append, hnone, List.nil_append]
      apply ih <;> rwa [hsame]

end Rounds

/-! ## The frame -/

/-- The RTP packets of the video track that a frame sends to a slot. -/
def framePackets (srv : RtspServer) (io : StreamIo) (i : Slot) : List Rtp.Packet :=
  videoPackets (slotLog i (vencGetStream srv io).log)

/-- If any packet is sent, the last is marked and no other is. -/
def FrameEnds (packets : List Rtp.Packet) : Prop :=
  packets ≠ [] →
    packets.map Rtp.Packet.marker = List.replicate (packets.length - 1) false ++ [true]

theorem framePackets_eq {srv : RtspServer} {io : StreamIo} {st : Nat → UInt32}
    (hst : io.st = some st) (htype : st 1 = vencStreamH264) (i : Slot) :
    framePackets srv io i = roundPackets io st i srv (List.range (naluCount st)) := by
  rw [framePackets, vencGetStream, hst]
  simp only [ne_eq, htype, not_true_eq_false, if_false]
  rfl

theorem frameEnds_of_last {front back : List Rtp.Packet} {n : Nat}
    (hfront : ∀ q ∈ front, q.marker = false)
    (hback : back.map Rtp.Packet.marker = List.replicate n false ++ [true]) :
    FrameEnds (front ++ back) := by
  intro _
  have hlen : back.length = n + 1 := by
    have h := congrArg List.length hback
    rwa [List.length_map, List.length_append, List.length_replicate] at h
  have hmarkers : front.map Rtp.Packet.marker = List.replicate front.length false :=
    List.eq_replicate_iff.mpr ⟨List.length_map _, by
      intro b hb
      obtain ⟨q, hq, rfl⟩ := List.mem_map.mp hb
      exact hfront q hq⟩
  rw [List.map_append, hmarkers, hback, List.length_append, hlen, ← List.append_assoc,
    List.replicate_append_replicate]
  rfl

theorem frameEnds_unmarked_iff {packets : List Rtp.Packet} (h : ∀ q ∈ packets, q.marker = false) :
    FrameEnds packets ↔ packets = [] := by
  constructor
  · intro hends
    by_contra hne
    have htrue : true ∈ packets.map Rtp.Packet.marker := by
      rw [hends hne]
      exact List.mem_append_right _ (List.mem_singleton.mpr rfl)
    obtain ⟨q, hq, hmarker⟩ := List.mem_map.mp htrue
    rw [h q hq] at hmarker
    cases hmarker
  · exact fun hnone hne => absurd hnone hne

/-- A frame ends for a client that plays its channel exactly if its last counted
entry reaches the client where any entry does. -/
theorem frame_ends_iff (srv : RtspServer) (io : StreamIo) (st : Nat → UInt32) (i : Slot)
    (hst : io.st = some st) (htype : st 1 = vencStreamH264)
    (hplaying : (srv.clients i).playing = true)
    (hstream : ((srv.clients i).streamId : Int) = frameStream st)
    (hsps : (srv.clients i).waitingForSps = false) :
    FrameEnds (framePackets srv io i) ↔
      (Receives (srv.clients i) (frameStream st) → (∃ j < naluCount st, Carries io st j) →
        Carries io st (naluCount st - 1)) := by
  rw [framePackets_eq hst htype]
  by_cases h : Receives (srv.clients i) (frameStream st)
  · cases hcount : naluCount st with
    | zero =>
        refine iff_of_true (fun hne => absurd rfl hne) ?_
        rintro - ⟨j, hj, -⟩
        exact absurd hj (Nat.not_lt_zero j)
    | succ m =>
        have hbefore : ∀ j ∈ List.range m, j + 1 ≠ naluCount st := by
          intro j hj
          have := List.mem_range.mp hj
          omega
        obtain ⟨hafter, hunmarked, hempty⟩ := rounds_receives h hbefore
        rw [List.range_succ, roundPackets_append]
        by_cases hlast : Carries io st m
        · obtain ⟨-, n, hmarked⟩ := round_receives hafter hlast
          rw [decide_eq_true hcount.symm] at hmarked
          exact iff_of_true (frameEnds_of_last hunmarked hmarked) fun _ _ => hlast
        · obtain ⟨-, hnone⟩ := round_skipped (fun hboth => hlast hboth.2) hafter.playing
            hafter.streamId hafter.notWaiting
          rw [hnone, List.append_nil, frameEnds_unmarked_iff hunmarked, hempty]
          constructor
          · rintro hno - ⟨j, hj, hc⟩
            rcases Nat.lt_succ_iff_lt_or_eq.mp hj with hlt | rfl
            · exact absurd hc (hno j (List.mem_range.mpr hlt))
            · exact hc
          · intro hall j hj hc
            exact hlast (hall h ⟨j, Nat.lt_succ_of_lt (List.mem_range.mp hj), hc⟩)
  · rw [rounds_skipped h hplaying hstream hsps]
    exact iff_of_true (fun hne => absurd rfl hne) fun hreceives => absurd hreceives h

/-- A client of each slot that plays the main stream. -/
def playingServer : RtspServer :=
  { initialServer sampleInit with
    clients := fun _ => { clientInit with
      tcpFd := 5, hasSession := true, playing := true
      tracks := fun k => { clientInit.tracks k with active := true, interleaved := true } } }

/-- The words of a frame of the main stream with two entries, of five bytes and
of the given length. -/
def twoEntryWords (len : UInt32) (w : Nat) : UInt32 :=
  if w = 1 then vencStreamH264 else if w = 4 then 2 else if w = 15 then 5
  else if w = 19 then len else 0

/-- Such a frame, each entry an IDR slice with its start code. -/
def twoEntries (len : UInt32) : StreamIo :=
  { st := some (twoEntryWords len)
    mmap := fun _ => some fun j => [0, 0, 0, 1, 0x65].getD j 0
    answers := fun _ _ _ => [] }

theorem frame_ends_iff_sample :
    FrameEnds (framePackets playingServer (twoEntries 5) 0) ↔
      (Receives (playingServer.clients 0) (frameStream (twoEntryWords 5)) →
        (∃ j < naluCount (twoEntryWords 5), Carries (twoEntries 5) (twoEntryWords 5) j) →
        Carries (twoEntries 5) (twoEntryWords 5) (naluCount (twoEntryWords 5) - 1)) :=
  frame_ends_iff playingServer (twoEntries 5) (twoEntryWords 5) 0 rfl rfl rfl rfl rfl

/-- The second entry of the frame is empty: the slice goes out in one packet
without the marker. -/
theorem frame_without_end :
    ¬ ∀ (srv : RtspServer) (io : StreamIo) (st : Nat → UInt32) (i : Slot), io.st = some st →
      st 1 = vencStreamH264 → (srv.clients i).playing = true →
      ((srv.clients i).streamId : Int) = frameStream st → (srv.clients i).waitingForSps = false →
      FrameEnds (framePackets srv io i) := by
  intro h
  have hends := h playingServer (twoEntries 0) (twoEntryWords 0) 0 rfl rfl rfl rfl rfl
  have hmarkers : (framePackets playingServer (twoEntries 0) 0).map Rtp.Packet.marker =
      [false] := by decide +kernel
  have hne : framePackets playingServer (twoEntries 0) 0 ≠ [] := by
    intro hnone
    rw [hnone] at hmarkers
    cases hmarkers
  have hlen : (framePackets playingServer (twoEntries 0) 0).length = 1 := by
    have := congrArg List.length hmarkers
    rwa [List.length_map] at this
  have hmarked := hends hne
  rw [hmarkers, hlen] at hmarked
  cases hmarked

end Streamer
end FH8852
