import FH8852.Lib.Pace
import FH8852.Rtsp.Packets
import Mathlib.Data.List.Chain

/-!
# The metadata track

A client that plays the metadata track is sent a packet by the poll that finds
its deadline `next_metadata_us` reached, and the deadline moves on a second.
PLAY sets the deadline, and it stands still while the track is closed.
-/

namespace FH8852
namespace Rtsp

open CLib History Pace

/-! ## Time -/

def Event.pollTime? : Event → Option UInt64
  | .poll io => some io.nowUs
  | _ => none

def pollTimes (evs : List Event) : List UInt64 := evs.filterMap Event.pollTime?

/-- What happens to slot `i` in a run, each move with the time of the poll it
belongs to, or of the last one before it. -/
def timedLog (i : Slot) : RtspServer → UInt64 → List Event → List (UInt64 × Move)
  | _, _, [] => []
  | srv, now, e :: rest =>
    let applied := e.apply srv
    let now := e.pollTime?.getD now
    (slotLog i applied.2).map (fun m => (now, m)) ++ timedLog i applied.1 now rest

def timedHistory (io : InitIo) (evs : List Event) (i : Slot) : List (UInt64 × Move) :=
  timedLog i (initialServer io) 0 evs

theorem timedLog_map_snd (i : Slot) (srv : RtspServer) (now : UInt64) (evs : List Event) :
    (timedLog i srv now evs).map Prod.snd = slotLog i (run srv evs).2 := by
  induction evs generalizing srv now with
  | nil => rfl
  | cons e evs ih =>
      have hmoves : ((slotLog i (e.apply srv).2).map
          fun m => (e.pollTime?.getD now, m)).map Prod.snd = slotLog i (e.apply srv).2 := by
        rw [List.map_map]
        exact List.map_id _
      rw [timedLog, List.map_append, hmoves, ih, run, slotLog_append]

/-- The times of two polls are at most 100 ms apart. -/
def Close (p q : UInt64) : Prop := p ≤ q ∧ q.toNat ≤ p.toNat + 100000

instance (p q : UInt64) : Decidable (Close p q) := inferInstanceAs (Decidable (_ ∧ _))

/-- Consecutive polls are at most 100 ms apart, by a clock that does not run
back while a poll handles its requests and does not come near its end. -/
structure Timely (evs : List Event) : Prop where
  close : (pollTimes evs).IsChain Close
  requests : ∀ e ∈ evs, ∀ io, e = .poll io → ∀ i n, io.nowUs ≤ ((io.client i).request n).nowUs
  range : ∀ now ∈ pollTimes evs, now.toNat < 2 ^ 63

/-! ## The rate -/

/-- The times at which metadata packets are sent. -/
def metadataTimes (l : List (UInt64 × Move)) : List Nat :=
  l.flatMap fun x => (x.2.rtp .metadata).map fun _ => x.1.toNat

/-- The clock reading of a PLAY that passes every check. -/
def Move.plays (m : Move) : Option UInt64 :=
  match m.act with
  | .request io req _ =>
    if (authError m.srv m.pre io req).isNone && requestMethod req == ascii "PLAY" &&
        (sessionError m.pre req).isNone then some io.nowUs
    else none
  | _ => none

/-- A PLAY finds the deadline reached, and a SETUP that opens the metadata track
of a playing client finds it less than two seconds past. -/
def KeepsPace (now : UInt64) (m : Move) : Prop :=
  (∀ us ∈ m.plays, m.pre.nextMetadataUs ≤ us) ∧
    (m.grants = some .metadata → m.pre.playing = true →
      now.toNat < m.pre.nextMetadataUs.toNat + 2 * metadataIntervalUs.toNat)

-- Named, because a search may decide the first part over all the numbers there are.
instance (now : UInt64) (m : Move) : Decidable (KeepsPace now m) :=
  @instDecidableAnd _ _ (Option.decidableForallMem m.plays) inferInstance

/-! ## What a move does to the deadline -/

def Act.sendsMetadata : Act → Bool
  | .metadata _ => true
  | _ => false

/-- The client plays the metadata track. -/
def playsMetadata (c : RtspClient) : Bool := c.playing && (c.tracks .metadata).active

inductive DeadlineTurn (m : Move) : Prop
  | accept (hkind : m.kind = .accept) (hidle : playsMetadata m.post = false)
  | ended (hpost : m.post.tcpFd < 0)
  | sent (hact : m.act.sendsMetadata = true)
      (hnext : m.post.nextMetadataUs = m.pre.nextMetadataUs + metadataIntervalUs)
  | play (us : UInt64) (hact : m.act.sendsMetadata = false) (hus : m.plays = some us)
      (hfd : m.post.tcpFd = m.pre.tcpFd) (hnext : m.post.nextMetadataUs = us)
  | setup (hact : m.act.sendsMetadata = false) (hgrants : m.grants = some .metadata)
      (hfd : m.post.tcpFd = m.pre.tcpFd)
      (hnext : m.post.nextMetadataUs = m.pre.nextMetadataUs)
      (hplaying : m.post.playing = m.pre.playing)
  | quiet (hact : m.act.sendsMetadata = false) (hfd : m.post.tcpFd = m.pre.tcpFd)
      (hnext : m.post.nextMetadataUs = m.pre.nextMetadataUs)
      (hplays : playsMetadata m.post = true → playsMetadata m.pre = true)

theorem setupTrack_deadline (c : RtspClient) (io : RequestIo) (k : TrackId) (t : RtspTrack)
    (s : Nat) (cseq transport : Bytes) (outs : List Out) :
    (setupTrack c io k t s cseq transport outs).client.nextMetadataUs = c.nextMetadataUs ∧
      (setupTrack c io k t s cseq transport outs).client.playing = c.playing := by
  unfold setupTrack
  dsimp only
  split <;> exact ⟨rfl, rfl⟩

theorem playsMetadata_congr {c c' : RtspClient} (hplaying : c'.playing = c.playing)
    (htrack : c'.tracks .metadata = c.tracks .metadata) : playsMetadata c' = playsMetadata c := by
  unfold playsMetadata
  rw [hplaying, htrack]

/-- The deadline, and what decides whether it matters, are the same. -/
structure SameDeadline (c c' : RtspClient) : Prop where
  tcpFd : c'.tcpFd = c.tcpFd
  nextMetadataUs : c'.nextMetadataUs = c.nextMetadataUs
  playing : c'.playing = c.playing
  tracks : c'.tracks = c.tracks

theorem SameDeadline.plays {c c' : RtspClient} (h : SameDeadline c c') :
    playsMetadata c' = playsMetadata c := playsMetadata_congr h.playing (congrFun h.tracks _)

section

variable {srv : RtspConf} {c : RtspClient} {io : RequestIo} {req : Bytes} {t : RtspTrack}
  {transport : Bytes} {outs : List Out}

theorem requestMove_deadline_of_same (h : SameDeadline c (requestMove srv c io req).post) :
    DeadlineTurn (requestMove srv c io req) :=
  .quiet rfl h.tcpFd h.nextMetadataUs fun hplays => h.plays.symm.trans hplays

/-- A SETUP opens a track; only the metadata track counts. -/
theorem setup_deadline (hadmits : admitsSetup srv c io req = true)
    (hports : (asksUdp req && lacksPorts io) = false)
    (h : SameDeadline (setupTrack c io (trackOf (requestUri req)) t (streamOf (requestUri req))
      (requestCseq req) transport outs).client (requestMove srv c io req).post)
    (hfd : (requestMove srv c io req).post.tcpFd = c.tcpFd) :
    DeadlineTurn (requestMove srv c io req) := by
  obtain ⟨hnext, hplaying⟩ := setupTrack_deadline c io (trackOf (requestUri req)) t
    (streamOf (requestUri req)) (requestCseq req) transport outs
  have hnext' := h.nextMetadataUs.trans hnext
  have hplaying' := h.playing.trans hplaying
  by_cases hk : trackOf (requestUri req) = .metadata
  · have hgrants : (requestMove srv c io req).grants = some (trackOf (requestUri req)) := by
      show (if _ then _ else _ : Option TrackId) = _
      rw [if_pos]
      show (admitsSetup srv c io req && !(asksUdp req && lacksPorts io)) = true
      rw [hadmits, hports]
      rfl
    exact .setup rfl (hgrants.trans (congrArg some hk)) hfd hnext' hplaying'
  · refine .quiet rfl hfd hnext' fun hplays => ?_
    have hsame := (setupTrack_session c io (trackOf (requestUri req)) t
      (streamOf (requestUri req)) (requestCseq req) transport outs).1.tracks
    have htrack := congrFun (h.tracks.trans hsame) .metadata
    rwa [playsMetadata_congr hplaying' (htrack.trans (c.setTrack_tracks_ne _ (Ne.symm hk)))]
      at hplays

/-- A SETUP without sockets closes its track. -/
theorem setupFailed_deadline
    (h : SameDeadline (c.setTrack (trackOf (requestUri req))
      (bindUdpPair io.attempt closedTrack).2.1) (requestMove srv c io req).post) :
    DeadlineTurn (requestMove srv c io req) := by
  refine .quiet rfl h.tcpFd h.nextMetadataUs fun hplays => ?_
  by_cases hk : trackOf (requestUri req) = .metadata
  · have hinactive : ((requestMove srv c io req).post.tracks .metadata).active = false := by
      rw [h.tracks, hk, RtspClient.setTrack_tracks_self]
      exact bindUdpPair_active _ _
    rw [playsMetadata, hinactive, Bool.and_false] at hplays
    cases hplays
  · have htrack := congrFun h.tracks .metadata
    rwa [playsMetadata_congr (c := c) h.playing
      (htrack.trans (c.setTrack_tracks_ne _ (Ne.symm hk)))] at hplays

end

theorem requestMove_deadline (srv : RtspConf) (c : RtspClient) (io : RequestIo) (req : Bytes) :
    DeadlineTurn (requestMove srv c io req) := by
  have heffect := handleRequest_effect srv c io req
  have hfd := heffect.sameConnection.tcpFd
  have hpost : SameDeadline (handleRequest srv c io req).client
    (requestMove srv c io req).post := by
    simp only [requestMove]
    split <;> exact ⟨rfl, rfl, rfl, rfl⟩
  generalize handleRequest srv c io req = r at heffect hfd hpost
  cases heffect with
  | refused | answered | described | waiting => exact requestMove_deadline_of_same hpost
  | setup t transport outs hadmits hports houts hway =>
      exact setup_deadline hadmits hports hpost (hpost.tcpFd.trans hfd)
  | setupFailed outs hadmits hports houts => exact setupFailed_deadline hpost
  | play hauth hmethod hsession =>
      refine .play io.nowUs rfl ?_ hpost.tcpFd hpost.nextMetadataUs
      show (if _ then _ else _ : Option UInt64) = _
      rw [if_pos]
      show ((authError srv c io req).isNone && requestMethod req == ascii "PLAY" &&
        (sessionError c req).isNone) = true
      rw [hauth, hmethod, hsession]
      exact Bool.and_eq_true_iff.mpr ⟨beq_self_eq_true _, rfl⟩
  | teardown hauth hmethod hsession =>
      refine .quiet rfl hpost.tcpFd hpost.nextMetadataUs fun hplays => ?_
      have hstopped : (requestMove srv c io req).post.playing = false := hpost.playing
      rw [playsMetadata, hstopped] at hplays
      cases hplays

theorem Turn.deadline {m : Move} (h : Turn m) : DeadlineTurn m := by
  cases h with
  | accept => exact .accept rfl rfl
  | hangup | close => exact .ended (show (-1 : Int) < 0 by decide)
  | request => exact requestMove_deadline _ _ _ _
  | recv => exact .quiet rfl rfl rfl id
  | settle =>
      have hsettle : ∀ c, (Rtsp.settle c).tcpFd = c.tcpFd ∧
          (Rtsp.settle c).nextMetadataUs = c.nextMetadataUs ∧
          playsMetadata (Rtsp.settle c) = playsMetadata c := by
        intro c
        unfold Rtsp.settle
        split <;> exact ⟨rfl, rfl, rfl⟩
      refine .quiet rfl (hsettle _).1 (hsettle _).2.1 fun hplays => ?_
      exact (hsettle _).2.2.symm.trans hplays
  | metadata _ _ hus => exact .sent rfl hus
  | skip => exact .quiet rfl rfl rfl id
  | @push srv c p ts answers =>
      refine .quiet rfl rfl rfl fun hplays => ?_
      have htrack := c.setTrack_tracks_ne
        (sendVideoNal (c.tracks .video) p.nal ts p.last answers).1
          (nofun : TrackId.metadata ≠ .video)
      exact (playsMetadata_congr (c := c) rfl htrack).symm.trans hplays

theorem Turn.sends_open {m : Move} (h : Turn m) (hact : m.act.sendsMetadata = true) :
    0 ≤ m.pre.tcpFd := by
  cases h with
  | metadata hc => exact hc
  | _ => cases hact

/-! ## The packets of a move -/

theorem SessionTurn.rtp_metadata {m : Move} (h : SessionTurn m)
    (hact : m.act.sendsMetadata = false) : m.rtp .metadata = [] := by
  unfold Move.rtp
  cases h with
  | accept _ _ _ _ _ _ houts | ended _ _ houts => exact houts.rtp .metadata
  | quiet _ _ _ houts => exact houts.rtp .metadata
  | setup io k t _ _ _ _ _ _ _ _ _ _ _ houts =>
      obtain ⟨sockets, cseq, lines, head, hsockets, houts, -⟩ := houts
      rw [houts, List.filterMap_append, hsockets.rtp]
      rfl
  | setupFailed _ _ _ _ _ _ houts =>
      obtain ⟨sockets, replies, hsockets, hreplies, houts⟩ := houts
      rw [houts, List.filterMap_append, hsockets.rtp, hreplies.rtp]
      rfl
  | play _ _ _ _ _ houts =>
      obtain ⟨r, head, houts | houts⟩ := houts <;> rw [houts] <;> rfl
  | teardown io _ _ _ _ _ houts =>
      rw [houts]
      exact teardownOk_rtp m.pre io _ .metadata
  | metadata io _ hmetadata =>
      rw [hmetadata] at hact
      cases hact
  | push p ts answers _ _ _ _ _ _ _ _ _ _ _ houts =>
      obtain ⟨packets, hpackets, hsent⟩ :=
        sendVideoNal_sentOn (m.pre.tracks .video) p.nal ts p.last answers
      rw [houts, hpackets]
      exact hsent.other nofun

/-- A call of `send_metadata` sends one packet, and nothing else sends any. -/
theorem Turn.rtp_metadata {m : Move} (h : Turn m) :
    (m.rtp .metadata).length = if m.act.sendsMetadata then 1 else 0 := by
  cases hact : m.act with
  | metadata io =>
      cases h with
      | metadata => rfl
      | _ => cases hact
  | accept | recv | hangup | request | settle | push | close =>
      have hsilent : m.rtp .metadata = [] := h.session.rtp_metadata (by rw [hact]; rfl)
      rw [hsilent]
      rfl

theorem metadataTimes_eq {l : List (UInt64 × Move)} (h : ∀ x ∈ l, Turn x.2) :
    metadataTimes l = (l.filter fun x => x.2.act.sendsMetadata).map fun x => x.1.toNat := by
  induction l with
  | nil => rfl
  | cons x l ih =>
      obtain ⟨hx, hl⟩ := List.forall_mem_cons.mp h
      have hlength := hx.rtp_metadata
      rw [metadataTimes, List.flatMap_cons, ← metadataTimes, ih hl, List.map_const', hlength,
        List.filter_cons]
      split <;> rfl

/-! ## A poll -/

/-- An open client that plays the metadata track has its deadline less than `n`
seconds past. -/
def Behind (n : Nat) (now : UInt64) (c : RtspClient) : Prop :=
  0 ≤ c.tcpFd → playsMetadata c = true →
    now.toNat < c.nextMetadataUs.toNat + n * metadataIntervalUs.toNat

/-- A packet is not early, and less than two seconds late. -/
def OnTime (now : UInt64) (m : Move) : Prop :=
  m.act.sendsMetadata = true →
    m.pre.nextMetadataUs ≤ now ∧
      now.toNat < m.pre.nextMetadataUs.toNat + 2 * metadataIntervalUs.toNat ∧ now.toNat < 2 ^ 63

variable {now : UInt64}

theorem DeadlineTurn.behind {m : Move} (h : DeadlineTurn m) (hact : m.act.sendsMetadata = false)
    (hpace : KeepsPace now m) (hclock : ∀ us ∈ m.plays, now ≤ us) (hpre : Behind 2 now m.pre) :
    Behind 2 now m.post := by
  intro hopen hplays
  have hsecond : metadataIntervalUs.toNat = 1000000 := by decide
  cases h with
  | accept _ hidle =>
      rw [hidle] at hplays
      cases hplays
  | ended hpost => omega
  | sent hsent =>
      rw [hact] at hsent
      cases hsent
  | play us _ hus hfd hnext =>
      have hle := UInt64.le_iff_toNat_le.mp (hclock us hus)
      rw [hnext]
      omega
  | setup _ hgrants hfd hnext hplaying =>
      rw [playsMetadata, hplaying, Bool.and_eq_true] at hplays
      rw [hnext]
      exact hpace.2 hgrants hplays.1
  | quiet _ hfd hnext hplays' =>
      rw [hnext]
      exact hpre (hfd ▸ hopen) (hplays' hplays)

/-- The move neither sends metadata nor handles a PLAY before `now`. -/
def After (now : UInt64) (m : Move) : Prop :=
  m.act.sendsMetadata = false ∧ ∀ us ∈ m.plays, now ≤ us

theorem turns_behind {c c' : RtspClient} {l : List Move} (h : Turns c l c')
    (hafter : ∀ m ∈ l, After now m) (hpace : ∀ m ∈ l, KeepsPace now m) (hc : Behind 2 now c) :
    Behind 2 now c' := by
  have hchain : Chain Move.pre Move.post (fun m => Turn m ∧ After now m ∧ KeepsPace now m) c l c' :=
    h.strengthen fun m hm hturn => ⟨hturn, hafter m hm, hpace m hm⟩
  refine (hchain.invariant hc fun m hpre hm => ?_).2
  exact hm.1.deadline.behind hm.2.1.1 hm.2.2 hm.2.1.2 hpre

theorem drainRequests_after (srv : RtspConf) (io : Nat → RequestIo) (fuel n : Nat)
    (c : RtspClient) (hclock : ∀ n, now ≤ (io n).nowUs) :
    ∀ m ∈ (drainRequests srv io fuel n c).2, After now m := by
  intro m hm
  obtain ⟨k, c', req, rfl⟩ := drainRequests_mem hm
  refine ⟨rfl, fun us hus => ?_⟩
  have hgiven : (if _ then _ else _ : Option UInt64) = some us := hus
  split at hgiven
  · exact Option.some.inj hgiven ▸ hclock k
  · cases hgiven

theorem metadataMove_deadline {srv : RtspConf} {io : MetadataIo} {c : RtspClient}
    (hrange : now.toNat < 2 ^ 63) (hdue : c.nextMetadataUs ≤ now) :
    (metadataMove srv io c).post.nextMetadataUs.toNat =
      c.nextMetadataUs.toNat + metadataIntervalUs.toNat := by
  have hsecond : metadataIntervalUs.toNat = 1000000 := by decide
  have hle := UInt64.le_iff_toNat_le.mp hdue
  show (c.nextMetadataUs + metadataIntervalUs).toNat = _
  rw [UInt64.toNat_add]
  omega

/-- A poll ends an open connection, or receives, handles requests and then sends
metadata if that is due. -/
theorem pollClient_eq (srv : RtspConf) (io : ClientIo) {c : RtspClient} (hopen : 0 ≤ c.tcpFd)
    (hclock : ∀ n, now ≤ (io.request n).nowUs) :
    (∃ m, pollClient srv now io c = (clientInit, [m]) ∧ After now m) ∨
      ∃ c' l, (∀ m ∈ l, After now m) ∧ pollClient srv now io c =
        if metadataDue c' now then
          ((metadataMove srv io.metadata c').post, l ++ [metadataMove srv io.metadata c'])
        else (c', l) := by
  cases hrecv : recvBytes io.recv (sizeofRxbuf - 1 - c.rxlen) with
  | none =>
      unfold pollClient
      rw [if_neg (Int.not_lt.mpr hopen), hrecv]
      exact .inl ⟨_, rfl, rfl, nofun⟩
  | some bytes =>
      refine .inr ⟨_, _, ?_, pollClient_of_recv srv now hopen hrecv rfl⟩
      intro m hm
      rcases mem_receiveLog.mp hm with rfl | hm | rfl
      · exact ⟨rfl, nofun⟩
      · exact drainRequests_after srv io.request sizeofRxbuf 0 _ hclock m hm
      · exact ⟨rfl, nofun⟩

theorem After.onTime {m : Move} (h : After now m) : OnTime now m := by
  intro hsends
  rw [h.1] at hsends
  cases hsends

/-- A poll that starts less than two seconds past the deadline sends on time, and
ends less than one past it. -/
theorem pollClient_onTime (srv : RtspConf) (io : ClientIo) {c : RtspClient} (hrx : RxFits c)
    (hclock : ∀ n, now ≤ (io.request n).nowUs) (hrange : now.toNat < 2 ^ 63)
    (hpace : ∀ m ∈ (pollClient srv now io c).2, KeepsPace now m) (hc : Behind 2 now c) :
    Behind 1 now (pollClient srv now io c).1 ∧
      ∀ m ∈ (pollClient srv now io c).2, OnTime now m := by
  have hturns := pollClient_turns srv now io hrx
  by_cases hclosed : c.tcpFd < 0
  · unfold pollClient
    rw [if_pos hclosed]
    exact ⟨fun h => absurd hclosed (Int.not_lt.mpr h), fun _ hm => absurd hm List.not_mem_nil⟩
  · rcases pollClient_eq srv io (Int.not_lt.mp hclosed) hclock with ⟨m, heq, hm⟩ | ⟨c', l, hl, heq⟩
    · rw [heq]
      exact ⟨fun h => absurd h (show ¬ (0 : Int) ≤ -1 by decide),
        List.forall_mem_singleton.mpr hm.onTime⟩
    · rw [heq] at hturns hpace ⊢
      by_cases hdue : metadataDue c' now = true
      · rw [if_pos hdue] at hturns hpace ⊢
        obtain ⟨hchain, -, -⟩ := hturns.of_snoc
        have hbehind : Behind 2 now c' :=
          turns_behind hchain hl (List.forall_mem_append.mp hpace).1 hc
        simp only [metadataDue, Bool.and_eq_true, decide_eq_true_eq] at hdue
        have hplays : playsMetadata c' = true := Bool.and_eq_true_iff.mpr hdue.1
        have hopen : 0 ≤ c'.tcpFd := hturns.of_snoc.2.1.sends_open rfl
        have hlate := hbehind hopen hplays
        refine ⟨fun _ _ => ?_, List.forall_mem_append.mpr ⟨fun m hm => (hl m hm).onTime,
          List.forall_mem_singleton.mpr fun _ => ⟨hdue.2, hlate, hrange⟩⟩⟩
        rw [metadataMove_deadline hrange hdue.2]
        omega
      · rw [if_neg hdue] at hturns hpace ⊢
        refine ⟨fun _ hplays => ?_, fun m hm => (hl m hm).onTime⟩
        have hearly : ¬ c'.nextMetadataUs ≤ now := by
          intro hle
          exact hdue (Bool.and_eq_true_iff.mpr ⟨hplays, decide_eq_true hle⟩)
        rw [UInt64.le_iff_toNat_le] at hearly
        show now.toNat < c'.nextMetadataUs.toNat + _
        omega

/-! ## A run -/

/-- The move neither handles a request nor sends metadata. -/
def Act.passive : Act → Bool
  | .request _ _ _ | .metadata _ => false
  | _ => true

theorem passive_after {m : Move} (h : m.act.passive = true) :
    After now m ∧ KeepsPace now m := by
  have hnothing : m.act.sendsMetadata = false ∧ m.plays = none ∧ m.grants = none := by
    unfold Move.plays Move.grants
    cases hact : m.act with
    | request | metadata =>
        rw [hact] at h
        cases h
    | _ => exact ⟨rfl, rfl, rfl⟩
  obtain ⟨hsends, hplays, hgrants⟩ := hnothing
  unfold After KeepsPace
  rw [hplays, hgrants]
  exact ⟨⟨hsends, nofun⟩, nofun, nofun⟩

theorem passive_behind {c c' : RtspClient} {l : List Move} (h : Turns c l c')
    (hl : ∀ m ∈ l, m.act.passive = true) (hc : Behind 2 now c) : Behind 2 now c' :=
  turns_behind h (fun m hm => (passive_after (hl m hm)).1) (fun m hm => (passive_after (hl m hm)).2)
    hc

theorem acceptClient_passive (srv : RtspServer) (fd : Int) (peer : SockAddr) (i : Slot) :
    ∀ m ∈ slotLog i (acceptClient srv fd peer).2, m.act.passive = true := by
  intro m hm
  rw [acceptClient_act hm]
  rfl

/-- Only polls handle requests and send metadata. -/
theorem apply_passive (srv : RtspServer) {e : Event} (he : e.pollTime? = none) (i : Slot) :
    ∀ m ∈ slotLog i (e.apply srv).2, m.act.passive = true := by
  intro m hm
  cases e with
  | poll io => cases he
  | pushNal p answers =>
      obtain ⟨m', hlog, hact⟩ := rtspServerPushNal_move srv p answers i
      have hm : m ∈ slotLog i (rtspServerPushNal srv p answers).2 := hm
      rw [hlog] at hm
      rw [List.mem_singleton.mp hm, hact]
      rfl
  | setCredentials | useShadow | enableStream | onIdrRequest => cases hm
  | close =>
      have hm : m ∈ slotLog i (_ ++ _) := hm
      rw [slotLog_append, slotLog_map_server, List.append_nil,
        ((forClients_spec _ srv).2 i).2] at hm
      rw [List.mem_singleton.mp hm]
      rfl

theorem apply_poll_onTime (srv : RtspServer) (io : PollIo) (i : Slot)
    (hrx : ∀ j, RxFits (srv.clients j))
    (hclock : ∀ n, io.nowUs ≤ ((io.client i).request n).nowUs) (hrange : io.nowUs.toNat < 2 ^ 63)
    (hpace : ∀ m ∈ slotLog i (rtspServerPoll srv io).2, KeepsPace io.nowUs m)
    (hc : Behind 2 io.nowUs (srv.clients i)) :
    Behind 1 io.nowUs ((rtspServerPoll srv io).1.clients i) ∧
      ∀ m ∈ slotLog i (rtspServerPoll srv io).2, OnTime io.nowUs m := by
  have haccept := acceptClient_turns srv io.acceptFd io.peer i
  have hpassive := acceptClient_passive srv io.acceptFd io.peer i
  have hrx' := (haccept.invariant (hrx i) fun _ => Turn.rxFits).2
  have haccepted := passive_behind haccept hpassive hc
  unfold rtspServerPoll at hpace ⊢
  dsimp only at hpace ⊢
  obtain ⟨-, hslots⟩ := forClients_spec (fun i => pollClient
    (acceptClient srv io.acceptFd io.peer).1.toRtspConf io.nowUs (io.client i))
    (acceptClient srv io.acceptFd io.peer).1
  rw [slotLog_append, (hslots i).2] at hpace ⊢
  rw [(hslots i).1]
  obtain ⟨hlast, honTime⟩ := pollClient_onTime _ (io.client i) hrx' hclock hrange
    (List.forall_mem_append.mp hpace).2 haccepted
  exact ⟨hlast, List.forall_mem_append.mpr
    ⟨fun m hm => (passive_after (hpassive m hm)).1.onTime, honTime⟩⟩

theorem pollTimes_cons (e : Event) (evs : List Event) :
    pollTimes (e :: evs) = e.pollTime?.toList ++ pollTimes evs := by
  unfold pollTimes
  rw [List.filterMap_cons]
  cases e.pollTime? <;> rfl

theorem Timely.tail {e : Event} {evs : List Event} (h : Timely (e :: evs)) : Timely evs where
  close := by
    have hclose := h.close
    rw [pollTimes_cons] at hclose
    exact (List.isChain_append.mp hclose).2.1
  requests := fun e' he' => h.requests e' (List.mem_cons_of_mem e he')
  range := fun now hnow => h.range now (pollTimes_cons e evs ▸ List.mem_append_right _ hnow)

theorem Behind.next {p q : UInt64} {c : RtspClient} (h : Behind 1 p c) (hclose : Close p q) :
    Behind 2 q c := by
  have hsecond : metadataIntervalUs.toNat = 1000000 := by decide
  intro hopen hplays
  have hbehind := h hopen hplays
  have hgap := hclose.2
  omega

/-- The next poll starts less than two seconds past the deadline. -/
def NextPollBehind (evs : List Event) (c : RtspClient) : Prop :=
  ∀ now ∈ (pollTimes evs).head?, Behind 2 now c

theorem timedLog_onTime (srv : RtspServer) (last : UInt64) (evs : List Event) (i : Slot)
    (hrx : ∀ j, RxFits (srv.clients j)) (htimely : Timely evs)
    (hpace : ∀ x ∈ timedLog i srv last evs, KeepsPace x.1 x.2)
    (hc : NextPollBehind evs (srv.clients i)) :
    ∀ x ∈ timedLog i srv last evs, OnTime x.1 x.2 := by
  induction evs generalizing srv last with
  | nil => exact fun _ hx => absurd hx List.not_mem_nil
  | cons e evs ih =>
      have hturns := fun j => apply_turns srv e hrx j
      have hrx' := fun j => ((hturns j).invariant (hrx j) fun _ => Turn.rxFits).2
      rw [timedLog] at hpace ⊢
      obtain ⟨hpaceFirst, hpaceRest⟩ := List.forall_mem_append.mp hpace
      rw [List.forall_mem_map] at hpaceFirst
      have hnext : NextPollBehind evs ((e.apply srv).1.clients i) ∧
          ∀ m ∈ slotLog i (e.apply srv).2, OnTime (e.pollTime?.getD last) m := by
        unfold NextPollBehind at hc ⊢
        rw [pollTimes_cons] at hc
        cases htime : e.pollTime? with
        | none =>
            rw [htime] at hc
            have hpassive := apply_passive srv htime i
            exact ⟨fun now hnow => passive_behind (hturns i) hpassive (hc now hnow),
              fun m hm => (passive_after (hpassive m hm)).1.onTime⟩
        | some now =>
            have hclose := htimely.close
            have hmem := htimely.range now
            rw [pollTimes_cons] at hclose hmem
            rw [htime] at hc hclose hmem hpaceFirst
            cases e with
            | poll io =>
                obtain rfl : io.nowUs = now := Option.some.inj htime
                obtain ⟨hlast, honTime⟩ := apply_poll_onTime srv io i hrx
                  (htimely.requests _ List.mem_cons_self io rfl i) (hmem List.mem_cons_self)
                  hpaceFirst (hc _ rfl)
                exact ⟨fun next hnext => hlast.next ((List.isChain_cons.mp hclose).1 next hnext),
                  honTime⟩
            | pushNal | setCredentials | useShadow | enableStream | onIdrRequest | close =>
                cases htime
      refine List.forall_mem_append.mpr ⟨List.forall_mem_map.mpr hnext.2, ?_⟩
      exact ih _ _ hrx' htimely.tail hpaceRest hnext.1

/-! ## The rate of a client -/

/-- The move is on the same connection, and a PLAY does not pull the deadline back. -/
structure Forward (m : Move) : Prop where
  client : m.kind ≠ .accept
  plays : ∀ us ∈ m.plays, m.pre.nextMetadataUs ≤ us
  range : m.act.sendsMetadata = true → m.pre.nextMetadataUs.toNat < 2 ^ 63

theorem Turn.deadline_le {m : Move} (h : Turn m) (hforward : Forward m)
    (hopen : 0 ≤ m.post.tcpFd) :
    0 ≤ m.pre.tcpFd ∧ m.pre.nextMetadataUs.toNat ≤ m.post.nextMetadataUs.toNat ∧
      (m.act.sendsMetadata = true →
        m.pre.nextMetadataUs.toNat + metadataIntervalUs.toNat ≤ m.post.nextMetadataUs.toNat) := by
  have hsecond : metadataIntervalUs.toNat = 1000000 := by decide
  cases h.deadline with
  | accept hkind => exact absurd hkind hforward.client
  | ended hpost => omega
  | sent hact hnext =>
      have hrange := hforward.range hact
      have hsum : m.post.nextMetadataUs.toNat =
          m.pre.nextMetadataUs.toNat + metadataIntervalUs.toNat := by
        rw [hnext, UInt64.toNat_add]
        omega
      exact ⟨h.sends_open hact, by omega, fun _ => by omega⟩
  | play us hact hus hfd hnext =>
      have hle := UInt64.le_iff_toNat_le.mp (hforward.plays us hus)
      rw [hnext, hact]
      exact ⟨hfd ▸ hopen, hle, nofun⟩
  | setup hact _ hfd hnext | quiet hact hfd hnext =>
      rw [hnext, hact]
      exact ⟨hfd ▸ hopen, Nat.le_refl _, nofun⟩

def sends (l : List Move) : List Move := l.filter fun m => m.act.sendsMetadata

theorem mem_sends {l : List Move} {m : Move} :
    m ∈ sends l ↔ m ∈ l ∧ m.act.sendsMetadata = true := List.mem_filter

/-- The packets of the moves waited for deadlines a second apart, the last of them
a second before the deadline of the client. -/
structure SpacedBefore (l : List Move) (c : RtspClient) : Prop where
  spaced : (sends l).Pairwise fun m m' =>
    m.pre.nextMetadataUs.toNat + metadataIntervalUs.toNat ≤ m'.pre.nextMetadataUs.toNat
  before : 0 ≤ c.tcpFd → ∀ m ∈ sends l,
    m.pre.nextMetadataUs.toNat + metadataIntervalUs.toNat ≤ c.nextMetadataUs.toNat

theorem SpacedBefore.snoc {l : List Move} {m : Move} (h : SpacedBefore l m.pre) (hturn : Turn m)
    (hforward : Forward m) : SpacedBefore (l ++ [m]) m.post where
  spaced := by
    unfold sends
    rw [List.filter_append, List.pairwise_append]
    refine ⟨h.spaced, List.Pairwise.sublist List.filter_sublist (List.pairwise_singleton _ m), ?_⟩
    intro a ha b hb
    obtain ⟨hb, hsends⟩ := List.mem_filter.mp hb
    rw [List.mem_singleton.mp hb] at hsends ⊢
    exact h.before (hturn.sends_open hsends) a ha
  before := by
    intro hopen a ha
    obtain ⟨hpre, hle, hsent⟩ := hturn.deadline_le hforward hopen
    obtain ⟨ha, hsends⟩ := mem_sends.mp ha
    rcases List.mem_append.mp ha with ha | ha
    · exact Nat.le_trans (h.before hpre a (mem_sends.mpr ⟨ha, hsends⟩)) hle
    · rw [List.mem_singleton.mp ha] at hsends ⊢
      exact hsent hsends

theorem turns_spaced {c c' : RtspClient} {l : List Move} (h : Turns c l c')
    (hforward : ∀ m ∈ l, Forward m) : SpacedBefore l c' := by
  have hchain := h.strengthen fun m hm hturn =>
    (⟨hturn, hforward m hm⟩ : Turn m ∧ Forward m)
  refine hchain.induction ⟨List.Pairwise.nil, fun _ _ hm => absurd hm List.not_mem_nil⟩ ?_
  exact fun l m hl hm => hl.snoc hm.1 hm.2

/-- The packets among the moves, as grants of the pacer. -/
def metadataGrants (l : List (UInt64 × Move)) : List Grant :=
  (l.filter fun x => x.2.act.sendsMetadata).map
    fun x => ⟨x.2.pre.nextMetadataUs.toNat, x.1.toNat⟩

theorem metadataGrants_spaced {l : List (UInt64 × Move)} {c : RtspClient}
    (h : SpacedBefore (l.map Prod.snd) c) :
    Spaced metadataIntervalUs.toNat (metadataGrants l) := by
  have hspaced := h.spaced
  rw [sends, List.filter_map, List.pairwise_map] at hspaced
  exact List.pairwise_map.mpr hspaced

theorem timedHistory_onTime (io : InitIo) (evs : List Event) (i : Slot) (htimely : Timely evs)
    (hpace : ∀ x ∈ timedHistory io evs i, KeepsPace x.1 x.2) :
    ∀ x ∈ timedHistory io evs i, OnTime x.1 x.2 := by
  have hclients := initialServer_clients io
  refine timedLog_onTime (initialServer io) 0 evs i (fun j => ?_) htimely hpace fun now _ => ?_
  · rw [hclients]
    exact Nat.zero_le _
  · rw [hclients]
    exact fun _ hplays => absurd hplays (by decide)

/-- Every part of a timed history is, without its times, the moves of one client. -/
theorem timedHistory_turns {io : InitIo} {evs : List Event} {i : Slot}
    {sent : List (UInt64 × Move)} (hsent : sent <:+: timedHistory io evs i) :
    ∃ c c', Turns c (sent.map Prod.snd) c' := by
  have hmoves : (timedHistory io evs i).map Prod.snd = history io evs i :=
    timedLog_map_snd i (initialServer io) 0 evs
  have hpart := hsent.map Prod.snd
  rw [hmoves] at hpart
  exact (history_chain io evs i).of_isInfix hpart

/-- Between polls that keep the pace, a client is sent at most `count + 2`
metadata packets in any `count` seconds. -/
theorem metadata_rate (io : InitIo) (evs : List Event) (i : Slot) (htimely : Timely evs)
    (hpace : ∀ x ∈ timedHistory io evs i, KeepsPace x.1 x.2) {sent : List (UInt64 × Move)}
    (hsent : sent <:+: timedHistory io evs i) (hclient : ∀ x ∈ sent, x.2.kind ≠ .accept)
    (start count : Nat) :
    countWithin start (count * 1000000) (metadataTimes sent) ≤ count + 2 := by
  obtain ⟨c, c', hturns⟩ := timedHistory_turns hsent
  have honTime : ∀ x ∈ sent, OnTime x.1 x.2 :=
    fun x hx => timedHistory_onTime io evs i htimely hpace x (hsent.subset hx)
  have hturn : ∀ x ∈ sent, Turn x.2 := fun x hx => hturns.ok_of_mem (List.mem_map_of_mem hx)
  have htimes : metadataTimes sent = (metadataGrants sent).map Grant.time := by
    rw [metadataTimes_eq hturn, metadataGrants, List.map_map]
    rfl
  have hforward : ∀ m ∈ sent.map Prod.snd, Forward m := by
    rw [List.forall_mem_map]
    intro x hx
    refine ⟨hclient x hx, (hpace x (hsent.subset hx)).1, fun hsends => ?_⟩
    obtain ⟨hdue, -, hrange⟩ := honTime x hx hsends
    exact Nat.lt_of_le_of_lt (UInt64.le_iff_toNat_le.mp hdue) hrange
  have hprompt : ∀ g ∈ metadataGrants sent, Prompt metadataIntervalUs.toNat 2 g := by
    unfold metadataGrants
    rw [List.forall_mem_map]
    intro x hx
    obtain ⟨hx, hsends⟩ := List.mem_filter.mp hx
    obtain ⟨hdue, hlate, -⟩ := honTime x hx hsends
    exact ⟨UInt64.le_iff_toNat_le.mp hdue, hlate⟩
  have hrate :=
    countWithin_le (metadataGrants_spaced (turns_spaced hturns hforward)) hprompt start count
  have hsecond : metadataIntervalUs.toNat = 1000000 := by decide
  rw [hsecond, ← htimes] at hrate
  exact hrate

/-! ## Clocked runs of the small world -/

/-- A poll of the small world: what `accept` returns, what slot 0 receives, and
the time. -/
structure ClockedPoll where
  fd : Int
  bytes : Bytes
  us : UInt64

def ClockedPoll.event (p : ClockedPoll) : Event :=
  .poll { samplePoll p.fd p.bytes with
    nowUs := p.us
    client := fun i => { (samplePoll p.fd p.bytes).client i with
      request := fun _ => { sampleRequestIo with nowUs := p.us } } }

def clockedRun (polls : List ClockedPoll) : List Event :=
  .enableStream 0 25 :: polls.map ClockedPoll.event

theorem clockedRun_timely {polls : List ClockedPoll}
    (hclose : (polls.map ClockedPoll.us).IsChain Close)
    (hrange : ((polls.map ClockedPoll.us).all fun us => decide (us.toNat < 2 ^ 63)) = true) :
    Timely (clockedRun polls) := by
  have htimes : pollTimes (clockedRun polls) = polls.map ClockedPoll.us := by
    unfold pollTimes clockedRun
    rw [List.filterMap_cons_none rfl, List.filterMap_map]
    exact congrFun List.filterMap_eq_map' polls
  refine ⟨htimes ▸ hclose, ?_, fun us hus =>
    of_decide_eq_true (List.all_eq_true.mp hrange us (htimes ▸ hus))⟩
  intro e he io heq i n
  rcases List.mem_cons.mp he with rfl | he
  · cases heq
  · obtain ⟨p, -, rfl⟩ := List.mem_map.mp he
    cases heq
    exact UInt64.le_refl _

/-- A session of both tracks. -/
def pacedPolls : List ClockedPoll :=
  [⟨5, sampleSetup "rtsp://h/stream=0/video" ++ sampleSetup "rtsp://h/stream=0/metadata" ++
    samplePlay, 0⟩, ⟨-1, [], 100000⟩]

/-- The metadata track is set up three seconds after PLAY. -/
def lateSetupPolls : List ClockedPoll :=
  ⟨5, sampleSetup "rtsp://h/stream=0/video" ++ samplePlay, 0⟩ ::
    (List.range 30).map (fun n => ⟨-1, [], UInt64.ofNat (100000 * (n + 1))⟩) ++
    [⟨-1, sampleSetup "rtsp://h/stream=0/metadata", 3100000⟩, ⟨-1, [], 3200000⟩,
      ⟨-1, [], 3300000⟩, ⟨-1, [], 3400000⟩]

/-- Four packets within the second after the SETUP. -/
theorem late_setup_bursts :
    ¬ ∀ (io : InitIo) (evs : List Event) (i : Slot), Timely evs →
      ∀ sent, sent <:+: timedHistory io evs i → (∀ x ∈ sent, x.2.kind ≠ .accept) →
        ∀ start count,
          countWithin start (count * 1000000) (metadataTimes sent) ≤ count + 2 := by
  intro h
  have htimely : Timely (clockedRun lateSetupPolls) :=
    clockedRun_timely (by decide +kernel) (by decide +kernel)
  have hburst : ((timedHistory sampleInit (clockedRun lateSetupPolls) 0).drop 1).all
      (fun x => x.2.kind != .accept) = true ∧
      countWithin 3100000 1000000 (metadataTimes
        ((timedHistory sampleInit (clockedRun lateSetupPolls) 0).drop 1)) = 4 := by
    decide +kernel
  have hrate := h sampleInit (clockedRun lateSetupPolls) 0 htimely _ (List.drop_suffix 1 _).isInfix
    (fun x hx => bne_iff_ne.mp (List.all_eq_true.mp hburst.1 x hx)) 3100000 1
  rw [Nat.one_mul, hburst.2] at hrate
  omega

theorem metadata_rate_sample :
    countWithin 0 (3 * 1000000) (metadataTimes
      ((timedHistory sampleInit (clockedRun pacedPolls) 0).drop 1)) ≤ 3 + 2 := by
  have hrun : ((timedHistory sampleInit (clockedRun pacedPolls) 0).all
      fun x => decide (KeepsPace x.1 x.2)) = true ∧
      ((timedHistory sampleInit (clockedRun pacedPolls) 0).drop 1).all
        (fun x => x.2.kind != .accept) = true := by
    decide +kernel
  exact metadata_rate sampleInit (clockedRun pacedPolls) 0
    (clockedRun_timely (by decide +kernel) (by decide +kernel))
    (fun x hx => of_decide_eq_true (List.all_eq_true.mp hrun.1 x hx))
    (List.drop_suffix 1 _).isInfix
    (fun x hx => bne_iff_ne.mp (List.all_eq_true.mp hrun.2 x hx)) 0 3

end Rtsp
end FH8852
