import FH8852.Rtsp.Conf
import FH8852.Rtsp.Lifecycle

/-!
# Asking for a key frame

A player starts to decode at an IDR picture, so the server asks the encoder for one
whenever a PLAY succeeds, and at no other time.
-/

namespace FH8852
namespace Rtsp

open CLib

def Out.idr? : Out → Option Nat
  | .idr streamId => some streamId
  | _ => none

/-- The calls of the `request_idr` callback. -/
def idrCalls (log : List Record) : List Nat :=
  log.flatMap fun r =>
    match r with
    | .move _ m => m.outs.filterMap Out.idr?
    | .server _ => []

/-- The streams of the PLAYs that are answered 200. -/
def playedStreams (log : List Record) : List Nat :=
  log.flatMap fun r =>
    match r with
    | .move _ m => if m.kind = .play then [m.pre.streamId] else []
    | .server _ => []

theorem mem_slotLog {i : Slot} {m : Move} {log : List Record} (h : .move i m ∈ log) :
    m ∈ slotLog i log :=
  List.mem_filterMap.mpr ⟨_, h, if_pos rfl⟩

/-! ## One move -/

/-- A move that is a PLAY answered 200 handles a request of that method. -/
theorem Move.request_of_play {m : Move} (hkind : m.kind = .play) :
    ∃ io req done, m.act = .request io req done ∧ requestMethod req = ascii "PLAY" := by
  unfold Move.kind at hkind
  split at hkind
  case h_4 io req done hact =>
    refine ⟨io, req, done, hact, ?_⟩
    split at hkind
    · split at hkind
      · exact nomatch hkind
      · split at hkind
        next hplay => exact hplay
        next => split at hkind <;> exact nomatch hkind
    · split at hkind <;> exact nomatch hkind
  all_goals exact nomatch hkind

theorem playOk_idrs (srv : RtspConf) (c : RtspClient) (io : RequestIo) (cseq : Bytes) :
    (playOk srv c io cseq).outs.filterMap Out.idr? =
      if srv.requestIdr then [c.streamId] else [] := by
  simp only [playOk]
  split
  · rfl
  · rfl

/-- A PLAY that is answered 200 asks for a key frame of its stream. -/
theorem Turn.play_idrs {m : Move} (h : Turn m) (hkind : m.kind = .play) :
    m.outs.filterMap Out.idr? = if m.srv.requestIdr then [m.pre.streamId] else [] := by
  obtain ⟨_, _, _, hact, hmethod⟩ := Move.request_of_play hkind
  cases h with
  | @request srv c io req hc hnul hreq =>
      obtain ⟨-, rfl, -⟩ := Act.request.inj hact
      have heffect := handleRequest_effect srv c io req
      unfold requestMove at hkind ⊢
      generalize handleRequest srv c io req = r at heffect hkind ⊢
      have hother : ∀ method : Bytes, method ≠ ascii "PLAY" → requestMethod req ≠ method :=
        fun _ hne heq => hne (heq.symm.trans hmethod)
      cases heffect with
      | refused status hauth hstatus =>
          have hother : Kind.other = Kind.play := (kind_refusal (.inl hstatus)).symm.trans hkind
          cases hother
      | answered status extra hauth hadmits hstatus =>
          rcases hstatus with hstatus | ⟨-, hno⟩
          · have hother : Kind.other = Kind.play := (kind_refusal (.inr hstatus)).symm.trans hkind
            cases hother
          · rw [hmethod] at hno
            exact absurd (by decide) hno
      | described sdp hauth hdescribe => exact absurd hdescribe (hother _ (by decide))
      | waiting hauth hdescribe => exact absurd hdescribe (hother _ (by decide))
      | setup t transport outs hadmits =>
          simp only [admitsSetup, Bool.and_eq_true, beq_iff_eq] at hadmits
          exact absurd hadmits.1.1.2 (hother _ (by decide))
      | setupFailed outs hadmits =>
          simp only [admitsSetup, Bool.and_eq_true, beq_iff_eq] at hadmits
          exact absurd hadmits.1.1.2 (hother _ (by decide))
      | play => exact playOk_idrs srv c io _
      | teardown hauth hteardown => exact absurd hteardown (hother _ (by decide))
  | accept | recv | hangup | settle | metadata | skip | push | close => cases hact

/-- No other move asks for one. -/
theorem SessionTurn.no_idrs {m : Move} (h : SessionTurn m) (hkind : m.kind ≠ .play) :
    m.outs.filterMap Out.idr? = [] := by
  have hsockets : ∀ {outs : List Out}, SocketsOnly outs → outs.filterMap Out.idr? = [] :=
    fun h => h.filterMap_eq_nil fun _ => ⟨rfl, rfl⟩
  have hreplies : ∀ {outs : List Out}, RepliesOnly outs → outs.filterMap Out.idr? = [] :=
    fun h => h.filterMap_eq_nil fun _ _ _ => rfl
  cases h with
  | accept _ _ _ _ _ _ houts => exact hsockets houts
  | ended _ _ houts => exact hsockets houts
  | quiet _ _ _ houts => exact hreplies houts
  | setup _ _ _ _ _ _ _ _ _ _ _ _ _ _ houts =>
      obtain ⟨sockets, cseq, lines, head, hsock, houts, -⟩ := houts
      rw [houts, List.filterMap_append, hsockets hsock]
      rfl
  | setupFailed _ _ _ _ _ _ houts =>
      obtain ⟨sockets, replies, hsock, hrep, houts⟩ := houts
      rw [houts, List.filterMap_append, hsockets hsock, hreplies hrep]
      rfl
  | play hplay => exact absurd hplay hkind
  | teardown io _ _ _ _ _ houts =>
      rw [houts, teardownOk, List.filterMap_append, List.filterMap_cons,
        byes_filterMap_eq_nil (fun _ _ _ => rfl), hsockets (sessionReset_socketsOnly _)]
      rfl
  | metadata io _ _ _ _ _ _ _ houts =>
      rw [houts]
      rfl
  | push p ts answers _ _ _ _ _ _ _ _ _ _ _ houts =>
      obtain ⟨outs, hcons, hsent⟩ :=
        sendVideoNal_sentOn (m.pre.tracks .video) p.nal ts p.last answers
      rw [houts, hcons, List.filterMap_cons, hsent.filterMap_eq_nil fun _ _ => rfl]
      rfl

/-! ## A call of the server's functions -/

/-- What the server of a running program keeps. -/
structure Serving (srv : RtspServer) : Prop where
  idr : srv.requestIdr = true
  rxFits : ∀ i, RxFits (srv.clients i)
  sound : ∀ i, Sound (srv.clients i)

/-- The calls that the loop of a program makes. -/
def Event.inLoop : Event → Bool
  | .poll _ | .pushNal _ _ => true
  | _ => false

theorem cacheParamSet_requestIdr (srv : RtspConf) (s : Nat) (nal : Bytes) :
    (cacheParamSet srv s nal).requestIdr = srv.requestIdr := by
  unfold cacheParamSet
  split
  · rfl
  · split
    · rfl
    · rfl

theorem Event.conf_requestIdr {e : Event} (he : e.inLoop = true) (conf : RtspConf) :
    (e.conf conf).requestIdr = conf.requestIdr := by
  cases e with
  | poll io => rfl
  | pushNal p answers =>
      show RtspConf.requestIdr (if _ then conf else _) = _
      split
      · rfl
      · exact cacheParamSet_requestIdr _ _ _
  | setCredentials | useShadow | enableStream | onIdrRequest | close => exact nomatch he

section Call

variable {srv : RtspServer} {e : Event} (h : Serving srv)

include h

theorem Serving.apply (he : e.inLoop = true) : Serving (e.apply srv).1 := by
  refine ⟨?_, fun i => ?_, fun i => ?_⟩
  · rw [apply_conf, Event.conf_requestIdr he, h.idr]
  · exact ((apply_turns srv e h.rxFits i).invariant (h.rxFits i) fun _ => Turn.rxFits).2
  · exact ((apply_turns srv e h.rxFits i).invariant (h.sound i) fun _ hs hm =>
      hm.session.sound hs).2

theorem Serving.turn {i : Slot} {m : Move} (hm : .move i m ∈ (e.apply srv).2) :
    Turn m ∧ Sound m.pre := by
  have hturns := (apply_turns srv e h.rxFits i).invariant (h.sound i) fun _ hs hm =>
    hm.session.sound hs
  exact hturns.1.ok_of_mem (mem_slotLog hm)

/-- A call of the server asks for a key frame for every PLAY that it answers 200, and
for a stream that there is. -/
theorem Serving.idrCalls : idrCalls (e.apply srv).2 = playedStreams (e.apply srv).2 := by
  refine List.flatMap_congr fun r hr => ?_
  cases r with
  | server o => rfl
  | move i m =>
      have hturn := (h.turn hr).1
      show m.outs.filterMap Out.idr? = if m.kind = .play then [m.pre.streamId] else []
      by_cases hkind : m.kind = .play
      · obtain ⟨io, req, done, hact, -⟩ := Move.request_of_play hkind
        have hsrv := (apply_request_srv srv e i (mem_slotLog hr) hact).2
        rw [hturn.play_idrs hkind, hsrv, h.idr, if_pos rfl, if_pos hkind]
      · rw [hturn.session.no_idrs hkind, if_neg hkind]

theorem Serving.playedStreams_lt {s : Nat} (hs : s ∈ playedStreams (e.apply srv).2) :
    s < rtspStreamCount := by
  obtain ⟨r, hr, hmem⟩ := List.mem_flatMap.mp hs
  cases r with
  | server o => exact nomatch hmem
  | move i m =>
      have hsound := (h.turn hr).2
      change s ∈ if m.kind = .play then [m.pre.streamId] else [] at hmem
      split at hmem
      · rw [List.mem_singleton.mp hmem]
        exact hsound.stream
      · exact nomatch hmem

end Call

theorem Serving.run {srv : RtspServer} (h : Serving srv) {evs : List Event}
    (hevs : ∀ e ∈ evs, e.inLoop = true) :
    Serving (run srv evs).1 := by
  induction evs generalizing srv with
  | nil => exact h
  | cons e evs ih =>
      obtain ⟨he, hevs⟩ := List.forall_mem_cons.mp hevs
      exact ih (h.apply he) hevs

end Rtsp
end FH8852
