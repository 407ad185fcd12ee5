import FH8852.Rtsp.Turn

/-!
# The configuration over a run

Handling a client only reads the configuration, so a request is handled with
what the calls of the server's functions before its poll left there.
-/

namespace FH8852
namespace Rtsp

open CLib

/-- What a call does to the configuration. -/
def Event.conf (conf : RtspConf) : Event → RtspConf
  | poll _ => conf
  | pushNal p _ =>
    if p.streamId < 0 ∨ (rtspStreamCount : Int) ≤ p.streamId ∨ p.nal.isEmpty then conf
    else cacheParamSet conf p.streamId.toNat p.nal
  | setCredentials user pass =>
    { conf with authUser := snprintf 32 user, authPass := snprintf 32 pass, authEnabled := true }
  | useShadow path => { conf with shadowPath := snprintf 64 path, authEnabled := true }
  | enableStream id fps =>
    if id < 0 ∨ (rtspStreamCount : Int) ≤ id then conf
    else
      { conf with
        streamEnabled := fun j => if j = id.toNat then true else conf.streamEnabled j
        fps := fun j => if j = id.toNat then fps else conf.fps j }
  | onIdrRequest set => { conf with requestIdr := set }
  | close => conf

theorem acceptClient_conf (srv : RtspServer) (fd : Int) (peer : SockAddr) :
    (acceptClient srv fd peer).1.toRtspConf = srv.toRtspConf := by
  unfold acceptClient
  split
  · rfl
  · split <;> rfl

theorem apply_conf (srv : RtspServer) (e : Event) :
    (e.apply srv).1.toRtspConf = e.conf srv.toRtspConf := by
  cases e with
  | poll io =>
      show (forClients _ _).1.toRtspConf = srv.toRtspConf
      rw [(forClients_spec _ _).1, acceptClient_conf]
  | pushNal p answers =>
      show (rtspServerPushNal srv p answers).1.toRtspConf = if _ then _ else _
      unfold rtspServerPushNal
      by_cases hguard : p.streamId < 0 ∨ (rtspStreamCount : Int) ≤ p.streamId ∨ p.nal.isEmpty
      · rw [if_pos hguard, if_pos hguard, (forClients_spec _ _).1]
      · rw [if_neg hguard, if_neg hguard]
        split <;> rw [(forClients_spec _ _).1]
  | setCredentials | useShadow | onIdrRequest => rfl
  | enableStream id fps =>
      show (rtspServerEnableStream srv id fps).toRtspConf = if _ then _ else _
      unfold rtspServerEnableStream
      split <;> rfl
  | close => exact (forClients_spec _ _).1

/-! ## Requests -/

theorem pollClient_srv (srv : RtspConf) (now : UInt64) (io : ClientIo) (c : RtspClient) :
    ∀ m ∈ (pollClient srv now io c).2, m.srv = srv := by
  intro m hm
  rcases (pollClient_mem hm).2 with ⟨-, rfl⟩ | ⟨bytes, d, -, rfl, hm | rfl⟩
  · rfl
  · rcases mem_receiveLog.mp hm with rfl | hm | rfl
    · rfl
    · obtain ⟨k, c', req, rfl⟩ := drainRequests_mem hm
      rfl
    · rfl
  · rfl

/-- Requests are handled in polls, with the configuration of the poll. -/
theorem apply_request_srv (srv : RtspServer) (e : Event) (i : Slot) {m : Move}
    (hm : m ∈ slotLog i (e.apply srv).2) {io : RequestIo} {req : Bytes} {done : Bool}
    (hact : m.act = .request io req done) :
    (∃ pio, e = .poll pio) ∧ m.srv = srv.toRtspConf := by
  cases e with
  | poll pio =>
      refine ⟨⟨pio, rfl⟩, ?_⟩
      have hm : m ∈ slotLog i (_ ++ _) := hm
      rw [slotLog_append, ((forClients_spec _ _).2 i).2, List.mem_append] at hm
      rcases hm with hm | hm
      · rw [acceptClient_act hm] at hact
        cases hact
      · rw [pollClient_srv _ _ _ _ m hm, acceptClient_conf]
  | pushNal p answers =>
      obtain ⟨m', hm', hpush⟩ := rtspServerPushNal_move srv p answers i
      have hm : m ∈ slotLog i (rtspServerPushNal srv p answers).2 := hm
      rw [hm', List.mem_singleton] at hm
      rw [hm, hpush] at hact
      cases hact
  | setCredentials | useShadow | onIdrRequest => cases hm
  | enableStream => cases hm
  | close =>
      have hm : m ∈ slotLog i (_ ++ _) := hm
      rw [slotLog_append, slotLog_map_server, List.append_nil, ((forClients_spec _ _).2 i).2,
        List.mem_singleton] at hm
      rw [hm] at hact
      cases hact

/-- What every call keeps true of the configuration holds for every request. -/
theorem run_request_conf {I : RtspConf → Prop}
    (hkeep : ∀ (e : Event) conf, I conf → I (e.conf conf))
    (srv : RtspServer) (evs : List Event) (h0 : I srv.toRtspConf) (i : Slot) {m : Move}
    (hm : m ∈ slotLog i (run srv evs).2) {io : RequestIo} {req : Bytes} {done : Bool}
    (hact : m.act = .request io req done) : I m.srv := by
  induction evs generalizing srv with
  | nil => cases hm
  | cons e evs ih =>
      have hm : m ∈ slotLog i (_ ++ _) := hm
      rw [slotLog_append, List.mem_append] at hm
      rcases hm with hm | hm
      · rw [(apply_request_srv srv e i hm hact).2]
        exact h0
      · refine ih _ ?_ hm
        rw [apply_conf]
        exact hkeep e _ h0

/-! ## The cached parameter sets -/

/-- Each fits into its array. -/
def SetsFit (conf : RtspConf) : Prop := ∀ s, conf.spsLen s ≤ 128 ∧ conf.ppsLen s ≤ 128

theorem SetsFit.cacheParamSet {conf : RtspConf} (h : SetsFit conf) (s : Nat) (nal : Bytes) :
    SetsFit (cacheParamSet conf s nal) := by
  intro j
  obtain ⟨hsps, hpps⟩ := h j
  unfold Rtsp.cacheParamSet
  split
  · exact h j
  · rename_i hguard
    have hlen : nal.length ≤ 128 := by
      rw [not_or] at hguard
      omega
    split
    · refine ⟨?_, hpps⟩
      show (if j = s then nal.length else conf.spsLen j) ≤ 128
      split
      · exact hlen
      · exact hsps
    · refine ⟨hsps, ?_⟩
      show (if j = s then nal.length else conf.ppsLen j) ≤ 128
      split
      · exact hlen
      · exact hpps

theorem SetsFit.event {conf : RtspConf} (h : SetsFit conf) (e : Event) : SetsFit (e.conf conf) := by
  cases e with
  | pushNal p answers =>
      simp only [Event.conf]
      split
      · exact h
      · exact h.cacheParamSet _ _
  | enableStream id fps =>
      simp only [Event.conf]
      split <;> exact h
  | poll | setCredentials | useShadow | onIdrRequest | close => exact h

theorem initialServer_setsFit (io : InitIo) : SetsFit (initialServer io).toRtspConf := by
  intro s
  unfold initialServer rtspServerInit
  split
  · exact ⟨Nat.zero_le _, Nat.zero_le _⟩
  · split <;> exact ⟨Nat.zero_le _, Nat.zero_le _⟩

/-- Every request of a run is handled with parameter sets that fit. -/
theorem history_setsFit (io : InitIo) (evs : List Event) (i : Slot) {m : Move}
    (hm : m ∈ history io evs i) {rio : RequestIo} {req : Bytes} {done : Bool}
    (hact : m.act = .request rio req done) : SetsFit m.srv :=
  run_request_conf (fun e _ h => h.event e) (initialServer io) evs (initialServer_setsFit io) i hm
    hact

end Rtsp
end FH8852
