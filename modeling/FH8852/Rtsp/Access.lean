import FH8852.Rtsp.Conf
import FH8852.Rtsp.Lifecycle

/-!
# Access

What a client without credentials gets from a server that asks for them.
-/

namespace FH8852
namespace Rtsp

open CLib History

/-! ## The server asks for credentials -/

/-- Credentials are set before the first poll. -/
def authBeforePoll : List Event → Bool
  | [] => false
  | .poll _ :: _ => false
  | .setCredentials _ _ :: _ => true
  | .useShadow _ :: _ => true
  | _ :: rest => authBeforePoll rest

/-- No call turns authentication off. -/
theorem Event.conf_authEnabled (e : Event) {conf : RtspConf} (h : conf.authEnabled = true) :
    (e.conf conf).authEnabled = true := by
  cases e with
  | pushNal p answers =>
      show (if _ then conf else cacheParamSet conf p.streamId.toNat p.nal).authEnabled = true
      unfold cacheParamSet
      split
      · exact h
      · split
        · exact h
        · split <;> exact h
  | setCredentials | useShadow => rfl
  | enableStream =>
      simp only [Event.conf]
      split <;> exact h
  | poll | onIdrRequest | close => exact h

theorem run_request_authEnabled (srv : RtspServer) (evs : List Event) (i : Slot)
    (hauth : srv.authEnabled = true ∨ authBeforePoll evs = true) {m : Move}
    (hm : m ∈ slotLog i (run srv evs).2) {io : RequestIo} {req : Bytes} {done : Bool}
    (hact : m.act = .request io req done) : m.srv.authEnabled = true := by
  induction evs generalizing srv with
  | nil => cases hm
  | cons e evs ih =>
      have hm : m ∈ slotLog i (_ ++ _) := hm
      rw [slotLog_append, List.mem_append] at hm
      rcases hm with hm | hm
      · obtain ⟨⟨pio, rfl⟩, hsrv⟩ := apply_request_srv srv e i hm hact
        rw [hsrv]
        exact hauth.resolve_right Bool.false_ne_true
      · refine ih _ ?_ hm
        rcases hauth with hauth | hauth
        · refine .inl ?_
          rw [apply_conf]
          exact e.conf_authEnabled hauth
        · cases e with
          | setCredentials | useShadow => exact .inl rfl
          | poll => cases hauth
          | pushNal | enableStream | onIdrRequest | close => exact .inr hauth

/-! ## A client without credentials -/

/-- The move is a request that passes the check of its credentials. -/
def Move.passesCredentials (m : Move) : Bool :=
  match m.act with
  | .request io req _ => (credentialError m.srv io req).isNone
  | _ => false

/-- Nothing but replies of status 401. -/
def OnlyRefusals (outs : List Out) : Prop :=
  ∀ o ∈ outs, ∃ status ∈ authRefusals, ∃ cseq head,
    o = .reply (.plain status cseq authChallenge) head []

/-- A client that is as `client_init` left it, but for its connection. -/
structure Untouched (c : RtspClient) : Prop where
  session : SameSession clientInit c
  remote : c.loopback = false

theorem Untouched.of_same {c c' : RtspClient} (hc : Untouched c) (h : SameSession c c')
    (hloopback : c'.loopback = c.loopback) : Untouched c' := by
  obtain ⟨hsession, hremote⟩ := hc
  refine ⟨⟨?_, ?_, ?_, ?_, ?_, ?_⟩, hloopback.trans hremote⟩
  · exact h.hasSession.trans hsession.hasSession
  · exact h.sessionId.trans hsession.sessionId
  · exact h.playing.trans hsession.playing
  · exact h.waitingForSps.trans hsession.waitingForSps
  · exact h.streamId.trans hsession.streamId
  · exact h.tracks.trans hsession.tracks

theorem Turn.refused {m : Move} (hm : Turn m) (hc : Untouched m.pre)
    (hauth : ∀ io req done, m.act = .request io req done → m.srv.authEnabled = true)
    (hpasses : m.passesCredentials = false) (haccept : m.kind ≠ .accept)
    (hended : m.kind ≠ .ended) : Untouched m.post ∧ OnlyRefusals m.outs := by
  have hidle : m.pre.playing = false := hc.session.playing
  have hnone : OnlyRefusals [] := fun o ho => absurd ho List.not_mem_nil
  cases hm with
  | accept => exact absurd rfl haccept
  | hangup | close => exact absurd rfl hended
  | recv => exact ⟨hc.of_same ⟨rfl, rfl, rfl, rfl, rfl, rfl⟩ rfl, hnone⟩
  | skip => exact ⟨hc, hnone⟩
  | settle =>
      refine ⟨?_, hnone⟩
      show Untouched (Rtsp.settle _)
      unfold Rtsp.settle
      split
      · exact hc.of_same ⟨rfl, rfl, rfl, rfl, rfl, rfl⟩ rfl
      · exact hc
  | metadata _ hdue =>
      simp only [metadataDue, Bool.and_eq_true] at hdue
      exact absurd hdue.1.1 (by rw [hidle]; exact Bool.false_ne_true)
  | push _ hplaying => exact absurd hplaying (by rw [hidle]; exact Bool.false_ne_true)
  | @request srv c io req =>
      have henabled : srv.authEnabled = true := hauth _ _ _ rfl
      obtain ⟨status, hstatus⟩ : ∃ status, authError srv c io req = some status := by
        have hcheck : authError srv c io req = credentialError srv io req := by
          have hremote : c.loopback = false := hc.remote
          rw [authError, henabled, hremote]
          rfl
        rw [hcheck]
        have hpasses : (credentialError srv io req).isNone = false := hpasses
        cases hcredential : credentialError srv io req with
        | none => simp [hcredential] at hpasses
        | some status => exact ⟨status, rfl⟩
      have hrequest : handleRequest srv c io req =
          replied c io status (requestCseq req) authChallenge := by
        simp only [handleRequest, hstatus]
      rw [requestMove, hrequest]
      refine ⟨hc.of_same ⟨rfl, rfl, rfl, rfl, rfl, rfl⟩ rfl, ?_⟩
      intro o ho
      rw [List.mem_singleton.mp ho]
      exact ⟨status, authError_mem hstatus, _, _, rfl⟩

/-- What a connection from outside gets whose requests all fail the check. -/
def Denied (a : Move) (w : List Move) (c : RtspClient) : Prop :=
  (∀ fd peer, a.act = .accept fd peer → peer.addr >>> 24 ≠ 127) →
    (∀ m ∈ w, m.passesCredentials = false) →
    SocketsOnly a.outs ∧ Untouched c ∧ ∀ m ∈ w, OnlyRefusals m.outs

/-- Where authentication is set up before the first poll, a client from outside
127.0.0.0/8 whose requests all fail the check of credentials gets replies of
status 401 and nothing else, and stays as `client_init` left it. -/
theorem unauthenticated_client_denied (io : InitIo) (evs : List Event) (i : Slot) (n : Nat)
    (hbefore : authBeforePoll evs = true) {a : Move} {w : List Move}
    (h : connection (historyAt io evs i n) = some (a, w))
    (hpeer : ∀ fd peer, a.act = .accept fd peer → peer.addr >>> 24 ≠ 127)
    (hfails : ∀ m ∈ w, m.passesCredentials = false) :
    SocketsOnly a.outs ∧ SameSession clientInit (clientAt io evs i n) ∧
      ∀ m ∈ w, OnlyRefusals m.outs := by
  have hl : Chain Move.pre Move.post (fun m => Turn m ∧
      ∀ rio req done, m.act = .request rio req done → m.srv.authEnabled = true)
      clientInit (historyAt io evs i n) (clientAt io evs i n) := by
    refine (historyAt_turns io evs i n).strengthen fun m hm hturn => ⟨hturn, ?_⟩
    intro rio req done hact
    exact run_request_authEnabled _ evs i (.inr hbefore) (List.mem_of_mem_take hm) hact
  suffices hdenied : Denied a w (clientAt io evs i n) by
    obtain ⟨houts, hc, honly⟩ := hdenied hpeer hfails
    exact ⟨houts, hc.session, honly⟩
  refine hl.window_induction (R := Denied) h ?_ ?_
  · rintro m ⟨hm, -⟩ hkind hpeer -
    have hkind := beq_iff_eq.mp hkind
    obtain ⟨fd, peer, hact, hpost, houts⟩ := hm.session.accept_inv hkind
    refine ⟨houts, ⟨?_, ?_⟩, fun m hm => absurd hm List.not_mem_nil⟩
    · rw [hpost]
      exact ⟨rfl, rfl, rfl, rfl, rfl, rfl⟩
    · rw [hpost]
      exact decide_eq_false (hpeer fd peer hact)
  · rintro a w m hw ⟨hm, hauth⟩ haccept hended hpeer hpasses
    simp only [beq_eq_false_iff_ne] at haccept hended
    obtain ⟨houts, hc, hrefused⟩ := hw hpeer fun m hm => hpasses m (by simp [hm])
    obtain ⟨hpost, honly⟩ := hm.refused hc hauth (hpasses m (by simp)) haccept hended
    refine ⟨houts, hpost, ?_⟩
    intro m' hm'
    rcases List.mem_append.mp hm' with hm' | hm'
    · exact hrefused m' hm'
    · rw [List.mem_singleton.mp hm']
      exact honly

/-- A client that asks for a SETUP without credentials. -/
def refusedRun : List Event :=
  [.setCredentials (ascii "admin") (ascii "secret"), .enableStream 0 25,
    .poll (samplePoll 5 (sampleSetup "rtsp://h/stream=0/video"))]

theorem unauthenticated_client_denied_sample : ∃ a w,
    connection (historyAt sampleInit refusedRun 0 4) = some (a, w) ∧
      SameSession clientInit (clientAt sampleInit refusedRun 0 4) ∧
      ∀ m ∈ w, OnlyRefusals m.outs := by
  have hrun : (connection (historyAt sampleInit refusedRun 0 4)).any (fun v =>
      (match v.1.act with | .accept _ peer => peer.addr >>> 24 != 127 | _ => false) &&
        v.2.all fun m => !m.passesCredentials) = true := by decide +kernel
  obtain ⟨⟨a, w⟩, h, hrun⟩ := (Option.any_eq_true _ _).mp hrun
  simp only [Bool.and_eq_true, List.all_eq_true, Bool.not_eq_true'] at hrun
  obtain ⟨hpeer, hfails⟩ := hrun
  refine ⟨a, w, h, (unauthenticated_client_denied sampleInit refusedRun 0 4 rfl h ?_ hfails).2⟩
  intro fd peer hact
  rw [hact] at hpeer
  exact bne_iff_ne.mp hpeer

end Rtsp
end FH8852
