import FH8852.Rtsp.Request

/-!
# What a request can do

`Effect` lists everything a call of `handle_request` can do to its client and to
the world, and `handleRequest_effect` says that the list is complete.  Facts
about requests are proved by cases on it.
-/

namespace FH8852
namespace Rtsp

open CLib

/-- The methods whose success changes the session. -/
def sessionMethods : List Bytes := [ascii "SETUP", ascii "PLAY", ascii "TEARDOWN"]

/-- Outputs that only open and close sockets. -/
def SocketsOnly (outs : List Out) : Prop :=
  ∀ o ∈ outs, ∃ fd, o = .opened fd ∨ o = .closed fd

/-- The statuses a request without credentials is refused with. -/
def authRefusals : List Bytes :=
  [ascii "401 Authentication required", ascii "401 Basic authentication required",
    ascii "401 Invalid credentials"]

/-- The statuses a request is refused with that change nothing. -/
def refusals : List Bytes :=
  [ascii "404 Stream not found", ascii "400 `interleaved' not found",
    ascii "400 `client_port' not found", ascii "400 Failed to parse `Session'",
    ascii "454 Session ID is invalid", ascii "405 Unknown method"]

def asksTcp (req : Bytes) : Bool :=
  (strstr (ascii "TCP") (requestTransport req)).isSome &&
    (strstr (ascii "interleaved=") (requestTransport req)).isSome

def asksUdp (req : Bytes) : Bool :=
  !(strstr (ascii "TCP") (requestTransport req)).isSome &&
    (strstr (ascii "client_port=") (requestTransport req)).isSome

/-- A SETUP that passes every check before the track is touched. -/
def admitsSetup (srv : RtspConf) (c : RtspClient) (io : RequestIo) (req : Bytes) : Bool :=
  (authError srv c io req).isNone && requestMethod req == ascii "SETUP" &&
    streamEnabled srv (streamOf (requestUri req)) && (asksTcp req || asksUdp req)

/-- `bind_udp_pair` finds no pair of ports. -/
def lacksPorts (io : RequestIo) : Bool := decide ((bindUdpPair io.attempt closedTrack).1 < 0)

/-- What a granted SETUP makes of its track before it activates it: the track,
the transport of the reply, and the sockets closed and opened. -/
inductive SetupWay (c : RtspClient) (io : RequestIo) (req : Bytes) :
    RtspTrack → Bytes → List Out → Prop
  | tcp (p : Bytes) (htcp : (strstr (ascii "TCP") (requestTransport req)).isSome = true)
      (hp : strstr (ascii "interleaved=") (requestTransport req) = some p) :
      SetupWay c io req
        { closedTrack with
          interleaved := true
          rtpChannel := UInt8.ofNat (scanPair (p.drop 12)).1
          rtcpChannel := UInt8.ofNat (scanPair (p.drop 12)).2 }
        (tcpTransport (scanPair (p.drop 12)).1 (scanPair (p.drop 12)).2)
        (trackClose (c.tracks (trackOf (requestUri req)))).2
  | udp (p : Bytes) (hudp : (strstr (ascii "TCP") (requestTransport req)).isSome = false)
      (hp : strstr (ascii "client_port=") (requestTransport req) = some p)
      (hport : 0 ≤ (bindUdpPair io.attempt closedTrack).1) :
      SetupWay c io req
        { (bindUdpPair io.attempt closedTrack).2.1 with
          rtpAddr := { io.peer with port := UInt16.ofNat (scanPair (p.drop 12)).1 }
          rtcpAddr := { io.peer with port := UInt16.ofNat (scanPair (p.drop 12)).2 } }
        (udpTransport (scanPair (p.drop 12)).1 (scanPair (p.drop 12)).2
          (bindUdpPair io.attempt closedTrack).1)
        ((trackClose (c.tracks (trackOf (requestUri req)))).2 ++
          (bindUdpPair io.attempt closedTrack).2.2)

inductive Effect (srv : RtspConf) (c : RtspClient) (io : RequestIo) (req : Bytes) : Outcome → Prop
  | refused (status : Bytes) (hauth : authError srv c io req = some status)
      (hstatus : status ∈ authRefusals) :
      Effect srv c io req (replied c io status (requestCseq req) authChallenge)
  | answered (status extra : Bytes) (hauth : authError srv c io req = none)
      (hadmits : admitsSetup srv c io req = false)
      (hstatus : status ∈ refusals ∨
        status = ascii "200 OK" ∧ requestMethod req ∉ sessionMethods)
      (hextra : extra = [] ∨ extra = publicMethods) :
      Effect srv c io req (replied c io status (requestCseq req) extra)
  | described (sdp : Bytes) (hauth : authError srv c io req = none)
      (hmethod : requestMethod req = ascii "DESCRIBE")
      (hsdp : ∃ s, sdp = sdpText s (srv.sps s)
        (base64Encode ((srv.sps s).read 0 (srv.spsLen s)))
        (base64Encode ((srv.pps s).read 0 (srv.ppsLen s))) (srv.fps s)) :
      Effect srv c io req
        ⟨true, c, [.reply (.described (requestCseq req) (requestUri req) sdp) io.reply io.body]⟩
  | waiting (hauth : authError srv c io req = none)
      (hmethod : requestMethod req = ascii "DESCRIBE")
      (henabled : streamEnabled srv (streamOf (requestUri req)) = true)
      (hsets : srv.spsLen (streamOf (requestUri req)) = 0 ∨
        srv.ppsLen (streamOf (requestUri req)) = 0) :
      Effect srv c io req ⟨false, c, []⟩
  | setup (t : RtspTrack) (transport : Bytes) (outs : List Out)
      (hadmits : admitsSetup srv c io req = true)
      (hports : (asksUdp req && lacksPorts io) = false) (houts : SocketsOnly outs)
      (hway : SetupWay c io req t transport outs) :
      Effect srv c io req (setupTrack c io (trackOf (requestUri req)) t
        (streamOf (requestUri req)) (requestCseq req) transport outs)
  | setupFailed (outs : List Out)
      (hadmits : admitsSetup srv c io req = true)
      (hports : (asksUdp req && lacksPorts io) = true) (houts : SocketsOnly outs)
      (hsockets : outs = (trackClose (c.tracks (trackOf (requestUri req)))).2 ++
        (bindUdpPair io.attempt closedTrack).2.2) :
      Effect srv c io req
        ⟨true, c.setTrack (trackOf (requestUri req)) (bindUdpPair io.attempt closedTrack).2.1,
          outs ++ [.reply (.plain (ascii "500 Internal Server Error") (requestCseq req) [])
            io.reply []]⟩
  | play (hauth : authError srv c io req = none) (hmethod : requestMethod req = ascii "PLAY")
      (hsession : sessionError c req = none) :
      Effect srv c io req (playOk srv c io (requestCseq req))
  | teardown (hauth : authError srv c io req = none)
      (hmethod : requestMethod req = ascii "TEARDOWN") (hsession : sessionError c req = none) :
      Effect srv c io req (teardownOk c io (requestCseq req))

/-! ## Sockets -/

theorem SocketsOnly.append {a b : List Out} (ha : SocketsOnly a) (hb : SocketsOnly b) :
    SocketsOnly (a ++ b) := by
  intro o ho
  rcases List.mem_append.mp ho with ho | ho
  · exact ha o ho
  · exact hb o ho

/-- What an observer of the sockets alone does not see. -/
theorem SocketsOnly.filterMap_eq_nil {α : Type} {f : Out → Option α} {outs : List Out}
    (h : SocketsOnly outs) (hf : ∀ fd, f (.opened fd) = none ∧ f (.closed fd) = none) :
    outs.filterMap f = [] := by
  refine List.filterMap_eq_nil_iff.mpr fun o ho => ?_
  obtain ⟨fd, rfl | rfl⟩ := h o ho
  · exact (hf fd).1
  · exact (hf fd).2

theorem closeFd_socketsOnly (fd : Int) : SocketsOnly (closeFd fd) := by
  intro o ho
  by_cases h : 0 ≤ fd
  · rw [closeFd, if_pos h, List.mem_singleton] at ho
    exact ⟨fd, .inr ho⟩
  · rw [closeFd, if_neg h] at ho
    cases ho

theorem openedFd_socketsOnly (fd : Int) : SocketsOnly (openedFd fd) := by
  intro o ho
  by_cases h : 0 ≤ fd
  · rw [openedFd, if_pos h, List.mem_singleton] at ho
    exact ⟨fd, .inl ho⟩
  · rw [openedFd, if_neg h] at ho
    cases ho

theorem trackClose_socketsOnly (t : RtspTrack) : SocketsOnly (trackClose t).2 :=
  (closeFd_socketsOnly _).append (closeFd_socketsOnly _)

theorem sessionReset_socketsOnly (c : RtspClient) : SocketsOnly (sessionReset c).2 := by
  intro o ho
  obtain ⟨k, _, ho⟩ := List.mem_flatMap.mp ho
  exact trackClose_socketsOnly _ o ho

theorem clientReset_socketsOnly (c : RtspClient) : SocketsOnly (clientReset c).2 :=
  (sessionReset_socketsOnly c).append (closeFd_socketsOnly _)

theorem bindUdpPairLoop_socketsOnly (attempt : Nat → UdpAttempt) (left i : Nat) (t : RtspTrack) :
    SocketsOnly (bindUdpPairLoop attempt left i t).2.2 := by
  induction left generalizing i with
  | zero =>
      intro o ho
      cases ho
  | succ left ih =>
      have hopened := (openedFd_socketsOnly (attempt i).rtp).append
        (openedFd_socketsOnly (attempt i).rtcp)
      have hagain := ((hopened.append (closeFd_socketsOnly (attempt i).rtp)).append
        (closeFd_socketsOnly (attempt i).rtcp)).append (ih (i + 1))
      simp only [bindUdpPairLoop]
      split
      · split
        · exact hagain
        · split
          · exact hopened
          · exact hagain
      · exact hagain

theorem bindUdpPair_socketsOnly (attempt : Nat → UdpAttempt) (t : RtspTrack) :
    SocketsOnly (bindUdpPair attempt t).2.2 :=
  bindUdpPairLoop_socketsOnly attempt 16 0 t

theorem bindUdpPairLoop_active (attempt : Nat → UdpAttempt) (left i : Nat) (t : RtspTrack) :
    (bindUdpPairLoop attempt left i t).2.1.active = t.active := by
  induction left generalizing i with
  | zero => rfl
  | succ left ih =>
      simp only [bindUdpPairLoop]
      split
      · split
        · exact ih (i + 1)
        · split
          · rfl
          · exact ih (i + 1)
      · exact ih (i + 1)

theorem bindUdpPair_active (attempt : Nat → UdpAttempt) (t : RtspTrack) :
    (bindUdpPair attempt t).2.1.active = t.active :=
  bindUdpPairLoop_active attempt 16 0 t

/-! ## The list is complete -/

theorem authError_mem {srv : RtspConf} {c : RtspClient} {io : RequestIo} {req status : Bytes}
    (h : authError srv c io req = some status) : status ∈ authRefusals := by
  simp only [authError, credentialError] at h
  split at h
  · cases h
  · split at h
    · cases h
      simp [authRefusals]
    · split at h
      · rw [Option.ite_none_left_eq_some] at h
        obtain ⟨-, h⟩ := h
        cases h
        simp [authRefusals]
      · cases h
        simp [authRefusals]

theorem sessionError_mem {c : RtspClient} {req status : Bytes}
    (h : sessionError c req = some status) : status ∈ refusals := by
  unfold sessionError at h
  split at h
  · cases h
    simp [refusals]
  · split at h
    · cases h
      simp [refusals]
    · cases h

theorem admitsSetup_of_method {srv : RtspConf} {c : RtspClient} {io : RequestIo} {req : Bytes}
    (h : requestMethod req ≠ ascii "SETUP") : admitsSetup srv c io req = false := by
  simp [admitsSetup, h]

section Methods

variable {srv : RtspConf} {c : RtspClient} {io : RequestIo} {req : Bytes}
  (hauth : authError srv c io req = none)

include hauth

theorem handleDescribe_effect (hmethod : requestMethod req = ascii "DESCRIBE") :
    Effect srv c io req (handleDescribe srv c io (requestUri req) (requestCseq req)) := by
  simp only [handleDescribe]
  split
  · exact .answered _ _ hauth (admitsSetup_of_method (by rw [hmethod]; decide))
      (.inl (by simp [refusals])) (.inl rfl)
  · rename_i henabled
    split
    · rename_i hsets
      exact .waiting hauth hmethod (by simpa using henabled) hsets
    · exact .described _ hauth hmethod ⟨_, rfl⟩

theorem handleSetup_effect (hmethod : requestMethod req = ascii "SETUP") :
    Effect srv c io req (handleSetup srv c io req (requestUri req) (requestCseq req)) := by
  have hclose := trackClose_socketsOnly (c.tracks (trackOf (requestUri req)))
  have hbind := bindUdpPair_socketsOnly io.attempt closedTrack
  simp only [handleSetup]
  by_cases henabled : streamEnabled srv (streamOf (requestUri req)) = true
  · rw [if_neg (by simp [henabled])]
    by_cases htcp : (strstr (ascii "TCP") (requestTransport req)).isSome = true
    · rw [if_pos htcp]
      split
      · rename_i hp
        have hp : strstr (ascii "interleaved=") (requestTransport req) = none := hp
        refine .answered _ _ hauth ?_ (.inl (by simp [refusals])) (.inl rfl)
        simp [admitsSetup, asksTcp, asksUdp, htcp, hp]
      · rename_i p hp
        have hp : strstr (ascii "interleaved=") (requestTransport req) = some p := hp
        refine .setup _ _ _ ?_ ?_ hclose (.tcp p htcp hp)
        · simp [admitsSetup, asksTcp, hauth, hmethod, henabled, htcp, hp]
        · simp [asksUdp, htcp]
    · rw [if_neg htcp]
      split
      · rename_i hp
        have hp : strstr (ascii "client_port=") (requestTransport req) = none := hp
        refine .answered _ _ hauth ?_ (.inl (by simp [refusals])) (.inl rfl)
        simp [admitsSetup, asksTcp, asksUdp, htcp, hp]
      · rename_i p hp
        have hp : strstr (ascii "client_port=") (requestTransport req) = some p := hp
        have hudp : asksUdp req = true := by simp [asksUdp, htcp, hp]
        have hadmits : admitsSetup srv c io req = true := by
          simp [admitsSetup, hauth, hmethod, henabled, hudp]
        split
        · rename_i hport
          have hport : (bindUdpPair io.attempt closedTrack).1 < 0 := hport
          exact .setupFailed _ hadmits (by simp [hudp, lacksPorts, hport]) (hclose.append hbind) rfl
        · rename_i hport
          have hport : ¬ (bindUdpPair io.attempt closedTrack).1 < 0 := hport
          exact .setup _ _ _ hadmits (by simp [hudp, lacksPorts, hport]) (hclose.append hbind)
            (.udp p (by simpa using htcp) hp (by omega))
  · rw [if_pos (by simp [henabled])]
    exact .answered _ _ hauth (by simp [admitsSetup, henabled]) (.inl (by simp [refusals]))
      (.inl rfl)

end Methods

theorem handleRequest_effect (srv : RtspConf) (c : RtspClient) (io : RequestIo) (req : Bytes) :
    Effect srv c io req (handleRequest srv c io req) := by
  simp only [handleRequest]
  split
  · rename_i status hauth
    exact .refused status hauth (authError_mem hauth)
  · rename_i hauth
    split
    · rename_i hmethod
      have hsetup : requestMethod req ≠ ascii "SETUP" := by rw [hmethod]; decide
      exact .answered _ _ hauth (admitsSetup_of_method hsetup)
        (.inr ⟨rfl, by rw [hmethod]; decide⟩) (.inr rfl)
    · split
      · exact handleDescribe_effect hauth ‹_›
      · split
        · exact handleSetup_effect hauth ‹_›
        · split
          · split
            · rename_i hsession
              exact .answered _ _ hauth (admitsSetup_of_method ‹_›)
                (.inl (sessionError_mem hsession)) (.inl rfl)
            · exact .play hauth ‹_› ‹_›
          · split
            · rename_i hmethod
              exact .answered _ _ hauth (admitsSetup_of_method ‹_›)
                (.inr ⟨rfl, by rw [hmethod]; decide⟩) (.inl rfl)
            · split
              · split
                · rename_i hsession
                  exact .answered _ _ hauth (admitsSetup_of_method ‹_›)
                    (.inl (sessionError_mem hsession)) (.inl rfl)
                · exact .teardown hauth ‹_› ‹_›
              · exact .answered _ _ hauth (admitsSetup_of_method ‹_›)
                  (.inl (by simp [refusals])) (.inl rfl)

end Rtsp
end FH8852
