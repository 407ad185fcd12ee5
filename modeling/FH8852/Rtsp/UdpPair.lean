import FH8852.Rtsp.Descriptors
import FH8852.Rtsp.Transport

/-!
# The pair of sockets

What `bind_udp_pair` returns, stores in the track and leaves open.  The second
socket is bound to the port after the one `getsockname` reports, as a 16-bit
number: after 65535 that is 0, and the kernel chooses the port.  A SETUP that
finds no ports is the one failed request that changes the session.
-/

namespace FH8852
namespace Rtsp

open CLib Handles

/-- The sockets that the outputs open and do not close, the latest first. -/
def leftOpen (outs : List Out) : List Int := after [] (outs.flatMap (Out.ops (-1)))

/-- The ports the two sockets of a round are bound to; `chosen` is the kernel's
choice for the second one. -/
def UdpAttempt.bound (a : UdpAttempt) (chosen : UInt16) : Option (Nat × Nat) :=
  a.ports.map fun ports =>
    (ports.1.toNat, if ports.2 = 0 then chosen.toNat else ports.2.toNat)

/-- The first round of `bind_udp_pair` in which both sockets are bound. -/
structure BindingRound (attempt : Nat → UdpAttempt) (j : Nat) : Prop where
  lt : j < 16
  before : ∀ i < j, (attempt i).ports = none
  binds : (attempt j).ports ≠ none

/-- The track has one socket bound to `p` and one bound to the next port, and
every other socket is closed. -/
structure PairStored (attempt : Nat → UdpAttempt) (chosen : Nat → UInt16)
    (r : Int × RtspTrack × List Out) (p : Nat) : Prop where
  bound : ∃ j, BindingRound attempt j ∧ (attempt j).bound (chosen j) = some (p, p + 1) ∧
    r.2.1.rtpFd = (attempt j).rtp ∧ r.2.1.rtcpFd = (attempt j).rtcp
  port : p + 1 ≤ 65535
  others : (leftOpen r.2.2).Perm (trackFds r.2.1)

/-- The request is answered with the status 500. -/
def Outcome.Fails (r : Outcome) : Prop :=
  ∃ cseq extra head body,
    Out.reply (.plain (ascii "500 Internal Server Error") cseq extra) head body ∈ r.outs

/-- What `bind_udp_pair` owes to its caller. -/
structure PairKept (attempt : Nat → UdpAttempt) (chosen : Nat → UInt16) (t : RtspTrack) :
    Prop where
  returned : ∀ p : Nat, (bindUdpPair attempt t).1 = p ↔
    PairStored attempt chosen (bindUdpPair attempt t) p
  failed : (∀ p, ¬ PairStored attempt chosen (bindUdpPair attempt t) p) →
    (bindUdpPair attempt t).1 = -1 ∧ leftOpen (bindUdpPair attempt t).2.2 = [] ∧
      (bindUdpPair attempt t).2.1.rtpFd = t.rtpFd ∧ (bindUdpPair attempt t).2.1.rtcpFd = t.rtcpFd
  setup : ∀ srv c io req, io.attempt = attempt → (handleRequest srv c io req).Fails →
    trackFds ((handleRequest srv c io req).client.tracks (trackOf (requestUri req))) = []

/-! ## The rounds -/

theorem BindingRound.unique {attempt : Nat → UdpAttempt} {i j : Nat}
    (hi : BindingRound attempt i) (hj : BindingRound attempt j) : i = j := by
  rcases Nat.lt_trichotomy i j with h | h | h
  · exact absurd (hj.before i h) hi.binds
  · exact h
  · exact absurd (hi.before j h) hj.binds

theorem ports_eq_some {a : UdpAttempt} {ports : UInt16 × UInt16} (h : a.ports = some ports) :
    (0 ≤ a.rtp ∧ 0 ≤ a.rtcp) ∧ a.port = some ports.1 ∧ ports.2 = ports.1 + 1 := by
  unfold UdpAttempt.ports at h
  split at h
  · rename_i hcalls
    obtain ⟨p, hp, rfl⟩ := Option.map_eq_some_iff.mp h
    exact ⟨⟨hcalls.1, hcalls.2.1⟩, hp, rfl⟩
  · cases h

/-- A round that binds no pair closes what it opened. -/
theorem leftOpen_again (a : UdpAttempt) (outs : List Out) :
    leftOpen (openedFd a.rtp ++ openedFd a.rtcp ++ closeFd a.rtp ++ closeFd a.rtcp ++ outs) =
      leftOpen outs := by
  have hround : leftOpen (openedFd a.rtp ++ openedFd a.rtcp ++ closeFd a.rtp ++
      closeFd a.rtcp) = [] := by
    by_cases hrtp : 0 ≤ a.rtp
    · by_cases hrtcp : 0 ≤ a.rtcp
      · simp only [openedFd, closeFd, if_pos hrtp, if_pos hrtcp]
        show ((([a.rtcp, a.rtp]).erase a.rtp).erase a.rtcp) = []
        by_cases hsame : a.rtcp = a.rtp
        · rw [hsame, List.erase_cons_head, List.erase_cons_head]
        · have hne : ¬ (a.rtcp == a.rtp) = true := fun h => hsame (beq_iff_eq.mp h)
          rw [List.erase_cons_tail hne, List.erase_cons_head, List.erase_cons_head]
      · simp only [openedFd, closeFd, if_pos hrtp, if_neg hrtcp]
        show ([a.rtp]).erase a.rtp = []
        exact List.erase_cons_head _ _
    · by_cases hrtcp : 0 ≤ a.rtcp
      · simp only [openedFd, closeFd, if_neg hrtp, if_pos hrtcp]
        show ([a.rtcp]).erase a.rtcp = []
        exact List.erase_cons_head _ _
      · simp only [openedFd, closeFd, if_neg hrtp, if_neg hrtcp]
        rfl
  unfold leftOpen at hround ⊢
  rw [List.flatMap_append, after_append, hround]

theorem leftOpen_bound {a : UdpAttempt} (hrtp : 0 ≤ a.rtp) (hrtcp : 0 ≤ a.rtcp) :
    leftOpen (openedFd a.rtp ++ openedFd a.rtcp) = [a.rtcp, a.rtp] := by
  simp only [openedFd, if_pos hrtp, if_pos hrtcp]
  rfl

theorem bindUdpPairLoop_again {attempt : Nat → UdpAttempt} {i : Nat}
    (h : (attempt i).ports = none) (left : Nat) (t : RtspTrack) :
    bindUdpPairLoop attempt (left + 1) i t =
      ((bindUdpPairLoop attempt left (i + 1) t).1, (bindUdpPairLoop attempt left (i + 1) t).2.1,
        openedFd (attempt i).rtp ++ openedFd (attempt i).rtcp ++ closeFd (attempt i).rtp ++
          closeFd (attempt i).rtcp ++ (bindUdpPairLoop attempt left (i + 1) t).2.2) := by
  simp only [bindUdpPairLoop]
  split
  · rename_i hsockets
    split
    · rfl
    · rename_i p hp
      split
      · rename_i hrtcp
        simp [UdpAttempt.ports, hsockets, hrtcp, hp] at h
      · rfl
  · rfl

theorem bindUdpPairLoop_bound {attempt : Nat → UdpAttempt} {i : Nat} {ports : UInt16 × UInt16}
    (h : (attempt i).ports = some ports) (left : Nat) (t : RtspTrack) :
    bindUdpPairLoop attempt (left + 1) i t =
      ((ports.2.toNat : Int) - 1, { t with rtpFd := (attempt i).rtp, rtcpFd := (attempt i).rtcp },
        openedFd (attempt i).rtp ++ openedFd (attempt i).rtcp) := by
  have hp := (ports_eq_some h).2
  unfold UdpAttempt.ports at h
  split at h
  · rename_i hcalls
    simp only [bindUdpPairLoop, if_pos (⟨hcalls.1, hcalls.2.1, hcalls.2.2.1⟩ :
      0 ≤ (attempt i).rtp ∧ 0 ≤ (attempt i).rtcp ∧ (attempt i).bindRtp = true), hp.1,
      if_pos hcalls.2.2.2, hp.2]
  · cases h

/-- All that the loop can do. -/
theorem bindUdpPairLoop_cases (attempt : Nat → UdpAttempt) (left i : Nat) (t : RtspTrack) :
    (∃ outs, bindUdpPairLoop attempt left i t = (-1, t, outs) ∧ leftOpen outs = [] ∧
      ∀ k, i ≤ k → k < i + left → (attempt k).ports = none) ∨
    ∃ j ports outs, bindUdpPairLoop attempt left i t =
        ((ports.2.toNat : Int) - 1,
          { t with rtpFd := (attempt j).rtp, rtcpFd := (attempt j).rtcp }, outs) ∧
      leftOpen outs = [(attempt j).rtcp, (attempt j).rtp] ∧
      (attempt j).ports = some ports ∧ i ≤ j ∧ j < i + left ∧
      ∀ k, i ≤ k → k < j → (attempt k).ports = none := by
  induction left generalizing i with
  | zero => exact .inl ⟨[], rfl, rfl, fun k hk hlt => by omega⟩
  | succ left ih =>
      cases hports : (attempt i).ports with
      | some ports =>
          obtain ⟨⟨hrtp, hrtcp⟩, -⟩ := ports_eq_some hports
          refine .inr ⟨i, ports, _, bindUdpPairLoop_bound hports left t,
            leftOpen_bound hrtp hrtcp, hports, Nat.le_refl i, by omega, ?_⟩
          intro k hik hki
          omega
      | none =>
          have hnone : ∀ k, i ≤ k → k ≠ i → i + 1 ≤ k := fun k hk hne => by omega
          rw [bindUdpPairLoop_again hports left t]
          rcases ih (i + 1) with ⟨outs, hloop, hopen, hall⟩ |
            ⟨j, ports, outs, hloop, hopen, hj, hij,
            hlt, hbefore⟩
          · rw [hloop]
            refine .inl ⟨_, rfl, (leftOpen_again _ _).trans hopen, fun k hk hlt => ?_⟩
            by_cases hki : k = i
            · rw [hki, hports]
            · exact hall k (hnone k hk hki) (by omega)
          · rw [hloop]
            refine .inr ⟨j, ports, _, rfl, (leftOpen_again _ _).trans hopen, hj, by omega, by omega,
              fun k hk hlt => ?_⟩
            by_cases hki : k = i
            · rw [hki, hports]
            · exact hbefore k (hnone k hk hki) hlt

theorem bindUdpPair_cases (attempt : Nat → UdpAttempt) (t : RtspTrack) :
    (∃ outs, bindUdpPair attempt t = (-1, t, outs) ∧ leftOpen outs = [] ∧
      ∀ j, ¬ BindingRound attempt j) ∨
    ∃ j ports outs, bindUdpPair attempt t =
        ((ports.2.toNat : Int) - 1,
          { t with rtpFd := (attempt j).rtp, rtcpFd := (attempt j).rtcp }, outs) ∧
      leftOpen outs = [(attempt j).rtcp, (attempt j).rtp] ∧
      (attempt j).ports = some ports ∧ BindingRound attempt j := by
  rcases bindUdpPairLoop_cases attempt 16 0 t with ⟨outs, hloop, hopen, hall⟩ | ⟨j, ports, outs,
    hloop, hopen, hj, -, hlt, hbefore⟩
  · refine .inl ⟨outs, hloop, hopen, fun j hround => ?_⟩
    have hlt := hround.lt
    exact hround.binds (hall j (Nat.zero_le j) (by omega))
  · refine .inr ⟨j, ports, outs, hloop, hopen, hj, by omega, fun i hi => ?_, ?_⟩
    · exact hbefore i (Nat.zero_le i) hi
    · rw [hj]
      exact Option.some_ne_none ports

/-- The port returned is below 65535, or the pair is the one that wraps around. -/
theorem pred_next_port {p q : UInt16} (h : q = p + 1) :
    (p.toNat = 65535 ∧ q = 0 ∧ ((q.toNat : Int) - 1 = -1)) ∨
      (p.toNat < 65535 ∧ q ≠ 0 ∧ q.toNat = p.toNat + 1) := by
  have hadd : q.toNat = (p.toNat + 1) % 65536 := by
    rw [h]
    exact UInt16.toNat_add p 1
  have hlt := p.toNat_lt
  by_cases hp : p.toNat = 65535
  · have hq : q.toNat = 0 := by rw [hadd, hp]
    refine .inl ⟨hp, UInt16.toNat_inj.mp hq, ?_⟩
    omega
  · refine .inr ⟨by omega, fun hzero => ?_, by omega⟩
    rw [hzero] at hadd
    have hadd : 0 = (p.toNat + 1) % 65536 := hadd
    omega

/-- A request that is answered 500 is a SETUP that found no ports. -/
theorem Effect.fails {srv : RtspConf} {c : RtspClient} {io : RequestIo} {req : Bytes}
    {r : Outcome} (h : Effect srv c io req r) (hfails : r.Fails) :
    (bindUdpPair io.attempt closedTrack).1 < 0 ∧
      r.client.tracks (trackOf (requestUri req)) = (bindUdpPair io.attempt closedTrack).2.1 := by
  obtain ⟨cseq, extra, head, body, hreply⟩ := hfails
  have hreplies : ∀ rs, r.outs.filterMap Out.reply? = rs →
      Reply.plain (ascii "500 Internal Server Error") cseq extra ∈ rs := by
    intro rs hrs
    rw [← hrs]
    exact List.mem_filterMap.mpr ⟨_, hreply, rfl⟩
  have hstatus : ∀ status cseq' extra', r.outs.filterMap Out.reply? = [.plain status cseq' extra'] →
      status = ascii "500 Internal Server Error" := by
    intro status cseq' extra' hrs
    have hmem := List.mem_singleton.mp (hreplies _ hrs)
    cases hmem
    rfl
  have hne : ascii "200 OK" ≠ ascii "500 Internal Server Error" := by decide
  cases h with
  | refused status _ hmem =>
      have hmem : ascii "500 Internal Server Error" ∈ authRefusals := hstatus status _ _ rfl ▸ hmem
      exact absurd hmem (by decide)
  | answered status _ _ _ hmem =>
      have hsame := hstatus status _ _ rfl
      rcases hmem with hmem | hmem
      · rw [hsame] at hmem
        exact absurd hmem (by decide)
      · exact absurd (hmem.1.symm.trans hsame) hne
  | described => exact absurd (List.mem_singleton.mp (hreplies _ rfl)) Reply.noConfusion
  | waiting => exact absurd (hreplies _ rfl) List.not_mem_nil
  | setup t transport outs _ _ houts =>
      obtain ⟨lines, hlines⟩ := setupTrack_replies c io (trackOf (requestUri req)) t
        (streamOf (requestUri req)) (requestCseq req) transport houts
      exact absurd (hstatus _ _ _ hlines) hne
  | setupFailed outs _ hports =>
      simp only [Bool.and_eq_true, lacksPorts, decide_eq_true_eq] at hports
      exact ⟨hports.2, RtspClient.setTrack_tracks_self _ _ _⟩
  | play => exact absurd (hstatus _ _ _ (playOk_replies srv c io (requestCseq req))) hne
  | teardown => exact absurd (hstatus _ _ _ (teardownOk_replies c io (requestCseq req))) hne

/-! ## The promise of `bind_udp_pair` -/

section Promise

variable {attempt : Nat → UdpAttempt}

/-- A pair whose first port is 65535 stays in the track, but -1 is returned. -/
theorem not_pairKept {j : Nat} (hround : BindingRound attempt j)
    (hport : (attempt j).port = some 65535) (chosen : Nat → UInt16) (t : RtspTrack) :
    ¬ PairKept attempt chosen t := by
  intro hkept
  rcases bindUdpPair_cases attempt t with ⟨outs, -, -, hnone⟩ | ⟨j', ports, outs, hloop, hopen,
    hj', hround'⟩
  · exact hnone j hround
  · obtain rfl := hround.unique hround'
    obtain ⟨-, hp, hnext⟩ := ports_eq_some hj'
    have hfirst : ports.1.toNat = 65535 := by
      rw [Option.some.inj (hp.symm.trans hport)]
      rfl
    have hnot : ∀ p, ¬ PairStored attempt chosen (bindUdpPair attempt t) p := by
      intro p hstored
      have hret : (bindUdpPair attempt t).1 = p := (hkept.returned p).mpr hstored
      rw [hloop] at hret
      rcases pred_next_port hnext with ⟨-, -, hneg⟩ | ⟨hlt, -, -⟩
      · omega
      · omega
    have hclosed := (hkept.failed hnot).2.1
    rw [hloop] at hclosed
    have hclosed : leftOpen outs = [] := hclosed
    rw [hopen] at hclosed
    cases hclosed

variable (hports : ∀ j, BindingRound attempt j → (attempt j).port ≠ some 65535)

include hports

/-- The port of a binding round is below 65535, and the next one is its second. -/
theorem next_port {j : Nat} (hround : BindingRound attempt j) {ports : UInt16 × UInt16}
    (hj : (attempt j).ports = some ports) :
    ports.1.toNat < 65535 ∧ ports.2 ≠ 0 ∧ ports.2.toNat = ports.1.toNat + 1 := by
  obtain ⟨-, hp, hnext⟩ := ports_eq_some hj
  rcases pred_next_port hnext with ⟨hfirst, -, -⟩ | hbelow
  · have hport : (attempt j).port = some 65535 := by
      rw [hp]
      exact congrArg some (UInt16.toNat_inj.mp hfirst)
    exact absurd hport (hports j hround)
  · exact hbelow

/-- Without a port to return, nothing has happened to the track. -/
theorem bindUdpPair_failed {t : RtspTrack} (hneg : (bindUdpPair attempt t).1 < 0) :
    ∃ outs, bindUdpPair attempt t = (-1, t, outs) ∧ leftOpen outs = [] ∧
      ∀ j, ¬ BindingRound attempt j := by
  rcases bindUdpPair_cases attempt t with hnone | ⟨j, ports, outs, hloop, -, hj, hround⟩
  · exact hnone
  · have hnext := next_port hports hround hj
    rw [hloop] at hneg
    omega

/-- The pair stored is the one whose port is returned. -/
theorem pairStored_iff (chosen : Nat → UInt16) (t : RtspTrack) (p : Nat) :
    (bindUdpPair attempt t).1 = p ↔ PairStored attempt chosen (bindUdpPair attempt t) p := by
  rcases bindUdpPair_cases attempt t with ⟨outs, hloop, -, hnone⟩ | ⟨j, ports, outs, hloop, hopen,
    hj, hround⟩
  · refine iff_of_false ?_ fun hstored => ?_
    · rw [hloop]
      show ¬ (-1 : Int) = p
      omega
    · obtain ⟨j, hround, -⟩ := hstored.bound
      exact hnone j hround
  · obtain ⟨hlt, hne, hsucc⟩ := next_port hports hround hj
    have hbound : (attempt j).bound (chosen j) = some (ports.1.toNat, ports.1.toNat + 1) := by
      rw [UdpAttempt.bound, hj, Option.map_some, if_neg hne, hsucc]
    obtain ⟨⟨hrtp, hrtcp⟩, -⟩ := ports_eq_some hj
    rw [hloop]
    constructor
    · intro hret
      have hp : p = ports.1.toNat := by omega
      refine ⟨⟨j, hround, ?_, rfl, rfl⟩, by omega, ?_⟩
      · rw [hp]
        exact hbound
      · show (leftOpen outs).Perm (heldFd (attempt j).rtp ++ heldFd (attempt j).rtcp)
        rw [hopen, heldFd_of_nonneg hrtp, heldFd_of_nonneg hrtcp]
        exact List.Perm.swap _ _ _
    · intro hstored
      obtain ⟨j', hround', hbound', -, -⟩ := hstored.bound
      obtain rfl := hround.unique hround'
      rw [hbound] at hbound'
      have hp : ports.1.toNat = p := (Prod.mk.inj (Option.some.inj hbound')).1
      show (ports.2.toNat : Int) - 1 = p
      omega

end Promise

/-- `bind_udp_pair` keeps its promise exactly if the round that binds both
sockets does not report port 65535. -/
theorem bindUdpPair_kept_iff (attempt : Nat → UdpAttempt) (chosen : Nat → UInt16)
    (t : RtspTrack) :
    PairKept attempt chosen t ↔
      ∀ j, BindingRound attempt j → (attempt j).port ≠ some 65535 := by
  constructor
  · intro hkept j hround hport
    exact not_pairKept hround hport chosen t hkept
  · intro hports
    refine ⟨pairStored_iff hports chosen t, fun hnot => ?_, ?_⟩
    · have hneg : (bindUdpPair attempt t).1 < 0 := by
        by_contra hport
        refine hnot (bindUdpPair attempt t).1.toNat ((pairStored_iff hports chosen t _).mp ?_)
        omega
      obtain ⟨outs, hloop, hopen, -⟩ := bindUdpPair_failed hports hneg
      rw [hloop]
      exact ⟨rfl, hopen, rfl, rfl⟩
    · intro srv c io req hattempt hfails
      obtain ⟨hneg, htrack⟩ := (handleRequest_effect srv c io req).fails hfails
      rw [hattempt] at hneg htrack
      obtain ⟨outs, hloop, -, -⟩ := bindUdpPair_failed hports hneg
      rw [htrack, hloop]
      rfl

/-- `getsockname` reports port 65535, and the kernel finds a port for the second
socket. -/
def lastPortAttempt : UdpAttempt := ⟨10, 11, true, some 65535, true⟩

/-- A SETUP is then answered 500 while its track holds two open sockets. -/
theorem last_port_is_lost : ¬ ∀ (attempt : Nat → UdpAttempt) (chosen : Nat → UInt16)
    (t : RtspTrack), (∀ i, (attempt i).port ≠ some 0) → PairKept attempt chosen t := by
  intro h
  have hround : BindingRound (fun _ => lastPortAttempt) 0 :=
    ⟨by decide, fun i hi => absurd hi (Nat.not_lt_zero i), by decide⟩
  exact not_pairKept hround rfl (fun _ => 40000) closedTrack (h _ _ _ fun _ => by decide)

/-! ## Failed requests -/

section Failed

variable {srv : RtspConf} {c : RtspClient} {io : RequestIo} {req : Bytes} {r : Outcome}

end Failed

/-- A closed track but for the two sockets of the round. -/
def UdpAttempt.held (a : UdpAttempt) : RtspTrack :=
  { closedTrack with rtpFd := a.rtp, rtcpFd := a.rtcp }

end Rtsp
end FH8852
