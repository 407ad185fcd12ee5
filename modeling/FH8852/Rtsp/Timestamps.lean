import FH8852.Lib.Ticks
import FH8852.Rtsp.Isolation
import FH8852.Rtsp.Packetise
import FH8852.Rtsp.Playback
import Mathlib.Data.UInt

/-!
# Timestamps

The RTP timestamps of video are 90000 ticks a second from a random base, cut to
whole ticks and to 32 bits.
-/

namespace FH8852
namespace Rtsp

open CLib Ticks

/-- The time `us` and the base do not overflow the product with 9. -/
def FitsClock (b : UInt32) (us : UInt64) : Prop := 9 * (us.toNat + b.toNat) < 2 ^ 64

/-- The step is, modulo 2 ^ 32, a number of ticks less than one off the exact
number for the time from `p` to `q`, and the exact one where that is whole. -/
def TracksTime (p q : UInt64) (step : UInt32) : Prop :=
  ∃ d, step.toNat = d % 2 ^ 32 ∧ Near 9 100 d (q.toNat - p.toNat) ∧
    (100 ∣ q.toNat - p.toNat → d * 100 = 9 * (q.toNat - p.toNat))

/-- The steps between the timestamps of successive frames. -/
def timestampSteps (b : UInt32) : List UInt64 → List UInt32
  | p :: q :: rest => (rtpTimestamp q b - rtpTimestamp p b) :: timestampSteps b (q :: rest)
  | _ => []

/-! ## One step -/

theorem rtpTimestamp_toNat {b : UInt32} {us : UInt64} (h : FitsClock b us) :
    (rtpTimestamp us b).toNat = ticks 9 100 (us.toNat + b.toNat) % 2 ^ 32 := by
  unfold FitsClock at h
  have hsum : (us + b.toUInt64).toNat = us.toNat + b.toNat := by
    rw [UInt64.toNat_add, UInt32.toNat_toUInt64]
    omega
  have hproduct : ((us + b.toUInt64) * 9).toNat = 9 * (us.toNat + b.toNat) := by
    rw [UInt64.toNat_mul, hsum]
    show (us.toNat + b.toNat) * 9 % 2 ^ 64 = _
    omega
  rw [rtpTimestamp, UInt64.toNat_toUInt32, UInt64.toNat_div, hproduct]
  rfl

theorem timestamp_step {b : UInt32} {p q : UInt64} (h : p ≤ q) (hq : FitsClock b q) :
    (rtpTimestamp q b - rtpTimestamp p b).toNat =
      (ticks 9 100 (q.toNat + b.toNat) - ticks 9 100 (p.toNat + b.toNat)) % 2 ^ 32 := by
  have hle : p.toNat ≤ q.toNat := UInt64.le_iff_toNat_le.mp h
  have hp : FitsClock b p := by
    unfold FitsClock at hq ⊢
    omega
  have hticks : ticks 9 100 (p.toNat + b.toNat) ≤ ticks 9 100 (q.toNat + b.toNat) :=
    ticks_le (Nat.add_le_add_right hle _)
  rw [UInt32.toNat_sub, rtpTimestamp_toNat hq, rtpTimestamp_toNat hp]
  omega

theorem timestamp_tracksTime {b : UInt32} {p q : UInt64} (h : p ≤ q) (hq : FitsClock b q) :
    TracksTime p q (rtpTimestamp q b - rtpTimestamp p b) := by
  have hle : p.toNat ≤ q.toNat := UInt64.le_iff_toNat_le.mp h
  have hlen : q.toNat + b.toNat - (p.toNat + b.toNat) = q.toNat - p.toNat := by omega
  have hnear := ticks_sub_near (show 0 < 100 by decide) 9 (p.toNat + b.toNat) (q.toNat + b.toNat)
  have hexact := @ticks_sub_of_dvd 9 100 _ _ (by omega) (Nat.add_le_add_right hle b.toNat)
  rw [hlen] at hnear hexact
  exact ⟨_, timestamp_step h hq, hnear, hexact⟩

/-- The steps of two clocks on different bases are within one tick. -/
theorem tracksTime_close {p q : UInt64} {step step' : UInt32} (h : TracksTime p q step)
    (h' : TracksTime p q step') :
    ∃ d d', step.toNat = d % 2 ^ 32 ∧ step'.toNat = d' % 2 ^ 32 ∧ d ≤ d' + 1 ∧ d' ≤ d + 1 := by
  obtain ⟨d, hd, hnear, -⟩ := h
  obtain ⟨d', hd', hnear', -⟩ := h'
  exact ⟨d, d', hd, hd', hnear.le_succ hnear', hnear'.le_succ hnear⟩

/-! ## Many steps -/

theorem timestampSteps_sum (b : UInt32) (p : UInt64) (times : List UInt64) :
    (timestampSteps b (p :: times)).sum =
      rtpTimestamp (times.getLastD p) b - rtpTimestamp p b := by
  induction times generalizing p with
  | nil =>
      show (0 : UInt32) = rtpTimestamp p b - rtpTimestamp p b
      grind
  | cons q times ih =>
      have hlast : (q :: times).getLastD p = times.getLastD q := by
        cases times <;> rfl
      rw [timestampSteps, List.sum_cons, ih, hlast]
      grind

/-! ## The packets of a push -/

theorem conf_videoTsBase (e : Event) (conf : RtspConf) :
    (e.conf conf).videoTsBase = conf.videoTsBase := by
  cases e with
  | pushNal p answers =>
      show (if _ then _ else _ : RtspConf).videoTsBase = _
      split
      · rfl
      · unfold cacheParamSet
        split
        · rfl
        · split <;> rfl
  | enableStream id fps =>
      show (if _ then _ else _ : RtspConf).videoTsBase = _
      split <;> rfl
  | poll | setCredentials | useShadow | onIdrRequest | close => rfl

/-- The video packets among the outputs have the timestamp. -/
def Stamped (ts : UInt32) (outs : List Out) : Prop :=
  ∀ data ∈ outs.filterMap (Out.rtp? .video),
    (Rtp.parse data).map Rtp.Packet.timestamp = some ts.toNat

theorem stamped_nil (ts : UInt32) : Stamped ts [] := fun _ h => absurd h List.not_mem_nil

theorem sendVideoNal_stamped (t : RtspTrack) (nal : Bytes) (ts : UInt32) (last : Bool)
    (answers : Nat → List SendResult) : Stamped ts (sendVideoNal t nal ts last answers).2 := by
  intro data hdata
  obtain ⟨packets, hburst, -⟩ := sendVideoNal_burst t nal ts last answers
  have hparsed : Rtp.parse data ∈ packets.map some := by
    rw [← hburst.parses]
    exact List.mem_map_of_mem hdata
  obtain ⟨q, hq, hparse⟩ := List.mem_map.mp hparsed
  rw [← hparse, Option.map_some, hburst.timestamp q hq]

theorem pushClient_stamped (conf : RtspConf) (p : Push) (answers : Nat → List SendResult)
    (c : RtspClient) : ∀ m ∈ (pushClient conf p answers c).2,
      Stamped (rtpTimestamp p.ptsUs (conf.videoTsBase p.streamId.toNat)) m.outs := by
  intro m hm
  unfold pushClient at hm
  split at hm
  · rw [List.mem_singleton.mp hm]
    exact stamped_nil _
  · split at hm
    · rw [List.mem_singleton.mp hm]
      exact stamped_nil _
    · rw [List.mem_singleton.mp hm]
      exact sendVideoNal_stamped _ _ _ _ _

theorem apply_push_stamped (srv : RtspServer) (e : Event) (i : Slot) {m : Move}
    (hm : m ∈ slotLog i (e.apply srv).2) {p : Push} (hact : m.act = .push p) :
    Stamped (rtpTimestamp p.ptsUs (srv.videoTsBase p.streamId.toNat)) m.outs := by
  have hpushed : p ∈ (slotLog i (e.apply srv).2).filterMap Move.pushed :=
    List.mem_filterMap.mpr ⟨m, hm, by rw [Move.pushed, hact]⟩
  rw [apply_pushed, Option.mem_toList] at hpushed
  cases e with
  | pushNal p' answers =>
      obtain rfl : p' = p := Option.some.inj hpushed
      have hbase := conf_videoTsBase (.pushNal p' answers) srv.toRtspConf
      have hlog : slotLog i ((Event.pushNal p' answers).apply srv).2 = [] ++ _ :=
        (apply_slot srv (.pushNal p' answers) i).2
      rw [hlog, List.nil_append] at hm
      simp only [Event.client] at hm
      simp only [Event.conf] at hbase
      split at hm
      · rw [List.mem_singleton.mp hm]
        exact stamped_nil _
      · rename_i hguard
        rw [if_neg hguard] at hbase
        split at hm
        · rw [List.mem_singleton.mp hm]
          exact stamped_nil _
        · rw [← hbase]
          exact pushClient_stamped _ _ _ _ m hm
  | poll | setCredentials | useShadow | enableStream | onIdrRequest | close => cases hpushed

theorem run_push_stamped (srv : RtspServer) (evs : List Event) (i : Slot) {m : Move}
    (hm : m ∈ slotLog i (run srv evs).2) {p : Push} (hact : m.act = .push p) :
    Stamped (rtpTimestamp p.ptsUs (srv.videoTsBase p.streamId.toNat)) m.outs := by
  induction evs generalizing srv with
  | nil => cases hm
  | cons e evs ih =>
      have hm : m ∈ slotLog i (_ ++ _) := hm
      rw [slotLog_append, List.mem_append] at hm
      rcases hm with hm | hm
      · exact apply_push_stamped srv e i hm hact
      · have hstamped := ih (e.apply srv).1 hm
        have hbase : (e.apply srv).1.videoTsBase = srv.videoTsBase := by
          have hconf := congrArg RtspConf.videoTsBase (apply_conf srv e)
          exact hconf.trans (conf_videoTsBase e srv.toRtspConf)
        rw [hbase] at hstamped
        exact hstamped

/-! ## The clock of a stream -/

/-- The timestamps on a base keep step with the times of the frames. -/
structure KeepsTime (b : UInt32) : Prop where
  step : ∀ p q, p ≤ q → FitsClock b q → TracksTime p q (rtpTimestamp q b - rtpTimestamp p b)
  steps : ∀ p times, (p :: times).Pairwise (· ≤ ·) → (∀ q ∈ p :: times, FitsClock b q) →
    TracksTime p (times.getLastD p) (timestampSteps b (p :: times)).sum
  close : ∀ b' p q, p ≤ q → FitsClock b q → FitsClock b' q →
    ∃ d d', (rtpTimestamp q b - rtpTimestamp p b).toNat = d % 2 ^ 32 ∧
      (rtpTimestamp q b' - rtpTimestamp p b').toNat = d' % 2 ^ 32 ∧ d ≤ d' + 1 ∧ d' ≤ d + 1

theorem keepsTime (b : UInt32) : KeepsTime b where
  step := fun _ _ h hq => timestamp_tracksTime h hq
  steps := by
    intro p times hsorted hfits
    have hlast : times.getLastD p ∈ p :: times := by
      cases times with
      | nil => exact List.mem_cons_self
      | cons q times => exact List.mem_cons_of_mem p (List.getLast_mem (List.cons_ne_nil q times))
    have hle : p ≤ times.getLastD p := by
      rcases List.mem_cons.mp hlast with hsame | hmem
      · rw [hsame]
        exact UInt64.le_refl p
      · exact (List.pairwise_cons.mp hsorted).1 _ hmem
    rw [timestampSteps_sum]
    exact timestamp_tracksTime hle (hfits _ hlast)
  close := fun _ _ _ h hq hq' =>
    tracksTime_close (timestamp_tracksTime h hq) (timestamp_tracksTime h hq')

/-- Every video packet has the timestamp of its NAL on the base of the stream,
and timestamps keep step with the times on every base. -/
theorem push_timestamps_keep_time (io : InitIo) (evs : List Event) (i : Slot) :
    (∀ m ∈ history io evs i, ∀ p, m.act = .push p →
      Stamped (rtpTimestamp p.ptsUs ((initialServer io).videoTsBase p.streamId.toNat)) m.outs) ∧
      ∀ b, KeepsTime b :=
  ⟨fun _ hm _ hact => run_push_stamped _ evs i hm hact, keepsTime⟩

theorem push_timestamps_keep_time_sample :
    TracksTime 0 40000 (rtpTimestamp 40000 7 - rtpTimestamp 0 7) :=
  ((push_timestamps_keep_time sampleInit [] 0).2 7).step 0 40000 (by decide)
    (by unfold FitsClock; decide)

end Rtsp
end FH8852
