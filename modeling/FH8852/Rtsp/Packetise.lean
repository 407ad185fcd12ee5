import Mathlib.Data.FinEnum
import FH8852.Lib.H264
import FH8852.Rtsp.Packets

/-!
# A NAL in packets

The packets of one call of `send_video_nal`, read as a receiver reads them.
-/

namespace FH8852
namespace Rtsp

open CLib H264

/-- The packet was given to neither transport. -/
def Out.isDropped : Out → Bool
  | .packet _ _ _ .dropped => true
  | _ => false

/-- What a call sends: packets with one timestamp, short enough for every
transport, of which the last is marked if the NAL ends the frame. -/
structure Burst (ts : UInt32) (last : Bool) (outs : List Out) (packets : List Rtp.Packet) :
    Prop where
  parses : (outs.filterMap (Out.rtp? .video)).map Rtp.parse = packets.map some
  fits : ∀ q ∈ packets, q.payload.length ≤ rtpMaxPayload
  timestamp : ∀ q ∈ packets, q.timestamp = ts.toNat
  marker : packets.map Rtp.Packet.marker = List.replicate (packets.length - 1) false ++ [last]
  sent : ∀ o ∈ outs, o.isDropped = false

theorem trackSend_not_dropped (t : RtspTrack) {k : TrackId} {rtcp : Bool} {data : Bytes}
    (hlen : data.length ≤ 12 + rtpMaxPayload) (answers : List SendResult) :
    (Out.packet k rtcp data (trackSend t rtcp data answers)).isDropped = false := by
  unfold trackSend
  split
  · rw [if_neg (by omega)]
    rfl
  · split <;> rfl

theorem rtpPacket_length (t : RtspTrack) (pt : UInt8) (marker : Bool) (ts : UInt32)
    (payload : Bytes) : (rtpPacket t pt marker ts payload).length = 12 + payload.length :=
  Nat.add_comm payload.length 12

theorem rtpSend_not_dropped (t : RtspTrack) (marker : Bool) (ts : UInt32) {payload : Bytes}
    (hlen : payload.length ≤ rtpMaxPayload) (answers : List SendResult) :
    (rtpSend .video t ptH264 marker ts payload answers).2.isDropped = false := by
  apply trackSend_not_dropped
  rw [rtpPacket_length]
  omega

/-- The packet that `rtp_send` makes of a payload. -/
def packetOf (t : RtspTrack) (marker : Bool) (ts : UInt32) (payload : Bytes) : Rtp.Packet :=
  { first := 0x80, marker := marker, payloadType := ptH264.toNat, seq := t.seq.toNat
    timestamp := ts.toNat, ssrc := t.ssrc.toNat, payload := payload }

theorem Burst.single (t : RtspTrack) (ts : UInt32) (last : Bool) {payload : Bytes}
    (hlen : payload.length ≤ rtpMaxPayload) (answers : List SendResult) :
    Burst ts last [(rtpSend .video t ptH264 last ts payload answers).2]
      [packetOf t last ts payload] where
  parses := congrArg (· :: []) (parse_rtpPacket .video t last ts payload)
  fits := fun q hq => by rw [List.mem_singleton.mp hq]; exact hlen
  timestamp := fun q hq => by rw [List.mem_singleton.mp hq]; rfl
  marker := rfl
  sent := fun o ho => by
    rw [List.mem_singleton.mp ho]
    exact rtpSend_not_dropped t last ts hlen answers

theorem Burst.cons (t : RtspTrack) {ts : UInt32} {last : Bool} {payload : Bytes}
    {outs : List Out} {packets : List Rtp.Packet} (hlen : payload.length ≤ rtpMaxPayload)
    (answers : List SendResult) (h : Burst ts last outs packets) (hne : 0 < packets.length) :
    Burst ts last ((rtpSend .video t ptH264 false ts payload answers).2 :: outs)
      (packetOf t false ts payload :: packets) where
  parses := congr (congrArg List.cons (parse_rtpPacket .video t false ts payload)) h.parses
  fits := List.forall_mem_cons.mpr ⟨hlen, h.fits⟩
  timestamp := List.forall_mem_cons.mpr ⟨rfl, h.timestamp⟩
  marker := by
    obtain ⟨n, hn⟩ : ∃ n, packets.length = n + 1 := ⟨_, (Nat.sub_add_cancel hne).symm⟩
    rw [List.map_cons, h.marker, List.length_cons, hn]
    rfl
  sent := List.forall_mem_cons.mpr ⟨rtpSend_not_dropped t false ts hlen answers, h.sent⟩

/-- The two bytes before a fragment. -/
def fuBytes (header : UInt8) (start fin : Bool) : UInt8 × UInt8 :=
  let fu := (if start then 0x80 else 0) ||| (header &&& 0x1f)
  ((header &&& 0xe0) ||| nalFuA, if fin then fu ||| 0x40 else fu)

theorem fuBytes_spec (header : UInt8) (start fin : Bool) :
    (fuBytes header start fin).1 &&& 0x1f = 28 ∧
      ((fuBytes header start fin).2 &&& 0x80 != 0) = start ∧
      ((fuBytes header start fin).2 &&& 0x40 != 0) = fin ∧
      (((fuBytes header start fin).1 &&& 0xe0) ||| ((fuBytes header start fin).2 &&& 0x1f)) =
        header ∧
      (fuBytes header start false).2 &&& 0x7f = (fuBytes header false false).2 := by
  revert header start fin
  decide +kernel

theorem readPayload_fragment (header : UInt8) (start fin : Bool) (data : Bytes) :
    readPayload ((fuBytes header start fin).1 :: (fuBytes header start fin).2 :: data) =
      some (.fuA start fin header data) := by
  obtain ⟨htype, hstart, hfin, hheader, -⟩ := fuBytes_spec header start fin
  have hnot : ¬ ((1 : UInt8) ≤ 28 ∧ (28 : UInt8) ≤ 23) := by decide
  rw [readPayload, htype, if_neg hnot, if_pos rfl, hstart, hfin, hheader]

section Loop

variable {nal : Bytes} {ts : UInt32} {last : Bool} {answers : Nat → List SendResult}

theorem sendFragments_done {fuel off : Nat} (h : nal.length ≤ off) (n : Nat) (fu : UInt8)
    (t : RtspTrack) : sendFragments nal ts last answers fuel n off fu t = (t, []) := by
  cases fuel with
  | zero => rfl
  | succ fuel => rw [sendFragments, if_neg (Nat.not_lt.mpr h)]

/-- The round that takes the rest of the NAL is the last. -/
theorem sendFragments_last {fuel off : Nat} (hoff : off < nal.length)
    (hrest : nal.length - off ≤ fuAData) (n : Nat) (start : Bool) (t : RtspTrack) :
    (sendFragments nal ts last answers (fuel + 1) n off (fuBytes (nal.headD 0) start false).2 t).2 =
      [(rtpSend .video t ptH264 last ts ((fuBytes (nal.headD 0) start true).1 ::
        (fuBytes (nal.headD 0) start true).2 :: nal.drop off) (answers n)).2] := by
  have hchunk : (if nal.length - off < fuAData then nal.length - off else fuAData) =
      nal.length - off := by
    split <;> omega
  have hend : off + (nal.length - off) = nal.length := by omega
  have htake : (nal.drop off).take (nal.length - off) = nal.drop off := by
    apply List.take_of_length_le
    rw [List.length_drop]
  rw [sendFragments, if_pos hoff]
  simp only [hchunk, hend, decide_true, if_true, Bool.and_true, htake]
  rw [sendFragments_done (by omega)]
  rfl

/-- A round that leaves a part of the NAL. -/
theorem sendFragments_next {fuel off : Nat} (hoff : off + fuAData < nal.length) (n : Nat)
    (start : Bool) (t : RtspTrack) :
    (sendFragments nal ts last answers (fuel + 1) n off (fuBytes (nal.headD 0) start false).2 t).2 =
      (rtpSend .video t ptH264 false ts ((fuBytes (nal.headD 0) start false).1 ::
        (fuBytes (nal.headD 0) start false).2 :: (nal.drop off).take fuAData) (answers n)).2 ::
      (sendFragments nal ts last answers fuel (n + 1) (off + fuAData)
        (fuBytes (nal.headD 0) false false).2 { t with seq := t.seq + 1 }).2 := by
  obtain ⟨-, -, -, -, hnext⟩ := fuBytes_spec (nal.headD 0) start false
  rw [sendFragments_more hoff, hnext]
  rfl

end Loop

/-- The fragments from an offset on. -/
theorem sendFragments_burst {nal : Bytes} (ts : UInt32) (last : Bool)
    (answers : Nat → List SendResult) {fuel off : Nat} (hoff : off < nal.length)
    (hfuel : nal.length - off ≤ fuel) (n : Nat) (start : Bool) (t : RtspTrack) :
    ∃ packets units,
      Burst ts last (sendFragments nal ts last answers fuel n off
        (fuBytes (nal.headD 0) start false).2 t).2 packets ∧
      packets.map (fun q => readPayload q.payload) = units.map some ∧
      Fragments (nal.headD 0) start (nal.drop off) units ∧
      (fuAData < nal.length - off → 2 ≤ units.length) := by
  induction fuel generalizing off n start t with
  | zero => omega
  | succ fuel ih =>
      have hmax : rtpMaxPayload = fuAData + 2 := rfl
      by_cases hrest : nal.length - off ≤ fuAData
      · have hdata : nal.drop off ≠ [] := by
          intro h
          have := List.drop_eq_nil_iff.mp h
          omega
        rw [sendFragments_last hoff hrest]
        refine ⟨_, [.fuA start true (nal.headD 0) (nal.drop off)],
          .single t ts last ?_ (answers n), ?_, .last hdata,
          fun h => absurd hrest (Nat.not_le.mpr h)⟩
        · rw [List.length_cons, List.length_cons, List.length_drop]
          omega
        · exact congrArg (· :: []) (readPayload_fragment _ start true _)
      · have hoff' : off + fuAData < nal.length := by omega
        have hpos : 0 < fuAData := by decide
        obtain ⟨packets, units, hburst, hread, hfragments, -⟩ :=
          ih hoff' (by omega) (n + 1) false { t with seq := t.seq + 1 }
        have hne : 0 < packets.length := by
          have hlen := congrArg List.length hread
          rw [List.length_map, List.length_map] at hlen
          rw [hlen]
          exact hfragments.length_pos
        have hchunk : ((nal.drop off).take fuAData).length = fuAData := by
          rw [List.length_take, List.length_drop]
          omega
        rw [sendFragments_next hoff']
        refine ⟨_, .fuA start false (nal.headD 0) ((nal.drop off).take fuAData) :: units,
          .cons t ?_ (answers n) hburst hne, ?_, ?_,
          fun _ => Nat.succ_le_succ hfragments.length_pos⟩
        · rw [List.length_cons, List.length_cons, hchunk]
          omega
        · exact congr (congrArg List.cons (readPayload_fragment _ start false _)) hread
        · have hsplit : nal.drop off = (nal.drop off).take fuAData ++ nal.drop (off + fuAData) := by
            rw [← List.drop_drop, List.take_append_drop]
          have hsome : (nal.drop off).take fuAData ≠ [] := by
            intro h
            rw [h] at hchunk
            cases hchunk
          have hmore : Fragments (nal.headD 0) start
              ((nal.drop off).take fuAData ++ nal.drop (off + fuAData)) _ :=
            .more hsome hfragments
          rwa [← hsplit] at hmore

/-! ## A whole NAL -/

theorem Burst.videoNal {ts : UInt32} {last : Bool} {outs : List Out}
    {packets : List Rtp.Packet} (h : Burst ts last outs packets) (nal : Bytes) :
    Burst ts last (.videoNal nal :: outs) packets :=
  { h with
    parses := h.parses
    sent := List.forall_mem_cons.mpr ⟨rfl, h.sent⟩ }

/-- What `send_video_nal` makes of any NAL: one packet with the NAL as it is, or
fragments of it. -/
theorem sendVideoNal_burst (t : RtspTrack) (nal : Bytes) (ts : UInt32) (last : Bool)
    (answers : Nat → List SendResult) :
    ∃ packets, Burst ts last (sendVideoNal t nal ts last answers).2 packets ∧
      (nal.length ≤ rtpMaxPayload → packets.map Rtp.Packet.payload = [nal]) ∧
      (rtpMaxPayload < nal.length → ∃ units,
        packets.map (fun q => readPayload q.payload) = units.map some ∧
          Fragments (nal.headD 0) true (nal.drop 1) units ∧ 2 ≤ units.length) := by
  unfold sendVideoNal
  by_cases h : nal.length ≤ rtpMaxPayload
  · rw [if_pos h]
    exact ⟨_, (Burst.single t ts last h (answers 0)).videoNal nal, fun _ => rfl,
      fun hlong => absurd h (Nat.not_le.mpr hlong)⟩
  · rw [if_neg h]
    have hlong : rtpMaxPayload < nal.length := Nat.lt_of_not_le h
    have hoff : 1 < nal.length := Nat.lt_of_le_of_lt (by decide) hlong
    have hmore : fuAData < nal.length - 1 := by
      have : fuAData + 1 < rtpMaxPayload := by decide
      omega
    obtain ⟨packets, units, hburst, hread, hfragments, htwo⟩ :=
      sendFragments_burst ts last answers hoff (Nat.sub_le nal.length 1) 0 true t
    exact ⟨packets, hburst.videoNal nal, fun hshort => absurd hshort h,
      fun _ => ⟨units, hread, hfragments, htwo hmore⟩⟩

/-- The packets of a NAL give it back.  A NAL of at most 1200 bytes is one packet;
a longer one is fragments, none of them empty, of which the first alone has the
start bit and the last alone the end bit. -/
theorem nal_read_back (t : RtspTrack) (nal : Bytes) (ts : UInt32) (last : Bool)
    (answers : Nat → List SendResult) (hlen : 1 ≤ nal.length)
    (htype : 1 ≤ nalType nal ∧ nalType nal ≤ 23) :
    ∃ packets units, Burst ts last (sendVideoNal t nal ts last answers).2 packets ∧
      packets.map (fun q => readPayload q.payload) = units.map some ∧
      depacketise (packets.map Rtp.Packet.payload) = some [nal] ∧
      (nal.length ≤ 1200 → units = [.single nal]) ∧
      (1200 < nal.length → 2 ≤ units.length ∧ (∀ u ∈ units, u.isFuA = true ∧ u.data ≠ []) ∧
        units.map H264.Unit.start = true :: List.replicate (units.length - 1) false ∧
        units.map H264.Unit.fin = List.replicate (units.length - 1) false ++ [true]) := by
  obtain ⟨packets, hburst, hshort, hlong⟩ := sendVideoNal_burst t nal ts last answers
  obtain ⟨header, rest, rfl⟩ := List.exists_cons_of_length_pos hlen
  rcases Nat.lt_or_ge rtpMaxPayload (header :: rest).length with h | h
  · obtain ⟨units, hread, hfragments, htwo⟩ := hlong h
    refine ⟨packets, units, hburst, hread, ?_, fun hle => absurd hle (Nat.not_le.mpr h),
      fun _ => ⟨htwo, hfragments.fuA_nonempty, hfragments.starts, hfragments.ends⟩⟩
    rw [depacketise, readPayloads_eq (by rw [List.map_map]; exact hread)]
    exact hfragments.reassemble_whole htwo
  · have hpayload := hshort h
    have hsingle : readPayload (header :: rest) = some (.single (header :: rest)) := if_pos htype
    have hread : packets.map (fun q => readPayload q.payload) =
      [some (.single (header :: rest))] := by
      rw [← hsingle]
      exact (List.map_map).symm.trans (congrArg (List.map readPayload) hpayload)
    refine ⟨packets, [.single (header :: rest)], hburst, hread, ?_, fun _ => rfl,
      fun hlt => absurd hlt (Nat.not_lt.mpr h)⟩
    have hunits : [header :: rest].map readPayload = [H264.Unit.single (header :: rest)].map some :=
      congrArg (· :: []) hsingle
    rw [hpayload, depacketise, readPayloads_eq hunits]
    rfl

/-- An IDR slice of 1300 bytes. -/
def sampleSlice : Bytes := 0x65 :: List.replicate 1299 0

theorem sampleSlice_spec :
    1 ≤ sampleSlice.length ∧ 1 ≤ nalType sampleSlice ∧ nalType sampleSlice ≤ 23 := by
  constructor
  · rw [sampleSlice, List.length_cons]
    omega
  · show (1 : UInt8) ≤ 0x65 &&& 0x1f ∧ (0x65 : UInt8) &&& 0x1f ≤ 23
    decide

theorem nal_read_back_sample :
    (1 ≤ sampleSlice.length ∧ 1 ≤ nalType sampleSlice ∧ nalType sampleSlice ≤ 23) ∧
    ∃ packets units,
      Burst 0 true (sendVideoNal (clientInit.tracks .video) sampleSlice 0 true fun _ => []).2
        packets ∧
      packets.map (fun q => readPayload q.payload) = units.map some ∧
      depacketise (packets.map Rtp.Packet.payload) = some [sampleSlice] ∧
      (sampleSlice.length ≤ 1200 → units = [.single sampleSlice]) ∧
      (1200 < sampleSlice.length → 2 ≤ units.length ∧
        (∀ u ∈ units, u.isFuA = true ∧ u.data ≠ []) ∧
        units.map H264.Unit.start = true :: List.replicate (units.length - 1) false ∧
        units.map H264.Unit.fin = List.replicate (units.length - 1) false ++ [true]) :=
  ⟨sampleSlice_spec, nal_read_back (clientInit.tracks .video) sampleSlice 0 true (fun _ => [])
    sampleSlice_spec.1 sampleSlice_spec.2⟩

end Rtsp
end FH8852
