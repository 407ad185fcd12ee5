import FH8852.Lib.H264
import FH8852.Lib.Rtp

/-!
# A receiver of H.264 over RTP

It takes packets one after the other and gives the NALs with the timestamp of
their packets and the marker of the last.  What no sender may send is `none`: a
fragment out of place, a change of the timestamp within a NAL, a marker before
its end, or an end of the packets within a NAL.
-/

namespace FH8852
namespace H264

open CLib

/-- A NAL as it is received; `marker` says that it ends its frame. -/
structure Sample where
  timestamp : Nat
  nal : Bytes
  marker : Bool
deriving DecidableEq

/-- One packet, with the timestamp and the beginning of a NAL that is not whole
yet: what is then pending, and the NAL that the packet completes. -/
def receiveUnit (pending : Option (Nat × Bytes)) (timestamp : Nat) (marker : Bool) :
    H264.Unit → Option (Option (Nat × Bytes) × List Sample)
  | .single nal =>
    match pending with
    | none => some (none, [⟨timestamp, nal, marker⟩])
    | some _ => none
  | .fuA start fin header data =>
    match pending with
    | none =>
      if start && !fin && !marker then some (some (timestamp, header :: data), []) else none
    | some (ts, nal) =>
      if start || nal.head? != some header || ts != timestamp then none
      else if fin then some (none, [⟨timestamp, nal ++ data, marker⟩])
      else if marker then none
      else some (some (timestamp, nal ++ data), [])

/-- The samples of a list of packets. -/
def receive : (pending : Option (Nat × Bytes)) → List Rtp.Packet → Option (List Sample)
  | none, [] => some []
  | some _, [] => none
  | pending, q :: rest => do
    let u ← readPayload q.payload
    let (pending, samples) ← receiveUnit pending q.timestamp q.marker u
    (receive pending rest).map (samples ++ ·)

theorem receive_cons {pending pending' : Option (Nat × Bytes)} {q : Rtp.Packet} {u : H264.Unit}
    {samples : List Sample} (hread : readPayload q.payload = some u)
    (hunit : receiveUnit pending q.timestamp q.marker u = some (pending', samples))
    (rest : List Rtp.Packet) :
    receive pending (q :: rest) = (receive pending' rest).map (samples ++ ·) := by
  cases pending <;> rw [receive, hread, Option.bind_eq_bind, Option.bind_some, hunit] <;> rfl

/-- A packet that completes no NAL. -/
theorem receive_more {pending pending' : Option (Nat × Bytes)} {q : Rtp.Packet} {u : H264.Unit}
    (hread : readPayload q.payload = some u)
    (hunit : receiveUnit pending q.timestamp q.marker u = some (pending', []))
    (rest : List Rtp.Packet) : receive pending (q :: rest) = receive pending' rest :=
  (receive_cons hread hunit rest).trans Option.map_id'

/-- A packet that completes one. -/
theorem receive_done {pending pending' : Option (Nat × Bytes)} {q : Rtp.Packet} {u : H264.Unit}
    {s : Sample} (hread : readPayload q.payload = some u)
    (hunit : receiveUnit pending q.timestamp q.marker u = some (pending', [s]))
    (rest : List Rtp.Packet) : receive pending (q :: rest) = (receive pending' rest).map (s :: ·) :=
  receive_cons hread hunit rest

/-! ## The packets of a NAL -/

/-- The packets make up the samples, whatever comes after them. -/
def Yields (packets : List Rtp.Packet) (samples : List Sample) : Prop :=
  ∀ rest, receive none (packets ++ rest) = (receive none rest).map (samples ++ ·)

theorem yields_single {q : Rtp.Packet} {nal : Bytes}
    (hread : readPayload q.payload = some (.single nal)) :
    Yields [q] [⟨q.timestamp, nal, q.marker⟩] := fun rest => receive_done hread rfl rest

theorem Yields.nil : Yields [] [] := fun _ => Option.map_id'.symm

theorem Yields.append {a b : List Rtp.Packet} {s t : List Sample} (ha : Yields a s)
    (hb : Yields b t) :
    Yields (a ++ b) (s ++ t) := by
  intro rest
  rw [List.append_assoc, ha, hb, Option.map_map]
  apply congrArg (Option.map · _)
  funext more
  exact (List.append_assoc s t more).symm

theorem Yields.receive {packets : List Rtp.Packet} {samples : List Sample}
    (h : Yields packets samples) :
    receive none packets = some samples := by
  have hall := h []
  rw [List.append_nil, H264.receive, Option.map_some, List.append_nil] at hall
  exact hall

/-- The timestamps and the markers of the packets of one NAL. -/
structure Timed (timestamp : Nat) (last : Bool) (packets : List Rtp.Packet) : Prop where
  timestamp : ∀ q ∈ packets, q.timestamp = timestamp
  marker : packets.map Rtp.Packet.marker = List.replicate (packets.length - 1) false ++ [last]

theorem Timed.of_cons {timestamp : Nat} {last : Bool} {q : Rtp.Packet} {packets : List Rtp.Packet}
    (h : Timed timestamp last (q :: packets)) (hne : packets ≠ []) :
    q.timestamp = timestamp ∧ q.marker = false ∧ Timed timestamp last packets := by
  obtain ⟨p, rest, rfl⟩ := List.exists_cons_of_ne_nil hne
  have htimes := List.forall_mem_cons.mp h.timestamp
  have hmarkers := List.cons.inj h.marker
  exact ⟨htimes.1, hmarkers.1, htimes.2, hmarkers.2⟩

theorem Timed.of_single {timestamp : Nat} {last : Bool} {q : Rtp.Packet}
    (h : Timed timestamp last [q]) : q.timestamp = timestamp ∧ q.marker = last :=
  ⟨h.timestamp q List.mem_cons_self, (List.cons.inj h.marker).1⟩

section Fragments

variable {header : UInt8} {timestamp : Nat} {last : Bool}

/-- A fragment after the first, of a NAL of which `begun` follows the header. -/
theorem receiveUnit_next (begun data : Bytes) (fin : Bool) (hmarker : fin = false → last = false) :
    receiveUnit (some (timestamp, header :: begun)) timestamp last (.fuA false fin header data) =
      if fin then some (none, [⟨timestamp, header :: (begun ++ data), last⟩])
      else some (some (timestamp, header :: (begun ++ data)), []) := by
  have hsame : (false || (header :: begun).head? != some header || timestamp != timestamp) =
    false := by
    simp
  rw [receiveUnit, hsame, if_neg Bool.false_ne_true]
  cases fin with
  | true => rfl
  | false =>
      rw [hmarker rfl]
      rfl

/-- The packets behind the first of more than one fragment. -/
theorem packets_ne_nil {data : Bytes} {units : List H264.Unit} {packets : List Rtp.Packet}
    {start : Bool} (h : Fragments header start data units)
    (hread : packets.map (fun q => readPayload q.payload) = units.map some) : packets ≠ [] := by
  rintro rfl
  have hlen := congrArg List.length hread
  rw [List.length_map, List.length_map] at hlen
  exact absurd hlen (Nat.ne_of_lt h.length_pos)

theorem receive_pending {data : Bytes} {units : List H264.Unit} {packets : List Rtp.Packet}
    (h : Fragments header false data units)
    (hread : packets.map (fun q => readPayload q.payload) = units.map some)
    (htimed : Timed timestamp last packets) (begun : Bytes) (rest : List Rtp.Packet) :
    receive (some (timestamp, header :: begun)) (packets ++ rest) =
      (receive none rest).map (⟨timestamp, header :: (begun ++ data), last⟩ :: ·) := by
  generalize hstart : false = start at h
  induction h generalizing packets begun with
  | @last start data hne =>
      subst hstart
      obtain ⟨q, rfl⟩ := List.length_eq_one_iff.mp (by simpa using congrArg List.length hread)
      obtain ⟨htime, hmarker⟩ := htimed.of_single
      have hunit := @receiveUnit_next header timestamp last begun data true
        fun hfin => by cases hfin
      rw [if_pos rfl] at hunit
      refine receive_done (List.cons.inj hread).1 ?_ rest
      rw [htime, hmarker]
      exact hunit
  | @more start data more units hne hrest ih =>
      subst hstart
      cases packets with
      | nil => cases hread
      | cons q packets =>
          obtain ⟨hfirst, hpackets⟩ := List.cons.inj hread
          obtain ⟨htime, hmarker, htail⟩ := htimed.of_cons (packets_ne_nil hrest hpackets)
          have hunit := @receiveUnit_next header timestamp false begun data false fun _ => rfl
          rw [if_neg Bool.false_ne_true] at hunit
          rw [← List.append_assoc, ← ih hpackets htail (begun ++ data) rfl]
          refine receive_more hfirst ?_ (packets ++ rest)
          rw [htime, hmarker]
          exact hunit

/-- Two or more fragments from start to end make up the NAL. -/
theorem Fragments.yields {data : Bytes} {units : List H264.Unit} {packets : List Rtp.Packet}
    (h : Fragments header true data units) (hlen : 2 ≤ units.length)
    (hread : packets.map (fun q => readPayload q.payload) = units.map some)
    (htimed : Timed timestamp last packets) :
      Yields packets [⟨timestamp, header :: data, last⟩] := by
  intro rest
  cases h with
  | last hne => exact absurd hlen (Nat.not_succ_le_self 1)
  | @more _ first more units hne hrest =>
      cases packets with
      | nil => cases hread
      | cons q packets =>
          obtain ⟨hfirst, hpackets⟩ := List.cons.inj hread
          obtain ⟨htime, hmarker, htail⟩ := htimed.of_cons (packets_ne_nil hrest hpackets)
          have hunit : receiveUnit none q.timestamp q.marker (.fuA true false header first) =
              some (some (timestamp, header :: first), []) := by
            rw [hmarker, htime]
            rfl
          exact (receive_more hfirst hunit (packets ++ rest)).trans
            (receive_pending hrest hpackets htail first rest)

end Fragments

/-! ## From bytes -/

def parsePackets : List Bytes → Option (List Rtp.Packet)
  | [] => some []
  | b :: rest => (Rtp.parse b).bind fun q => (parsePackets rest).map (q :: ·)

/-- What comes of the packets as they are sent. -/
def receiveBytes (packets : List Bytes) : Option (List Sample) :=
  (parsePackets packets).bind (receive none)

theorem parsePackets_eq {bytes : List Bytes} {packets : List Rtp.Packet}
    (h : bytes.map Rtp.parse = packets.map some) : parsePackets bytes = some packets := by
  induction bytes generalizing packets with
  | nil =>
      rw [List.map_nil, eq_comm, List.map_eq_nil_iff] at h
      rw [h]
      rfl
  | cons b bytes ih =>
      cases packets with
      | nil => cases h
      | cons q packets =>
          obtain ⟨hfirst, hrest⟩ := List.cons.inj h
          rw [parsePackets, hfirst, ih hrest]
          rfl

end H264
end FH8852
