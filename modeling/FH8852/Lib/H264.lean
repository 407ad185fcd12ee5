import FH8852.CLib.Text

/-!
# H.264 in RTP payloads

A NAL goes into one payload as it is, or in fragments of type FU-A whose first
byte keeps the upper three bits of the NAL's header and whose second byte holds
the start and end bits with the NAL's type.
-/

namespace FH8852
namespace H264

open CLib

inductive Unit where
  | single (nal : Bytes)
  | fuA (start fin : Bool) (header : UInt8) (data : Bytes)
deriving DecidableEq

namespace Unit

def isFuA : Unit → Bool
  | fuA _ _ _ _ => true
  | single _ => false

def start : Unit → Bool
  | fuA start _ _ _ => start
  | single _ => false

def fin : Unit → Bool
  | fuA _ fin _ _ => fin
  | single _ => false

def data : Unit → Bytes
  | fuA _ _ _ data => data
  | single nal => nal

end Unit

def readPayload : Bytes → Option Unit
  | [] => none
  | first :: rest =>
    if 1 ≤ first &&& 0x1f ∧ first &&& 0x1f ≤ 23 then some (.single (first :: rest))
    else if first &&& 0x1f = 28 then
      match rest with
      | [] => none
      | fu :: data =>
        some (.fuA (fu &&& 0x80 != 0) (fu &&& 0x40 != 0) ((first &&& 0xe0) ||| (fu &&& 0x1f)) data)
    else none

/-- The NALs of a list of payloads, with the beginning of one that is not whole
yet.  Fragments out of place have no reading. -/
def reassemble : (pending : Option Bytes) → List Unit → Option (List Bytes)
  | none, [] => some []
  | none, .single nal :: rest => (reassemble none rest).map (nal :: ·)
  | none, .fuA true false header data :: rest => reassemble (some (header :: data)) rest
  | some nal, .fuA false fin header data :: rest =>
    if nal.head? ≠ some header then none
    else if fin then (reassemble none rest).map ((nal ++ data) :: ·)
    else reassemble (some (nal ++ data)) rest
  | _, _ => none

def readPayloads : List Bytes → Option (List Unit)
  | [] => some []
  | p :: payloads => (readPayload p).bind fun u => (readPayloads payloads).map (u :: ·)

def depacketise (payloads : List Bytes) : Option (List Bytes) :=
  (readPayloads payloads).bind (reassemble none)

theorem readPayloads_eq {payloads : List Bytes} {units : List Unit}
    (h : payloads.map readPayload = units.map some) : readPayloads payloads = some units := by
  induction payloads generalizing units with
  | nil =>
      cases units with
      | nil => rfl
      | cons u units => cases h
  | cons p payloads ih =>
      cases units with
      | nil => cases h
      | cons u units =>
          rw [List.map_cons, List.map_cons, List.cons.injEq] at h
          rw [readPayloads, h.1, ih h.2]
          rfl

/-! ## Fragments -/

/-- The units are fragments of a NAL with the given header that together hold the
data; the first is its start if `start` is set, and the last is its end. -/
inductive Fragments (header : UInt8) : (start : Bool) → Bytes → List Unit → Prop
  | last {start data} (hne : data ≠ []) : Fragments header start data [.fuA start true header data]
  | more {start data rest units} (hne : data ≠ []) (hrest : Fragments header false rest units) :
      Fragments header start (data ++ rest) (.fuA start false header data :: units)

namespace Fragments

variable {header : UInt8} {start : Bool} {data : Bytes} {units : List Unit}

theorem length_pos (h : Fragments header start data units) : 0 < units.length := by
  cases h with
  | last | more => exact Nat.succ_pos _

theorem fuA_nonempty (h : Fragments header start data units) :
    ∀ u ∈ units, u.isFuA = true ∧ u.data ≠ [] := by
  induction h with
  | last hne =>
      intro u hu
      rw [List.mem_singleton.mp hu]
      exact ⟨rfl, hne⟩
  | more hne hrest ih =>
      intro u hu
      rcases List.mem_cons.mp hu with rfl | hu
      · exact ⟨rfl, hne⟩
      · exact ih u hu

theorem starts (h : Fragments header start data units) :
    units.map Unit.start = start :: List.replicate (units.length - 1) false := by
  induction h with
  | last hne => rfl
  | more hne hrest ih =>
      rw [List.map_cons, ih, List.length_cons, Nat.add_sub_cancel, ← List.replicate_succ,
        Nat.sub_add_cancel hrest.length_pos]
      rfl

theorem ends (h : Fragments header start data units) :
    units.map Unit.fin = List.replicate (units.length - 1) false ++ [true] := by
  induction h with
  | last hne => rfl
  | more hne hrest ih =>
      have hlen := hrest.length_pos
      obtain ⟨n, hn⟩ : ∃ n, List.length _ = n + 1 := ⟨_, (Nat.sub_add_cancel hlen).symm⟩
      rw [List.map_cons, ih, List.length_cons, hn]
      rfl

omit header data units start in
theorem reassemble_fuA (header : UInt8) (begun : Bytes) (fin : Bool) (data : Bytes)
    (rest : List Unit) :
    reassemble (some (header :: begun)) (.fuA false fin header data :: rest) =
      if fin then (reassemble none rest).map ((header :: (begun ++ data)) :: ·)
      else reassemble (some (header :: (begun ++ data))) rest := by
  have hheader : ¬ (header :: begun).head? ≠ some header := not_not_intro rfl
  rw [reassemble, if_neg hheader]
  rfl

/-- Fragments that follow others complete what these began. -/
theorem reassemble_pending (h : Fragments header false data units) (begun : Bytes)
    (more : List Unit) : reassemble (some (header :: begun)) (units ++ more) =
      (reassemble none more).map ((header :: (begun ++ data)) :: ·) := by
  generalize hstart : false = start at h
  induction h generalizing begun with
  | last hne =>
      subst hstart
      exact reassemble_fuA header begun true _ more
  | @more start data rest units hne hrest ih =>
      subst hstart
      rw [List.cons_append, reassemble_fuA, if_neg Bool.false_ne_true, ih (begun ++ data) rfl,
        List.append_assoc]

/-- Two or more fragments from start to end give the NAL back. -/
theorem reassemble_whole (h : Fragments header true data units) (hlen : 2 ≤ units.length) :
    reassemble none units = some [header :: data] := by
  cases h with
  | last hne => exact absurd hlen (Nat.not_succ_le_self 1)
  | @more _ first rest units hne hrest =>
      have hbegun := hrest.reassemble_pending first []
      rw [List.append_nil] at hbegun
      exact hbegun

end Fragments

end H264
end FH8852
