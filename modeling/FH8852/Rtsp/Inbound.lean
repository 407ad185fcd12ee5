import FH8852.Rtsp.Receive

/-!
# Requests among binary packets

On the TCP transport a client sends framed binary packets between its requests.
The server takes every byte it receives for request text, so its requests come
out right up to the first packet and no further.
-/

namespace FH8852
namespace Rtsp

open CLib History

/-! ## What a client sends -/

inductive Item where
  | request (text : Bytes)
  | packet (channel : UInt8) (payload : Bytes)

namespace Item

def bytes : Item → Bytes
  | request text => text
  | packet channel payload => frame channel payload

def request? : Item → Option Bytes
  | request text => some text
  | packet _ _ => none

/-- A request ends at its first blank line and fits into `rxbuf`. -/
def WellFormed : Item → Prop
  | request text =>
      (0 : UInt8) ∉ text ∧ through blankLine text = some text ∧ text.length ≤ sizeofRxbuf - 1
  | packet _ payload => payload.length < 65536

instance (item : Item) : Decidable item.WellFormed :=
  match item with
  | request text => inferInstanceAs (Decidable ((0 : UInt8) ∉ text ∧
      through blankLine text = some text ∧ text.length ≤ sizeofRxbuf - 1))
  | packet _ payload => inferInstanceAs (Decidable (payload.length < 65536))

end Item

def itemBytes (items : List Item) : Bytes := items.flatMap Item.bytes

def requestsOf (items : List Item) : List Bytes := items.filterMap Item.request?

/-- The requests that lie within the first `n` bytes. -/
def arrived : List Item → Nat → List Bytes
  | [], _ => []
  | item :: items, n =>
    if item.bytes.length ≤ n then
      item.request?.toList ++ arrived items (n - item.bytes.length)
    else []

/-- The number of bytes before the first packet. -/
def textLength : List Item → Nat
  | .request text :: items => text.length + textLength items
  | _ => 0

theorem arrived_isPrefix (items : List Item) (n : Nat) : arrived items n <+: requestsOf items := by
  induction items generalizing n with
  | nil => exact List.nil_prefix
  | cons item items ih =>
      have hsplit : requestsOf (item :: items) = item.request?.toList ++ requestsOf items := by
        cases item <;> rfl
      rw [arrived, hsplit]
      split
      · exact (List.prefix_append_right_inj _).mpr (ih _)
      · exact List.nil_prefix

/-- What is received before the first packet: its pieces are the requests that
have arrived, and what follows them is the beginning of one request. -/
theorem pieces_arrived {items : List Item} (hitems : ∀ item ∈ items, item.WellFormed) {s : Bytes}
    (hs : s <+: itemBytes items) (hlen : s.length ≤ textLength items) :
    (0 : UInt8) ∉ s ∧ pieces blankLine s = arrived items s.length ∧
      s.length < (pieces blankLine s).flatten.length + (sizeofRxbuf - 1) := by
  have hempty : (0 : UInt8) ∉ ([] : Bytes) ∧ pieces blankLine [] = [] ∧
      ([] : Bytes).length < ([] : Bytes).length + (sizeofRxbuf - 1) := by decide
  induction items generalizing s with
  | nil =>
      rw [List.prefix_nil.mp hs]
      exact ⟨hempty.1, hempty.2.1, hempty.2.2⟩
  | cons item items ih =>
      have hrest := fun item' h' => hitems item' (List.mem_cons_of_mem _ h')
      cases item with
      | packet channel payload =>
          obtain rfl : s = [] := List.length_eq_zero_iff.mp (Nat.le_zero.mp hlen)
          exact ⟨hempty.1, hempty.2.1, hempty.2.2⟩
      | request text =>
          obtain ⟨hnul, hthrough, hfits⟩ := hitems _ List.mem_cons_self
          have hs : s <+: text ++ itemBytes items := hs
          have hlen : s.length ≤ text.length + textLength items := hlen
          have harrived : arrived (.request text :: items) s.length =
              if text.length ≤ s.length then text :: arrived items (s.length - text.length)
              else [] := rfl
          rw [harrived]
          by_cases hle : text.length ≤ s.length
          · -- the whole request has arrived
            obtain ⟨s, rfl⟩ := List.prefix_of_prefix_length_le (List.prefix_append _ _) hs hle
            have hs := (List.prefix_append_right_inj text).mp hs
            rw [List.length_append] at hlen ⊢
            obtain ⟨hnul', hpieces, hlen'⟩ := ih hrest hs (by omega)
            rw [if_pos (by omega), Nat.add_sub_cancel_left, ← hpieces,
              pieces_append blankLine_ne_nil hthrough, List.flatten_cons, List.length_append]
            refine ⟨?_, rfl, by omega⟩
            rw [List.mem_append, not_or]
            exact ⟨hnul, hnul'⟩
          · have hs : s <+: text :=
              List.prefix_of_prefix_length_le hs (List.prefix_append _ _) (by omega)
            rw [if_neg hle, pieces_of_isPrefix blankLine_ne_nil hthrough hs (by omega)]
            refine ⟨fun h => hnul (hs.subset h), rfl, ?_⟩
            rw [List.flatten_nil, List.length_nil]
            omega

/-! ## Runs -/

instance (srv : RtspConf) (req : Bytes) : Decidable (HeldBack srv req) :=
  inferInstanceAs (Decidable (_ ∧ (_ ∨ _)))

/-- The buffer is full after a drain, with a request at its head that is held
back. -/
def Move.pilesUp (m : Move) : Bool :=
  m.overflows && (nextRequest m.pre).any fun req => decide (HeldBack m.srv req)

/-- A full buffer holds a whole request, so unless that one is held back no
buffer is full after a drain. -/
theorem Turn.overflows_eq_false {w : List Move} {m : Move} {items : List Item}
    (hturn : Turn m) (horder : InOrder w m.pre) (hfits : RxFits m.pre)
    (hitems : ∀ item ∈ items, item.WellFormed) (hreceived : received w <+: itemBytes items)
    (htext : (received w).length ≤ textLength items) (hheld : m.pilesUp = false) :
    m.overflows = false := by
  obtain ⟨hnul, -, hlen⟩ := pieces_arrived hitems hreceived htext
  cases hturn with
  | @settle srv c _ hterminated hdrained =>
      by_contra hfull
      rw [Bool.not_eq_false] at hfull
      have hnone : nextRequest c = none := by
        cases hreq : nextRequest c with
        | none => rfl
        | some req =>
            have hpiles : ((nextRequest c).any fun req => decide (HeldBack srv req)) = false := by
              rw [Move.pilesUp, hfull, Bool.true_and] at hheld
              exact hheld
            rw [hreq, Option.any_some, decide_eq_false_iff_not] at hpiles
            exact absurd (hdrained req hreq) hpiles
      have hthrough : through blankLine (rx c) = none := by
        rw [← horder.nextRequest hfits hterminated hnul]
        exact hnone
      have hrest := congrArg List.length horder.rest
      rw [horder.pieces, pieces_of_none hthrough, List.append_nil] at hlen
      have hrx : (rx c).length = c.rxlen := Buf.read_length _ _ _
      rw [List.length_append, hrx] at hrest
      simp only [Move.overflows, decide_eq_true_eq] at hfull
      omega
  | accept | recv | hangup | request | metadata | skip | push | close => rfl

/-- Of the requests that arrive before the first packet each is handled once, in
order and unchanged, unless so much comes in behind a DESCRIBE that is held back
that the buffer is full. -/
theorem requests_handled_untilPacket (io : InitIo) (evs : List Event) (i : Slot) (n : Nat)
    (items : List Item) {m₀ : Move} {w : List Move}
    (h : connection (historyAt io evs i n) = some (m₀, w))
    (hitems : ∀ item ∈ items, item.WellFormed) (hreceived : received w <+: itemBytes items)
    (htext : (received w).length ≤ textLength items) (hheld : ∀ m ∈ w, m.pilesUp = false) :
    handled w <+: requestsOf items ∧ ∀ hn : n < (history io evs i).length,
      Serves (arrived items (received w).length) w (history io evs i)[n] := by
  obtain ⟨hnul, hpieces, -⟩ := pieces_arrived hitems hreceived htext
  have hroom : ∀ v m, v ++ [m] <+: w → Turn m → InOrder v m.pre → RxFits m.pre →
      m.overflows = false := by
    intro v m hv hturn horder hfits
    have hbefore : received v <+: received w := by
      obtain ⟨t, rfl⟩ := (List.prefix_append v [m]).trans hv
      simp only [received, List.flatMap_append]
      exact List.prefix_append _ _
    exact hturn.overflows_eq_false horder hfits hitems (hbefore.trans hreceived)
      (hbefore.length_le.trans htext) (hheld m (hv.subset (by simp)))
  refine ⟨?_, fun hn => ?_⟩
  · have horder := (connection_inOrder (historyAt_turns io evs i n) h hnul hroom).1
    refine .trans ?_ (arrived_isPrefix items (received w).length)
    rw [← hpieces, horder.pieces]
    exact List.prefix_append _ _
  · obtain ⟨hturns, hturn⟩ := history_turn io evs i n hn
    obtain ⟨hnext, hfits⟩ := connection_inOrder hturns h hnul hroom
    rw [← hpieces]
    exact hnext.serves hturn hfits hnul

/-- The requests of `describeRun`. -/
def describeItems : List Item :=
  [.request (sampleRequest "OPTIONS" "*" 1 ""),
    .request (sampleRequest "DESCRIBE" "rtsp://h/stream=0" 2 ""),
    .request (sampleRequest "OPTIONS" "*" 3 "")]

theorem requests_handled_untilPacket_sample : ∃ m₀ w,
    connection (historyAt sampleInit describeRun 0 12) = some (m₀, w) ∧
      (handled w).length = 3 ∧ handled w <+: requestsOf describeItems := by
  have hrun : (connection (historyAt sampleInit describeRun 0 12)).any (fun v =>
      (handled v.2).length == 3 && decide (received v.2 = itemBytes describeItems) &&
        v.2.all fun m => !m.pilesUp) = true := by decide +kernel
  have hitems : ∀ item ∈ describeItems, item.WellFormed := by decide +kernel
  have htext : (itemBytes describeItems).length ≤ textLength describeItems := by decide +kernel
  obtain ⟨⟨m₀, w⟩, h, hchecks⟩ := (Option.any_eq_true _ _).mp hrun
  simp only [Bool.and_eq_true, beq_iff_eq, decide_eq_true_eq, List.all_eq_true,
    Bool.not_eq_true'] at hchecks
  obtain ⟨⟨hthree, hreceived⟩, hheld⟩ := hchecks
  exact ⟨m₀, w, h, hthree, (requests_handled_untilPacket sampleInit describeRun 0 12 describeItems h
    hitems (hreceived ▸ List.prefix_refl _) (hreceived ▸ htext) hheld).1⟩

/-- A client with both channels of a track sends a packet on the second and then
an OPTIONS. -/
def packetItems : List Item :=
  [.request (sampleSetup "rtsp://h/stream=0/video"), .packet 1 [0x80, 0xc9, 0, 0],
    .request (sampleRequest "OPTIONS" "*" 2 "")]

def packetRun : List Event :=
  [.enableStream 0 25, .poll (samplePoll 5 (itemBytes packetItems))]

/-- The length of the packet has a NUL in it, and `strstr` does not get past it. -/
theorem packet_hides_request : ¬ ∀ (io : InitIo) (evs : List Event) (i : Slot) (n : Nat)
    (items : List Item) (m₀ : Move) (w : List Move),
    connection (historyAt io evs i n) = some (m₀, w) →
    (∀ item ∈ items, item.WellFormed) → received w <+: itemBytes items →
    handled w <+: requestsOf items ∧ ∀ hn : n < (history io evs i).length,
      Serves (arrived items (received w).length) w (history io evs i)[n] := by
  intro hall
  have hrun : (connection (historyAt sampleInit packetRun 0 3)).any (fun v =>
      decide (received v.2 = itemBytes packetItems) && (handled v.2).length == 1) = true := by
    decide +kernel
  have hsettle : (history sampleInit packetRun 0)[3]?.any Move.settles = true := by decide +kernel
  have hitems : ∀ item ∈ packetItems, item.WellFormed := by decide +kernel
  have hnext : (arrived packetItems (itemBytes packetItems).length)[1]? =
      some (sampleRequest "OPTIONS" "*" 2 "") := by decide +kernel
  have hmethod : requestMethod (sampleRequest "OPTIONS" "*" 2 "") ≠ ascii "DESCRIBE" := by
    decide +kernel
  obtain ⟨⟨m₀, w⟩, h, hchecks⟩ := (Option.any_eq_true _ _).mp hrun
  simp only [Bool.and_eq_true, beq_iff_eq, decide_eq_true_eq] at hchecks
  obtain ⟨hreceived, hone⟩ := hchecks
  obtain ⟨m, hm, hact⟩ := (Option.any_eq_true _ _).mp hsettle
  obtain ⟨hn, rfl⟩ := List.getElem?_eq_some_iff.mp hm
  have hserves := (hall sampleInit packetRun 0 3 packetItems m₀ w h hitems
    (hreceived ▸ List.prefix_refl _)).2 hn
  have hsettle := Move.act_of_settles hact
  rw [hreceived] at hserves
  exact hmethod (hserves.drained hsettle _ (hone ▸ hnext)).1

end Rtsp
end FH8852
