import FH8852.CLib.Text
import FH8852.Lib.Chunks
import FH8852.Lib.Rtp

/-!
# The client of the oracle

`Conn` of `capture.py`, which takes replies and interleaved packets off a
connection.  The chunks are what the calls of `recv` return, none of them empty;
an exception is `none`.
-/

namespace FH8852
namespace Oracle

open CLib Chunks

inductive Message where
  | rtp (channel : UInt8) (payload : Bytes)
  | rtsp (text : Bytes)
deriving DecidableEq

/-! ## Python's strings and numbers -/

/-- `split('\r\n')`. -/
def splitCrlf : Bytes → List Bytes
  | 13 :: 10 :: rest => [] :: splitCrlf rest
  | c :: rest =>
    match splitCrlf rest with
    | [] => [[c]]
    | line :: lines => (c :: line) :: lines
  | [] => [[]]

/-- Whether `strip` removes the character. -/
def isBlank (b : UInt8) : Bool := isSpace b || (28 ≤ b && b ≤ 31) || b == 133 || b == 160

/-- The digits of an `int` literal, which may have single underscores between
them; `last` tells whether the character before was a digit. -/
def intDigits : (last : Bool) → (value : Nat) → Bytes → Option Nat
  | last, value, [] => if last then some value else none
  | last, value, c :: rest =>
    if isDigit c then intDigits true (value * 10 + (c.toNat - 48)) rest
    else if c = 95 ∧ last = true then intDigits false value rest
    else none

/-- `int(s)`. -/
def int (s : Bytes) : Option Int :=
  let stripped := ((s.dropWhile isBlank).reverse.dropWhile isBlank).reverse
  let (negative, digits) := readSign stripped
  (intDigits false 0 digits).map fun value => if negative then -(value : Int) else value

/-- `s[:n]`. -/
def sliceTo (n : Int) (s : Bytes) : Bytes :=
  if 0 ≤ n then s.take n.toNat else s.take (s.length - (-n).toNat)

/-- `s[n:]`. -/
def sliceFrom (n : Int) (s : Bytes) : Bytes :=
  if 0 ≤ n then s.drop n.toNat else s.drop (s.length - (-n).toNat)

/-! ## Conn -/

def crlfcrlf : Bytes := ascii "\r\n\r\n"

/-- `clen` of a reply head. -/
def contentLength (head : Bytes) : Option Int :=
  match (splitCrlf head).find? (startsWithNoCase (ascii "content-length:")) with
  | none => some 0
  | some line => int (((line.dropWhile (· ≠ 58)).drop 1).takeWhile (· ≠ 58))

/-- `split(b'\r\n\r\n', 1)`, of a buffer that has the separator. -/
def splitHead (buf : Bytes) : Bytes × Bytes :=
  match through crlfcrlf buf with
  | none => (buf, [])
  | some p => (p.take (p.length - 4), buf.drop p.length)

/-- The rest of `next_message` once the buffer begins with a dollar sign. -/
def nextPacket (chunks : List Bytes) (buf : Bytes) : Option (Message × Bytes × List Bytes) := do
  let (buf, chunks) ← fillUntil (fun buf => decide (4 ≤ buf.length)) chunks buf
  let n := Rtp.beNat ((buf.drop 2).take 2)
  let (buf, chunks) ← fillUntil (fun buf => decide (4 + n ≤ buf.length)) chunks buf
  some (.rtp (buf.getD 1 0) ((buf.drop 4).take n), buf.drop (4 + n), chunks)

/-- The rest of `next_message` once the buffer begins with `RTSP/`. -/
def nextReply (chunks : List Bytes) (buf : Bytes) : Option (Message × Bytes × List Bytes) := do
  let (buf, chunks) ← fillUntil (fun buf => (through crlfcrlf buf).isSome) chunks buf
  let clen ← contentLength (splitHead buf).1
  let (buf, chunks) ←
    fillUntil (fun buf => decide (clen ≤ ((splitHead buf).2.length : Int))) chunks buf
  let (head, rest) := splitHead buf
  some (.rtsp (head ++ crlfcrlf ++ sliceTo clen rest), sliceFrom clen rest, chunks)

/-- What `next_message` waits for before it looks further. -/
def startsMessage (buf : Bytes) : Bool :=
  buf.head? == some 36 || (ascii "RTSP/").isPrefixOf buf

/-- `Conn.next_message`: the message, the buffer and what `recv` has yet to
return. -/
def nextMessage (chunks : List Bytes) (buf : Bytes) : Option (Message × Bytes × List Bytes) := do
  let (buf, chunks) ← fillUntil startsMessage chunks buf
  if buf.head? = some 36 then nextPacket chunks buf else nextReply chunks buf

/-- `n` calls of `next_message`. -/
def nextMessages : (n : Nat) → List Bytes → Bytes → Option (List Message × Bytes × List Bytes)
  | 0, chunks, buf => some ([], buf, chunks)
  | n + 1, chunks, buf => do
    let (m, buf, chunks) ← nextMessage chunks buf
    let (ms, buf, chunks) ← nextMessages n chunks buf
    some (m :: ms, buf, chunks)

/-! ## Heads -/

/-- The lines with CRLF between them. -/
def joinLines : List Bytes → Bytes
  | [] => []
  | [line] => line
  | line :: lines => line ++ 13 :: 10 :: joinLines lines

/-- A line of a head: it is not empty and holds no CR. -/
def IsLine (line : Bytes) : Prop := line ≠ [] ∧ (13 : UInt8) ∉ line

theorem splitCrlf_cons {c : UInt8} (hc : c ≠ 13) (rest : Bytes) {line : Bytes} {lines : List Bytes}
    (h : splitCrlf rest = line :: lines) : splitCrlf (c :: rest) = (c :: line) :: lines := by
  rw [splitCrlf]
  · rw [h]
  · intro _ hc'
    exact absurd hc' hc

theorem splitCrlf_line {line : Bytes} (hline : (13 : UInt8) ∉ line) (rest : Bytes) :
    splitCrlf (line ++ 13 :: 10 :: rest) = line :: splitCrlf rest := by
  induction line with
  | nil => rfl
  | cons c line ih =>
      rw [List.mem_cons, not_or] at hline
      exact splitCrlf_cons (Ne.symm hline.1) _ (ih hline.2)

theorem splitCrlf_last {line : Bytes} (hline : (13 : UInt8) ∉ line) : splitCrlf line = [line] := by
  induction line with
  | nil => rfl
  | cons c line ih =>
      rw [List.mem_cons, not_or] at hline
      exact splitCrlf_cons (Ne.symm hline.1) _ (ih hline.2)

theorem splitCrlf_joinLines {lines : List Bytes} (hne : lines ≠ [])
    (hlines : ∀ line ∈ lines, IsLine line) : splitCrlf (joinLines lines) = lines := by
  induction lines with
  | nil => exact absurd rfl hne
  | cons line lines ih =>
      have hline := (hlines line (by simp)).2
      cases lines with
      | nil => exact splitCrlf_last hline
      | cons next lines =>
          have hrest := ih (List.cons_ne_nil _ _) fun l hl => hlines l (by simp [hl])
          rw [joinLines, splitCrlf_line hline, hrest]
          exact List.cons_ne_nil _ _

theorem through_of_ne {c : UInt8} (hc : c ≠ 13) (s : Bytes) :
    through crlfcrlf (c :: s) = (through crlfcrlf s).map (c :: ·) := by
  rw [through_cons, if_neg]
  intro h
  exact hc (List.cons_prefix_cons.mp h).1.symm

/-- The separator does not begin in a line. -/
theorem through_line {line : Bytes} (hline : (13 : UInt8) ∉ line) (s : Bytes) :
    through crlfcrlf (line ++ s) = (through crlfcrlf s).map (line ++ ·) := by
  induction line with
  | nil => exact Option.map_id'.symm
  | cons c line ih =>
      rw [List.mem_cons, not_or] at hline
      rw [List.cons_append, through_of_ne (Ne.symm hline.1), ih hline.2, Option.map_map]
      rfl

/-- Nor at the end of one, when another follows. -/
theorem through_crlf {line : Bytes} (hline : IsLine line) (s : Bytes) :
    through crlfcrlf (13 :: 10 :: (line ++ s)) =
      (through crlfcrlf (line ++ s)).map fun p => 13 :: 10 :: p := by
  obtain ⟨hne, hcr⟩ := hline
  cases line with
  | nil => exact absurd rfl hne
  | cons c line =>
      have hc : c ≠ 13 := fun h => hcr (by simp [h])
      have hnot : ¬ crlfcrlf <+: 13 :: 10 :: (c :: line ++ s) := by
        intro h
        have h := (List.cons_prefix_cons.mp (List.cons_prefix_cons.mp h).2).2
        exact hc (List.cons_prefix_cons.mp h).1.symm
      rw [through_cons, if_neg hnot, through_of_ne (by decide), Option.map_map]
      rfl

theorem through_joinLines {lines : List Bytes} (hne : lines ≠ [])
    (hlines : ∀ line ∈ lines, IsLine line) (rest : Bytes) :
    through crlfcrlf (joinLines lines ++ (crlfcrlf ++ rest)) =
      some (joinLines lines ++ crlfcrlf) := by
  have hstart : through crlfcrlf (crlfcrlf ++ rest) = some crlfcrlf := by
    show through crlfcrlf (13 :: (10 :: 13 :: 10 :: rest)) = _
    rw [through_cons, if_pos ⟨rest, rfl⟩]
  induction lines with
  | nil => exact absurd rfl hne
  | cons line lines ih =>
      have hline := (hlines line (by simp)).2
      cases lines with
      | nil =>
          rw [joinLines, through_line hline, hstart]
          rfl
      | cons next lines =>
          have hrest := ih (List.cons_ne_nil _ _) fun l hl => hlines l (by simp [hl])
          have hnext : IsLine next := hlines next (by simp)
          obtain ⟨tail, htail⟩ : ∃ tail, joinLines (next :: lines) = next ++ tail := by
            cases lines with
            | nil => exact ⟨[], (List.append_nil _).symm⟩
            | cons => exact ⟨_, rfl⟩
          rw [htail, List.append_assoc] at hrest
          rw [joinLines, List.append_assoc, through_line hline, htail, List.cons_append,
            List.cons_append, List.append_assoc, through_crlf hnext, hrest]
          · simp
          · exact List.cons_ne_nil _ _

/-! ## Numbers -/

theorem isBlank_of_isDigit {b : UInt8} (h : isDigit b = true) : isBlank b = false := by
  simp only [isDigit, Bool.and_eq_true, decide_eq_true_eq, UInt8.le_iff_toNat_le] at h
  obtain ⟨hlow, hhigh⟩ := h
  have hlow : 48 ≤ b.toNat := hlow
  have hhigh : b.toNat ≤ 57 := hhigh
  simp [isBlank, isSpace, UInt8.le_iff_toNat_le, ← UInt8.toNat_inj]
  omega

theorem intDigits_of_isDigit {digits : Bytes} (hdigits : ∀ b ∈ digits, isDigit b = true)
    (last : Bool) (value : Nat) (hlast : last = true ∨ digits ≠ []) :
    intDigits last value digits =
      some (digits.foldl (fun acc b => acc * 10 + (b.toNat - 48)) value) := by
  induction digits generalizing last value with
  | nil =>
      rcases hlast with rfl | h
      · rfl
      · exact absurd rfl h
  | cons b digits ih =>
      rw [intDigits, if_pos (hdigits b (by simp))]
      exact ih (fun b' hb' => hdigits b' (by simp [hb'])) true _ (.inl rfl)

/-- `int` of a decimal number after a space. -/
theorem int_decimal (n : Nat) : int (32 :: decimal n) = some (n : Int) := by
  have hdigit := decimal_isDigit n
  have hskip : ∀ l : Bytes, l ≠ [] → (∀ b ∈ l, isDigit b = true) → l.dropWhile isBlank = l := by
    intro l hne hl
    cases l with
    | nil => exact absurd rfl hne
    | cons b l =>
        exact List.dropWhile_cons_of_neg (by simp [isBlank_of_isDigit (hl b (by simp))])
  have hne := decimal_ne_nil n
  have hstrip : (((32 :: decimal n).dropWhile isBlank).reverse.dropWhile isBlank).reverse =
      decimal n := by
    rw [List.dropWhile_cons_of_pos (by decide), hskip _ hne hdigit,
      hskip _ (by simpa using hne) fun b hb => hdigit b (List.mem_reverse.mp hb),
      List.reverse_reverse]
  have hsign : readSign (decimal n) = (false, decimal n) := by
    obtain ⟨b, digits, hb⟩ := List.exists_cons_of_ne_nil hne
    have hfirst := hdigit b (by rw [hb]; exact List.mem_cons_self)
    rw [hb]
    exact readSign_digit hfirst digits
  have hvalue := digitsValue_decimal n
  rw [digitsValue] at hvalue
  simp only [int, hstrip, hsign, intDigits_of_isDigit hdigit false 0 (.inr hne), hvalue]
  rfl

/-! ## One message -/

theorem nextPacket_spec {chunks : List Bytes} {buf payload rest : Bytes} {channel hi lo : UInt8}
    (hlen : hi.toNat * 256 + lo.toNat = payload.length)
    (h : buf ++ chunks.flatten = 36 :: channel :: hi :: lo :: (payload ++ rest)) :
    ∃ buf' chunks', nextPacket chunks buf = some (.rtp channel payload, buf', chunks') ∧
      buf' ++ chunks'.flatten = rest ∧ chunks' <:+ chunks := by
  obtain ⟨buf₁, chunks₁, hfill₁, hfour, -, hstream₁, hsuffix₁⟩ :=
    @fillUntil_spec _ (fun buf => decide (4 ≤ buf.length)) chunks buf (by simp [h])
  rw [h] at hstream₁
  have hfour : 4 ≤ buf₁.length := of_decide_eq_true hfour
  have hn : Rtp.beNat ((buf₁.drop 2).take 2) = payload.length := by
    have hhead : (buf₁.drop 2).take 2 = [hi, lo] := by
      have hprefix := congrArg (fun s => (s.drop 2).take 2) hstream₁
      simp only [List.drop_append, List.take_append, List.length_drop] at hprefix
      rw [Nat.sub_eq_zero_of_le (by omega : 2 ≤ buf₁.length - 2), List.take_zero,
        List.append_nil] at hprefix
      exact hprefix
    rw [hhead, ← hlen]
    simp [Rtp.beNat]
  obtain ⟨buf₂, chunks₂, hfill₂, hwhole, -, hstream₂, hsuffix₂⟩ :=
    @fillUntil_spec _ (fun buf => decide (4 + payload.length ≤ buf.length)) chunks₁ buf₁ (by
      rw [hstream₁]
      simp
      omega)
  rw [hstream₁] at hstream₂
  have hwhole : 4 + payload.length ≤ buf₂.length := of_decide_eq_true hwhole
  have hprefix : 36 :: channel :: hi :: lo :: payload <+: buf₂ := by
    refine List.prefix_of_prefix_length_le ?_ ⟨chunks₂.flatten, hstream₂⟩ ?_
    · exact ⟨rest, rfl⟩
    · simp only [List.length_cons]
      omega
  obtain ⟨tail, rfl⟩ := hprefix
  refine ⟨tail, chunks₂, ?_, ?_, hsuffix₂.trans hsuffix₁⟩
  · simp only [nextPacket, hfill₁, Option.bind_eq_bind, Option.bind_some, hn, hfill₂]
    have htail : ((36 :: channel :: hi :: lo :: payload) ++ tail).drop (4 + payload.length) =
        tail := by
      rw [Nat.add_comm]
      exact List.drop_left
    rw [htail]
    simp
  · have hstream₂ : payload ++ (tail ++ chunks₂.flatten) = payload ++ rest := by
      simpa using hstream₂
    exact List.append_cancel_left hstream₂

/-- A reply as the client takes it apart: lines, a blank line, and a body whose
length the lines give. -/
structure IsReply (text : Bytes) (lines : List Bytes) (body : Bytes) : Prop where
  lines_ne : lines ≠ []
  line : ∀ line ∈ lines, IsLine line
  text_eq : text = joinLines lines ++ (crlfcrlf ++ body)
  rtsp : ascii "RTSP/" <+: text
  length : contentLength (joinLines lines) = some (body.length : Int)

theorem splitHead_eq {p : Bytes} (tail : Bytes) (h : through crlfcrlf (p ++ crlfcrlf ++ tail) =
    some (p ++ crlfcrlf)) : splitHead (p ++ crlfcrlf ++ tail) = (p, tail) := by
  have hhead : (p ++ crlfcrlf).length - 4 = p.length := by
    rw [List.length_append]
    exact Nat.add_sub_cancel _ _
  simp only [splitHead, h]
  rw [hhead, List.drop_left, List.take_left]

theorem nextReply_spec {chunks : List Bytes} {buf text body rest : Bytes} {lines : List Bytes}
    (hreply : IsReply text lines body) (h : buf ++ chunks.flatten = text ++ rest) :
    ∃ buf' chunks', nextReply chunks buf = some (.rtsp text, buf', chunks') ∧
      buf' ++ chunks'.flatten = rest ∧ chunks' <:+ chunks := by
  obtain ⟨hne, hlines, rfl, -, hclen⟩ := hreply
  have hnonempty : crlfcrlf ≠ [] := by decide
  have hthrough := through_joinLines hne hlines
  generalize joinLines lines = head at h hclen hthrough
  -- the head ends where the first blank line of the stream ends
  have hsplit : ∀ {s t : Bytes}, (through crlfcrlf s).isSome = true →
      s ++ t = head ++ (crlfcrlf ++ body) ++ rest →
      ∃ tail, s = head ++ crlfcrlf ++ tail ∧ splitHead s = (head, tail) := by
    intro s t hsome hstream
    obtain ⟨p, hp⟩ := Option.isSome_iff_exists.mp hsome
    obtain ⟨tail, rfl⟩ := through_isPrefix hp
    have hfirst := through_append hnonempty hp (tail ++ t)
    rw [← List.append_assoc, hstream, List.append_assoc, List.append_assoc, hthrough] at hfirst
    obtain rfl := Option.some.inj hfirst
    exact ⟨tail, rfl, splitHead_eq _ hp⟩
  obtain ⟨buf₁, chunks₁, hfill₁, hsome₁, -, hstream₁, hsuffix₁⟩ :=
    @fillUntil_spec _ (fun buf => (through crlfcrlf buf).isSome) chunks buf (by
      simp only [h, List.append_assoc, hthrough, Option.isSome_some])
  rw [h] at hstream₁
  obtain ⟨tail₁, -, hhead₁⟩ := hsplit hsome₁ hstream₁
  obtain ⟨buf₂, chunks₂, hfill₂, hwhole, hbuf, hstream₂, hsuffix₂⟩ :=
    @fillUntil_spec _ (fun buf => decide ((body.length : Int) ≤ ((splitHead buf).2.length : Int)))
      chunks₁ buf₁ (by
        have hall := splitHead_eq (body ++ rest) (by rw [List.append_assoc, hthrough])
        simp only [hstream₁, List.append_assoc] at hall ⊢
        rw [hall, decide_eq_true_eq, List.length_append]
        omega)
  rw [hstream₁] at hstream₂
  obtain ⟨tail₂, rfl, hhead₂⟩ : ∃ tail, buf₂ = head ++ crlfcrlf ++ tail ∧
      splitHead buf₂ = (head, tail) := by
    refine hsplit ?_ hstream₂
    obtain ⟨p, hp⟩ := Option.isSome_iff_exists.mp hsome₁
    obtain ⟨tail, rfl⟩ := (through_isPrefix hp).trans hbuf
    rw [through_append hnonempty hp]
    rfl
  have hwhole : body.length ≤ tail₂.length := by
    have hlen := of_decide_eq_true hwhole
    rw [hhead₂] at hlen
    exact Int.ofNat_le.mp hlen
  have htail : tail₂ ++ chunks₂.flatten = body ++ rest := by
    simpa [List.append_assoc] using hstream₂
  obtain ⟨tail, rfl⟩ : body <+: tail₂ :=
    List.prefix_of_prefix_length_le ⟨rest, rfl⟩ ⟨chunks₂.flatten, htail⟩ hwhole
  refine ⟨tail, chunks₂, ?_, ?_, hsuffix₂.trans hsuffix₁⟩
  · simp only [nextReply, hfill₁, Option.bind_eq_bind, Option.bind_some, hhead₁, hclen, hfill₂,
      hhead₂, sliceTo, sliceFrom]
    rw [if_pos (by omega), if_pos (by omega), Int.toNat_natCast, List.take_left, List.drop_left,
      List.append_assoc]
  · rw [List.append_assoc] at htail
    exact List.append_cancel_left htail

/-! ## All messages -/

/-- How a message is sent. -/
inductive Sent : Message → Bytes → Prop
  | rtp (channel hi lo : UInt8) (payload : Bytes)
      (hlen : hi.toNat * 256 + lo.toNat = payload.length) :
      Sent (.rtp channel payload) (36 :: channel :: hi :: lo :: payload)
  | rtsp {text body : Bytes} {lines : List Bytes} (hreply : IsReply text lines body) :
      Sent (.rtsp text) text

theorem nextMessage_spec {m : Message} {s : Bytes} (hm : Sent m s) {chunks : List Bytes}
    {buf rest : Bytes} (h : buf ++ chunks.flatten = s ++ rest) :
    ∃ buf' chunks', nextMessage chunks buf = some (m, buf', chunks') ∧
      buf' ++ chunks'.flatten = rest ∧ chunks' <:+ chunks := by
  have hstart : startsMessage (buf ++ chunks.flatten) = true := by
    rw [h]
    cases hm with
    | rtp => rfl
    | rtsp hreply =>
        have hrtsp := List.isPrefixOf_iff_prefix.mpr (hreply.rtsp.trans (List.prefix_append _ rest))
        rw [startsMessage, hrtsp, Bool.or_true]
  obtain ⟨buf₁, chunks₁, hfill, hstart₁, -, hstream, hsuffix⟩ := fillUntil_spec hstart
  rw [h] at hstream
  have hhead : buf₁.head? = s.head? := by
    have hne : buf₁ ≠ [] := by
      rintro rfl
      revert hstart₁
      decide
    have hne' : s ≠ [] := by
      cases hm with
      | rtp => exact List.cons_ne_nil _ _
      | rtsp hreply =>
          intro hs
          have hrtsp := hreply.rtsp
          rw [hs] at hrtsp
          exact absurd (List.prefix_nil.mp hrtsp) (by decide)
    rw [← List.head?_append_of_ne_nil _ hne, hstream, List.head?_append_of_ne_nil _ hne']
  rw [nextMessage, hfill, Option.bind_eq_bind, Option.bind_some]
  cases hm with
  | rtp channel hi lo payload hlen =>
      obtain ⟨buf', chunks', hnext, hrest, hsuffix'⟩ := nextPacket_spec hlen hstream
      have hhead : buf₁.head? = some 36 := hhead
      simp only [if_pos hhead]
      exact ⟨buf', chunks', hnext, hrest, hsuffix'.trans hsuffix⟩
  | rtsp hreply =>
      obtain ⟨buf', chunks', hnext, hrest, hsuffix'⟩ := nextReply_spec hreply hstream
      have hhead : buf₁.head? ≠ some 36 := by
        obtain ⟨tail, htail⟩ := hreply.rtsp
        rw [hhead, ← htail]
        exact fun h => absurd (Option.some.inj h) (by decide)
      simp only [if_neg hhead]
      exact ⟨buf', chunks', hnext, hrest, hsuffix'.trans hsuffix⟩

/-- The messages of a stream come out one by one, whatever its chunks. -/
theorem nextMessages_spec {ms : List Message} {ss : List Bytes} (hms : List.Forall₂ Sent ms ss)
    {chunks : List Bytes} {buf rest : Bytes} (h : buf ++ chunks.flatten = ss.flatten ++ rest) :
    ∃ buf' chunks', nextMessages ms.length chunks buf = some (ms, buf', chunks') ∧
      buf' ++ chunks'.flatten = rest ∧ chunks' <:+ chunks := by
  induction hms generalizing chunks buf with
  | nil => exact ⟨buf, chunks, rfl, h, List.suffix_refl _⟩
  | cons hm _ ih =>
      rw [List.flatten_cons, List.append_assoc] at h
      obtain ⟨buf₁, chunks₁, hnext, hrest, hsuffix⟩ := nextMessage_spec hm h
      obtain ⟨buf', chunks', hmore, hrest', hsuffix'⟩ := ih hrest
      refine ⟨buf', chunks', ?_, hrest', hsuffix'.trans hsuffix⟩
      simp only [List.length_cons, nextMessages, hnext, Option.bind_eq_bind,
        Option.bind_some, hmore]

end Oracle
end FH8852
