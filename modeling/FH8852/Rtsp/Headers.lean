import FH8852.Rtsp.Text

/-!
# Looking up a header

What `header_value` finds in a request of header lines.
-/

namespace FH8852
namespace Rtsp

open CLib

/-- A header line `name:`, some spaces, `value`. -/
structure Header where
  name : Bytes
  spaces : Nat
  value : Bytes

def Header.line (h : Header) : Bytes := h.name ++ 58 :: (List.replicate h.spaces 32 ++ h.value)

/-- A value may look like a header line, as long as it holds no CR. -/
structure Header.Valid (h : Header) : Prop where
  name_no_cr : (13 : UInt8) ∉ h.name
  name_no_colon : (58 : UInt8) ∉ h.name
  value_no_cr : (13 : UInt8) ∉ h.value

/-- The header lines and the empty line behind them. -/
def headerLines (hs : List Header) : Bytes := (hs.flatMap fun h => h.line ++ crlf) ++ crlf

def requestText (requestLine : Bytes) (hs : List Header) : Bytes :=
  requestLine ++ (crlf ++ headerLines hs)

/-- Equal but for the case of the letters. -/
def SameName (a b : Bytes) : Prop := a.map toLower = b.map toLower

instance (a b : Bytes) : Decidable (SameName a b) := inferInstanceAs (Decidable (_ = _))

/-- `header_value` with the array it writes to: what it returns, and the array then. -/
def headerValueOut (req name out : Bytes) : Int × Bytes :=
  (headerValue req name out.length).elim (0, out) fun value => (1, stored out value)

theorem toLower_colon {c : UInt8} (h : toLower c = 58) : c = 58 := by
  unfold toLower at h
  split_ifs at h with hupper
  · rw [Bool.and_eq_true, decide_eq_true_eq, decide_eq_true_eq, UInt8.le_iff_toNat_le] at hupper
    have hnat := congrArg UInt8.toNat h
    have hsum : (c + 32).toNat = (c.toNat + 32) % 256 := UInt8.toNat_add c 32
    have hlow : (65 : UInt8).toNat = 65 := rfl
    have hcolon : (58 : UInt8).toNat = 58 := rfl
    have hlt := c.toNat_lt
    omega
  · exact h

theorem colon_notMem_map {name : Bytes} (h : (58 : UInt8) ∉ name) :
    (58 : UInt8) ∉ name.map toLower := by
  intro hmem
  obtain ⟨c, hc, hlower⟩ := List.mem_map.mp hmem
  rw [toLower_colon hlower] at hc
  exact h hc

/-- A name that is followed by a colon has ended where the header's name ends. -/
theorem isHeader_iff {name given : Bytes} (hname : (58 : UInt8) ∉ name)
    (hgiven : (58 : UInt8) ∉ given)
    (rest : Bytes) : isHeader name (given ++ 58 :: rest) = true ↔ SameName given name := by
  rw [isHeader, Bool.and_eq_true, startsWithNoCase, List.isPrefixOf_iff_prefix,
    beq_iff_eq, SameName]
  constructor
  · rintro ⟨hstart, hcolon⟩
    rw [List.map_append, List.map_cons] at hstart
    have hlen : given.length = name.length := by
      rcases Nat.lt_trichotomy given.length name.length with hshort | hsame | hlong
      · -- the name would run over the colon of the header
        have hmem : (58 : UInt8) ∈ name.map toLower := by
          have hget := List.IsPrefix.getElem hstart (i := given.length) (by rwa [List.length_map])
          rw [List.getElem_append_right (by rw [List.length_map])] at hget
          simp only [List.length_map, Nat.sub_self, List.getElem_cons_zero] at hget
          have hlower : toLower 58 = 58 := by decide
          rw [hlower] at hget
          rw [← hget]
          exact List.getElem_mem _
        exact absurd hmem (colon_notMem_map hname)
      · exact hsame
      · rw [List.drop_append_of_le_length (Nat.le_of_lt hlong),
          List.drop_eq_getElem_cons hlong] at hcolon
        exact absurd (Option.some.inj hcolon ▸ List.getElem_mem hlong) hgiven
    have hgiven := List.prefix_of_prefix_length_le hstart (List.prefix_append (given.map toLower) _)
      (by rw [List.length_map, List.length_map, hlen])
    exact (hgiven.eq_of_length (by rw [List.length_map, List.length_map, hlen])).symm
  · intro hsame
    have hlen : given.length = name.length := by
      rw [← List.length_map toLower, hsame, List.length_map]
    rw [List.map_append, hsame, List.drop_left' hlen]
    exact ⟨List.prefix_append _ _, rfl⟩

/-- The value of a line, from its first character that is no space. -/
theorem lineValue_line {h : Header} (hvalid : h.Valid) {name : Bytes}
    (hlen : h.name.length = name.length) (rest : Bytes) :
    lineValue name (h.line ++ (crlf ++ rest)) = h.value.dropWhile (· == 32) := by
  have hdrop : (h.line ++ (crlf ++ rest)).drop (name.length + 1) =
      List.replicate h.spaces 32 ++ (h.value ++ (crlf ++ rest)) := by
    rw [Header.line, List.append_assoc, ← List.drop_drop, List.drop_left' hlen, List.cons_append,
      List.drop_one, List.tail_cons, List.append_assoc]
  have htrim : (List.replicate h.spaces 32 ++ (h.value ++ (crlf ++ rest))).dropWhile (· == 32) =
      h.value.dropWhile (· == 32) ++ (crlf ++ rest) := by
    rw [List.dropWhile_append_of_pos fun b hb => beq_iff_eq.mpr (List.eq_of_mem_replicate hb),
      List.dropWhile_append]
    split_ifs with hempty
    · rw [List.isEmpty_iff.mp hempty]
      rfl
    · rfl
  rw [lineValue, hdrop, htrim, takeWhile_cr]
  exact fun hcr => hvalid.value_no_cr ((List.dropWhile_sublist _).subset hcr)

theorem Header.Valid.line_no_cr {h : Header} (hvalid : h.Valid) : (13 : UInt8) ∉ h.line := by
  rw [Header.line, List.mem_append, List.mem_cons, List.mem_append, not_or, not_or, not_or]
  refine ⟨hvalid.name_no_cr, by decide, fun hspace => ?_, hvalid.value_no_cr⟩
  exact absurd (List.eq_of_mem_replicate hspace) (by decide)

theorem headerLines_cons (h : Header) (hs : List Header) :
    headerLines (h :: hs) = h.line ++ (crlf ++ headerLines hs) := by
  rw [headerLines, List.flatMap_cons, List.append_assoc, List.append_assoc]
  rfl

/-- The search goes through the lines: a line is taken by its own name only. -/
theorem find_headerLines {hs : List Header} (hvalid : ∀ h ∈ hs, h.Valid) {name : Bytes}
    (hname : (58 : UInt8) ∉ name) :
    ((headerLines hs :: lineStarts (headerLines hs)).find? (isHeader name)).map (lineValue name) =
      (hs.find? fun h => SameName h.name name).map fun h => h.value.dropWhile (· == 32) := by
  induction hs with
  | nil =>
      have hend : isHeader name crlf = false := by
        rw [isHeader, Bool.and_eq_false_iff]
        refine .inr (beq_eq_false_iff_ne.mpr fun hcolon => ?_)
        have hmem := List.mem_of_mem_drop (List.mem_of_head? hcolon)
        exact absurd hmem (by decide)
      have hempty : isHeader name [] = false := by
        rw [isHeader, List.drop_nil]
        exact Bool.and_false _
      show ([crlf, []].find? (isHeader name)).map _ = _
      rw [List.find?_cons_of_neg (Bool.eq_false_iff.mp hend),
        List.find?_cons_of_neg (Bool.eq_false_iff.mp hempty)]
      rfl
  | cons h hs ih =>
      obtain ⟨hh, hhs⟩ := List.forall_mem_cons.mp hvalid
      have hheader := isHeader_iff hname hh.name_no_colon
        (List.replicate h.spaces 32 ++ h.value ++ (crlf ++ headerLines hs))
      have hline : h.line ++ (crlf ++ headerLines hs) =
          h.name ++ 58 :: (List.replicate h.spaces 32 ++ h.value ++ (crlf ++ headerLines hs)) := by
        rw [Header.line, List.append_assoc, List.cons_append]
      rw [← hline] at hheader
      rw [headerLines_cons, lineStarts_line hh.line_no_cr]
      by_cases hsame : SameName h.name name
      · have hlen : h.name.length = name.length := by
          rw [← List.length_map toLower, hsame, List.length_map]
        have hfind : (h :: hs).find? (fun h => SameName h.name name) = some h :=
          List.find?_cons_of_pos (decide_eq_true hsame)
        rw [List.find?_cons_of_pos (hheader.mpr hsame), hfind, Option.map_some, Option.map_some,
          lineValue_line hh hlen]
      · have hskip : (h :: hs).find? (fun h => SameName h.name name) =
            hs.find? fun h => SameName h.name name :=
          List.find?_cons_of_neg fun hfound => hsame (of_decide_eq_true hfound)
        rw [List.find?_cons_of_neg fun hfound => hsame (hheader.mp hfound), hskip]
        exact ih hhs

/-- The value of the first header of that name, cut to the array, or nothing where
there is none. -/
theorem header_value_finds {requestLine : Bytes} (hline : (13 : UInt8) ∉ requestLine)
    {hs : List Header} (hvalid : ∀ h ∈ hs, h.Valid) {name : Bytes} (hname : (58 : UInt8) ∉ name)
    (out : Bytes) :
    headerValueOut (requestText requestLine hs) name out =
      (hs.find? fun h => SameName h.name name).elim (0, out) fun h =>
        (1, stored out ((h.value.dropWhile (· == 32)).take (out.length - 1))) := by
  have hfield : headerField (requestText requestLine hs) name =
      (hs.find? fun h => SameName h.name name).map fun h => h.value.dropWhile (· == 32) := by
    rw [headerField, requestText, lineStarts_line hline]
    exact find_headerLines hvalid hname
  rw [headerValueOut, headerValue, hfield]
  cases hs.find? fun h => SameName h.name name with
  | none => rfl
  | some h => rfl

/-- A header whose value looks like the one that is looked for, and that one. -/
def lookalikes : List Header :=
  [⟨ascii "User-Agent", 1, ascii "CSeq: 1"⟩, ⟨ascii "cseq", 2, ascii "7"⟩]

theorem header_value_finds_sample :
    headerValueOut (requestText (ascii "OPTIONS * RTSP/1.0") lookalikes) (ascii "CSeq")
      [0, 0, 0, 0] =
      (lookalikes.find? fun h => SameName h.name (ascii "CSeq")).elim (0, [0, 0, 0, 0]) fun h =>
        (1, stored [0, 0, 0, 0] ((h.value.dropWhile (· == 32)).take 3)) :=
  header_value_finds (by decide)
    (List.forall_mem_cons.mpr ⟨⟨by decide, by decide, by decide⟩,
      List.forall_mem_singleton.mpr ⟨by decide, by decide, by decide⟩⟩) (by decide) _

end Rtsp
end FH8852
