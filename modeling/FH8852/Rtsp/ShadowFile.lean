import FH8852.Rtsp.Request
import Mathlib.Data.Nat.Find

/-!
# The shadow file

What a shadow file says of a user, what `shadow_matches` reads of it, and where in
the lines its reads begin: it takes 255 bytes at a time.
-/

namespace FH8852
namespace Rtsp

open CLib

/-! ## What a shadow file says -/

def fileLines (text : Bytes) : List Bytes := text.splitOn 10

def fields (line : Bytes) : List Bytes := line.splitOn 58

/-- The first field of the line is the user. -/
def isLineOf (user line : Bytes) : Bool := (fields line).head? == some user

def userLine (text user : Bytes) : Option Bytes := (fileLines text).find? (isLineOf user)

/-- A hash that can be checked against: an empty one, or one locked with `!` or
`*`, cannot. -/
def usable (hash : Bytes) : Option Bytes :=
  if hash.isEmpty ∨ hash.head? = some 33 ∨ hash.head? = some 42 then none else some hash

/-- The file admits the user with the password. -/
def Admits (text : Bytes) (crypt : Bytes → Bytes → Option Bytes) (user password : Bytes) : Prop :=
  ∃ line, userLine text user = some line ∧ ∃ hash, (fields line)[1]? = some hash ∧ hash ≠ [] ∧
    hash.head? ≠ some 33 ∧ hash.head? ≠ some 42 ∧ crypt password hash = some hash

/-- The usable hash of the user's line. -/
def lineHash (text user : Bytes) : Option Bytes :=
  (userLine text user).bind fun line => (fields line)[1]?.bind usable

theorem usable_eq_some_iff {hash h : Bytes} :
    usable hash = some h ↔
      hash = h ∧ hash ≠ [] ∧ hash.head? ≠ some 33 ∧ hash.head? ≠ some 42 := by
  unfold usable
  split
  · rename_i hnone
    rw [List.isEmpty_iff] at hnone
    refine iff_of_false nofun fun hall => ?_
    rcases hnone with hnil | hlocked | hstar
    · exact hall.2.1 hnil
    · exact hall.2.2.1 hlocked
    · exact hall.2.2.2 hstar
  · rename_i hsome
    rw [List.isEmpty_iff, not_or, not_or] at hsome
    rw [Option.some_inj]
    exact ⟨fun h => ⟨h, hsome⟩, And.left⟩

theorem admits_iff {text user password : Bytes} {crypt : Bytes → Bytes → Option Bytes} :
    Admits text crypt user password ↔
      ∃ hash, lineHash text user = some hash ∧ crypt password hash = some hash := by
  unfold Admits lineHash
  simp only [Option.bind_eq_some_iff, usable_eq_some_iff]
  constructor
  · rintro ⟨line, hline, hash, hfield, hempty, hlocked, hstar, hcrypt⟩
    exact ⟨hash, ⟨line, hline, hash, hfield, rfl, hempty, hlocked, hstar⟩, hcrypt⟩
  · rintro ⟨_, ⟨line, hline, hash, hfield, rfl, hempty, hlocked, hstar⟩, hcrypt⟩
    exact ⟨line, hline, hash, hfield, hempty, hlocked, hstar, hcrypt⟩

/-! ## What the code reads -/

/-- What the successive calls of `fgets` leave in the buffer. -/
def readsLoop : (fuel : Nat) → Bytes → List Bytes
  | 0, _ => []
  | fuel + 1, text =>
    if text.isEmpty then []
    else cString (fgets 255 text).1 :: readsLoop fuel (fgets 255 text).2

def reads (text : Bytes) : List Bytes := readsLoop text.length text

/-- The text behind `user:`, up to the next field. -/
def hashBehind (user line : Bytes) : Bytes := (line.drop (user.length + 1)).takeWhile (· ≠ 58)

/-- The usable hash behind the first `user:` that a read begins with.  The user
name ends at its first `:`, and there is no user without a name. -/
def readHash (text user : Bytes) : Option Bytes :=
  let name := user.takeWhile (· ≠ 58)
  if name.isEmpty then none
  else ((reads text).find? (name ++ [58]).isPrefixOf).bind fun line => usable (hashBehind name line)

theorem checked_iff {crypt : Bytes → Bytes → Option Bytes} {password hash : Bytes} :
    (if hash.isEmpty ∨ hash.head? = some 33 ∨ hash.head? = some 42 then false
      else crypt password hash == some hash) = true ↔
      ∃ h, usable hash = some h ∧ crypt password h = some h := by
  unfold usable
  split
  · exact iff_of_false nofun fun ⟨_, h, _⟩ => nomatch h
  · rw [beq_iff_eq]
    constructor
    · exact fun hcrypt => ⟨hash, rfl, hcrypt⟩
    · rintro ⟨h, hsame, hcrypt⟩
      rw [Option.some.inj hsame]
      exact hcrypt

theorem shadowLoop_eq_true_iff {crypt : Bytes → Bytes → Option Bytes} {user password : Bytes}
    {fuel : Nat} {text : Bytes} :
    shadowLoop crypt user password fuel text = true ↔
      ∃ line hash, (readsLoop fuel text).find? (user ++ [58]).isPrefixOf = some line ∧
        usable (hashBehind user line) = some hash ∧ crypt password hash = some hash := by
  induction fuel generalizing text with
  | zero => exact iff_of_false nofun fun ⟨_, _, h, _⟩ => nomatch h
  | succ fuel ih =>
      rw [shadowLoop, readsLoop]
      split
      · exact iff_of_false nofun fun ⟨_, _, h, _⟩ => nomatch h
      · dsimp only
        by_cases hbegins : (user ++ [58]).isPrefixOf (cString (fgets 255 text).1) = true
        · rw [if_pos hbegins, List.find?_cons_of_pos hbegins]
          refine checked_iff.trans ⟨fun ⟨hash, hchecked⟩ => ⟨_, hash, rfl, hchecked⟩, ?_⟩
          rintro ⟨line, hash, hline, hchecked⟩
          obtain rfl := Option.some.inj hline
          exact ⟨hash, hchecked⟩
        · rw [if_neg hbegins, List.find?_cons_of_neg hbegins]
          exact ih

theorem strchr_eq (ch : UInt8) (before after : Bytes) (h : ch ∉ before) :
    strchr ch (before ++ ch :: after) = some (ch :: after) := by
  induction before with
  | nil => exact if_pos rfl
  | cons c before ih =>
      rw [List.mem_cons, not_or] at h
      rw [List.cons_append, strchr, if_neg (Ne.symm h.1)]
      exact ih h.2

theorem shadowMatches_eq_true_iff {text user password : Bytes}
    {crypt : Bytes → Bytes → Option Bytes} (huser : 58 ∉ user) :
    shadowMatches (some text) crypt (user ++ 58 :: password) = true ↔
      ∃ hash, readHash text user = some hash ∧ crypt password hash = some hash := by
  have hname : user.takeWhile (· ≠ 58) = user := takeWhile_ne_self huser
  have hlen : (user ++ 58 :: password).length - (58 :: password).length = user.length := by
    rw [List.length_append]
    omega
  unfold shadowMatches readHash
  rw [strchr_eq 58 user password huser]
  dsimp only
  rw [hlen, List.take_left, hname]
  split
  · exact iff_of_false nofun fun ⟨_, h, _⟩ => nomatch h
  · rw [List.drop_one, List.tail_cons, shadowLoop_eq_true_iff]
    simp only [Option.bind_eq_some_iff]
    constructor
    · rintro ⟨line, hash, hline, husable, hcrypt⟩
      exact ⟨hash, ⟨line, hline, husable⟩, hcrypt⟩
    · rintro ⟨hash, ⟨line, hline, husable⟩, hcrypt⟩
      exact ⟨line, hash, hline, husable, hcrypt⟩

/-! ## Reads and lines -/

/-- A line as it stands in the file: all but the last end in a newline. -/
def row (line : Bytes) (after : List Bytes) : Bytes :=
  if after.isEmpty then line else line ++ [10]

def rows : List Bytes → List Bytes
  | [] => []
  | line :: after => row line after :: rows after

/-- What the `k`-th call of `fgets` on a row takes of it. -/
def piece (r : Bytes) (k : Nat) : Bytes := (r.drop (255 * k)).take 255

def rowPieces (r : Bytes) : List Bytes := (List.range ((r.length + 254) / 255)).map (piece r)

theorem pieces_cons {r : Bytes} (h : r ≠ []) :
    rowPieces r = r.take 255 :: rowPieces (r.drop 255) := by
  have hlen : 0 < r.length := List.length_pos_of_ne_nil h
  have hcount : (r.length + 254) / 255 = ((r.drop 255).length + 254) / 255 + 1 := by
    rw [List.length_drop]
    omega
  rw [rowPieces, hcount, List.range_succ_eq_map, List.map_cons, List.map_map]
  refine congrArg (r.take 255 :: ·) (List.map_congr_left fun k _ => ?_)
  show piece r (k + 1) = piece (r.drop 255) k
  rw [piece, piece, List.drop_drop, Nat.mul_succ, Nat.add_comm]

theorem pieces_short {r : Bytes} (h : r ≠ []) (hlen : r.length ≤ 255) : rowPieces r = [r] := by
  rw [pieces_cons h, List.take_of_length_le hlen, List.drop_of_length_le hlen]
  rfl

theorem fgets_line (n : Nat) {line : Bytes} (h : 10 ∉ line) (hlen : line.length < n)
    (rest : Bytes) : fgets n (line ++ 10 :: rest) = (line ++ [10], rest) := by
  induction line generalizing n with
  | nil =>
      obtain ⟨n, rfl⟩ := Nat.exists_eq_add_one.mpr hlen
      exact if_pos rfl
  | cons c line ih =>
      rw [List.length_cons] at hlen
      obtain ⟨n, rfl⟩ : ∃ k, n = k + 1 := ⟨n - 1, by omega⟩
      rw [List.mem_cons, not_or] at h
      rw [List.cons_append, fgets, if_neg (Ne.symm h.1), ih n h.2 (by omega)]
      rfl

theorem fgets_within (n : Nat) {line : Bytes} (h : 10 ∉ line) (hlen : n ≤ line.length)
    (rest : Bytes) : fgets n (line ++ rest) = (line.take n, line.drop n ++ rest) := by
  induction line generalizing n with
  | nil =>
      rw [List.length_nil, Nat.le_zero] at hlen
      subst hlen
      rfl
  | cons c line ih =>
      cases n with
      | zero => rfl
      | succ n =>
          rw [List.mem_cons, not_or] at h
          rw [List.cons_append, fgets, if_neg (Ne.symm h.1), ih n h.2 (Nat.le_of_succ_le_succ hlen)]
          rfl

theorem fgets_last (n : Nat) {line : Bytes} (h : 10 ∉ line) :
    fgets n line = (line.take n, line.drop n) := by
  rcases Nat.le_total n line.length with hlen | hlen
  · have hread := fgets_within n h hlen []
    rwa [List.append_nil, List.append_nil] at hread
  · induction line generalizing n with
    | nil => cases n <;> rfl
    | cons c line ih =>
        obtain ⟨n, rfl⟩ : ∃ k, n = k + 1 := ⟨n - 1, by rw [List.length_cons] at hlen; omega⟩
        rw [List.mem_cons, not_or] at h
        rw [fgets, if_neg (Ne.symm h.1), ih n h.2 (Nat.le_of_succ_le_succ hlen)]
        rfl

theorem rows_line {line : Bytes} (h : 10 ∉ line) (rest : Bytes) :
    rows (fileLines (line ++ 10 :: rest)) = (line ++ [10]) :: rows (fileLines rest) := by
  have hne : fileLines rest ≠ [] := List.splitOn_ne_nil 10 rest
  rw [fileLines, List.splitOn_append_cons_self_of_not_mem h, rows, row, if_neg]
  · rfl
  · rwa [List.isEmpty_iff]

theorem rows_last {line : Bytes} (h : 10 ∉ line) : rows (fileLines line) = [line] := by
  rw [fileLines, List.splitOn_eq_singleton h]
  rfl

/-- The calls of `fgets` take the rows one after the other, piece by piece. -/
theorem readsLoop_eq (fuel : Nat) {text : Bytes} (hfuel : text.length ≤ fuel) :
    readsLoop fuel text = ((rows (fileLines text)).flatMap rowPieces).map cString := by
  induction fuel generalizing text with
  | zero =>
      rw [List.length_eq_zero_iff.mp (Nat.le_zero.mp hfuel)]
      rfl
  | succ fuel ih =>
      by_cases hnil : text = []
      · rw [hnil]
        rfl
      · have hpos : 0 < text.length := List.length_pos_of_ne_nil hnil
        rw [readsLoop, if_neg (mt List.isEmpty_iff.mp hnil)]
        rcases split_cases 10 text with hline | ⟨line, rest, rfl, hline⟩
        · have hrest : 10 ∉ text.drop 255 := fun h => hline (List.mem_of_mem_drop h)
          rw [fgets_last 255 hline, ih (by rw [List.length_drop]; omega), rows_last hline,
            rows_last hrest, List.flatMap_singleton, List.flatMap_singleton, pieces_cons hnil,
            List.map_cons]
        · rw [List.length_append, List.length_cons] at hfuel
          have hrow : line ++ [10] ≠ [] := by simp
          rw [rows_line hline, List.flatMap_cons]
          by_cases hlen : line.length < 255
          · have hshort : (line ++ [10]).length ≤ 255 := by
              rw [List.length_append, List.length_singleton]
              omega
            rw [fgets_line 255 hline hlen, ih (show rest.length ≤ fuel by omega),
              pieces_short hrow hshort]
            rfl
          · have hdrop : 10 ∉ line.drop 255 := fun h => hline (List.mem_of_mem_drop h)
            rw [fgets_within 255 hline (by omega), ih, rows_line hdrop, pieces_cons hrow,
              List.take_append_of_le_length (by omega), List.drop_append_of_le_length (by omega)]
            · rfl
            · rw [List.length_append, List.length_drop, List.length_cons]
              omega

/-! ## Where a name is found -/

/-- At a multiple of 255 bytes of the line stands `name:`, whole within the next 255. -/
def BeginsAt (name line : Bytes) (k : Nat) : Prop := name ++ [58] <+: piece line k

/-- The first place of the file at which a name is found. -/
structure FirstStart (text name : Bytes) (before : List Bytes) (line : Bytes)
    (after : List Bytes) (k : Nat) : Prop where
  lines : fileLines text = before ++ line :: after
  above : ∀ l ∈ before, ∀ j, ¬ BeginsAt name l j
  earlier : ∀ j < k, ¬ BeginsAt name line j
  begins : BeginsAt name line k

/-- What stands there behind `name:`, up to the next `:`, the first NUL or the end
of the 255 bytes. -/
def shown (name line : Bytes) (after : List Bytes) (k : Nat) : Bytes :=
  hashBehind name (cString (piece (row line after) k))

theorem row_cases {line bytes : Bytes} (h : line = bytes) (after : List Bytes) :
    ∃ rest, row line after = bytes ++ rest ∧
      (after = [] ∧ rest = [] ∨ after ≠ [] ∧ rest = [10]) := by
  subst h
  unfold row
  cases after with
  | nil => exact ⟨[], (List.append_nil line).symm, .inl ⟨rfl, rfl⟩⟩
  | cons l after => exact ⟨[10], rfl, .inr ⟨List.cons_ne_nil l after, rfl⟩⟩

theorem not_begins_nil (name : Bytes) : ¬ name ++ [58] <+: [] := fun h =>
  List.append_ne_nil_of_right_ne_nil name (List.cons_ne_nil 58 []) (List.prefix_nil.mp h)

/-- A newline does not belong to a name or to what ends it. -/
theorem begins_newline_iff (name l : Bytes) : name ++ [58] <+: l ++ [10] ↔ name ++ [58] <+: l := by
  rw [List.prefix_concat_iff]
  refine or_iff_right fun h => ?_
  exact absurd (List.append_inj_right' h rfl) (by decide)

theorem begins_row (name line : Bytes) (after : List Bytes) (k : Nat) :
    name ++ [58] <+: piece (row line after) k ↔ BeginsAt name line k := by
  unfold row BeginsAt
  split
  · rfl
  · unfold piece
    rw [List.prefix_take_iff, List.prefix_take_iff]
    refine and_congr_left fun _ => ?_
    rcases Nat.le_total (255 * k) line.length with hle | hle
    · rw [List.drop_append_of_le_length hle, begins_newline_iff]
    · rw [List.drop_append, List.drop_of_length_le hle, List.nil_append]
      cases 255 * k - line.length with
      | zero => exact begins_newline_iff name []
      | succ n => rw [List.drop_succ_cons, List.drop_nil]

/-- No NUL cuts a read inside the name. -/
theorem begins_cString_iff {name : Bytes} (hnul : 0 ∉ name) (r : Bytes) :
    name ++ [58] <+: cString r ↔ name ++ [58] <+: r := by
  refine ⟨fun h => h.trans (List.takeWhile_prefix _), ?_⟩
  rintro ⟨rest, rfl⟩
  have hname : 0 ∉ name ++ [58] := by
    rw [List.mem_append, not_or]
    exact ⟨hnul, by decide⟩
  rw [cString_append hname]
  exact List.prefix_append _ _

section Starts

variable {text name : Bytes} (hnul : 0 ∉ name)

include hnul

theorem begins_read_iff (line : Bytes) (after : List Bytes) (k : Nat) :
    (name ++ [58]).isPrefixOf (cString (piece (row line after) k)) = true ↔
      BeginsAt name line k := by
  rw [List.isPrefixOf_iff_prefix, begins_cString_iff hnul, begins_row]

theorem find_pieces_none {line : Bytes} {after : List Bytes} (h : ∀ j, ¬ BeginsAt name line j) :
    (rowPieces (row line after)).find? ((name ++ [58]).isPrefixOf ∘ cString) = none := by
  refine List.find?_eq_none.mpr fun r hr hbegins => ?_
  obtain ⟨k, -, rfl⟩ := List.mem_map.mp hr
  exact h k ((begins_read_iff hnul line after k).mp hbegins)

theorem find_pieces_some {line : Bytes} {after : List Bytes} {k : Nat}
    (hearlier : ∀ j < k, ¬ BeginsAt name line j) (hbegins : BeginsAt name line k) :
    (rowPieces (row line after)).find? ((name ++ [58]).isPrefixOf ∘ cString) =
      some (piece (row line after) k) := by
  have hlen : 255 * k < (row line after).length := by
    by_contra hge
    have hrow := (begins_row name line after k).mpr hbegins
    rw [piece, List.drop_of_length_le (by omega)] at hrow
    exact not_begins_nil name hrow
  have hrange : (List.range (((row line after).length + 254) / 255)).find?
      (((name ++ [58]).isPrefixOf ∘ cString) ∘ piece (row line after)) = some k := by
    rw [List.find?_range_eq_some]
    refine ⟨(begins_read_iff hnul line after k).mpr hbegins, List.mem_range.mpr (by omega), ?_⟩
    intro j hj
    rw [Bool.not_eq_true', ← Bool.not_eq_true]
    exact fun h => hearlier j hj ((begins_read_iff hnul line after j).mp h)
  rw [rowPieces, List.find?_map, hrange]
  rfl

/-- Where no line has the name, no read begins with it. -/
theorem find_rows_none {lines : List Bytes} (h : ∀ l ∈ lines, ∀ j, ¬ BeginsAt name l j) :
    ((rows lines).flatMap rowPieces).find? ((name ++ [58]).isPrefixOf ∘ cString) = none := by
  induction lines with
  | nil => rfl
  | cons line after ih =>
      rw [List.forall_mem_cons] at h
      rw [rows, List.flatMap_cons, List.find?_append, find_pieces_none hnul h.1, ih h.2]
      rfl

theorem find_rows_some {before after : List Bytes} {line : Bytes} {k : Nat}
    (habove : ∀ l ∈ before, ∀ j, ¬ BeginsAt name l j)
    (hearlier : ∀ j < k, ¬ BeginsAt name line j) (hbegins : BeginsAt name line k) :
    ((rows (before ++ line :: after)).flatMap rowPieces).find?
        ((name ++ [58]).isPrefixOf ∘ cString) = some (piece (row line after) k) := by
  induction before with
  | nil =>
      rw [List.nil_append, rows, List.flatMap_cons, List.find?_append,
        find_pieces_some hnul hearlier hbegins]
      rfl
  | cons l before ih =>
      rw [List.forall_mem_cons] at habove
      rw [List.cons_append, rows, List.flatMap_cons, List.find?_append,
        find_pieces_none hnul habove.1, ih habove.2]
      rfl

/-- The hash the code takes is the one shown at the first place. -/
theorem FirstStart.readHash_eq {before after : List Bytes} {line : Bytes} {k : Nat}
    (hname : name ≠ []) (hcolon : 58 ∉ name) (h : FirstStart text name before line after k) :
    readHash text name = usable (shown name line after k) := by
  unfold readHash
  dsimp only
  rw [takeWhile_ne_self hcolon, if_neg (mt List.isEmpty_iff.mp hname), reads,
    readsLoop_eq _ (Nat.le_refl _), List.find?_map, h.lines,
    find_rows_some hnul h.above h.earlier h.begins]
  rfl

theorem readHash_of_absent (hcolon : 58 ∉ name)
    (h : ∀ l ∈ fileLines text, ∀ j, ¬ BeginsAt name l j) : readHash text name = none := by
  unfold readHash
  dsimp only
  rw [takeWhile_ne_self hcolon, reads, readsLoop_eq _ (Nat.le_refl _), List.find?_map,
    find_rows_none hnul h]
  split <;> rfl

end Starts

theorem exists_firstStart (text name : Bytes) :
    (∀ l ∈ fileLines text, ∀ j, ¬ BeginsAt name l j) ∨
      ∃ before line after k, FirstStart text name before line after k := by
  classical
  cases hfind : (fileLines text).find? fun l => decide (∃ j, BeginsAt name l j) with
  | none =>
      refine .inl fun l hl j hj => ?_
      exact absurd (decide_eq_true ⟨j, hj⟩) (List.find?_eq_none.mp hfind l hl)
  | some line =>
      obtain ⟨hline, before, after, hlines, habove⟩ := List.find?_eq_some_iff_append.mp hfind
      have hexists := of_decide_eq_true hline
      refine .inr ⟨before, line, after, Nat.find hexists, hlines, fun l hl j hj => ?_,
        fun j hj => Nat.find_min hexists hj, Nat.find_spec hexists⟩
      have hnot := habove l hl
      rw [Bool.not_eq_true', decide_eq_false_iff_not] at hnot
      exact hnot ⟨j, hj⟩

end Rtsp
end FH8852
