import Mathlib.Data.List.TakeWhile
import FH8852.Rtsp.ShadowFile

/-!
# Logins from the shadow file

When `shadow_matches` decides the logins of a user by the second field of the
user's line, and all the ways in which it does not.
-/

namespace FH8852
namespace Rtsp

open CLib

/-! ## When the two agree -/

/-- The code decides every login of the user as the file says, whatever `crypt`
does. -/
def Decides (text user : Bytes) : Prop :=
  ∀ crypt password, 0 ∉ password →
    (shadowMatches (some text) crypt (user ++ 58 :: password) = true ↔
      Admits text crypt user password)

theorem fields_head? (line : Bytes) : (fields line).head? = some (line.takeWhile (· ≠ 58)) := by
  unfold fields
  rcases split_cases 58 line with h | ⟨first, rest, rfl, h⟩
  · rw [List.splitOn_eq_singleton h, takeWhile_ne_self h]
    rfl
  · rw [List.splitOn_append_cons_self_of_not_mem h, takeWhile_ne_append h]
    rfl

/-- No line's first field has a `:` in it. -/
theorem lineHash_of_mem {text user : Bytes} (huser : 58 ∈ user) : lineHash text user = none := by
  have hnone : userLine text user = none := by
    refine List.find?_eq_none.mpr fun line _ hline => ?_
    rw [isLineOf, fields_head?, beq_iff_eq, Option.some_inj] at hline
    rw [← hline] at huser
    exact absurd (List.mem_takeWhile_imp huser) (by decide)
  rw [lineHash, hnone, Option.bind_none]

/-- What follows a `:` in the user's name is not looked up. -/
theorem readHash_name {text name : Bytes} (h : 58 ∉ name) (more : Bytes) :
    readHash text (name ++ 58 :: more) = readHash text name := by
  unfold readHash
  rw [takeWhile_ne_append h, takeWhile_ne_self h]

/-- `crypt` tells apart every two hashes that differ. -/
theorem hash_eq_of_crypt {o o' : Option Bytes}
    (h : ∀ crypt : Bytes → Option Bytes, (∃ hash, o = some hash ∧ crypt hash = some hash) ↔
      ∃ hash, o' = some hash ∧ crypt hash = some hash) : o = o' := by
  have hone : ∀ x y : Option Bytes, (∀ crypt : Bytes → Option Bytes,
      (∃ hash, x = some hash ∧ crypt hash = some hash) →
        ∃ hash, y = some hash ∧ crypt hash = some hash) →
      ∀ hash, x = some hash → y = some hash := by
    intro x y hxy hash hx
    obtain ⟨hash', hy, hcrypt⟩ := hxy (fun s => if s = hash then some hash else none)
      ⟨hash, hx, if_pos rfl⟩
    split at hcrypt
    · rename_i hsame
      rw [hy, hsame]
    · cases hcrypt
  refine Option.ext fun hash => ⟨hone o o' (fun crypt => (h crypt).mp) hash,
    hone o' o (fun crypt => (h crypt).mpr) hash⟩

theorem decides_iff (text user : Bytes) :
    Decides text user ↔ readHash text user = lineHash text user := by
  rcases split_cases 58 user with huser | ⟨name, more, rfl, hname⟩
  · unfold Decides
    simp only [shadowMatches_eq_true_iff huser, admits_iff]
    constructor
    · intro h
      exact hash_eq_of_crypt fun crypt => h (fun _ => crypt) [] List.not_mem_nil
    · rintro h crypt password -
      rw [h]
  · have hread := @readHash_name text name hname more
    have hline : lineHash text (name ++ 58 :: more) = none :=
      lineHash_of_mem (List.mem_append_right name List.mem_cons_self)
    have hsplit : ∀ password : Bytes,
        name ++ 58 :: more ++ 58 :: password = name ++ 58 :: (more ++ 58 :: password) :=
      fun password => List.append_assoc _ _ _
    unfold Decides
    simp only [hsplit, shadowMatches_eq_true_iff hname, admits_iff, hline, hread]
    constructor
    · intro h
      cases hhash : readHash text name with
      | none => rfl
      | some hash =>
          obtain ⟨_, hnone, -⟩ := (h (fun _ s => some s) [] List.not_mem_nil).mp ⟨hash, hhash, rfl⟩
          cases hnone
    · rintro hnone crypt password -
      rw [hnone]
      exact iff_of_false (fun ⟨_, h, _⟩ => nomatch h) fun ⟨_, h, _⟩ => nomatch h

/-! ## The user's line -/

/-- How a read shows something else than the hash of the line it begins. -/
inductive Spoiled (user hash line : Bytes) (after : List Bytes) : Prop
  /-- A NUL ends the string. -/
  | nul (hnul : 0 ∈ hash)
  /-- The buffer ends before the hash does. -/
  | long (hlong : 254 < user.length + hash.length)
  /-- There is no third field, and the newline is taken for a part of the hash. -/
  | newline (htwo : (fields line).length = 2) (hafter : after ≠ [])
      (hroom : user.length + hash.length < 254)

theorem begins_zero_iff {user line : Bytes} :
    BeginsAt user line 0 ↔ user ++ [58] <+: line ∧ user.length < 255 := by
  show user ++ [58] <+: line.take 255 ↔ _
  rw [List.prefix_take_iff, List.length_append, List.length_singleton]
  exact Iff.rfl

theorem isLineOf_cases {user line : Bytes} (h : isLineOf user line = true) :
    line = user ∨ user ++ [58] <+: line := by
  rw [isLineOf, fields_head?, beq_iff_eq, Option.some_inj] at h
  rcases split_cases 58 line with hline | ⟨first, rest, rfl, hfirst⟩
  · rw [takeWhile_ne_self hline] at h
    exact .inl h
  · rw [takeWhile_ne_append hfirst] at h
    subst h
    exact .inr ⟨rest, List.append_assoc _ _ _⟩

/-- The fields of a line that begins with `user:`. -/
theorem fields_of_begins {user line : Bytes} (hcolon : 58 ∉ user)
    (h : user ++ [58] <+: line) :
    isLineOf user line = true ∧ ∃ hash tail, line = user ++ [58] ++ (hash ++ tail) ∧
      58 ∉ hash ∧ (fields line)[1]? = some hash ∧
      (tail = [] ∧ (fields line).length = 2 ∨
        (∃ more, tail = 58 :: more) ∧ 3 ≤ (fields line).length) := by
  obtain ⟨rest, rfl⟩ := h
  have hline : user ++ [58] ++ rest = user ++ 58 :: rest := List.append_assoc _ _ _
  have hfields : fields (user ++ [58] ++ rest) = user :: fields rest := by
    rw [hline]
    exact List.splitOn_append_cons_self_of_not_mem hcolon rest
  refine ⟨by rw [isLineOf, hfields]; exact beq_self_eq_true _, ?_⟩
  rw [hfields]
  rcases split_cases 58 rest with hrest | ⟨hash, more, rfl, hhash⟩
  · have htwo : fields rest = [rest] := List.splitOn_eq_singleton hrest
    rw [htwo]
    exact ⟨rest, [], by rw [List.append_nil], hrest, rfl, .inl ⟨rfl, rfl⟩⟩
  · have hthree : fields (hash ++ 58 :: more) = hash :: fields more :=
      List.splitOn_append_cons_self_of_not_mem hhash more
    have hne : 1 ≤ (fields more).length := List.length_pos_of_ne_nil (List.splitOn_ne_nil 58 more)
    rw [hthree]
    refine ⟨hash, 58 :: more, rfl, hhash, rfl, .inr ⟨⟨more, rfl⟩, ?_⟩⟩
    rw [List.length_cons, List.length_cons]
    omega

theorem isLineOf_bare {user : Bytes} (hcolon : 58 ∉ user) :
    isLineOf user user = true ∧ (fields user)[1]? = none := by
  have hone : fields user = [user] := List.splitOn_eq_singleton hcolon
  rw [isLineOf, hone]
  exact ⟨beq_self_eq_true _, rfl⟩

/-- The user's line is found first, and its second field is the hash. -/
theorem FirstStart.lineHash_eq {text user line : Bytes} {before after : List Bytes}
    (hcolon : 58 ∉ user) (h : FirstStart text user before line after 0) (hbare : user ∉ before) :
    lineHash text user = (fields line)[1]?.bind usable := by
  obtain ⟨hbegins, hshort⟩ := begins_zero_iff.mp h.begins
  have habove : ∀ l ∈ before, ¬ isLineOf user l = true := by
    intro l hl hline
    rcases isLineOf_cases hline with rfl | hname
    · exact hbare hl
    · exact h.above l hl 0 (begins_zero_iff.mpr ⟨hname, hshort⟩)
  have huser : userLine text user = some line := by
    rw [userLine, h.lines, List.find?_append, List.find?_eq_none.mpr habove,
      List.find?_cons_of_pos (fields_of_begins hcolon hbegins).1]
    rfl
  rw [lineHash, huser, Option.bind_some]

/-- Without `user:` in the file there is no hash, unless the name fills the buffer. -/
theorem lineHash_of_absent {text user : Bytes} (hcolon : 58 ∉ user) (hshort : user.length < 255)
    (h : ∀ l ∈ fileLines text, ∀ j, ¬ BeginsAt user l j) : lineHash text user = none := by
  unfold lineHash
  cases hline : userLine text user with
  | none => rfl
  | some line =>
      have hmem := List.mem_of_find?_eq_some hline
      rcases isLineOf_cases (List.find?_some hline) with rfl | hname
      · rw [Option.bind_some, (isLineOf_bare hcolon).2]
        rfl
      · exact absurd (begins_zero_iff.mpr ⟨hname, hshort⟩) (h line hmem 0)

/-! ## The hash that is shown -/

/-- What is read of a hash with `room` bytes left in the buffer. -/
def readWithin (room : Nat) (bytes : Bytes) : Bytes :=
  (cString (bytes.take room)).takeWhile (· ≠ 58)

section ReadWithin

variable {room : Nat} {hash : Bytes}

theorem readWithin_whole (hcolon : 58 ∉ hash) (hnul : 0 ∉ hash) (hlen : hash.length ≤ room)
    {tail : Bytes} (htail : tail.take (room - hash.length) = [] ∨ ∃ more, tail = 58 :: more) :
    readWithin room (hash ++ tail) = hash := by
  have hrest : (cString (tail.take (room - hash.length))).takeWhile (· ≠ 58) = [] := by
    rcases htail with hnil | ⟨more, rfl⟩
    · rw [hnil]
      rfl
    · cases room - hash.length <;> rfl
  rw [readWithin, List.take_append, List.take_of_length_le hlen, cString_append hnul,
    takeWhile_append_of_not_mem hcolon]
  exact (congrArg (hash ++ ·) hrest).trans (List.append_nil hash)

theorem readWithin_newline (hcolon : 58 ∉ hash) (hnul : 0 ∉ hash) (hlen : hash.length < room) :
    readWithin room (hash ++ [10]) = hash ++ [10] := by
  have hsep : ∀ sep : UInt8, sep ≠ 10 → sep ∉ hash → sep ∉ hash ++ [10] := by
    intro sep hne hnot
    rw [List.mem_append, List.mem_singleton, not_or]
    exact ⟨hnot, hne⟩
  have hfits : (hash ++ [10]).length ≤ room := by
    rw [List.length_append, List.length_singleton]
    exact hlen
  rw [readWithin, List.take_of_length_le hfits, cString_self (hsep 0 (by decide) hnul),
    takeWhile_ne_self (hsep 58 (by decide) hcolon)]

/-- A NUL or the end of the buffer leaves a beginning of the hash. -/
theorem readWithin_cut (h : 0 ∈ hash ∨ room < hash.length) (tail : Bytes) :
    readWithin room (hash ++ tail) <+: hash ∧
      (readWithin room (hash ++ tail)).length < hash.length := by
  have hread : readWithin room (hash ++ tail) <+: cString ((hash ++ tail).take room) :=
    List.takeWhile_prefix _
  rcases h with hnul | hlong
  · obtain ⟨first, rest, rfl, hfirst⟩ := List.eq_append_cons_of_mem hnul
    have hcut : cString ((first ++ 0 :: rest ++ tail).take room) = first.take room := by
      rw [cString_take, cString, List.append_assoc, List.cons_append, takeWhile_ne_append hfirst]
    rw [hcut] at hread
    have hstarts := hread.trans (List.take_prefix room first)
    refine ⟨hstarts.trans (List.prefix_append _ _), ?_⟩
    have hlen := hstarts.length_le
    rw [List.length_append, List.length_cons]
    omega
  · rw [List.take_append_of_le_length (Nat.le_of_lt hlong)] at hread
    have hstarts := hread.trans (List.takeWhile_prefix _)
    refine ⟨hstarts.trans (List.take_prefix room hash), ?_⟩
    have hlen := hstarts.length_le
    rw [List.length_take] at hlen
    omega

end ReadWithin

theorem usable_open {hash : Bytes} (hne : hash ≠ []) (hlocked : hash.head? ≠ some 33)
    (hstar : hash.head? ≠ some 42) : usable hash = some hash :=
  usable_eq_some_iff.mpr ⟨rfl, hne, hlocked, hstar⟩

theorem usable_locked {hash read : Bytes} (h : hash.head? = some 33 ∨ hash.head? = some 42)
    (hread : read = [] ∨ read.head? = hash.head?) : usable read = none := by
  refine if_pos ?_
  rcases hread with rfl | hread
  · exact .inl rfl
  · rw [hread]
    exact .inr h

section Usable

variable {hash : Bytes}

/-- Where a beginning of the hash is read, only a locked one is taken for what it is. -/
theorem usable_cut_iff {read : Bytes} (hstarts : read <+: hash) (hlen : read.length < hash.length) :
    usable read = usable hash ↔ hash.head? = some 33 ∨ hash.head? = some 42 := by
  constructor
  · intro hsame
    by_contra hopen
    rw [not_or] at hopen
    rw [usable_open (List.ne_nil_of_length_pos (by omega)) hopen.1 hopen.2,
      usable_eq_some_iff] at hsame
    rw [hsame.1] at hlen
    exact Nat.lt_irrefl _ hlen
  · intro hlocked
    rw [usable_locked hlocked (.inr rfl), usable_locked hlocked]
    cases read with
    | nil => exact .inl rfl
    | cons c read =>
        obtain ⟨more, rfl⟩ := hstarts
        exact .inr rfl

/-- The same where the newline is read with it. -/
theorem usable_newline_iff :
    usable (hash ++ [10]) = usable hash ↔ hash.head? = some 33 ∨ hash.head? = some 42 := by
  constructor
  · intro hsame
    by_contra hopen
    rw [not_or] at hopen
    have hread : usable (hash ++ [10]) = some (hash ++ [10]) := by
      refine usable_open (List.append_ne_nil_of_right_ne_nil _ (List.cons_ne_nil _ _)) ?_ ?_
      · cases hash with
        | nil => decide
        | cons c hash => exact hopen.1
      · cases hash with
        | nil => decide
        | cons c hash => exact hopen.2
    rw [hread] at hsame
    have hlen := congrArg List.length (usable_eq_some_iff.mp hsame.symm).1
    rw [List.length_append, List.length_singleton] at hlen
    omega
  · intro hlocked
    rw [usable_locked hlocked (.inr rfl), usable_locked hlocked]
    cases hash with
    | nil => rcases hlocked with h | h <;> cases h
    | cons c hash => exact .inr rfl

end Usable

section Shown

variable {user line hash : Bytes} {after : List Bytes} (hnul : 0 ∉ user)

include hnul

theorem shown_zero {rest : Bytes} (hshort : user.length < 255)
    (hrow : row line after = user ++ [58] ++ rest) :
    shown user line after 0 = readWithin (254 - user.length) rest := by
  have hname : 0 ∉ user ++ [58] := by
    rw [List.mem_append, not_or]
    exact ⟨hnul, by decide⟩
  have hlen : (user ++ [58]).length = user.length + 1 := List.length_append
  have hpiece : piece (row line after) 0 =
      user ++ [58] ++ rest.take (254 - user.length) := by
    show (row line after).take 255 = _
    rw [hrow, List.take_append, List.take_of_length_le (by omega), hlen]
    congr 2
    omega
  rw [shown, hpiece, hashBehind, cString_append hname, ← hlen, List.drop_left]
  rfl

section Begins

variable (hcolon : 58 ∉ user) (hbegins : BeginsAt user line 0)
  (hhash : (fields line)[1]? = some hash)

include hcolon hbegins hhash

/-- Behind `user:` stand the hash, the rest of the line and its newline, if any. -/
theorem shown_line : ∃ tail rest,
    shown user line after 0 = readWithin (254 - user.length) (hash ++ (tail ++ rest)) ∧
      58 ∉ hash ∧
      (tail = [] ∧ (fields line).length = 2 ∨
        (∃ more, tail = 58 :: more) ∧ 3 ≤ (fields line).length) ∧
      (after = [] ∧ rest = [] ∨ after ≠ [] ∧ rest = [10]) := by
  obtain ⟨hname, hshort⟩ := begins_zero_iff.mp hbegins
  obtain ⟨-, hash', tail, hline, hfield, hhash', htail⟩ := fields_of_begins hcolon hname
  obtain rfl : hash' = hash := Option.some.inj (hhash'.symm.trans hhash)
  obtain ⟨rest, hrow, hrest⟩ := row_cases hline after
  rw [List.append_assoc (user ++ [58]), List.append_assoc hash'] at hrow
  exact ⟨tail, rest, shown_zero hnul hshort hrow, hfield, htail, hrest⟩

theorem shown_of_clean (hclean : ¬ Spoiled user hash line after) :
    shown user line after 0 = hash := by
  obtain ⟨tail, rest, hshown, hfield, htail, hrest⟩ :=
    @shown_line user line hash after hnul hcolon hbegins hhash
  have hzero : 0 ∉ hash := fun h => hclean (.nul h)
  have hroom : hash.length ≤ 254 - user.length := by
    by_contra hlong
    exact hclean (.long (by omega))
  rw [hshown, readWithin_whole hfield hzero hroom]
  rcases htail with ⟨rfl, htwo⟩ | ⟨⟨more, rfl⟩, -⟩
  · rcases hrest with ⟨-, rfl⟩ | ⟨hafter, rfl⟩
    · exact .inl List.take_nil
    · have hfull : 254 - user.length - hash.length = 0 := by
        by_contra hleft
        exact hclean (.newline htwo hafter (by omega))
      rw [hfull]
      exact .inl rfl
  · exact .inr ⟨_, rfl⟩

theorem usable_shown_of_spoiled (hspoiled : Spoiled user hash line after) :
    usable (shown user line after 0) = usable hash ↔
      hash.head? = some 33 ∨ hash.head? = some 42 := by
  obtain ⟨tail, rest, hshown, hfield, htail, hrest⟩ :=
    @shown_line user line hash after hnul hcolon hbegins hhash
  rw [hshown]
  by_cases hcut : 0 ∈ hash ∨ 254 - user.length < hash.length
  · obtain ⟨hstarts, hlen⟩ := readWithin_cut hcut (tail ++ rest)
    exact usable_cut_iff hstarts hlen
  · rw [not_or] at hcut
    cases hspoiled with
    | nul hzero => exact absurd hzero hcut.1
    | long hlong =>
        have hshort := (begins_zero_iff.mp hbegins).2
        omega
    | newline htwo hafter hroom =>
        have htail : tail = [] := by
          rcases htail with ⟨htail, -⟩ | ⟨-, hthree⟩
          · exact htail
          · omega
        have hrest : rest = [10] := by
          rcases hrest with ⟨hnone, -⟩ | ⟨-, hrest⟩
          · exact absurd hnone hafter
          · exact hrest
        rw [htail, hrest, List.nil_append, readWithin_newline hfield hcut.1 (by omega)]
        exact usable_newline_iff

/-- At the user's line the read shows the hash unless the line spoils it; a locked
hash is locked either way. -/
theorem usable_shown_iff :
    usable (shown user line after 0) = usable hash ↔
      (hash.head? = some 33 ∨ hash.head? = some 42) ∨ ¬ Spoiled user hash line after := by
  by_cases hspoiled : Spoiled user hash line after
  · rw [or_iff_left (not_not_intro hspoiled)]
    exact usable_shown_of_spoiled hnul hcolon hbegins hhash hspoiled
  · rw [shown_of_clean hnul hcolon hbegins hhash hspoiled]
    exact iff_of_true rfl (.inr hspoiled)

end Begins

end Shown

/-! ## Files that are misread -/

/-- The ways in which the logins of a user are decided by something else than the
hash of the user's line. -/
inductive Misread (text user : Bytes) : Prop
  /-- Nobody without a name is let in. -/
  | unnamed (hname : user = []) (hhash : lineHash text user ≠ none)
  /-- The name and its `:` do not fit the buffer. -/
  | unfound (hlong : 254 < user.length) (hhash : lineHash text user ≠ none)
  /-- The name has a `:` in it, and what stands before that is a user. -/
  | colon {name more line : Bytes} {before after : List Bytes} {k : Nat}
      (huser : user = name ++ 58 :: more) (hname : name ≠ []) (hcolon : 58 ∉ name)
      (hstart : FirstStart text name before line after k)
      (hhash : usable (shown name line after k) ≠ none)
  /-- The name is found in the middle of a line, or below a line of its own that has
  nothing else in it, with another hash than that of the user's line. -/
  | decoy {line : Bytes} {before after : List Bytes} {k : Nat}
      (hname : user ≠ []) (hcolon : 58 ∉ user)
      (hstart : FirstStart text user before line after k) (hdecoy : 0 < k ∨ user ∈ before)
      (hhash : usable (shown user line after k) ≠ lineHash text user)
  /-- The user's line is found, and a hash that is not locked is spoiled. -/
  | spoiled {line hash : Bytes} {before after : List Bytes}
      (hname : user ≠ []) (hcolon : 58 ∉ user)
      (hstart : FirstStart text user before line after 0) (hbare : user ∉ before)
      (hhash : (fields line)[1]? = some hash)
      (hopen : hash.head? ≠ some 33 ∧ hash.head? ≠ some 42)
      (hspoiled : Spoiled user hash line after)

section Misreads

variable {text user : Bytes} (hnul : 0 ∉ user)

include hnul

theorem Misread.readHash_ne (h : Misread text user) :
    readHash text user ≠ lineHash text user := by
  cases h with
  | unnamed hname hhash =>
      rw [hname] at hhash ⊢
      exact hhash.symm
  | unfound hlong hhash =>
      have hcolon : 58 ∉ user := fun h => hhash (lineHash_of_mem h)
      rw [readHash_of_absent hnul hcolon]
      · exact hhash.symm
      · intro l _ j hbegins
        have hlen := hbegins.length_le
        rw [List.length_append, List.length_singleton, piece, List.length_take] at hlen
        omega
  | @colon name more line before after k huser hname hcolon hstart hhash =>
      have hname0 : 0 ∉ name := fun h => hnul (huser ▸ List.mem_append_left _ h)
      have hmem : 58 ∈ user := huser ▸ List.mem_append_right _ List.mem_cons_self
      rw [lineHash_of_mem hmem, huser, readHash_name hcolon,
        hstart.readHash_eq hname0 hname hcolon]
      exact hhash
  | decoy hname hcolon hstart _ hhash =>
      rw [hstart.readHash_eq hnul hname hcolon]
      exact hhash
  | spoiled hname hcolon hstart hbare hhash hopen hspoiled =>
      rw [hstart.readHash_eq hnul hname hcolon, hstart.lineHash_eq hcolon hbare, hhash,
        Option.bind_some, Ne, usable_shown_iff hnul hcolon hstart.begins hhash, not_or]
      exact ⟨fun h => h.elim hopen.1 hopen.2, not_not_intro hspoiled⟩

theorem misread_of_ne (h : readHash text user ≠ lineHash text user) : Misread text user := by
  rcases split_cases 58 user with hcolon | ⟨name, more, rfl, hcolon⟩
  · by_cases hname : user = []
    · refine .unnamed hname fun hnone => h ?_
      rw [hnone, hname]
      rfl
    · rcases exists_firstStart text user with habsent | ⟨before, line, after, k, hstart⟩
      · rw [readHash_of_absent hnul hcolon habsent] at h
        refine .unfound ?_ h.symm
        by_contra hshort
        exact h (lineHash_of_absent hcolon (by omega) habsent).symm
      · rw [hstart.readHash_eq hnul hname hcolon] at h
        by_cases hdecoy : 0 < k ∨ user ∈ before
        · exact .decoy hname hcolon hstart hdecoy h
        · rw [not_or, Nat.not_lt, Nat.le_zero] at hdecoy
          obtain ⟨rfl, hbare⟩ := hdecoy
          have hbegins := (begins_zero_iff.mp hstart.begins).1
          obtain ⟨-, hash, -, -, -, hhash, -⟩ := fields_of_begins hcolon hbegins
          rw [hstart.lineHash_eq hcolon hbare, hhash, Option.bind_some, Ne,
            usable_shown_iff hnul hcolon hstart.begins hhash, not_or, not_or, not_not] at h
          exact .spoiled hname hcolon hstart hbare hhash h.1 h.2
  · have hname0 : 0 ∉ name := fun h => hnul (List.mem_append_left _ h)
    rw [lineHash_of_mem (List.mem_append_right _ List.mem_cons_self),
      readHash_name hcolon] at h
    have hname : name ≠ [] := by
      rintro rfl
      exact h rfl
    rcases exists_firstStart text name with habsent | ⟨before, line, after, k, hstart⟩
    · exact absurd (readHash_of_absent hname0 hcolon habsent) h
    · rw [hstart.readHash_eq hname0 hname hcolon] at h
      exact .colon rfl hname hcolon hstart h

theorem decides_iff_not_misread : Decides text user ↔ ¬ Misread text user := by
  rw [decides_iff]
  refine ⟨fun h hmisread => hmisread.readHash_ne hnul h, fun h => ?_⟩
  by_contra hne
  exact h (misread_of_ne hnul hne)

end Misreads

/-! ## Plain files -/

/-- A file of short lines without NULs, in which every line of the user has a
third field. -/
structure Plain (text user : Bytes) : Prop where
  named : user ≠ []
  colon : 58 ∉ user
  nul : 0 ∉ text
  short : ∀ line ∈ fileLines text, line.length ≤ 254
  complete : ∀ line ∈ fileLines text, (fields line).head? = some user → 3 ≤ (fields line).length

theorem subset_of_mem_fileLines {text line : Bytes} (h : line ∈ fileLines text) :
    line ⊆ text := by
  induction text generalizing line with
  | nil =>
      rw [List.mem_singleton.mp h]
      exact List.nil_subset _
  | cons c text ih =>
      rw [fileLines, List.splitOn_cons_eq_if_modifyHead] at h
      split at h
      · rcases List.mem_cons.mp h with rfl | h
        · exact List.nil_subset _
        · exact List.subset_cons_of_subset c (ih h)
      · obtain ⟨first, rest, hlines⟩ := List.exists_cons_of_ne_nil (List.splitOn_ne_nil 10 text)
        rw [hlines, List.modifyHead_cons] at h
        have hall : ∀ l ∈ first :: rest, l ⊆ text := fun l hl => by
          rw [← hlines] at hl
          exact ih hl
        rcases List.mem_cons.mp h with rfl | h
        · exact List.cons_subset_cons c (hall first List.mem_cons_self)
        · exact List.subset_cons_of_subset c (hall line (List.mem_cons_of_mem first h))

theorem FirstStart.mem {text name line : Bytes} {before after : List Bytes} {k : Nat}
    (h : FirstStart text name before line after k) :
    line ∈ fileLines text ∧ ∀ l ∈ before, l ∈ fileLines text := by
  rw [h.lines]
  exact ⟨List.mem_append_right _ List.mem_cons_self, fun l hl => List.mem_append_left _ hl⟩

/-- The lines of a plain file fit one read each, and show the user's hash. -/
theorem Plain.not_misread {text user : Bytes} (h : Plain text user) : ¬ Misread text user := by
  rintro (⟨hname, -⟩ | ⟨hlong, hhash⟩ | ⟨huser, -, -, -, -⟩ | ⟨-, hcolon, hstart, hdecoy, -⟩ |
    ⟨-, hcolon, hstart, -, hhash, -, hspoiled⟩)
  · exact h.named hname
  · cases hline : userLine text user with
    | none => exact hhash (by rw [lineHash, hline, Option.bind_none])
    | some line =>
        have hshort := h.short line (List.mem_of_find?_eq_some hline)
        have hlen : user.length ≤ line.length := by
          rcases isLineOf_cases (List.find?_some hline) with rfl | hname
          · exact Nat.le_refl _
          · have hle := hname.length_le
            rw [List.length_append] at hle
            omega
        omega
  · exact h.colon (huser ▸ List.mem_append_right _ List.mem_cons_self)
  · obtain ⟨hline, hbefore⟩ := hstart.mem
    rcases hdecoy with hk | hbare
    · have hshort := h.short _ hline
      have hbegins := hstart.begins
      rw [BeginsAt, piece, List.drop_of_length_le (by omega)] at hbegins
      exact not_begins_nil user hbegins
    · have hthree := h.complete user (hbefore user hbare) (beq_iff_eq.mp (isLineOf_bare hcolon).1)
      have hnone := (isLineOf_bare hcolon).2
      rw [List.getElem?_eq_none_iff] at hnone
      omega
  · obtain ⟨hline, -⟩ := hstart.mem
    have hbegins := (begins_zero_iff.mp hstart.begins).1
    obtain ⟨hown, hash, tail, hsplit, -, hhash', -⟩ := fields_of_begins hcolon hbegins
    obtain rfl := Option.some.inj (hhash'.symm.trans hhash)
    have hthree := h.complete _ hline (beq_iff_eq.mp hown)
    have hshort := h.short _ hline
    rcases hspoiled with hzero | hlong | ⟨htwo, -, -⟩
    · refine h.nul (subset_of_mem_fileLines hline ?_)
      rw [hsplit]
      exact List.mem_append_right _ (List.mem_append_left _ hzero)
    · rw [hsplit] at hshort
      simp only [List.length_append, List.length_singleton] at hshort
      omega
    · omega

/-- The code decides the logins of a user as the file says unless the file is
misread for that user, and plain files are not. -/
theorem shadow_logins_iff (text user : Bytes) (hnul : 0 ∉ user) :
    (Decides text user ↔ ¬ Misread text user) ∧ (Plain text user → Decides text user) :=
  ⟨decides_iff_not_misread hnul, fun h => (decides_iff_not_misread hnul).mpr h.not_misread⟩

theorem shadow_logins_iff_sample : Decides (ascii "alice:x:0\n") (ascii "alice") := by
  refine (shadow_logins_iff (ascii "alice:x:0\n") (ascii "alice") (by decide)).2 ?_
  exact ⟨by decide, by decide, by decide, by decide, by decide⟩

/-- The newline of a line of two fields is taken for a part of the hash. -/
theorem two_fields_refused :
    ¬ ∀ (text : Bytes) (crypt : Bytes → Bytes → Option Bytes) (user password : Bytes),
      58 ∉ user → 0 ∉ user → 0 ∉ password →
        (shadowMatches (some text) crypt (user ++ 58 :: password) = true ↔
          Admits text crypt user password) := by
  intro h
  have hiff := h (ascii "alice:x\n") (fun _ _ => some (ascii "x")) (ascii "alice") (ascii "secret")
    (by decide) (by decide) (by decide)
  have hrefused : shadowMatches (some (ascii "alice:x\n")) (fun _ _ => some (ascii "x"))
      (ascii "alice" ++ 58 :: ascii "secret") = false := by decide
  rw [hrefused] at hiff
  exact absurd (hiff.mpr ⟨ascii "alice:x", by decide, ascii "x", by decide, by decide, by decide,
    by decide, rfl⟩) (by decide)

end Rtsp
end FH8852
