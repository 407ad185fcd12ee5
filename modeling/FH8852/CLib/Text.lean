import Mathlib.Algebra.Group.Nat.Defs
import Mathlib.Data.List.Infix

/-!
# C strings

The string functions of the C library on their contents.  A C string is the
list of its bytes up to its terminating NUL, so none of these functions sees a
NUL of its own.  Characters are classified as in the C locale, and `long` has
32 bits, as on the ARMv7 target.
-/

namespace FH8852
namespace CLib

abbrev Bytes := List UInt8

/-- The bytes of a string literal. -/
def ascii (s : String) : Bytes := s.toList.map fun ch => UInt8.ofNat ch.toNat

def isSpace (b : UInt8) : Bool := b == 32 || (9 ≤ b && b ≤ 13)

def isDigit (b : UInt8) : Bool := 48 ≤ b && b ≤ 57

def toLower (b : UInt8) : UInt8 := if 65 ≤ b && b ≤ 90 then b + 32 else b

/-- The part of the list from the first occurrence of `pat` on. -/
def strstr (pat : Bytes) : Bytes → Option Bytes
  | [] => if pat.isEmpty then some [] else none
  | c :: rest => if pat.isPrefixOf (c :: rest) then some (c :: rest) else strstr pat rest

/-- The part of the list up to and with the first occurrence of `pat`. -/
def through (pat s : Bytes) : Option Bytes :=
  (strstr pat s).map fun rest => s.take (s.length - rest.length + pat.length)

/-- The part of the list from the first `ch` on. -/
def strchr (ch : UInt8) : Bytes → Option Bytes
  | [] => none
  | c :: rest => if c = ch then some (c :: rest) else strchr ch rest

/-- Whether `s` begins with `name`, letters compared without their case. -/
def startsWithNoCase (name s : Bytes) : Bool :=
  (name.map toLower).isPrefixOf (s.map toLower)

/-- What a buffer of `cap` bytes holds after `snprintf` of `text` into it. -/
def snprintf (cap : Nat) (text : Bytes) : Bytes := text.take (cap - 1)

/-- A C string held in an array that `bytes` fill. -/
def cString (bytes : Bytes) : Bytes := bytes.takeWhile (· ≠ 0)

/-- An array once `text` and its NUL are written to its beginning. -/
def stored (array text : Bytes) : Bytes := text ++ 0 :: array.drop (text.length + 1)

/-! ## Numbers -/

def ulongMax : Nat := 2 ^ 32 - 1

def longMax : Nat := 2 ^ 31 - 1

/-- `%d` and `%u` of a number that is not negative. -/
def decimal (n : Nat) : Bytes := (Nat.toDigits 10 n).map fun ch => UInt8.ofNat ch.toNat

/-- `%02x`. -/
def hexByte (b : UInt8) : Bytes :=
  let digit (v : UInt8) : UInt8 := if v < 10 then 48 + v else 87 + v
  [digit (b >>> 4), digit (b &&& 15)]

def digitsValue (digits : Bytes) : Nat :=
  digits.foldl (fun acc b => acc * 10 + (b.toNat - 48)) 0

/-- The sign in front of a number, and what follows it. -/
def readSign : Bytes → Bool × Bytes
  | 45 :: rest => (true, rest)
  | 43 :: rest => (false, rest)
  | rest => (false, rest)

def clampUnsigned (negative : Bool) (v : Nat) : Nat :=
  if ulongMax < v then ulongMax
  else if negative then (2 ^ 32 - v) % 2 ^ 32
  else v

/-- `strtoul(s, NULL, 10)`. -/
def strtoul (s : Bytes) : Nat :=
  let (negative, rest) := readSign (s.dropWhile isSpace)
  clampUnsigned negative (digitsValue (rest.takeWhile isDigit))

/-- `atoi(s)`, which is `strtol` on this target. -/
def atoi (s : Bytes) : Int :=
  let (negative, rest) := readSign (s.dropWhile isSpace)
  let v := digitsValue (rest.takeWhile isDigit)
  if negative then - (min v (longMax + 1) : Nat) else (min v longMax : Nat)

/-- One `%u` of `sscanf`: the value and the input after it. -/
def scanUnsigned (s : Bytes) : Option (Nat × Bytes) :=
  let (negative, rest) := readSign (s.dropWhile isSpace)
  match rest.takeWhile isDigit with
  | [] => none
  | digits => some (clampUnsigned negative (digitsValue digits), rest.dropWhile isDigit)

/-- One `%ns` of `sscanf`: the word, empty if the input has none left, and the
input after it. -/
def scanWord (n : Nat) (s : Bytes) : Bytes × Bytes :=
  let rest := s.dropWhile isSpace
  let word := (rest.takeWhile fun b => !isSpace b).take n
  (word, rest.drop word.length)

/-! ## Numbers in decimal -/

theorem decimal_eq (n : Nat) :
    decimal n =
      if n < 10 then [UInt8.ofNat (48 + n)]
      else decimal (n / 10) ++ [UInt8.ofNat (48 + n % 10)] := by
  have hdigit : ∀ d < 10, UInt8.ofNat (Nat.digitChar d).toNat = UInt8.ofNat (48 + d) := by decide
  unfold decimal
  rw [Nat.toDigits_eq_if (by omega)]
  by_cases h : n < 10
  · rw [if_pos h, if_pos h, List.map_singleton, hdigit n h]
  · rw [if_neg h, if_neg h, List.map_append, List.map_singleton,
      hdigit (n % 10) (Nat.mod_lt n (by omega))]

theorem decimal_isDigit (n : Nat) : ∀ b ∈ decimal n, isDigit b = true := by
  have hdigit : ∀ d < 10, isDigit (UInt8.ofNat (48 + d)) = true := by decide
  induction n using Nat.strongRecOn with
  | ind n ih =>
      intro b hb
      rw [decimal_eq] at hb
      by_cases h : n < 10
      · rw [if_pos h, List.mem_singleton] at hb
        rw [hb]
        exact hdigit n h
      · rw [if_neg h, List.mem_append, List.mem_singleton] at hb
        rcases hb with hb | rfl
        · exact ih (n / 10) (by omega) b hb
        · exact hdigit (n % 10) (Nat.mod_lt n (by omega))

theorem digitsValue_snoc (digits : Bytes) (b : UInt8) :
    digitsValue (digits ++ [b]) = digitsValue digits * 10 + (b.toNat - 48) := by
  simp [digitsValue]

theorem digitsValue_decimal (n : Nat) : digitsValue (decimal n) = n := by
  have hdigit : ∀ d < 10, (UInt8.ofNat (48 + d)).toNat - 48 = d := by decide
  induction n using Nat.strongRecOn with
  | ind n ih =>
      rw [decimal_eq]
      by_cases h : n < 10
      · rw [if_pos h]
        show 0 * 10 + ((UInt8.ofNat (48 + n)).toNat - 48) = n
        rw [hdigit n h]
        omega
      · rw [if_neg h, digitsValue_snoc, ih (n / 10) (by omega),
          hdigit (n % 10) (Nat.mod_lt n (by omega))]
        omega

theorem decimal_ne_nil (n : Nat) : decimal n ≠ [] := by
  rw [decimal_eq]
  split <;> simp

theorem decimal_length_le {n k : Nat} (hk : 0 < k) (h : n < 10 ^ k) : (decimal n).length ≤ k := by
  rw [decimal, List.length_map]
  exact (Nat.length_toDigits_le_iff (by omega) hk).mpr h

theorem isDigit_not_space {b : UInt8} (h : isDigit b = true) :
    isSpace b = false ∧ b ≠ 45 ∧ b ≠ 43 := by
  simp only [isDigit, Bool.and_eq_true, decide_eq_true_eq, UInt8.le_iff_toNat_le] at h
  obtain ⟨hlow, hhigh⟩ := h
  have hlow : 48 ≤ b.toNat := hlow
  refine ⟨?_, ?_, ?_⟩
  · simp [isSpace, UInt8.le_iff_toNat_le, ← UInt8.toNat_inj]
    omega
  · intro hb
    rw [hb] at hlow
    exact absurd hlow (by decide)
  · intro hb
    rw [hb] at hlow
    exact absurd hlow (by decide)

theorem readSign_digit {b : UInt8} (h : isDigit b = true) (rest : Bytes) :
    readSign (b :: rest) = (false, b :: rest) := by
  obtain ⟨-, hminus, hplus⟩ := isDigit_not_space h
  unfold readSign
  split
  · rename_i h
    exact absurd (List.cons.inj h).1 hminus
  · rename_i h
    exact absurd (List.cons.inj h).1 hplus
  · rfl

/-- A number printed with `%u` is read without a sign. -/
theorem readSign_decimal (n : Nat) (rest : Bytes) :
    readSign ((decimal n ++ rest).dropWhile isSpace) = (false, decimal n ++ rest) := by
  obtain ⟨b, digits, hb⟩ := List.exists_cons_of_ne_nil (decimal_ne_nil n)
  have hdigit : isDigit b = true := decimal_isDigit n b (by rw [hb]; exact List.mem_cons_self)
  obtain ⟨hspace, -, -⟩ := isDigit_not_space hdigit
  rw [hb, List.cons_append, List.dropWhile_cons_of_neg (by simp [hspace])]
  exact readSign_digit hdigit _

theorem takeWhile_decimal (n : Nat) {rest : Bytes}
    (hrest : ∀ b, rest.head? = some b → isDigit b = false) :
    (decimal n ++ rest).takeWhile isDigit = decimal n := by
  rw [List.takeWhile_append_of_pos (decimal_isDigit n)]
  cases rest with
  | nil => simp
  | cons c rest => simp [hrest c rfl]

theorem dropWhile_decimal (n : Nat) {rest : Bytes}
    (hrest : ∀ b, rest.head? = some b → isDigit b = false) :
    (decimal n ++ rest).dropWhile isDigit = rest := by
  rw [List.dropWhile_append_of_pos (decimal_isDigit n)]
  cases rest with
  | nil => rfl
  | cons c rest => rw [List.dropWhile_cons_of_neg (by simp [hrest c rfl])]

/-- `strtoul` reads back a number printed with `%u`, whatever follows it. -/
theorem strtoul_decimal {n : Nat} (hn : n ≤ ulongMax) {rest : Bytes}
    (hrest : ∀ b, rest.head? = some b → isDigit b = false) :
    strtoul (decimal n ++ rest) = n := by
  unfold strtoul
  rw [readSign_decimal]
  simp only [takeWhile_decimal n hrest, digitsValue_decimal, clampUnsigned]
  rw [if_neg (by omega)]
  rfl

/-- `%u` reads back a number printed with `%u` and stops behind it. -/
theorem scanUnsigned_decimal {n : Nat} (hn : n ≤ ulongMax) {rest : Bytes}
    (hrest : ∀ b, rest.head? = some b → isDigit b = false) :
    scanUnsigned (decimal n ++ rest) = some (n, rest) := by
  unfold scanUnsigned
  rw [readSign_decimal]
  simp only [takeWhile_decimal n hrest, dropWhile_decimal n hrest]
  split
  · rename_i h
    exact absurd h (decimal_ne_nil n)
  · simp only [digitsValue_decimal, clampUnsigned]
    rw [if_neg (by omega)]
    rfl

theorem clampUnsigned_le (negative : Bool) (v : Nat) : clampUnsigned negative v ≤ ulongMax := by
  unfold clampUnsigned ulongMax
  split
  · omega
  · split <;> omega

theorem scanUnsigned_le {s rest : Bytes} {v : Nat} (h : scanUnsigned s = some (v, rest)) :
    v ≤ ulongMax := by
  unfold scanUnsigned at h
  simp only at h
  split at h
  · cases h
  · cases h
    exact clampUnsigned_le _ _

/-! ## The first occurrence -/

theorem strstr_spec {pat s rest : Bytes} (h : strstr pat s = some rest) :
    rest <:+ s ∧ pat <+: rest := by
  induction s with
  | nil =>
      rw [strstr] at h
      by_cases hp : pat.isEmpty
      · rw [if_pos hp] at h
        cases h
        rw [List.isEmpty_iff.mp hp]
        exact ⟨List.suffix_refl _, List.nil_prefix⟩
      · rw [if_neg hp] at h
        cases h
  | cons c s ih =>
      rw [strstr] at h
      by_cases hp : pat.isPrefixOf (c :: s)
      · rw [if_pos hp] at h
        cases h
        exact ⟨List.suffix_refl _, List.isPrefixOf_iff_prefix.mp hp⟩
      · rw [if_neg hp] at h
        obtain ⟨hsuffix, hpat⟩ := ih h
        exact ⟨hsuffix.trans (List.suffix_cons c s), hpat⟩

/-- What follows the first occurrence does not matter to it. -/
theorem strstr_append {pat s rest : Bytes} (h : strstr pat s = some rest) (t : Bytes) :
    strstr pat (s ++ t) = some (rest ++ t) := by
  induction s with
  | nil =>
      rw [strstr] at h
      by_cases hp : pat.isEmpty = true
      · rw [if_pos hp] at h
        cases h
        rw [List.isEmpty_iff.mp hp]
        cases t <;> rfl
      · rw [if_neg hp] at h
        cases h
  | cons c s ih =>
      rw [strstr] at h
      by_cases hp : pat.isPrefixOf (c :: s) = true
      · rw [if_pos hp] at h
        cases h
        rw [List.cons_append, strstr, if_pos]
        exact List.isPrefixOf_iff_prefix.mpr
          ((List.isPrefixOf_iff_prefix.mp hp).trans (List.prefix_append (c :: s) t))
      · rw [if_neg hp] at h
        have hrest := (strstr_spec h).1.length_le
        have hlen := (strstr_spec h).2.length_le
        rw [List.cons_append, strstr, if_neg, ih h]
        -- an occurrence would end before the one found in `s` does
        intro hp'
        refine hp (List.isPrefixOf_iff_prefix.mpr ?_)
        exact List.prefix_of_prefix_length_le (List.isPrefixOf_iff_prefix.mp hp')
          (List.prefix_append (c :: s) t) (by rw [List.length_cons]; omega)

/-- A text without the first character of the pattern is passed over. -/
theorem strstr_skip {c : UInt8} {pat s : Bytes} (h : c ∉ s) (t : Bytes) :
    strstr (c :: pat) (s ++ t) = strstr (c :: pat) t := by
  induction s with
  | nil => rfl
  | cons b s ih =>
      rw [List.mem_cons, not_or] at h
      rw [List.cons_append, strstr, if_neg, ih h.2]
      intro hp
      exact h.1 (List.cons_prefix_cons.mp (List.isPrefixOf_iff_prefix.mp hp)).1

theorem through_isPrefix {pat s p : Bytes} (h : through pat s = some p) : p <+: s := by
  obtain ⟨rest, -, rfl⟩ := Option.map_eq_some_iff.mp h
  exact List.take_prefix _ _

theorem suffix_of_through {pat s p : Bytes} (h : through pat s = some p) : pat <:+ p := by
  obtain ⟨rest, hrest, rfl⟩ := Option.map_eq_some_iff.mp h
  obtain ⟨⟨before, rfl⟩, after, rfl⟩ := strstr_spec hrest
  refine ⟨before, ?_⟩
  rw [List.length_append, Nat.add_sub_cancel, ← List.length_append, ← List.append_assoc,
    List.take_left]

theorem mem_of_through {pat s p : Bytes} (h : through pat s = some p) {b : UInt8} (hb : b ∈ pat) :
    b ∈ s :=
  (through_isPrefix h).subset ((suffix_of_through h).subset hb)

theorem length_le_of_through {pat s p : Bytes} (h : through pat s = some p) :
    pat.length ≤ p.length := by
  obtain ⟨rest, hrest, rfl⟩ := Option.map_eq_some_iff.mp h
  obtain ⟨hsuffix, hpat⟩ := strstr_spec hrest
  have hle := hsuffix.length_le
  have hle' := hpat.length_le
  rw [List.length_take]
  omega

theorem through_nil {pat : Bytes} (hpat : pat ≠ []) : through pat [] = none := by
  simp [through, strstr, hpat]

/-- The recursion that `strstr` makes. -/
theorem through_cons (pat : Bytes) (c : UInt8) (s : Bytes) :
    through pat (c :: s) =
      if pat <+: c :: s then some pat else (through pat s).map (c :: ·) := by
  unfold through
  rw [strstr]
  by_cases hp : pat <+: c :: s
  · rw [if_pos (List.isPrefixOf_iff_prefix.mpr hp), if_pos hp, Option.map_some, Nat.sub_self,
      Nat.zero_add, ← List.prefix_iff_eq_take.mp hp]
  · rw [if_neg (fun h => hp (List.isPrefixOf_iff_prefix.mp h)), if_neg hp, Option.map_map]
    cases hrest : strstr pat s with
    | none => rfl
    | some rest =>
        have hle := (strstr_spec hrest).1.length_le
        have hlen : (c :: s).length - rest.length + pat.length =
            (s.length - rest.length + pat.length) + 1 := by
          rw [List.length_cons]
          omega
        simp only [Option.map_some, Function.comp_apply, hlen, List.take_succ_cons]

/-- What follows the first occurrence does not matter to it. -/
theorem through_append {pat s p : Bytes} (hpat : pat ≠ []) (h : through pat s = some p)
    (t : Bytes) : through pat (p ++ t) = some p := by
  induction s generalizing p with
  | nil => simp [through_nil hpat] at h
  | cons c s ih =>
      rw [through_cons] at h
      by_cases hp : pat <+: c :: s
      · rw [if_pos hp] at h
        cases h
        cases pat with
        | nil => exact absurd rfl hpat
        | cons b pat =>
            rw [List.cons_append, through_cons, if_pos]
            exact List.prefix_append _ _
      · rw [if_neg hp] at h
        obtain ⟨q, hq, rfl⟩ := Option.map_eq_some_iff.mp h
        have hlen := length_le_of_through hq
        have hnot : ¬ pat <+: c :: (q ++ t) := by
          intro hpre
          -- the occurrence would lie in `c :: q`, hence in `c :: s`
          have hin : pat <+: c :: q := by
            refine List.prefix_of_prefix_length_le hpre ?_ (by rw [List.length_cons]; omega)
            rw [← List.cons_append]
            exact List.prefix_append _ _
          exact hp (hin.trans (List.cons_prefix_cons.mpr ⟨rfl, through_isPrefix hq⟩))
        rw [List.cons_append, through_cons, if_neg hnot, ih hq]
        rfl

/-- A text that begins with what fits is cut after it. -/
theorem snprintf_append {cap : Nat} {a : Bytes} (h : a.length ≤ cap - 1) (b : Bytes) :
    snprintf cap (a ++ b) = a ++ b.take (cap - 1 - a.length) := by
  rw [snprintf, List.take_append, List.take_of_length_le h]

/-! ## Pieces -/

/-- The successive parts of `s` that each end with the first `pat` in them. -/
def piecesLoop (pat : Bytes) : (fuel : Nat) → Bytes → List Bytes
  | 0, _ => []
  | fuel + 1, s =>
    match through pat s with
    | none => []
    | some p => p :: piecesLoop pat fuel (s.drop p.length)

def pieces (pat s : Bytes) : List Bytes := piecesLoop pat s.length s

theorem piecesLoop_fuel {pat : Bytes} (hpat : pat ≠ []) (fuel : Nat) (s : Bytes)
    (h : s.length ≤ fuel) : piecesLoop pat fuel s = pieces pat s := by
  have hpos := List.length_pos_of_ne_nil hpat
  unfold pieces
  generalize hn : s.length = n at h
  induction n using Nat.strongRecOn generalizing fuel s with
  | ind n ih =>
      cases n with
      | zero =>
          rw [List.length_eq_zero_iff.mp hn]
          cases fuel with
          | zero => rfl
          | succ fuel => simp [piecesLoop, through_nil hpat]
      | succ n =>
          obtain ⟨fuel, rfl⟩ : ∃ k, fuel = k + 1 := ⟨fuel - 1, by omega⟩
          rw [piecesLoop, piecesLoop]
          cases hp : through pat s with
          | none => rfl
          | some p =>
              have hlen := length_le_of_through hp
              have hdrop : (s.drop p.length).length = n + 1 - p.length := by
                rw [List.length_drop, hn]
              simp only
              rw [ih _ (by omega) fuel _ hdrop (by omega), ih _ (by omega) n _ hdrop (by omega)]

theorem pieces_of_none {pat s : Bytes} (h : through pat s = none) : pieces pat s = [] := by
  unfold pieces
  cases s.length with
  | zero => rfl
  | succ n => rw [piecesLoop, h]

theorem pieces_append {pat p rest : Bytes} (hpat : pat ≠ []) (h : through pat p = some p) :
    pieces pat (p ++ rest) = p :: pieces pat rest := by
  have hpos := List.length_pos_of_ne_nil hpat
  have hlen := length_le_of_through h
  have hthrough : through pat (p ++ rest) = some p := through_append hpat h rest
  obtain ⟨n, hn⟩ : ∃ n, (p ++ rest).length = n + 1 :=
    ⟨(p ++ rest).length - 1, by rw [List.length_append]; omega⟩
  rw [pieces, hn, piecesLoop, hthrough]
  simp only [List.drop_left]
  rw [piecesLoop_fuel hpat]
  rw [List.length_append] at hn
  omega

theorem pieces_flatten_append {pat rest : Bytes} {ps : List Bytes} (hpat : pat ≠ [])
    (h : ∀ p ∈ ps, through pat p = some p) :
    pieces pat (ps.flatten ++ rest) = ps ++ pieces pat rest := by
  induction ps with
  | nil => rfl
  | cons p ps ih =>
      rw [List.flatten_cons, List.append_assoc, pieces_append hpat (h p (by simp)),
        ih fun q hq => h q (by simp [hq])]
      rfl

theorem head?_pieces {pat : Bytes} (hpat : pat ≠ []) (s : Bytes) :
    (pieces pat s).head? = through pat s := by
  cases hp : through pat s with
  | none => rw [pieces_of_none hp]; rfl
  | some p =>
      obtain ⟨t, rfl⟩ := through_isPrefix hp
      have hself : through pat (p ++ []) = some p := through_append hpat hp []
      rw [List.append_nil] at hself
      rw [pieces_append hpat hself]
      rfl

/-- A proper initial part of a piece holds none. -/
theorem pieces_of_isPrefix {pat p s : Bytes} (hpat : pat ≠ []) (h : through pat p = some p)
    (hs : s <+: p) (hlen : s.length < p.length) : pieces pat s = [] := by
  refine pieces_of_none ?_
  cases hq : through pat s with
  | none => rfl
  | some q =>
      exfalso
      obtain ⟨t, rfl⟩ := (through_isPrefix hq).trans hs
      have hsame := through_append hpat hq t
      rw [h] at hsame
      have hle := (through_isPrefix hq).length_le
      have heq := congrArg List.length (Option.some.inj hsame)
      omega

/-! ## Separators -/

/-- A text is one field, or a first field and what follows its separator. -/
theorem split_cases (sep : UInt8) (l : Bytes) :
    sep ∉ l ∨ ∃ first rest, l = first ++ sep :: rest ∧ sep ∉ first := by
  by_cases h : sep ∈ l
  · exact .inr (List.eq_append_cons_of_mem h)
  · exact .inl h

theorem takeWhile_append_of_not_mem {sep : UInt8} {first : Bytes} (h : sep ∉ first)
    (rest : Bytes) :
    (first ++ rest).takeWhile (· ≠ sep) = first ++ rest.takeWhile (· ≠ sep) := by
  refine List.takeWhile_append_of_pos fun c hc => decide_eq_true ?_
  rintro rfl
  exact h hc

theorem takeWhile_ne_append {sep : UInt8} {first : Bytes} (h : sep ∉ first) (rest : Bytes) :
    (first ++ sep :: rest).takeWhile (· ≠ sep) = first := by
  rw [takeWhile_append_of_not_mem h, List.takeWhile_cons_of_neg (by simp), List.append_nil]

theorem takeWhile_ne_self {sep : UInt8} {l : Bytes} (h : sep ∉ l) :
    l.takeWhile (· ≠ sep) = l := by
  have happend := takeWhile_append_of_not_mem h []
  rwa [List.append_nil, List.takeWhile_nil, List.append_nil] at happend

theorem cString_self {s : Bytes} (h : 0 ∉ s) : cString s = s := takeWhile_ne_self h

theorem cString_append {s : Bytes} (h : 0 ∉ s) (rest : Bytes) :
    cString (s ++ rest) = s ++ cString rest :=
  takeWhile_append_of_not_mem h rest

theorem cString_take (l : Bytes) (n : Nat) : cString (l.take n) = (cString l).take n :=
  List.take_takeWhile.symm

/-- What an array holds when its string is `e`. -/
theorem cString_eq_iff {s e : Bytes} (he : 0 ∉ e) :
    cString s = e ↔ s = e ∨ ∃ more, s = e ++ 0 :: more := by
  constructor
  · rintro rfl
    rcases split_cases 0 s with hs | ⟨first, more, rfl, hfirst⟩
    · exact .inl (cString_self hs).symm
    · exact .inr ⟨more, by rw [cString, takeWhile_ne_append hfirst]⟩
  · rintro (rfl | ⟨more, rfl⟩)
    · exact cString_self he
    · exact takeWhile_ne_append he more

end CLib
end FH8852
